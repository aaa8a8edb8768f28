/-
**What a lexeme takes of a text.**

A lexeme is a gap, a token or a fault. A gap is a blank, or a comment up to the end of its line; a token
takes the characters that it is written with; and a fault arises from what stands at its point.

* `Token.IsWritten`: how tokens are written;
* `IsGap`: the characters that belong to no token;
* `SyntaxFault.Arises`: what stands where a fault is found;
* `taken_lexeme`: **every lexeme takes what it should**.
-/

import Mathlib.Data.List.TakeWhile
import ShellSession.Proofs.Script.Printed

namespace ShellSession.Script

/-! ### How tokens are written -/

/-- Characters between quotation marks and what they mean: a back quote escapes the next character. -/
inductive Quotes : List Char → List Char → Prop
  | nil : Quotes [] []
  | escape {c : Char} {body chars : List Char} :
      Quotes body chars → Quotes ('\x60' :: c :: body) (escaped c :: chars)
  | plain {c : Char} {body chars : List Char} :
      c ≠ '"' → c ≠ '\x60' → Quotes body chars → Quotes (c :: body) (c :: chars)

/-- Characters of a word in front of others, and what they mean: a back quote stands for the next
character, and for nothing at the end of the text. -/
inductive Words (behind : List Char) : List Char → List Char → Prop
  | nil : Words behind [] []
  | unfinished : behind = [] → Words behind ['\x60'] []
  | escape {c : Char} {body chars : List Char} :
      Words behind body chars → Words behind ('\x60' :: c :: body) (c :: chars)
  | plain {c : Char} {body chars : List Char} :
      isWordChar c = true → Words behind body chars → Words behind (c :: body) (c :: chars)

/-- How a token is written in front of other characters. -/
inductive Token.IsWritten (behind : List Char) : Token → List Char → Prop
  | reference {name : List Char} : name ≠ [] → (∀ c ∈ name, Text.isNameChar c = true) →
      IsWritten behind (.reference (String.ofList name)) ('$' :: name)
  | int {digits : List Char} {number : Int64} : digits ≠ [] → (∀ c ∈ digits, c.isDigit = true) →
      number.toInt = Nat.ofDigitChars 10 digits 0 → IsWritten behind (.int number) digits
  | float {whole fraction : List Char} {number : Float} : whole ≠ [] → fraction ≠ [] →
      (∀ c ∈ whole ++ fraction, c.isDigit = true) →
      Decimal.readFloat (whole ++ '.' :: fraction) = some number →
        IsWritten behind (.float number) (whole ++ '.' :: fraction)
  | verbatim (chars : List Char) :
      IsWritten behind (.text (String.ofList chars)) ('\'' :: (doubleApostrophes chars ++ ['\'']))
  | escaped {body chars : List Char} : Quotes body chars →
      IsWritten behind (.text (String.ofList chars)) ('"' :: (body ++ ['"']))
  | word {c : Char} {body chars : List Char} : startsWord c = true → Words behind (c :: body) chars →
      IsWritten behind (.word (String.ofList chars)) (c :: body)
  | parameter {c : Char} {name : List Char} : Text.isLetter c = true →
      (∀ b ∈ name, Text.isNameChar b = true) →
        IsWritten behind (.parameter (String.ofList (c :: name))) ('-' :: c :: name)
  | assign : IsWritten behind (.assign none) ['=']
  | compound (sign : Operator) : IsWritten behind (.assign (some sign)) (sign.symbol.toList ++ ['='])
  | operator (sign : Operator) : IsWritten behind (.operator sign) sign.symbol.toList
  | opening : IsWritten behind .opening ['(']
  | closing : IsWritten behind .closing [')']
  | pipe : IsWritten behind .pipe ['|']
  | comma : IsWritten behind .comma [',']
  | lineEnd : IsWritten behind .separator ['\n']
  | semicolon : IsWritten behind .separator [';']

/-- Characters in front of others that belong to no token: a blank, or a comment up to the end of its
line. -/
inductive IsGap (behind : List Char) : List Char → Prop
  | blank {c : Char} : c = ' ' ∨ c = '\t' ∨ c = '\r' → IsGap behind [c]
  | comment {chars : List Char} : '\n' ∉ chars → (∀ c ∈ behind.head?, c = '\n') →
      IsGap behind ('#' :: chars)

/-- What stands where a fault is found: a dollar sign without a name, a whole number that is too large, a
mark whose text is not closed before the end, or a character that begins nothing. -/
inductive SyntaxFault.Arises : SyntaxFault → List Char → Prop
  | nameExpected {rest : List Char} : (∀ c ∈ rest.head?, Text.isNameChar c = false) →
      Arises .nameExpected ('$' :: rest)
  | integerTooLarge {digits rest : List Char} : digits ≠ [] → (∀ c ∈ digits, c.isDigit = true) →
      2 ^ 63 ≤ Nat.ofDigitChars 10 digits 0 → (∀ c ∈ rest.head?, c.isDigit = false) →
      (∀ c fraction, rest = '.' :: c :: fraction → c.isDigit = false) →
        Arises (.integerTooLarge (String.ofList digits)) (digits ++ rest)
  | apostrophe (chars : List Char) : Arises .unclosedQuote ('\'' :: doubleApostrophes chars)
  | quotationMark {body chars : List Char} : Quotes body chars → Arises .unclosedQuote ('"' :: body)
  | unfinished {body chars : List Char} : Quotes body chars →
      Arises .unclosedQuote ('"' :: (body ++ ['\x60']))
  | strayCharacter {c : Char} {rest : List Char} :
      (∀ behind token chars, ¬ Token.IsWritten behind token (c :: chars)) →
      (∀ behind chars, ¬ IsGap behind (c :: chars)) → Arises (.strayCharacter c) (c :: rest)

/-- What a lexeme, with the number of characters behind its first one, takes of a text. -/
inductive Taken (c : Char) (rest : List Char) : Lexeme × Nat → Prop
  | gap {chars behind : List Char} : rest = chars ++ behind → IsGap behind (c :: chars) →
      Taken c rest (.gap, chars.length)
  | token {token : Token} {chars behind : List Char} : rest = chars ++ behind →
      token.IsWritten behind (c :: chars) → Taken c rest (.token token, chars.length)
  | fault {fault : SyntaxFault} {count : Nat} : fault.Arises (c :: rest) →
      Taken c rest (.fault fault, count)

variable {c : Char} {rest chars : List Char}

/-! ### Names -/

/-- Behind the characters of one kind stands none of them. -/
theorem not_head?_dropWhile (kind : Char → Bool) (cs : List Char) :
    ∀ c ∈ (cs.dropWhile kind).head?, kind c = false := by
  intro c found
  have next := List.head?_dropWhile_not kind cs
  rwa [Option.mem_def.mp found] at next

theorem taken_reference (rest : List Char) : Taken '$' rest
    (if (rest.takeWhile Text.isNameChar).isEmpty then (.fault .nameExpected, 0)
      else (.token (.reference (String.ofList (rest.takeWhile Text.isNameChar))),
        (rest.takeWhile Text.isNameChar).length)) := by
  by_cases none : (rest.takeWhile Text.isNameChar).isEmpty
  · rw [if_pos none]
    refine .fault (.nameExpected ?_)
    have whole := List.takeWhile_append_dropWhile (p := Text.isNameChar) (l := rest)
    rw [List.isEmpty_iff.mp none] at whole
    rw [← whole]
    exact not_head?_dropWhile _ _
  · rw [if_neg none]
    refine .token List.takeWhile_append_dropWhile.symm (.reference ?_ fun _ => List.mem_takeWhile_imp)
    exact fun empty => none (List.isEmpty_iff.mpr empty)

theorem taken_operator {sign : Operator} (same : sign.symbol.toList = [c]) (rest : List Char) :
    Taken c rest (operator sign rest) := by
  unfold operator
  split
  · next behind =>
    have written := @Token.IsWritten.compound behind sign
    rw [same] at written
    exact @Taken.token _ _ _ ['='] behind rfl written
  · have written := @Token.IsWritten.operator rest sign
    rw [same] at written
    exact @Taken.token _ _ _ [] rest rfl written

theorem taken_dash (rest : List Char) : Taken '-' rest (dash rest) := by
  unfold dash
  cases rest with
  | nil => exact taken_operator rfl []
  | cons c rest =>
    dsimp only
    by_cases letter : Text.isLetter c = true
    · rw [if_pos letter]
      have name : Text.isNameChar c = true := by simp [Text.isNameChar, letter]
      refine .token List.takeWhile_append_dropWhile.symm ?_
      rw [List.takeWhile_cons_of_pos name]
      exact .parameter letter fun _ => List.mem_takeWhile_imp
    · rw [if_neg letter]
      exact taken_operator rfl _

/-! ### Texts -/

theorem doubleApostrophes_cons (other : c ≠ '\'') (chars : List Char) :
    doubleApostrophes (c :: chars) = c :: doubleApostrophes chars :=
  if_neg other

/-- A text behind an apostrophe goes to the next single one, or to the end. -/
theorem verbatimText_takes (cs : List Char) :
    match verbatimText cs with
    | some (chars, count) => ∃ behind, cs = doubleApostrophes chars ++ '\'' :: behind ∧
        count = (doubleApostrophes chars).length + 1
    | none => ∃ chars, cs = doubleApostrophes chars := by
  fun_induction verbatimText cs with
  | case1 => exact ⟨[], rfl⟩
  | case2 rest ih =>
    cases read : verbatimText rest with
    | none =>
      rw [read] at ih
      obtain ⟨chars, rfl⟩ := ih
      exact ⟨'\'' :: chars, rfl⟩
    | some found =>
      rw [read] at ih
      obtain ⟨behind, rfl, same⟩ := ih
      exact ⟨behind, rfl, congrArg (· + 2) same⟩
  | case3 next rest _ => exact ⟨next :: rest, rfl, rfl⟩
  | case4 => exact ⟨[], rfl, rfl⟩
  | case5 c rest other ih =>
    cases read : verbatimText rest with
    | none =>
      rw [read] at ih
      obtain ⟨chars, rfl⟩ := ih
      exact ⟨c :: chars, (doubleApostrophes_cons other chars).symm⟩
    | some found =>
      rw [read] at ih
      obtain ⟨behind, rfl, same⟩ := ih
      refine ⟨behind, ?_, ?_⟩ <;> rw [doubleApostrophes_cons other]
      · rfl
      · exact congrArg (· + 1) same

/-- A text behind a quotation mark goes to the next one that is not escaped, or to the end. -/
theorem escapedText_takes (cs : List Char) :
    match escapedText cs with
    | some (chars, count) => ∃ body behind, cs = body ++ '"' :: behind ∧ count = body.length + 1 ∧
        Quotes body chars
    | none => ∃ body chars, (cs = body ∨ cs = body ++ ['\x60']) ∧ Quotes body chars := by
  fun_induction escapedText cs with
  | case1 => exact ⟨[], [], .inl rfl, .nil⟩
  | case2 rest => exact ⟨[], rest, rfl, rfl, .nil⟩
  | case3 => exact ⟨[], [], .inr rfl, .nil⟩
  | case4 c rest _ ih =>
    cases read : escapedText rest with
    | none =>
      rw [read] at ih
      obtain ⟨body, chars, rfl | rfl, quotes⟩ := ih
      · exact ⟨_, _, .inl rfl, quotes.escape⟩
      · exact ⟨_, _, .inr rfl, quotes.escape⟩
    | some found =>
      rw [read] at ih
      obtain ⟨body, behind, rfl, same, quotes⟩ := ih
      exact ⟨'\x60' :: c :: body, behind, rfl, congrArg (· + 2) same, quotes.escape⟩
  | case5 c rest other bare ih =>
    cases read : escapedText rest with
    | none =>
      rw [read] at ih
      obtain ⟨body, chars, rfl | rfl, quotes⟩ := ih
      · exact ⟨_, _, .inl rfl, quotes.plain other bare⟩
      · exact ⟨_, _, .inr rfl, quotes.plain other bare⟩
    | some found =>
      rw [read] at ih
      obtain ⟨body, behind, rfl, same, quotes⟩ := ih
      exact ⟨c :: body, behind, rfl, congrArg (· + 1) same, quotes.plain other bare⟩

theorem taken_verbatim (rest : List Char) : Taken '\'' rest (quotedLexeme (verbatimText rest)) := by
  have takes := verbatimText_takes rest
  cases read : verbatimText rest with
  | none =>
    rw [read] at takes
    obtain ⟨chars, rfl⟩ := takes
    exact .fault (.apostrophe chars)
  | some found =>
    rw [read] at takes
    obtain ⟨chars, count⟩ := found
    obtain ⟨behind, rfl, rfl⟩ := takes
    have token := @Taken.token '\'' _ _ _ behind rfl (.verbatim chars)
    rwa [List.append_assoc, List.length_append] at token

theorem taken_escaped (rest : List Char) : Taken '"' rest (quotedLexeme (escapedText rest)) := by
  have takes := escapedText_takes rest
  cases read : escapedText rest with
  | none =>
    rw [read] at takes
    obtain ⟨body, chars, rfl | rfl, quotes⟩ := takes
    · exact .fault (.quotationMark quotes)
    · exact .fault (.unfinished quotes)
  | some found =>
    rw [read] at takes
    obtain ⟨chars, count⟩ := found
    obtain ⟨body, behind, rfl, rfl, quotes⟩ := takes
    have token := @Taken.token '"' _ _ _ behind rfl (.escaped quotes)
    rwa [List.append_assoc, List.length_append] at token

/-! ### Words -/

/-- The codes of the blanks. -/
def blankCodes : List Nat :=
  [9, 10, 11, 12, 13, 32, 133, 160, 5760, 8192, 8193, 8194, 8195, 8196, 8197, 8198, 8199, 8200, 8201,
    8202, 8232, 8233, 8239, 8287, 12288]

theorem mem_blankCodes (blank : Text.isBlank c = true) : c.toNat ∈ blankCodes := by
  simp only [Text.isBlank, Bool.or_eq_true, Bool.and_eq_true, decide_eq_true_eq, beq_iff_eq] at blank
  simp only [blankCodes, List.mem_cons, List.not_mem_nil, or_false]
  omega

/-- No blank begins a word. -/
theorem not_startsWord_blank (blank : Text.isBlank c = true) : startsWord c = false := by
  have none : ∀ code ∈ blankCodes, startsWord (Char.ofNat code) = false := by decide +kernel
  rw [← Char.ofNat_toNat c]
  exact none _ (mem_blankCodes blank)

/-- What begins a word does not end it. -/
theorem not_endsWord (starts : startsWord c = true) : endsWord c = false := by
  have other : ∀ b : Char, startsWord b = false → c ≠ b := by
    rintro b none rfl
    exact Bool.false_ne_true (none.symm.trans starts)
  have solid : Text.isBlank c = false := by
    cases blank : Text.isBlank c with
    | false => rfl
    | true => exact absurd starts (by rw [not_startsWord_blank blank]; exact Bool.false_ne_true)
  simp only [endsWord, solid, Bool.false_or, List.contains_eq_mem, decide_eq_false_iff_not,
    List.mem_cons, List.not_mem_nil, or_false, not_or]
  exact ⟨other _ (by decide), other _ (by decide), other _ (by decide), other _ (by decide),
    other _ (by decide), other _ (by decide), other _ (by decide)⟩

/-- A word goes as far as a character that ends it, or to the end. -/
theorem word_takes (cs : List Char) : ∃ body behind, cs = body ++ behind ∧
    (word cs).2 = body.length ∧ Words behind body (word cs).1 := by
  fun_induction word cs with
  | case1 => exact ⟨[], [], rfl, rfl, .nil⟩
  | case2 => exact ⟨['\x60'], [], rfl, rfl, .unfinished rfl⟩
  | case3 c rest chars count read ih =>
    rw [read] at ih
    obtain ⟨body, behind, rfl, same, words⟩ := ih
    exact ⟨'\x60' :: c :: body, behind, rfl, congrArg (· + 2) same, words.escape⟩
  | case4 c rest _ _ => exact ⟨[], c :: rest, rfl, rfl, .nil⟩
  | case5 c rest bare goes chars count read ih =>
    rw [read] at ih
    obtain ⟨body, behind, rfl, same, words⟩ := ih
    exact ⟨c :: body, behind, rfl, congrArg (· + 1) same,
      words.plain (isWordChar_iff.mpr ⟨bare, Bool.eq_false_iff.mpr goes⟩)⟩

/-- A word has a character at least. -/
theorem word_pos (starts : startsWord c = true) (rest : List Char) : 0 < (word (c :: rest)).2 := by
  by_cases quote : c = '\x60'
  · subst quote
    cases rest with
    | nil => exact Nat.one_pos
    | cons next rest =>
      rw [word_quote]
      exact Nat.succ_pos _
  · rw [word_cons rest quote (not_endsWord starts)]
    exact Nat.succ_pos _

theorem taken_word (starts : startsWord c = true) (rest : List Char) : Taken c rest
    (.token (.word (String.ofList (word (c :: rest)).1)), (word (c :: rest)).2 - 1) := by
  obtain ⟨body, behind, same, count, words⟩ := word_takes (c :: rest)
  cases body with
  | nil => exact absurd (word_pos starts rest) (by simp [count])
  | cons b body =>
    obtain ⟨rfl, rfl⟩ := List.cons.inj same
    rw [count]
    exact .token rfl (.word starts words)

/-! ### Numbers -/

/-- A natural number that is none of 64 bits is too large. -/
theorem le_of_toInt64? {n : Nat} (none : Decimal.toInt64? n = none) : 2 ^ 63 ≤ n := by
  unfold Decimal.toInt64? at none
  split at none
  · cases none
  · next other =>
    rw [Decimal.fitsInt64_iff] at other
    omega

/-- A literal with digits on both sides of its point is read as what they come to. -/
theorem readFloat_literal {whole fraction : List Char} (nonempty : whole ≠ [])
    (all : ∀ c ∈ whole, c.isDigit = true) (all' : ∀ c ∈ fraction, c.isDigit = true) :
    Decimal.readFloat (whole ++ '.' :: fraction) = some (Decimal.signedFloat false
      (Decimal.scaledBits (Decimal.digitsValue (whole ++ fraction)) (-fraction.length))) := by
  have mantissa : Decimal.readMantissa (whole ++ '.' :: fraction) =
      some (Decimal.digitsValue (whole ++ fraction), -(fraction.length : Int)) := by
    obtain ⟨front, behind⟩ := @takeWhile_until whole _ ('.' :: fraction) all (by simp)
    obtain ⟨digits, none⟩ := @takeWhile_until fraction _ [] all' nofun
    rw [List.append_nil] at digits none
    simp only [Decimal.readMantissa, front, behind, digits, none]
    rw [if_neg (by simp [nonempty])]
  have magnitude : Decimal.readMagnitude (whole ++ '.' :: fraction) =
      some (Decimal.scaledBits (Decimal.digitsValue (whole ++ fraction)) (-fraction.length)) := by
    simp only [Decimal.readMagnitude, mantissa]
  obtain ⟨digit, others, rfl⟩ := List.exists_cons_of_ne_nil nonempty
  have first := all digit List.mem_cons_self
  unfold Decimal.readFloat
  split
  · next same => exact absurd first (by rw [(List.cons.inj same).1]; decide)
  · next same => exact absurd first (by rw [(List.cons.inj same).1]; decide)
  · rw [magnitude]
    rfl

theorem taken_intLexeme {digit : Char} {digits behind : List Char} (first : digit.isDigit = true)
    (all : ∀ c ∈ digits, c.isDigit = true) (ends : ∀ c ∈ behind.head?, c.isDigit = false)
    (whole : ∀ c fraction, behind = '.' :: c :: fraction → c.isDigit = false) :
    Taken digit (digits ++ behind) (intLexeme (digit :: digits), digits.length) := by
  have every : ∀ c ∈ digit :: digits, c.isDigit = true := List.forall_mem_cons.mpr ⟨first, all⟩
  unfold intLexeme
  rw [Decimal.digitsValue_eq_ofDigitChars]
  cases value : Decimal.toInt64? (Nat.ofDigitChars 10 (digit :: digits) 0 : Nat) with
  | none =>
    exact .fault (.integerTooLarge (List.cons_ne_nil _ _) every (le_of_toInt64? value) ends whole)
  | some number =>
    exact .token rfl (.int (List.cons_ne_nil _ _) every (Decimal.toInt64?_eq_some_iff.mp value))

theorem taken_floatLexeme {digit : Char} {whole fraction : List Char} (first : digit.isDigit = true)
    (all : ∀ c ∈ whole, c.isDigit = true) (some : fraction ≠ [])
    (all' : ∀ c ∈ fraction, c.isDigit = true) (behind : List Char) :
    Taken digit (whole ++ '.' :: (fraction ++ behind))
      (floatLexeme (digit :: whole) fraction, whole.length + 1 + fraction.length) := by
  have every : ∀ c ∈ digit :: whole, c.isDigit = true := List.forall_mem_cons.mpr ⟨first, all⟩
  have literal := readFloat_literal (List.cons_ne_nil _ _) every all'
  have token := @Taken.token digit (whole ++ '.' :: (fraction ++ behind)) _ (whole ++ '.' :: fraction)
    behind (by simp) (.float (List.cons_ne_nil _ _) some
      (fun c found => (List.mem_append.mp found).elim (every c) (all' c)) literal)
  rwa [List.length_append, List.length_cons, Nat.add_comm fraction.length, ← Nat.add_assoc] at token

theorem taken_number {digit : Char} (first : digit.isDigit = true) (rest : List Char) :
    Taken digit rest (number digit rest) := by
  have split := List.takeWhile_append_dropWhile (p := Char.isDigit) (l := rest)
  have all : ∀ c ∈ rest.takeWhile Char.isDigit, c.isDigit = true := fun _ => List.mem_takeWhile_imp
  have ends := not_head?_dropWhile Char.isDigit rest
  unfold number
  generalize rest.takeWhile Char.isDigit = whole at *
  generalize rest.dropWhile Char.isDigit = behind at *
  subst split
  split
  · next behind =>
    -- Behind a point the digits of a fraction follow, if there are any.
    have split := List.takeWhile_append_dropWhile (p := Char.isDigit) (l := behind)
    have all' : ∀ c ∈ behind.takeWhile Char.isDigit, c.isDigit = true := fun _ => List.mem_takeWhile_imp
    have ends' := not_head?_dropWhile Char.isDigit behind
    generalize behind.takeWhile Char.isDigit = fraction at *
    generalize behind.dropWhile Char.isDigit = after at *
    subst split
    cases fraction with
    | nil =>
      refine taken_intLexeme first all ends fun c fraction same => ends' c ?_
      rw [show after = c :: fraction from (List.cons.inj same).2]
      rfl
    | cons c fraction => exact taken_floatLexeme first all (List.cons_ne_nil _ _) all' after
  · next other =>
    exact taken_intLexeme first all ends fun c fraction same => absurd same (other _)

/-! ### Lexemes -/

theorem Taken.ite {p : Prop} [Decidable p] {a b : Lexeme × Nat} (first : p → Taken c rest a)
    (second : ¬ p → Taken c rest b) : Taken c rest (if p then a else b) := by
  split
  · exact first ‹_›
  · exact second ‹_›

/-- The characters that tokens begin with, other than digits and those of words. -/
def marks : List Char :=
  ['\n', ';', '$', '\'', '"', '-', '+', '*', '=', '(', ')', '|', ',']

/-- The sign of an operator is one character. -/
theorem exists_symbol (sign : Operator) :
    ∃ c, sign.symbol.toList = [c] ∧ (startsWord c = true ∨ c ∈ marks) := by
  cases sign with
  | add => exact ⟨'+', rfl, .inr (by decide)⟩
  | sub => exact ⟨'-', rfl, .inr (by decide)⟩
  | mul => exact ⟨'*', rfl, .inr (by decide)⟩
  | div => exact ⟨'/', rfl, .inl (by decide)⟩

/-- What a token begins with. -/
theorem Token.IsWritten.begins {behind : List Char} {token : Token}
    (written : token.IsWritten behind (c :: chars)) :
    c.isDigit = true ∨ startsWord c = true ∨ c ∈ marks := by
  generalize same : c :: chars = taken at written
  cases written with
  | int _ all _ => exact .inl (all c (same ▸ List.mem_cons_self))
  | @float whole fraction _ nonempty _ all _ =>
    obtain ⟨digit, others, rfl⟩ := List.exists_cons_of_ne_nil nonempty
    obtain ⟨rfl, _⟩ := List.cons.inj same
    exact .inl (all c List.mem_cons_self)
  | word starts _ =>
    obtain ⟨rfl, _⟩ := List.cons.inj same
    exact .inr (.inl starts)
  | compound sign =>
    obtain ⟨mark, symbol, begins⟩ := exists_symbol sign
    rw [symbol] at same
    obtain ⟨rfl, _⟩ := List.cons.inj same
    exact .inr begins
  | operator sign =>
    obtain ⟨mark, symbol, begins⟩ := exists_symbol sign
    rw [symbol] at same
    obtain ⟨rfl, _⟩ := List.cons.inj same
    exact .inr begins
  | _ =>
    obtain ⟨rfl, _⟩ := List.cons.inj same
    exact .inr (.inr (by decide))

/-- A comment goes up to the end of its line. -/
theorem taken_comment (rest : List Char) :
    Taken '#' rest (.gap, (rest.takeWhile (· ≠ '\n')).length) := by
  have split := List.takeWhile_append_dropWhile (p := (· ≠ '\n')) (l := rest)
  refine .gap split.symm (.comment (fun inside => ?_) fun c found => ?_)
  · simpa using List.mem_takeWhile_imp inside
  · simpa using not_head?_dropWhile (· ≠ '\n') rest c found

/-- **Every lexeme takes what it should**: by the characters that it can begin with. -/
theorem taken_lexeme (afterValue : Bool) (c : Char) (rest : List Char) :
    Taken c rest (lexeme afterValue c rest) := by
  have one : ∀ {token}, token.IsWritten rest [c] → Taken c rest (.token token, 0) := .token rfl
  unfold lexeme
  refine .ite (fun blank => .gap rfl (.blank blank)) fun noBlank => ?_
  refine .ite (fun same => same ▸ taken_comment rest) fun noComment => ?_
  refine .ite (fun separates => ?_) fun noSeparator => ?_
  · rcases separates with rfl | rfl
    · exact one .lineEnd
    · exact one .semicolon
  refine .ite (fun same => same ▸ taken_reference rest) fun noReference => ?_
  refine .ite (fun digit => taken_number digit rest) fun noDigit => ?_
  refine .ite (fun same => same ▸ taken_verbatim rest) fun noApostrophe => ?_
  refine .ite (fun same => same ▸ taken_escaped rest) fun noQuotationMark => ?_
  refine .ite (fun same => same ▸ taken_dash rest) fun noDash => ?_
  refine .ite (fun same => taken_operator (by rw [same]; rfl) rest) fun noPlus => ?_
  refine .ite (fun same => taken_operator (by rw [same]; rfl) rest) fun noStar => ?_
  refine .ite (fun divides => taken_operator (by rw [divides.1]; rfl) rest) fun _ => ?_
  refine .ite (fun same => one (same ▸ .assign)) fun noEquals => ?_
  refine .ite (fun same => one (same ▸ .opening)) fun noOpening => ?_
  refine .ite (fun same => one (same ▸ .closing)) fun noClosing => ?_
  refine .ite (fun same => one (same ▸ .pipe)) fun noPipe => ?_
  refine .ite (fun same => one (same ▸ .comma)) fun noComma => ?_
  refine .ite (fun starts => taken_word starts rest) fun noWord => ?_
  refine .fault (.strayCharacter (fun behind token chars written => ?_) fun behind chars gap => ?_)
  · rcases written.begins with digit | starts | mark
    · exact noDigit digit
    · exact noWord starts
    · simp only [marks, List.mem_cons, List.not_mem_nil, or_false] at mark
      grind
  · generalize same : c :: chars = taken at gap
    cases gap with
    | blank blank => exact noBlank ((List.cons.inj same).1 ▸ blank)
    | comment _ _ => exact noComment (List.cons.inj same).1

end ShellSession.Script

/-
**Pipelines printed and read again.**

A pipeline of commands is printed as a script, and the script is read as one statement that calls the same
commands with the same arguments in the same order. Texts are printed between apostrophes, whatever
characters they have, and a negative number as a dash in front of its digits. Every part is printed behind
a blank, so that what is read of it ends where it was printed to.

* `Pipeline.IsPrintable`: the pipelines whose parts are read as what they are;
* `Stage.segment`: the call that a command is read as;
* `Printed`: characters that are read as tokens of some kind, wherever they stand;
* `isWord_iff`: how a name that is one word is written;
* `printed_parameter`, `printed_stage`: parameters and commands are read as arguments and calls;
* `read_display`: **what a printed pipeline is read as**.
-/

import ShellSession.Pipeline
import ShellSession.Proofs.Decimal.Numeral
import ShellSession.Proofs.Script.Naming

namespace ShellSession

open Script

/-! ### Pipelines that can be printed -/

/-- Whether a value is printed as a literal of it: a text, or a whole number other than the least. -/
def Value.isPrintable : Value → Bool
  | .text _ => true
  | .int number => number ≠ Int64.minValue
  | _ => false

namespace Parameter

/-- Whether a dash in front of a name makes it a parameter: a letter, and then letters, numerals and
underscores. -/
def isName (name : String) : Bool :=
  match name.toList with
  | [] => false
  | c :: rest => Text.isLetter c && rest.all Text.isNameChar

/-- Whether a parameter is printed as one. -/
def isPrintable : Parameter → Bool
  | named name value => isName name && value.isPrintable
  | switch name => isName name
  | positional value => value.isPrintable

/-- Whether a parameter is a value alone. -/
def isPositional : Parameter → Bool
  | positional _ => true
  | _ => false

/-- Whether a parameter has no value, so that it would take one that stands behind it. -/
def isSwitch : Parameter → Bool
  | switch _ => true
  | _ => false

/-- Whether no switch has a value directly behind it. -/
def keepApart : List Parameter → Bool
  | [] => true
  | parameter :: rest =>
    !(parameter.isSwitch && rest.head?.any isPositional) && keepApart rest

end Parameter

/-- A name without back quotes that is one word to a reader. -/
def Script.IsWord (name : String) : Prop :=
  '\x60' ∉ name.toList ∧ ∃ finish, scan name = .ok ⟨[⟨.word name, .start⟩], finish⟩

/-- A stage that is printed as what it is: a command whose name is one word, with parameters that are read
as what they are. -/
inductive Stage.IsPrintable : Stage → Prop
  | command {name : String} {parameters : List Parameter} (word : IsWord name)
      (each : ∀ parameter ∈ parameters, parameter.isPrintable = true)
      (apart : Parameter.keepApart parameters = true) : IsPrintable (.command name parameters)

/-- A pipeline that is printed as what it is: commands, of which the first is not the word that raises an
error. -/
structure Pipeline.IsPrintable (pipeline : Pipeline) : Prop where
  stages : ∀ stage ∈ pipeline.stages, stage.IsPrintable
  first : ∀ stage ∈ pipeline.stages.head?, Text.sameName stage.text "throw" = false

/-! ### What they are read as -/

/-- The expression that a value is read as, a negative number being the negative of a literal. -/
def Value.expr : Value → Expr
  | .int number =>
    if number.toInt < 0 then .negate (.literal (.int (-number))) else .literal (.int number)
  | value => .literal value

/-- The argument that a parameter is read as. -/
def Parameter.argument : Parameter → Argument
  | named name value => .named name (some value.expr)
  | switch name => .named name none
  | positional value => .positional value.expr

/-- The segment that a stage is read as, if it is a command. -/
def Stage.segment (stage : Stage) : Segment :=
  .call stage.text (stage.parameters.map Parameter.argument)

namespace Script

/-! ### Rows of tokens wherever they stand -/

/-- Whether what is read ends in front of these characters: at the end, or at a blank. -/
def breaksOff : List Char → Bool
  | [] => true
  | c :: _ => c = ' '

theorem breaksOff_append {chars rest : List Char} (front : breaksOff chars = true)
    (behind : breaksOff rest = true) : breaksOff (chars ++ rest) = true := by
  cases chars with
  | nil => exact behind
  | cons c chars => exact front

/-- A row of tokens in front of the others. -/
def Tokens.append (row : List Placed) (scanned : Tokens) : Tokens :=
  ⟨row ++ scanned.tokens, scanned.finish⟩

theorem map_append_append (front back : List Placed) (scanned : Except SyntaxError Tokens) :
    (scanned.map (Tokens.append back)).map (Tokens.append front) =
      scanned.map (Tokens.append (front ++ back)) := by
  cases scanned with
  | error error => rfl
  | ok scanned => exact congrArg Except.ok (congrArg (Tokens.mk · _) (List.append_assoc _ _ _).symm)

/-- Characters that are read, wherever they stand in front of a blank or the end, as a row of tokens of
some kind, given the place that they begin at. -/
def Printed (afterValue : Bool) (chars : List Char) (kind : Place → List Placed → Prop) : Prop :=
  ∀ place, ∃ row behind ended, kind place row ∧ ∀ rest, breaksOff rest = true →
    scanFrom place afterValue 0 (chars ++ rest) =
      (scanFrom behind ended 0 rest).map (Tokens.append row)

variable {afterValue : Bool} {chars others : List Char} {seen : Token} {c : Char}
  {kind further : Place → List Placed → Prop}

/-- A token at a point where no lexeme has begun, and what stands behind it. -/
theorem scanFrom_token {rest : List Char} (place : Place)
    (found : lexeme afterValue c (chars ++ rest) = (.token seen, chars.length)) :
    scanFrom place afterValue 0 (c :: (chars ++ rest)) =
      (scanFrom ((c :: chars).foldl Place.after place) seen.endsValue 0 rest).map
        (Tokens.append [⟨seen, place⟩]) := by
  rw [scanFrom_zero, found]
  exact congrArg (Except.map (Tokens.append [⟨seen, place⟩])) (scanFrom_skip chars rest _ _)

/-- A blank is passed over. -/
theorem scanFrom_blank (place : Place) (rest : List Char) :
    scanFrom place afterValue 0 (' ' :: rest) = scanFrom (place.after ' ') afterValue 0 rest := by
  rw [scanFrom_zero]
  rfl

namespace Printed

/-- Nothing at all. -/
theorem nil (empty : ∀ place, kind place []) : Printed afterValue [] kind := by
  intro place
  refine ⟨[], place, afterValue, empty place, fun rest _ => ?_⟩
  cases scanned : scanFrom place afterValue 0 rest <;> rw [List.nil_append, scanned] <;> rfl

/-- A token. -/
theorem token (found : ∀ rest, breaksOff rest = true →
    lexeme afterValue c (chars ++ rest) = (.token seen, chars.length))
    (one : ∀ place, kind place [⟨seen, place⟩]) : Printed afterValue (c :: chars) kind :=
  fun place => ⟨_, _, _, one place, fun rest breaks => scanFrom_token place (found rest breaks)⟩

/-- A blank in front. -/
theorem blank (printed : Printed afterValue chars kind) :
    Printed afterValue (' ' :: chars) fun place => kind (place.after ' ') := by
  intro place
  obtain ⟨row, behind, ended, known, scans⟩ := printed (place.after ' ')
  refine ⟨row, behind, ended, known, fun rest breaks => ?_⟩
  rw [← scans rest breaks]
  exact scanFrom_blank place (chars ++ rest)

/-- A row behind another one. -/
theorem append (first : Printed afterValue chars kind)
    (second : ∀ afterValue, Printed afterValue others further) (breaks : breaksOff others = true) :
    Printed afterValue (chars ++ others) fun place row =>
      ∃ front back between, row = front ++ back ∧ kind place front ∧ further between back := by
  intro place
  obtain ⟨front, between, passed, known, scans⟩ := first place
  obtain ⟨back, behind, ended, other, continues⟩ := second passed between
  refine ⟨front ++ back, behind, ended, ⟨front, back, between, rfl, known, other⟩, fun rest last => ?_⟩
  rw [List.append_assoc, scans _ (breaksOff_append breaks last), continues rest last, map_append_append]

theorem mono (printed : Printed afterValue chars kind)
    (wider : ∀ place row, kind place row → further place row) : Printed afterValue chars further := by
  intro place
  obtain ⟨row, behind, ended, known, scans⟩ := printed place
  exact ⟨row, behind, ended, wider place row known, scans⟩

end Printed

/-! ### Values -/

/-- What is read of a text between apostrophes is the text. -/
theorem verbatimText_doubled (chars : List Char) {rest : List Char} (breaks : breaksOff rest = true) :
    verbatimText (doubleApostrophes chars ++ '\'' :: rest) =
      some (chars, (doubleApostrophes chars).length + 1) := by
  induction chars with
  | nil =>
    show verbatimText ('\'' :: rest) = _
    unfold verbatimText
    rw [if_pos rfl]
    cases rest with
    | nil => rfl
    | cons next rest =>
      have blank : next = ' ' := of_decide_eq_true breaks
      subst blank
      rfl
  | cons c chars ih =>
    unfold doubleApostrophes
    by_cases quote : c = '\''
    · subst quote
      rw [if_pos rfl]
      show verbatimText ('\'' :: '\'' :: (doubleApostrophes chars ++ '\'' :: rest)) = _
      unfold verbatimText
      rw [if_pos rfl]
      dsimp only
      rw [if_pos rfl, ih]
      rfl
    · rw [if_neg quote]
      show verbatimText (c :: (doubleApostrophes chars ++ '\'' :: rest)) = _
      unfold verbatimText
      rw [if_neg quote, ih]
      rfl

/-- A text is printed as one token. -/
theorem printed_text (chars : String) :
    Printed afterValue (Value.text chars).argumentText.toList fun _ row =>
      ∃ place, row = [⟨.text chars, place⟩] := by
  show Printed afterValue (String.ofList ('\'' :: (doubleApostrophes chars.toList ++ ['\'']))).toList _
  rw [String.toList_ofList]
  refine .token (fun rest breaks => ?_) fun place => ⟨place, rfl⟩
  rw [List.append_assoc, List.singleton_append]
  show quotedLexeme (verbatimText _) = _
  rw [verbatimText_doubled _ breaks]
  show (Lexeme.token (.text (String.ofList chars.toList)), _) = _
  rw [String.ofList_toList, List.length_append]
  rfl

/-- Characters of one kind end where others begin. -/
theorem takeWhile_until {kind : Char → Bool} {rest : List Char} (all : ∀ c ∈ chars, kind c = true)
    (ends : ∀ c ∈ rest.head?, kind c = false) :
    (chars ++ rest).takeWhile kind = chars ∧ (chars ++ rest).dropWhile kind = rest := by
  rw [List.takeWhile_append_of_pos all, List.dropWhile_append_of_pos all]
  cases rest with
  | nil => simp
  | cons c rest => simp [ends c rfl]

/-- What is taken of characters of one kind, in front of a blank or the end. -/
theorem takeWhile_append {taken : Char → Bool} (all : ∀ c ∈ chars, taken c = true)
    (blank : taken ' ' = false) {rest : List Char} (breaks : breaksOff rest = true) :
    (chars ++ rest).takeWhile taken = chars ∧ (chars ++ rest).dropWhile taken = rest := by
  refine takeWhile_until all fun c found => ?_
  cases rest with
  | nil => cases found
  | cons b rest =>
    obtain rfl : b = c := Option.some.inj found
    rwa [show b = ' ' from of_decide_eq_true breaks]

/-- Digits are read as the whole number that they denote. -/
theorem number_digits {digit : Char} {digits rest : List Char}
    (all : ∀ c ∈ digits, c.isDigit = true) (breaks : breaksOff rest = true) :
    number digit (digits ++ rest) = (intLexeme (digit :: digits), digits.length) := by
  obtain ⟨whole, behind⟩ := takeWhile_append all rfl breaks
  unfold number
  rw [whole, behind]
  cases rest with
  | nil => rfl
  | cons c rest =>
    have same : c = ' ' := of_decide_eq_true breaks
    subst same
    rfl

/-- The digits of a number are read as it. -/
theorem intLexeme_digits {n : Nat} {number : Int64} (same : number.toInt = n) :
    intLexeme (Decimal.digits n) = .token (.int number) := by
  have value : Decimal.toInt64? (Decimal.digitsValue (Decimal.digits n)) = some number := by
    rw [Decimal.digitsValue_eq_ofDigitChars, Decimal.digits, Nat.ofDigitChars_ten_toDigits]
    exact Decimal.toInt64?_eq_some_iff.mpr same
  unfold intLexeme
  rw [value]

/-- What begins with a digit is a number. -/
theorem lexeme_digit (digit : c.isDigit = true) (rest : List Char) :
    lexeme afterValue c rest = number c rest := by
  have other : ∀ b : Char, b.isDigit = false → c ≠ b := by
    rintro b none rfl
    exact Bool.false_ne_true (none.symm.trans digit)
  unfold lexeme
  rw [if_neg (by rintro (h | h | h) <;> exact other _ (by decide) h), if_neg (other _ (by decide)),
    if_neg (by rintro (h | h) <;> exact other _ (by decide) h), if_neg (other _ (by decide)),
    if_pos digit]

/-- The digits of a number begin with one. -/
theorem exists_digit (n : Nat) : ∃ digit digits, Decimal.digits n = digit :: digits ∧
    digit.isDigit = true ∧ ∀ c ∈ digits, c.isDigit = true := by
  obtain ⟨digit, digits, same⟩ := List.exists_cons_of_ne_nil (@Nat.toDigits_ne_nil n 10)
  refine ⟨digit, digits, same, ?_, fun c found => ?_⟩
  · exact Decimal.isDigit_of_mem_digits (same ▸ List.mem_cons_self)
  · exact Decimal.isDigit_of_mem_digits (same ▸ List.mem_cons_of_mem _ found)

/-- A number is printed as one token. -/
theorem printed_digits {n : Nat} {number : Int64} (same : number.toInt = n) :
    Printed afterValue (Decimal.digits n) fun _ row => ∃ place, row = [⟨.int number, place⟩] := by
  obtain ⟨digit, digits, written, first, all⟩ := exists_digit n
  rw [written]
  refine .token (fun rest breaks => ?_) fun place => ⟨place, rfl⟩
  rw [lexeme_digit first, number_digits all breaks, ← written, intLexeme_digits same]

/-- A dash in front of a digit is an operator. -/
theorem dash_digit {digit : Char} (first : digit.isDigit = true) (rest : List Char) :
    dash (digit :: rest) = (.token (.operator .sub), 0) := by
  have plain : Text.isLetter digit = false := by
    have none := not_startsWord_digit first
    unfold startsWord at none
    exact (Bool.or_eq_false_iff.mp none).1
  unfold dash
  dsimp only
  rw [plain, if_neg Bool.false_ne_true]
  unfold operator
  split
  · rename_i same
    cases same
    cases first
  · rfl

/-- A number behind a dash is printed as two tokens. -/
theorem printed_negative {n : Nat} {number : Int64} (same : number.toInt = n) :
    Printed afterValue ('-' :: Decimal.digits n) fun _ row =>
      ∃ sign place, row = [⟨.operator .sub, sign⟩, ⟨.int number, place⟩] := by
  intro place
  obtain ⟨row, behind, ended, ⟨next, rfl⟩, scans⟩ :=
    @printed_digits (Token.operator .sub).endsValue n number same (place.after '-')
  refine ⟨_, behind, ended, ⟨place, next, rfl⟩, fun rest breaks => ?_⟩
  have dashed : lexeme afterValue '-' ([] ++ (Decimal.digits n ++ rest)) =
      (.token (.operator .sub), 0) := by
    obtain ⟨digit, digits, written, first, _⟩ := exists_digit n
    rw [written]
    exact dash_digit first _
  refine (scanFrom_token place dashed).trans ?_
  show (scanFrom (place.after '-') _ 0 _).map _ = _
  rw [scans rest breaks, map_append_append]
  rfl

/-- The negative of a number other than the least. -/
theorem toInt_neg {number : Int64} (bound : number ≠ Int64.minValue) :
    (-number).toInt = -number.toInt := by
  have other : number.toInt ≠ -9223372036854775808 := fun same => bound (Int64.toInt.inj same)
  have least := number.le_toInt
  have greatest := number.toInt_lt
  rw [Int64.toInt_neg]
  exact Int.bmod_eq_of_le (by omega) (by omega)

/-- **A value is printed as a value of its expression.** -/
theorem printed_value {value : Value} (printable : value.isPrintable = true) :
    Printed afterValue value.argumentText.toList fun _ row => IsValue IsPipeline row value.expr := by
  cases value with
  | text chars =>
    refine (printed_text chars).mono fun _ row known => ?_
    obtain ⟨place, rfl⟩ := known
    exact .one (.primary (.text chars place))
  | int number =>
    have negative := toInt_neg (of_decide_eq_true printable)
    show Printed afterValue (Decimal.intText number.toInt).toList fun _ row => IsValue IsPipeline row
      (if number.toInt < 0 then .negate (.literal (.int (-number))) else .literal (.int number))
    cases same : number.toInt with
    | ofNat n =>
      have positive : ¬ Int.ofNat n < 0 := Int.not_lt.mpr (Int.natCast_nonneg n)
      show Printed afterValue (String.ofList (Decimal.digits n)).toList _
      rw [String.toList_ofList, if_neg positive]
      refine (printed_digits same).mono fun _ row known => ?_
      obtain ⟨place, rfl⟩ := known
      exact .one (.primary (.int number place))
    | negSucc m =>
      have size : (-number).toInt = (m + 1 : Nat) := by rw [negative, same]; rfl
      show Printed afterValue (String.ofList ('-' :: Decimal.digits (m + 1))).toList _
      rw [String.toList_ofList, if_pos (Int.negSucc_lt_zero m)]
      refine (printed_negative size).mono fun _ row known => ?_
      obtain ⟨sign, place, rfl⟩ := known
      exact .one (.negate sign (.primary (.int (-number) place)))
  | null => cases printable
  | bool truth => cases printable
  | float number => cases printable
  | list items => cases printable

/-! ### Parameters -/

/-- The name of a parameter is printed behind a dash as one token. -/
theorem printed_name {name : String} (named : Parameter.isName name = true) :
    Printed afterValue ('-' :: name.toList) fun _ row => ∃ place, row = [⟨.parameter name, place⟩] := by
  refine .token (fun rest breaks => ?_) fun place => ⟨place, rfl⟩
  show dash (name.toList ++ rest) = _
  unfold Parameter.isName at named
  cases chars : name.toList with
  | nil =>
    rw [chars] at named
    cases named
  | cons c others =>
    rw [chars] at named
    obtain ⟨letter, all⟩ := Bool.and_eq_true_iff.mp named
    have every : ∀ b ∈ c :: others, Text.isNameChar b = true := by
      intro b member
      rcases List.mem_cons.mp member with rfl | behind
      · rw [Text.isNameChar, letter]
        rfl
      · exact List.all_eq_true.mp all b behind
    have taken := (takeWhile_append every (by decide) breaks).1
    show (if Text.isLetter c = true then
      (Lexeme.token (.parameter (String.ofList ((c :: others ++ rest).takeWhile Text.isNameChar))),
        ((c :: others ++ rest).takeWhile Text.isNameChar).length) else _) = _
    rw [if_pos letter, taken, ← chars, String.ofList_toList]

/-- **A parameter is printed as an argument.** -/
theorem printed_parameter {parameter : Parameter} (printable : parameter.isPrintable = true) :
    Printed afterValue parameter.display.toList fun _ row =>
      IsArgument IsPipeline row parameter.argument := by
  cases parameter with
  | named name value =>
    obtain ⟨named, literal⟩ := Bool.and_eq_true_iff.mp printable
    have written : (Parameter.named name value).display.toList =
        ' ' :: ('-' :: name.toList ++ ' ' :: value.argumentText.toList) := by
      simp only [Parameter.display, String.toList_append, List.append_assoc]
      rfl
    rw [written]
    refine ((printed_name named).append (fun _ => (printed_value literal).blank) rfl).blank.mono ?_
    rintro _ _ ⟨_, _, _, rfl, ⟨place, rfl⟩, known⟩
    exact .named name place known
  | switch name =>
    have written : (Parameter.switch name).display.toList = ' ' :: '-' :: name.toList := by
      simp only [Parameter.display, String.toList_append]
      rfl
    rw [written]
    refine (printed_name printable).blank.mono ?_
    rintro _ _ ⟨place, rfl⟩
    exact .bare name place
  | positional value =>
    have written : (Parameter.positional value).display.toList =
        ' ' :: value.argumentText.toList := by
      simp only [Parameter.display, String.toList_append]
      rfl
    rw [written]
    exact (printed_value printable).blank.mono fun _ _ known => .positional known

theorem breaksOff_display (parameter : Parameter) (rest : List Char) :
    breaksOff (parameter.display.toList ++ rest) = true := by
  cases parameter <;> simp only [Parameter.display, String.toList_append, List.append_assoc] <;> rfl

theorem isBare_argument (parameter : Parameter) :
    parameter.argument.isBare = parameter.isSwitch := by
  cases parameter <;> rfl

theorem startsPositional_arguments (parameters : List Parameter) :
    startsPositional (parameters.map Parameter.argument) =
      parameters.head?.any Parameter.isPositional := by
  cases parameters with
  | nil => rfl
  | cons parameter rest => cases parameter <;> rfl

/-- **Parameters are printed as arguments**, of which none takes the one behind it. -/
theorem printed_parameters {parameters : List Parameter}
    (each : ∀ parameter ∈ parameters, parameter.isPrintable = true)
    (apart : Parameter.keepApart parameters = true) : ∀ afterValue,
    Printed afterValue (parameters.flatMap fun parameter => parameter.display.toList) fun _ row =>
      IsArguments IsPipeline row (parameters.map Parameter.argument) := by
  induction parameters with
  | nil => exact fun _ => .nil fun _ => .none
  | cons parameter rest ih =>
    intro afterValue
    obtain ⟨greedy, others⟩ := Bool.and_eq_true_iff.mp apart
    have behind := ih (fun other member => each other (List.mem_cons_of_mem _ member)) others
    have breaks : breaksOff (rest.flatMap fun parameter => parameter.display.toList) = true := by
      cases rest with
      | nil => rfl
      | cons next rest => exact breaksOff_display next _
    refine ((printed_parameter (each parameter List.mem_cons_self)).append behind breaks).mono ?_
    rintro _ _ ⟨front, back, _, rfl, first, passed⟩
    refine .more first passed fun bare => ?_
    rw [isBare_argument] at bare
    rw [startsPositional_arguments]
    simpa [bare] using greedy

/-! ### Commands -/

/-- Whether a character stands for itself in a word and does not end it. -/
def isWordChar (c : Char) : Bool :=
  c ≠ '\x60' && !endsWord c

theorem isWordChar_iff : isWordChar c = true ↔ c ≠ '\x60' ∧ endsWord c = false := by
  unfold isWordChar
  rw [Bool.and_eq_true_iff, decide_eq_true_iff, Bool.not_eq_true']

/-- Characters that stand for themselves are a word. -/
theorem word_append {name rest : List Char} (plain : name.all isWordChar = true)
    (breaks : breaksOff rest = true) : word (name ++ rest) = (name, name.length) := by
  induction name with
  | nil =>
    cases rest with
    | nil => rfl
    | cons c rest =>
      have same : c = ' ' := of_decide_eq_true breaks
      subst same
      exact word_blank rest
  | cons c name ih =>
    obtain ⟨front, others⟩ := Bool.and_eq_true_iff.mp (List.all_cons ▸ plain)
    obtain ⟨bare, goes⟩ := isWordChar_iff.mp front
    show word (c :: (name ++ rest)) = _
    rw [word_cons _ bare goes, ih others]
    rfl

/-- The characters of a word of all characters, without back quotes, stand for themselves. -/
theorem isWordChar_of_word {name : List Char} (bare : '\x60' ∉ name) (whole : (word name).1 = name) :
    name.all isWordChar = true := by
  induction name with
  | nil => rfl
  | cons c name ih =>
    obtain ⟨other, others⟩ := List.ne_and_not_mem_of_not_mem_cons bare
    cases ends : endsWord c with
    | true =>
      rw [word_end name other.symm ends] at whole
      cases whole
    | false =>
      rw [word_cons name other.symm ends] at whole
      rw [List.all_cons, isWordChar_iff.mpr ⟨other.symm, ends⟩]
      exact ih others (List.cons.inj whole).2

/-- Characters that stand for themselves are read as one word. -/
theorem lexeme_written {chars rest : List Char} (starts : startsWord c = true)
    (plain : (c :: chars).all isWordChar = true) (breaks : breaksOff rest = true) :
    lexeme false c (chars ++ rest) = (.token (.word (String.ofList (c :: chars))), chars.length) := by
  have whole : word (c :: (chars ++ rest)) = (c :: chars, (c :: chars).length) :=
    word_append plain breaks
  rw [lexeme_word _ starts, whole]
  rfl

/-- **How a name that is one word is written.** -/
theorem isWord_iff {name : String} : IsWord name ↔ ∃ c rest, name.toList = c :: rest ∧
    startsWord c = true ∧ (c :: rest).all isWordChar = true := by
  constructor
  · rintro ⟨bare, finish, scans⟩
    cases chars : name.toList with
    | nil =>
      unfold scan at scans
      rw [chars] at scans
      cases scans
    | cons c rest =>
      rw [← @String.ofList_toList name, chars] at scans
      obtain ⟨count, found⟩ := lexeme_of_scan scans (List.nil_append _).symm rfl
      obtain ⟨starts, whole⟩ := (lexeme_word_iff rest _).mp ⟨count, found⟩
      rw [chars] at bare
      refine ⟨c, rest, rfl, starts, isWordChar_of_word bare ?_⟩
      have same := congrArg String.toList whole
      rwa [String.toList_ofList, String.toList_ofList] at same
  · rintro ⟨c, rest, written, starts, plain⟩
    refine ⟨fun quoted => ?_, name.toList.foldl Place.after .start, ?_⟩
    · rw [written] at quoted
      exact (isWordChar_iff.mp (List.all_eq_true.mp plain _ quoted)).1 rfl
    · have scanned := scanFrom_token .start (@lexeme_written c rest [] starts plain rfl)
      rw [List.append_nil, ← written, String.ofList_toList] at scanned
      exact scanned

/-- A name that is one word is printed as one. -/
theorem printed_word {name : String} (word : IsWord name) :
    Printed false name.toList fun place row => row = [⟨.word name, place⟩] := by
  obtain ⟨c, rest, written, starts, plain⟩ := isWord_iff.mp word
  rw [written]
  refine .token (fun behind breaks => ?_) fun _ => rfl
  rw [lexeme_written starts plain breaks, ← written, String.ofList_toList]

/-- **A command is printed as its call.** -/
theorem printed_stage {stage : Stage} (printable : stage.IsPrintable) :
    Printed false stage.display.toList fun place row =>
      ∃ others, row = ⟨.word stage.text, place⟩ :: others ∧ IsSegment IsPipeline row stage.segment := by
  cases printable with
  | @command name parameters word each apart =>
    have written : (Stage.command name parameters).display.toList =
        name.toList ++ parameters.flatMap fun parameter => parameter.display.toList := by
      rw [Stage.display, String.toList_append, String.toList_join, List.flatMap_map]
      rfl
    have breaks : breaksOff (parameters.flatMap fun parameter => parameter.display.toList) = true := by
      cases parameters with
      | nil => rfl
      | cons parameter rest => exact breaksOff_display parameter _
    rw [written]
    refine ((printed_word word).append (printed_parameters each apart) breaks).mono ?_
    rintro place _ ⟨_, others, _, rfl, rfl, passed⟩
    exact ⟨others, rfl, .call name place passed⟩

/-- A pipe is printed as a token between blanks, and no slash behind it divides. -/
theorem printed_pipe (printed : Printed false chars kind) :
    Printed afterValue (' ' :: '|' :: ' ' :: chars) fun _ row =>
      ∃ lead place others, row = ⟨.pipe, lead⟩ :: others ∧ kind place others := by
  have behind : Printed afterValue ('|' :: ' ' :: chars) fun _ row =>
      ∃ lead place others, row = ⟨.pipe, lead⟩ :: others ∧ kind place others := by
    intro place
    obtain ⟨row, behind, ended, known, scans⟩ := printed.blank (place.after '|')
    refine ⟨_, behind, ended, ⟨place, _, row, rfl, known⟩, fun rest breaks => ?_⟩
    have piped : lexeme afterValue '|' ([] ++ (' ' :: chars ++ rest)) = (.token .pipe, 0) := by
      cases afterValue <;> rfl
    refine (scanFrom_token place piped).trans ?_
    show (scanFrom (place.after '|') false 0 _).map _ = _
    rw [scans rest breaks, map_append_append]
    rfl
  exact behind.blank

/-! ### Pipelines -/

/-- **Commands with pipes between them are printed as their calls.** -/
theorem printed_stages {stage : Stage} {stages : List Stage} (printable : stage.IsPrintable)
    (others : ∀ stage ∈ stages, stage.IsPrintable) :
    Printed false (" | ".intercalate ((stage :: stages).map Stage.display)).toList fun place row =>
      ∃ others, row = ⟨.word stage.text, place⟩ :: others ∧
        IsSegments IsPipeline row ((stage :: stages).map Stage.segment) := by
  induction stages generalizing stage with
  | nil =>
    have written : (" | ".intercalate ([stage].map Stage.display)).toList = stage.display.toList := by
      rw [String.toList_intercalate]
      exact List.intercalate_singleton
    rw [written]
    refine (printed_stage printable).mono ?_
    rintro _ _ ⟨others, rfl, segment⟩
    exact ⟨others, rfl, .one segment⟩
  | cons next stages ih =>
    have behind := ih (others next List.mem_cons_self)
      fun other member => others other (List.mem_cons_of_mem _ member)
    have written : (" | ".intercalate ((stage :: next :: stages).map Stage.display)).toList =
        stage.display.toList ++ ' ' :: '|' :: ' ' ::
          (" | ".intercalate ((next :: stages).map Stage.display)).toList := by
      simp only [String.toList_intercalate, List.map_cons, List.intercalate_cons_cons,
        List.append_assoc]
      rfl
    rw [written]
    refine ((printed_stage printable).append (fun _ => printed_pipe behind) rfl).mono ?_
    rintro _ _ ⟨_, _, _, rfl, ⟨others, rfl, segment⟩, lead, _, more, rfl, _, _, segments⟩
    exact ⟨_, rfl, .more ⟨.pipe, lead⟩ segment rfl segments⟩

/-- **A printed pipeline is read as one statement**, which calls its commands with their arguments in their
order; and the empty one as no statement. -/
theorem read_display {pipeline : Pipeline} (printable : pipeline.IsPrintable) :
    read pipeline.display = .ok (if pipeline.stages = [] then []
      else [⟨.start, .run (pipeline.stages.map Stage.segment)⟩]) := by
  obtain ⟨stages⟩ := pipeline
  cases stages with
  | nil => rfl
  | cons stage stages =>
    obtain ⟨all, first⟩ := printable
    obtain ⟨row, behind, ended, ⟨others, rfl, segments⟩, scans⟩ :=
      printed_stages (all stage List.mem_cons_self)
        (fun other member => all other (List.mem_cons_of_mem _ member)) .start
    have scanned := scans [] rfl
    rw [List.append_nil] at scanned
    have whole : scan (Pipeline.display ⟨stage :: stages⟩) =
        .ok ⟨⟨.word stage.text, .start⟩ :: others, behind⟩ :=
      scanned.trans (congrArg (fun row => Except.ok (Tokens.mk row behind)) (List.append_nil _))
    have calls : startsThrow (⟨.word stage.text, .start⟩ :: others) = false := first stage rfl
    exact read_statement whole (.intro (.run (isPipeline_iff.mpr segments) calls))

/-- How texts, numbers and switches are printed. -/
example : Pipeline.display ⟨[.command "Write-Output" [.positional (.text "it's | \x60$x"),
      .positional (.int (-5)), .switch "wide"], .command "Out-String" []]⟩ =
    "Write-Output 'it''s | \x60$x' -5 -wide | Out-String" :=
  rfl

end Script

end ShellSession

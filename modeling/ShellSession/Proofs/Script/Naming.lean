/-
**Script files called by path.**

A path that is called with arguments is written in front of them, escaped, and the whole is read as a
script. The path is the name of the command that is called first exactly when it begins as words begin,
has no back quote and no character that ends a word, blanks and brackets apart, and is not the word that
raises an error. Then nothing but the name is read from it.

* `spellsName`, `isCallable`: the paths that are read as they are meant;
* `word_escaped_iff`: the word that an escaped path is read as;
* `lexeme_word_iff`: the lexemes that are words;
* `callsFirst_iff`: the tokens with which a call comes first;
* `scriptAt_calls_iff`: **a path is called by its name exactly when it is callable**.
-/

import ShellSession.Engine.Evaluate
import ShellSession.Proofs.Script.Parsing
import ShellSession.Session.Request

namespace ShellSession.Script

open Script.Path

/-! ### Paths -/

/-- The characters of an escaped path that stand for themselves. -/
def isPlain (c : Char) : Bool :=
  c ≠ '\x60' && (c = ' ' || !endsWord c)

/-- The characters of a path that is read as a word once it is escaped. -/
def spellsName : List Char → Bool
  | [] => false
  | c :: rest => (startsWord c || isEscapable true c) && (c :: rest).all isPlain

/-- Whether a path is called by its name when arguments stand behind it. -/
def isCallable (path : String) : Bool :=
  spellsName path.toList && !Text.sameName path "throw"

/-! ### Words -/

/-- A plain character is escaped, or ends no word. -/
theorem not_endsWord_of_plain {c : Char} (plain : isPlain c = true)
    (bare : isEscapable true c = false) : endsWord c = false := by
  simp only [isPlain, isEscapable, Bool.and_eq_true, Bool.or_eq_true, Bool.or_eq_false_iff,
    decide_eq_true_eq, Bool.true_and, Bool.not_eq_true', decide_eq_false_iff_not] at plain bare
  exact plain.2.resolve_left bare.2

theorem not_escapable_of_endsWord {c : Char} (ends : endsWord c = true) (other : c ≠ ' ') :
    isEscapable true c = false := by
  have bracket : ∀ b, endsWord b = false → c ≠ b := by
    rintro b goes rfl
    exact Bool.false_ne_true (goes.symm.trans ends)
  simp only [isEscapable, isBracket, Bool.true_and, Bool.or_eq_false_iff, decide_eq_false_iff_not]
  exact ⟨⟨bracket '[' (by decide), bracket ']' (by decide)⟩, other⟩

/-- A character that ends a word. -/
theorem word_end {c : Char} (rest : List Char) (bare : c ≠ '\x60') (ends : endsWord c = true) :
    word (c :: rest) = ([], 0) := by
  unfold word
  rw [if_neg bare, if_pos ends]

/-- A character that is no back quote and ends no word belongs to it. -/
theorem word_cons {c : Char} (rest : List Char) (bare : c ≠ '\x60') (goes : endsWord c = false) :
    word (c :: rest) = (c :: (word rest).1, (word rest).2 + 1) := by
  conv => lhs; unfold word
  rw [if_neg bare, if_neg (by rw [goes]; exact Bool.false_ne_true)]

/-- The character behind a back quote belongs to the word. -/
theorem word_quote (c : Char) (rest : List Char) :
    word ('\x60' :: c :: rest) = (c :: (word rest).1, (word rest).2 + 2) := by
  conv => lhs; unfold word
  rw [if_pos rfl]

/-- A blank ends a word. -/
theorem word_blank (rest : List Char) : word (' ' :: rest) = ([], 0) :=
  word_end rest (by decide) (by decide)

/-- **An escaped path of plain characters is read as the path**, up to its end. -/
theorem word_escaped (rest : List Char) (path : List Char) :
    ∀ {before : Char}, before ≠ '\x60' → path.all isPlain = true →
      word (escapeFrom true before path ++ ' ' :: rest) =
        (path, (escapeFrom true before path).length) := by
  induction path with
  | nil => exact fun _ _ => word_blank rest
  | cons c path ih =>
    intro before open_ plain
    obtain ⟨first, others⟩ := Bool.and_eq_true_iff.mp (List.all_cons ▸ plain)
    have bare : c ≠ '\x60' := by
      rintro rfl
      exact Bool.false_ne_true first
    have further := ih bare others
    unfold escapeFrom
    by_cases escapes : isEscapable true c = true
    · rw [if_pos ⟨escapes, open_⟩]
      show word ('\x60' :: c :: (escapeFrom true c path ++ ' ' :: rest)) = _
      rw [word_quote, further]
      rfl
    · rw [if_neg fun both => escapes both.1]
      show word (c :: (escapeFrom true c path ++ ' ' :: rest)) = _
      rw [word_cons _ bare (not_endsWord_of_plain first (Bool.eq_false_iff.mpr escapes)), further]
      rfl

/-- The first character of a word that begins with no back quote. -/
theorem head_word {c : Char} (rest : List Char) (bare : c ≠ '\x60') :
    (word (c :: rest)).1 = [] ∨ (word (c :: rest)).1 = c :: (word rest).1 := by
  by_cases ends : endsWord c = true
  · rw [word_end rest bare ends]
    exact .inl rfl
  · rw [word_cons rest bare (Bool.eq_false_iff.mpr ends)]
    exact .inr rfl

/-- Behind a back quote a path is read with fewer back quotes than it is written with: each of them
takes the character behind it along. -/
theorem word_behind_quote (rest : List Char) : ∀ (path : List Char) (more : Nat),
    (word (escapeFrom true '\x60' path ++ ' ' :: rest)).1 ≠
      List.replicate (more + 1) '\x60' ++ path
  | [], more => by
    show (word (' ' :: rest)).1 ≠ _
    rw [word_blank]
    exact nofun
  | c :: path, more => by
    have written : escapeFrom true '\x60' (c :: path) = c :: escapeFrom true c path :=
      if_neg fun both => both.2 rfl
    rw [written]
    by_cases bare : c = '\x60'
    · subst bare
      match path with
      | [] => exact fun same => absurd (List.cons.inj same).1 (by decide)
      | next :: path =>
        have further : escapeFrom true '\x60' (next :: path) = next :: escapeFrom true next path :=
          if_neg fun both => both.2 rfl
        rw [further]
        intro same
        obtain ⟨rfl, others⟩ := List.cons.inj same
        refine word_behind_quote rest path (more + 1) (others.trans ?_)
        rw [List.replicate_succ' , List.replicate_succ', List.append_assoc, List.append_assoc]
        rfl
    · intro same
      rcases head_word (escapeFrom true c path ++ ' ' :: rest) bare with none | some
      · exact nomatch none.symm.trans same
      · exact bare (List.cons.inj (some.symm.trans same)).1

/-- A path with a character that is not plain is read as something else. -/
theorem word_escaped_ne (rest : List Char) (path : List Char) :
    ∀ {before : Char}, before ≠ '\x60' → path.all isPlain = false →
      (word (escapeFrom true before path ++ ' ' :: rest)).1 ≠ path := by
  induction path with
  | nil => exact fun _ odd => nomatch odd
  | cons c path ih =>
    intro before open_ odd
    by_cases bare : c = '\x60'
    · -- A back quote of the path takes the next character along, so that the word lacks it.
      subst bare
      rw [show escapeFrom true before ('\x60' :: path) = '\x60' :: escapeFrom true '\x60' path from
        if_neg fun both => absurd both.1 (by decide)]
      match path with
      | [] => exact fun same => absurd (List.cons.inj same).1 (by decide)
      | next :: path =>
        rw [show escapeFrom true '\x60' (next :: path) = next :: escapeFrom true next path from
          if_neg fun both => both.2 rfl]
        intro same
        obtain ⟨rfl, others⟩ := List.cons.inj same
        exact word_behind_quote rest path 0 others
    · by_cases plain : isPlain c = true
      · have others : path.all isPlain = false := by
          rwa [List.all_cons, plain, Bool.true_and] at odd
        have further := ih bare others
        unfold escapeFrom
        by_cases escapes : isEscapable true c = true
        · rw [if_pos ⟨escapes, open_⟩]
          exact fun same => further (List.cons.inj same).2
        · rw [if_neg fun both => escapes both.1]
          have goes := not_endsWord_of_plain plain (Bool.eq_false_iff.mpr escapes)
          show (word (c :: (escapeFrom true c path ++ ' ' :: rest))).1 ≠ _
          rw [word_cons _ bare goes]
          exact fun same => further (List.cons.inj same).2
      · have ends : c ≠ ' ' ∧ endsWord c = true := by
          simpa [isPlain, bare] using plain
        unfold escapeFrom
        rw [if_neg fun both => absurd both.1
          (by rw [not_escapable_of_endsWord ends.2 ends.1]; exact Bool.false_ne_true)]
        show (word (c :: (escapeFrom true c path ++ ' ' :: rest))).1 ≠ _
        rw [word_end _ bare ends.2]
        exact nofun

/-- **The word that an escaped path is read as** is the path, if all its characters are plain. -/
theorem word_escaped_iff (path rest : List Char) :
    (word (escapeFrom true '\n' path ++ ' ' :: rest)).1 = path ↔ path.all isPlain = true := by
  constructor
  · intro same
    cases plain : path.all isPlain with
    | true => rfl
    | false => exact absurd same (word_escaped_ne rest path (by decide) plain)
  · intro plain
    rw [word_escaped rest path (by decide) plain]

/-! ### Lexemes -/

/-- No digit begins a word. -/
theorem not_startsWord_digit {c : Char} (digit : c.isDigit = true) : startsWord c = false := by
  have range : 48 ≤ c.toNat ∧ c.toNat ≤ 57 := by
    simpa [Char.isDigit, UInt32.le_iff_toNat_le] using digit
  have other : ∀ b : Char, b.toNat < 48 ∨ 57 < b.toNat → c ≠ b := by
    rintro b outside rfl
    omega
  have letter : Text.isLetter c = false := by
    unfold Text.isLetter
    rw [if_pos (by omega)]
    have upper : ¬ 65 ≤ c.toNat := by omega
    have lower : ¬ 97 ≤ c.toNat := by omega
    refine Bool.or_eq_false_iff.mpr ⟨decide_eq_false ?_, Bool.and_eq_false_iff.mpr (.inl ?_)⟩
    · exact fun within => upper (UInt32.le_iff_toNat_le.mp within.1)
    · exact decide_eq_false (mt UInt32.le_iff_toNat_le.mp lower)
  simp only [startsWord, letter, List.contains_cons, List.contains_nil, beq_eq_false_iff_ne.mpr,
    other '_' (by decide), other '.' (by decide), other '/' (by decide), other '\\' (by decide),
    other '~' (by decide), other '\x60' (by decide), ne_eq, not_false_eq_true, Bool.or_false]

/-- Whether a lexeme is a word. -/
def Lexeme.isWord : Lexeme → Bool
  | .token (.word _) => true
  | _ => false

theorem not_isWord_ite {p : Prop} [Decidable p] {a b : Lexeme × Nat}
    (first : a.1.isWord = false) (second : b.1.isWord = false) :
    (if p then a else b).1.isWord = false := by
  split
  · exact first
  · exact second

theorem not_isWord_number (digit : Char) (rest : List Char) :
    (number digit rest).1.isWord = false := by
  unfold number
  refine not_isWord_ite ?_ rfl
  show (intLexeme _).isWord = false
  unfold intLexeme
  split <;> rfl

theorem not_isWord_quoted (quoted : Option (List Char × Nat)) :
    (quotedLexeme quoted).1.isWord = false := by
  cases quoted <;> rfl

theorem not_isWord_operator (sign : Operator) (rest : List Char) :
    (operator sign rest).1.isWord = false := by
  unfold operator
  split <;> rfl

theorem not_isWord_dash (rest : List Char) : (dash rest).1.isWord = false := by
  unfold dash
  split
  · exact not_isWord_operator _ _
  · exact not_isWord_ite rfl (not_isWord_operator _ _)

/-- What begins no word is read as something else. -/
theorem not_isWord {afterValue : Bool} {c : Char} (rest : List Char)
    (other : startsWord c = false) : (lexeme afterValue c rest).1.isWord = false := by
  unfold lexeme
  refine not_isWord_ite rfl (not_isWord_ite rfl (not_isWord_ite rfl (not_isWord_ite ?_ ?_)))
  · exact not_isWord_ite rfl rfl
  refine not_isWord_ite (not_isWord_number c rest) (not_isWord_ite (not_isWord_quoted _)
    (not_isWord_ite (not_isWord_quoted _) (not_isWord_ite (not_isWord_dash rest) ?_)))
  refine not_isWord_ite (not_isWord_operator _ _) (not_isWord_ite (not_isWord_operator _ _)
    (not_isWord_ite (not_isWord_operator _ _) ?_))
  refine not_isWord_ite rfl (not_isWord_ite rfl (not_isWord_ite rfl (not_isWord_ite rfl
    (not_isWord_ite rfl ?_))))
  rw [if_neg (by rw [other]; exact Bool.false_ne_true)]
  rfl

/-- What begins a word begins nothing else. -/
theorem lexeme_word {c : Char} (rest : List Char) (starts : startsWord c = true) :
    lexeme false c rest =
      (.token (.word (String.ofList (word (c :: rest)).1)), (word (c :: rest)).2 - 1) := by
  have other : ∀ b, startsWord b = false → c ≠ b := by
    rintro b none rfl
    exact Bool.false_ne_true (none.symm.trans starts)
  have digit : c.isDigit = false := by
    cases digit : c.isDigit with
    | false => rfl
    | true => exact absurd starts (by rw [not_startsWord_digit digit]; exact Bool.false_ne_true)
  unfold lexeme
  rw [if_neg (by rintro (h | h | h) <;> exact other _ (by decide) h), if_neg (other _ (by decide)),
    if_neg (by rintro (h | h) <;> exact other _ (by decide) h), if_neg (other _ (by decide)),
    if_neg (by rw [digit]; exact Bool.false_ne_true), if_neg (other _ (by decide)),
    if_neg (other _ (by decide)), if_neg (other _ (by decide)), if_neg (other _ (by decide)),
    if_neg (other _ (by decide)), if_neg (fun both => Bool.false_ne_true both.2),
    if_neg (other _ (by decide)), if_neg (other _ (by decide)), if_neg (other _ (by decide)),
    if_neg (other _ (by decide)), if_neg (other _ (by decide)), if_pos starts]

/-- **A lexeme is a word when a word begins there**, and then it is the word. -/
theorem lexeme_word_iff {c : Char} (rest : List Char) (chars : String) :
    (∃ count, lexeme false c rest = (.token (.word chars), count)) ↔
      startsWord c = true ∧ String.ofList (word (c :: rest)).1 = chars := by
  constructor
  · rintro ⟨count, same⟩
    have starts : startsWord c = true := by
      cases starts : startsWord c with
      | true => rfl
      | false =>
        have none : (lexeme false c rest).1.isWord = false := not_isWord rest starts
        rw [same] at none
        cases none
    rw [lexeme_word rest starts] at same
    cases same
    exact ⟨starts, rfl⟩
  · rintro ⟨starts, rfl⟩
    exact ⟨_, lexeme_word rest starts⟩

/-! ### Tokens of a text -/

/-- A place behind the first one. -/
def Place.IsLater (place : Place) : Prop :=
  1 ≤ place.line ∧ 2 < place.line + place.column

theorem Place.isLater_after {place : Place} (later : place = .start ∨ place.IsLater) (c : Char) :
    (place.after c).IsLater := by
  have counts : 1 ≤ place.line ∧ 2 ≤ place.line + place.column := by
    rcases later with rfl | later
    · decide
    · exact ⟨later.1, Nat.le_of_lt later.2⟩
  unfold after
  split
  · exact ⟨Nat.le_add_left 1 _, Nat.add_lt_add_right (Nat.lt_succ_of_le counts.1) 1⟩
  · exact ⟨counts.1, Nat.lt_succ_of_le counts.2⟩

/-- Tokens that are scanned behind the first place stand behind it. -/
theorem isLater_of_scanFrom (chars : List Char) : ∀ {place : Place} {afterValue : Bool} {skip : Nat}
    {scanned : Tokens}, place.IsLater → scanFrom place afterValue skip chars = .ok scanned →
      ∀ placed ∈ scanned.tokens, placed.place.IsLater := by
  induction chars with
  | nil =>
    intro place afterValue skip scanned later scans
    cases scans
    exact nofun
  | cons c chars ih =>
    intro place afterValue skip scanned later scans
    have next := place.isLater_after (.inr later) c
    unfold scanFrom at scans
    split at scans
    · exact ih next scans
    · split at scans
      · exact ih next scans
      · cases scans
      · split at scans
        · cases scans
        · rename_i tokens finish further
          cases scans
          intro placed member
          rcases List.mem_cons.mp member with rfl | member
          · exact later
          · exact ih next further placed member

/-- More tokens in front. -/
def Tokens.cons (first : Placed) (scanned : Tokens) : Tokens :=
  ⟨first :: scanned.tokens, scanned.finish⟩

/-- What is scanned at a point where no lexeme has begun. -/
theorem scanFrom_zero (place : Place) (afterValue : Bool) (c : Char) (rest : List Char) :
    scanFrom place afterValue 0 (c :: rest) =
      match lexeme afterValue c rest with
      | (.gap, count) => scanFrom (place.after c) afterValue count rest
      | (.fault fault, _) => .error ⟨fault, place⟩
      | (.token token, count) =>
        (scanFrom (place.after c) token.endsValue count rest).map (Tokens.cons ⟨token, place⟩) := by
  rw [scanFrom]
  generalize lexeme afterValue c rest = found
  obtain ⟨lexeme, count⟩ := found
  cases lexeme with
  | gap => rfl
  | fault fault => rfl
  | token token =>
    dsimp only
    cases scanFrom (place.after c) token.endsValue count rest <;> rfl

/-- Characters of a lexeme already seen are passed over. -/
theorem scanFrom_skip (seen rest : List Char) : ∀ (place : Place) (afterValue : Bool),
    scanFrom place afterValue seen.length (seen ++ rest) =
      scanFrom (seen.foldl Place.after place) afterValue 0 rest := by
  induction seen with
  | nil => exact fun _ _ => rfl
  | cons c seen ih =>
    intro place afterValue
    exact ih (place.after c) afterValue

/-- **The word at the front of a text is its first token**, and the tokens behind it are those of the
rest. -/
theorem scan_word {text chars : List Char} {name : String} {c : Char} {rest : List Char}
    (front : chars = c :: rest) (starts : startsWord c = true)
    (spelled : word (chars ++ text) = (name.toList, chars.length)) :
    scan (String.ofList (chars ++ text)) =
      (scanFrom (chars.foldl Place.after .start) false 0 text).map (Tokens.cons ⟨.word name, .start⟩) := by
  subst front
  unfold scan
  rw [String.toList_ofList]
  show scanFrom .start false 0 (c :: (rest ++ text)) = _
  have first := lexeme_word (rest ++ text) starts
  rw [show word (c :: (rest ++ text)) = _ from spelled, String.ofList_toList] at first
  have behind := scanFrom_skip rest text (Place.start.after c) false
  rw [scanFrom_zero, first]
  exact congrArg (Except.map (Tokens.cons ⟨.word name, .start⟩)) behind

/-- A token at the first place is the lexeme that begins there. -/
theorem lexeme_of_scan {c : Char} {rest : List Char} {scanned : Tokens}
    (scans : scan (String.ofList (c :: rest)) = .ok scanned) {before behind : List Placed}
    {first : Placed} (tokens : scanned.tokens = before ++ first :: behind)
    (front : first.place = .start) : ∃ count, lexeme false c rest = (.token first.token, count) := by
  have next : (Place.start.after c).IsLater := Place.isLater_after (.inl rfl) c
  have apart : ¬ first.place.IsLater := by
    rw [front]
    exact fun later => absurd later.2 (by decide)
  have member : first ∈ scanned.tokens := tokens ▸ List.mem_append_right _ List.mem_cons_self
  unfold scan at scans
  rw [String.toList_ofList, scanFrom_zero] at scans
  split at scans
  · exact absurd (isLater_of_scanFrom rest next scans first member) apart
  · cases scans
  · rename_i token count found
    cases further : scanFrom (Place.start.after c) token.endsValue count rest with
    | error e =>
      rw [further] at scans
      cases scans
    | ok others =>
      rw [further] at scans
      cases scans
      rcases List.mem_cons.mp member with rfl | member
      · exact ⟨count, found⟩
      · exact absurd (isLater_of_scanFrom rest next further first member) apart

/-! ### Calls -/

/-- Whether the first thing in a script is a statement that begins with the call of a command. -/
def CallsFirst (name : String) (deeds : List Statement) : Prop :=
  ∃ arguments segments others,
    deeds = ⟨.start, .run (.call name arguments :: segments)⟩ :: others

/-- A segment is a call when a word stands first. -/
theorem isSegment_call_iff {Group : Phrase (List Segment)} {first : Placed} {row : List Placed}
    {segment : Segment} (stage : IsSegment Group (first :: row) segment) (name : String) :
    (∃ arguments, segment = .call name arguments) ↔ first.token = .word name := by
  generalize same : first :: row = whole at stage
  cases stage with
  | call other place arguments =>
    cases same
    refine ⟨?_, ?_⟩
    · rintro ⟨_, ⟨⟩⟩
      rfl
    · rintro ⟨⟩
      exact ⟨_, rfl⟩
  | expr list none =>
    subst same
    refine iff_of_false nofun fun word => ?_
    obtain ⟨token, place⟩ := first
    cases word
    cases none

/-- **A statement begins with a call** when a word begins it that raises no error. -/
theorem isAction_call_iff {first : Placed} {row : List Placed} {action : Action}
    (deed : IsAction (first :: row) action) (name : String) :
    (∃ arguments segments, action = .run (.call name arguments :: segments)) ↔
      first.token = .word name ∧ Text.sameName name "throw" = false := by
  generalize same : first :: row = whole at deed
  have raises : ∀ {chars : String}, Text.sameName chars "throw" = true →
      ¬ (Token.word chars = .word name ∧ Text.sameName name "throw" = false) := by
    rintro chars throws ⟨⟨⟩, other⟩
    exact Bool.false_ne_true (other.symm.trans throws)
  cases deed with
  | bare chars place throws =>
    cases same
    exact iff_of_false nofun (raises throws)
  | raise chars place throws list =>
    cases same
    exact iff_of_false nofun (raises throws)
  | assign other place next sign pipeline =>
    cases same
    exact iff_of_false nofun nofun
  | @run _ segments pipeline other =>
    have begun : ∃ part segment others, segments = segment :: others ∧
        IsSegment IsPipeline (first :: part) segment := by
      generalize isPipeline_iff.mp pipeline = stages
      cases stages with
      | one stage => exact ⟨row, _, [], rfl, same ▸ stage⟩
      | @more front rest segment others lead stage _ _ =>
        obtain ⟨head, part, rfl, _⟩ := stage.starts
        cases same
        exact ⟨part, segment, others, rfl, stage⟩
    obtain ⟨part, segment, others, rfl, stage⟩ := begun
    subst same
    have called := isSegment_call_iff stage name
    refine ⟨?_, fun ⟨word, _⟩ => ?_⟩
    · rintro ⟨arguments, _, ⟨⟩⟩
      have word := called.mp ⟨arguments, rfl⟩
      refine ⟨word, ?_⟩
      obtain ⟨token, place⟩ := first
      cases word
      exact other
    · obtain ⟨arguments, rfl⟩ := called.mpr word
      exact ⟨arguments, others, rfl⟩

/-- The first statement of a script begins with the first token that is no separator. -/
theorem IsScript.first {tokens : List Placed} {deed : Statement} {others : List Statement}
    (phrase : IsScript tokens (deed :: others)) : ∃ before first row behind,
      tokens = before ++ first :: behind ∧ AreSeparators before ∧ first.place = deed.place ∧
        IsAction (first :: row) deed.action := by
  cases phrase with
  | @statements before row behind _ all deeds _ =>
    have begun : ∃ first row' rest, row = first :: rest ∧ first.place = deed.place ∧
        IsAction (first :: row') deed.action := by
      cases deeds with
      | one statement =>
        cases statement with
        | intro action => exact ⟨_, _, _, rfl, rfl, action⟩
      | more statement _ _ _ =>
        cases statement with
        | intro action => exact ⟨_, _, _, rfl, rfl, action⟩
    obtain ⟨first, row', rest, rfl, place, action⟩ := begun
    exact ⟨before, first, row', rest ++ behind, rfl, all, place, action⟩

/-- A script that begins with a word has a first statement, which begins with the word. -/
theorem IsScript.exists_first {name : String} {place : Place} {behind : List Placed}
    {deeds : List Statement} (phrase : IsScript (⟨.word name, place⟩ :: behind) deeds) :
    ∃ action others row, deeds = ⟨place, action⟩ :: others ∧
      IsAction (⟨.word name, place⟩ :: row) action := by
  cases deeds with
  | nil =>
    generalize same : (⟨.word name, place⟩ :: behind : List Placed) = tokens at phrase
    cases phrase with
    | empty all => exact nomatch all ⟨.word name, place⟩ (same ▸ List.mem_cons_self)
    | statements _ deeds _ => cases deeds
  | cons deed others =>
    obtain ⟨before, first, row, rest, tokens, separators, at_, action⟩ := phrase.first
    cases before with
    | cons other before =>
      cases tokens
      exact nomatch separators _ List.mem_cons_self
    | nil =>
      cases tokens
      obtain ⟨_, act⟩ := deed
      cases at_
      exact ⟨act, others, row, rfl, action⟩

/-! ### Paths in front of arguments -/

/-- The text of a path with arguments behind it. -/
def pathText (path arguments : String) : String :=
  escape path true ++ " " ++ arguments

theorem pathText_eq (path arguments : String) : pathText path arguments =
    String.ofList (escapeFrom true '\n' path.toList ++ ' ' :: arguments.toList) := by
  unfold pathText escape
  rw [← String.toList_inj]
  simp only [String.toList_append, String.toList_ofList, List.append_assoc]
  rfl

/-- How an escaped path begins: as it begins itself, or with a back quote. -/
theorem exists_front {c : Char} (path : List Char) :
    ∃ front rest, escapeFrom true '\n' (c :: path) = front :: rest ∧
      (startsWord front = true ↔ (startsWord c || isEscapable true c) = true) := by
  unfold escapeFrom
  by_cases escapes : isEscapable true c = true
  · rw [if_pos ⟨escapes, by decide⟩, escapes, Bool.or_true]
    exact ⟨_, _, rfl, iff_of_true (by decide) rfl⟩
  · rw [if_neg fun both => escapes both.1, Bool.eq_false_iff.mpr escapes, Bool.or_false]
    exact ⟨_, _, rfl, .rfl⟩

/-- **A callable path is the first token of its text**, all of it, and the tokens behind it are those of
the arguments. -/
theorem scan_pathText {path : String} (callable : isCallable path = true) (arguments : String) :
    scan (pathText path arguments) =
      (scanFrom ((escapeFrom true '\n' path.toList).foldl Place.after .start) false 0
        (' ' :: arguments.toList)).map (Tokens.cons ⟨.word path, .start⟩) := by
  obtain ⟨spells, _⟩ := Bool.and_eq_true_iff.mp callable
  rw [pathText_eq]
  cases chars : path.toList with
  | nil =>
    rw [chars] at spells
    cases spells
  | cons c rest =>
    rw [chars] at spells
    obtain ⟨begins, plain⟩ := Bool.and_eq_true_iff.mp spells
    obtain ⟨front, behind, written, starts⟩ := exists_front rest (c := c)
    refine scan_word written (starts.mpr begins) ?_
    rw [chars]
    exact word_escaped arguments.toList (c :: rest) (by decide) plain

/-- A word that is the first token of the text of a path, and is the path, spells it. -/
theorem spellsName_of_scan {path arguments : String} {scanned : Tokens}
    (scans : scan (pathText path arguments) = .ok scanned) {before behind : List Placed}
    {first : Placed} (tokens : scanned.tokens = before ++ first :: behind)
    (front : first.place = .start) (word : first.token = .word path) :
    spellsName path.toList = true := by
  rw [pathText_eq] at scans
  cases chars : path.toList with
  | nil =>
    rw [chars] at scans
    obtain ⟨count, found⟩ := lexeme_of_scan scans tokens front
    exact nomatch (show lexeme false ' ' arguments.toList = (.gap, 0) from rfl).symm.trans found
  | cons c rest =>
    rw [chars] at scans
    obtain ⟨next, others, written, starts⟩ := exists_front rest (c := c)
    have spelled := word_escaped_iff (c :: rest) arguments.toList
    rw [written] at scans spelled
    obtain ⟨count, found⟩ := lexeme_of_scan scans tokens front
    rw [word] at found
    obtain ⟨begins, same⟩ := (lexeme_word_iff _ path).mp ⟨count, found⟩
    refine Bool.and_eq_true_iff.mpr ⟨starts.mp begins, spelled.mp ?_⟩
    rw [← chars, ← same, String.toList_ofList]
    rfl

/-- **The text of a path is a call of the path exactly when the path is callable**, as soon as it is a
script at all. -/
theorem callsFirst_iff {path arguments : String} {deeds : List Statement}
    (reads : read (pathText path arguments) = .ok deeds) :
    CallsFirst path deeds ↔ isCallable path = true := by
  obtain ⟨scanned, scans, phrase⟩ := (script_iff.2.2.1 _ _).mp reads
  constructor
  · rintro ⟨passed, segments, others, rfl⟩
    obtain ⟨before, first, row, behind, tokens, _, place, deed⟩ := phrase.first
    obtain ⟨word, other⟩ := (isAction_call_iff deed path).mp ⟨passed, segments, rfl⟩
    refine Bool.and_eq_true_iff.mpr ⟨spellsName_of_scan scans tokens place word, ?_⟩
    rw [other]
    rfl
  · intro callable
    have other : Text.sameName path "throw" = false := by
      simpa using (Bool.and_eq_true_iff.mp callable).2
    rw [scan_pathText callable] at scans
    cases further : scanFrom ((escapeFrom true '\n' path.toList).foldl Place.after .start) false 0
        (' ' :: arguments.toList) with
    | error e =>
      rw [further] at scans
      cases scans
    | ok behind =>
      rw [further] at scans
      cases scans
      obtain ⟨action, others, row, rfl, deed⟩ := phrase.exists_first
      obtain ⟨passed, segments, rfl⟩ := (isAction_call_iff deed path).mpr ⟨rfl, other⟩
      exact ⟨passed, segments, others, rfl⟩

end ShellSession.Script

namespace ShellSession

open Script Engine

/-! ### Script files -/

namespace Engine

/-- The script file that a run calls next, with its text. -/
def Run.calledFile? {α : Type} : Run α → Option (String × String)
  | .calling file text _ _ => some (file, text)
  | _ => none

/-- The script file that a command name stands for, with its text. -/
def scriptFile? (files : Files) (name : String) : Option (String × String) :=
  if (Builtin.ofName? name).isNone && files.isFile name then
    (files.readText name).toOption.map (name, ·)
  else none

/-- No built-in command calls a script file. -/
theorem calledFile?_builtin (builtin : Builtin) (passed : Arguments) (input : List Value)
    (s : Interpreter) : (builtin.run passed input s).calledFile? = none := by
  have ended : ∀ {α : Type} (result : Except Fault α) (s : Interpreter),
      (Eval.ofExcept result s).calledFile? = none := by
    intro α result s
    cases result <;> rfl
  cases builtin with
  | sleep => exact ended _ s
  | waitDebugger =>
    show (Builtin.runWaitDebugger s).calledFile? = none
    unfold Builtin.runWaitDebugger
    split <;> rfl
  | getVariable => exact ended _ s
  | setVariable =>
    unfold Builtin.run
    cases Builtin.runSetVariable passed <;> rfl
  | setBreakpoint =>
    show (Builtin.runSetBreakpoint passed s).calledFile? = none
    unfold Builtin.runSetBreakpoint
    cases Builtin.breakpointLine passed <;> rfl
  | removeBreakpoint =>
    show (Builtin.runRemoveBreakpoint passed s).calledFile? = none
    unfold Builtin.runRemoveBreakpoint
    cases Builtin.breakpointToRemove s.breakpoints passed <;> rfl
  | _ => rfl

/-- **The script file that a command calls is the one of its name**, whatever its arguments, its input
and the state of the interpreter. -/
theorem calledFile?_call (files : Files) (name : String) (passed : Arguments) (input : List Value)
    (s : Interpreter) : (call files name passed input s).calledFile? = scriptFile? files name := by
  unfold call scriptFile?
  cases Builtin.ofName? name with
  | some builtin => exact calledFile?_builtin builtin passed input s
  | none =>
    show (runFile files name passed s).calledFile? = _
    unfold runFile
    rw [Option.isNone_none, Bool.true_and]
    split
    · cases files.readText name <;> rfl
    · rfl

/-- A command by itself calls what it calls in a script. -/
theorem calledFile?_command (files : Files) (name : String) (parameters : List Parameter)
    (s : Interpreter) : (evalPipeline files ⟨[.command name parameters]⟩ s).calledFile? =
      scriptFile? files name := by
  rw [← calledFile?_call files name (.ofParameters parameters) [] s]
  show ((call files name (.ofParameters parameters) [] s).andThen _).calledFile? = _
  cases call files name (.ofParameters parameters) [] s with
  | done result t => cases result <;> rfl
  | _ => rfl

end Engine

/-! ### The call of a path -/

/-- **A script file is called by its path exactly when the path is callable.** The path with arguments
behind it is read, if it is a script at all, as a call of the command with that name just when the path
is callable; then all its characters belong to the name, and the rest is as the arguments say. The name
stands for the file that the path without arguments calls: the file at the path, unless a built-in
command has the name. -/
theorem scriptAt_calls_iff {files : Files} {path : String} (found : files.isFile path = true)
    (arguments : String) :
    Payload.scriptAt path (some arguments) = .script (pathText path arguments) ∧
    (∀ deeds, read (pathText path arguments) = .ok deeds →
      (CallsFirst path deeds ↔ isCallable path = true)) ∧
    (isCallable path = true → ∃ behind, scan (pathText path arguments) =
      (scanFrom behind false 0 (' ' :: arguments.toList)).map (Tokens.cons ⟨.word path, .start⟩)) ∧
    (∀ passed input s t, (call files path passed input s).calledFile? =
      (evalPipeline files ⟨[.command path []]⟩ t).calledFile?) ∧
    (Builtin.ofName? path = none → ∀ text, files.readText path = .ok text → ∀ passed input s,
      (call files path passed input s).calledFile? = some (path, text)) := by
  refine ⟨rfl, fun deeds => callsFirst_iff, fun callable => ⟨_, scan_pathText callable arguments⟩,
    fun passed input s t => ?_, fun other text reads passed input s => ?_⟩
  · rw [calledFile?_call, calledFile?_command]
  · rw [calledFile?_call, scriptFile?, other, found, reads]
    rfl

/-- A file with a number in parentheses, as copies are named. -/
def copiedFile : Files :=
  Files.none.add "report (1).ps1" ⟨#[]⟩

/-- The number in parentheses is read as an argument, and the command is another one. -/
theorem scriptAt_calls_parenthesis : copiedFile.isFile "report (1).ps1" = true ∧
    ∃ deeds, read (pathText "report (1).ps1" "7") = .ok deeds ∧
      ¬ CallsFirst "report (1).ps1" deeds := by
  have found : copiedFile.isFile "report (1).ps1" = true := by decide +kernel
  have isScript : (read (pathText "report (1).ps1" "7")).isOk = true := by decide +kernel
  cases reads : read (pathText "report (1).ps1" "7") with
  | error e =>
    rw [reads] at isScript
    cases isScript
  | ok deeds =>
    refine ⟨found, deeds, rfl, fun first => ?_⟩
    exact absurd (((scriptAt_calls_iff found "7").2.1 deeds reads).mp first) (by decide)

/-- Brackets and blanks are no hindrance. -/
example : isCallable "my [scripts]/add 2.ps1" = true := by
  decide

end ShellSession

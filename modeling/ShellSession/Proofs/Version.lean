/-
**Version texts.**

A text denotes numbers when it has, between blanks, a part for each of them and points between the parts.
Texts that denote at least one number are read, and no others; the first number counts, and the second.

* `IsPart`, `Denotes`: the parts of a version text, and the numbers that a text denotes;
* `readNumbers_eq_some_iff`: **the numbers that are read are those that the text denotes**;
* `readNumbers_append`: a part that is written behind a text adds its number;
* `read_exact`: **version texts are read exactly**, displayed versions among them.
-/

import Mathlib.Data.List.Forall2
import Mathlib.Data.Prod.Lex
import ShellSession.Proofs.Decimal.Numeral
import ShellSession.Version

namespace ShellSession.Version

/-! ### Parts and numbers -/

/-- A part of a version text and its number: digits below `2 ^ 32`, with a plus sign or without. -/
def IsPart (part : List Char) (number : Nat) : Prop :=
  ∃ digits, (part = digits ∨ part = '+' :: digits) ∧ digits ≠ [] ∧ (∀ c ∈ digits, c.isDigit) ∧
    number = Nat.ofDigitChars 10 digits 0 ∧ number < 2 ^ 32

/-- A text denotes numbers: between blanks it has parts, one for each number, with points in between. -/
def Denotes (text : String) (numbers : List Nat) : Prop :=
  ∃ before parts after, text.toList = before ++ (['.'].intercalate parts ++ after) ∧
    (∀ c ∈ before, Text.isBlank c) ∧ (∀ c ∈ after, Text.isBlank c) ∧
      parts ≠ [] ∧ List.Forall₂ IsPart parts numbers

variable {text : String} {part : List Char} {number : Nat} {numbers : List Nat} {c : Char}

theorem readPart_eq_some_iff : readPart part = some number ↔ IsPart part number := by
  unfold readPart Decimal.readUnsigned IsPart
  simp only [Option.filter_eq_some_iff, Decimal.readDigits_eq_some_iff, decide_eq_true_eq]
  show _ ∧ number < 2 ^ 32 ↔ _
  constructor
  · rintro ⟨⟨nonempty, every, value⟩, bound⟩
    refine ⟨_, ?_, nonempty, every, value, bound⟩
    split
    · exact .inr rfl
    · exact .inl rfl
  · rintro ⟨digits, written, nonempty, every, value, bound⟩
    refine ⟨?_, bound⟩
    rcases written with rfl | rfl
    · -- Digits do not begin with a plus sign.
      split
      · exact absurd (every '+' List.mem_cons_self) (by decide)
      · exact ⟨nonempty, every, value⟩
    · exact ⟨nonempty, every, value⟩

/-- The characters of a part. -/
theorem IsPart.chars (is : IsPart part number) (found : c ∈ part) : c = '+' ∨ c.isDigit := by
  obtain ⟨digits, rfl | rfl, _, every, _⟩ := is
  · exact .inr (every c found)
  · exact (List.mem_cons.mp found).imp_right (every c)

theorem IsPart.ne_nil (is : IsPart part number) : part ≠ [] := by
  obtain ⟨digits, rfl | rfl, nonempty, _⟩ := is
  · exact nonempty
  · exact List.cons_ne_nil _ _

theorem IsPart.solid (is : IsPart part number) (found : c ∈ part) : Text.isBlank c = false := by
  rcases is.chars found with rfl | digit
  · decide
  · exact Decimal.isBlank_of_isDigit digit

theorem IsPart.unpointed (is : IsPart part number) : '.' ∉ part := fun found => by
  rcases is.chars found with same | digit
  · exact absurd same (by decide)
  · exact absurd digit (by decide)

/-- A number below the bound is written as a part. -/
theorem isPart_digits (bound : number < 2 ^ 32) : IsPart (Decimal.digits number) number :=
  ⟨_, .inl rfl, Nat.toDigits_ne_nil, fun _ => Decimal.isDigit_of_mem_digits,
    (Nat.ofDigitChars_ten_toDigits).symm, bound⟩

/-! ### Reading numbers -/

/-- The numbers of the parts of a text. -/
def readNumbers (text : String) : Option (List Nat) :=
  (Text.splitAt '.' (Text.trimChars text.toList)).mapM readPart

theorem mapM_readPart {parts : List (List Char)} :
    parts.mapM readPart = some numbers ↔ List.Forall₂ IsPart parts numbers := by
  induction parts generalizing numbers with
  | nil => simp [eq_comm]
  | cons part parts ih =>
    simp only [List.mapM_cons, Option.bind_eq_bind, Option.bind_eq_some_iff, Option.pure_def,
      Option.some_inj, readPart_eq_some_iff, ih, List.forall₂_cons_left_iff, eq_comm (b := numbers)]
    simp only [exists_and_left]

theorem exists_isPart {parts : List (List Char)} (are : List.Forall₂ IsPart parts numbers) :
    ∀ part ∈ parts, ∃ number, IsPart part number := by
  induction are with
  | nil => exact nofun
  | cons is _ ih => exact List.forall_mem_cons.mpr ⟨⟨_, is⟩, ih⟩

/-- Parts with points between them hold no blank. -/
theorem solid_intercalate {parts : List (List Char)} (are : List.Forall₂ IsPart parts numbers) :
    ∀ c ∈ ['.'].intercalate parts, Text.isBlank c = false := by
  induction are with
  | nil => simp
  | @cons part number parts numbers is are ih =>
    intro c found
    by_cases last : parts = []
    · rw [last, List.intercalate_singleton] at found
      exact is.solid found
    · rw [List.intercalate_cons_of_ne_nil last] at found
      simp only [List.mem_append, List.mem_singleton] at found
      rcases found with (here | rfl) | later
      · exact is.solid here
      · decide
      · exact ih c later

/-- **The numbers that are read are those that the text denotes.** -/
theorem readNumbers_eq_some_iff : readNumbers text = some numbers ↔ Denotes text numbers := by
  rw [readNumbers, Text.splitAt_eq_splitOn, mapM_readPart]
  constructor
  · intro are
    obtain ⟨before, after, same, blank, blank'⟩ := Text.exists_trimmed text.toList
    refine ⟨before, _, after, ?_, blank, blank', List.splitOn_ne_nil _ _, are⟩
    rwa [List.intercalate_splitOn]
  · rintro ⟨before, parts, after, same, blank, blank', nonempty, are⟩
    have apart : ∀ part ∈ parts, '.' ∉ part := by
      intro part found
      obtain ⟨number, is⟩ := exists_isPart are part found
      exact is.unpointed
    rwa [same, Text.trimChars_append blank blank', Text.trimChars_eq_self (solid_intercalate are),
      List.splitOn_intercalate '.' apart nonempty]

/-- What is read of a text is the first number and the second one. -/
theorem read_eq_some_iff {version : Version} : read text = some version ↔
    ∃ major further, Denotes text (major :: further) ∧ version = ⟨major, further.headD 0⟩ := by
  simp only [← readNumbers_eq_some_iff]
  unfold read
  rw [← readNumbers]
  rcases readNumbers text with _ | _ | ⟨major, _ | ⟨minor, further⟩⟩ <;> simp [eq_comm]

/-! ### What stands around and behind -/

/-- Blanks around a version text make no difference. -/
theorem read_padded {before after : String} (blank : ∀ c ∈ before.toList, Text.isBlank c)
    (blank' : ∀ c ∈ after.toList, Text.isBlank c) : read (before ++ text ++ after) = read text := by
  have trimmed : Text.trimChars (before ++ text ++ after).toList = Text.trimChars text.toList := by
    rw [String.toList_append, String.toList_append, List.append_assoc,
      Text.trimChars_append blank blank']
  unfold read
  rw [trimmed]

/-- What ends with a part does not end with a blank. -/
theorem IsPart.solid_getLast? (is : IsPart part number) (front : List Char) :
    ∀ c ∈ (front ++ '.' :: part).getLast?, Text.isBlank c = false := by
  intro c found
  rw [List.getLast?_append, List.getLast?_cons, List.getLast?_eq_some_getLast is.ne_nil] at found
  exact is.solid (Option.some.inj found ▸ List.getLast_mem is.ne_nil)

theorem toList_pointed (text part : String) :
    (text ++ "." ++ part).toList = text.toList ++ '.' :: part.toList := by
  simp

/-- **A part that is written behind a text adds its number**, where the text has a point and does not end
with a blank. -/
theorem readNumbers_append (point : '.' ∈ text.toList)
    (last : ∀ c ∈ text.toList.getLast?, Text.isBlank c = false) {part : String}
    (is : IsPart part.toList number) :
    readNumbers (text ++ "." ++ part) = (readNumbers text).map (· ++ [number]) := by
  have read : readPart part.toList = some number := readPart_eq_some_iff.mpr is
  simp only [readNumbers, toList_pointed, Text.splitAt_eq_splitOn]
  rw [Text.trimChars_append_right point (by decide) last (is.solid_getLast? _),
    List.splitOn_append_cons_self, List.splitOn_eq_singleton is.unpointed, List.mapM_append]
  cases List.mapM readPart _ <;> simp [read]

/-- A text with a point denotes two numbers at least, if it denotes any. -/
theorem two_le_length (point : '.' ∈ text.toList) (reads : readNumbers text = some numbers) :
    2 ≤ numbers.length := by
  obtain ⟨before, after, same, blank, blank'⟩ := Text.exists_trimmed text.toList
  have inside : '.' ∈ Text.trimChars text.toList := by
    rw [same, List.mem_append, List.mem_append] at point
    rcases point with front | inside | back
    · exact absurd (blank _ front) (by decide)
    · exact inside
    · exact absurd (blank' _ back) (by decide)
  obtain ⟨first, second, cut⟩ := List.append_of_mem inside
  rw [readNumbers, Text.splitAt_eq_splitOn, mapM_readPart, cut, List.splitOn_append_cons_self] at reads
  have front := List.length_pos_iff.mpr (List.splitOn_ne_nil '.' first)
  have back := List.length_pos_iff.mpr (List.splitOn_ne_nil '.' second)
  rw [← reads.length_eq, List.length_append]
  omega

/-- A part behind the second one makes no difference. -/
theorem read_append (point : '.' ∈ text.toList)
    (last : ∀ c ∈ text.toList.getLast?, Text.isBlank c = false) {part : String}
    (is : IsPart part.toList number) : read (text ++ "." ++ part) = read text := by
  unfold read
  rw [← readNumbers, ← readNumbers, readNumbers_append point last is]
  cases reads : readNumbers text with
  | none => rfl
  | some numbers =>
    match numbers, two_le_length point reads with
    | _ :: _ :: _, _ => rfl

/-- Parts behind the second one make no difference. -/
theorem read_join {further : List String} (are : ∀ part ∈ further, ∃ number, IsPart part.toList number)
    (point : '.' ∈ text.toList) (last : ∀ c ∈ text.toList.getLast?, Text.isBlank c = false) :
    read (text ++ String.join (further.map ("." ++ ·))) = read text := by
  induction further generalizing text with
  | nil => simp
  | cons part further ih =>
    obtain ⟨⟨number, is⟩, others⟩ := List.forall_mem_cons.mp are
    have longer : read (text ++ "." ++ part ++ String.join (further.map ("." ++ ·))) =
        read (text ++ "." ++ part) := by
      refine ih others ?_ ?_ <;> rw [toList_pointed]
      · exact List.mem_append_left _ point
      · exact is.solid_getLast? _
    rw [← read_append point last is, ← longer]
    simp [String.append_assoc]

/-! ### Displayed versions -/

/-- The numbers of a version that is read are below the bound. -/
theorem lt_of_read {version : Version} (reads : read text = some version) :
    version.major < 2 ^ 32 ∧ version.minor < 2 ^ 32 := by
  obtain ⟨major, further, ⟨_, _, _, _, _, _, _, are⟩, rfl⟩ := read_eq_some_iff.mp reads
  obtain ⟨_, _, ⟨_, _, _, _, _, bound⟩, others, rfl⟩ := List.forall₂_cons_right_iff.mp are
  refine ⟨bound, ?_⟩
  cases others with
  | nil => exact Nat.two_pow_pos 32
  | cons is _ =>
    obtain ⟨_, _, _, _, _, bound⟩ := is
    exact bound

/-- **A displayed version is read as itself**, as far as versions have numbers below the bound. -/
theorem read_display_iff {version : Version} : read version.display = some version ↔
    version.major < 2 ^ 32 ∧ version.minor < 2 ^ 32 := by
  refine ⟨lt_of_read, fun ⟨major, minor⟩ =>
    read_eq_some_iff.mpr ⟨version.major, [version.minor], ?_, rfl⟩⟩
  refine ⟨[], [Decimal.digits version.major, Decimal.digits version.minor], [], ?_, nofun, nofun,
    List.cons_ne_nil _ _, .cons (isPart_digits major) (.cons (isPart_digits minor) .nil)⟩
  simp [display, Decimal.natText, List.intercalate_cons_cons]

/-! ### All that reading does -/

/-- **Version texts are read exactly.** For every text:

* it is read exactly when it denotes a number at least, as the version of its first two numbers, where zero
  stands for a second one that is absent;
* a displayed version is read as itself, when its numbers are below the bound and only then;
* blanks around the text make no difference, nor do further parts behind the second one;
* it comes before another text, or behind it, as the first two numbers of both do, the first ones being
  compared first. -/
theorem read_exact (text : String) :
    (∀ version, read text = some version ↔
      ∃ major further, Denotes text (major :: further) ∧ version = ⟨major, further.headD 0⟩) ∧
    (∀ version : Version, read version.display = some version ↔
      version.major < 2 ^ 32 ∧ version.minor < 2 ^ 32) ∧
    (∀ before after : String, (∀ c ∈ before.toList, Text.isBlank c) →
      (∀ c ∈ after.toList, Text.isBlank c) → read (before ++ text ++ after) = read text) ∧
    (∀ further : List String, (∀ part ∈ further, ∃ number, IsPart part.toList number) →
      '.' ∈ text.toList → (∀ c ∈ text.toList.getLast?, Text.isBlank c = false) →
        read (text ++ String.join (further.map ("." ++ ·))) = read text) ∧
    ∀ other major further major' further', Denotes text (major :: further) →
      Denotes other (major' :: further') → ∃ version version', read text = some version ∧
        read other = some version' ∧ version.order version' =
          compare (toLex (major, further.headD 0)) (toLex (major', further'.headD 0)) := by
  refine ⟨fun version => read_eq_some_iff, fun version => read_display_iff,
    fun before after => read_padded, fun further => read_join, ?_⟩
  intro other major further major' further' denotes denotes'
  exact ⟨_, _, read_eq_some_iff.mpr ⟨major, further, denotes, rfl⟩,
    read_eq_some_iff.mpr ⟨major', further', denotes', rfl⟩, rfl⟩

/-- Blanks, a plus sign, leading zeros and further parts, and a text that comes behind. -/
theorem read_exact_padded : Denotes "\t+5.01.19041 " [5, 1, 19041] ∧ Denotes "5.10" [5, 10] ∧
    read "\t+5.01.19041 " = some ⟨5, 1⟩ ∧
      read ("5.10" ++ String.join ["." ++ "4294967295"]) = read "5.10" ∧
      ∃ version version', read "\t+5.01.19041 " = some version ∧ read "5.10" = some version' ∧
        version.order version' = .lt := by
  have denotes : Denotes "\t+5.01.19041 " [5, 1, 19041] := readNumbers_eq_some_iff.mp (by decide +kernel)
  have denotes' : Denotes "5.10" [5, 10] := readNumbers_eq_some_iff.mp (by decide +kernel)
  have part : IsPart "4294967295".toList 4294967295 := readPart_eq_some_iff.mp (by decide +kernel)
  have last : ∀ c ∈ "5.10".toList.getLast?, Text.isBlank c = false := by
    rw [show "5.10".toList.getLast? = some '0' from by decide +kernel]
    rintro c ⟨⟩
    decide
  refine ⟨denotes, denotes', ((read_exact _).1 _).mpr ⟨5, [1, 19041], denotes, rfl⟩, ?_, ?_⟩
  · exact (read_exact "5.10").2.2.2.1 ["4294967295"] (by simpa using ⟨_, part⟩) (by decide +kernel) last
  · obtain ⟨version, version', reads, reads', order⟩ :=
      (read_exact _).2.2.2.2 _ 5 [1, 19041] 5 [10] denotes denotes'
    exact ⟨version, version', reads, reads', order.trans rfl⟩

end ShellSession.Version

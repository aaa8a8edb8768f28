/-
**Where tokens and statements stand.**

A place counts the line ends in front of it, and the characters behind the last of them. Every token of a
text has the place of the character that its lexeme begins with, and a statement has that of its first
token.

* `Place.behind`, `Place.behind_eq`: the place behind characters, counted;
* `scan_spelled`: **every token stands where the text spells it**;
* `Statement.Begins`: a statement of a text that begins behind characters;
* `exists_begins`: **every statement has the place of its first character**.
-/

import Mathlib.Data.List.Induction
import ShellSession.Proofs.Script.Phrases

namespace ShellSession.Script

/-! ### Places -/

/-- The place behind characters at the front of a text. -/
def Place.behind (front : List Char) : Place :=
  front.foldl Place.after .start

theorem Place.behind_concat (front : List Char) (c : Char) :
    behind (front ++ [c]) = (behind front).after c :=
  List.foldl_append

/-- The characters behind the last line end. -/
def lastLine (front : List Char) : List Char :=
  (front.reverse.takeWhile (· ≠ '\n')).reverse

theorem lastLine_concat (front : List Char) (c : Char) :
    lastLine (front ++ [c]) = if c = '\n' then [] else lastLine front ++ [c] := by
  unfold lastLine
  rw [List.reverse_append, List.reverse_singleton, List.singleton_append]
  by_cases ends : c = '\n'
  · rw [if_pos ends, List.takeWhile_cons_of_neg (by simpa using ends)]
    rfl
  · rw [if_neg ends, List.takeWhile_cons_of_pos (by simpa using ends), List.reverse_cons]

/-- **Lines count the line ends in front, columns the characters behind the last one.** -/
theorem Place.behind_eq (front : List Char) :
    behind front = ⟨front.count '\n' + 1, (lastLine front).length + 1⟩ := by
  induction front using List.reverseRecOn with
  | nil => rfl
  | append_singleton front c ih =>
    rw [behind_concat, ih, lastLine_concat, List.count_append]
    unfold after
    by_cases ends : c = '\n'
    · rw [if_pos ends, if_pos ends, ends]
      rfl
    · rw [if_neg ends, if_neg ends, List.count_singleton, if_neg (by simpa using ends),
        List.length_append]
      rfl

/-! ### Tokens -/

/-- A token that a text spells behind characters at its front: the lexeme that begins there is the token,
and there is its place. -/
def Placed.Spelled (placed : Placed) (text : String) (front : List Char) : Prop :=
  placed.place = .behind front ∧ ∃ c rest afterValue,
    text.toList = front ++ c :: rest ∧ (lexeme afterValue c rest).1 = .token placed.token

/-- **The tokens that are read from a point on stand where the text spells them**, when the reader knows
where it is: by induction on the characters ahead. -/
theorem scanFrom_spelled {text : String} (ahead : List Char) :
    ∀ {front : List Char} {afterValue : Bool} {skip : Nat} {scanned : Tokens},
      text.toList = front ++ ahead →
        scanFrom (.behind front) afterValue skip ahead = .ok scanned →
          ∀ placed ∈ scanned.tokens, ∃ before, placed.Spelled text before := by
  induction ahead with
  | nil =>
    intro front afterValue skip scanned _ scans placed member
    cases scans
    cases member
  | cons c rest ih =>
    intro front afterValue skip scanned spells scans placed member
    have further : text.toList = (front ++ [c]) ++ rest := by
      rw [spells, List.append_assoc, List.singleton_append]
    unfold scanFrom at scans
    rw [← Place.behind_concat] at scans
    cases skip with
    | succ skip => exact ih further scans placed member
    | zero =>
      cases begins : lexeme afterValue c rest with
      | mk found count =>
        rw [begins] at scans
        cases found with
        | gap => exact ih further scans placed member
        | fault fault => cases scans
        | token token =>
          dsimp only at scans
          cases others : scanFrom (.behind (front ++ [c])) token.endsValue count rest with
          | error error =>
            rw [others] at scans
            cases scans
          | ok behind =>
            rw [others] at scans
            cases scans
            rcases List.mem_cons.mp member with rfl | later
            · exact ⟨front, rfl, c, rest, afterValue, spells, congrArg Prod.fst begins⟩
            · exact ih further others placed later

/-- **Every token stands where the text spells it.** -/
theorem scan_spelled {text : String} {scanned : Tokens} (scans : scan text = .ok scanned) :
    ∀ placed ∈ scanned.tokens, ∃ front, placed.Spelled text front :=
  scanFrom_spelled text.toList (List.nil_append _).symm scans

/-! ### Statements -/

/-- The statements of a row are rows within it. -/
theorem IsStatements.exists_row {row : List Placed} {statements : List Statement}
    (deeds : IsStatements row statements) :
    ∀ statement ∈ statements, ∃ own, IsStatement own statement ∧ own <:+: row := by
  induction deeds with
  | one deed =>
    intro statement member
    cases List.mem_singleton.mp member
    exact ⟨_, deed, List.infix_rfl⟩
  | @more row between rest _ _ deed _ _ _ ih =>
    intro statement member
    rcases List.mem_cons.mp member with rfl | later
    · exact ⟨row, deed, (List.prefix_append row _).isInfix⟩
    · obtain ⟨own, is, within⟩ := ih statement later
      have behind : rest <:+ row ++ (between ++ rest) :=
        (List.suffix_append between rest).trans (List.suffix_append row _)
      exact ⟨own, is, within.trans behind.isInfix⟩

/-- The statements of a script are rows within it. -/
theorem IsScript.exists_row {row : List Placed} {statements : List Statement}
    (script : IsScript row statements) :
    ∀ statement ∈ statements, ∃ own, IsStatement own statement ∧ own <:+: row := by
  cases script with
  | empty separators => exact nofun
  | @statements before row behind _ _ deeds _ =>
    intro statement member
    obtain ⟨own, is, within⟩ := deeds.exists_row statement member
    have inside : row <:+: before ++ (row ++ behind) :=
      (List.prefix_append row behind).isInfix.trans (List.suffix_append before _).isInfix
    exact ⟨own, is, within.trans inside⟩

/-- A statement of a text whose first token the text spells behind characters at its front. -/
def Statement.Begins (statement : Statement) (text : String) (front : List Char) : Prop :=
  ∃ scanned first others, scan text = .ok scanned ∧ first :: others <:+: scanned.tokens ∧
    IsStatement (first :: others) statement ∧ first.Spelled text front

/-- A statement has the place of its first character. -/
theorem Statement.Begins.place {statement : Statement} {text : String} {front : List Char}
    (begins : statement.Begins text front) :
    statement.place = ⟨front.count '\n' + 1, (lastLine front).length + 1⟩ := by
  obtain ⟨_, _, _, _, _, is, here, _⟩ := begins
  obtain ⟨_⟩ := is
  exact here.trans (Place.behind_eq front)

/-- **Every statement of a text begins somewhere in it.** -/
theorem exists_begins {text : String} {statements : List Statement}
    (reads : read text = .ok statements) :
    ∀ statement ∈ statements, ∃ front, statement.Begins text front := by
  intro statement member
  unfold read at reads
  cases scans : scan text with
  | error error =>
    rw [scans] at reads
    cases reads
  | ok scanned =>
    rw [scans] at reads
    dsimp only at reads
    cases parses : script scanned.tokens with
    | error rest =>
      rw [parses] at reads
      cases reads
    | ok found =>
      rw [parses] at reads
      cases reads
      obtain ⟨own, is, within⟩ := (isScript_of_script parses).exists_row statement member
      obtain ⟨first, others, rfl, _⟩ := is.starts
      obtain ⟨front, spelled⟩ := scan_spelled scans first (within.subset List.mem_cons_self)
      exact ⟨front, scanned, first, others, scans, within, is, spelled⟩

end ShellSession.Script

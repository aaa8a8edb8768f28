/-
**How a text is laid out.**

A text is laid out in gaps and tokens, one behind the other and without anything in between. Each token has
the place of its first character, which counts the line ends in front of it and the characters behind the
last of them. A text that has no tokens is laid out so far as the point where a fault arises, and the fault
has the place of that point.

* `LaidOut`: the tokens that characters are laid out in, as far as some point;
* `LaidOut.ascending`: **places ascend**;
* `scans`: scanning from a point goes as the text is laid out;
* `places_exact`: **places say where tokens and faults are**.
-/

import Mathlib.Data.Prod.Lex
import ShellSession.Proofs.Script.Lexemes
import ShellSession.Proofs.Script.Places

namespace ShellSession.Script

/-! ### Layouts -/

/-- The characters behind others are laid out in gaps and tokens up to a stop. -/
inductive LaidOut (stop : List Char) : List Char → List Char → List Placed → Prop
  | done {front : List Char} : LaidOut stop front stop []
  | gap {front chars behind : List Char} {row : List Placed} : IsGap behind chars →
      LaidOut stop (front ++ chars) behind row → LaidOut stop front (chars ++ behind) row
  | token {front chars behind : List Char} {row : List Placed} {token : Token} :
      token.IsWritten behind chars → LaidOut stop (front ++ chars) behind row →
        LaidOut stop front (chars ++ behind)
          (⟨token, ⟨front.count '\n' + 1, (lastLine front).length + 1⟩⟩ :: row)

variable {front ahead stop chars rest : List Char} {row : List Placed} {placed : Placed} {c : Char}

/-- A token is written with a character at least. -/
theorem Token.IsWritten.ne_nil {token : Token} (written : token.IsWritten rest chars) :
    chars ≠ [] := by
  cases written with
  | int nonempty _ _ => exact nonempty
  | compound sign => simp
  | operator sign =>
    obtain ⟨c, same, _⟩ := exists_symbol sign
    rw [same]
    exact List.cons_ne_nil _ _
  | _ => simp

/-- A token of a layout is written behind the characters that its place counts. -/
theorem LaidOut.exists_written (laid : LaidOut stop front ahead row) (member : placed ∈ row) :
    ∃ before chars behind, front ++ ahead = before ++ (chars ++ behind) ∧
      placed.token.IsWritten behind chars ∧
        placed.place = ⟨before.count '\n' + 1, (lastLine before).length + 1⟩ := by
  induction laid with
  | done => cases member
  | gap _ _ ih =>
    rw [← List.append_assoc]
    exact ih member
  | @token front chars behind row token written _ ih =>
    rcases List.mem_cons.mp member with rfl | later
    · exact ⟨front, chars, behind, rfl, written, rfl⟩
    · rw [← List.append_assoc]
      exact ih later

/-! ### The order of places -/

/-- Places are ordered by lines, and within a line by columns. -/
def Place.key (place : Place) : ℕ ×ₗ ℕ :=
  toLex (place.line, place.column)

theorem Place.key_lt_after (place : Place) (c : Char) : place.key < (place.after c).key := by
  unfold key after
  by_cases ends : c = '\n'
  · rw [if_pos ends, Prod.Lex.toLex_lt_toLex]
    exact .inl (Nat.lt_succ_self _)
  · rw [if_neg ends, Prod.Lex.toLex_lt_toLex]
    exact .inr ⟨rfl, Nat.lt_succ_self _⟩

theorem Place.key_le_behind (front chars : List Char) :
    (behind front).key ≤ (behind (front ++ chars)).key := by
  induction chars using List.reverseRecOn with
  | nil => rw [List.append_nil]
  | append_singleton chars c ih =>
    rw [← List.append_assoc, behind_concat]
    exact ih.trans (key_lt_after _ c).le

/-- Behind further characters is a later place. -/
theorem Place.key_lt_behind (front : List Char) (nonempty : chars ≠ []) :
    (behind front).key < (behind (front ++ chars)).key := by
  obtain ⟨c, others, rfl⟩ := List.exists_cons_of_ne_nil nonempty
  calc (behind front).key < ((behind front).after c).key := key_lt_after _ c
    _ = (behind (front ++ [c])).key := by rw [behind_concat]
    _ ≤ (behind (front ++ [c] ++ others)).key := key_le_behind _ others
    _ = (behind (front ++ c :: others)).key := by rw [List.append_assoc, List.singleton_append]

/-- The places of a row of tokens, and then one more. -/
def places (row : List Placed) (finish : Place) : List (ℕ ×ₗ ℕ) :=
  (row.map Placed.place ++ [finish]).map Place.key

/-- No place of a layout is in front of the point where it begins. -/
theorem LaidOut.le_places (laid : LaidOut [] front ahead row) :
    ∀ key ∈ places row (.behind (front ++ ahead)), (Place.behind front).key ≤ key := by
  induction laid with
  | done => simp [places]
  | gap _ _ ih =>
    intro key member
    rw [← List.append_assoc] at member
    exact (Place.key_le_behind _ _).trans (ih key member)
  | token _ _ ih =>
    intro key member
    rw [← List.append_assoc] at member
    rcases List.mem_cons.mp member with rfl | later
    · rw [Place.behind_eq]
    · exact (Place.key_le_behind _ _).trans (ih key later)

/-- **Places ascend** from token to token and to the end. -/
theorem LaidOut.ascending (laid : LaidOut [] front ahead row) :
    (places row (.behind (front ++ ahead))).Pairwise (· < ·) := by
  induction laid with
  | done => simp [places]
  | gap _ _ ih =>
    rw [← List.append_assoc]
    exact ih
  | token written laid ih =>
    rw [← List.append_assoc]
    refine .cons (fun key later => ?_) ih
    rw [← Place.behind_eq]
    exact (Place.key_lt_behind _ written.ne_nil).trans_le (laid.le_places key later)

/-! ### Scanning -/

/-- What scanning the characters behind others comes to: the tokens that they are laid out in, with the
place of the end; or the first fault, with the place where it arises. -/
def Scans (front ahead : List Char) : Except SyntaxError Tokens → Prop
  | .ok scanned => LaidOut [] front ahead scanned.tokens ∧ scanned.finish = .behind (front ++ ahead)
  | .error error => ∃ seen stop row, ahead = seen ++ stop ∧ LaidOut stop front ahead row ∧
      error.place = .behind (front ++ seen) ∧ error.fault.Arises stop

variable {scanned : Except SyntaxError Tokens}

theorem Scans.gap (scans : Scans (front ++ chars) rest scanned) (is : IsGap rest chars) :
    Scans front (chars ++ rest) scanned := by
  cases scanned with
  | ok scanned =>
    obtain ⟨laid, finish⟩ := scans
    exact ⟨.gap is laid, by rw [finish, List.append_assoc]⟩
  | error error =>
    obtain ⟨seen, stop, row, rfl, laid, place, arises⟩ := scans
    exact ⟨chars ++ seen, stop, row, by rw [List.append_assoc], .gap is laid,
      by rw [place, List.append_assoc], arises⟩

theorem Scans.token {token : Token} (scans : Scans (front ++ chars) rest scanned)
    (written : token.IsWritten rest chars) :
    Scans front (chars ++ rest) (scanned.map (Tokens.cons ⟨token, .behind front⟩)) := by
  rw [Place.behind_eq]
  cases scanned with
  | ok scanned =>
    obtain ⟨laid, finish⟩ := scans
    exact ⟨.token written laid, by rw [← List.append_assoc, ← finish]; rfl⟩
  | error error =>
    obtain ⟨seen, stop, row, rfl, laid, place, arises⟩ := scans
    exact ⟨chars ++ seen, stop, _, by rw [List.append_assoc], .token written laid,
      by rw [← List.append_assoc, ← place], arises⟩

/-- The characters of a lexeme are passed over, and their places counted. -/
theorem scanFrom_passed (front chars rest : List Char) (c : Char) (afterValue : Bool) :
    scanFrom ((Place.behind front).after c) afterValue chars.length (chars ++ rest) =
      scanFrom (.behind (front ++ c :: chars)) afterValue 0 rest := by
  rw [scanFrom_skip]
  unfold Place.behind
  rw [List.foldl_append, List.foldl_cons]

/-- **Scanning goes as the text is laid out**: by induction on the number of characters ahead, of which
every lexeme takes one at least. -/
theorem scans (front ahead : List Char) (afterValue : Bool) :
    Scans front ahead (scanFrom (.behind front) afterValue 0 ahead) := by
  induction size : ahead.length using Nat.strong_induction_on generalizing front ahead afterValue with
  | _ size ih =>
    cases ahead with
    | nil => exact ⟨.done, by rw [List.append_nil]⟩
    | cons c rest =>
      have further : ∀ {chars behind : List Char}, rest = chars ++ behind → ∀ afterValue,
          Scans (front ++ c :: chars) behind
            (scanFrom ((Place.behind front).after c) afterValue chars.length rest) := by
        rintro chars behind rfl afterValue
        rw [scanFrom_passed]
        refine ih behind.length ?_ _ behind afterValue rfl
        rw [← size, List.length_cons, List.length_append]
        omega
      have taken := taken_lexeme afterValue c rest
      rw [scanFrom_zero]
      generalize lexeme afterValue c rest = found at taken
      cases taken with
      | gap same is =>
        have ahead := (further same afterValue).gap is
        rwa [List.cons_append, ← same] at ahead
      | @token token chars behind same written =>
        have ahead := (further same token.endsValue).token written
        rwa [List.cons_append, ← same] at ahead
      | fault arises => exact ⟨[], c :: rest, [], rfl, .done, by rw [List.append_nil], arises⟩

/-! ### All that places say -/

/-- **Places say where tokens and faults are.** When a text is scanned,

* it is laid out in the tokens, with blanks and comments between them: each of them is written behind the
  characters that its place counts, the lines by the line ends among them and the columns by the characters
  behind the last of these;
* the end has the place behind all characters, and places ascend from token to token and to the end.

When a text is refused, it is laid out in gaps and tokens up to a point; what stands there is what the fault
arises from, and the error has the place of that point. -/
theorem places_exact (text : String) :
    (∀ scanned, scan text = .ok scanned →
      LaidOut [] [] text.toList scanned.tokens ∧
      (∀ placed ∈ scanned.tokens, ∃ front chars behind, text.toList = front ++ (chars ++ behind) ∧
        placed.token.IsWritten behind chars ∧
          placed.place = ⟨front.count '\n' + 1, (lastLine front).length + 1⟩) ∧
      scanned.finish = ⟨text.toList.count '\n' + 1, (lastLine text.toList).length + 1⟩ ∧
      (places scanned.tokens scanned.finish).Pairwise (· < ·)) ∧
    ∀ error, scan text = .error error → ∃ front ahead row, text.toList = front ++ ahead ∧
      LaidOut ahead [] text.toList row ∧ error.fault.Arises ahead ∧
        error.place = ⟨front.count '\n' + 1, (lastLine front).length + 1⟩ := by
  have goes := scans [] text.toList false
  constructor
  · intro scanned reads
    rw [show scanFrom (.behind []) false 0 text.toList = .ok scanned from reads] at goes
    obtain ⟨laid, finish⟩ := goes
    refine ⟨laid, fun placed => laid.exists_written, finish.trans (Place.behind_eq _), ?_⟩
    rw [finish]
    exact laid.ascending
  · intro error reads
    rw [show scanFrom (.behind []) false 0 text.toList = .error error from reads] at goes
    obtain ⟨seen, stop, row, same, laid, place, arises⟩ := goes
    exact ⟨seen, stop, row, same, laid, arises, place.trans (Place.behind_eq seen)⟩

/-- A text over a line end, with a comment behind it, and a text that is not closed on a second line. -/
theorem places_exact_lines :
    (∃ scanned, scan "$a\n+= 'x\ny' # z" = .ok scanned ∧
      scanned.tokens.map Placed.place = [⟨1, 1⟩, ⟨1, 3⟩, ⟨2, 1⟩, ⟨2, 4⟩] ∧
      LaidOut [] [] "$a\n+= 'x\ny' # z".toList scanned.tokens ∧ scanned.finish = ⟨3, 7⟩) ∧
    ∃ error, scan "1 +\n 'oops" = .error error ∧ error.place = ⟨2, 2⟩ ∧
      ∃ front ahead row, "1 +\n 'oops".toList = front ++ ahead ∧
        LaidOut ahead [] "1 +\n 'oops".toList row ∧ error.fault.Arises ahead := by
  constructor
  · have known : ((scan "$a\n+= 'x\ny' # z").toOption.map fun scanned =>
        scanned.tokens.map Placed.place) = some [⟨1, 1⟩, ⟨1, 3⟩, ⟨2, 1⟩, ⟨2, 4⟩] := by decide +kernel
    cases reads : scan "$a\n+= 'x\ny' # z" with
    | error error =>
      rw [reads] at known
      cases known
    | ok scanned =>
      rw [reads] at known
      obtain ⟨laid, _, finish, _⟩ := (places_exact _).1 scanned reads
      exact ⟨scanned, rfl, Option.some.inj known, laid, finish.trans (by decide)⟩
  · have known : (match scan "1 +\n 'oops" with
        | .ok _ => none
        | .error error => some error.place) = some ⟨2, 2⟩ := by decide +kernel
    cases reads : scan "1 +\n 'oops" with
    | ok scanned =>
      rw [reads] at known
      cases known
    | error error =>
      rw [reads] at known
      obtain ⟨front, ahead, row, same, laid, arises, _⟩ := (places_exact _).2 error reads
      exact ⟨error, rfl, Option.some.inj known, front, ahead, row, same, laid, arises⟩

end ShellSession.Script

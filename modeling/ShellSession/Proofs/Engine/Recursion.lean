/-
**Script files that are not recursive.**

A text calls the script files whose names occur in it as names of commands. When no file calls itself,
neither directly nor through others, a chain of calls passes through different files, so it is no longer
than there are files: with every call, one file less can still be called.

* `Script.commands`: the names of the commands in a text;
* `Files.Calls`, `Files.IsRecursive`: which file calls which, and files that come back to themselves;
* `Files.Shallow`: a name from which calls go so deep at most;
* `Files.shallow_count`: **without recursion, calls go no deeper than there are files**.
-/

import Mathlib.Data.Finset.Card
import Mathlib.Logic.Relation
import ShellSession.Engine.Evaluate

namespace ShellSession

/-! ### Names of commands -/

namespace Script

mutual

/-- The names of the commands in an expression, each as often as it occurs there. -/
def Expr.commands : Expr → List String
  | .literal _ => []
  | .reference _ => []
  | .binary left _ right => left.commands ++ right.commands
  | .negate operand => operand.commands
  | .list items => commandsOfItems items
  | .group segments => commandsOfSegments segments

/-- The names of the commands in expressions. -/
def commandsOfItems : List Expr → List String
  | [] => []
  | item :: rest => item.commands ++ commandsOfItems rest

/-- The names of the commands in the segments of a pipeline. -/
def commandsOfSegments : List Segment → List String
  | [] => []
  | .expr expr :: rest => expr.commands ++ commandsOfSegments rest
  | .call name arguments :: rest =>
    commandsOfArguments arguments ++ name :: commandsOfSegments rest

/-- The names of the commands in the arguments of a call. -/
def commandsOfArguments : List Argument → List String
  | [] => []
  | .named _ none :: rest => commandsOfArguments rest
  | .named _ (some value) :: rest => value.commands ++ commandsOfArguments rest
  | .positional value :: rest => value.commands ++ commandsOfArguments rest

end

/-- The names of the commands in a statement. -/
def Statement.commands (statement : Statement) : List String :=
  match statement.action with
  | .assign _ _ segments => commandsOfSegments segments
  | .raise none => []
  | .raise (some value) => value.commands
  | .run segments => commandsOfSegments segments

/-- The statements of a text; one that is no script has none. -/
def parts (text : String) : List Statement :=
  match read text with
  | .ok statements => statements
  | .error _ => []

/-- The names of the commands in a text. -/
def commands (text : String) : List String :=
  (parts text).flatMap Statement.commands

end Script

/-! ### Calls -/

namespace Files

open Engine

variable {files : Files} {name other text : String} {path : List String}

/-- The paths of all files. -/
def paths (files : Files) : Finset (List String) :=
  (files.entries.map Prod.fst).toFinset

/-- How many files there are. -/
def count (files : Files) : Nat :=
  files.paths.card

/-- Whether a command is the call of a script file with a text. -/
def Runs (files : Files) (name text : String) : Prop :=
  Builtin.ofName? name = .none ∧ files.readText name = .ok text

/-- Whether the text of a file calls another file. -/
def Calls (files : Files) (caller callee : String) : Prop :=
  ∃ text, files.readText caller = .ok text ∧ callee ∈ Script.commands text ∧
    Builtin.ofName? callee = .none ∧ files.isFile callee = true

/-- Whether some file calls itself, directly or through others. -/
def IsRecursive (files : Files) : Prop :=
  ∃ name, Relation.TransGen files.Calls name name

/-- A name from which calls go so deep at most: the file of the name is on top of what its text calls. -/
def Shallow (files : Files) : Nat → String → Prop
  | 0, name => ∀ text, ¬files.Runs name text
  | depth + 1, name =>
    ∀ text, files.Runs name text → ∀ callee ∈ Script.commands text, files.Shallow depth callee

/-! ### Files and their paths -/

/-- A name leads to the file under a path. -/
def Leads (files : Files) (name : String) (path : List String) : Prop :=
  ∃ bytes, files.find name = .ok (.file bytes) ∧ files.content? path = some bytes

/-- What is entered is a file only under its own path. -/
theorem exists_content_of_enter {location : Location} {bytes : ByteArray}
    (entered : files.enter location name = .ok (.file bytes)) :
    ∃ path, files.content? path = some bytes := by
  unfold enter at entered
  split at entered
  · cases entered
  · rename_i names
    split at entered
    · cases entered
    · split at entered
      · cases entered
      · unfold enterNamed at entered
        split at entered
        · cases entered
        · split at entered
          · rename_i found
            cases entered
            exact ⟨_, found⟩
          · split at entered <;> cases entered

theorem exists_content_of_follow {names : List String} {location : Location} {bytes : ByteArray}
    (known : ∀ bytes, location = .file bytes → ∃ path, files.content? path = some bytes)
    (followed : files.follow location names = .ok (.file bytes)) :
    ∃ path, files.content? path = some bytes := by
  induction names generalizing location with
  | nil => exact known bytes (Except.ok.inj followed)
  | cons name rest ih =>
    unfold follow at followed
    split at followed
    · cases followed
    · rename_i next entered
      refine ih (fun bytes same => ?_) followed
      subst same
      exact exists_content_of_enter entered

/-- **A file that is found lies under a path.** -/
theorem exists_leads {bytes : ByteArray} (found : files.find name = .ok (.file bytes)) :
    ∃ path, files.Leads name path := by
  suffices content : ∃ path, files.content? path = some bytes by
    obtain ⟨path, there⟩ := content
    exact ⟨path, bytes, found, there⟩
  unfold find at found
  split at found
  · cases found
  · split at found
    · cases found
    · split at found
      · cases found
      · refine exists_content_of_follow (fun bytes same => ?_) found
        cases same

theorem Leads.mem_paths (leads : files.Leads name path) : path ∈ files.paths := by
  obtain ⟨bytes, _, content⟩ := leads
  unfold content? at content
  obtain ⟨front, back, entries, _⟩ := List.lookup_eq_some_iff.mp content
  simp [paths, entries]

/-- Two names of one file have the same text. -/
theorem Leads.readText_eq (leads : files.Leads name path) (also : files.Leads other path) :
    files.readText name = files.readText other := by
  obtain ⟨bytes, found, content⟩ := leads
  obtain ⟨others, there, same⟩ := also
  obtain rfl : bytes = others := Option.some.inj (content.symm.trans same)
  rw [readText, readText, found, there]

theorem Runs.exists_leads (runs : files.Runs name text) : ∃ path, files.Leads name path := by
  obtain ⟨-, read⟩ := runs
  unfold readText at read
  split at read
  · cases read
  · rename_i bytes found
    exact Files.exists_leads found
  · cases read

theorem Runs.isFile (runs : files.Runs name text) : files.isFile name = true := by
  obtain ⟨path, bytes, found, _⟩ := runs.exists_leads
  rw [Files.isFile, found]

/-- A text that is read is the text of one of the files. -/
theorem exists_entry (read : files.readText name = .ok text) :
    ∃ entry ∈ files.entries, String.fromUTF8? entry.2 = some text := by
  unfold readText at read
  split at read
  · cases read
  · rename_i bytes found
    obtain ⟨path, others, there, content⟩ := Files.exists_leads found
    obtain rfl : bytes = others := by simpa using found.symm.trans there
    obtain ⟨front, back, entries, _⟩ := List.lookup_eq_some_iff.mp content
    refine ⟨(path, bytes), by simp [entries], ?_⟩
    split at read <;> cases read
    assumption
  · cases read

/-- Files that call only files of a lower rank do not come back to themselves. -/
theorem not_isRecursive_of_rank (rank : String → Nat)
    (lower : ∀ caller callee, files.Calls caller callee → rank callee < rank caller) :
    ¬files.IsRecursive := by
  rintro ⟨name, reaches⟩
  have falls (callee : String) (on : Relation.TransGen files.Calls name callee) :
      rank callee < rank name := by
    induction on with
    | single call => exact lower _ _ call
    | tail _ call ih => exact (lower _ _ call).trans ih
  exact lt_irrefl _ (falls name reaches)

/-! ### Depth -/

/-- A caller does not come back to the file that called it. -/
theorem Leads.not_calls_back (leads : files.Leads name path) (also : files.Leads other path)
    (straight : ¬files.IsRecursive) : ¬Relation.TransGen files.Calls other name := by
  intro reaches
  -- The first call on the way is one of the text that the two have in common.
  have again : Relation.TransGen files.Calls name name := by
    induction reaches using Relation.TransGen.head_induction_on with
    | single call =>
      obtain ⟨text, read, rest⟩ := call
      exact .single ⟨text, (leads.readText_eq also).trans read, rest⟩
    | head call further =>
      obtain ⟨text, read, rest⟩ := call
      exact .head ⟨text, (leads.readText_eq also).trans read, rest⟩ further
  exact straight ⟨name, again⟩

/-- The file of a name is none of those that have called on the way to it. -/
theorem Runs.exists_fresh (runs : files.Runs name text) (straight : ¬files.IsRecursive)
    {callers : Finset (List String)} (reach : ∀ path ∈ callers, ∃ caller,
      files.Leads caller path ∧ Relation.TransGen files.Calls caller name) :
    ∃ path, files.Leads name path ∧ path ∉ callers := by
  obtain ⟨path, leads⟩ := runs.exists_leads
  refine ⟨path, leads, fun member => ?_⟩
  obtain ⟨caller, also, reaches⟩ := reach path member
  exact leads.not_calls_back also straight reaches

/-- Calls go no deeper than there are files that have not called on the way. -/
theorem shallow_of_callers (straight : ¬files.IsRecursive) (depth : Nat)
    (callers : Finset (List String)) (known : callers ⊆ files.paths)
    (reach : ∀ text, files.Runs name text → ∀ path ∈ callers, ∃ caller,
      files.Leads caller path ∧ Relation.TransGen files.Calls caller name)
    (enough : files.count ≤ callers.card + depth) : files.Shallow depth name := by
  induction depth generalizing callers name with
  | zero =>
    intro text runs
    obtain ⟨path, leads, fresh⟩ := runs.exists_fresh straight (reach text runs)
    have more : callers.card < files.paths.card :=
      Finset.card_lt_card ((Finset.ssubset_iff_of_subset known).mpr ⟨path, leads.mem_paths, fresh⟩)
    unfold count at enough
    omega
  | succ depth ih =>
    intro text runs callee occurs
    obtain ⟨path, leads, fresh⟩ := runs.exists_fresh straight (reach text runs)
    apply ih (insert path callers)
    · exact Finset.insert_subset leads.mem_paths known
    · intro called calling other member
      have call : files.Calls name callee :=
        ⟨text, runs.2, occurs, calling.1, calling.isFile⟩
      rcases Finset.mem_insert.mp member with rfl | old
      · exact ⟨name, leads, .single call⟩
      · obtain ⟨caller, also, reaches⟩ := reach text runs other old
        exact ⟨caller, also, reaches.tail call⟩
    · rw [Finset.card_insert_of_notMem fresh]
      omega

/-- **Without recursion, calls go no deeper than there are files.** -/
theorem shallow_count (straight : ¬files.IsRecursive) (name : String) :
    files.Shallow files.count name := by
  apply shallow_of_callers straight files.count ∅
  · exact Finset.empty_subset _
  · simp
  · simp

end Files

end ShellSession

/-
**Compound assignments.**

`$x += e` stands for `$x = $x + (e)`, and so do the other compound assignments for theirs, except that the
plain one sends its result through a pipeline: it unrolls a list, and folds the output into one value again.
So the two differ where the result is a list of fewer than two items, of which the plain assignment leaves
the only item, or nothing; and for the three variables that are read as literals.

* `Variables.get?_set`: reading a variable behind an assignment;
* `collapsed`, `ofOutput_items`: a value that has been unrolled and folded again;
* `IsCompound.reads`, `IsPlain.reads`: the statements that the two texts are read as;
* `evalAction_compound`, `evalAction_plain`: **both evaluate the same segments and assign then**;
* `compound_agrees`: **a compound assignment agrees with the plain one**.
-/

import ShellSession.Proofs.Engine.Interplay
import ShellSession.Proofs.Script.Parsing

namespace ShellSession

namespace Script

/-! ### The statements -/

variable {name : String} {operator : Operator} {row : List Placed} {segments : List Segment}

/-- Whether a variable is a literal where it is read, in any letter case. -/
def isLiteral (name : String) : Bool :=
  ["null", "true", "false"].any fun literal => Text.sameName name literal

/-- A variable and a group with an operator between them make an expression. -/
theorem isList_combination (varies : isLiteral name = false) (start sign opening closing : Place)
    (group : IsPipeline row segments) :
    IsList IsPipeline (⟨.reference name, start⟩ :: ⟨.operator operator, sign⟩ ::
      ⟨.opening, opening⟩ :: (row ++ [⟨.closing, closing⟩]))
      (.binary (.reference name) operator (.group segments)) := by
  have reference : IsUnary IsPipeline [⟨.reference name, start⟩] (.reference name) :=
    .primary (.reference name start fun literal member =>
      Bool.eq_false_iff.mpr (List.any_eq_false.mp varies literal member))
  have parenthesized : IsUnary IsPipeline (⟨.opening, opening⟩ :: (row ++ [⟨.closing, closing⟩]))
      (.group segments) := .primary (.group row segments opening closing group)
  have term : IsTerm IsPipeline [⟨.reference name, start⟩] (.reference name) := .operand reference
  have sum : IsAdditive IsPipeline [⟨.reference name, start⟩] (.reference name) := .operand term
  refine .one ?_
  show IsAdditive IsPipeline ([⟨.reference name, start⟩] ++ ⟨.operator operator, sign⟩ :: _) _
  cases operator with
  | add => exact .operation .add sign sum rfl (.operand parenthesized)
  | sub => exact .operation .sub sign sum rfl (.operand parenthesized)
  | mul => exact .operand (.operation .mul sign term rfl parenthesized)
  | div => exact .operand (.operation .div sign term rfl parenthesized)

/-- A text is a compound assignment of a variable, with segments on the right. -/
def IsCompound (text name : String) (operator : Operator) (segments : List Segment) (start : Place) :
    Prop :=
  ∃ sign row finish, IsPipeline row segments ∧ scan text =
    .ok ⟨⟨.reference name, start⟩ :: ⟨.assign (some operator), sign⟩ :: row, finish⟩

/-- A text is an assignment of a variable, with the variable on the right, an operator and segments in
parentheses. -/
def IsPlain (text name : String) (operator : Operator) (segments : List Segment) (start : Place) :
    Prop :=
  ∃ equals again sign opening row closing finish, IsPipeline row segments ∧ scan text =
    .ok ⟨⟨.reference name, start⟩ :: ⟨.assign none, equals⟩ :: ⟨.reference name, again⟩ ::
      ⟨.operator operator, sign⟩ :: ⟨.opening, opening⟩ :: (row ++ [⟨.closing, closing⟩]), finish⟩

variable {text : String} {start : Place}

/-- A compound assignment is read as one. -/
theorem IsCompound.reads (compound : IsCompound text name operator segments start) :
    read text = .ok [⟨start, .assign name (some operator) segments⟩] := by
  obtain ⟨sign, row, finish, assigned, scans⟩ := compound
  exact read_statement scans (.intro (.assign name start sign (some operator) assigned))

/-- An assignment of a variable combined with a group is read as one, unless the variable is a literal. -/
theorem IsPlain.reads (plain : IsPlain text name operator segments start)
    (varies : isLiteral name = false) : read text = .ok [⟨start,
      .assign name none [.expr (.binary (.reference name) operator (.group segments))]⟩] := by
  obtain ⟨equals, again, sign, opening, row, closing, finish, assigned, scans⟩ := plain
  have stage := IsSegment.expr (@isList_combination _ operator _ _ varies again sign opening closing
    assigned) rfl
  exact read_statement scans
    (.intro (.assign name start equals none (isPipeline_iff.mpr (.one stage))))

end Script

/-! ### Values that are assigned -/

/-- A value that has been unrolled into an output and folded again: a list of one item is the item, and
one of none is nothing. -/
def Value.collapsed : Value → Value
  | list [] => null
  | list [item] => item
  | value => value

theorem Value.ofOutput_items (value : Value) : ofOutput value.items = value.collapsed := by
  cases value with
  | list items =>
    match items with
    | [] => rfl
    | [_] => rfl
    | _ :: _ :: _ => rfl
  | _ => rfl

namespace Engine

open Script (Operator Segment Place)

/-- Looking up a name behind a replacement. -/
theorem Variables.lookup_replace (name other : String) (value : Value)
    (entries : List (String × Value)) :
    (replace name value entries).lookup other =
      if other = name then some value else entries.lookup other := by
  have apart {a b : String} (differs : a ≠ b) : (a == b) = false := beq_false_of_ne differs
  induction entries with
  | nil =>
    rw [replace, List.lookup_cons]
    by_cases same : other = name
    · rw [same, beq_self_eq_true, if_pos rfl]
    · rw [apart same, if_neg same]
  | cons entry rest ih =>
    rw [replace]
    by_cases here : entry.1 = name
    · rw [if_pos here, List.lookup_cons, List.lookup_cons, here]
      by_cases same : other = name
      · rw [same, beq_self_eq_true, if_pos rfl]
      · rw [apart same, if_neg same]
    · rw [if_neg here, List.lookup_cons, List.lookup_cons, ih]
      by_cases same : other = name
      · rw [same, apart (Ne.symm here), if_pos rfl]
      · rw [if_neg same, if_neg same]

/-- **Reading a variable behind an assignment.** -/
theorem Variables.get?_set (scope : Variables) (name other : String) (value : Value) :
    (scope.set name value).get? other =
      if Text.sameName other name then some value else scope.get? other := by
  unfold get? set Text.sameName
  rw [lookup_replace]
  simp

/-- The value of a variable, `null` when there is none. -/
def Interpreter.valueOf (s : Interpreter) (name : String) : Value :=
  (s.scope.get? name).getD .null

/-! ### Both assignments -/

variable {files : Files} {name : String} {operator : Operator} {segments : List Segment}

/-- The end of an assignment, whose segments have come to something: it fails as they do, or for the cause
for which there is no value, or sets the variable. -/
def conclude (position : Position) (name : String) (value : List Value → Except Fault Value)
    (result : Outcome) (s : Interpreter) : Outcome × Interpreter :=
  match result with
  | .error error => (.error (error.locate position), s)
  | .ok output =>
    match value output with
    | .error fault => (.error (.runtime fault (some position)), s)
    | .ok value => (.ok [], s.setVariable name value)

/-- The run that has ended with a conclusion. -/
def ended (conclusion : Outcome × Interpreter) : Run (List Value) :=
  .done conclusion.1 conclusion.2

/-- **A compound assignment evaluates its segments**, and reads the variable then. -/
theorem evalAction_compound (place : Place) (s : Interpreter) :
    locating place (evalAction files (.assign name (some operator) segments)) s =
      (evalSegments files segments s).andThen fun result u =>
        ended (conclude ⟨s.frame.file, place⟩ name
          (fun output => combine operator (u.valueOf name) (.ofOutput output)) result u) := by
  refine (Run.andThen_andThen (evalSegments files segments s) _ _).trans ?_
  refine congrArg (fun next => (evalSegments files segments s).andThen next)
    (funext fun result => funext fun u => ?_)
  cases result with
  | error error => rfl
  | ok output =>
    show Run.andThen _ (Run.andThen _ (Eval.ofExcept (combine operator (u.valueOf name) _) u)) = _
    unfold ended conclude
    dsimp only
    cases combine operator (u.valueOf name) (.ofOutput output) <;> rfl

/-- **The plain assignment evaluates the same segments**, after it has read the variable, and unrolls and
folds what the operator gives. -/
theorem evalAction_plain (place : Place) (s : Interpreter) :
    locating place (evalAction files
        (.assign name none [.expr (.binary (.reference name) operator (.group segments))])) s =
      (evalSegments files segments s).andThen fun result u =>
        ended (conclude ⟨s.frame.file, place⟩ name
          (fun output => (combine operator (s.valueOf name) (.ofOutput output)).map Value.collapsed)
          result u) := by
  show Run.andThen _ (Run.andThen _ (Run.andThen _ (Run.andThen _
    (Run.andThen _ (evalSegments files segments s))))) = _
  rw [Run.andThen_andThen, Run.andThen_andThen, Run.andThen_andThen, Run.andThen_andThen]
  refine congrArg (fun next => (evalSegments files segments s).andThen next)
    (funext fun result => funext fun u => ?_)
  cases result with
  | error error => rfl
  | ok output =>
    show Run.andThen _ (Eval.ofExcept (combine operator (s.valueOf name) (.ofOutput output)) u) = _
    unfold ended conclude
    dsimp only
    cases combine operator (s.valueOf name) (.ofOutput output) with
    | error fault => rfl
    | ok value =>
      show Run.done (.ok []) (u.setVariable name (.ofOutput value.items)) = _
      rw [Value.ofOutput_items]
      rfl

/-! ### Both statements -/

/-- With some parts of others, the evaluation of a statement's segments leaves a variable as it finds it,
behind the look of the debugger. -/
def Spares (files : Files) (place : Place) (segments : List Segment) (name : String) (s : Interpreter)
    (parts : List Part) : Prop :=
  ∀ before during u result w, parts = before ++ during →
    (mayStop (atLine place.line s)).ComesTo files before (.ok ()) u →
    (evalSegments files segments u).ComesTo files during result w →
    w.scope.get? name = u.scope.get? name

/-- Two assignments of a variable agree that come to an outcome, in two states: when they fail, nothing
differs; else no other variable differs, and the second has left the value of the first, unrolled and
folded. -/
def Agree (name : String) (outcome : Outcome) (s t : Interpreter) : Prop :=
  match outcome with
  | .error _ => t = s
  | .ok _ => (∀ other, Text.sameName other name = false → t.scope.get? other = s.scope.get? other) ∧
      ∃ value, s.scope.get? name = some value ∧ t.scope.get? name = some value.collapsed

/-- Assignments of the same value, of which the second is unrolled and folded, agree. -/
theorem conclude_agree (position : Position) (name : String) (value : List Value → Except Fault Value)
    (result : Outcome) (s : Interpreter) :
    let first := conclude position name value result s
    let second := conclude position name (fun output => (value output).map Value.collapsed) result s
    second.1 = first.1 ∧ Agree name first.1 first.2 second.2 := by
  cases result with
  | error error => exact ⟨rfl, rfl⟩
  | ok output =>
    unfold conclude
    dsimp only
    cases value output with
    | error fault => exact ⟨rfl, rfl⟩
    | ok value =>
      have itself : Text.sameName name name = true := beq_self_eq_true _
      refine ⟨rfl, fun other differs => ?_, value, ?_, ?_⟩
      · show (s.scope.set name _).get? other = (s.scope.set name _).get? other
        rw [Variables.get?_set, Variables.get?_set, differs]
        rfl
      · show (s.scope.set name _).get? name = _
        rw [Variables.get?_set, if_pos itself]
      · show (s.scope.set name _).get? name = _
        rw [Variables.get?_set, if_pos itself]

/-- Behind the same look of the debugger and the same evaluation, what is concluded in two ways comes to
both conclusions. -/
theorem comesTo_exchange {look : Eval Unit} {begun : Eval (List Value)}
    {first second : Interpreter → Outcome → Interpreter → Outcome × Interpreter}
    {related : Outcome → Interpreter → Interpreter → Prop} {s t : Interpreter} {parts : List Part}
    {outcome : Outcome} (failed : ∀ error u, related (.error error) u u)
    (concluded : ∀ before during u result w, parts = before ++ during →
      (look s).ComesTo files before (.ok ()) u → (begun u).ComesTo files during result w →
      (second u result w).1 = (first u result w).1 ∧
        related (first u result w).1 (first u result w).2 (second u result w).2)
    (comes : (Eval.bind look (fun _ u => (begun u).andThen fun result w => ended (first u result w))
      s).ComesTo files parts outcome t) :
    ∃ t', (Eval.bind look (fun _ u => (begun u).andThen fun result w => ended (second u result w))
      s).ComesTo files parts outcome t' ∧ related outcome t t' := by
  obtain ⟨before, rest, looked, u, rfl, looks, behind⟩ := Run.comesTo_andThen_iff.mp comes
  cases looked with
  | error error =>
    cases behind
    exact ⟨t, Run.comesTo_andThen_iff.mpr ⟨before, [], .error error, t, rfl, looks, .done _ t⟩,
      failed error t⟩
  | ok =>
    obtain ⟨during, others, result, w, rfl, evaluates, ending⟩ := Run.comesTo_andThen_iff.mp behind
    cases ending
    obtain ⟨same, agree⟩ :=
      concluded before during u result w (by rw [List.append_nil]) looks evaluates
    have ends : (ended (second u result w)).ComesTo files [] (first u result w).1
        (second u result w).2 := same ▸ .done (second u result w).1 (second u result w).2
    exact ⟨(second u result w).2, Run.comesTo_andThen_iff.mpr ⟨before, during ++ [], .ok (), u, rfl, looks,
      Run.comesTo_andThen_iff.mpr ⟨during, [], result, w, rfl, evaluates, ends⟩⟩, agree⟩

/-- **A compound assignment agrees with the plain one**, apart from the variables that are literals, when
the evaluation of what is assigned leaves the variable: whatever part others take, both come to the same
outcome. When they fail, nothing differs; else they leave the same values in all variables, except that
where the compound one leaves a list of fewer than two items, the plain one leaves the only item or
nothing. -/
theorem compound_agrees {compound plain : String} {start : Place}
    (short : Script.IsCompound compound name operator segments start)
    (long : Script.IsPlain plain name operator segments start)
    (varies : Script.isLiteral name = false) {s : Interpreter} {parts : List Part}
    (spares : Spares files start segments name s parts) :
    (∀ outcome t, (evalPipeline files (.script compound) s).ComesTo files parts outcome t →
      ∃ t', (evalPipeline files (.script plain) s).ComesTo files parts outcome t' ∧
        Agree name outcome t t') ∧
    ∀ outcome t', (evalPipeline files (.script plain) s).ComesTo files parts outcome t' →
      ∃ t, (evalPipeline files (.script compound) s).ComesTo files parts outcome t ∧
        Agree name outcome t t' := by
  have compounds : evalPipeline files (.script compound) s = Eval.bind mayStop (fun _ u =>
      (evalSegments files segments u).andThen fun result w => ended
        (conclude ⟨u.frame.file, start⟩ name
          (fun output => combine operator (w.valueOf name) (.ofOutput output)) result w))
      (atLine start.line s) := by
    rw [evalPipeline_statement short.reads]
    show Eval.bind mayStop (fun _ => locating start _) (atLine start.line s) = _
    exact congrArg (fun deed => Eval.bind mayStop (fun _ => deed) (atLine start.line s))
      (funext fun u => evalAction_compound start u)
  have plains : evalPipeline files (.script plain) s = Eval.bind mayStop (fun _ u =>
      (evalSegments files segments u).andThen fun result w => ended
        (conclude ⟨u.frame.file, start⟩ name
          (fun output => (combine operator (u.valueOf name) (.ofOutput output)).map Value.collapsed)
          result w))
      (atLine start.line s) := by
    rw [evalPipeline_statement (long.reads varies)]
    show Eval.bind mayStop (fun _ => locating start _) (atLine start.line s) = _
    exact congrArg (fun deed => Eval.bind mayStop (fun _ => deed) (atLine start.line s))
      (funext fun u => evalAction_plain start u)
  -- Behind the same evaluation both combine the same values, since it has left the variable.
  have kept : ∀ before during u result w, parts = before ++ during →
      (mayStop (atLine start.line s)).ComesTo files before (.ok ()) u →
      (evalSegments files segments u).ComesTo files during result w →
      w.valueOf name = u.valueOf name := by
    intro before during u result w split looks evaluates
    unfold Interpreter.valueOf
    rw [spares before during u result w split looks evaluates]
  rw [compounds, plains]
  refine ⟨fun outcome t comes => ?_, fun outcome t' comes => ?_⟩
  · refine comesTo_exchange ?_ ?_ comes
    · exact fun _ _ => rfl
    · intro before during u result w split looks evaluates
      rw [kept before during u result w split looks evaluates]
      exact conclude_agree _ name _ result w
  · refine @comesTo_exchange _ _ _ _ _ (fun outcome t' t => Agree name outcome t t') _ _ _ _ ?_ ?_ comes
    · exact fun _ _ => rfl
    · intro before during u result w split looks evaluates
      rw [kept before during u result w split looks evaluates]
      obtain ⟨same, agree⟩ := conclude_agree ⟨u.frame.file, start⟩ name
        (fun output => combine operator (u.valueOf name) (.ofOutput output)) result w
      exact ⟨same.symm, same.symm ▸ agree⟩

/-- A list that is about to be lengthened, in step mode. -/
def beforeLengthening : Interpreter :=
  { Interpreter.fresh with scope := ⟨[("x", .list [.int 1]), ("y", .int 2)]⟩, stepping := true }

/-- The list replaced by a command in the stop before the statement. -/
def inLengthening : Interpreter :=
  beforeLengthening.setVariable "x" (.list [.int 7])

/-- Both ways of lengthening the list, in step mode: a command replaces it in the stop before the
statement, and both append to the list that they find then. -/
theorem compound_agrees_lengthening :
    ∃ t t', (evalPipeline .none (.script "$x += $y, 3") beforeLengthening).ComesTo .none
        [.finds beforeLengthening, .leaves .resume inLengthening] (.ok []) t ∧
      (evalPipeline .none (.script "$x = $x + ($y, 3)") beforeLengthening).ComesTo .none
        [.finds beforeLengthening, .leaves .resume inLengthening] (.ok []) t' ∧
      t.scope.get? "x" = some (.list [.int 7, .int 2, .int 3]) ∧
      t'.scope.get? "x" = some (.list [.int 7, .int 2, .int 3]) := by
  let segments : List Segment := [.expr (.list [.reference "y", .literal (.int 3)])]
  let row (place : Nat → Place) : List Script.Placed :=
    [⟨.reference "y", place 0⟩, ⟨.comma, place 2⟩, ⟨.int 3, place 4⟩]
  have phrase (place : Nat → Place) : Script.IsPipeline (row place) segments := by
    obtain ⟨_, same, phrase⟩ := Script.pipeline_takes 1 (row place) segments [] rfl
    rw [List.append_nil] at same
    exact same ▸ phrase
  have short : Script.IsCompound "$x += $y, 3" "x" .add segments .start :=
    ⟨_, _, _, phrase fun n => ⟨1, n + 7⟩, rfl⟩
  have long : Script.IsPlain "$x = $x + ($y, 3)" "x" .add segments .start :=
    ⟨_, _, _, _, _, _, _, phrase fun n => ⟨1, n + 12⟩, rfl⟩
  have spares : Spares .none .start segments "x" beforeLengthening
      [.finds beforeLengthening, .leaves .resume inLengthening] := by
    intro before during u result w _ _ evaluates
    have ends : ∃ result, evalSegments .none segments u = .done result u := ⟨_, rfl⟩
    obtain ⟨given, ends⟩ := ends
    rw [ends] at evaluates
    cases evaluates
    rfl
  have comes : ∃ t, (evalPipeline .none (.script "$x += $y, 3") beforeLengthening).ComesTo .none
      [.finds beforeLengthening, .leaves .resume inLengthening] (.ok []) t ∧
        t.scope.get? "x" = some (.list [.int 7, .int 2, .int 3]) := by
    rw [evalPipeline_statement short.reads]
    exact ⟨_, .ready (.stopped (.done _ _)), rfl⟩
  obtain ⟨t, comes, listed⟩ := comes
  obtain ⟨t', comes', _, value, left, left'⟩ :=
    (compound_agrees short long rfl spares).1 (.ok []) t comes
  rw [listed] at left
  cases left
  exact ⟨t, t', comes, comes', listed, left'⟩

/-! ### Where they differ -/

/-- Two script files that append a number to the arguments. -/
def appending : Files :=
  (Files.none.add "short.ps1" "$args += 1".toUTF8).add "long.ps1" "$args = $args + (1)".toUTF8

/-- A fresh engine that has done a run of a text. -/
def behind (files : Files) (text : String) : Engine :=
  ((fresh files none).asked (.invoke (.script text))).run (.replicate 8 .step)

/-- A number that an engine has left in a variable and answered without output, alone or as the only item
of a list. -/
def number? (e : Engine) (name : String) : Option (Bool × Int64) :=
  match e.result? 1, e.askVariable name with
  | some (.ok []), .ok (some (.int number)) => some (false, number)
  | some (.ok []), .ok (some (.list [.int number])) => some (true, number)
  | _, _ => none

theorem of_number? {e : Engine} {name : String} {listed : Bool} {number : Int64}
    (found : e.number? name = some (listed, number)) : e.result? 1 = some (.ok []) ∧
      e.askVariable name = .ok (some (if listed then .list [.int number] else .int number)) := by
  unfold number? at found
  split at found <;> cases found <;> exact ⟨‹_›, ‹_›⟩

/-- **The two differ by an item**, and where a variable is read as a literal. A file that is called without
arguments finds the empty list; the compound assignment makes it a list of one item, and the plain one
makes it that item. The variable of truth has no value at first, and still the plain assignment reads it
as true. -/
theorem compound_differs :
    ((behind appending "short.ps1").result? 1 = some (.ok []) ∧
      (behind appending "short.ps1").askVariable "args" = .ok (some (.list [.int 1]))) ∧
    ((behind appending "long.ps1").result? 1 = some (.ok []) ∧
      (behind appending "long.ps1").askVariable "args" = .ok (some (.int 1))) ∧
    ((behind .none "$true += 1").result? 1 = some (.ok []) ∧
      (behind .none "$true += 1").askVariable "true" = .ok (some (.int 1))) ∧
    (behind .none "$true = $true + (1)").result? 1 = some (.ok []) ∧
      (behind .none "$true = $true + (1)").askVariable "true" = .ok (some (.int 2)) := by
  have short : (behind appending "short.ps1").number? "args" = some (true, 1) := by decide +kernel
  have long : (behind appending "long.ps1").number? "args" = some (false, 1) := by decide +kernel
  have compound : (behind .none "$true += 1").number? "true" = some (false, 1) := by decide +kernel
  have plain : (behind .none "$true = $true + (1)").number? "true" = some (false, 2) := by
    decide +kernel
  exact ⟨of_number? short, of_number? long, of_number? compound, of_number? plain⟩

end Engine

end ShellSession

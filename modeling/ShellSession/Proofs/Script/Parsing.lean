/-
**Reading is parsing by the grammar.**

Reader by reader: a phrase at the front of a row is taken as a whole and with its tree, provided that
nothing stands behind it which would go on with it. How deep groups may be nested and how often a reader
may repeat another one never gets in the way.

* `Reads`: a reader takes the phrases of a kind that are shorter than some bound;
* `chain_reads`, `enumeration_reads`, `arguments_reads`: what repeats;
* `pipeline_reads`, `action_reads`, `statements_reads`: pipelines, statements and scripts;
* `script_iff`: **a row is read with just the tree that the grammar gives it, and otherwise refused**.
-/

import ShellSession.Proofs.Script.Phrases
import ShellSession.Engine.Evaluate

namespace ShellSession.Script

/-- The reader takes each phrase of a kind that has less than `size` tokens, as a whole and with its
tree, where `follows` holds of what stands behind it. -/
def Reads {α : Type} (size : Nat) (reader : Reader α) (phrase : Phrase α)
    (follows : List Placed → Prop) : Prop :=
  ∀ row a rest, phrase row a → row.length < size → follows rest →
    reader (row ++ rest) = .ok (a, rest)

/-- Whether the row begins with a token of some kind. -/
def begins (kind : Token → Bool) : List Placed → Bool
  | [] => false
  | first :: _ => kind first.token

/-- Whether a pipeline ends before the row. -/
def atPipelineEnd : List Placed → Bool
  | [] => true
  | ⟨.separator, _⟩ :: _ => true
  | ⟨.closing, _⟩ :: _ => true
  | _ => false

section

variable {size : Nat} {group : Reader (List Segment)} {Group : Phrase (List Segment)}

/-! ### Expressions -/

theorem primary_reads (reads : Reads size group Group (atPipelineEnd · = true)) :
    Reads (size + 1) (primary group) (IsPrimary Group) fun _ => True := by
  intro row expr rest phrase short _
  have named : ∀ {name place}, row = [⟨.reference name, place⟩] →
      primary group (row ++ rest) = .ok (expr, rest) := by
    rintro name place rfl
    rw [isPrimary_reference_iff.mp phrase]
    rfl
  cases phrase with
  | group row segments start finish inner =>
    have shorter : row.length < size := by
      simp only [List.length_cons, List.length_append, List.length_nil] at short
      omega
    have taken := reads row segments (⟨.closing, finish⟩ :: rest) inner shorter rfl
    rw [List.cons_append, List.append_assoc]
    unfold primary grouped
    simp only [List.singleton_append, taken]
  | null name place => exact named rfl
  | truth name place => exact named rfl
  | falsehood name place => exact named rfl
  | reference name place => exact named rfl
  | _ => rfl

/-- A primary does not begin with a minus sign, so that it is read as a unary as well. -/
theorem unary_of_primary {row rest : List Placed} {expr : Expr}
    (phrase : IsPrimary Group row expr) : unary group (row ++ rest) = primary group (row ++ rest) := by
  cases phrase <;> rfl

theorem unary_reads (reads : Reads size group Group (atPipelineEnd · = true)) :
    Reads (size + 1) (unary group) (IsUnary Group) fun _ => True := by
  intro row expr rest phrase short _
  induction phrase with
  | primary phrase =>
    rw [unary_of_primary phrase]
    exact primary_reads reads _ _ _ phrase short trivial
  | negate place _ ih =>
    have taken := ih (Nat.lt_of_succ_lt short)
    rw [List.cons_append]
    unfold unary
    simp only [taken]

variable {sign? : List Placed → Option (Operator × List Placed)} {signs : Operator → Bool}
  {operand : Reader Expr} {Operand : Phrase Expr} {follows : List Placed → Prop}

/-- Where no operator follows, a chain is at its end. -/
theorem chainFrom_end {bound rest : List Placed} {left : Expr} (ends : sign? rest = none) :
    chainFrom sign? operand bound left rest = .ok (left, rest) := by
  cases bound with
  | nil => rfl
  | cons _ bound =>
    unfold chainFrom
    rw [ends]

/-- Behind the operands of a chain, the reader goes on with what they are grouped to. -/
theorem chain_goes (leads : LeadsWith sign? signs) (reads : Reads size operand Operand follows)
    (between : ∀ sign place rest, signs sign = true → follows (⟨.operator sign, place⟩ :: rest))
    {row : List Placed} {expr : Expr} (phrase : IsChain signs Operand row expr)
    (short : row.length < size) {rest : List Placed} (behind : follows rest) :
    ∃ bound : List Placed, rest.length ≤ bound.length ∧
      chain sign? operand (row ++ rest) = chainFrom sign? operand bound expr rest := by
  induction phrase generalizing rest with
  | operand first =>
    refine ⟨rest, Nat.le_refl _, ?_⟩
    unfold chain
    rw [reads _ _ _ first short behind]
  | @operation left right a b sign place _ known second ih =>
    have lengths := short
    rw [List.length_append, List.length_cons] at lengths
    obtain ⟨bound, enough, goes⟩ := ih (by omega)
      (between sign place (right ++ rest) known)
    rw [List.length_cons, List.length_append] at enough
    cases bound with
    | nil => exact absurd enough (Nat.not_succ_le_zero _)
    | cons _ bound =>
      refine ⟨bound, by rw [List.length_cons] at enough; omega, ?_⟩
      rw [List.append_assoc, List.cons_append, goes]
      conv => lhs; unfold chainFrom
      rw [leads.2 sign place _ known]
      simp only [reads _ _ _ second (by omega) behind]

theorem chain_reads (leads : LeadsWith sign? signs) (reads : Reads size operand Operand follows)
    (between : ∀ sign place rest, signs sign = true → follows (⟨.operator sign, place⟩ :: rest)) :
    Reads size (chain sign? operand) (IsChain signs Operand)
      fun rest => follows rest ∧ sign? rest = none := by
  intro row expr rest phrase short ⟨behind, ends⟩
  obtain ⟨bound, _, goes⟩ := chain_goes leads reads between phrase short behind
  rw [goes, chainFrom_end ends]

/-- Behind a sum no operator follows. -/
def endsAdditive (rest : List Placed) : Prop :=
  (True ∧ productOperator rest = none) ∧ sumOperator rest = none

theorem additive_reads (reads : Reads size group Group (atPipelineEnd · = true)) :
    Reads (size + 1) (additive group) (IsAdditive Group) endsAdditive := by
  have term := chain_reads leadsWith_product (unary_reads reads) fun _ _ _ _ => trivial
  exact chain_reads leadsWith_sum term fun sign place rest known =>
    ⟨trivial, by cases sign <;> first | rfl | cases known⟩

/-! ### Rows of items -/

section

variable {α : Type} {leads : Token → Bool} {item : Reader α} {Item : Phrase α}
  {row rest : List Placed} {items : List α}

/-- Where no further item is led to, none is read. -/
theorem followers_end {bound : List Placed} (ends : begins leads rest = false) :
    followers leads item bound rest = .ok ([], rest) := by
  cases bound with
  | nil => rfl
  | cons _ bound =>
    cases rest with
    | nil => rfl
    | cons lead rest =>
      unfold followers
      exact if_neg (Bool.eq_false_iff.mp ends)

/-- Separated items are read as the first of them and its followers. -/
theorem separated_reads (reads : Reads size item Item follows)
    (between : ∀ lead rest, leads lead.token = true → follows (lead :: rest))
    (phrase : IsSeparated leads Item row items) (short : row.length < size)
    (behind : follows rest) (ends : begins leads rest = false) :
    ∃ first others further, items = first :: others ∧
      item (row ++ rest) = .ok (first, further) ∧ further.length ≤ (row ++ rest).length ∧
      ∀ bound : List Placed, further.length ≤ bound.length →
        followers leads item bound further = .ok (others, rest) := by
  induction phrase with
  | one head =>
    refine ⟨_, [], rest, rfl, reads _ _ _ head short behind, ?_, fun _ _ => followers_end ends⟩
    rw [List.length_append]
    exact Nat.le_add_left _ _
  | @more front tail head items lead first known _ ih =>
    have lengths := short
    rw [List.length_append, List.length_cons] at lengths
    obtain ⟨second, others, further, rfl, taken, fewer, followed⟩ := ih (by omega)
    rw [List.append_assoc, List.cons_append]
    refine ⟨head, second :: others, lead :: (tail ++ rest), rfl,
      reads _ _ _ first (by omega) (between lead _ known), ?_, fun bound enough => ?_⟩
    · rw [List.length_append]
      exact Nat.le_add_left _ _
    · cases bound with
      | nil => exact absurd enough (Nat.not_succ_le_zero _)
      | cons _ bound =>
        have fits : further.length ≤ bound.length :=
          Nat.le_trans fewer (Nat.le_of_succ_le_succ enough)
        unfold followers
        rw [if_pos known]
        simp only [taken, followed bound fits]

end

theorem enumeration_reads {item : Reader Expr} {Item : Phrase Expr}
    (reads : Reads size item Item follows)
    (between : ∀ lead rest, isComma lead.token = true → follows (lead :: rest)) :
    Reads size (enumeration item) (IsEnumeration Item)
      fun rest => follows rest ∧ begins isComma rest = false := by
  intro row expr rest phrase short ⟨behind, ends⟩
  unfold enumeration
  cases phrase with
  | one head => simp only [reads _ _ _ head short behind, followers_end ends]
  | list items =>
    obtain ⟨_, _, further, same, taken, _, followed⟩ :=
      separated_reads reads between items short behind ends
    cases same
    simp only [taken, followed further (Nat.le_refl _)]

/-- Behind a value no comma follows. -/
def endsValue (rest : List Placed) : Prop :=
  True ∧ begins isComma rest = false

/-- Behind a list no comma and no operator follows. -/
def endsList (rest : List Placed) : Prop :=
  endsAdditive rest ∧ begins isComma rest = false

theorem value_reads (reads : Reads size group Group (atPipelineEnd · = true)) :
    Reads (size + 1) (value group) (IsValue Group) endsValue :=
  enumeration_reads (unary_reads reads) fun _ _ _ => trivial

theorem endsAdditive_comma {lead : Placed} {rest : List Placed}
    (comma : isComma lead.token = true) : endsAdditive (lead :: rest) := by
  obtain ⟨token, place⟩ := lead
  cases token <;> first | exact ⟨⟨trivial, rfl⟩, rfl⟩ | cases comma

theorem list_reads (reads : Reads size group Group (atPipelineEnd · = true)) :
    Reads (size + 1) (list group) (IsList Group) endsList :=
  enumeration_reads (additive_reads reads) fun _ _ comma => endsAdditive_comma comma

/-- At the end of a segment nothing goes on with a list. -/
theorem endsList_of_atSegmentEnd {rest : List Placed} (ends : atSegmentEnd rest = true) :
    endsList rest := by
  unfold atSegmentEnd at ends
  split at ends <;> first | exact ⟨⟨⟨trivial, rfl⟩, rfl⟩, rfl⟩ | cases ends

/-- At the end of a statement a segment ends as well. -/
theorem atSegmentEnd_of_atStatementEnd {rest : List Placed} (ends : atStatementEnd rest = true) :
    atSegmentEnd rest = true := by
  unfold atStatementEnd at ends
  split at ends <;> first | rfl | cases ends

/-! ### Command calls and pipelines -/

/-- What may follow on an argument: another one, or the end of the segment. -/
def endsArgument (rest : List Placed) : Prop :=
  atSegmentEnd rest = true ∨ Starts Token.startsArgument rest

theorem endsValue_of_endsArgument {rest : List Placed} (ends : endsArgument rest) :
    endsValue rest := by
  rcases ends with ends | ⟨first, others, rfl, known⟩
  · exact ⟨trivial, (endsList_of_atSegmentEnd ends).2⟩
  · obtain ⟨token, place⟩ := first
    cases token <;> first | exact ⟨trivial, rfl⟩ | cases known

/-- A row that begins with a value is not at the end of a segment, and begins with no parameter. -/
theorem not_atSegmentEnd {row : List Placed} (rest : List Placed) (starts : Starts Token.startsValue row) :
    atSegmentEnd (row ++ rest) = false ∧ startsParameter (row ++ rest) = false := by
  obtain ⟨⟨token, place⟩, others, rfl, known⟩ := starts
  cases token <;> first | exact ⟨rfl, rfl⟩ | cases known

/-- An argument is read as a whole; one without a value only before another parameter or the end of the
segment. -/
theorem argument_reads (reads : Reads size group Group (atPipelineEnd · = true))
    {row rest : List Placed} {passed : Argument} (phrase : IsArgument Group row passed)
    (short : row.length < size + 1) (behind : endsArgument rest)
    (greedy : passed.isBare = true → atSegmentEnd rest = true ∨ startsParameter rest = true) :
    argument group (row ++ rest) = .ok (passed, rest) := by
  cases phrase with
  | bare name place =>
    rw [List.singleton_append]
    unfold argument
    exact if_pos (Bool.or_eq_true_iff.mpr (greedy rfl))
  | @named row expr name place phrase =>
    obtain ⟨going, unnamed⟩ := not_atSegmentEnd rest phrase.starts
    have taken := value_reads reads _ _ _ phrase (Nat.lt_of_succ_lt short)
      (endsValue_of_endsArgument behind)
    rw [List.cons_append]
    unfold argument
    simp only [going, unnamed, taken, Bool.or_self, Bool.false_eq_true, if_false]
  | positional phrase =>
    have taken := value_reads reads _ _ _ phrase short (endsValue_of_endsArgument behind)
    have unnamed := (not_atSegmentEnd rest phrase.starts).2
    unfold argument
    split
    · rename_i split
      rw [split] at unnamed
      cases unnamed
    · rw [taken]

/-- Arguments begin with an argument, where there are any; and with a parameter, where no value stands
first. -/
theorem IsArguments.begins {row : List Placed} {passed : List Argument}
    (phrase : IsArguments Group row passed) : row = [] ∨ Starts Token.startsArgument row ∧
      (startsPositional passed = false → ∀ rest, startsParameter (row ++ rest) = true) := by
  cases phrase with
  | none => exact .inl rfl
  | more first others greedy =>
    refine .inr ⟨first.starts.append, fun named rest => ?_⟩
    cases first with
    | bare => rfl
    | named => rfl
    | positional => cases named

/-- The arguments of a call, of which there are no more than their row has tokens. -/
theorem arguments_reads (reads : Reads size group Group (atPipelineEnd · = true))
    {row rest : List Placed} {passed : List Argument} (phrase : IsArguments Group row passed)
    (short : row.length < size + 1) (ends : atSegmentEnd rest = true) (bound : List Placed)
    (enough : row.length ≤ bound.length) :
    arguments group bound (row ++ rest) = .ok (passed, rest) := by
  induction phrase generalizing bound with
  | none =>
    cases bound with
    | nil => rfl
    | cons _ bound =>
      unfold arguments
      rw [List.nil_append, if_pos ends]
  | @more front tail first others head more greedy ih =>
    have nonempty := head.starts.length_pos
    rw [List.length_append] at short enough
    cases bound with
    | nil => exact absurd (Nat.le_trans (Nat.le_add_right _ _) enough) (Nat.not_le_of_lt nonempty)
    | cons _ bound =>
      have going : atSegmentEnd (front ++ tail ++ rest) = false := by
        obtain ⟨⟨token, place⟩, others, rfl, known⟩ := head.starts
        cases token <;> first | rfl | cases known
      have behind : endsArgument (tail ++ rest) := by
        rcases more.begins with rfl | ⟨starts, _⟩
        · exact .inl ends
        · exact .inr starts.append
      have named : first.isBare = true →
          atSegmentEnd (tail ++ rest) = true ∨ startsParameter (tail ++ rest) = true := fun bare => by
        rcases more.begins with rfl | ⟨_, parameter⟩
        · exact .inl ends
        · exact .inr (parameter (greedy bare) rest)
      have taken := argument_reads reads head (by omega) behind named
      have others := ih (by omega) bound (by rw [List.length_cons] at enough; omega)
      unfold arguments
      rw [if_neg (Bool.eq_false_iff.mp going), List.append_assoc]
      simp only [taken, others]

theorem segment_reads (reads : Reads size group Group (atPipelineEnd · = true)) :
    Reads (size + 1) (segment group) (IsSegment Group) (atSegmentEnd · = true) := by
  intro row stage rest phrase short ends
  cases phrase with
  | @call row passed name place phrase =>
    have within : row.length ≤ (row ++ rest).length := by
      rw [List.length_append]
      exact Nat.le_add_right _ _
    have taken :=
      arguments_reads reads phrase (Nat.lt_of_succ_lt short) ends (row ++ rest) within
    rw [List.cons_append]
    unfold segment
    simp only [taken]
  | expr phrase unworded =>
    have taken := list_reads reads _ _ _ phrase short (endsList_of_atSegmentEnd ends)
    obtain ⟨first, others, rfl, _⟩ := phrase.starts
    unfold segment
    split
    · rename_i split
      obtain ⟨rfl, _⟩ := List.cons.inj split
      cases unworded
    · rw [taken]

theorem segments_reads (reads : Reads size group Group (atPipelineEnd · = true)) :
    Reads (size + 1) (segments group) (IsSegments Group) (atPipelineEnd · = true) := by
  intro row stages rest phrase short ends
  have last : atSegmentEnd rest = true ∧ begins isPipe rest = false := by
    unfold atPipelineEnd at ends
    split at ends <;> first | exact ⟨rfl, rfl⟩ | cases ends
  have between : ∀ (lead : Placed) rest, isPipe lead.token = true →
      atSegmentEnd (lead :: rest) = true := by
    rintro ⟨token, place⟩ rest pipe
    cases token <;> first | rfl | cases pipe
  obtain ⟨first, others, further, rfl, taken, _, followed⟩ :=
    separated_reads (segment_reads reads) between phrase short last.1 last.2
  unfold segments
  simp only [taken, followed further (Nat.le_refl _)]

end

/-- **A pipeline is read as a whole** by a reader that goes as deep as it is long. -/
theorem pipeline_reads (depth : Nat) :
    Reads depth (pipeline depth) IsPipeline (atPipelineEnd · = true) := by
  induction depth with
  | zero => exact fun row stages rest phrase short _ => absurd short (Nat.not_lt_zero _)
  | succ depth ih =>
    intro row stages rest phrase short ends
    exact segments_reads ih _ _ _ (isPipeline_iff.mp phrase) short ends

/-! ### Statements and scripts -/

/-- At the end of a statement a pipeline ends as well. -/
theorem atPipelineEnd_of_atStatementEnd {rest : List Placed} (ends : atStatementEnd rest = true) :
    atPipelineEnd rest = true := by
  unfold atStatementEnd at ends
  split at ends <;> first | rfl | cases ends

/-- A pipeline that begins with a variable is read up to the sign of an assignment. -/
theorem pipeline_assign (depth : Nat) (name : String) (place next : Place) (sign : Option Operator)
    (rest : List Placed) : ∃ stages,
      pipeline (depth + 1) (⟨.reference name, place⟩ :: ⟨.assign sign, next⟩ :: rest) =
        .ok (stages, ⟨.assign sign, next⟩ :: rest) :=
  ⟨_, rfl⟩

theorem action_reads (depth : Nat) :
    Reads depth (action depth) IsAction (atStatementEnd · = true) := by
  intro row deed rest phrase short ends
  have ended := endsList_of_atSegmentEnd (atSegmentEnd_of_atStatementEnd ends)
  cases depth with
  | zero => exact absurd short (Nat.not_lt_zero _)
  | succ depth =>
    cases phrase with
    | bare chars place throws =>
      rw [List.singleton_append]
      unfold action
      simp only [throws, ends, if_true]
    | @raise row expr chars place throws phrase =>
      have going : atStatementEnd (row ++ rest) = false := by
        obtain ⟨⟨token, place⟩, others, rfl, known⟩ := phrase.starts
        cases token <;> first | rfl | cases known
      have taken := list_reads (pipeline_reads (depth + 1)) _ _ _ phrase
        (Nat.lt_succ_of_lt (Nat.lt_of_succ_lt short)) ended
      rw [List.cons_append]
      unfold action
      simp only [throws, going, taken, if_true, Bool.false_eq_true, if_false]
    | @assign row stages name place next sign phrase =>
      have taken := pipeline_reads (depth + 1) _ _ _ phrase
        (Nat.lt_of_succ_lt (Nat.lt_of_succ_lt short)) (atPipelineEnd_of_atStatementEnd ends)
      rw [List.cons_append, List.cons_append]
      unfold action
      simp only [taken]
    | run phrase other =>
      have taken := pipeline_reads (depth + 1) _ _ _ phrase short
        (atPipelineEnd_of_atStatementEnd ends)
      obtain ⟨first, others, rfl, _⟩ := phrase.starts
      unfold action
      split
      · -- The sign of an assignment would be left over by the pipeline.
        rename_i name place sign next behind split
        obtain ⟨stages, stops⟩ := pipeline_assign depth name place next sign behind
        rw [split, stops] at taken
        cases taken
        cases ends
      · rename_i split
        obtain ⟨rfl, rfl⟩ := List.cons.inj split
        have unthrown : Text.sameName _ "throw" = false := other
        rw [List.cons_append, ← List.append_eq] at taken
        simp only [unthrown, Bool.false_eq_true, if_false, taken]
      · rw [taken]

/-- Separators in front of a statement, or of nothing, are dropped. -/
theorem dropSeparators_append {separators : List Placed} (rest : List Placed)
    (all : AreSeparators separators)
    (stops : rest = [] ∨ Starts Token.startsValue rest) :
    dropSeparators (separators ++ rest) = rest := by
  induction separators with
  | nil =>
    rcases stops with rfl | ⟨⟨token, place⟩, others, rfl, known⟩
    · rfl
    · cases token <;> first | rfl | cases known
  | cons first separators ih =>
    obtain ⟨token, place⟩ := first
    obtain ⟨here, others⟩ := List.forall_mem_cons.mp all
    cases here
    exact ih others

/-- Separators with nothing behind them, or some with anything, are the end of a statement. -/
theorem atStatementEnd_append {separators : List Placed} (rest : List Placed)
    (all : AreSeparators separators) (ends : separators = [] → rest = []) :
    atStatementEnd (separators ++ rest) = true := by
  cases separators with
  | nil =>
    rw [ends rfl]
    rfl
  | cons first separators =>
    obtain ⟨token, place⟩ := first
    cases (List.forall_mem_cons.mp all).1
    rfl

/-- A statement is read, and then those behind its separators. -/
theorem statements_step {depth : Nat} {row behind : List Placed} {deed : Statement}
    {others : List Statement} (phrase : IsStatement row deed) (short : row.length < depth)
    (ends : atStatementEnd behind = true) {bound : List Placed} (enough : row.length ≤ bound.length)
    (further : statements depth bound.tail (dropSeparators behind) = .ok others) :
    statements depth bound (row ++ behind) = .ok (deed :: others) := by
  obtain ⟨phrase⟩ := phrase
  have taken := action_reads depth _ _ _ phrase short ends
  cases bound with
  | nil => exact absurd enough (Nat.not_succ_le_zero _)
  | cons extra bound =>
    rw [List.cons_append] at taken ⊢
    unfold statements
    simp only [List.tail_cons] at further
    simp only [taken, ends, further, if_true]

/-- Statements are read one after the other, up to the separators behind the last. -/
theorem statements_reads {depth : Nat} {row behind : List Placed} {deeds : List Statement}
    (phrase : IsStatements row deeds) (short : row.length < depth) (all : AreSeparators behind)
    {bound : List Placed} (enough : row.length ≤ bound.length) :
    statements depth bound (row ++ behind) = .ok deeds := by
  induction phrase generalizing bound with
  | one phrase =>
    have dropped := dropSeparators_append [] all (.inl rfl)
    have ends := atStatementEnd_append [] all fun _ => rfl
    rw [List.append_nil] at dropped ends
    refine statements_step phrase short ends enough ?_
    rw [dropped]
    cases bound.tail <;> rfl
  | @more row between rest deed others phrase separated apart further ih =>
    have nonempty := phrase.starts.length_pos
    rw [List.length_append, List.length_append] at short enough
    rw [List.append_assoc, List.append_assoc]
    refine statements_step phrase (by omega)
      (atStatementEnd_append _ separated fun none => absurd none apart) (by omega) ?_
    rw [dropSeparators_append _ separated (.inr further.starts.append)]
    exact ih (by omega) (by rw [List.length_tail]; omega)

/-- **What the grammar derives is read**, with the tree that it derives. -/
theorem script_reads {tokens : List Placed} {deeds : List Statement}
    (phrase : IsScript tokens deeds) : script tokens = .ok deeds := by
  unfold script
  cases phrase with
  | empty all =>
    have dropped := dropSeparators_append [] all (.inl rfl)
    rw [List.append_nil] at dropped
    rw [dropped]
    cases tokens <;> rfl
  | @statements before row behind _ all phrase also =>
    rw [dropSeparators_append _ all (.inr phrase.starts.append)]
    refine statements_reads phrase ?_ also ?_
    · simp only [List.length_append]
      omega
    · simp only [List.length_append]
      omega

/-- **The grammar gives a row of tokens one tree at most.** -/
theorem IsScript.unique {tokens : List Placed} {deeds others : List Statement}
    (phrase : IsScript tokens deeds) (other : IsScript tokens others) : deeds = others :=
  Except.ok.inj ((script_reads phrase).symm.trans (script_reads other))

/-- A text is read as its tokens are. -/
theorem read_of_scan {text : String} {scanned : Tokens} (scans : scan text = .ok scanned) :
    read text = match script scanned.tokens with
      | .error rest => .error (refusal scanned.finish rest)
      | .ok deeds => .ok deeds := by
  unfold read
  generalize scan text = result at scans
  subst scans
  rfl

/-- A text of one statement is read as it. -/
theorem read_statement {text : String} {row : List Placed} {finish : Place} {statement : Statement}
    (scans : scan text = .ok ⟨row, finish⟩) (phrase : IsStatement row statement) :
    read text = .ok [statement] := by
  have script : IsScript ([] ++ (row ++ [])) [statement] :=
    .statements nofun (.one phrase) nofun
  rw [List.append_nil, List.nil_append] at script
  rw [read_of_scan scans, script_reads script]

/-- **Reading is parsing by the grammar.** A row of tokens is read as a script if the grammar derives
one from it, with the tree of the derivation, and is refused if the grammar derives none. A text is read
with the tree that the grammar derives from its tokens; where there is none, nothing of the text is run,
and it fails with an error of the parser. -/
theorem script_iff :
    (∀ tokens deeds, script tokens = .ok deeds ↔ IsScript tokens deeds) ∧
    (∀ tokens, (∃ rest, script tokens = .error rest) ↔ ¬ ∃ deeds, IsScript tokens deeds) ∧
    (∀ text deeds, read text = .ok deeds ↔
      ∃ scanned, scan text = .ok scanned ∧ IsScript scanned.tokens deeds) ∧
    (∀ text, (∃ scanned deeds, scan text = .ok scanned ∧ IsScript scanned.tokens deeds) ∨
      ∃ fault place, ∀ files s, Engine.runText files text s =
        Engine.Eval.throw (.parse fault ⟨s.frame.file, place⟩) s) := by
  have parsed : ∀ tokens deeds, script tokens = .ok deeds ↔ IsScript tokens deeds :=
    fun tokens deeds => ⟨isScript_of_script, script_reads⟩
  have texts : ∀ text deeds, read text = .ok deeds ↔
      ∃ scanned, scan text = .ok scanned ∧ IsScript scanned.tokens deeds := fun text deeds => by
    cases scans : scan text with
    | error e =>
      unfold read
      rw [scans]
      exact iff_of_false nofun fun ⟨_, other, _⟩ => nomatch other
    | ok scanned =>
      rw [read_of_scan scans]
      constructor
      · intro reads
        split at reads <;> cases reads
        exact ⟨scanned, rfl, (parsed _ _).mp ‹_›⟩
      · rintro ⟨_, ⟨⟩, phrase⟩
        rw [(parsed _ _).mpr phrase]
  refine ⟨parsed, fun tokens => ?_, texts, fun text => ?_⟩
  · cases reads : script tokens with
    | ok deeds => exact iff_of_false nofun fun none => none ⟨deeds, (parsed _ _).mp reads⟩
    | error rest =>
      exact iff_of_true ⟨rest, rfl⟩ fun ⟨deeds, phrase⟩ =>
        nomatch reads.symm.trans ((parsed _ _).mpr phrase)
  · cases reads : read text with
    | ok deeds =>
      obtain ⟨scanned, scans, phrase⟩ := (texts text deeds).mp reads
      exact .inl ⟨scanned, deeds, scans, phrase⟩
    | error e =>
      refine .inr ⟨e.fault, e.place, fun files s => ?_⟩
      unfold Engine.runText
      rw [reads]

end ShellSession.Script

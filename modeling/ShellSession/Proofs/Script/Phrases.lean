/-
**What a reader takes is a phrase.**

Reader by reader: whatever one takes from the front of a row is a phrase of its kind, with the tree that
it returns.

* `Takes`: a reader takes only phrases of a kind;
* `unary_takes`, `chain_takes`, `enumeration_takes`: expressions;
* `pipeline_takes`, `action_takes`: pipelines and statements;
* `isScript_of_script`: **what is read as a script is one**.
-/

import ShellSession.Proofs.Script.Grammar

namespace ShellSession.Script

/-- What the reader takes from a row are phrases of a kind. -/
def Takes {α : Type} (reader : Reader α) (phrase : Phrase α) : Prop :=
  ∀ tokens a rest, reader tokens = .ok (a, rest) → ∃ row, tokens = row ++ rest ∧ phrase row a

section

variable {group : Reader (List Segment)} {Group : Phrase (List Segment)}

/-! ### Expressions -/

/-- A name is compared with a name in small letters by its own small letters. -/
theorem sameName_iff {name literal : String} (small : Text.lower literal = literal) :
    Text.sameName name literal = true ↔ Text.lower name = literal := by
  unfold Text.sameName
  rw [small]
  exact beq_iff_eq

theorem sameName_null {name : String} :
    Text.sameName name "null" = true ↔ Text.lower name = "null" :=
  sameName_iff (by decide)

theorem sameName_true {name : String} :
    Text.sameName name "true" = true ↔ Text.lower name = "true" :=
  sameName_iff (by decide)

theorem sameName_false {name : String} :
    Text.sameName name "false" = true ↔ Text.lower name = "false" :=
  sameName_iff (by decide)

/-- **What a variable stands for makes it a primary**, and nothing else does. -/
theorem isPrimary_reference_iff {name : String} {place : Place} {expr : Expr} :
    IsPrimary Group [⟨.reference name, place⟩] expr ↔ expr = variableExpr name := by
  constructor
  · intro primary
    unfold variableExpr
    cases primary with
    | null _ _ same => simp only [sameName_null.mp same, if_true]
    | truth _ _ same =>
      simp only [sameName_true.mp same, if_true, if_neg (show "true" ≠ "null" by decide)]
    | falsehood _ _ same =>
      simp only [sameName_false.mp same, if_true, if_neg (show "false" ≠ "null" by decide),
        if_neg (show "false" ≠ "true" by decide)]
    | reference _ _ other =>
      have differs : ∀ literal ∈ ["null", "true", "false"], Text.sameName name literal ≠ true :=
        fun literal member => Bool.eq_false_iff.mp (other literal member)
      simp only [if_neg (mt sameName_null.mpr (differs "null" (by simp))),
        if_neg (mt sameName_true.mpr (differs "true" (by simp))),
        if_neg (mt sameName_false.mpr (differs "false" (by simp)))]
  · rintro rfl
    unfold variableExpr
    simp only
    split
    · exact .null name place (sameName_null.mpr ‹_›)
    · split
      · exact .truth name place (sameName_true.mpr ‹_›)
      · split
        · exact .falsehood name place (sameName_false.mpr ‹_›)
        · refine .reference name place fun literal member => Bool.eq_false_iff.mpr ?_
          simp only [List.mem_cons, List.not_mem_nil, or_false] at member
          rcases member with rfl | rfl | rfl
          · exact mt sameName_null.mp ‹_›
          · exact mt sameName_true.mp ‹_›
          · exact mt sameName_false.mp ‹_›

theorem primary_takes (takes : Takes group Group) : Takes (primary group) (IsPrimary Group) := by
  intro tokens expr rest taken
  unfold primary at taken
  split at taken
  · cases taken
    exact ⟨[_], rfl, .int _ _⟩
  · cases taken
    exact ⟨[_], rfl, .float _ _⟩
  · cases taken
    exact ⟨[_], rfl, .text _ _⟩
  · cases taken
    exact ⟨[_], rfl, .word _ _⟩
  · cases taken
    exact ⟨[_], rfl, isPrimary_reference_iff.mpr rfl⟩
  · rename_i start tail
    unfold grouped at taken
    split at taken
    · cases taken
    · rename_i segments finish behind inner
      cases taken
      obtain ⟨row, rfl, grouped⟩ := takes _ _ _ inner
      refine ⟨⟨.opening, start⟩ :: (row ++ [⟨.closing, finish⟩]), ?_, .group _ _ _ _ grouped⟩
      rw [List.cons_append, List.append_assoc]
      rfl
    · cases taken
  · cases taken

theorem unary_takes (takes : Takes group Group) : Takes (unary group) (IsUnary Group) := by
  intro tokens expr rest taken
  fun_induction unary group tokens generalizing expr with
  | case1 place tail inner refused => cases taken
  | case2 place tail operand behind inner ih =>
    cases taken
    obtain ⟨row, rfl, unary⟩ := ih _ inner
    exact ⟨⟨.operator .sub, place⟩ :: row, rfl, .negate place unary⟩
  | case3 tokens other =>
    obtain ⟨row, split, primary⟩ := primary_takes takes _ _ _ taken
    exact ⟨row, split, .primary primary⟩

/-- An operator of some kind at the front of a row. -/
def LeadsWith (sign? : List Placed → Option (Operator × List Placed)) (signs : Operator → Bool) :
    Prop :=
  (∀ tokens sign rest, sign? tokens = some (sign, rest) →
    signs sign = true ∧ ∃ place, tokens = ⟨.operator sign, place⟩ :: rest) ∧
  ∀ sign place rest, signs sign = true → sign? (⟨.operator sign, place⟩ :: rest) = some (sign, rest)

theorem leadsWith_product : LeadsWith productOperator Operator.isProduct := by
  refine ⟨fun tokens sign rest found => ?_, fun sign place rest known => ?_⟩
  · unfold productOperator at found
    split at found <;> cases found <;> exact ⟨rfl, _, rfl⟩
  · cases sign <;> first | rfl | cases known

theorem leadsWith_sum : LeadsWith sumOperator Operator.isSum := by
  refine ⟨fun tokens sign rest found => ?_, fun sign place rest known => ?_⟩
  · unfold sumOperator at found
    split at found <;> cases found <;> exact ⟨rfl, _, rfl⟩
  · cases sign <;> first | rfl | cases known

variable {sign? : List Placed → Option (Operator × List Placed)} {signs : Operator → Bool}
  {operand : Reader Expr} {Operand : Phrase Expr}

theorem chainFrom_takes (leads : LeadsWith sign? signs) (takes : Takes operand Operand)
    {bound front tokens rest : List Placed} {left expr : Expr}
    (sofar : IsChain signs Operand front left)
    (taken : chainFrom sign? operand bound left tokens = .ok (expr, rest)) :
    ∃ row, tokens = row ++ rest ∧ IsChain signs Operand (front ++ row) expr := by
  induction bound generalizing front left tokens with
  | nil =>
    cases taken
    exact ⟨[], rfl, (List.append_nil front).symm ▸ sofar⟩
  | cons _ bound ih =>
    unfold chainFrom at taken
    split at taken
    · cases taken
      exact ⟨[], rfl, (List.append_nil front).symm ▸ sofar⟩
    · rename_i sign behind found
      obtain ⟨known, place, rfl⟩ := leads.1 _ _ _ found
      split at taken
      · cases taken
      · rename_i right further inner
        obtain ⟨row, rfl, operand⟩ := takes _ _ _ inner
        obtain ⟨more, rfl, chain⟩ := ih (.operation sign place sofar known operand) taken
        exact ⟨⟨.operator sign, place⟩ :: (row ++ more), by simp, by simpa using chain⟩

theorem chain_takes (leads : LeadsWith sign? signs) (takes : Takes operand Operand) :
    Takes (chain sign? operand) (IsChain signs Operand) := by
  intro tokens expr rest taken
  unfold chain at taken
  split at taken
  · cases taken
  · rename_i left behind inner
    obtain ⟨row, rfl, first⟩ := takes _ _ _ inner
    obtain ⟨more, rfl, chain⟩ := chainFrom_takes leads takes (.operand first) taken
    exact ⟨row ++ more, (List.append_assoc _ _ _).symm, chain⟩

theorem additive_takes (takes : Takes group Group) :
    Takes (additive group) (IsAdditive Group) :=
  chain_takes leadsWith_sum (chain_takes leadsWith_product (unary_takes takes))

/-- Followers behind an item, if there are any, make a row of separated items with it. -/
theorem followers_takes {α : Type} {leads : Token → Bool} {item : Reader α} {Item : Phrase α}
    (takes : Takes item Item) {bound front tokens rest : List Placed} {first : α} {items : List α}
    (head : Item front first) (taken : followers leads item bound tokens = .ok (items, rest)) :
    ∃ row, tokens = row ++ rest ∧ IsSeparated leads Item (front ++ row) (first :: items) := by
  induction bound generalizing front tokens first items with
  | nil =>
    cases taken
    exact ⟨[], rfl, (List.append_nil front).symm ▸ .one head⟩
  | cons _ bound ih =>
    cases tokens with
    | nil =>
      cases taken
      exact ⟨[], rfl, (List.append_nil front).symm ▸ .one head⟩
    | cons lead behind =>
      unfold followers at taken
      split at taken
      · rename_i known
        split at taken
        · cases taken
        · rename_i second further inner
          split at taken
          · cases taken
          · rename_i others last others_taken
            cases taken
            obtain ⟨row, rfl, next⟩ := takes _ _ _ inner
            obtain ⟨more, rfl, separated⟩ := ih next others_taken
            exact ⟨lead :: (row ++ more), by simp, .more lead head known separated⟩
      · cases taken
        exact ⟨[], rfl, (List.append_nil front).symm ▸ .one head⟩

theorem enumeration_takes {item : Reader Expr} {Item : Phrase Expr} (takes : Takes item Item) :
    Takes (enumeration item) (IsEnumeration Item) := by
  intro tokens expr rest taken
  unfold enumeration at taken
  split at taken
  · cases taken
  · rename_i first behind inner
    obtain ⟨front, rfl, head⟩ := takes _ _ _ inner
    split at taken
    · cases taken
    · rename_i last others
      cases taken
      obtain ⟨row, rfl, separated⟩ := followers_takes takes head others
      exact ⟨front ++ row, (List.append_assoc _ _ _).symm, .one separated.single⟩
    · rename_i items last others nonempty
      cases taken
      obtain ⟨row, rfl, separated⟩ := followers_takes takes head nonempty
      refine ⟨front ++ row, (List.append_assoc _ _ _).symm, ?_⟩
      cases items with
      | nil => exact absurd rfl (others · )
      | cons second items => exact .list separated

theorem value_takes (takes : Takes group Group) : Takes (value group) (IsValue Group) :=
  enumeration_takes (unary_takes takes)

theorem list_takes (takes : Takes group Group) : Takes (list group) (IsList Group) :=
  enumeration_takes (additive_takes takes)

/-! ### Command calls and pipelines -/

/-- A parameter stays without a value only before the end of the segment or another parameter. -/
theorem argument_takes (takes : Takes group Group) {tokens rest : List Placed}
    {passed : Argument} (taken : argument group tokens = .ok (passed, rest)) :
    ∃ row, tokens = row ++ rest ∧ IsArgument Group row passed ∧
      (passed.isBare = true → atSegmentEnd rest = true ∨ startsParameter rest = true) := by
  unfold argument at taken
  split at taken
  · rename_i name place behind
    split at taken
    · rename_i ends
      cases taken
      exact ⟨[_], rfl, .bare name place, fun _ => Bool.or_eq_true_iff.mp ends⟩
    · split at taken
      · cases taken
      · rename_i expr further inner
        cases taken
        obtain ⟨row, rfl, value⟩ := value_takes takes _ _ _ inner
        exact ⟨⟨.parameter name, place⟩ :: row, rfl, .named name place value, nofun⟩
  · split at taken
    · cases taken
    · rename_i expr further inner
      cases taken
      obtain ⟨row, split, value⟩ := value_takes takes _ _ _ inner
      exact ⟨row, split, .positional value, nofun⟩

/-- Behind the end of a segment there are no arguments, and behind a parameter the first one is named. -/
theorem not_startsPositional {bound tokens rest : List Placed} {passed : List Argument}
    (taken : arguments group bound tokens = .ok (passed, rest))
    (ends : atSegmentEnd tokens = true ∨ startsParameter tokens = true) :
    startsPositional passed = false := by
  cases bound with
  | nil =>
    cases taken
    rfl
  | cons _ bound =>
    unfold arguments at taken
    split at taken
    · cases taken
      rfl
    · rename_i going
      have starts := ends.resolve_left going
      unfold startsParameter at starts
      split at starts
      · rename_i name place behind
        unfold argument at taken
        simp only at taken
        split at taken
        · cases taken
        · rename_i first further inner
          split at inner
          · cases inner
            split at taken <;> cases taken
            rfl
          · split at inner <;> cases inner
            split at taken <;> cases taken
            rfl
      · cases starts

theorem arguments_takes (takes : Takes group Group) (bound : List Placed) :
    Takes (arguments group bound) (IsArguments Group) := by
  intro tokens passed rest taken
  induction bound generalizing tokens passed with
  | nil =>
    cases taken
    exact ⟨[], rfl, .none⟩
  | cons _ bound ih =>
    unfold arguments at taken
    split at taken
    · cases taken
      exact ⟨[], rfl, .none⟩
    · split at taken
      · cases taken
      · rename_i first behind inner
        split at taken
        · cases taken
        · rename_i others last further
          cases taken
          obtain ⟨row, rfl, argument, greedy⟩ := argument_takes takes inner
          obtain ⟨more, rfl, others⟩ := ih _ _ further
          exact ⟨row ++ more, (List.append_assoc _ _ _).symm, .more argument others fun bare =>
            not_startsPositional further (greedy bare)⟩

theorem segment_takes (takes : Takes group Group) : Takes (segment group) (IsSegment Group) := by
  intro tokens stage rest taken
  unfold segment at taken
  split at taken
  · rename_i name place behind
    split at taken
    · cases taken
    · rename_i passed further inner
      cases taken
      obtain ⟨row, rfl, arguments⟩ := arguments_takes takes _ _ _ _ inner
      exact ⟨⟨.word name, place⟩ :: row, rfl, .call name place arguments⟩
  · rename_i other
    split at taken
    · cases taken
    · rename_i expr further inner
      cases taken
      obtain ⟨row, rfl, list⟩ := list_takes takes _ _ _ inner
      refine ⟨row, rfl, .expr list ?_⟩
      unfold startsCall
      split
      · exact absurd rfl (other _ _ _)
      · rfl

theorem segments_takes (takes : Takes group Group) : Takes (segments group) (IsSegments Group) := by
  intro tokens stages rest taken
  unfold segments at taken
  split at taken
  · cases taken
  · rename_i first behind inner
    split at taken
    · cases taken
    · rename_i others further followed
      cases taken
      obtain ⟨front, rfl, head⟩ := segment_takes takes _ _ _ inner
      obtain ⟨row, rfl, separated⟩ := followers_takes (segment_takes takes) head followed
      exact ⟨front ++ row, (List.append_assoc _ _ _).symm, separated⟩

end

/-- **What is read as a pipeline is one**, however deep its groups may be nested. -/
theorem pipeline_takes (depth : Nat) : Takes (pipeline depth) IsPipeline := by
  induction depth with
  | zero => exact fun tokens stages rest taken => by cases taken
  | succ depth ih =>
    intro tokens stages rest taken
    obtain ⟨row, split, stages⟩ := segments_takes ih _ _ _ taken
    exact ⟨row, split, isPipeline_iff.mpr stages⟩

/-! ### Statements and scripts -/

theorem action_takes (depth : Nat) : Takes (action depth) IsAction := by
  intro tokens deed rest taken
  unfold action at taken
  split at taken
  · rename_i name place sign next behind
    split at taken
    · cases taken
    · rename_i stages further inner
      cases taken
      obtain ⟨row, rfl, pipeline⟩ := pipeline_takes depth _ _ _ inner
      exact ⟨⟨.reference name, place⟩ :: ⟨.assign sign, next⟩ :: row, rfl,
        .assign name place next sign pipeline⟩
  · rename_i chars place behind
    split at taken
    · rename_i throws
      split at taken
      · cases taken
        exact ⟨[_], rfl, .bare chars place throws⟩
      · split at taken
        · cases taken
        · rename_i expr further inner
          cases taken
          obtain ⟨row, rfl, list⟩ := list_takes (pipeline_takes depth) _ _ _ inner
          exact ⟨⟨.word chars, place⟩ :: row, rfl, .raise chars place throws list⟩
    · rename_i other
      split at taken
      · cases taken
      · rename_i stages further inner
        cases taken
        obtain ⟨row, split, pipeline⟩ := pipeline_takes depth _ _ _ inner
        refine ⟨row, split, .run pipeline ?_⟩
        cases row with
        | nil => rfl
        | cons first row =>
          obtain ⟨rfl, _⟩ := List.cons.inj split
          exact Bool.eq_false_iff.mpr other
  · rename_i other
    split at taken
    · cases taken
    · rename_i stages further inner
      cases taken
      obtain ⟨row, rfl, pipeline⟩ := pipeline_takes depth _ _ _ inner
      refine ⟨row, rfl, .run pipeline ?_⟩
      unfold startsThrow
      split
      · exact absurd rfl (other _ _ _)
      · rfl

/-- The separators at the front of a row, and what stands behind them. -/
theorem exists_separators (row : List Placed) : ∃ separators,
    row = separators ++ dropSeparators row ∧ AreSeparators separators := by
  fun_induction dropSeparators row with
  | case1 place rest ih =>
    obtain ⟨separators, split, all⟩ := ih
    refine ⟨⟨.separator, place⟩ :: separators, by rw [List.cons_append, ← split], ?_⟩
    exact List.forall_mem_cons.mpr ⟨rfl, all⟩
  | case2 tokens _ => exact ⟨[], rfl, fun _ member => by cases member⟩

/-- A row at the end of a statement begins with no value. -/
theorem not_starts_of_atStatementEnd {row : List Placed} (ends : atStatementEnd row = true) :
    ¬ Starts Token.startsValue row := by
  rintro ⟨first, rest, rfl, known⟩
  unfold atStatementEnd at ends
  split at ends
  · contradiction
  · rename_i same
    cases same
    cases known
  · cases ends

/-- What is read as statements are some, with separators between them and behind. -/
theorem statements_takes (depth : Nat) {bound tokens : List Placed} {deeds : List Statement}
    (taken : statements depth bound tokens = .ok deeds) : (tokens = [] ∧ deeds = []) ∨
      ∃ row behind, tokens = row ++ behind ∧ IsStatements row deeds ∧ AreSeparators behind := by
  fun_induction statements depth bound tokens generalizing deeds with
  | case1 => exact .inl ⟨rfl, (Except.ok.inj taken).symm⟩
  | case5 _ bound first tail action rest done ends others _ ih =>
    cases taken
    obtain ⟨row, split, action⟩ := action_takes depth _ _ _ done
    obtain ⟨known, more, rfl, _⟩ := action.starts
    obtain ⟨rfl, rfl⟩ := List.cons.inj split
    have statement : IsStatement (first :: more) ⟨first.place, _⟩ := .intro action
    obtain ⟨separators, dropped, all⟩ := exists_separators rest
    refine .inr ?_
    rcases ih ‹_› with ⟨none, rfl⟩ | ⟨further, behind, parted, deeds, also⟩
    · rw [none, List.append_nil] at dropped
      exact ⟨first :: more, rest, rfl, .one statement, dropped ▸ all⟩
    · rw [parted] at dropped
      -- A statement cannot follow at once, as `rest` is at the end of one.
      have apart : separators ≠ [] := by
        rintro rfl
        exact not_starts_of_atStatementEnd ends (dropped ▸ deeds.starts.append)
      refine ⟨first :: more ++ (separators ++ further), behind, ?_,
        .more statement all apart deeds, also⟩
      show first :: (more ++ rest) = _
      rw [dropped]
      simp only [List.cons_append, List.append_assoc]
  | _ => cases taken

/-- **What is read as a script is one.** -/
theorem isScript_of_script {tokens : List Placed} {deeds : List Statement}
    (read : script tokens = .ok deeds) : IsScript tokens deeds := by
  obtain ⟨separators, split, all⟩ := exists_separators tokens
  rw [split]
  rcases statements_takes _ read with ⟨none, rfl⟩ | ⟨row, behind, rest, deeds, also⟩
  · rw [none, List.append_nil]
    exact .empty all
  · rw [rest]
    exact .statements all deeds also

end ShellSession.Script

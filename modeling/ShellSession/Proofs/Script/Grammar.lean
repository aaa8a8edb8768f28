/-
**The grammar of scripts.**

The phrases of the language, production by production: each says which rows of tokens are such a phrase,
and with which tree. Nothing here looks ahead. What the productions alone leave open is settled where it
arises: a segment that begins with a word is a call, a statement that begins with `throw` raises an
error, and a parameter takes the value behind it, where there is one.

* `IsPrimary`, `IsUnary`, `IsChain`, `IsEnumeration`: expressions, from what binds tightest on;
* `IsArgument`, `IsArguments`, `IsSegment`: command calls and segments, given what a group is;
* `IsPipeline`: **the least phrase of segments in which groups are pipelines again**;
* `IsAction`, `IsStatements`, `IsScript`: statements, and scripts with their separators.
-/

import ShellSession.Script.Reading

namespace ShellSession.Script

/-- Which rows of tokens are a phrase of some kind, and with which tree. -/
abbrev Phrase (α : Type) := List Placed → α → Prop

/-! ### Expressions -/

/-- Whether a word stands first. -/
def startsCall : List Placed → Bool
  | ⟨.word _, _⟩ :: _ => true
  | _ => false

/-- Whether the word `throw` stands first, in any letter case. -/
def startsThrow : List Placed → Bool
  | ⟨.word chars, _⟩ :: _ => Text.sameName chars "throw"
  | _ => false

/-- `primary = int | float | text | variable | word | "(" pipeline ")"`, where three variables are
literals. -/
inductive IsPrimary (Group : Phrase (List Segment)) : Phrase Expr
  | int (number : Int64) (place : Place) :
      IsPrimary Group [⟨.int number, place⟩] (.literal (.int number))
  | float (number : Float) (place : Place) :
      IsPrimary Group [⟨.float number, place⟩] (.literal (.float number))
  | text (chars : String) (place : Place) :
      IsPrimary Group [⟨.text chars, place⟩] (.literal (.text chars))
  | word (chars : String) (place : Place) :
      IsPrimary Group [⟨.word chars, place⟩] (.literal (.text chars))
  | null (name : String) (place : Place) : Text.sameName name "null" = true →
      IsPrimary Group [⟨.reference name, place⟩] (.literal .null)
  | truth (name : String) (place : Place) : Text.sameName name "true" = true →
      IsPrimary Group [⟨.reference name, place⟩] (.literal (.bool true))
  | falsehood (name : String) (place : Place) : Text.sameName name "false" = true →
      IsPrimary Group [⟨.reference name, place⟩] (.literal (.bool false))
  | reference (name : String) (place : Place) :
      (∀ literal ∈ ["null", "true", "false"], Text.sameName name literal = false) →
      IsPrimary Group [⟨.reference name, place⟩] (.reference name)
  | group (row : List Placed) (segments : List Segment) (start finish : Place) :
      Group row segments →
      IsPrimary Group (⟨.opening, start⟩ :: (row ++ [⟨.closing, finish⟩])) (.group segments)

/-- `unary = "-" unary | primary`. -/
inductive IsUnary (Group : Phrase (List Segment)) : Phrase Expr
  | primary {row : List Placed} {expr : Expr} : IsPrimary Group row expr → IsUnary Group row expr
  | negate {row : List Placed} {expr : Expr} (place : Place) : IsUnary Group row expr →
      IsUnary Group (⟨.operator .sub, place⟩ :: row) (.negate expr)

/-- `operand (sign operand)*`, grouped to the left. -/
inductive IsChain (signs : Operator → Bool) (Operand : Phrase Expr) : Phrase Expr
  | operand {row : List Placed} {expr : Expr} : Operand row expr → IsChain signs Operand row expr
  | operation {left right : List Placed} {a b : Expr} (sign : Operator) (place : Place) :
      IsChain signs Operand left a → signs sign = true → Operand right b →
      IsChain signs Operand (left ++ ⟨.operator sign, place⟩ :: right) (.binary a sign b)

/-- Whether an operator stands between factors. -/
def Operator.isProduct : Operator → Bool
  | mul => true
  | div => true
  | _ => false

/-- Whether an operator stands between terms. -/
def Operator.isSum : Operator → Bool
  | add => true
  | sub => true
  | _ => false

/-- `term = unary (("*" | "/") unary)*`. -/
abbrev IsTerm (Group : Phrase (List Segment)) : Phrase Expr :=
  IsChain Operator.isProduct (IsUnary Group)

/-- `additive = term (("+" | "-") term)*`. -/
abbrev IsAdditive (Group : Phrase (List Segment)) : Phrase Expr :=
  IsChain Operator.isSum (IsTerm Group)

/-- `item (lead item)*`, for tokens that lead to the next item. -/
inductive IsSeparated {α : Type} (leads : Token → Bool) (Item : Phrase α) : Phrase (List α)
  | one {row : List Placed} {item : α} : Item row item → IsSeparated leads Item row [item]
  | more {row rest : List Placed} {item : α} {items : List α} (lead : Placed) : Item row item →
      leads lead.token = true → IsSeparated leads Item rest items →
      IsSeparated leads Item (row ++ lead :: rest) (item :: items)

/-- `item ("," item)*`, one item alone standing for itself. -/
inductive IsEnumeration (Item : Phrase Expr) : Phrase Expr
  | one {row : List Placed} {item : Expr} : Item row item → IsEnumeration Item row item
  | list {row : List Placed} {first second : Expr} {others : List Expr} :
      IsSeparated isComma Item row (first :: second :: others) →
      IsEnumeration Item row (.list (first :: second :: others))

/-- `value = unary ("," unary)*`. -/
abbrev IsValue (Group : Phrase (List Segment)) : Phrase Expr :=
  IsEnumeration (IsUnary Group)

/-- `list = additive ("," additive)*`. -/
abbrev IsList (Group : Phrase (List Segment)) : Phrase Expr :=
  IsEnumeration (IsAdditive Group)

/-! ### Command calls and pipelines -/

/-- `argument = parameter value? | value`. -/
inductive IsArgument (Group : Phrase (List Segment)) : Phrase Argument
  | bare (name : String) (place : Place) :
      IsArgument Group [⟨.parameter name, place⟩] (.named name none)
  | named {row : List Placed} {expr : Expr} (name : String) (place : Place) :
      IsValue Group row expr →
      IsArgument Group (⟨.parameter name, place⟩ :: row) (.named name (some expr))
  | positional {row : List Placed} {expr : Expr} : IsValue Group row expr →
      IsArgument Group row (.positional expr)

/-- Whether a value stands first among arguments. -/
def startsPositional : List Argument → Bool
  | .positional _ :: _ => true
  | _ => false

/-- Whether an argument is a parameter without a value. -/
def Argument.isBare : Argument → Bool
  | named _ none => true
  | _ => false

/-- `argument*`, where a parameter takes the value behind it. -/
inductive IsArguments (Group : Phrase (List Segment)) : Phrase (List Argument)
  | none : IsArguments Group [] []
  | more {row rest : List Placed} {argument : Argument} {others : List Argument} :
      IsArgument Group row argument → IsArguments Group rest others →
      (argument.isBare = true → startsPositional others = false) →
      IsArguments Group (row ++ rest) (argument :: others)

/-- `segment = word argument* | list`, a word standing first making a call. -/
inductive IsSegment (Group : Phrase (List Segment)) : Phrase Segment
  | call {row : List Placed} {arguments : List Argument} (name : String) (place : Place) :
      IsArguments Group row arguments →
      IsSegment Group (⟨.word name, place⟩ :: row) (.call name arguments)
  | expr {row : List Placed} {expr : Expr} : IsList Group row expr → startsCall row = false →
      IsSegment Group row (.expr expr)

/-- `pipeline = segment ("|" segment)*`, given what a group is. -/
abbrev IsSegments (Group : Phrase (List Segment)) : Phrase (List Segment) :=
  IsSeparated isPipe (IsSegment Group)

/-- A pipeline: segments in which a group is a pipeline. The groups may be of any kind of which all are
pipelines, so that this is the least phrase of this form. -/
inductive IsPipeline : Phrase (List Segment)
  | intro {row : List Placed} {segments : List Segment} (Group : Phrase (List Segment)) :
      (∀ row segments, Group row segments → IsPipeline row segments) →
      IsSegments Group row segments → IsPipeline row segments

section

variable {Group Other : Phrase (List Segment)} {row : List Placed}

theorem IsPrimary.mono {expr : Expr} (primary : IsPrimary Group row expr)
    (wider : ∀ row segments, Group row segments → Other row segments) :
    IsPrimary Other row expr := by
  cases primary with
  | int number place => exact .int number place
  | float number place => exact .float number place
  | text chars place => exact .text chars place
  | word chars place => exact .word chars place
  | null name place same => exact .null name place same
  | truth name place same => exact .truth name place same
  | falsehood name place same => exact .falsehood name place same
  | reference name place other => exact .reference name place other
  | group row segments start finish group =>
    exact .group row segments start finish (wider row segments group)

theorem IsUnary.mono {expr : Expr} (unary : IsUnary Group row expr)
    (wider : ∀ row segments, Group row segments → Other row segments) :
    IsUnary Other row expr := by
  induction unary with
  | primary primary => exact .primary (primary.mono wider)
  | negate place _ ih => exact .negate place ih

theorem IsChain.mono {signs : Operator → Bool} {Operand Wider : Phrase Expr} {expr : Expr}
    (chain : IsChain signs Operand row expr)
    (wider : ∀ row expr, Operand row expr → Wider row expr) : IsChain signs Wider row expr := by
  induction chain with
  | operand operand => exact .operand (wider _ _ operand)
  | operation sign place _ known right ih => exact .operation sign place ih known (wider _ _ right)

theorem IsSeparated.mono {α : Type} {leads : Token → Bool} {Item Wider : Phrase α}
    {items : List α} (separated : IsSeparated leads Item row items)
    (wider : ∀ row item, Item row item → Wider row item) : IsSeparated leads Wider row items := by
  induction separated with
  | one item => exact .one (wider _ _ item)
  | more lead item leads _ ih => exact .more lead (wider _ _ item) leads ih

/-- An item alone. -/
theorem IsSeparated.single {α : Type} {leads : Token → Bool} {Item : Phrase α} {item : α}
    (separated : IsSeparated leads Item row [item]) : Item row item := by
  cases separated with
  | one item => exact item
  | more _ _ _ others => cases others

theorem IsEnumeration.mono {Item Wider : Phrase Expr} {expr : Expr}
    (enumeration : IsEnumeration Item row expr)
    (wider : ∀ row item, Item row item → Wider row item) : IsEnumeration Wider row expr := by
  cases enumeration with
  | one item => exact .one (wider _ _ item)
  | list items => exact .list (items.mono wider)

theorem IsArgument.mono {argument : Argument} (passed : IsArgument Group row argument)
    (wider : ∀ row segments, Group row segments → Other row segments) :
    IsArgument Other row argument := by
  cases passed with
  | bare name place => exact .bare name place
  | named name place value => exact .named name place (value.mono fun _ _ => (·.mono wider))
  | positional value => exact .positional (value.mono fun _ _ => (·.mono wider))

theorem IsArguments.mono {arguments : List Argument} (passed : IsArguments Group row arguments)
    (wider : ∀ row segments, Group row segments → Other row segments) :
    IsArguments Other row arguments := by
  induction passed with
  | none => exact .none
  | more argument _ greedy ih => exact .more (argument.mono wider) ih greedy

theorem IsSegment.mono {segment : Segment} (stage : IsSegment Group row segment)
    (wider : ∀ row segments, Group row segments → Other row segments) :
    IsSegment Other row segment := by
  cases stage with
  | call name place arguments => exact .call name place (arguments.mono wider)
  | expr list first =>
    exact .expr (list.mono fun _ _ => (·.mono fun _ _ => (·.mono fun _ _ => (·.mono wider)))) first

/-- **A pipeline is segments whose groups are pipelines.** -/
theorem isPipeline_iff {segments : List Segment} :
    IsPipeline row segments ↔ IsSegments IsPipeline row segments := by
  constructor
  · rintro ⟨Group, within, stages⟩
    exact stages.mono fun _ _ => (·.mono within)
  · exact .intro IsPipeline fun _ _ => id

end

/-! ### Statements and scripts -/

/-- `statement = "throw" list? | variable assignment pipeline | pipeline`, the word `throw` standing first
raising an error. -/
inductive IsAction : Phrase Action
  | bare (chars : String) (place : Place) : Text.sameName chars "throw" = true →
      IsAction [⟨.word chars, place⟩] (.raise none)
  | raise {row : List Placed} {expr : Expr} (chars : String) (place : Place) :
      Text.sameName chars "throw" = true → IsList IsPipeline row expr →
      IsAction (⟨.word chars, place⟩ :: row) (.raise (some expr))
  | assign {row : List Placed} {segments : List Segment} (name : String) (place next : Place)
      (sign : Option Operator) : IsPipeline row segments →
      IsAction (⟨.reference name, place⟩ :: ⟨.assign sign, next⟩ :: row)
        (.assign name sign segments)
  | run {row : List Placed} {segments : List Segment} : IsPipeline row segments →
      startsThrow row = false → IsAction row (.run segments)

/-- A statement has the place of its first token. -/
inductive IsStatement : Phrase Statement
  | intro {first : Placed} {rest : List Placed} {action : Action} :
      IsAction (first :: rest) action → IsStatement (first :: rest) ⟨first.place, action⟩

/-- `separator*`. -/
def AreSeparators (row : List Placed) : Prop :=
  ∀ placed ∈ row, placed.token = .separator

/-- `statement (separator+ statement)*`. -/
inductive IsStatements : Phrase (List Statement)
  | one {row : List Placed} {statement : Statement} : IsStatement row statement →
      IsStatements row [statement]
  | more {row between rest : List Placed} {statement : Statement} {others : List Statement} :
      IsStatement row statement → AreSeparators between → between ≠ [] →
      IsStatements rest others → IsStatements (row ++ (between ++ rest)) (statement :: others)

/-- `script = separator* (statement (separator+ statement)*)? separator*`. -/
inductive IsScript : Phrase (List Statement)
  | empty {row : List Placed} : AreSeparators row → IsScript row []
  | statements {before row behind : List Placed} {statements : List Statement} :
      AreSeparators before → IsStatements row statements → AreSeparators behind →
      IsScript (before ++ (row ++ behind)) statements

/-! ### First tokens -/

/-- Whether a value may begin with the token. -/
def Token.startsValue : Token → Bool
  | int _ => true
  | float _ => true
  | text _ => true
  | word _ => true
  | reference _ => true
  | opening => true
  | operator .sub => true
  | _ => false

/-- Whether an argument may begin with the token. -/
def Token.startsArgument : Token → Bool
  | parameter _ => true
  | token => token.startsValue

/-- The row begins with a token of some kind. -/
def Starts (kind : Token → Bool) (row : List Placed) : Prop :=
  ∃ first rest, row = first :: rest ∧ kind first.token = true

section

variable {kind : Token → Bool} {Group : Phrase (List Segment)} {row rest : List Placed}

theorem Starts.append (starts : Starts kind row) : Starts kind (row ++ rest) := by
  obtain ⟨first, others, rfl, known⟩ := starts
  exact ⟨first, others ++ rest, rfl, known⟩

theorem Starts.length_pos (starts : Starts kind row) : 0 < row.length := by
  obtain ⟨first, others, rfl, _⟩ := starts
  exact Nat.succ_pos _

theorem IsUnary.starts {expr : Expr} (unary : IsUnary Group row expr) :
    Starts Token.startsValue row := by
  cases unary with
  | primary primary => cases primary <;> exact ⟨_, _, rfl, rfl⟩
  | negate place unary => exact ⟨_, _, rfl, rfl⟩

theorem IsChain.starts {signs : Operator → Bool} {Operand : Phrase Expr} {expr : Expr}
    (chain : IsChain signs Operand row expr)
    (first : ∀ row expr, Operand row expr → Starts kind row) : Starts kind row := by
  induction chain with
  | operand operand => exact first _ _ operand
  | operation sign place _ _ _ ih => exact ih.append

theorem IsSeparated.starts {α : Type} {leads : Token → Bool} {Item : Phrase α} {items : List α}
    (separated : IsSeparated leads Item row items)
    (first : ∀ row item, Item row item → Starts kind row) : Starts kind row := by
  cases separated with
  | one item => exact first _ _ item
  | more lead item _ _ => exact (first _ _ item).append

theorem IsEnumeration.starts {Item : Phrase Expr} {expr : Expr}
    (enumeration : IsEnumeration Item row expr)
    (first : ∀ row item, Item row item → Starts kind row) : Starts kind row := by
  cases enumeration with
  | one item => exact first _ _ item
  | list items => exact items.starts first

theorem IsValue.starts {expr : Expr} (value : IsValue Group row expr) :
    Starts Token.startsValue row :=
  IsEnumeration.starts value fun _ _ => IsUnary.starts

theorem IsAdditive.starts {expr : Expr} (additive : IsAdditive Group row expr) :
    Starts Token.startsValue row :=
  IsChain.starts additive fun _ _ term => IsChain.starts term fun _ _ => IsUnary.starts

theorem IsList.starts {expr : Expr} (list : IsList Group row expr) :
    Starts Token.startsValue row :=
  IsEnumeration.starts list fun _ _ => IsAdditive.starts

theorem IsArgument.starts {argument : Argument} (passed : IsArgument Group row argument) :
    Starts Token.startsArgument row := by
  cases passed with
  | bare name place => exact ⟨_, _, rfl, rfl⟩
  | named name place value => exact ⟨_, _, rfl, rfl⟩
  | positional value =>
    obtain ⟨first, others, rfl, known⟩ := value.starts
    refine ⟨first, others, rfl, ?_⟩
    unfold Token.startsArgument
    split
    · rfl
    · exact known

theorem IsSegment.starts {segment : Segment} (stage : IsSegment Group row segment) :
    Starts Token.startsValue row := by
  cases stage with
  | call name place arguments => exact ⟨_, _, rfl, rfl⟩
  | expr list _ => exact list.starts

theorem IsPipeline.starts {segments : List Segment} (pipeline : IsPipeline row segments) :
    Starts Token.startsValue row :=
  IsSeparated.starts (isPipeline_iff.mp pipeline) fun _ _ => IsSegment.starts

theorem IsAction.starts {action : Action} (deed : IsAction row action) :
    Starts Token.startsValue row := by
  cases deed with
  | bare chars place throws => exact ⟨_, _, rfl, rfl⟩
  | raise chars place throws list => exact ⟨_, _, rfl, rfl⟩
  | assign name place next sign pipeline => exact ⟨_, _, rfl, rfl⟩
  | run pipeline other => exact pipeline.starts

theorem IsStatement.starts {statement : Statement} (deed : IsStatement row statement) :
    Starts Token.startsValue row := by
  obtain ⟨action⟩ := deed
  exact action.starts

theorem IsStatements.starts {statements : List Statement} (deeds : IsStatements row statements) :
    Starts Token.startsValue row := by
  cases deeds with
  | one statement => exact statement.starts
  | more statement _ _ _ => exact statement.starts.append

end

end ShellSession.Script

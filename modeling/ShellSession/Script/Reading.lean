/-
**Reading a script.**

```
script     = separator* (statement (separator+ statement)*)? separator*
statement  = "throw" list? | variable assignment pipeline | pipeline
pipeline   = segment ("|" segment)*
segment    = word argument* | list
argument   = parameter value? | value
value      = unary ("," unary)*
list       = additive ("," additive)*
additive   = term (("+" | "-") term)*
term       = unary (("*" | "/") unary)*
unary      = "-" unary | primary
primary    = int | float | text | variable | word | "(" pipeline ")"
```

A segment that begins with a word is a command call. The variables `null`, `true` and `false` are
literals. A text that is no script is refused at the first token that fits nowhere.

* `pipeline`: pipelines with parentheses up to a given depth;
* `script`: the statements of a row of tokens;
* `read`: the statements of a text.
-/

import ShellSession.Script.Lexeme
import ShellSession.Script.Tree

namespace ShellSession.Script

/-- A reader takes tokens from a row and leaves the rest, or refuses the row at some token, which is
the first of the row that it leaves. A reader that repeats another one is given a row as a bound: it
repeats at most as often as the bound has tokens. -/
abbrev Reader (α : Type) := List Placed → Except (List Placed) (α × List Placed)

/-! ### Ends of segments and statements -/

/-- Whether a segment ends before the row. -/
def atSegmentEnd : List Placed → Bool
  | [] => true
  | ⟨.separator, _⟩ :: _ => true
  | ⟨.pipe, _⟩ :: _ => true
  | ⟨.closing, _⟩ :: _ => true
  | _ => false

/-- Whether a statement ends before the row. -/
def atStatementEnd : List Placed → Bool
  | [] => true
  | ⟨.separator, _⟩ :: _ => true
  | _ => false

/-- Whether the row begins with a parameter. -/
def startsParameter : List Placed → Bool
  | ⟨.parameter _, _⟩ :: _ => true
  | _ => false

/-! ### Operands -/

/-- What a variable stands for: three names are literals, in any letter case. -/
def variableExpr (name : String) : Expr :=
  let folded := Text.lower name
  if folded = "null" then .literal .null
  else if folded = "true" then .literal (.bool true)
  else if folded = "false" then .literal (.bool false)
  else .reference name

/-- A pipeline in parentheses, behind the opening one. -/
def grouped (group : Reader (List Segment)) : Reader Expr := fun tokens =>
  match group tokens with
  | .error rest => .error rest
  | .ok (segments, ⟨.closing, _⟩ :: rest) => .ok (.group segments, rest)
  | .ok (_, rest) => .error rest

/-- A literal, a variable, a word or a group. -/
def primary (group : Reader (List Segment)) : Reader Expr
  | ⟨.int number, _⟩ :: rest => .ok (.literal (.int number), rest)
  | ⟨.float number, _⟩ :: rest => .ok (.literal (.float number), rest)
  | ⟨.text chars, _⟩ :: rest => .ok (.literal (.text chars), rest)
  | ⟨.word chars, _⟩ :: rest => .ok (.literal (.text chars), rest)
  | ⟨.reference name, _⟩ :: rest => .ok (variableExpr name, rest)
  | ⟨.opening, _⟩ :: rest => grouped group rest
  | tokens => .error tokens

/-- A primary behind any number of minus signs. -/
def unary (group : Reader (List Segment)) : Reader Expr
  | ⟨.operator .sub, _⟩ :: rest =>
    match unary group rest with
    | .error rest => .error rest
    | .ok (operand, rest) => .ok (.negate operand, rest)
  | tokens => primary group tokens

/-! ### Operators -/

/-- An operator of products at the front of a row. -/
def productOperator : List Placed → Option (Operator × List Placed)
  | ⟨.operator .mul, _⟩ :: rest => some (.mul, rest)
  | ⟨.operator .div, _⟩ :: rest => some (.div, rest)
  | _ => none

/-- An operator of sums at the front of a row. -/
def sumOperator : List Placed → Option (Operator × List Placed)
  | ⟨.operator .add, _⟩ :: rest => some (.add, rest)
  | ⟨.operator .sub, _⟩ :: rest => some (.sub, rest)
  | _ => none

/-- Further operators and operands behind a left operand, grouped to the left. -/
def chainFrom (sign? : List Placed → Option (Operator × List Placed)) (operand : Reader Expr) :
    (bound : List Placed) → Expr → Reader Expr
  | [], left, tokens => .ok (left, tokens)
  | _ :: bound, left, tokens =>
    match sign? tokens with
    | none => .ok (left, tokens)
    | some (sign, rest) =>
      match operand rest with
      | .error rest => .error rest
      | .ok (right, rest) => chainFrom sign? operand bound (.binary left sign right) rest

/-- Operands with operators between them, grouped to the left. -/
def chain (sign? : List Placed → Option (Operator × List Placed)) (operand : Reader Expr) :
    Reader Expr := fun tokens =>
  match operand tokens with
  | .error rest => .error rest
  | .ok (left, rest) => chainFrom sign? operand rest left rest

/-- A product. -/
def term (group : Reader (List Segment)) : Reader Expr :=
  chain productOperator (unary group)

/-- A sum. -/
def additive (group : Reader (List Segment)) : Reader Expr :=
  chain sumOperator (term group)

/-! ### Lists -/

/-- Items, each behind a token that `leads` to it. -/
def followers {α : Type} (leads : Token → Bool) (item : Reader α) :
    (bound : List Placed) → Reader (List α)
  | _ :: bound, lead :: rest =>
    if leads lead.token then
      match item rest with
      | .error rest => .error rest
      | .ok (first, rest) =>
        match followers leads item bound rest with
        | .error rest => .error rest
        | .ok (items, rest) => .ok (first :: items, rest)
    else .ok ([], lead :: rest)
  | _, tokens => .ok ([], tokens)

/-- Whether a token is a comma. -/
def isComma : Token → Bool
  | .comma => true
  | _ => false

/-- Whether a token is a pipe. -/
def isPipe : Token → Bool
  | .pipe => true
  | _ => false

/-- One item, or several with commas between them as a list. -/
def enumeration (item : Reader Expr) : Reader Expr := fun tokens =>
  match item tokens with
  | .error rest => .error rest
  | .ok (first, rest) =>
    match followers isComma item rest rest with
    | .error rest => .error rest
    | .ok ([], rest) => .ok (first, rest)
    | .ok (items, rest) => .ok (.list (first :: items), rest)

/-- The value of an argument. -/
def value (group : Reader (List Segment)) : Reader Expr :=
  enumeration (unary group)

/-- An expression that stands by itself. -/
def list (group : Reader (List Segment)) : Reader Expr :=
  enumeration (additive group)

/-! ### Command calls and pipelines -/

/-- An argument. A parameter takes the value behind it, if one stands there. -/
def argument (group : Reader (List Segment)) : Reader Argument
  | ⟨.parameter name, _⟩ :: rest =>
    if atSegmentEnd rest || startsParameter rest then .ok (.named name none, rest)
    else
      match value group rest with
      | .error rest => .error rest
      | .ok (expr, rest) => .ok (.named name (some expr), rest)
  | tokens =>
    match value group tokens with
    | .error rest => .error rest
    | .ok (expr, rest) => .ok (.positional expr, rest)

/-- The arguments up to the end of the segment. -/
def arguments (group : Reader (List Segment)) : (bound : List Placed) → Reader (List Argument)
  | [], tokens => .ok ([], tokens)
  | _ :: bound, tokens =>
    if atSegmentEnd tokens then .ok ([], tokens)
    else
      match argument group tokens with
      | .error rest => .error rest
      | .ok (first, rest) =>
        match arguments group bound rest with
        | .error rest => .error rest
        | .ok (others, rest) => .ok (first :: others, rest)

/-- A command call when a word stands first, else an expression. -/
def segment (group : Reader (List Segment)) : Reader Segment
  | ⟨.word name, _⟩ :: rest =>
    match arguments group rest rest with
    | .error rest => .error rest
    | .ok (arguments, rest) => .ok (.call name arguments, rest)
  | tokens =>
    match list group tokens with
    | .error rest => .error rest
    | .ok (expr, rest) => .ok (.expr expr, rest)

/-- Segments with pipes between them. -/
def segments (group : Reader (List Segment)) : Reader (List Segment) := fun tokens =>
  match segment group tokens with
  | .error rest => .error rest
  | .ok (first, rest) =>
    match followers isPipe (segment group) rest rest with
    | .error rest => .error rest
    | .ok (others, rest) => .ok (first :: others, rest)

/-- A pipeline whose parentheses are nested less than `depth` deep. -/
def pipeline : Nat → Reader (List Segment)
  | 0, tokens => .error tokens
  | depth + 1, tokens => segments (pipeline depth) tokens

/-! ### Statements -/

/-- What a statement does. -/
def action (depth : Nat) : Reader Action
  | ⟨.reference name, _⟩ :: ⟨.assign sign, _⟩ :: rest =>
    match pipeline depth rest with
    | .error rest => .error rest
    | .ok (segments, rest) => .ok (.assign name sign segments, rest)
  | ⟨.word chars, place⟩ :: rest =>
    if Text.sameName chars "throw" then
      if atStatementEnd rest then .ok (.raise none, rest)
      else
        match list (pipeline depth) rest with
        | .error rest => .error rest
        | .ok (expr, rest) => .ok (.raise (some expr), rest)
    else
      match pipeline depth (⟨.word chars, place⟩ :: rest) with
      | .error rest => .error rest
      | .ok (segments, rest) => .ok (.run segments, rest)
  | tokens =>
    match pipeline depth tokens with
    | .error rest => .error rest
    | .ok (segments, rest) => .ok (.run segments, rest)

/-- The row without the separators at its front. -/
def dropSeparators : List Placed → List Placed
  | ⟨.separator, _⟩ :: rest => dropSeparators rest
  | tokens => tokens

/-- The statements of a row that begins with no separator. -/
def statements (depth : Nat) :
    (bound : List Placed) → List Placed → Except (List Placed) (List Statement)
  | _, [] => .ok []
  | [], tokens => .error tokens
  | _ :: bound, first :: rest =>
    match action depth (first :: rest) with
    | .error rest => .error rest
    | .ok (action, rest) =>
      if atStatementEnd rest then
        match statements depth bound (dropSeparators rest) with
        | .error rest => .error rest
        | .ok others => .ok (⟨first.place, action⟩ :: others)
      else .error rest

/-- The statements of a row of tokens. -/
def script (tokens : List Placed) : Except (List Placed) (List Statement) :=
  statements (tokens.length + 1) tokens (dropSeparators tokens)

/-- The error of a row of tokens that is refused at `rest`. -/
def refusal (finish : Place) : List Placed → SyntaxError
  | [] => ⟨.unexpected none, finish⟩
  | first :: _ => ⟨.unexpected (some first.token), first.place⟩

/-- The statements of a text. -/
def read (text : String) : Except SyntaxError (List Statement) :=
  match scan text with
  | .error e => .error e
  | .ok ⟨tokens, finish⟩ =>
    match script tokens with
    | .error rest => .error (refusal finish rest)
    | .ok statements => .ok statements

end ShellSession.Script

/-
**The tree of a script.**

A script is a row of statements; a statement assigns, raises an error or runs a pipeline; a pipeline
is a row of segments, each an expression or a command call with arguments.
-/

import ShellSession.Script.Token
import ShellSession.Value

namespace ShellSession.Script

mutual

/-- An expression. A group is a pipeline in parentheses. -/
inductive Expr where
  | literal (value : Value)
  | reference (name : String)
  | binary (left : Expr) (operator : Operator) (right : Expr)
  | negate (operand : Expr)
  | list (items : List Expr)
  | group (segments : List Segment)

/-- A segment of a pipeline. -/
inductive Segment where
  | expr (expr : Expr)
  | call (name : String) (arguments : List Argument)

/-- An argument of a command call. A named one may stand without a value. -/
inductive Argument where
  | named (name : String) (value : Option Expr)
  | positional (value : Expr)

end

/-- What a statement does. -/
inductive Action where
  | assign (name : String) (operator : Option Operator) (segments : List Segment)
  | raise (value : Option Expr)
  | run (segments : List Segment)

/-- A statement and the place of its first character. -/
structure Statement where
  place : Place
  action : Action

end ShellSession.Script

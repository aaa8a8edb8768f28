/-
**Why a request fails.**

A failure inside a script has a cause, worded by `Fault.message`, and the position of the statement
that failed. Other failures concern the request as a whole.

* `Fault.message`: the wording of a cause;
* `EngineFailure.message`, `EngineFailure.display`: the wording of a failure without and with its
  position.
-/

import ShellSession.Script.Fault
import ShellSession.Value

namespace ShellSession

/-- A place in a script file, or in a text without a file. -/
structure Position where
  file : Option String
  place : Script.Place
deriving Repr, DecidableEq

/-- A position as error messages name it. -/
def Position.display (position : Position) : String :=
  let line := Decimal.natText position.place.line
  let column := Decimal.natText position.place.column
  match position.file with
  | some file => file ++ ":" ++ line ++ ":" ++ column
  | none => "line " ++ line ++ ", column " ++ column

/-- A cause for which a script fails. `thrown` is an error raised with a wording of its own. -/
inductive Fault where
  | thrown (message : String)
  | divisionByZero
  | notNumeric (chars : String)
  | listOperand (operator : Script.Operator)
  | listRightOperand (operator : Script.Operator)
  | repetitionTooLong
  | repetitionCount
  | notNegatable (kind : String)
  | expressionBehindPipe
  | missingParameter (command name : String)
  | unbindable (command name shown : String)
  | undefinedVariable (name : String)
  | lineOutOfRange (line : Int64)
  | unknownBreakpoint (id : Int64)
  | unknownCommand (name : String)
  | unreadableScript (name reason : String)
  | noVersion
deriving Repr, DecidableEq

/-- The wording of a cause. -/
def Fault.message : Fault → String
  | thrown message => message
  | divisionByZero => "Attempted to divide by zero."
  | notNumeric chars => "Cannot convert value \"" ++ chars ++ "\" to a number."
  | listOperand operator => "Operator '" ++ operator.symbol ++ "' cannot be applied to a list."
  | listRightOperand operator =>
    "Operator '" ++ operator.symbol ++ "' cannot be applied to a list on the right-hand side."
  | repetitionTooLong => "The string produced by the repetition is too long."
  | repetitionCount => "A string can only be repeated a non-negative whole number of times."
  | notNegatable kind => "Cannot negate a value of type " ++ kind ++ "."
  | expressionBehindPipe => "Expressions are only allowed as the first element of a pipeline."
  | missingParameter command name =>
    command ++ ": missing required parameter '" ++ name ++ "'."
  | unbindable command name shown =>
    command ++ ": cannot bind '" ++ shown ++ "' to parameter '" ++ name ++ "'."
  | undefinedVariable name => "Cannot find a variable with the name '" ++ name ++ "'."
  | lineOutOfRange line =>
    "Set-PSBreakpoint: line " ++ Decimal.intText line.toInt ++ " is out of range."
  | unknownBreakpoint id =>
    "Remove-PSBreakpoint: no breakpoint with id " ++ Decimal.intText id.toInt ++ "."
  | unknownCommand name =>
    "The term '" ++ name ++ "' is not recognized as the name of a cmdlet, function, " ++
      "script file, or operable program."
  | unreadableScript name reason => "Cannot read script '" ++ name ++ "': " ++ reason
  | noVersion =>
    "The variable '$PSVersionTable' cannot be retrieved because it has not been set."

/-- A failure of a request to the engine or its debugger. -/
inductive EngineFailure where
  | busy
  | parse (fault : Script.SyntaxFault) (position : Position)
  | runtime (fault : Fault) (position : Option Position)
  | stopped
  | notStopped
  | unsupported (operation : String)

namespace EngineFailure

/-- Whether another request holds the engine. -/
def isBusy : EngineFailure → Bool
  | busy => true
  | _ => false

/-- Where the failing statement is, when that is known. -/
def position? : EngineFailure → Option Position
  | parse _ position => some position
  | runtime _ position => position
  | _ => none

/-- The wording of a failure without its position. -/
def message : EngineFailure → String
  | busy => "engine is busy running another operation"
  | parse fault _ => fault.message
  | runtime fault _ => fault.message
  | stopped => "execution was stopped by the debugger"
  | notStopped => "debugger is not stopped"
  | unsupported operation => "unsupported operation: " ++ operation

/-- The wording of a failure; the position belongs to it when a text is no script. -/
def display : EngineFailure → String
  | parse fault position => "parse error at " ++ position.display ++ ": " ++ fault.message
  | error => error.message

/-- The failure with a position, unless it has one or needs none. -/
def locate (position : Position) : EngineFailure → EngineFailure
  | runtime fault none => runtime fault (some position)
  | error => error

end EngineFailure

end ShellSession

/-
**Built-in commands.**

A command takes named and positional arguments and the output of the stage before. A parameter is
sought by name, in any letter case, and then by its position.

* `Builtin.ofName?`: the built-in command of a name;
* `Builtin.run`: what a built-in command does.
-/

import ShellSession.Engine.Run
import ShellSession.Engine.Arithmetic
import ShellSession.Pipeline

namespace ShellSession.Engine

/-! ### Arguments -/

/-- The arguments of a command call. A named argument may stand without a value. -/
structure Arguments where
  named : List (String × Option Value)
  positional : List Value

namespace Arguments

/-- No arguments. -/
def none : Arguments :=
  ⟨[], []⟩

/-- One more argument in front. -/
def cons (parameter : Parameter) (arguments : Arguments) : Arguments :=
  match parameter with
  | .named name value => { arguments with named := (name, some value) :: arguments.named }
  | .switch name => { arguments with named := (name, Option.none) :: arguments.named }
  | .positional value => { arguments with positional := value :: arguments.positional }

/-- The arguments that a host's parameters stand for. -/
def ofParameters : List Parameter → Arguments
  | [] => none
  | parameter :: rest => cons parameter (ofParameters rest)

/-- The value of the first argument with a name. -/
def named? (arguments : Arguments) (name : String) : Option Value :=
  (arguments.named.find? fun entry => Text.sameName entry.1 name).bind fun entry => entry.2

/-- The value of the named argument, or else the positional one. -/
def get? (arguments : Arguments) (name : String) (position : Nat) : Option Value :=
  (arguments.named? name).or arguments.positional[position]?

/-- The value of an argument that a command cannot do without. -/
def require (arguments : Arguments) (command name : String) (position : Nat) :
    Except Fault Value :=
  match arguments.get? name position with
  | some value => .ok value
  | Option.none => .error (.missingParameter command name)

end Arguments

/-- The refusal of a value as an argument. -/
def unbindable (command name : String) (value : Value) : Fault :=
  .unbindable command name value.display

/-- A value as a whole number. -/
def integer (command name : String) (value : Value) : Except Fault Int64 :=
  match value with
  | .int number => .ok number
  | .float number =>
    if Decimal.isWhole number then .ok (Decimal.saturateInt64 number)
    else .error (unbindable command name value)
  | .text chars =>
    match Decimal.readInt64 (Text.trimChars chars.toList) with
    | some number => .ok number
    | none => .error (unbindable command name value)
  | _ => .error (unbindable command name value)

/-! ### The commands -/

/-- The built-in commands. -/
inductive Builtin where
  | sleep
  | waitDebugger
  | writeOutput
  | getVariable
  | setVariable
  | setBreakpoint
  | removeBreakpoint
  | listBreakpoints
  | joinText
deriving Repr, DecidableEq

namespace Builtin

/-- The names of the built-in commands, in small letters. -/
def names : List (String × Builtin) :=
  [("start-sleep", sleep), ("wait-debugger", waitDebugger), ("write-output", writeOutput),
    ("get-variable", getVariable), ("set-variable", setVariable),
    ("set-psbreakpoint", setBreakpoint), ("remove-psbreakpoint", removeBreakpoint),
    ("get-psbreakpoint", listBreakpoints), ("out-string", joinText)]

/-- The built-in command of a name, in any letter case. -/
def ofName? (name : String) : Option Builtin :=
  names.lookup (Text.lower name)

/-! ### What each command does -/

/-- Whether a number of seconds can be waited for: neither negative nor `2 ^ 64` or more. -/
def waitable (seconds : Float) : Bool :=
  0.0 <= seconds && seconds < 18446744073709551616.0

/-- The number of seconds that a value stands for. -/
def seconds (value : Value) : Except Fault Float :=
  match value with
  | .int number => .ok (Decimal.ofInt number.toInt)
  | .float number => .ok number
  | value => (integer "Start-Sleep" "Seconds" value).map fun number => Decimal.ofInt number.toInt

/-- Waiting, of which only the check of the argument is visible. -/
def runSleep (arguments : Arguments) : Except Fault (List Value) := do
  match arguments.named? "Milliseconds" with
  | some value =>
    let number ← integer "Start-Sleep" "Milliseconds" value
    if number < 0 then .error (unbindable "Start-Sleep" "Milliseconds" (.int number))
    else .ok []
  | none =>
    let value ← arguments.require "Start-Sleep" "Seconds" 0
    let number ← seconds value
    if waitable number then .ok [] else .error (unbindable "Start-Sleep" "Seconds" value)

/-- The input with the arguments behind it. -/
def runWriteOutput (arguments : Arguments) (input : List Value) : List Value :=
  let object := match arguments.named? "InputObject" with
    | some value => value.items
    | none => []
  input ++ object ++ (arguments.positional.map Value.items).flatten

/-- The value of a variable as an output. -/
def runGetVariable (scope : Variables) (arguments : Arguments) : Except Fault (List Value) := do
  let name := (← arguments.require "Get-Variable" "Name" 0).display
  match scope.get? name with
  | some value => .ok value.items
  | none => .error (.undefinedVariable name)

/-- The name and the value of a variable to be set. -/
def runSetVariable (arguments : Arguments) : Except Fault (String × Value) := do
  let name := (← arguments.require "Set-Variable" "Name" 0).display
  .ok (name, (arguments.get? "Value" 1).getD .null)

/-- The line of a breakpoint to be created: a positive number below `2 ^ 32`. -/
def breakpointLine (arguments : Arguments) : Except Fault Nat := do
  let value ← arguments.require "Set-PSBreakpoint" "Line" 0
  let line ← integer "Set-PSBreakpoint" "Line" value
  if 0 < line.toInt ∧ line.toInt < Decimal.twoTo 32 then .ok line.toInt.toNat
  else .error (.lineOutOfRange line)

/-- The breakpoint to be removed, and the table without it. -/
def breakpointToRemove (breakpoints : Breakpoints) (arguments : Arguments) :
    Except Fault (Breakpoint × Breakpoints) := do
  let value ← arguments.require "Remove-PSBreakpoint" "Id" 0
  let id ← integer "Remove-PSBreakpoint" "Id" value
  if id.toInt < 0 then .error (.unknownBreakpoint id)
  else
    match breakpoints.remove id.toInt.toNat with
    | some removed => .ok removed
    | none => .error (.unknownBreakpoint id)

/-- The value of a breakpoint's number. -/
def idValue (breakpoint : Breakpoint) : Value :=
  .int (Int64.ofNat breakpoint.id)

/-- A breakpoint created and reported. -/
def runSetBreakpoint (arguments : Arguments) : Eval (List Value) := fun s =>
  match breakpointLine arguments with
  | .error fault => Eval.fail fault s
  | .ok line =>
    let (breakpoint, breakpoints) := s.breakpoints.add line
    .done (.ok [idValue breakpoint])
      ({ s with breakpoints := breakpoints }.emit (.breakpoint ⟨.added, breakpoint⟩))

/-- A breakpoint removed and reported. -/
def runRemoveBreakpoint (arguments : Arguments) : Eval (List Value) := fun s =>
  match breakpointToRemove s.breakpoints arguments with
  | .error fault => Eval.fail fault s
  | .ok (breakpoint, breakpoints) =>
    .done (.ok [])
      ({ s with breakpoints := breakpoints }.emit (.breakpoint ⟨.removed, breakpoint⟩))

/-- A stop that the script asks for; nested commands are not stopped. -/
def runWaitDebugger : Eval (List Value) := fun s =>
  if 0 < s.nested then .done (.ok []) s
  else Eval.bind (stopFor .waitDebugger) (fun _ => Eval.pure []) s

/-- What a built-in command does. -/
def run (builtin : Builtin) (arguments : Arguments) (input : List Value) : Eval (List Value) :=
  match builtin with
  | sleep => Eval.ofExcept (runSleep arguments)
  | waitDebugger => runWaitDebugger
  | writeOutput => Eval.pure (runWriteOutput arguments input)
  | getVariable => fun s => Eval.ofExcept (runGetVariable s.scope arguments) s
  | setVariable => fun s =>
    match runSetVariable arguments with
    | .error fault => Eval.fail fault s
    | .ok (name, value) => .done (.ok []) (s.setVariable name value)
  | setBreakpoint => runSetBreakpoint arguments
  | removeBreakpoint => runRemoveBreakpoint arguments
  | listBreakpoints => fun s => .done (.ok (s.breakpoints.table.map idValue)) s
  | joinText => Eval.pure [.text (Value.displayLines input)]

end Builtin

end ShellSession.Engine

/-
**The state of the interpreter.**

Variables and breakpoints last from one request to the next; the frame says which text is running
and at which line. The letter case of a variable's name does not matter. Breakpoints are numbered
from one in the order of their creation, and a number is never used again.

* `Variables.get?`, `Variables.set`: reading and writing a variable;
* `Breakpoints.add`, `Breakpoints.remove`: the changes of the breakpoint table;
* `Interpreter.pending?`: the reason to stop before the statement at the current line.
-/

import ShellSession.Engine.Notice
import ShellSession.Text.Letter
import ShellSession.Value

namespace ShellSession.Engine

/-- Variables with their values; names are kept in small letters. -/
structure Variables where
  entries : List (String × Value)

namespace Variables

/-- The value of a variable. -/
def get? (scope : Variables) (name : String) : Option Value :=
  scope.entries.lookup (Text.lower name)

/-- The entries with one of them replaced, or added at the end. -/
def replace (name : String) (value : Value) : List (String × Value) → List (String × Value)
  | [] => [(name, value)]
  | entry :: rest =>
    if entry.1 = name then (name, value) :: rest else entry :: replace name value rest

/-- The variables with one of them set. -/
def set (scope : Variables) (name : String) (value : Value) : Variables :=
  ⟨replace (Text.lower name) value scope.entries⟩

end Variables

/-- Breakpoints by ascending number, and how many were ever created. -/
structure Breakpoints where
  table : List Breakpoint
  created : Nat

namespace Breakpoints

/-- The number that the next breakpoint gets. -/
def nextId (breakpoints : Breakpoints) : Nat :=
  breakpoints.created + 1

/-- One more breakpoint. -/
def add (breakpoints : Breakpoints) (line : Nat) : Breakpoint × Breakpoints :=
  let breakpoint : Breakpoint := ⟨breakpoints.nextId, line, true⟩
  (breakpoint, ⟨breakpoints.table ++ [breakpoint], breakpoints.nextId⟩)

/-- The breakpoint with a number. -/
def find? (breakpoints : Breakpoints) (id : Nat) : Option Breakpoint :=
  breakpoints.table.find? fun breakpoint => breakpoint.id = id

/-- The breakpoint with a number, and the table without it. -/
def remove (breakpoints : Breakpoints) (id : Nat) : Option (Breakpoint × Breakpoints) :=
  (breakpoints.find? id).map fun breakpoint =>
    (breakpoint,
      ⟨breakpoints.table.filter fun other => other.id ≠ id, breakpoints.created⟩)

/-- The first enabled breakpoint on a line. -/
def on? (breakpoints : Breakpoints) (line : Nat) : Option Breakpoint :=
  breakpoints.table.find? fun breakpoint => breakpoint.enabled && breakpoint.line = line

end Breakpoints

/-- The text that is running and the line it has reached. -/
structure Frame where
  file : Option String
  line : Nat
deriving Repr, DecidableEq

/-- The frame in which a request of a host begins. -/
def Frame.start : Frame :=
  ⟨none, 1⟩

/-- The state of the interpreter. `nested` counts the commands being evaluated inside stops, and
`history` holds all reports so far. -/
structure Interpreter where
  scope : Variables
  breakpoints : Breakpoints
  frame : Frame
  nested : Nat
  stepping : Bool
  availability : Availability
  history : Array Notice

namespace Interpreter

/-- A fresh interpreter. -/
def fresh : Interpreter where
  scope := ⟨[]⟩
  breakpoints := ⟨[], 0⟩
  frame := .start
  nested := 0
  stepping := false
  availability := .available
  history := #[]

/-- One more report. -/
def emit (s : Interpreter) (notice : Notice) : Interpreter :=
  { s with history := s.history.push notice }

/-- A change of availability, reported when it is one. -/
def setAvailability (s : Interpreter) (next : Availability) : Interpreter :=
  if s.availability = next then s
  else { s with availability := next }.emit (.availability next)

/-- A variable set. -/
def setVariable (s : Interpreter) (name : String) (value : Value) : Interpreter :=
  { s with scope := s.scope.set name value }

/-- The reason to stop before the statement at the current line: step mode first, else the first
enabled breakpoint on the line. -/
def pending? (s : Interpreter) : Option StopCause :=
  if s.stepping then some .step
  else (s.breakpoints.on? s.frame.line).map fun breakpoint => .breakpoint breakpoint.id

end Interpreter

end ShellSession.Engine

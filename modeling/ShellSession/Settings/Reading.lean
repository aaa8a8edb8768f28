/-
**Settings read from a text.**

The settings are the pairs of a TOML document; every one may be left out, and none may be unknown.
The retry settings are a table, or an array with the interval first and the bound second.

* `Settings.ofEntries`: the settings of a table;
* `Settings.read`, `Settings.load`: the settings of a text and of a file, checked.
-/

import ShellSession.Settings
import ShellSession.Toml.Document

namespace ShellSession

open Toml (Datum Entries)

/-- A whole number from zero up to a bound. -/
def natBelow (bound : Nat) : Datum → Option Nat
  | .integer (some number) => if 0 ≤ number ∧ number < bound then some number.toNat else none
  | _ => none

/-- The text of a datum. -/
def textOf : Datum → Option String
  | .text chars => some chars
  | _ => none

namespace Retries

/-- A retry setting taken over. -/
def put (key : String) (datum : Datum) (retries : Retries) : Option Retries :=
  if key = "interval-ms" then
    (natBelow (Decimal.twoTo 64) datum).map fun interval => { retries with interval := interval }
  else if key = "max-attempts" then
    (natBelow (Decimal.twoTo 32) datum).map fun bound => { retries with maxAttempts := some bound }
  else none

/-- The retry settings of a table. -/
def ofEntries : Entries → Retries → Option Retries
  | [], retries => some retries
  | (key, datum) :: rest, retries => (retries.put key datum).bind (ofEntries rest)

/-- The retry settings of an array; what stands behind the second item is not looked at. -/
def ofItems (items : List Datum) : Option Retries :=
  ofEntries (["interval-ms", "max-attempts"].zip items) standard

/-- The retry settings of a datum. -/
def ofDatum : Datum → Option Retries
  | .table _ entries => ofEntries entries standard
  | .array items => ofItems items
  | _ => none

end Retries

namespace Settings

/-- A setting taken over. -/
def put (key : String) (datum : Datum) (settings : Settings) : Option Settings :=
  if key = "event-buffer" then
    (natBelow (Decimal.twoTo 64) datum).map fun size => { settings with eventBuffer := size }
  else if key = "dispose-timeout-ms" then
    (natBelow (Decimal.twoTo 64) datum).map fun time => { settings with disposeTimeout := time }
  else if key = "fallback-version" then
    (textOf datum).map fun text => { settings with fallbackVersion := text }
  else if key = "fallback-edition" then
    (textOf datum).map fun text => { settings with fallbackEdition := text }
  else if key = "busy-retry" then
    (Retries.ofDatum datum).map fun retry => { settings with retry := retry }
  else none

/-- The settings of a table. -/
def ofEntries : Entries → Settings → Option Settings
  | [], settings => some settings
  | (key, datum) :: rest, settings => (settings.put key datum).bind (ofEntries rest)

/-- The settings of a text, checked. -/
def read (text : String) : Except SettingsError Settings :=
  match (Toml.read text).bind fun entries => ofEntries entries standard with
  | none => .error .malformed
  | some settings =>
    match settings.check with
    | .ok _ => .ok settings
    | .error fault => .error (.invalid fault)

/-- The settings of a file, checked. -/
def load (files : Files) (path : String) : Except SettingsError Settings :=
  match files.readText path with
  | .error fault => .error (.unreadable path fault)
  | .ok text => read text

end Settings

end ShellSession

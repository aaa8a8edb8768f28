/-
**Session settings.**

* `Settings.check`: the first setting that is out of range;
* `Retries.givesUpAfter`: whether a number of busy attempts is too many;
* `Settings.feedCapacity`: how far a subscriber of the session may fall behind.
-/

import ShellSession.Files
import ShellSession.Version

namespace ShellSession

/-- How often a busy engine is tried again; without a bound, forever. The interval is counted in
milliseconds. -/
structure Retries where
  interval : Nat
  maxAttempts : Option Nat
deriving Repr, DecidableEq

namespace Retries

/-- A quarter of a second between attempts, forever. -/
def standard : Retries :=
  ⟨250, none⟩

/-- Whether a number of busy attempts is too many. -/
def givesUpAfter (retries : Retries) (attempts : Nat) : Bool :=
  retries.maxAttempts.any fun bound => bound ≤ attempts

end Retries

/-- The settings of a session. -/
structure Settings where
  eventBuffer : Nat
  disposeTimeout : Nat
  fallbackVersion : String
  fallbackEdition : String
  retry : Retries
deriving Repr, DecidableEq

/-- Why settings are out of range. -/
inductive SettingsFault where
  | noEventBuffer
  | noInterval
  | noAttempts
  | badVersion (text : String)
deriving Repr, DecidableEq

/-- The wording of a fault of the settings. -/
def SettingsFault.message : SettingsFault → String
  | noEventBuffer => "event-buffer must be greater than zero"
  | noInterval => "busy-retry.interval-ms must be greater than zero"
  | noAttempts => "busy-retry.max-attempts must be greater than zero"
  | badVersion text => "fallback-version: " ++ Version.refusal text

/-- Why settings cannot be had. -/
inductive SettingsError where
  | unreadable (path : String) (fault : ReadFault)
  | malformed
  | invalid (fault : SettingsFault)
deriving Repr, DecidableEq

/-- The wording of an error of the settings. -/
def SettingsError.message : SettingsError → String
  | unreadable path fault => "I/O error reading " ++ path ++ ": " ++ fault.message
  | malformed => "malformed settings"
  | invalid fault => "invalid session config: " ++ fault.message

namespace Settings

/-- The settings that hold where nothing else is said. -/
def standard : Settings where
  eventBuffer := 64
  disposeTimeout := 2000
  fallbackVersion := "5.0"
  fallbackEdition := "Desktop"
  retry := .standard

/-- The release assumed of an engine that reports none. -/
def fallback? (settings : Settings) : Option Release :=
  (Version.read settings.fallbackVersion).map fun version => ⟨version, settings.fallbackEdition⟩

/-- The settings with their fallback release, or the first setting that is out of range. -/
def check (settings : Settings) : Except SettingsFault Release :=
  if settings.eventBuffer = 0 then .error .noEventBuffer
  else if settings.retry.interval = 0 then .error .noInterval
  else if settings.retry.maxAttempts = some 0 then .error .noAttempts
  else
    match settings.fallback? with
    | none => .error (.badVersion settings.fallbackVersion)
    | some release => .ok release

/-- The least power of two that is at least `n`. -/
def powerAtLeast (n : Nat) : Nat :=
  if n ≤ 1 then 1 else Decimal.twoTo ((n - 1).log2 + 1)

/-- How many entries a subscriber of the session may fall behind. -/
def feedCapacity (settings : Settings) : Nat :=
  powerAtLeast settings.eventBuffer

end Settings

end ShellSession

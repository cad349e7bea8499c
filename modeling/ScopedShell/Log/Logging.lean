import ScopedShell.Log.Format
import ScopedShell.Settings.Basic
import ScopedShell.Text.Uppercase
import ScopedShell.Traced

/-!
# Logging

The state of logging: the levels of the root logger and of the family, the format of the family's
handler once there is one, and what has been let through and written so far. The first configuration
installs the handler, and its format stays; every configuration sets the level of the family. Where
that level is zero the root logger decides for the family, as it does for every logger outside of
it; those have no handler.
-/

namespace ScopedShell

structure Logging where
  /-- The level of the root logger, which no configuration changes. -/
  rootThreshold : Nat := Log.Level.debug.number
  /-- The level of the family, zero as long as it has none of its own. -/
  threshold : Nat := 0
  format : Option Text := none
  journal : List Log.Record := []
  written : Text := []

namespace Logging

/-- The least number of a level that a logger lets through. -/
def thresholdOf (state : Logging) (logger : Text) : Nat :=
  if Log.inFamily logger = true ∧ state.threshold ≠ 0 then state.threshold else state.rootThreshold

def passes (state : Logging) (r : Log.Record) : Bool :=
  state.thresholdOf r.logger ≤ r.level.number

/-- What the handler of the family writes for a record that is let through. -/
def handled (state : Logging) (r : Log.Record) : Text :=
  match state.format with
  | some format => if Log.inFamily r.logger then r.line format else []
  | none => []

def observe (state : Logging) (r : Log.Record) : Logging :=
  if state.passes r then
    { state with
      journal := state.journal ++ [r]
      written := state.written ++ state.handled r }
  else state

def observeAll (state : Logging) (events : List Event) : Logging :=
  (events.filterMap Event.record?).foldl observe state

/-- The number of a named level; the last one leaves the decision to the root logger. -/
def levelNumber? (name : Text) : Option Nat :=
  List.lookup name [("CRITICAL", 50), ("FATAL", 50), ("ERROR", 40), ("WARN", 30), ("WARNING", 30),
    ("INFO", 20), ("DEBUG", 10), ("NOTSET", 0)]

def install (state : Logging) (format : Text) : Except Fault Logging :=
  match state.format with
  | some _ => .ok state
  | none =>
    match Log.format? format with
    | some format => .ok { state with format := some format }
    | none => .error (.invalidFormat format)

/-- Configures logging: the handler comes first, so it stays even if the level is unknown. -/
def configure (state : Logging) (settings : Settings) : Except Fault Unit × Logging :=
  match state.install settings.logFormat with
  | .error fault => (.error fault, state)
  | .ok state =>
    let name := Text.upper settings.logLevel
    match levelNumber? name with
    | some number => (.ok (), { state with threshold := number })
    | none => (.error (.unknownLevel name), state)

def handlerCount (state : Logging) : Nat :=
  if state.format.isSome then 1 else 0

end Logging

end ScopedShell

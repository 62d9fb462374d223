import GloDroid.Power.GloDroidPower

/-!
# The Power HAL

`Power.cpp`: `setMode` keeps the set of the enabled modes and passes on whether `LAUNCH` is among
them, and `setBoost` asks for a timed boost. The calls come one at a time: `main` starts no binder
thread besides its own.

A run consists of these calls and of the worker's steps, with the writes to the files of accepted
devices succeeding. It keeps the calls with their times and what the worker called `BoostAll` with.
-/

namespace GloDroid.Power

open GloDroid.Base

/-! ## Calls -/

/-- `Mode`; no mode but `LAUNCH` has an effect. -/
inductive Mode where
  | launch
  | other (value : Int32)
  deriving DecidableEq, Repr

/-- `Boost`; the other ones are ignored. -/
inductive Boost where
  | interaction
  | displayUpdateImminent
  | other (value : Int32)
  deriving DecidableEq, Repr

/-- `Power`. -/
structure PowerHal where
  gdPower : GloDroidPower
  /-- `mode_enabled_`. -/
  modeEnabled : List Mode := []

namespace PowerHal

/-- `setMode`. -/
def setMode (p : PowerHal) (now : Int) (type : Mode) (enabled : Bool) : PowerHal :=
  let modeEnabled :=
    if enabled then p.modeEnabled.insert type else p.modeEnabled.filter (· ≠ type)
  { modeEnabled, gdPower := p.gdPower.setBoostEn now (modeEnabled.contains .launch) }

/-- `setBoost`. -/
def setBoost (p : PowerHal) (now : Int) (type : Boost) (durationMs : Int32) : PowerHal :=
  if type = .displayUpdateImminent ∨ type = .interaction then
    { p with gdPower := p.gdPower.boostFor now durationMs.toInt }
  else p

end PowerHal

/-- A call. -/
inductive PowerCall where
  | setMode (type : Mode) (enabled : Bool)
  | setBoost (type : Boost) (durationMs : Int32)
  deriving DecidableEq, Repr

/-- The effect of a call at a time. -/
def PowerCall.apply (p : PowerHal) (now : Int) : PowerCall → PowerHal
  | .setMode type enabled => p.setMode now type enabled
  | .setBoost type durationMs => p.setBoost now type durationMs

/-! ## Runs -/

/-- The HAL, with the calls so far and what `BoostAll` was called with, the last first. -/
structure PowerRun where
  power : PowerHal
  calls : List (Int × PowerCall) := []
  boosts : List Bool := []

/-- A call, or a step of the worker. -/
inductive RunStep where
  | call (call : PowerCall)
  | lockAndWait
  | wake
  deriving DecidableEq, Repr

namespace PowerRun

/-- The object behind the HAL. -/
abbrev gdPower (r : PowerRun) : GloDroidPower := r.power.gdPower

/-- The same run with another state of the worker. -/
def withGdPower (r : PowerRun) (gdPower : GloDroidPower) : PowerRun :=
  { r with power := { r.power with gdPower } }

/-- A step at a time that is not in the past. -/
def next (r : PowerRun) (step : Int × RunStep) : Option PowerRun :=
  if r.gdPower.clock ≤ step.1 then
    match step.2 with
    | .call call =>
      some { r with power := call.apply r.power step.1, calls := (step.1, call) :: r.calls }
    | .lockAndWait => (r.gdPower.lockAndWait step.1).map r.withGdPower
    | .wake =>
      (r.gdPower.wake step.1 fun _ => true).map fun (call, gdPower) =>
        { r.withGdPower gdPower with boosts := call.toList ++ r.boosts }
  else none

end PowerRun

/-- A `min_freq` file that `SearchSysfs` finds: the contents of it and of its `max_freq` file, where
they can be read, and whether it can be written. -/
structure FoundFile where
  path : String
  minFreq : Option Int
  maxFreq : Option Int
  written : Bool
  deriving DecidableEq, Repr

/-- The constructor's device for the file. -/
def FoundFile.device (f : FoundFile) : DevFreq :=
  .ofFiles (.ofFile (f.path ++ "min_freq") f.minFreq) (.ofFile (f.path ++ "max_freq") f.maxFreq)
    f.written

/-- The HAL under any calls. -/
def runMachine : Machine PowerRun (Int × RunStep) where
  start r := ∃ (files : List FoundFile) (now : Int), 0 ≤ now ∧
    r = { power := { gdPower := .create (files.map FoundFile.device) now } }
  next := PowerRun.next

end GloDroid.Power

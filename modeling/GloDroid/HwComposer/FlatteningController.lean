import Mathlib.Tactic.Common

/-!
# Flattening Controller

The state of `compositor/FlatteningController` and its critical sections. Each method takes the
mutex for its whole body, so each is one atomic step. The time of the last arming is a reading of
the system clock in nanoseconds.
-/

namespace GloDroid.HwComposer

/-- `FlatteningController`. `trigger` says whether `cbks_.trigger` is still set. -/
structure FlatteningController where
  flattenNextFrame : Bool := false
  disabled : Bool := false
  sleepUntil : Int := 0
  trigger : Bool := true
  deriving DecidableEq, Repr

namespace FlatteningController

/-- `kTimeout = 1s`. -/
def kTimeout : Int := 1000000000

/-- `ShouldFlatten()`. -/
def shouldFlatten (fc : FlatteningController) : Bool := fc.flattenNextFrame

/-- `Disable()`. -/
def disable (fc : FlatteningController) : FlatteningController :=
  { fc with flattenNextFrame := false, disabled := true }

/-- `StopThread()`. -/
def stopThread (fc : FlatteningController) : FlatteningController := { fc with trigger := false }

/-- `NewFrame()` at clock reading `now`: the state afterwards and the returned flag. -/
def newFrame (now : Int) (fc : FlatteningController) : FlatteningController × Bool :=
  -- a pending request is consumed, and the timer is not armed again
  if fc.flattenNextFrame then ({ fc with flattenNextFrame := false }, true)
  else ({ fc with sleepUntil := now + kTimeout, disabled := false }, false)

/-- One iteration of `ThreadFn` up to its wait: the timer raises the flatten request. The
controller is owned by a compositor, so the use count is above one. -/
def threadIteration (now : Int) (fc : FlatteningController) : FlatteningController :=
  if fc.trigger && fc.sleepUntil ≤ now && !fc.disabled then
    { fc with disabled := true, flattenNextFrame := true }
  else fc

end FlatteningController

end GloDroid.HwComposer

import GloDroid.Base.Machine
import Mathlib.Data.Rat.Defs

/-!
# The Vibrator and its Threads

`Vibrator.cpp` over the force feedback device of `FFDevice.cpp`. The calls come one at a time:
`main` starts no binder thread besides its own. `on`, `perform` and `compose` leave detached threads
behind, and those of `compose` use the device. Nothing locks the device, so the accesses to
`last_effect_id` and the system calls of a call and of any number of threads interleave freely.

A call is the list of the operations it performs, and so is a thread. The time that passes in
`usleep` only delays the next operation.
-/

namespace GloDroid.Vibrator

open GloDroid.Base

/-! ## The device -/

/-- `FFDevice`, with the effects that are loaded into the driver. -/
structure FFDevice where
  lastEffectId : Int := -1
  effects : List Int := []
  deriving DecidableEq, Repr

/-- An operation of a thread. -/
inductive ThreadOp where
  /-- `FFDevice::off`, which goes on where `last_effect_id` is not -1. -/
  | off
  /-- `EVIOCRMFF`; a failure is only logged. -/
  | remove
  | clearEffectId
  /-- `EVIOCSFF` with the length of the effect. -/
  | upload (length : UInt16)
  | storeEffectId (id : Int)
  /-- Writes the play event; a failure is only logged. -/
  | play (code : UInt16)
  | usleep (us : UInt32)
  /-- Notifies the callback. -/
  | onComplete
  deriving DecidableEq, Repr

/-- `FFDevice::vibrate`. -/
def vibrate (durationMs : Int32) : List ThreadOp :=
  [.off, .upload durationMs.toUInt32.toUInt16]

/-- An operation on the device: the device afterwards, and the operations that take its place.
`result` is the answer of the driver, none for a failure. -/
def FFDevice.run (d : FFDevice) (result : Option Int) : ThreadOp → FFDevice × List ThreadOp
  | .off => (d, if d.lastEffectId = -1 then [] else [.remove, .clearEffectId])
  | .remove => ({ d with effects := d.effects.erase d.lastEffectId }, [])
  | .clearEffectId => ({ d with lastEffectId := -1 }, [])
  | .upload _ =>
    match result with
    -- the driver has allocated a new effect
    | some id =>
      ({ d with effects := id :: d.effects },
        [.storeEffectId id, .play (Int32.ofInt id).toUInt32.toUInt16])
    -- "FFDevice: send effect failed"
    | none => (d, [])
  | .storeEffectId id => ({ d with lastEffectId := id }, [])
  | .play _ => (d, [])
  | .usleep _ => (d, [])
  | .onComplete => (d, [])

/-- `usleep(ms * 1000)`. -/
def sleepMs (ms : Int32) : ThreadOp := .usleep (ms * 1000).toUInt32

/-! ## Calls -/

/-- The answer of a call. -/
inductive Status where
  | ok
  | illegalArgument
  | unsupportedOperation
  deriving DecidableEq, Repr

/-- `Effect`; the others are not supported. -/
inductive Effect where
  | click
  | tick
  | other (value : Int32)
  deriving DecidableEq, Repr

/-- `EffectStrength`, or a value outside it. -/
inductive EffectStrength where
  | light
  | medium
  | strong
  | other (value : Int32)
  deriving DecidableEq, Repr

/-- `CompositePrimitive`, or a value outside it. -/
inductive CompositePrimitive where
  | noop
  | click
  | thud
  | spin
  | quickRise
  | slowRise
  | quickFall
  | lightTick
  | lowTick
  | other (value : Int32)
  deriving DecidableEq, Repr

/-- A `float`: a number, or NaN, for which every comparison is false. -/
inductive Scale where
  | number (value : ℚ)
  | nan
  deriving DecidableEq, Repr

/-- `scale < 0.0f || scale > 1.0f`. -/
def Scale.outOfRange : Scale → Bool
  | .number value => value < 0 || value > 1
  | .nan => false

/-- `CompositeEffect`. -/
structure CompositeEffect where
  delayMs : Int32
  primitive : CompositePrimitive
  scale : Scale
  deriving DecidableEq, Repr

def kComposeDelayMaxMs : Int32 := 1000
def kComposeSizeMax : Nat := 256

/-- `getSupportedPrimitives`. -/
def getSupportedPrimitives : List CompositePrimitive :=
  [.noop, .click, .thud, .spin, .quickRise, .slowRise, .quickFall, .lightTick, .lowTick]

/-- `getPrimitiveDuration`, none where the primitive is not supported. -/
def getPrimitiveDuration (primitive : CompositePrimitive) : Option Int32 :=
  if primitive ∉ getSupportedPrimitives then none
  else if primitive ≠ .noop then some 100 else some 0

/-- The checks of `compose` on one effect. -/
def effectError (e : CompositeEffect) : Option Status :=
  if e.delayMs > kComposeDelayMaxMs then some .illegalArgument
  else if e.scale.outOfRange then some .illegalArgument
  else if e.primitive ∉ getSupportedPrimitives then some .unsupportedOperation
  else none

/-- The checks of `compose`. -/
def composeError (composite : List CompositeEffect) : Option Status :=
  if composite.length > kComposeSizeMax then some .illegalArgument
  else composite.findSome? effectError

/-- An effect of a composition, in the thread. -/
def compositeOps (e : CompositeEffect) : List ThreadOp :=
  -- `compose` has checked that there is a duration
  let durationMs := (getPrimitiveDuration e.primitive).getD 0
  (if e.delayMs ≠ 0 then [sleepMs e.delayMs] else []) ++ vibrate durationMs ++ [sleepMs durationMs]

/-- The thread that `compose` starts. -/
def composeThread (composite : List CompositeEffect) (callback : Bool) : List ThreadOp :=
  composite.flatMap compositeOps ++ if callback then [.onComplete] else []

/-- An operation of a call: one of its own thread, the start of another thread, or the answer. -/
inductive CallOp where
  | own (op : ThreadOp)
  | spawn (thread : List ThreadOp)
  | answer (status : Status)
  deriving DecidableEq, Repr

/-- `Vibrator::off`. -/
def off : List CallOp := [.own .off, .answer .ok]

/-- The end of `on` and of `perform`: a thread that notifies the callback after a while. -/
def notifyAfter (ms : Int32) (callback : Bool) : List CallOp :=
  if callback then [.spawn [sleepMs ms, .onComplete]] else []

/-- `Vibrator::on`. -/
def on (timeoutMs : Int32) (callback : Bool) : List CallOp :=
  (vibrate timeoutMs).map .own ++ notifyAfter timeoutMs callback ++ [.answer .ok]

def kEffectMillis : Int32 := 100

/-- `Vibrator::perform`. -/
def perform (effect : Effect) (strength : EffectStrength) (callback : Bool) : List CallOp :=
  if effect ≠ .click ∧ effect ≠ .tick then [.answer .unsupportedOperation]
  else if strength ≠ .light ∧ strength ≠ .medium ∧ strength ≠ .strong then
    [.answer .unsupportedOperation]
  else (vibrate kEffectMillis).map .own ++ notifyAfter kEffectMillis callback ++ [.answer .ok]

/-- `Vibrator::compose`. -/
def compose (composite : List CompositeEffect) (callback : Bool) : List CallOp :=
  match composeError composite with
  | some status => [.answer status]
  | none => [.spawn (composeThread composite callback), .answer .ok]

/-- The calls that use the device. -/
inductive VibratorCall where
  | off
  | on (timeoutMs : Int32) (callback : Bool)
  | perform (effect : Effect) (strength : EffectStrength) (callback : Bool)
  | compose (composite : List CompositeEffect) (callback : Bool)
  deriving DecidableEq, Repr

/-- The operations of a call. -/
def VibratorCall.ops : VibratorCall → List CallOp
  | .off => Vibrator.off
  | .on timeoutMs callback => Vibrator.on timeoutMs callback
  | .perform effect strength callback => Vibrator.perform effect strength callback
  | .compose composite callback => Vibrator.compose composite callback

/-! ## Runs -/

/-- The vibrator with the call that is being handled and the detached threads. -/
structure VibratorState where
  device : FFDevice := {}
  /-- The last call, and what is left of it. -/
  call : Option VibratorCall := none
  callOps : List CallOp := []
  /-- What is left of the detached threads. -/
  threads : List (List ThreadOp) := []
  /-- `off` has returned, and none of the other calls began since. -/
  silenced : Bool := false
  /-- An effect was uploaded or played while the vibrator was silenced. -/
  disturbed : Bool := false
  deriving DecidableEq, Repr

/-- A call begins, or goes on, or the `i`th thread does. -/
inductive VibratorStep where
  | begin (call : VibratorCall)
  | call (result : Option Int)
  | thread (i : Nat) (result : Option Int)
  deriving DecidableEq, Repr

/-- The operation uploads or plays an effect. -/
def ThreadOp.triggers (result : Option Int) : ThreadOp → Bool
  | .upload _ => result.isSome
  | .play _ => result.isSome
  | _ => false

namespace VibratorState

/-- An operation of some thread. -/
def runOp (s : VibratorState) (result : Option Int) (op : ThreadOp) : VibratorState :=
  { s with
    device := (s.device.run result op).1
    disturbed := s.disturbed || s.silenced && op.triggers result }

/-- A step. -/
def next (s : VibratorState) : VibratorStep → Option VibratorState
  | .begin call =>
    if s.callOps = [] then
      some { s with
        call := some call
        callOps := call.ops
        silenced := s.silenced && call = .off }
    else none
  | .call result =>
    match s.callOps with
    | [] => none
    | .own op :: rest =>
      some { s.runOp result op with
        callOps := (s.device.run result op).2.map .own ++ rest }
    | .spawn thread :: rest => some { s with callOps := rest, threads := s.threads ++ [thread] }
    | .answer _ :: _ =>
      some { s with callOps := [], silenced := s.silenced || s.call = some .off }
  | .thread i result =>
    match s.threads[i]? with
    | some (op :: rest) =>
      some { s.runOp result op with
        threads := s.threads.set i ((s.device.run result op).2 ++ rest) }
    | _ => none

end VibratorState

/-- The vibrator under any calls. -/
def vibratorMachine : Machine VibratorState VibratorStep where
  start s := s = {}
  next := VibratorState.next

/-- What a step does, branch by branch. -/
inductive StepsTo (s : VibratorState) : VibratorStep → VibratorState → Prop where
  | begin (call : VibratorCall) : StepsTo s (.begin call)
      { s with
        call := some call
        callOps := call.ops
        silenced := s.silenced && call = .off }
  | own {op : ThreadOp} {rest : List CallOp} (hops : s.callOps = .own op :: rest)
      (result : Option Int) : StepsTo s (.call result)
      { s.runOp result op with callOps := (s.device.run result op).2.map .own ++ rest }
  | spawn {thread : List ThreadOp} {rest : List CallOp} (hops : s.callOps = .spawn thread :: rest)
      (result : Option Int) : StepsTo s (.call result)
      { s with callOps := rest, threads := s.threads ++ [thread] }
  | answer {status : Status} {rest : List CallOp} (hops : s.callOps = .answer status :: rest)
      (result : Option Int) : StepsTo s (.call result)
      { s with callOps := [], silenced := s.silenced || s.call = some .off }
  | thread {i : Nat} {op : ThreadOp} {rest : List ThreadOp}
      (hthread : s.threads[i]? = some (op :: rest)) (result : Option Int) :
      StepsTo s (.thread i result)
      { s.runOp result op with threads := s.threads.set i ((s.device.run result op).2 ++ rest) }

theorem stepsTo_of_next {s s' : VibratorState} {step : VibratorStep}
    (h : vibratorMachine.next s step = some s') : StepsTo s step s' := by
  cases step with
  | begin call =>
    simp only [vibratorMachine, VibratorState.next] at h
    split_ifs at h
    exact Option.some.inj h ▸ .begin call
  | call result =>
    simp only [vibratorMachine, VibratorState.next] at h
    split at h
    case h_1 => cases h
    case h_2 hops => exact Option.some.inj h ▸ .own hops result
    case h_3 hops => exact Option.some.inj h ▸ .spawn hops result
    case h_4 hops => exact Option.some.inj h ▸ .answer hops result
  | thread i result =>
    simp only [vibratorMachine, VibratorState.next] at h
    split at h
    case h_1 hthread => exact Option.some.inj h ▸ .thread hthread result
    case h_2 => cases h

end GloDroid.Vibrator

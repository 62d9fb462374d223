import GloDroid.Base.Machine
import GloDroid.Base.WaitLoop

/-!
# The Power HAL's Boost Worker

`GloDroidPower` raises the `min_freq` files of the accepted devices while a boost is asked for.
Binder threads ask under `mut_`; one worker thread waits on `cv_` and writes the files:

- `BoostFor` moves the end of the timed boost, if later, and notifies;
- `BoostEn` sets the flag of the mode boost and notifies;
- the destructor sets `exit_` and notifies;
- `ThreadFn` takes the lock, waits until `wakeup_pt`, evaluates and drops the lock again, in a loop.

The worker's place in its loop and what it last saw are those of `Base.WaitLoop`. Times are the
nanoseconds of `steady_clock`; a wake-up may be a notification, the deadline or spurious, so it is
enabled whenever the worker waits.
-/

namespace GloDroid.Power

open GloDroid.Base

/-! ## Frequency files -/

/-- An integer file of sysfs, with the value it had first and the value written last. -/
structure SysfsIntFile where
  fileName : String
  initialValue : Int := -1
  lastValue : Int := -1
  valid : Bool := false
  deriving DecidableEq, Repr

namespace SysfsIntFile

/-- The constructor, where `content` is what `open`, `read` and `sscanf` got out of the file. -/
def ofFile (fileName : String) (content : Option Int) : SysfsIntFile :=
  match content with
  | some value => { fileName, initialValue := value, valid := true }
  | none => { fileName }

/-- `Write`, where `written` says whether `open` and `dprintf` succeed. -/
def write (f : SysfsIntFile) (written : Bool) (value : Int) : Bool × SysfsIntFile :=
  if !f.valid then (false, f)
  else if !written then (false, f)
  else (true, { f with lastValue := value })

end SysfsIntFile

/-- A device with dynamic frequency. -/
structure DevFreq where
  minFreq : SysfsIntFile
  maxFreq : SysfsIntFile
  valid : Bool := false
  deriving DecidableEq, Repr

namespace DevFreq

/-- The constructor: the device is usable when both files parse and the lower one is writable. -/
def ofFiles (minFreq maxFreq : SysfsIntFile) (written : Bool) : DevFreq :=
  if minFreq.valid && maxFreq.valid then
    let (ok, minFreq') := minFreq.write written minFreq.initialValue
    { minFreq := minFreq', maxFreq, valid := ok }
  else { minFreq, maxFreq }

/-- `Boost` writes the lower file. -/
def boost (df : DevFreq) (written : Bool) (en : Bool) : DevFreq :=
  { df with
    minFreq := (df.minFreq.write written
      (if en then df.maxFreq.initialValue else df.minFreq.initialValue)).2 }

end DevFreq

/-! ## State -/

/-- What the mutex protects. A default-constructed `time_point` is the clock's epoch. -/
@[ext]
structure BoostShared where
  boostEnd : Int := 0
  boostEn : Bool := false
  exit : Bool := false
  deriving DecidableEq, Repr

/-- The object with its worker. `wakeupPt = none` is `time_point::max()`. -/
structure GloDroidPower where
  boosterList : List DevFreq
  loop : WaitLoop BoostShared
  boosted : Bool := false
  wakeupPt : Option Int := none
  /-- The time of the worker's last evaluation, before the first one that of the construction. -/
  lastEval : Int
  clock : Int

namespace GloDroidPower

/-- The constructor keeps the usable devices; without any it starts no worker. -/
def create (found : List DevFreq) (now : Int) : GloDroidPower :=
  let boosterList := found.filter (·.valid)
  { boosterList
    loop := { WaitLoop.init {} with phase := if boosterList.isEmpty then .stopped else .between }
    lastEval := now
    clock := now }

/-! ## Requests -/

/-- The end of a timed boost asked for at `now`. -/
def requestedEnd (now timeoutMs : Int) : Int :=
  -- no duration given: a default
  let timeoutMs := if timeoutMs ≤ 0 then 100 else timeoutMs
  now + timeoutMs * 1000000

/-- `BoostFor`, in its critical section. -/
def boostFor (s : GloDroidPower) (now timeoutMs : Int) : GloDroidPower :=
  let boostEnd := requestedEnd now timeoutMs
  if s.loop.shared.boostEnd < boostEnd then
    { s with loop := s.loop.request { s.loop.shared with boostEnd } true, clock := now }
  else
    -- an earlier request lasts longer: nothing changes and nobody is notified
    { s with clock := now }

/-- `BoostEn`, in its critical section. -/
def setBoostEn (s : GloDroidPower) (now : Int) (en : Bool) : GloDroidPower :=
  { s with loop := s.loop.request { s.loop.shared with boostEn := en } true, clock := now }

/-- The destructor's request to the worker: its critical section and the notification after it. -/
def requestExit (s : GloDroidPower) (now : Int) : GloDroidPower :=
  { s with loop := s.loop.request { s.loop.shared with exit := true } true, clock := now }

/-! ## The worker -/

/-- `BoostAll`, where `written` says which writes succeed. -/
def boostAll (boosterList : List DevFreq) (written : Nat → Bool) (en : Bool) : List DevFreq :=
  boosterList.mapIdx fun i df => df.boost (written i) en

end GloDroidPower

/-- `boost_active`, evaluated at `now`. -/
def BoostShared.boostActive (b : BoostShared) (now : Int) : Bool :=
  decide (b.boostEnd > now) || b.boostEn

/-- The next `wakeup_pt`, evaluated at `now`. -/
def BoostShared.nextWakeup (b : BoostShared) (now : Int) : Option Int :=
  if b.boostActive now && !b.boostEn then some b.boostEnd else none

namespace GloDroidPower

/-- The body of the loop after the exit check: the files are written when the boost goes on or off.
The first component is what `BoostAll` is called with, if it is. -/
def evaluateBoost (s : GloDroidPower) (now : Int) (written : Nat → Bool) :
    Option Bool × GloDroidPower :=
  let boostActive := s.loop.shared.boostActive now
  let r : Option Bool × GloDroidPower :=
    if boostActive then
      -- the files are written on the edges only
      if !s.boosted then
        (some true, { s with boosted := true, boosterList := boostAll s.boosterList written true })
      else (none, s)
    else
      if s.boosted then
        (some false,
          { s with boosted := false, boosterList := boostAll s.boosterList written false })
      else (none, s)
  (r.1, { r.2 with wakeupPt := s.loop.shared.nextWakeup now, lastEval := now })

/-- The worker wakes up with the lock: it returns, or evaluates and drops the lock. -/
def wake (s : GloDroidPower) (now : Int) (written : Nat → Bool) :
    Option (Option Bool × GloDroidPower) :=
  match s.loop.evaluate s.loop.shared.exit with
  | some loop =>
    -- it returns before it looks at the boost
    if s.loop.shared.exit then some (none, { s with loop, clock := now })
    else
      let r := s.evaluateBoost now written
      some (r.1, { r.2 with loop, clock := now })
  | none => none

/-- `lock` and the start of `cv_.wait_until`. -/
def lockAndWait (s : GloDroidPower) (now : Int) : Option GloDroidPower :=
  match s.loop.startWait with
  | some loop => some { s with loop, clock := now }
  | none => none

end GloDroidPower

/-! ## Interleavings -/

/-- One atomic step of a binder thread or of the worker, at a time. -/
inductive PowerStep where
  | boostFor (timeoutMs : Int)
  | boostEn (en : Bool)
  | requestExit
  | lockAndWait
  | wake (written : Nat → Bool)

namespace PowerStep

/-- The step at time `now`. -/
def apply (s : GloDroidPower) (now : Int) : PowerStep → Option GloDroidPower
  | .boostFor timeoutMs => some (s.boostFor now timeoutMs)
  | .boostEn en => some (s.setBoostEn now en)
  | .requestExit => some (s.requestExit now)
  | .lockAndWait => s.lockAndWait now
  | .wake written => (s.wake now written).map Prod.snd

/-- `steady_clock` never goes back. -/
def next (s : GloDroidPower) (step : Int × PowerStep) : Option GloDroidPower :=
  if s.clock ≤ step.1 then step.2.apply s step.1 else none

end PowerStep

/-- All interleavings of the requests with the worker. -/
def powerMachine : Machine GloDroidPower (Int × PowerStep) where
  start s := ∃ found now, 0 ≤ now ∧ s = .create found now
  next := PowerStep.next

/-! ## What a step does -/

namespace GloDroidPower

/-- What the worker holds is what an evaluation of `b` at `t` leaves. -/
structure Holds (s : GloDroidPower) (b : BoostShared) (t : Int) : Prop where
  boosted : s.boosted = b.boostActive t
  wakeupPt : s.wakeupPt = b.nextWakeup t
  lastEval : s.lastEval = t

theorem boostFor_later {s : GloDroidPower} {now timeoutMs : Int}
    (h : s.loop.shared.boostEnd < requestedEnd now timeoutMs) :
    s.boostFor now timeoutMs =
      { s with
        loop := s.loop.request
          { s.loop.shared with boostEnd := requestedEnd now timeoutMs } true
        clock := now } :=
  if_pos h

theorem boostFor_earlier {s : GloDroidPower} {now timeoutMs : Int}
    (h : ¬ s.loop.shared.boostEnd < requestedEnd now timeoutMs) :
    s.boostFor now timeoutMs = { s with clock := now } :=
  if_neg h

/-- An evaluation leaves the worker with exactly what the shared state asks for. -/
theorem evaluateBoost_holds (s : GloDroidPower) (now : Int) (written : Nat → Bool) :
    (s.evaluateBoost now written).2.Holds s.loop.shared now := by
  -- the four cases of the edge trigger: asked for or not, boosted before or not
  cases hactive : s.loop.shared.boostActive now <;> cases hboosted : s.boosted <;>
    constructor <;> simp [evaluateBoost, hactive, hboosted]

/-- It calls `BoostAll` exactly where the boost goes on or off. -/
theorem evaluateBoost_cases (s : GloDroidPower) (now : Int) (written : Nat → Bool) :
    (s.loop.shared.boostActive now = s.boosted ∧ (s.evaluateBoost now written).1 = none ∧
      (s.evaluateBoost now written).2.boosterList = s.boosterList) ∨
    (s.loop.shared.boostActive now ≠ s.boosted ∧
      (s.evaluateBoost now written).1 = some (s.loop.shared.boostActive now) ∧
      (s.evaluateBoost now written).2.boosterList =
        boostAll s.boosterList written (s.loop.shared.boostActive now)) := by
  cases hactive : s.loop.shared.boostActive now <;> cases hboosted : s.boosted <;>
    simp [evaluateBoost, hactive, hboosted]

/-- Before the first evaluation there is no boost, and none is asked for. -/
theorem create_holds (found : List DevFreq) {now : Int} (hnow : 0 ≤ now) :
    (create found now).Holds {} now := by
  have hidle : BoostShared.boostActive {} now = false := by
    simp [BoostShared.boostActive, hnow]
  refine ⟨hidle.symm, ?_, rfl⟩
  simp [BoostShared.nextWakeup, hidle, create]

theorem lockAndWait_eq {s s' : GloDroidPower} {now : Int} (h : s.lockAndWait now = some s') :
    ∃ loop, s.loop.startWait = some loop ∧ s' = { s with loop, clock := now } := by
  simp only [lockAndWait] at h
  split at h
  case h_1 loop hloop => exact ⟨loop, hloop, (Option.some.inj h).symm⟩
  case h_2 => cases h

/-- The worker that wakes up returns or evaluates. -/
theorem wake_eq {s s' : GloDroidPower} {call : Option Bool} {now : Int} {written : Nat → Bool}
    (h : s.wake now written = some (call, s')) :
    ∃ loop, s.loop.evaluate s.loop.shared.exit = some loop ∧
      ((s.loop.shared.exit = true ∧ call = none ∧ s' = { s with loop, clock := now }) ∨
        (s.loop.shared.exit = false ∧ call = (s.evaluateBoost now written).1 ∧
          s' = { (s.evaluateBoost now written).2 with loop, clock := now })) := by
  simp only [wake] at h
  split at h
  case h_1 loop hloop =>
    refine ⟨loop, hloop, ?_⟩
    split_ifs at h with hexit
    · obtain ⟨rfl, rfl⟩ := Prod.mk.inj (Option.some.inj h)
      exact Or.inl ⟨hexit, rfl, rfl⟩
    · obtain ⟨rfl, rfl⟩ := Prod.mk.inj (Option.some.inj h)
      exact Or.inr ⟨by simpa using hexit, rfl, rfl⟩
  case h_2 => cases h

end GloDroidPower

namespace PowerStep

/-- The step is a request that changes the shared state. -/
def changesShared (s : GloDroidPower) (now : Int) : PowerStep → Bool
  | .boostFor timeoutMs => s.loop.shared.boostEnd < GloDroidPower.requestedEnd now timeoutMs
  | .boostEn en => en != s.loop.shared.boostEn
  | .requestExit => !s.loop.shared.exit
  | .lockAndWait | .wake _ => false

/-- The step of a binder thread. -/
def isRequest : PowerStep → Bool
  | .boostFor _ | .boostEn _ | .requestExit => true
  | .lockAndWait | .wake _ => false

/-- **A request**, seen from the worker: what it holds stays, and its loop gets a request that
notifies, or none at all if nothing changes. -/
theorem apply_request {s s' : GloDroidPower} {now : Int} {step : PowerStep}
    (hreq : step.isRequest = true) (h : step.apply s now = some s') :
    (s'.boosted = s.boosted ∧ s'.wakeupPt = s.wakeupPt ∧ s'.lastEval = s.lastEval) ∧
      ((step.changesShared s now = false ∧ s'.loop = s.loop) ∨
        ∃ b, s'.loop = s.loop.request b true ∧
          (step.changesShared s now = true ↔ b ≠ s.loop.shared)) := by
  cases step with
  | boostFor timeoutMs =>
    obtain rfl := Option.some.inj h
    by_cases hlater : s.loop.shared.boostEnd < GloDroidPower.requestedEnd now timeoutMs
    · -- a later end is a change
      rw [GloDroidPower.boostFor_later hlater]
      refine ⟨⟨rfl, rfl, rfl⟩, Or.inr ⟨_, rfl, ?_⟩⟩
      simp only [changesShared, hlater, decide_true, true_iff]
      intro heq
      have hend := congrArg BoostShared.boostEnd heq
      dsimp only at hend
      omega
    · rw [GloDroidPower.boostFor_earlier hlater]
      exact ⟨⟨rfl, rfl, rfl⟩, Or.inl ⟨by simp [changesShared, hlater], rfl⟩⟩
  | boostEn en =>
    obtain rfl := Option.some.inj h
    refine ⟨⟨rfl, rfl, rfl⟩, Or.inr ⟨_, rfl, ?_⟩⟩
    simp [changesShared, BoostShared.ext_iff]
  | requestExit =>
    obtain rfl := Option.some.inj h
    refine ⟨⟨rfl, rfl, rfl⟩, Or.inr ⟨_, rfl, ?_⟩⟩
    simp [changesShared, BoostShared.ext_iff]
  | lockAndWait => simp [isRequest] at hreq
  | wake written => simp [isRequest] at hreq

/-- A step that is taken is taken at a time that is not in the past. -/
theorem next_eq {s s' : GloDroidPower} {now : Int} {step : PowerStep}
    (h : PowerStep.next s (now, step) = some s') :
    s.clock ≤ now ∧ step.apply s now = some s' := by
  simp only [PowerStep.next] at h
  split_ifs at h with hclock
  exact ⟨hclock, h⟩

end PowerStep

end GloDroid.Power

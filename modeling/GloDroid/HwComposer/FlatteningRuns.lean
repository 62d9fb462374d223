import Mathlib.Data.List.Basic
import GloDroid.Base.Machine
import GloDroid.HwComposer.FlatteningController

/-!
# Runs of the Flattening Controller

The controller is used by four parties: the compositor announces frames (`NewFrame`), cancels the
timer (`Disable`) and ends the thread (`StopThread`), and the thread fires the trigger. Each takes
the mutex, so a run is an interleaving of whole critical sections, and the log of a run says what
happened in which order.

The last event that matters decides whether the timer may fire: `ArmedBy` ties the deadline to the
arming event, and `trigger_follows_arming` reads off what every trigger was preceded by.
-/

namespace GloDroid.HwComposer

open GloDroid.Base

/-! ## Events -/

/-- What happened to a controller. `newFrame` is a frame that found no request pending, `consumed`
one that took a pending request; both come with the clock reading. -/
inductive FlatEvent where
  | created
  | newFrame (now : Int)
  | consumed (now : Int)
  | disable
  | stopThread
  | trigger (now : Int)
  deriving DecidableEq, Repr

namespace FlatEvent

/-- The event starts the timer. -/
def arms : FlatEvent → Bool
  | created | newFrame _ => true
  | _ => false

/-- The event cancels the timer or uses it up. -/
def disarms : FlatEvent → Bool
  | disable | stopThread | trigger _ => true
  | _ => false

/-- The event decides whether the timer runs. -/
def decides (e : FlatEvent) : Bool := e.arms || e.disarms

end FlatEvent

/-! ## State and steps -/

/-- A controller with its thread and the log of its run, latest event first. -/
structure FlatteningRun where
  fc : FlatteningController
  exited : Bool := false
  log : List FlatEvent := [.created]

/-- A critical section of one of the parties. In an iteration of the thread, `lastOwner` says
whether `fc.use_count()` is down to one. -/
inductive FlatStep where
  | newFrame (now : Int)
  | disable
  | stopThread
  | iteration (now : Int) (lastOwner : Bool)

namespace FlatteningController

/-- The thread finds its deadline passed and the timer running. -/
def fires (now : Int) (fc : FlatteningController) : Bool := fc.sleepUntil ≤ now && !fc.disabled

/-- Where `threadIteration` does not leave its loop, it fires exactly when the timer is due. -/
theorem threadIteration_eq (now : Int) {fc : FlatteningController} (h : fc.trigger = true) :
    fc.threadIteration now =
      if fc.fires now then { fc with disabled := true, flattenNextFrame := true } else fc := by
  simp [threadIteration, fires, h]

end FlatteningController

namespace FlatteningRun

/-- `NewFrame`. -/
def newFrame (s : FlatteningRun) (now : Int) : FlatteningRun :=
  let r := s.fc.newFrame now
  { s with fc := r.1, log := (if r.2 then .consumed now else .newFrame now) :: s.log }

/-- One iteration of `ThreadFn`, from its lock to its wait or its end. The wait may end at any
time: by a notification, at the deadline or spuriously. -/
def iteration (s : FlatteningRun) (now : Int) (lastOwner : Bool) : Option FlatteningRun :=
  if s.exited then none
  -- nobody is left to be told
  else if lastOwner || !s.fc.trigger then some { s with exited := true }
  else
    some { s with
      fc := s.fc.threadIteration now
      log := if s.fc.fires now then .trigger now :: s.log else s.log }

end FlatteningRun

/-- All interleavings. `CreateInstance` hands over the callbacks before it starts the thread. -/
def flatteningMachine : Machine FlatteningRun FlatStep where
  start s := ∃ trigger, s = { fc := { trigger } }
  next s
    | .newFrame now => some (s.newFrame now)
    | .disable => some { s with fc := s.fc.disable, log := .disable :: s.log }
    | .stopThread => some { s with fc := s.fc.stopThread, log := .stopThread :: s.log }
    | .iteration now lastOwner => s.iteration now lastOwner

/-! ## What holds in every run -/

/-- The last deciding event started the timer, and the deadline is the one it set. -/
def ArmedBy (fc : FlatteningController) (log : List FlatEvent) : Prop :=
  ∃ e, log.find? FlatEvent.decides = some e ∧ e.arms = true ∧
    ∀ now, e = .newFrame now → fc.sleepUntil = now + FlatteningController.kTimeout

/-- The trigger at reading `t`, with `earlier` the events before it, was due: the timer had been
started and not cancelled since, and its time had passed. -/
structure TriggerDue (t : Int) (earlier : List FlatEvent) : Prop where
  not_stopped : .stopThread ∉ earlier
  armed : ∃ e, earlier.find? FlatEvent.decides = some e ∧ e.arms = true ∧
    ∀ now, e = .newFrame now → now + FlatteningController.kTimeout ≤ t

/-- What ties the flags of the controller to the log of its run. -/
structure FlatInv (s : FlatteningRun) : Prop where
  pending_disabled : s.fc.flattenNextFrame = true → s.fc.disabled = true
  callback : s.fc.trigger = true → .stopThread ∉ s.log
  running : s.fc.disabled = false → s.fc.trigger = true → ArmedBy s.fc s.log
  triggers : ∀ later t earlier, s.log = later ++ .trigger t :: earlier → TriggerDue t earlier

/-- Every trigger of a log that got one event longer is the new event or was there before. -/
theorem triggers_cons {e : FlatEvent} {log : List FlatEvent}
    (hold : ∀ later t earlier, log = later ++ .trigger t :: earlier → TriggerDue t earlier)
    (hnew : ∀ t, e = .trigger t → TriggerDue t log) :
    ∀ later t earlier, e :: log = later ++ .trigger t :: earlier → TriggerDue t earlier := by
  intro later t earlier heq
  cases later with
  | nil =>
    obtain ⟨rfl, rfl⟩ := List.cons.inj heq
    exact hnew t rfl
  | cons e' later =>
    obtain ⟨-, hlog⟩ := List.cons.inj heq
    exact hold later t earlier hlog

namespace FlatInv

variable {s : FlatteningRun}

theorem start (trigger : Bool) : FlatInv { fc := { trigger } } where
  pending_disabled h := h
  callback _ := by simp
  running _ _ := ⟨.created, rfl, rfl, fun now h => by cases h⟩
  triggers := by
    apply triggers_cons
    · intro later t earlier heq
      exact absurd (congrArg List.length heq) (by simp)
    · intro t h
      cases h

/-- An event that is not `StopThread` leaves the log without one. -/
theorem callback_cons (h : FlatInv s) {e : FlatEvent} (he : .stopThread ≠ e) :
    s.fc.trigger = true → .stopThread ∉ e :: s.log := by
  intro htrigger hmem
  exact h.callback htrigger ((List.mem_cons.mp hmem).resolve_left he)

theorem newFrame (h : FlatInv s) (now : Int) : FlatInv (s.newFrame now) := by
  by_cases hpending : s.fc.flattenNextFrame = true
  · -- the request is taken, and the timer stays off
    have heq : s.newFrame now =
        { s with
          fc := { s.fc with flattenNextFrame := false }
          log := .consumed now :: s.log } := by
      simp [FlatteningRun.newFrame, FlatteningController.newFrame, hpending]
    rw [heq]
    constructor
    · intro hnext
      cases hnext
    · exact h.callback_cons (by simp)
    · intro hrunning
      exact absurd (h.pending_disabled hpending) (by simpa using hrunning)
    · exact triggers_cons h.triggers fun t ht => by cases ht
  · have heq : s.newFrame now =
        { s with
          fc := { s.fc with
            sleepUntil := now + FlatteningController.kTimeout, disabled := false }
          log := .newFrame now :: s.log } := by
      simp [FlatteningRun.newFrame, FlatteningController.newFrame, hpending]
    rw [heq]
    constructor
    · intro hnext
      exact absurd hnext hpending
    · exact h.callback_cons (by simp)
    · intro _ _
      refine ⟨.newFrame now, rfl, rfl, fun now' heq' => ?_⟩
      rw [FlatEvent.newFrame.inj heq']
    · exact triggers_cons h.triggers fun t ht => by cases ht

theorem disable (h : FlatInv s) :
    FlatInv { s with fc := s.fc.disable, log := .disable :: s.log } where
  pending_disabled hpending := by cases hpending
  callback := h.callback_cons (by simp)
  running hrunning := by cases hrunning
  triggers := triggers_cons h.triggers fun t ht => by cases ht

theorem stopThread (h : FlatInv s) :
    FlatInv { s with fc := s.fc.stopThread, log := .stopThread :: s.log } where
  pending_disabled := h.pending_disabled
  callback htrigger := by cases htrigger
  running _ htrigger := by cases htrigger
  triggers := triggers_cons h.triggers fun t ht => by cases ht

theorem iteration {s' : FlatteningRun} {now : Int} {lastOwner : Bool} (h : FlatInv s)
    (hstep : s.iteration now lastOwner = some s') : FlatInv s' := by
  simp only [FlatteningRun.iteration] at hstep
  split_ifs at hstep with hexited hend hfires
  · -- the thread ends; nothing else changes
    obtain rfl := Option.some.inj hstep
    exact ⟨h.pending_disabled, h.callback, h.running, h.triggers⟩
  · obtain rfl := Option.some.inj hstep
    have htrigger : s.fc.trigger = true := by
      cases htrigger : s.fc.trigger with
      | true => rfl
      | false => simp [htrigger] at hend
    obtain ⟨hdue, hrunning⟩ : s.fc.sleepUntil ≤ now ∧ s.fc.disabled = false := by
      simpa [FlatteningController.fires] using hfires
    rw [FlatteningController.threadIteration_eq now htrigger, if_pos hfires]
    constructor
    · intro _
      rfl
    · exact h.callback_cons (by simp)
    · intro hoff
      cases hoff
    · apply triggers_cons h.triggers
      intro t ht
      obtain rfl := FlatEvent.trigger.inj ht
      -- the timer was running, so its last arming set the deadline that has passed
      obtain ⟨e, hlast, harms, hdeadline⟩ := h.running hrunning htrigger
      refine ⟨h.callback htrigger, e, hlast, harms, fun now' heq => ?_⟩
      rw [← hdeadline now' heq]
      exact hdue
  · obtain rfl := Option.some.inj hstep
    have htrigger : s.fc.trigger = true := by
      cases htrigger : s.fc.trigger with
      | true => rfl
      | false => simp [htrigger] at hend
    rw [FlatteningController.threadIteration_eq now htrigger, if_neg hfires]
    exact ⟨h.pending_disabled, h.callback, h.running, h.triggers⟩

/-- **The step lemma**: every critical section keeps the invariant. -/
theorem next {s' : FlatteningRun} {step : FlatStep} (h : FlatInv s)
    (hnext : flatteningMachine.next s step = some s') : FlatInv s' := by
  cases step with
  | newFrame now =>
    obtain rfl := Option.some.inj hnext
    exact h.newFrame now
  | disable =>
    obtain rfl := Option.some.inj hnext
    exact h.disable
  | stopThread =>
    obtain rfl := Option.some.inj hnext
    exact h.stopThread
  | iteration now lastOwner => exact h.iteration hnext

end FlatInv

theorem flatInv_of_reachable {s : FlatteningRun} (h : flatteningMachine.Reachable s) :
    FlatInv s := by
  refine h.invariant FlatInv ?_ fun s step s' hinv _ hnext => hinv.next hnext
  rintro s ⟨trigger, rfl⟩
  exact .start trigger

/-- **The flattening timer fires right**: in every run a pending request means the timer is off, and
every invocation of the trigger follows an arming event (the construction, or a frame that found no
request pending) with no `Disable`, `StopThread` or other trigger in between, not before the time
set by that event if it is a frame, and never after `StopThread`. -/
theorem trigger_follows_arming {s : FlatteningRun} (h : flatteningMachine.Reachable s) :
    (s.fc.flattenNextFrame = true → s.fc.disabled = true) ∧
      ∀ later t earlier, s.log = later ++ .trigger t :: earlier →
        .stopThread ∉ earlier ∧
          ∃ e, earlier.find? FlatEvent.decides = some e ∧ e.arms = true ∧
            ∀ now, e = .newFrame now → now + FlatteningController.kTimeout ≤ t := by
  have hinv := flatInv_of_reachable h
  refine ⟨hinv.pending_disabled, fun later t earlier hlog => ?_⟩
  obtain ⟨hstopped, harmed⟩ := hinv.triggers later t earlier hlog
  exact ⟨hstopped, harmed⟩

theorem created_start : flatteningMachine.start { fc := { trigger := true } } := ⟨true, rfl⟩

/-- A frame, and the thread a second later. -/
def firedRun : FlatteningRun :=
  (flatteningMachine.exec { fc := { trigger := true } }
    [.disable, .newFrame 5, .iteration 7 false, .iteration 1000000005 false]).get (by decide)

theorem trigger_follows_arming_fired :
    firedRun.log = [] ++ .trigger 1000000005 :: [.newFrame 5, .disable, .created] ∧
      5 + FlatteningController.kTimeout ≤ 1000000005 := by
  refine ⟨by decide, ?_⟩
  have hreach : flatteningMachine.Reachable firedRun := Machine.reachable_of_exec created_start _
  obtain ⟨-, e, hlast, -, hdeadline⟩ :=
    (trigger_follows_arming hreach).2 [] 1000000005 [.newFrame 5, .disable, .created] (by decide)
  obtain rfl := Option.some.inj hlast
  exact hdeadline 5 rfl

end GloDroid.HwComposer

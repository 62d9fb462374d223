import GloDroid.Power.GloDroidPower
import Mathlib.Algebra.Order.Ring.Int

/-!
# Requests and the Waiting Worker

The worker waits without testing the state first, and it does not hold the lock between an
evaluation and the next wait, nor before its first wait. A request that falls there is noticed by
nobody: `RequestsSeen` fails as soon as the worker waits again (`requestsSeen_fails`). In runs
without such a request the property holds in every state (`requestsSeen_of_noRequestBetween`).
-/

namespace GloDroid.Power

open GloDroid.Base

/-- The worker that waits without notice saw every change, holds the boost that was asked for at
its last evaluation, and wakes up before a timed boost ends. -/
def RequestsSeen (s : GloDroidPower) : Prop :=
  s.loop.phase = .waiting false →
    s.loop.UpToDate ∧
    s.boosted = (s.loop.shared.boostEn || decide (s.loop.shared.boostEnd > s.lastEval)) ∧
    (s.boosted = true → s.loop.shared.boostEn = false →
      ∃ t, s.wakeupPt = some t ∧ t ≤ s.loop.shared.boostEnd)

/-- No change of the shared state while the worker is neither waiting nor evaluating. -/
def NoRequestBetween (s : GloDroidPower) (step : Int × PowerStep) : Prop :=
  step.2.changesShared s step.1 = true → s.loop.phase ≠ .between

instance (s : GloDroidPower) (step : Int × PowerStep) : Decidable (NoRequestBetween s step) :=
  inferInstanceAs (Decidable (_ → _))

/-! ## What holds in every run -/

/-- As long as it runs, the worker holds what its last evaluation asked for. -/
structure WorkerOk (s : GloDroidPower) : Prop where
  seen_le : s.loop.seen ≤ s.loop.changes
  holds : s.loop.phase ≠ .stopped → s.Holds s.loop.view s.lastEval

theorem workerOk_create (found : List DevFreq) {now : Int} (hnow : 0 ≤ now) :
    WorkerOk (.create found now) where
  seen_le := le_refl _
  holds _ := GloDroidPower.create_holds found hnow

/-- A request touches nothing the worker holds. -/
theorem WorkerOk.request {s s' : GloDroidPower} {now : Int} {step : PowerStep} (h : WorkerOk s)
    (hreq : step.isRequest = true) (hstep : step.apply s now = some s') : WorkerOk s' := by
  -- a request writes the shared state and the loop's place, never what the worker holds
  obtain ⟨⟨hboosted, hwakeup, hlast⟩, hloop⟩ := PowerStep.apply_request hreq hstep
  -- in both cases the loop keeps its view, and a stopped worker stays stopped
  have hkept : s'.loop.view = s.loop.view ∧ s'.loop.seen ≤ s'.loop.changes ∧
      (s'.loop.phase ≠ .stopped → s.loop.phase ≠ .stopped) := by
    rcases hloop with ⟨-, hsame⟩ | ⟨b, hrequest, -⟩
    · rw [hsame]
      exact ⟨rfl, h.seen_le, id⟩
    · rw [hrequest]
      refine ⟨rfl, h.seen_le.trans (s.loop.changes_le_request b true), ?_⟩
      exact s.loop.stopped_of_request b true
  obtain ⟨hview, hseen, hrun⟩ := hkept
  refine ⟨hseen, fun hphase => ?_⟩
  have hbefore := h.holds (hrun hphase)
  rw [hview, hlast]
  exact ⟨hboosted.trans hbefore.boosted, hwakeup.trans hbefore.wakeupPt, hlast⟩

theorem WorkerOk.lockAndWait {s s' : GloDroidPower} {now : Int} (h : WorkerOk s)
    (hstep : s.lockAndWait now = some s') : WorkerOk s' := by
  obtain ⟨loop, hloop, rfl⟩ := GloDroidPower.lockAndWait_eq hstep
  obtain ⟨hphase, rfl⟩ := WaitLoop.startWait_eq hloop
  have hholds := h.holds (by simp [hphase])
  exact ⟨h.seen_le, fun _ => ⟨hholds.boosted, hholds.wakeupPt, rfl⟩⟩

theorem WorkerOk.wake {s s' : GloDroidPower} {call : Option Bool} {now : Int}
    {written : Nat → Bool} (hstep : s.wake now written = some (call, s')) : WorkerOk s' := by
  obtain ⟨loop, hloop, hcase⟩ := GloDroidPower.wake_eq hstep
  obtain ⟨-, ⟨hcount, hview⟩, hshared⟩ := WaitLoop.settled_evaluate hloop
  rcases hcase with ⟨hexit, -, rfl⟩ | ⟨-, -, rfl⟩
  · -- the worker returned: nothing is said about what it holds
    refine ⟨hcount.le, fun hphase => absurd ?_ hphase⟩
    rw [WaitLoop.evaluate_phase hloop, if_pos hexit]
  · refine ⟨hcount.le, fun _ => ?_⟩
    have heval := s.evaluateBoost_holds now written
    rw [← hshared, ← hview] at heval
    exact ⟨heval.lastEval ▸ heval.boosted, heval.lastEval ▸ heval.wakeupPt, rfl⟩

/-- The step lemma for what holds in every run. -/
theorem WorkerOk.next {s s' : GloDroidPower} {step : Int × PowerStep} (h : WorkerOk s)
    (hnext : powerMachine.next s step = some s') : WorkerOk s' := by
  obtain ⟨now, step⟩ := step
  obtain ⟨-, hstep⟩ := PowerStep.next_eq hnext
  cases step with
  | boostFor | boostEn | requestExit => exact h.request rfl hstep
  | lockAndWait => exact h.lockAndWait hstep
  | wake written =>
    obtain ⟨⟨call, s'⟩, hwake, rfl⟩ := Option.map_eq_some_iff.mp hstep
    exact WorkerOk.wake hwake

/-! ## Runs without a request between evaluation and wait -/

/-- The step lemma for the loop. -/
theorem settled_next {s s' : GloDroidPower} {step : Int × PowerStep} (h : s.loop.Settled)
    (hok : NoRequestBetween s step) (hnext : powerMachine.next s step = some s') :
    s'.loop.Settled := by
  obtain ⟨now, step⟩ := step
  obtain ⟨-, hstep⟩ := PowerStep.next_eq hnext
  have hrequest (hreq : step.isRequest = true) : s'.loop.Settled := by
    obtain ⟨-, ⟨-, hsame⟩ | ⟨b, hloop, hchange⟩⟩ := PowerStep.apply_request hreq hstep
    · rwa [hsame]
    · rw [hloop]
      apply h.request
      -- only a change has to find the worker waiting
      by_cases hb : b = s.loop.shared
      · exact Or.inl hb
      · exact Or.inr ⟨rfl, hok (hchange.mpr hb)⟩
  cases step with
  | boostFor | boostEn | requestExit => exact hrequest rfl
  | lockAndWait =>
    obtain ⟨loop, hloop, rfl⟩ := GloDroidPower.lockAndWait_eq hstep
    exact h.startWait hloop
  | wake written =>
    obtain ⟨⟨call, s'⟩, hwake, rfl⟩ := Option.map_eq_some_iff.mp hstep
    obtain ⟨loop, hloop, hcase⟩ := GloDroidPower.wake_eq hwake
    rcases hcase with ⟨-, -, rfl⟩ | ⟨-, -, rfl⟩ <;> exact (WaitLoop.settled_evaluate hloop).1

/-- A settled worker that waits without notice satisfies the property. -/
theorem requestsSeen_of_settled {s : GloDroidPower} (hok : WorkerOk s) (hsettled : s.loop.Settled) :
    RequestsSeen s := by
  intro hphase
  obtain ⟨hcount, hview⟩ := hsettled (Or.inr hphase)
  have hholds := hok.holds (by simp [hphase])
  rw [hview] at hholds
  refine ⟨⟨hcount, hview⟩, ?_, fun hboosted hen => ⟨s.loop.shared.boostEnd, ?_, le_refl _⟩⟩
  · rw [hholds.boosted, BoostShared.boostActive, Bool.or_comm]
  · -- a boost without the mode flag is a timed one, so its end is the wake-up point
    have hactive := hholds.boosted.symm.trans hboosted
    simp [hholds.wakeupPt, BoostShared.nextWakeup, hactive, hen]

/-- **No power request is lost** in a run where no request changes the shared state while the worker
is between an evaluation, or its start, and the next wait. -/
theorem requestsSeen_of_noRequestBetween {s : GloDroidPower}
    (h : powerMachine.ReachableVia NoRequestBetween s) : RequestsSeen s := by
  have hinv : WorkerOk s ∧ s.loop.Settled := by
    refine h.invariant (fun s => WorkerOk s ∧ s.loop.Settled) ?_ ?_
    · rintro s ⟨found, now, hnow, rfl⟩
      exact ⟨workerOk_create found hnow, fun _ => ⟨rfl, rfl⟩⟩
    · rintro s step s' ⟨hok, hsettled⟩ hbetween hnext
      exact ⟨hok.next hnext, settled_next hsettled hbetween hnext⟩
  exact requestsSeen_of_settled hinv.1 hinv.2

/-- One CPU of 480 to 1152 MHz. -/
def oneBooster : DevFreq :=
  .ofFiles (.ofFile "min_freq" (some 480000)) (.ofFile "max_freq" (some 1152000)) true

theorem oneBooster_start : powerMachine.start (.create [oneBooster] 5) :=
  ⟨[oneBooster], 5, by decide, rfl⟩

/-- A touch while the worker waits: it wakes up, boosts and waits for the end of the boost. -/
def touchedPower : GloDroidPower :=
  ((powerMachine.restrict NoRequestBetween).exec (.create [oneBooster] 5)
    [(6, .lockAndWait), (7, .boostFor 50), (8, .wake fun _ => true), (9, .lockAndWait)]).get
    (by decide)

theorem requestsSeen_of_noRequestBetween_touched : RequestsSeen touchedPower :=
  requestsSeen_of_noRequestBetween
    (Machine.reachableVia_of_exec oneBooster_start _)

/-- A mode boost asked for before the worker's first wait. -/
def launchedPower : GloDroidPower :=
  (powerMachine.exec (.create [oneBooster] 5) [(6, .boostEn true), (7, .lockAndWait)]).get
    (by decide)

/-- The worker waits for ever with the boost asked for and not given. -/
theorem launchedPower_lost :
    powerMachine.Reachable launchedPower ∧ launchedPower.loop.shared.boostEn = true ∧
      launchedPower.boosted = false ∧ launchedPower.wakeupPt = none ∧
      ¬ RequestsSeen launchedPower := by
  refine ⟨Machine.reachable_of_exec oneBooster_start _, by decide, by decide,
    by decide, fun hseen => ?_⟩
  exact absurd (hseen (by decide)).2.1 (by decide)

/-- In the other direction: a request that falls in between is lost, whenever the worker waits
before the next one. -/
theorem requestsSeen_fails {s s₁ s₂ : GloDroidPower} (h : powerMachine.Reachable s)
    {step : Int × PowerStep} (hbetween : ¬ NoRequestBetween s step)
    (hrequest : powerMachine.next s step = some s₁) {now : Int}
    (hwait : powerMachine.next s₁ (now, .lockAndWait) = some s₂) : ¬ RequestsSeen s₂ := by
  obtain ⟨t, step⟩ := step
  simp only [NoRequestBetween, Classical.not_imp, not_not] at hbetween
  obtain ⟨hchanges, hphase⟩ := hbetween
  have hseen : s.loop.seen ≤ s.loop.changes := by
    refine (h.invariant WorkerOk ?_ fun s step s' hok _ hnext => hok.next hnext).seen_le
    rintro s ⟨found, now, hnow, rfl⟩
    exact workerOk_create found hnow
  have hreq : step.isRequest = true := by
    cases step <;> first | rfl | simp [PowerStep.changesShared] at hchanges
  obtain ⟨-, ⟨hsame, -⟩ | ⟨b, hloop, hchange⟩⟩ :=
    PowerStep.apply_request hreq (PowerStep.next_eq hrequest).2
  · rw [hsame] at hchanges
    cases hchanges
  · obtain ⟨loop, hstart, rfl⟩ := GloDroidPower.lockAndWait_eq (PowerStep.next_eq hwait).2
    obtain ⟨lost, hlost, hwaiting, hless⟩ :=
      WaitLoop.lost_request true hphase (hchange.mp hchanges) hseen
    rw [hloop, hlost] at hstart
    obtain rfl := Option.some.inj hstart
    intro hproperty
    exact absurd (hproperty hwaiting).1.1 (by simpa using hless.ne)

end GloDroid.Power

import Mathlib.Tactic.Common

/-!
# Condition Variables without a Predicate

A worker that waits on a condition variable without testing a predicate, in a loop: it locks and
waits, wakes up (notified or not), evaluates the shared state and unlocks. Requests change the
shared state under the lock and may notify, which reaches a worker only while it waits.

`WaitLoop` counts the changes and keeps what the worker saw at its last evaluation. The rule of
the file is `WaitLoop.Settled`: as long as every change notifies and none falls between an
evaluation and the next wait, a worker that waits without having been notified has seen every
change.
-/

namespace GloDroid.Base

variable {S : Type*}

/-- Where the worker is in its loop. -/
inductive WaitPhase where
  /-- Without the lock: before the first wait, or between an evaluation and the next wait. -/
  | between
  | waiting (notified : Bool)
  | stopped
  deriving DecidableEq, Repr

/-- The shared state, the worker's place, how often the shared state changed, how many of these
changes the last evaluation saw, and the state it saw. -/
structure WaitLoop (S : Type*) where
  shared : S
  phase : WaitPhase := .between
  changes : Nat := 0
  seen : Nat := 0
  view : S

namespace WaitLoop

/-- The loop before its first wait. -/
def init (s : S) : WaitLoop S := { shared := s, view := s }

/-- Notifying wakes a worker that waits. -/
def WaitPhase.notify : WaitPhase → WaitPhase
  | .waiting _ => .waiting true
  | phase => phase

/-- A request: it puts `s` in the place of the shared state and may notify. -/
def request [DecidableEq S] (w : WaitLoop S) (s : S) (notify : Bool) : WaitLoop S :=
  { w with
    shared := s
    -- storing what is there already is no change
    changes := if s = w.shared then w.changes else w.changes + 1
    phase := if notify then WaitPhase.notify w.phase else w.phase }

/-- The worker takes the lock and starts to wait. -/
def startWait (w : WaitLoop S) : Option (WaitLoop S) :=
  match w.phase with
  -- no predicate is tested: the worker waits whatever has changed
  | .between => some { w with phase := .waiting false }
  | _ => none

/-- The worker wakes up, evaluates the shared state and goes on or stops. -/
def evaluate (w : WaitLoop S) (stop : Bool) : Option (WaitLoop S) :=
  match w.phase with
  | .waiting _ =>
    some { w with
      phase := if stop then .stopped else .between
      seen := w.changes
      view := w.shared }
  | _ => none

/-! ## What the operations leave alone -/

theorem changes_le_request [DecidableEq S] (w : WaitLoop S) (s : S) (notify : Bool) :
    w.changes ≤ (w.request s notify).changes := by
  simp only [request]
  split_ifs
  · exact Nat.le_refl _
  · exact Nat.le_succ _

/-- A request does not stop the worker, nor start it again. -/
theorem stopped_of_request [DecidableEq S] (w : WaitLoop S) (s : S) (notify : Bool)
    (h : (w.request s notify).phase ≠ .stopped) : w.phase ≠ .stopped := by
  intro hphase
  apply h
  cases notify <;> simp [request, WaitPhase.notify, hphase]

theorem startWait_eq {w w' : WaitLoop S} (h : w.startWait = some w') :
    w.phase = .between ∧ w' = { w with phase := .waiting false } := by
  cases hphase : w.phase with
  | between =>
    simp only [startWait, hphase] at h
    exact ⟨rfl, (Option.some.inj h).symm⟩
  | waiting notified => simp [startWait, hphase] at h
  | stopped => simp [startWait, hphase] at h

theorem evaluate_eq {w w' : WaitLoop S} {stop : Bool} (h : w.evaluate stop = some w') :
    w' = { w with
      phase := if stop then .stopped else .between
      seen := w.changes
      view := w.shared } := by
  cases hphase : w.phase with
  | between => simp [evaluate, hphase] at h
  | waiting notified =>
    simp only [evaluate, hphase] at h
    exact (Option.some.inj h).symm
  | stopped => simp [evaluate, hphase] at h

theorem evaluate_phase {w w' : WaitLoop S} {stop : Bool} (h : w.evaluate stop = some w') :
    w'.phase = if stop then .stopped else .between := by
  rw [evaluate_eq h]

/-! ## Seen changes -/

/-- Every change so far was visible to the last evaluation. -/
def UpToDate (w : WaitLoop S) : Prop := w.seen = w.changes ∧ w.view = w.shared

/-- A worker that is about to wait, or waits without having been notified, is up to date. -/
def Settled (w : WaitLoop S) : Prop :=
  w.phase = .between ∨ w.phase = .waiting false → w.UpToDate

/-- A request that changes nothing, or that notifies while the worker is not between an evaluation
and a wait, keeps the worker settled. -/
theorem Settled.request [DecidableEq S] {w : WaitLoop S} {s : S} {notify : Bool} (h : w.Settled)
    (hseen : s = w.shared ∨ (notify = true ∧ w.phase ≠ .between)) :
    (w.request s notify).Settled := by
  intro hphase
  rcases hseen with hsame | ⟨hnotify, hnot⟩
  · -- nothing changed: the worker was settled in the same phase
    have hbefore : w.phase = .between ∨ w.phase = .waiting false := by
      cases hw : w.phase with
      | between => exact Or.inl rfl
      | waiting notified =>
        right
        cases notify <;> simp_all [WaitLoop.request, WaitPhase.notify]
      | stopped => cases notify <;> simp [WaitLoop.request, WaitPhase.notify, hw] at hphase
    obtain ⟨hcount, hview⟩ := h hbefore
    exact ⟨by simp [WaitLoop.request, hsame, hcount], hview.trans hsame.symm⟩
  · -- the worker was waiting, and is notified now
    cases hw : w.phase with
    | between => exact absurd hw hnot
    | waiting notified => simp [WaitLoop.request, hnotify, WaitPhase.notify, hw] at hphase
    | stopped => simp [WaitLoop.request, hnotify, WaitPhase.notify, hw] at hphase

theorem Settled.startWait {w w' : WaitLoop S} (h : w.Settled) (hw : w.startWait = some w') :
    w'.Settled := by
  obtain ⟨hphase, rfl⟩ := startWait_eq hw
  exact fun _ => h (Or.inl hphase)

/-- An evaluation brings the worker up to date, whatever happened before. -/
theorem settled_evaluate {w w' : WaitLoop S} {stop : Bool} (hw : w.evaluate stop = some w') :
    w'.Settled ∧ w'.UpToDate ∧ w'.shared = w.shared := by
  rw [evaluate_eq hw]
  exact ⟨fun _ => ⟨rfl, rfl⟩, ⟨rfl, rfl⟩, rfl⟩

/-- **The lost wake-up**: a change between an evaluation and the next wait leaves the worker waiting
without notice of it. -/
theorem lost_request [DecidableEq S] {w : WaitLoop S} {s : S} (notify : Bool)
    (hphase : w.phase = .between) (hchange : s ≠ w.shared) (hseen : w.seen ≤ w.changes) :
    ∃ w', (w.request s notify).startWait = some w' ∧ w'.phase = .waiting false ∧
      w'.seen < w'.changes := by
  refine ⟨{ w.request s notify with phase := .waiting false }, ?_, rfl, ?_⟩
  · cases notify <;> simp [WaitLoop.request, WaitLoop.startWait, WaitPhase.notify, hphase]
  · simp only [WaitLoop.request, if_neg hchange]
    omega

end WaitLoop

end GloDroid.Base

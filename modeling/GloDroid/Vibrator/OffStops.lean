import GloDroid.Vibrator.Vibrator

/-!
# What `off` Stops

`off` removes the effect that was played last. It does not know of the thread of a composition,
which goes on with its next primitive. So the vibrator stays silent after `off` exactly when no
composition has an effect ahead at that time (`off_silences`).
-/

namespace GloDroid.Vibrator

open GloDroid.Base

/-! ## The condition -/

/-- The operation uploads or plays an effect if the driver takes it. -/
def ThreadOp.mayTrigger : ThreadOp → Bool
  | .upload _ => true
  | .play _ => true
  | _ => false

/-- No effect is ahead of the thread. -/
def Silent (thread : List ThreadOp) : Prop := ∀ op ∈ thread, op.mayTrigger = false

instance (thread : List ThreadOp) : Decidable (Silent thread) :=
  inferInstanceAs (Decidable (∀ op ∈ thread, op.mayTrigger = false))

/-- No effect is ahead of the rest of a call, or of the threads it starts. -/
def CallOp.Silent : CallOp → Prop
  | .own op => op.mayTrigger = false
  | .spawn thread => Vibrator.Silent thread
  | .answer _ => True

/-- In this step `off` returns. -/
def VibratorState.offReturns (s : VibratorState) : VibratorStep → Bool
  | .call _ =>
    match s.callOps with
    | .answer _ :: _ => s.call = some .off
    | _ => false
  | _ => false

/-- Where `off` returns, no effect is ahead of any thread. -/
def NothingAhead (s : VibratorState) (step : VibratorStep) : Prop :=
  s.offReturns step = true → ∀ thread ∈ s.threads, Silent thread

instance (s : VibratorState) (step : VibratorStep) : Decidable (NothingAhead s step) :=
  inferInstanceAs (Decidable (s.offReturns step = true → ∀ thread ∈ s.threads, Silent thread))

/-! ## Silence -/

variable {s s' : VibratorState}

theorem triggers_of_silent {op : ThreadOp} (h : op.mayTrigger = false) (result : Option Int) :
    op.triggers result = false := by
  cases op <;> first | rfl | cases h

theorem run_silent {op : ThreadOp} (h : op.mayTrigger = false) (d : FFDevice)
    (result : Option Int) : Silent (d.run result op).2 := by
  cases op with
  | off =>
    simp only [FFDevice.run]
    split_ifs <;> simp [Silent, ThreadOp.mayTrigger]
  | upload length => cases h
  | play code => cases h
  | _ => simp [FFDevice.run, Silent]

/-- An operation of a silent thread leaves it silent. -/
theorem silent_run_append {op : ThreadOp} {rest : List ThreadOp} (h : Silent (op :: rest))
    (d : FFDevice) (result : Option Int) : Silent ((d.run result op).2 ++ rest) := by
  obtain ⟨hop, hrest⟩ := List.forall_mem_cons.mp h
  exact List.forall_mem_append.mpr ⟨run_silent hop d result, hrest⟩

/-- While the vibrator is silenced, no effect is ahead of anyone. -/
structure Silenced (s : VibratorState) : Prop where
  undisturbed : s.disturbed = false
  call : s.silenced = true → ∀ op ∈ s.callOps, op.Silent
  threads : s.silenced = true → ∀ thread ∈ s.threads, Silent thread

theorem runOp_disturbed (hs : s.disturbed = false) {result : Option Int} {op : ThreadOp}
    (hop : s.silenced = true → op.mayTrigger = false) : (s.runOp result op).disturbed = false := by
  cases hsilenced : s.silenced with
  | false => simp [VibratorState.runOp, hs, hsilenced]
  | true =>
    simp [VibratorState.runOp, hs, triggers_of_silent (hop hsilenced)]

theorem silenced_next {step : VibratorStep} (hs : Silenced s) (hahead : NothingAhead s step)
    (hnext : vibratorMachine.next s step = some s') : Silenced s' := by
  cases stepsTo_of_next hnext with
  | begin call =>
    refine ⟨hs.undisturbed, ?_, ?_⟩
    · -- of the calls only `off` leaves the vibrator silenced
      intro hsilenced
      simp only [Bool.and_eq_true, decide_eq_true_eq] at hsilenced
      obtain ⟨-, rfl⟩ := hsilenced
      simp [VibratorCall.ops, off, CallOp.Silent, ThreadOp.mayTrigger]
    · intro hsilenced
      simp only [Bool.and_eq_true] at hsilenced
      exact hs.threads hsilenced.1
  | @own op rest hops result =>
    have hcall := hs.call
    rw [hops] at hcall
    refine ⟨runOp_disturbed hs.undisturbed fun h => hcall h _ List.mem_cons_self, ?_, hs.threads⟩
    -- what takes the place of the operation triggers nothing either
    intro hsilenced op' hop'
    have hop := hcall hsilenced (.own op) List.mem_cons_self
    rcases List.mem_append.mp hop' with hop' | hop'
    · obtain ⟨op', hmem, rfl⟩ := List.mem_map.mp hop'
      exact run_silent hop s.device result op' hmem
    · exact hcall hsilenced op' (List.mem_cons_of_mem _ hop')
  | @spawn thread rest hops result =>
    have hcall := hs.call
    rw [hops] at hcall
    refine ⟨hs.undisturbed, fun h op hop => hcall h op (List.mem_cons_of_mem _ hop), ?_⟩
    intro hsilenced t ht
    rcases List.mem_append.mp ht with ht | ht
    · exact hs.threads hsilenced t ht
    · obtain rfl := List.mem_singleton.mp ht
      exact hcall hsilenced _ List.mem_cons_self
  | answer hops result =>
    refine ⟨hs.undisturbed, by simp, ?_⟩
    -- the condition is needed where `off` returns
    intro hsilenced
    simp only [Bool.or_eq_true, decide_eq_true_eq] at hsilenced
    rcases hsilenced with hsilenced | hoff
    · exact hs.threads hsilenced
    · exact hahead (by simp [VibratorState.offReturns, hops, hoff])
  | @thread i op rest hthread result =>
    have hmem := List.mem_of_getElem? hthread
    refine ⟨?_, hs.call, ?_⟩
    · apply runOp_disturbed hs.undisturbed
      exact fun hsilenced => hs.threads hsilenced _ hmem op List.mem_cons_self
    · intro hsilenced t ht
      rcases List.mem_or_eq_of_mem_set ht with ht | rfl
      · exact hs.threads hsilenced t ht
      · exact silent_run_append (hs.threads hsilenced _ hmem) s.device result

/-! ## Disturbance -/

/-- The steps of one thread. -/
def StepsOf (i : Nat) (steps : List VibratorStep) : Prop :=
  ∀ step ∈ steps, ∃ result, step = .thread i result

/-- A step of a thread. -/
theorem run_thread {i : Nat} {op : ThreadOp} {rest : List ThreadOp}
    (h : s.threads[i]? = some (op :: rest)) (result : Option Int) :
    ∃ t, vibratorMachine.Run s [.thread i result] t ∧
      t.threads[i]? = some ((s.device.run result op).2 ++ rest) ∧ t.silenced = s.silenced ∧
      t.disturbed = (s.disturbed || s.silenced && op.triggers result) := by
  have hlt : i < s.threads.length := (List.getElem?_eq_some_iff.mp h).1
  have hnext : vibratorMachine.next s (.thread i result) = some { s.runOp result op with
      threads := s.threads.set i ((s.device.run result op).2 ++ rest) } := by
    simp only [vibratorMachine, VibratorState.next, h]
  exact ⟨_, .cons hnext (.nil _), List.getElem?_set_self hlt, rfl, rfl⟩

theorem stepsOf_singleton (i : Nat) (result : Option Int) : StepsOf i [.thread i result] := by
  simp [StepsOf]

/-- A thread gets past operations that are not followed by others. -/
theorem run_past_ops {i : Nat} {ops rest : List ThreadOp}
    (h : s.threads[i]? = some (ops ++ rest))
    (hops : ∀ op ∈ ops, ∀ d : FFDevice, (d.run none op).2 = []) :
    ∃ steps t, vibratorMachine.Run s steps t ∧ StepsOf i steps ∧ t.threads[i]? = some rest ∧
      t.silenced = s.silenced := by
  induction ops generalizing s with
  | nil => exact ⟨[], s, .nil s, by simp [StepsOf], h, rfl⟩
  | cons op ops ih =>
    obtain ⟨hop, hops⟩ := List.forall_mem_cons.mp hops
    obtain ⟨t, hrun, hthread, hsame, -⟩ := run_thread h none
    rw [hop s.device] at hthread
    obtain ⟨steps, t', hrun', hsteps, hrest, hsame'⟩ := ih hthread hops
    exact ⟨_, t', hrun.append hrun', List.forall_mem_append.mpr ⟨stepsOf_singleton i none, hsteps⟩,
      hrest, hsame'.trans hsame⟩

/-- A thread gets past an operation that triggers nothing. -/
theorem run_past {i : Nat} {op : ThreadOp} {rest : List ThreadOp}
    (h : s.threads[i]? = some (op :: rest)) (hop : op.mayTrigger = false) :
    ∃ steps t, vibratorMachine.Run s steps t ∧ StepsOf i steps ∧ t.threads[i]? = some rest ∧
      t.silenced = s.silenced := by
  cases op with
  | off =>
    -- the removal of the last effect may follow
    obtain ⟨t, hrun, hthread, hsame, -⟩ := run_thread h none
    have hops : ∀ op ∈ (s.device.run none .off).2, ∀ d : FFDevice, (d.run none op).2 = [] := by
      simp only [FFDevice.run]
      split_ifs <;> simp
    obtain ⟨steps, t', hrun', hsteps, hrest, hsame'⟩ := run_past_ops hthread hops
    exact ⟨_, t', hrun.append hrun', List.forall_mem_append.mpr ⟨stepsOf_singleton i none, hsteps⟩,
      hrest, hsame'.trans hsame⟩
  | upload length => cases hop
  | play code => cases hop
  | _ =>
    exact run_past_ops (show s.threads[i]? = some ([_] ++ rest) from h) (by simp [FFDevice.run])

/-- A thread with an effect ahead disturbs the vibrator when it runs alone. -/
theorem thread_disturbs {i : Nat} {thread : List ThreadOp} (h : s.threads[i]? = some thread)
    (hahead : ¬ Silent thread) (hsilenced : s.silenced = true) :
    ∃ steps t, vibratorMachine.Run s steps t ∧ StepsOf i steps ∧ t.disturbed = true := by
  induction thread generalizing s with
  | nil => simp [Silent] at hahead
  | cons op rest ih =>
    cases hop : op.mayTrigger with
    | true =>
      -- the driver takes the effect
      obtain ⟨t, hrun, -, -, hdisturbed⟩ := run_thread h (some 0)
      refine ⟨_, t, hrun, stepsOf_singleton i (some 0), ?_⟩
      have htriggers : op.triggers (some 0) = true := by
        cases op <;> first | rfl | cases hop
      simp [hdisturbed, hsilenced, htriggers]
    | false =>
      obtain ⟨steps, t, hrun, hsteps, hrest, hsame⟩ := run_past h hop
      have hahead' : ¬ Silent rest := by
        intro hsilent
        exact hahead (List.forall_mem_cons.mpr ⟨hop, hsilent⟩)
      obtain ⟨steps', t', hrun', hsteps', hdisturbed⟩ := ih hrest hahead' (hsame.trans hsilenced)
      refine ⟨steps ++ steps', t', hrun.append hrun', ?_, hdisturbed⟩
      exact List.forall_mem_append.mpr ⟨hsteps, hsteps'⟩

theorem next_of_offReturns {step : VibratorStep} (h : s.offReturns step = true)
    (hnext : vibratorMachine.next s step = some s') :
    s'.threads = s.threads ∧ s'.silenced = true := by
  cases stepsTo_of_next hnext with
  | begin | thread => cases h
  | own hops | spawn hops =>
    simp only [VibratorState.offReturns, hops] at h
    cases h
  | answer hops result =>
    simp only [VibratorState.offReturns, hops] at h
    exact ⟨rfl, by simp [of_decide_eq_true h]⟩

/-- As long as no thread has an effect ahead when `off` returns, no effect is uploaded or played
after `off` has returned until another call begins. Where a thread does have one, it goes on to
upload or to play it, if it runs alone. -/
theorem off_silences (h : vibratorMachine.ReachableVia NothingAhead s) :
    s.disturbed = false ∧
    ∀ step s', ¬ NothingAhead s step → vibratorMachine.next s step = some s' →
      ∃ i steps t, vibratorMachine.Run s' steps t ∧ StepsOf i steps ∧ t.disturbed = true := by
  constructor
  · have hs : Silenced s := by
      apply h.invariant
      · rintro s rfl
        exact ⟨rfl, by simp, by simp⟩
      · intro s step s' hs hahead hnext
        exact silenced_next hs hahead hnext
    exact hs.undisturbed
  · intro step s' hahead hnext
    simp only [NothingAhead, Classical.not_imp, not_forall] at hahead
    obtain ⟨hreturns, thread, hmem, hthread⟩ := hahead
    obtain ⟨i, hi⟩ := List.getElem?_of_mem hmem
    obtain ⟨hthreads, hsilenced⟩ := next_of_offReturns hreturns hnext
    obtain ⟨steps, t, hrun, hsteps, hdisturbed⟩ :=
      thread_disturbs (hthreads ▸ hi) hthread hsilenced
    exact ⟨i, steps, t, hrun, hsteps, hdisturbed⟩

/-- A composition of two clicks. -/
def twoClicks : VibratorCall :=
  .compose [⟨0, .click, .number 1⟩, ⟨200, .click, .number 1⟩] false

/-- The thread of the composition has played the first click. -/
def firstClick : List VibratorStep :=
  [.begin twoClicks, .call none, .call none, .thread 0 none, .thread 0 (some 0), .thread 0 none,
    .thread 0 (some 0)]

/-- `off` is called and returns. -/
def callOff : List VibratorStep :=
  [.begin .off, .call none, .call none, .call none, .call none]

/-- The second click is played as well before `off` is called. -/
def playedOut : VibratorState :=
  ((vibratorMachine.restrict NothingAhead).exec {}
    (firstClick ++ [.thread 0 none, .thread 0 none, .thread 0 none, .thread 0 none,
      .thread 0 none, .thread 0 (some 0), .thread 0 none, .thread 0 (some 0)] ++ callOff)).get
    (by decide +kernel)

theorem off_silences_playedOut :
    playedOut.silenced = true ∧ playedOut.disturbed = false ∧
    ∀ step s', ¬ NothingAhead playedOut step → vibratorMachine.next playedOut step = some s' →
      ∃ i steps t, vibratorMachine.Run s' steps t ∧ StepsOf i steps ∧ t.disturbed = true :=
  ⟨by decide +kernel, off_silences (Machine.reachableVia_of_exec rfl _)⟩

/-- `off` is called after the first click. -/
def cutShort : VibratorState :=
  (vibratorMachine.exec {}
    (firstClick ++ callOff ++ [.thread 0 none, .thread 0 none, .thread 0 none,
      .thread 0 (some 0)])).get (by decide +kernel)

/-- The second click is uploaded after `off` has returned. -/
theorem cutShort_disturbed :
    vibratorMachine.Reachable cutShort ∧ cutShort.silenced = true ∧ cutShort.disturbed = true :=
  ⟨Machine.reachable_of_exec rfl _, by decide +kernel, by decide +kernel⟩

end GloDroid.Vibrator

import GloDroid.UsbHal.Locks

/-!
# Stopping the Worker

`setCallback` with a null callback signals the worker and joins it while it holds `mLock`. The join
does not return if the worker

- waits for `mLock`, which `queryVersionHelper` takes for every message about a Type-C port, or
- waits in `epoll_wait` after the signal handler has run: the handler sets a flag that the worker
  reads only before it enters `epoll_wait`.

Neither state is reached in runs in which the worker stays away from `mLock` while it is being
stopped, and the handler does not run just before `epoll_wait` (`notStuck_of_undisturbed`). Every
step that breaks this condition can be followed by one of the two states (`stuck_of_disturbed`), and
the first of them is final: no step of any thread leaves it (`joinStuck_forever`).
-/

namespace GloDroid.UsbHal

open GloDroid.Base

namespace Usb

/-- A thread joins the worker while the worker waits for a mutex of that thread. -/
def JoinStuck (s : Usb) : Prop :=
  ∃ i rest m, s.threads i = .joinWorker :: rest ∧ s.worker.waitsFor = some m ∧
    s.owner m = some (.binder i)

/-- A thread joins the worker while the worker waits in `epoll_wait`, with its flag set and no
message. -/
def JoinAsleep (s : Usb) : Prop :=
  ∃ i rest, s.threads i = .joinWorker :: rest ∧ s.worker = .epoll ∧ s.destroyThread = true ∧
    s.uevents = []

/-! ## The condition -/

/-- The next operation of thread `i` is a `setCallback` that will stop the worker. -/
def beginsStop (s : Usb) (i : Nat) : Bool :=
  match s.threads i with
  | .setCallback false :: _ => s.mCallback
  | _ => false

/-- The owner of `mLock` is stopping the worker. -/
def stopping (s : Usb) : Bool :=
  match s.owner .mLock with
  | some (.binder i) =>
    match s.threads i with
    | op :: _ => op.stopsWorker
    | [] => false
  | _ => false

/-- The worker comes to a line about a Type-C port. -/
def atTypec (s : Usb) : Bool :=
  match s.worker with
  | .lines (.typec :: _) => true
  | _ => false

/-- The worker does not want `mLock` when it is going to be stopped, nor later, and its signal
handler does not run between the check of `destroyThread` and `epoll_wait`, or else there is a
message. -/
def Undisturbed (s : Usb) : UsbStep → Prop
  | .perform i _ => s.beginsStop i = true → s.worker ≠ .lockMLock
  | .worker _ => s.atTypec = true → s.stopping = false
  | .sighandler => s.worker = .beforeEpoll → s.uevents ≠ []
  | .beginCall _ _ | .uevent _ => True

instance (s : Usb) : (step : UsbStep) → Decidable (s.Undisturbed step)
  | .perform _ _ | .worker _ | .sighandler => inferInstanceAs (Decidable (_ → _))
  | .beginCall _ _ | .uevent _ => inferInstanceAs (Decidable True)

/-! ## The invariant -/

/-- Nobody who stops the worker keeps it from `mLock`, and it does not fall asleep with its flag
set. -/
structure Clear (s : Usb) : Prop where
  stops : ∀ i, s.Stops i → s.worker ≠ .lockMLock
  awake : s.destroyThread = true → s.worker = .beforeEpoll ∨ s.worker = .epoll → s.uevents ≠ []

variable {s s' : Usb}

theorem stops_congr {i : Nat} (hthreads : s'.threads = s.threads) (h : s'.Stops i) : s.Stops i := by
  rw [Stops, hthreads] at h
  exact h

/-- A thread that stops the worker is seen at the owner of `mLock`. -/
theorem stopping_of_stops {i : Nat} (h : LocksOk s) (hstops : s.Stops i) : s.stopping = true := by
  have howner := (h.owner_of_stops hstops .mLock).mpr rfl
  obtain ⟨op, rest, hscript, hop⟩ := hstops
  simp only [stopping, howner, hscript]
  exact hop

theorem eq_lockMLock_of_waitsFor {pc : WorkerPc} (h : pc.waitsFor = some .mLock) :
    pc = .lockMLock := by
  cases pc with
  | lockMLock => rfl
  | lockPartner rest => simp [WorkerPc.waitsFor] at h
  | _ => cases h

theorem Clear.beginCall {i : Nat} {call : BinderCall} (h : Clear s)
    (hstep : s.beginCall i call = some s') : Clear s' := by
  simp only [Usb.beginCall] at hstep
  split_ifs at hstep
  obtain rfl := Option.some.inj hstep
  refine ⟨fun j hstops => h.stops j ?_, h.awake⟩
  obtain ⟨op, rest, hscript, hop⟩ := hstops
  simp only [goOn] at hscript
  by_cases hj : j = i
  · -- no call begins with stopping the worker
    subst hj
    rw [Function.update_self] at hscript
    obtain ⟨-, -, hnever⟩ := valid_script call
    have hnot := hnever op (by simp [hscript])
    rw [hop] at hnot
    cases hnot
  · rw [Function.update_of_ne hj] at hscript
    exact ⟨op, rest, hscript, hop⟩

/-- What an operation of thread `i` can do to the worker, and when it leads to stopping it. -/
theorem executesTo_frame {i : Nat} {op : BinderOp} {rest : List BinderOp}
    (hscript : s.threads i = op :: rest) (hlater : ∀ later ∈ rest, later.stopsWorker = false)
    (hexec : s.ExecutesTo i rest op s') :
    (s'.worker = s.worker ∨ op.handlesWorker = true ∧ s'.worker = .starting) ∧
      s'.uevents = s.uevents ∧
      (s'.destroyThread = true → s.destroyThread = true) ∧
      ∃ script, s'.threads = Function.update s.threads i script ∧
        ∀ next rest', script = next :: rest' → next.stopsWorker = true →
          op.stopsWorker = true ∨ s.beginsStop i = true := by
  -- going on with the rest stops nothing
  have hrest : ∀ next rest', rest = next :: rest' → next.stopsWorker = true →
      op.stopsWorker = true ∨ s.beginsStop i = true := by
    intro next rest' heq hnext
    have hnot := hlater next (by simp [heq])
    rw [hnext] at hnot
    cases hnot
  cases hexec with
  | lock | unlock | notSignalled | joined | partnerDown | waited =>
    exact ⟨Or.inl rfl, rfl, id, rest, rfl, hrest⟩
  | setCallback inCallback =>
    refine ⟨Or.inl rfl, rfl, id, _, rfl, fun next rest' heq hnext => Or.inr ?_⟩
    -- only the change from a callback to none stops the worker
    cases hin : inCallback <;> cases hcb : s.mCallback <;>
      simp [callbackChange, hin, hcb] at heq <;> obtain ⟨rfl, -⟩ := heq <;>
      simp [BinderOp.stopsWorker] at hnext
    simp [beginsStop, hscript, hin, hcb]
  | signalled => exact ⟨Or.inl rfl, rfl, id, _, rfl, fun _ _ _ _ => Or.inl rfl⟩
  | started => exact ⟨Or.inr ⟨rfl, rfl⟩, rfl, (fun hflag => by cases hflag), rest, rfl, hrest⟩
  | notStarted => exact ⟨Or.inl rfl, rfl, (fun hflag => by cases hflag), rest, rfl, hrest⟩
  | waitPartner | waitsAgain =>
    refine ⟨Or.inl rfl, rfl, id, _, rfl, fun next rest' heq hnext => ?_⟩
    obtain ⟨rfl, -⟩ := List.cons.inj heq
    cases hnext

theorem Clear.perform {i : Nat} {env : OpEnv} (h : Clear s) (hlocks : LocksOk s)
    (hok : s.beginsStop i = true → s.worker ≠ .lockMLock)
    (hstep : s.perform i env = some s') : Clear s' := by
  obtain ⟨op, rest, hscript, hexec⟩ := perform_eq hstep
  have hvalid := hlocks.valid i
  rw [hscript] at hvalid
  obtain ⟨hworker, huevents, hdestroy, script, hthreads, hnext⟩ :=
    executesTo_frame hscript hvalid.2.1 hexec
  rcases hworker with hworker | ⟨-, hworker⟩
  · refine ⟨fun j hstops => ?_, fun hflag hpc => ?_⟩
    · rw [hworker]
      obtain ⟨next, rest', hscript', hop⟩ := hstops
      rw [hthreads] at hscript'
      by_cases hj : j = i
      · subst hj
        rw [Function.update_self] at hscript'
        rcases hnext next rest' hscript' hop with hstops | hbegins
        · exact h.stops j ⟨op, rest, hscript, hstops⟩
        · exact hok hbegins
      · rw [Function.update_of_ne hj] at hscript'
        exact h.stops j ⟨next, rest', hscript', hop⟩
    · rw [huevents]
      exact h.awake (hdestroy hflag) (hworker ▸ hpc)
  · -- a new worker is neither at `mLock` nor near `epoll_wait`
    refine ⟨fun j _ => ?_, fun _ hpc => ?_⟩
    · simp [hworker]
    · simp [hworker] at hpc

theorem Clear.workerStep {ok : Bool} (h : Clear s) (hlocks : LocksOk s)
    (hok : s.atTypec = true → s.stopping = false) (hstep : s.workerStep ok = some s') :
    Clear s' := by
  have hmoved := workerStep_moved hstep
  refine ⟨fun i hstops hpc => ?_, fun hflag hpc => ?_⟩
  · -- the worker wants `mLock` now, so nobody is stopping it
    obtain ⟨rest, hline⟩ := hmoved.wantsLock hpc
    have hfree := hok (by simp [atTypec, hline])
    rw [stopping_of_stops hlocks (stops_congr hmoved.threads hstops)] at hfree
    cases hfree
  · rw [hmoved.destroyThread] at hflag
    rcases hpc with hpc | hpc
    · -- it found the flag clear
      rw [hmoved.checked hpc] at hflag
      cases hflag
    · obtain ⟨hbefore, huevents⟩ := hmoved.waits hpc
      rw [huevents]
      exact h.awake hflag (Or.inl hbefore)

theorem Clear.sighandler (h : Clear s) (hok : s.worker = .beforeEpoll → s.uevents ≠ [])
    (hstep : s.sighandler = some s') : Clear s' := by
  simp only [Usb.sighandler] at hstep
  split_ifs at hstep with hpending hepoll <;> obtain rfl := Option.some.inj hstep
  · -- `epoll_wait` is interrupted
    exact ⟨fun _ _ => by simp, fun _ hpc => by simp at hpc⟩
  · refine ⟨h.stops, fun _ hpc => ?_⟩
    exact hok (hpc.resolve_right hepoll)

/-- The step lemma. -/
theorem Clear.next {step : UsbStep} (h : Clear s) (hlocks : LocksOk s) (hok : s.Undisturbed step)
    (hnext : usbMachine.next s step = some s') : Clear s' := by
  cases step with
  | beginCall i call => exact h.beginCall hnext
  | perform i env => exact h.perform hlocks hok hnext
  | worker ok => exact h.workerStep hlocks hok hnext
  | sighandler => exact h.sighandler hok hnext
  | uevent msg =>
    obtain rfl := Option.some.inj hnext
    exact ⟨h.stops, fun _ _ => by simp⟩

/-- **No deadlock** in every run in which the worker does not want `mLock` while it is being stopped
and its signal handler does not run just before `epoll_wait`. -/
theorem notStuck_of_undisturbed {s : Usb} (h : usbMachine.ReachableVia Undisturbed s) :
    ¬ s.JoinStuck ∧ ¬ s.JoinAsleep := by
  -- along the run the condition keeps the worker clear of both deadlocks
  have hinv : LocksOk s ∧ Clear s := by
    refine ⟨locksOk_of_reachable h.reachable, ?_⟩
    refine (h.invariant (fun s => LocksOk s ∧ Clear s) ?_ ?_).2
    · rintro s rfl
      exact ⟨locksOk_of_reachable (.start rfl), fun _ _ => by simp, fun hflag => by simp at hflag⟩
    · rintro s step s' ⟨hlocks, hclear⟩ hok hnext
      exact ⟨hlocks.next hnext, hclear.next hlocks hok hnext⟩
  obtain ⟨hlocks, hclear⟩ := hinv
  constructor
  · rintro ⟨i, rest, m, hscript, hwaits, howner⟩
    have hstops : s.Stops i := ⟨_, rest, hscript, rfl⟩
    obtain rfl := (hlocks.owner_of_stops hstops m).mp howner
    exact hclear.stops i hstops (eq_lockMLock_of_waitsFor hwaits)
  · rintro ⟨i, rest, -, hpc, hflag, hnone⟩
    exact hclear.awake hflag (Or.inr hpc) hnone

/-- Thread 0 sets a callback and the new worker comes to `epoll_wait`. -/
def startSteps : List UsbStep :=
  [.beginCall 0 (.setCallback true), .perform 0 {}, .perform 0 {}, .perform 0 {}, .worker true,
    .worker true]

/-- Thread 0 clears the callback and signals the worker. -/
def stopSteps : List UsbStep :=
  [.beginCall 0 (.setCallback false), .perform 0 {}, .perform 0 {}]

/-- A message about a port is handled, then the worker is stopped: the signal interrupts
`epoll_wait` and thread 0 waits for the worker to return. -/
def stoppedUsb : Usb :=
  ((usbMachine.restrict Undisturbed).exec {}
    (startSteps ++ [.worker true, .uevent [.other, .typec]] ++ List.replicate 9 (.worker true) ++
      stopSteps ++ [.sighandler, .worker true])).get (by decide)

theorem notStuck_of_undisturbed_stopped :
    stoppedUsb.threads 0 = [.joinWorker, .unlock .mLock] ∧ stoppedUsb.worker = .exited ∧
      ¬ stoppedUsb.JoinStuck ∧ ¬ stoppedUsb.JoinAsleep :=
  ⟨by decide, by decide, notStuck_of_undisturbed (Machine.reachableVia_of_exec usbMachine_start _)⟩

/-! ## The deadlocks -/

/-- **A join that is stuck stays stuck**, whatever any thread does. -/
theorem joinStuck_forever {step : UsbStep} (hlocks : LocksOk s) (hstuck : s.JoinStuck)
    (hnext : usbMachine.next s step = some s') : s'.JoinStuck := by
  obtain ⟨i, rest, m, hscript, hwaits, howner⟩ := hstuck
  have hstops : s.Stops i := ⟨_, rest, hscript, rfl⟩
  obtain rfl := (hlocks.owner_of_stops hstops m).mp howner
  -- the joining thread keeps its lock as long as its script stays
  suffices hsame : s'.threads i = s.threads i ∧ s'.worker = s.worker by
    rw [hscript] at hsame
    have hstops' : s'.Stops i := ⟨_, rest, hsame.1, rfl⟩
    have howner' := ((hlocks.next hnext).owner_of_stops hstops' .mLock).mpr rfl
    exact ⟨i, rest, .mLock, hsame.1, hsame.2 ▸ hwaits, howner'⟩
  have hpc : s.worker = .lockMLock := eq_lockMLock_of_waitsFor hwaits
  cases step with
  | beginCall j call =>
    simp only [usbMachine, Usb.beginCall] at hnext
    split_ifs at hnext with hidle
    obtain rfl := Option.some.inj hnext
    refine ⟨Function.update_of_ne ?_ _ _, rfl⟩
    rintro rfl
    simp [hscript] at hidle
  | perform j env =>
    obtain ⟨op, rest', hscript', hexec⟩ := perform_eq hnext
    have hne : i ≠ j := by
      rintro rfl
      -- the join has to wait
      obtain ⟨rfl, -⟩ := List.cons.inj (hscript.symm.trans hscript')
      cases hexec with
      | joined hexited =>
        rw [hpc] at hexited
        cases hexited
    have hvalid := hlocks.valid j
    rw [hscript'] at hvalid
    obtain ⟨hworker, -, -, script, hthreads, -⟩ := executesTo_frame hscript' hvalid.2.1 hexec
    refine ⟨by rw [hthreads, Function.update_of_ne hne], ?_⟩
    rcases hworker with hworker | ⟨hhandles, -⟩
    · exact hworker
    · -- only the owner of `mLock` starts a worker
      exact absurd (hlocks.eq_of_handlesWorker hstops hscript' hhandles) hne
  | worker ok => simp [usbMachine, Usb.workerStep, hpc, howner] at hnext
  | sighandler =>
    simp only [usbMachine, Usb.sighandler] at hnext
    split_ifs at hnext with hpending hepoll <;> obtain rfl := Option.some.inj hnext
    · rw [hpc] at hepoll
      cases hepoll
    · exact ⟨rfl, rfl⟩
  | uevent msg =>
    obtain rfl := Option.some.inj hnext
    exact ⟨rfl, rfl⟩

/-! ## What breaks the condition -/

/-- A signal is sent by a thread that joins the worker. -/
def SignalOk (s : Usb) : Prop :=
  s.signalPending = true → s.worker ≠ .exited → ∃ i rest, s.threads i = .joinWorker :: rest

/-- A signal that is pending after an operation was pending before, or is sent by it. -/
theorem executesTo_signal {i : Nat} {op : BinderOp} {rest : List BinderOp}
    (hexec : s.ExecutesTo i rest op s') (hpending : s'.signalPending = true)
    (hworker : s'.worker ≠ .exited) :
    (∃ rest', s'.threads i = .joinWorker :: rest') ∨
      s.signalPending = true ∧ s.worker ≠ .exited ∧ op ≠ .joinWorker := by
  cases hexec with
  | notSignalled hexited | joined hexited => exact absurd hexited hworker
  | signalled => exact Or.inl ⟨rest, Function.update_self ..⟩
  | started =>
    -- the new worker has no signal yet
    cases hpending
  | lock | unlock | setCallback | notStarted | partnerDown | waitPartner | waited | waitsAgain =>
    exact Or.inr ⟨hpending, hworker, by simp⟩

theorem SignalOk.next {step : UsbStep} (h : SignalOk s) (hlocks : LocksOk s)
    (hnext : usbMachine.next s step = some s') : SignalOk s' := by
  intro hpending hworker
  cases step with
  | beginCall i call =>
    simp only [usbMachine, Usb.beginCall] at hnext
    split_ifs at hnext with hidle
    obtain rfl := Option.some.inj hnext
    obtain ⟨j, rest, hscript⟩ := h hpending hworker
    refine ⟨j, rest, (Function.update_of_ne ?_ _ _).trans hscript⟩
    rintro rfl
    simp [hscript] at hidle
  | perform i env =>
    obtain ⟨op, rest, hscript, hexec⟩ := perform_eq hnext
    rcases executesTo_signal hexec hpending hworker with hjoins | ⟨hpending', hworker', hop⟩
    · exact ⟨i, hjoins⟩
    · -- the thread that joins is another one, and keeps its script
      obtain ⟨j, rest', hjoins⟩ := h hpending' hworker'
      have hne : j ≠ i := by
        rintro rfl
        exact hop (List.cons.inj (hscript.symm.trans hjoins)).1
      have hvalid := hlocks.valid i
      rw [hscript] at hvalid
      obtain ⟨-, -, -, script, hthreads, -⟩ := executesTo_frame hscript hvalid.2.1 hexec
      exact ⟨j, rest', by rw [hthreads, Function.update_of_ne hne, hjoins]⟩
  | worker ok =>
    have hmoved := workerStep_moved hnext
    rw [hmoved.threads]
    exact h (hmoved.signalPending ▸ hpending) hmoved.running
  | sighandler =>
    simp only [usbMachine, Usb.sighandler] at hnext
    split_ifs at hnext <;> obtain rfl := Option.some.inj hnext <;> cases hpending
  | uevent msg =>
    obtain rfl := Option.some.inj hnext
    exact h hpending hworker

theorem signalOk_of_reachable (h : usbMachine.Reachable s) : SignalOk s := by
  refine (h.invariant (fun s => LocksOk s ∧ SignalOk s) ?_ ?_).2
  · rintro s rfl
    exact ⟨locksOk_of_reachable (.start rfl), fun hpending => by simp at hpending⟩
  · rintro s step s' ⟨hlocks, hsignal⟩ - hnext
    exact ⟨hlocks.next hnext, hsignal.next hlocks hnext⟩

/-- Who stops a worker that wants `mLock` gets stuck in the join. -/
theorem joinStuck_of_stops {i : Nat} (hlocks : LocksOk s) (hstops : s.Stops i)
    (hpc : s.worker = .lockMLock) : ∃ steps t, usbMachine.Run s steps t ∧ t.JoinStuck := by
  have howner := (hlocks.owner_of_stops hstops .mLock).mpr rfl
  have hwaits : s.worker.waitsFor = some .mLock := by rw [hpc]; rfl
  obtain ⟨op, rest, hscript, hop⟩ := hstops
  cases op with
  | joinWorker => exact ⟨[], s, .nil s, i, rest, .mLock, hscript, hwaits, howner⟩
  | killWorker =>
    have hkill : usbMachine.next s (.perform i {}) =
        some ({ s with signalPending := true }.goOn i (.joinWorker :: rest)) := by
      simp [usbMachine, Usb.perform, hscript, execute, hpc]
    refine ⟨_, _, .cons hkill (.nil _), i, rest, .mLock, ?_, hwaits, howner⟩
    exact Function.update_self ..
  | lock | unlock | setCallback | startWorker | partnerDown | waitPartner | wakePartner =>
    cases hop

theorem stops_of_beginsStop {i : Nat} {env : OpEnv} (hbegins : s.beginsStop i = true)
    (hstep : s.perform i env = some s') : s'.Stops i ∧ s'.worker = s.worker := by
  unfold beginsStop at hbegins
  split at hbegins
  case h_1 rest hscript =>
    simp only [Usb.perform, hscript, execute] at hstep
    split_ifs at hstep
    obtain rfl := Option.some.inj hstep
    refine ⟨⟨.killWorker, .unlock .mLock :: rest, ?_, rfl⟩, rfl⟩
    refine (Function.update_self ..).trans ?_
    simp [callbackChange, hbegins]
  case h_2 => cases hbegins

theorem stops_of_stopping (h : s.stopping = true) : ∃ i, s.Stops i := by
  unfold stopping at h
  split at h
  case h_1 i _ =>
    split at h
    case h_1 op rest hscript => exact ⟨i, op, rest, hscript, h⟩
    case h_2 => cases h
  case h_2 => cases h

theorem lockMLock_of_atTypec {ok : Bool} (h : s.atTypec = true)
    (hstep : s.workerStep ok = some s') : s'.worker = .lockMLock := by
  unfold atTypec at h
  split at h
  case h_1 rest hpc =>
    simp only [Usb.workerStep, hpc, Option.some.injEq] at hstep
    rw [← hstep]
  case h_2 => cases h

/-- **The condition is exact**: after a step that breaks it, a deadlock can be reached. -/
theorem stuck_of_disturbed {step : UsbStep} (h : usbMachine.Reachable s)
    (hbroken : ¬ s.Undisturbed step) (hnext : usbMachine.next s step = some s') :
    ∃ steps t, usbMachine.Run s' steps t ∧ (t.JoinStuck ∨ t.JoinAsleep) := by
  have hlocks' := (locksOk_of_reachable h).next hnext
  cases step with
  | beginCall i call => exact absurd trivial hbroken
  | uevent msg => exact absurd trivial hbroken
  | perform i env =>
    obtain ⟨hbegins, hpc⟩ : s.beginsStop i = true ∧ s.worker = .lockMLock := by
      simpa [Undisturbed] using hbroken
    -- the call goes on with the signal and the join
    obtain ⟨hstops, hworker⟩ := stops_of_beginsStop hbegins hnext
    obtain ⟨steps, t, hrun, hstuck⟩ := joinStuck_of_stops hlocks' hstops (hworker.trans hpc)
    exact ⟨steps, t, hrun, Or.inl hstuck⟩
  | worker ok =>
    obtain ⟨htypec, hstopping⟩ : s.atTypec = true ∧ s.stopping = true := by
      simpa [Undisturbed] using hbroken
    obtain ⟨i, hstops⟩ := stops_of_stopping hstopping
    have hstops' : s'.Stops i := stops_congr (workerStep_moved hnext).threads.symm hstops
    -- the worker calls `queryVersionHelper`
    have hpc : s'.worker = .lockMLock := lockMLock_of_atTypec htypec hnext
    obtain ⟨steps, t, hrun, hstuck⟩ := joinStuck_of_stops hlocks' hstops' hpc
    exact ⟨steps, t, hrun, Or.inl hstuck⟩
  | sighandler =>
    obtain ⟨hpc, hnone⟩ : s.worker = .beforeEpoll ∧ s.uevents = [] := by
      simpa [Undisturbed] using hbroken
    simp only [usbMachine, Usb.sighandler] at hnext
    split_ifs at hnext with hpending hepoll <;> obtain rfl := Option.some.inj hnext
    · rw [hpc] at hepoll
      cases hepoll
    · obtain ⟨i, rest, hscript⟩ := signalOk_of_reachable h hpending.1 hpending.2
      have henters : usbMachine.next { s with signalPending := false, destroyThread := true }
          (.worker true) =
            some { s with signalPending := false, destroyThread := true, worker := .epoll } := by
        simp [usbMachine, Usb.workerStep, hpc]
      exact ⟨_, _, .cons henters (.nil _), Or.inr ⟨i, rest, hscript, rfl, rfl, hnone⟩⟩

/-- The worker has read a message about a port when thread 0 takes `mLock` to stop it. -/
def stuckUsb : Usb :=
  (usbMachine.exec {}
    (startSteps ++ [.worker true, .uevent [.typec], .worker true] ++ stopSteps ++
      [.worker true])).get (by decide)

/-- The signal arrives after the worker has found `destroyThread` clear. -/
def asleepUsb : Usb :=
  (usbMachine.exec {} (startSteps ++ stopSteps ++ [.sighandler, .worker true])).get (by decide)

/-- Both deadlocks are reached with one binder thread. -/
theorem stuckUsb_asleepUsb_stuck :
    (usbMachine.Reachable stuckUsb ∧ stuckUsb.JoinStuck) ∧
      usbMachine.Reachable asleepUsb ∧ asleepUsb.JoinAsleep := by
  refine ⟨⟨Machine.reachable_of_exec usbMachine_start _, ?_⟩,
    Machine.reachable_of_exec usbMachine_start _, ?_⟩
  · exact ⟨0, [.unlock .mLock], .mLock, by decide, by decide, by decide⟩
  · exact ⟨0, [.unlock .mLock], by decide, by decide, by decide, by decide⟩

end Usb

end GloDroid.UsbHal

import GloDroid.UsbHal.Usb

/-!
# Who Holds the Locks

In every run the recorded owners of the three mutexes are the threads that hold them by their
scripts, or the worker at the places where it holds one (`LocksOk`). In particular a thread that
starts or stops the worker holds `mLock` and no other mutex (`LocksOk.owner_of_handlesWorker`).
-/

namespace GloDroid.UsbHal

open GloDroid.Base

/-! ## Locks in the scripts -/

/-- The mutexes an operation acquires and releases. `setCallback` and `waitPartner` do both, with
the operations they leave to do. -/
def binderLocks : LockOps Mutex BinderOp where
  acquires
    | .lock m, m' => m == m'
    | .wakePartner, m' => m' == .mPartnerLock
    | _, _ => false
  releases
    | .unlock m, m' => m == m'
    | _, _ => false

/-- The operation belongs to stopping the worker. -/
def BinderOp.stopsWorker : BinderOp → Bool
  | .killWorker | .joinWorker => true
  | _ => false

/-- The operation belongs to starting or stopping the worker. -/
def BinderOp.handlesWorker : BinderOp → Bool
  | .killWorker | .joinWorker | .startWorker => true
  | _ => false

theorem handlesWorker_of_stopsWorker {op : BinderOp} (h : op.stopsWorker = true) :
    op.handlesWorker = true := by
  cases op <;> first | rfl | cases h

/-- What an operation needs of the operations after it. -/
def BinderOp.Fits (rest : List BinderOp) : BinderOp → Prop
  | .lock m => binderLocks.holds m rest = true
  | .unlock m => binderLocks.holds m rest = false
  | .setCallback _ => ∀ m, binderLocks.holds m rest = false
  | .killWorker | .joinWorker | .startWorker => ∀ m, binderLocks.holds m rest = (m == .mLock)
  | .waitPartner | .wakePartner => binderLocks.holds .mPartnerLock rest = true
  | .partnerDown => True

/-- A script in which every operation fits, and the worker is stopped by the first one if at all. -/
def Valid : List BinderOp → Prop
  | [] => True
  | op :: rest => op.Fits rest ∧ (∀ later ∈ rest, later.stopsWorker = false) ∧ Valid rest

theorem valid_script (call : BinderCall) :
    Valid call.script ∧ (∀ m, binderLocks.holds m call.script = false) ∧
      ∀ op ∈ call.script, op.stopsWorker = false := by
  cases call with
  | switchRole node =>
    -- the script depends on what is found, each part of it is well bracketed
    obtain ⟨known, isMode, opened, written⟩ := node
    cases known <;> cases isMode <;> cases opened <;> cases written <;>
      refine ⟨?_, fun m => ?_, ?_⟩ <;> (try cases m) <;>
      simp [BinderCall.script, switchRole, switchMode, notifyCallback, Valid, BinderOp.Fits,
        LockOps.holds, binderLocks, BinderOp.stopsWorker]
  | enableUsbData | enableUsbDataWhileDocked | resetUsbPort | limitPowerTransfer
  | enableContaminantPresenceDetection | queryPortStatus | setCallback =>
    refine ⟨?_, fun m => ?_, ?_⟩ <;> (try cases m) <;>
      simp [BinderCall.script, notifyCallback, queryVersionHelper, Valid, BinderOp.Fits,
        LockOps.holds, binderLocks, BinderOp.stopsWorker]

/-- What `setCallback` leaves to do holds `mLock` until it is released at the end. -/
theorem valid_callbackChange (s : Usb) (inCallback : Bool) {rest : List BinderOp}
    (hnone : ∀ m, binderLocks.holds m rest = false)
    (hlater : ∀ later ∈ rest, later.stopsWorker = false) (hrest : Valid rest) :
    Valid (s.callbackChange inCallback ++ BinderOp.unlock .mLock :: rest) ∧
      ∀ m, binderLocks.holds m (s.callbackChange inCallback ++ BinderOp.unlock .mLock :: rest) =
        (m == .mLock) := by
  have hvalid : Valid (.unlock .mLock :: rest) := ⟨hnone .mLock, hlater, hrest⟩
  -- the pending release of `mLock` says that it is held
  have hunlock (m : Mutex) : binderLocks.holds m (.unlock .mLock :: rest) = (m == .mLock) := by
    by_cases hm : m = .mLock
    · rw [hm]
      exact LockOps.holds_cons_releases rest rfl
    · rw [LockOps.holds_cons_other rest (by simpa [binderLocks] using Ne.symm hm) rfl, hnone m]
      simpa using hm
  have hlater' : ∀ later ∈ BinderOp.unlock .mLock :: rest, later.stopsWorker = false :=
    List.forall_mem_cons.mpr ⟨rfl, hlater⟩
  simp only [Usb.callbackChange]
  split_ifs
  · exact ⟨hvalid, hunlock⟩
  · refine ⟨⟨hunlock, hlater', hvalid⟩, fun m => ?_⟩
    exact (LockOps.holds_cons_other _ rfl rfl).trans (hunlock m)
  · refine ⟨⟨hunlock, hlater', hvalid⟩, fun m => ?_⟩
    exact (LockOps.holds_cons_other _ rfl rfl).trans (hunlock m)

/-! ## The invariant -/

/-- The mutex the worker waits for at a place. -/
def WorkerPc.waitsFor : WorkerPc → Option Mutex
  | .lockPartner _ => some .mPartnerLock
  | .lockMLock => some .mLock
  | _ => none

theorem binder_injective : Function.Injective Thread.binder := fun _ _ h => Thread.binder.inj h

/-- The recorded owners are the threads at the places where they hold the mutexes. -/
structure LocksOk (s : Usb) : Prop where
  valid : ∀ i, Valid (s.threads i)
  owner : ∀ m, binderLocks.Consistent m Thread.binder (s.owner m) s.threads
  worker : ∀ m, s.worker.held = some m → s.owner m = some .worker

namespace LocksOk

variable {s s' : Usb}

/-- Thread `i` goes on in a state `t` with the same scripts. -/
theorem goOn {t : Usb} {i : Nat} {script : List BinderOp} (h : LocksOk s)
    (hthreads : t.threads = s.threads) (hscript : Valid script)
    (howner : ∀ m, binderLocks.Consistent m Thread.binder (t.owner m)
      (Function.update s.threads i script))
    (hworker : ∀ m, t.worker.held = some m → t.owner m = some .worker) :
    LocksOk (t.goOn i script) where
  valid j := by
    show Valid (Function.update t.threads i script j)
    rw [hthreads]
    by_cases hj : j = i
    · rw [hj, Function.update_self]
      exact hscript
    · rw [Function.update_of_ne hj]
      exact h.valid j
  owner m := by
    show binderLocks.Consistent m Thread.binder (t.owner m) (Function.update t.threads i script)
    rw [hthreads]
    exact howner m
  worker := hworker

/-- Thread `i` goes on and touches no mutex. -/
theorem goOn_neutral {t : Usb} {i : Nat} {script : List BinderOp} (h : LocksOk s)
    (hthreads : t.threads = s.threads) (howner : t.owner = s.owner) (hscript : Valid script)
    (hsame : ∀ m, binderLocks.holds m script = binderLocks.holds m (s.threads i))
    (hworker : t.worker = s.worker ∨ t.worker.held = none) : LocksOk (t.goOn i script) := by
  refine h.goOn hthreads hscript (fun m => ?_) (fun m hm => ?_)
  · rw [howner]
    exact (h.owner m).stay (hsame m)
  · rw [howner]
    rcases hworker with hworker | hworker
    · exact h.worker m (hworker ▸ hm)
    · rw [hworker] at hm
      cases hm

/-- Thread `i` acquires the free mutex `m`. -/
theorem goOn_acquire {t : Usb} {i : Nat} {script : List BinderOp} {m : Mutex} (h : LocksOk s)
    (hfree : s.owner m = none) (hthreads : t.threads = s.threads)
    (howner : t.owner = Function.update s.owner m (some (.binder i)))
    (hworker : t.worker = s.worker)
    (hscript : Valid script) (hholds : binderLocks.holds m script = true)
    (hother : ∀ m', m' ≠ m → binderLocks.holds m' script = binderLocks.holds m' (s.threads i)) :
    LocksOk (t.goOn i script) := by
  refine h.goOn hthreads hscript (fun m' => ?_) (fun m' hm' => ?_)
  · rw [howner]
    by_cases hm : m' = m
    · subst hm
      rw [Function.update_self]
      have hfree' := h.owner m'
      rw [hfree] at hfree'
      exact hfree'.acquire binder_injective hholds
    · rw [Function.update_of_ne hm]
      exact (h.owner m').stay (hother m' hm)
  · have howned := h.worker m' (hworker ▸ hm')
    have hne : m' ≠ m := fun heq => by simp [heq, hfree] at howned
    rw [howner, Function.update_of_ne hne]
    exact howned

/-- Thread `i` releases the mutex `m`, which it holds. -/
theorem goOn_release {t : Usb} {i : Nat} {script : List BinderOp} {m : Mutex} (h : LocksOk s)
    (hheld : binderLocks.holds m (s.threads i) = true) (hthreads : t.threads = s.threads)
    (howner : t.owner = Function.update s.owner m none) (hworker : t.worker = s.worker)
    (hscript : Valid script) (hholds : binderLocks.holds m script = false)
    (hother : ∀ m', m' ≠ m → binderLocks.holds m' script = binderLocks.holds m' (s.threads i)) :
    LocksOk (t.goOn i script) := by
  refine h.goOn hthreads hscript (fun m' => ?_) (fun m' hm' => ?_)
  · rw [howner]
    by_cases hm : m' = m
    · subst hm
      rw [Function.update_self]
      exact (h.owner m').release binder_injective hheld hholds
    · rw [Function.update_of_ne hm]
      exact (h.owner m').stay (hother m' hm)
  · have howned := h.worker m' (hworker ▸ hm')
    have hne : m' ≠ m := by
      rintro rfl
      rw [((h.owner m') i).mp hheld] at howned
      cases howned
    rw [howner, Function.update_of_ne hne]
    exact howned

/-! ## Steps -/

theorem beginCall {i : Nat} {call : BinderCall} (h : LocksOk s)
    (hstep : s.beginCall i call = some s') : LocksOk s' := by
  simp only [Usb.beginCall] at hstep
  split_ifs at hstep with hidle
  obtain rfl := Option.some.inj hstep
  obtain ⟨hvalid, hholds, -⟩ := valid_script call
  refine h.goOn_neutral rfl rfl hvalid (fun m => ?_) (Or.inl rfl)
  rw [hholds m, hidle]
  rfl

/-- An operation of thread `i`, one mutex at a time. -/
theorem perform {i : Nat} {env : Usb.OpEnv} (h : LocksOk s) (hstep : s.perform i env = some s') :
    LocksOk s' := by
  obtain ⟨op, rest, hscript, hexec⟩ := Usb.perform_eq hstep
  have hvalid := h.valid i
  rw [hscript] at hvalid
  obtain ⟨hfits, hlater, hrest⟩ := hvalid
  -- what the thread holds with `op` in front of the rest
  have hsame (m : Mutex) (hrel : binderLocks.releases op m = false)
      (hacq : binderLocks.acquires op m = false) :
      binderLocks.holds m rest = binderLocks.holds m (s.threads i) := by
    rw [hscript, LockOps.holds_cons_other rest hrel hacq]
  cases hexec with
  | lock m hfree =>
    refine h.goOn_acquire hfree rfl rfl rfl hrest hfits fun m' hm' => hsame m' rfl ?_
    simp [binderLocks, Ne.symm hm']
  | unlock m =>
    refine h.goOn_release ?_ rfl rfl rfl hrest hfits fun m' hm' => hsame m' ?_ rfl
    · rw [hscript]
      exact LockOps.holds_cons_releases rest (by simp [binderLocks])
    · simp [binderLocks, Ne.symm hm']
  | setCallback inCallback hfree =>
    have hnone : ∀ m, binderLocks.holds m rest = false := hfits
    obtain ⟨hvalid', hholds⟩ := valid_callbackChange s inCallback hnone hlater hrest
    refine h.goOn_acquire hfree rfl rfl rfl hvalid' (hholds .mLock) fun m' hm' => ?_
    rw [hholds m', ← hsame m' rfl rfl, hnone m']
    simpa using hm'
  | notSignalled | joined | notStarted | partnerDown =>
    exact h.goOn_neutral rfl rfl hrest (fun m => hsame m rfl rfl) (Or.inl rfl)
  | signalled =>
    refine h.goOn_neutral rfl rfl ⟨hfits, hlater, hrest⟩ (fun m => ?_) (Or.inl rfl)
    rw [LockOps.holds_cons_other rest rfl rfl]
    exact hsame m rfl rfl
  | started => exact h.goOn_neutral rfl rfl hrest (fun m => hsame m rfl rfl) (Or.inr rfl)
  | waitPartner =>
    have hheld : binderLocks.holds .mPartnerLock (s.threads i) = true := by
      rw [← hsame .mPartnerLock rfl rfl]
      exact hfits
    refine h.goOn_release hheld rfl rfl rfl ⟨hfits, hlater, hrest⟩
      (LockOps.holds_cons_acquires rest rfl rfl) fun m' hm' => ?_
    rw [LockOps.holds_cons_other rest rfl (by simpa [binderLocks] using hm')]
    exact hsame m' rfl rfl
  | waited hfree =>
    refine h.goOn_acquire hfree rfl rfl rfl hrest hfits fun m' hm' => hsame m' rfl ?_
    simpa [binderLocks] using hm'
  | waitsAgain hfree =>
    refine h.goOn_acquire hfree rfl rfl rfl ⟨hfits, hlater, hrest⟩ ?_ fun m' hm' => ?_
    · rw [LockOps.holds_cons_other rest rfl rfl]
      exact hfits
    · rw [LockOps.holds_cons_other rest rfl rfl]
      exact hsame m' rfl (by simpa [binderLocks] using hm')

/-- The worker goes on and touches no mutex. -/
theorem worker_neutral {t : Usb} (h : LocksOk s) (hthreads : t.threads = s.threads)
    (howner : t.owner = s.owner) (hheld : t.worker.held = none) : LocksOk t where
  valid := hthreads ▸ h.valid
  owner := hthreads ▸ howner ▸ h.owner
  worker m hm := by
    rw [hheld] at hm
    cases hm

/-- The worker changes the owner of `m`, which is none of the threads with a script. -/
theorem worker_change {t : Usb} {m : Mutex} {owner : Option Thread} (h : LocksOk s)
    (hthreads : t.threads = s.threads) (howner : t.owner = Function.update s.owner m owner)
    (hbefore : ∀ j, s.owner m ≠ some (.binder j)) (hafter : ∀ j, owner ≠ some (.binder j))
    (hheld : ∀ m', t.worker.held = some m' → m' = m ∧ owner = some .worker) : LocksOk t where
  valid := hthreads ▸ h.valid
  owner m' := by
    rw [hthreads, howner]
    by_cases hm : m' = m
    · subst hm
      rw [Function.update_self]
      exact (h.owner m').change_owner hbefore hafter
    · rw [Function.update_of_ne hm]
      exact h.owner m'
  worker m' hm' := by
    obtain ⟨rfl, hworker⟩ := hheld m' hm'
    rw [howner, Function.update_self, hworker]

theorem worker_acquire {t : Usb} {m : Mutex} (h : LocksOk s) (hthreads : t.threads = s.threads)
    (hfree : s.owner m = none) (howner : t.owner = Function.update s.owner m (some .worker))
    (hheld : t.worker.held = some m) : LocksOk t := by
  refine h.worker_change hthreads howner (by simp [hfree]) (by simp) fun m' hm' => ⟨?_, rfl⟩
  exact (Option.some.inj (hheld.symm.trans hm')).symm

theorem worker_release {t : Usb} {m : Mutex} (h : LocksOk s) (hthreads : t.threads = s.threads)
    (hbefore : s.worker.held = some m) (howner : t.owner = Function.update s.owner m none)
    (hheld : t.worker.held = none) : LocksOk t := by
  refine h.worker_change hthreads howner (by simp [h.worker m hbefore]) (by simp) fun m' hm' => ?_
  rw [hheld] at hm'
  cases hm'

theorem workerStep {ok : Bool} (h : LocksOk s) (hstep : s.workerStep ok = some s') :
    LocksOk s' := by
  have hmoved := Usb.workerStep_moved hstep
  cases hmoved.owner with
  | neutral howner hheld => exact h.worker_neutral hmoved.threads howner hheld
  | acquired m hfree howner hheld => exact h.worker_acquire hmoved.threads hfree howner hheld
  | released m hbefore howner hheld => exact h.worker_release hmoved.threads hbefore howner hheld

/-- The step lemma. -/
theorem next {step : UsbStep} (h : LocksOk s) (hnext : usbMachine.next s step = some s') :
    LocksOk s' := by
  cases step with
  | beginCall i call => exact h.beginCall hnext
  | perform i env => exact h.perform hnext
  | worker ok => exact h.workerStep hnext
  | sighandler =>
    simp only [usbMachine, Usb.sighandler] at hnext
    split_ifs at hnext <;> obtain rfl := Option.some.inj hnext
    · exact h.worker_neutral rfl rfl rfl
    · exact ⟨h.valid, h.owner, h.worker⟩
  | uevent msg =>
    obtain rfl := Option.some.inj hnext
    exact ⟨h.valid, h.owner, h.worker⟩

end LocksOk

theorem locksOk_of_reachable {s : Usb} (h : usbMachine.Reachable s) : LocksOk s := by
  refine h.invariant LocksOk ?_ fun s step s' hs _ hnext => hs.next hnext
  rintro s rfl
  refine ⟨fun _ => trivial, fun m j => ⟨fun hholds => ?_, fun heq => ?_⟩, fun m hm => ?_⟩
  · cases hholds
  · cases heq
  · cases hm

/-! ## Starting and stopping the worker -/

/-- Thread `i` is stopping the worker. -/
def Usb.Stops (s : Usb) (i : Nat) : Prop :=
  ∃ op rest, s.threads i = op :: rest ∧ op.stopsWorker = true

/-- Whoever starts or stops the worker holds `mLock` and nothing else. -/
theorem LocksOk.owner_of_handlesWorker {s : Usb} {i : Nat} {op : BinderOp} {rest : List BinderOp}
    (h : LocksOk s) (hscript : s.threads i = op :: rest) (hop : op.handlesWorker = true)
    (m : Mutex) : s.owner m = some (.binder i) ↔ m = .mLock := by
  have hvalid := h.valid i
  rw [hscript] at hvalid
  obtain ⟨hfits, -, -⟩ := hvalid
  have hholds : binderLocks.holds m (s.threads i) = (m == .mLock) := by
    rw [hscript]
    cases op with
    | killWorker | joinWorker | startWorker =>
      exact (LockOps.holds_cons_other rest rfl rfl).trans (hfits m)
    | lock | unlock | setCallback | partnerDown | waitPartner | wakePartner => cases hop
  rw [← h.owner m i, hholds, beq_iff_eq]

theorem LocksOk.owner_of_stops {s : Usb} {i : Nat} (h : LocksOk s) (hstops : s.Stops i)
    (m : Mutex) : s.owner m = some (.binder i) ↔ m = .mLock := by
  obtain ⟨op, rest, hscript, hop⟩ := hstops
  exact h.owner_of_handlesWorker hscript (handlesWorker_of_stopsWorker hop) m

/-- Two threads do not handle the worker at once. -/
theorem LocksOk.eq_of_handlesWorker {s : Usb} {i j : Nat} {op : BinderOp} {rest : List BinderOp}
    (h : LocksOk s) (hstops : s.Stops i) (hscript : s.threads j = op :: rest)
    (hop : op.handlesWorker = true) : i = j := by
  have hi := (h.owner_of_stops hstops .mLock).mpr rfl
  have hj := (h.owner_of_handlesWorker hscript hop .mLock).mpr rfl
  exact binder_injective (Option.some.inj (hi.symm.trans hj))

end GloDroid.UsbHal

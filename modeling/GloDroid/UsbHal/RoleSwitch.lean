import GloDroid.UsbHal.Locks

/-!
# Waiting for the Partner

`switchMode` takes `mPartnerUp` down, writes the mode and waits until the worker has seen a partner
added. Several threads may switch roles at once, and all of them use the one flag.

The observed machine keeps for each thread whether a partner was added since that thread took the
flag down. While the thread waits, the flag says just that (`PartnerTracked.SwitchOk`), so its wait
ends when the time is over or a partner has come since, and goes on otherwise
(`waitEnds_iff_partnerCame`). A partner is neither lost nor taken from an earlier switch.
-/

namespace GloDroid.UsbHal

open GloDroid.Base

/-! ## Role switches in the scripts -/

/-- The operation waits for the partner. -/
def BinderOp.waits : BinderOp → Bool
  | .waitPartner | .wakePartner => true
  | _ => false

/-- The script waits for the partner next. -/
def Waits : List BinderOp → Bool
  | [] => false
  | op :: _ => op.waits

/-- What an operation needs of the operations after it: `mPartnerUp` is used under
`mRoleSwitchLock`, and a wait comes after nothing but the flag's clearing or another wait. -/
def BinderOp.Switches (rest : List BinderOp) (op : BinderOp) : Prop :=
  if op = .partnerDown ∨ op.waits = true then binderLocks.holds .mRoleSwitchLock rest = true
  else Waits rest = false

/-- A script in which every operation of a role switch is in its place. -/
def SwitchScript : List BinderOp → Prop
  | [] => True
  | op :: rest => op.Switches rest ∧ SwitchScript rest

theorem switchScript_script (call : BinderCall) :
    SwitchScript call.script ∧ Waits call.script = false := by
  cases call with
  | switchRole node =>
    -- the script depends on what is found
    obtain ⟨known, isMode, opened, written⟩ := node
    cases known <;> cases isMode <;> cases opened <;> cases written <;>
      simp [BinderCall.script, switchRole, switchMode, notifyCallback, SwitchScript,
        BinderOp.Switches, BinderOp.waits, Waits, LockOps.holds, binderLocks]
  | enableUsbData | enableUsbDataWhileDocked | resetUsbPort | limitPowerTransfer
  | enableContaminantPresenceDetection | queryPortStatus | setCallback =>
    simp [BinderCall.script, notifyCallback, queryVersionHelper, SwitchScript,
      BinderOp.Switches, BinderOp.waits, Waits]

/-- What `setCallback` leaves to do has no part in a role switch. -/
theorem switchScript_callbackChange (s : Usb) (inCallback : Bool) {rest : List BinderOp}
    (hwaits : Waits rest = false) (hrest : SwitchScript rest) :
    SwitchScript (s.callbackChange inCallback ++ BinderOp.unlock .mLock :: rest) ∧
      Waits (s.callbackChange inCallback ++ BinderOp.unlock .mLock :: rest) = false := by
  have hunlock : SwitchScript (.unlock .mLock :: rest) := ⟨hwaits, hrest⟩
  simp only [Usb.callbackChange]
  split_ifs
  · exact ⟨hunlock, rfl⟩
  · exact ⟨⟨rfl, hunlock⟩, rfl⟩
  · exact ⟨⟨rfl, hunlock⟩, rfl⟩

/-- Whoever is about to use the flag holds `mRoleSwitchLock`. -/
theorem LocksOk.owner_of_switches {s : Usb} {i : Nat} {op : BinderOp} {rest : List BinderOp}
    (h : LocksOk s) (hswitch : SwitchScript (s.threads i)) (hscript : s.threads i = op :: rest)
    (hop : op = .partnerDown ∨ op.waits = true) :
    s.owner .mRoleSwitchLock = some (.binder i) := by
  rw [hscript] at hswitch
  have hholds : binderLocks.holds .mRoleSwitchLock rest = true := by
    have hswitches := hswitch.1
    rw [BinderOp.Switches, if_pos hop] at hswitches
    exact hswitches
  apply (h.owner .mRoleSwitchLock i).mp
  rw [hscript]
  cases op with
  | partnerDown | waitPartner | wakePartner =>
    exact (LockOps.holds_cons_other rest rfl rfl).trans hholds
  | lock | unlock | setCallback | killWorker | joinWorker | startWorker =>
    simp [BinderOp.waits] at hop

/-! ## Tracked runs -/

/-- The HAL, and whether a partner was added since a thread last took the flag down. -/
structure PartnerTracked where
  usb : Usb := {}
  partnerCame : Nat → Bool := fun _ => false

namespace PartnerTracked

/-- The observations after a step that takes the HAL from `t.usb` to `s'`. -/
def observe (t : PartnerTracked) (s' : Usb) : UsbStep → PartnerTracked
  | .perform i _ =>
    { usb := s'
      partnerCame := match t.usb.threads i with
        | .partnerDown :: _ => Function.update t.partnerCame i false
        | _ => t.partnerCame }
  | .worker _ =>
    { usb := s'
      partnerCame := match t.usb.worker with
        -- the step that ends the waiting for `mPartnerLock` sets the flag
        | .lockPartner _ => fun _ => true
        | _ => t.partnerCame }
  | _ => { t with usb := s' }

theorem usb_observe (t : PartnerTracked) (s' : Usb) (step : UsbStep) :
    (t.observe s' step).usb = s' := by
  cases step <;> rfl

end PartnerTracked

/-- The HAL with the observations of its run. -/
def partnerMachine : Machine PartnerTracked UsbStep where
  start t := t = {}
  next t step := (usbMachine.next t.usb step).map fun s' => t.observe s' step

/-- Observing restricts nothing. -/
theorem partnerMachine_observes : partnerMachine.Observes usbMachine PartnerTracked.usb where
  start s := by
    constructor
    · rintro rfl
      exact ⟨{}, rfl, rfl⟩
    · rintro ⟨t, rfl, rfl⟩
      rfl
  next t step := by
    simp only [partnerMachine, Option.map_map, Function.comp_def, PartnerTracked.usb_observe,
      Option.map_id']

theorem partnerMachine_next {t t' : PartnerTracked} {step : UsbStep}
    (h : partnerMachine.next t step = some t') :
    usbMachine.next t.usb step = some t'.usb ∧ t' = t.observe t'.usb step := by
  obtain ⟨s', hs', rfl⟩ := Option.map_eq_some_iff.mp h
  rw [PartnerTracked.usb_observe]
  exact ⟨hs', rfl⟩

/-! ## The invariant -/

/-- A thread that waits finds in the flag what came since it took the flag down. -/
structure PartnerTracked.SwitchOk (t : PartnerTracked) : Prop where
  locks : LocksOk t.usb
  scripts : ∀ i, SwitchScript (t.usb.threads i)
  flag : ∀ i, Waits (t.usb.threads i) = true → t.usb.mPartnerUp = t.partnerCame i

namespace PartnerTracked.SwitchOk

variable {t t' : PartnerTracked}

/-- Two threads do not use the flag at once. -/
theorem eq_of_switches (h : t.SwitchOk) {i j : Nat} {op : BinderOp} {rest : List BinderOp}
    (hscript : t.usb.threads i = op :: rest) (hop : op = .partnerDown ∨ op.waits = true)
    (hwaits : Waits (t.usb.threads j) = true) : j = i := by
  have hi := h.locks.owner_of_switches (h.scripts i) hscript hop
  cases hother : t.usb.threads j with
  | nil => simp [hother, Waits] at hwaits
  | cons op' rest' =>
    have hop' : op'.waits = true := by simpa [hother, Waits] using hwaits
    have hj := h.locks.owner_of_switches (h.scripts j) hother (Or.inr hop')
    exact binder_injective (Option.some.inj (hj.symm.trans hi))

/-- Thread `i` goes on with a script that waits only if it did so before. -/
theorem goOn {s : Usb} {i : Nat} {script : List BinderOp} (h : t.SwitchOk)
    (hlocks : LocksOk (s.goOn i script)) (hthreads : s.threads = t.usb.threads)
    (hup : s.mPartnerUp = t.usb.mPartnerUp) (hscript : SwitchScript script)
    (hwaits : Waits script = true → Waits (t.usb.threads i) = true) :
    SwitchOk { t with usb := s.goOn i script } where
  locks := hlocks
  scripts j := by
    show SwitchScript (Function.update s.threads i script j)
    rw [hthreads, Function.update_apply]
    split_ifs
    · exact hscript
    · exact h.scripts j
  flag j hj := by
    change Waits (Function.update s.threads i script j) = true at hj
    show s.mPartnerUp = t.partnerCame j
    rw [hthreads, Function.update_apply] at hj
    rw [hup]
    split_ifs at hj with hji
    · exact h.flag j (hji ▸ hwaits hj)
    · exact h.flag j hj

/-- Thread `i` takes the flag down: nobody else waits. -/
theorem partnerDown {i : Nat} {rest : List BinderOp} (h : t.SwitchOk)
    (hscript : t.usb.threads i = .partnerDown :: rest)
    (hlocks : LocksOk ({ t.usb with mPartnerUp := false }.goOn i rest)) :
    SwitchOk { usb := { t.usb with mPartnerUp := false }.goOn i rest,
               partnerCame := Function.update t.partnerCame i false } where
  locks := hlocks
  scripts j := by
    show SwitchScript (Function.update t.usb.threads i rest j)
    rw [Function.update_apply]
    split_ifs
    · have hswitch := h.scripts i
      rw [hscript] at hswitch
      exact hswitch.2
    · exact h.scripts j
  flag j hj := by
    change Waits (Function.update t.usb.threads i rest j) = true at hj
    show false = Function.update t.partnerCame i false j
    rw [Function.update_apply] at hj ⊢
    split_ifs at hj ⊢ with hji
    · rfl
    · exact absurd (h.eq_of_switches hscript (Or.inl rfl) hj) hji

end PartnerTracked.SwitchOk

/-! ## Steps -/

/-- An operation of thread `i` that is no role switch's. -/
theorem Usb.ExecutesTo.switches {s s' : Usb} {i : Nat} {op : BinderOp} {rest : List BinderOp}
    (h : s.ExecutesTo i rest op s') (hswitch : SwitchScript (op :: rest))
    (hop : op ≠ .partnerDown) :
    ∃ (u : Usb) (script : List BinderOp), s' = u.goOn i script ∧ u.threads = s.threads ∧
      u.mPartnerUp = s.mPartnerUp ∧ SwitchScript script ∧
        (Waits script = true → op.waits = true) := by
  obtain ⟨hhead, hrest⟩ := hswitch
  -- an operation that does not wait is not followed by a wait
  have hquiet (hno : op.waits = false) (hwaits : Waits rest = true) : op.waits = true := by
    have hnone : Waits rest = false := by simpa [BinderOp.Switches, hop, hno] using hhead
    rw [hnone] at hwaits
    cases hwaits
  cases h with
  | lock | unlock | notSignalled | joined | started | notStarted =>
    exact ⟨_, rest, rfl, rfl, rfl, hrest, hquiet rfl⟩
  | setCallback inCallback =>
    have hnone : Waits rest = false := by simpa [BinderOp.Switches, BinderOp.waits] using hhead
    obtain ⟨hscript, hwaits⟩ := switchScript_callbackChange s inCallback hnone hrest
    refine ⟨_, _, rfl, rfl, rfl, hscript, fun h => ?_⟩
    rw [hwaits] at h
    cases h
  | signalled => exact ⟨_, _, rfl, rfl, rfl, ⟨hhead, hrest⟩, fun h => absurd h Bool.false_ne_true⟩
  | partnerDown => exact absurd rfl hop
  | waitPartner | waitsAgain => exact ⟨_, _, rfl, rfl, rfl, ⟨hhead, hrest⟩, fun _ => rfl⟩
  | waited => exact ⟨_, rest, rfl, rfl, rfl, hrest, fun _ => rfl⟩

/-- The worker sets the flag where it has waited for `mPartnerLock`, and nowhere else. -/
theorem Usb.workerStep_mPartnerUp {s s' : Usb} {ok : Bool} (h : s.workerStep ok = some s') :
    s'.mPartnerUp = match s.worker with
      | .lockPartner _ => true
      | _ => s.mPartnerUp := by
  cases hpc : s.worker with
  | exited => simp [workerStep, hpc] at h
  | lines rest =>
    rcases rest with _ | ⟨line, rest⟩
    · simp only [workerStep, hpc, Option.some.injEq] at h
      rw [← h]
    · cases line <;> simp only [workerStep, hpc, Option.some.injEq] at h <;> rw [← h]
  | epoll =>
    simp only [workerStep, hpc] at h
    split_ifs at h
    · rw [← Option.some.inj h]
    · split at h
      · cases h
      · rw [← Option.some.inj h]
  | starting | check | beforeEpoll | unlockPartner | unlockMLock | unlockRoleSwitch =>
    simp only [workerStep, hpc, Option.some.injEq] at h
    subst h
    first | rfl | (split_ifs <;> rfl)
  | lockPartner | lockMLock | tryRoleSwitch =>
    simp only [workerStep, hpc] at h
    split_ifs at h <;> (obtain rfl := Option.some.inj h; rfl)

namespace PartnerTracked.SwitchOk

variable {t t' : PartnerTracked}

/-- The binder threads and the flag stay as they are. -/
theorem of_quiet {s' : Usb} (h : t.SwitchOk) (hlocks : LocksOk s')
    (hthreads : s'.threads = t.usb.threads) (hup : s'.mPartnerUp = t.usb.mPartnerUp) :
    SwitchOk { t with usb := s' } where
  locks := hlocks
  scripts := hthreads ▸ h.scripts
  flag i hi := by
    show s'.mPartnerUp = t.partnerCame i
    rw [hup]
    exact h.flag i (hthreads ▸ hi)

theorem perform {i : Nat} {env : Usb.OpEnv} {s' : Usb} (h : t.SwitchOk) (hlocks : LocksOk s')
    (hstep : t.usb.perform i env = some s') : SwitchOk (t.observe s' (.perform i env)) := by
  obtain ⟨op, rest, hscript, hexec⟩ := Usb.perform_eq hstep
  have hswitch : SwitchScript (op :: rest) := hscript ▸ h.scripts i
  by_cases hop : op = .partnerDown
  · subst hop
    cases hexec
    simp only [observe, hscript]
    exact h.partnerDown hscript hlocks
  · obtain ⟨u, script, rfl, hthreads, hup, hnew, hwaits⟩ := hexec.switches hswitch hop
    have hsame : t.observe (u.goOn i script) (.perform i env) =
        { t with usb := u.goOn i script } := by
      simp only [observe, hscript]
      split
      · rename_i heq
        exact absurd (List.cons.inj heq).1 hop
      · rfl
    rw [hsame]
    refine h.goOn hlocks hthreads hup hnew fun hwait => ?_
    rw [hscript]
    exact hwaits hwait

theorem workerStep {ok : Bool} {s' : Usb} (h : t.SwitchOk) (hlocks : LocksOk s')
    (hstep : t.usb.workerStep ok = some s') : SwitchOk (t.observe s' (.worker ok)) := by
  have hthreads := (Usb.workerStep_moved hstep).threads
  have hup := Usb.workerStep_mPartnerUp hstep
  simp only [observe]
  split at hup
  · -- a partner was added, for every thread that waits
    exact ⟨hlocks, hthreads ▸ h.scripts, fun i _ => hup⟩
  · exact h.of_quiet hlocks hthreads hup

/-- The step lemma. -/
theorem next {step : UsbStep} (h : t.SwitchOk) (hnext : partnerMachine.next t step = some t') :
    t'.SwitchOk := by
  obtain ⟨hstep, heq⟩ := partnerMachine_next hnext
  have hlocks := h.locks.next hstep
  rw [heq]
  cases step with
  | beginCall i call =>
    simp only [usbMachine, Usb.beginCall] at hstep
    split_ifs at hstep
    rw [← Option.some.inj hstep] at hlocks ⊢
    obtain ⟨hscript, hwaits⟩ := switchScript_script call
    refine h.goOn hlocks rfl rfl hscript fun hwait => ?_
    rw [hwaits] at hwait
    cases hwait
  | perform i env => exact h.perform hlocks hstep
  | worker ok => exact h.workerStep hlocks hstep
  | sighandler =>
    simp only [usbMachine, Usb.sighandler] at hstep
    split_ifs at hstep
    all_goals
      rw [← Option.some.inj hstep] at hlocks ⊢
      exact h.of_quiet hlocks rfl rfl
  | uevent msg =>
    rw [← Option.some.inj hstep] at hlocks ⊢
    exact h.of_quiet hlocks rfl rfl

end PartnerTracked.SwitchOk

end GloDroid.UsbHal

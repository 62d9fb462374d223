import GloDroid.GadgetHal.Gadget

/-!
# The Reported Gadget Status

When the flag is set, the links present are those of the current mask, provided the flag was set by
the current call: by `setupFunctions`, or by the monitor it started (`statusSound_of_freshReports`).

The monitor of an earlier call lives on until `reset` joins it, which is after the mask was replaced
and the links removed, and it survives a teardown that fails before. A report of such a stale
monitor sets the flag for a mask it knows nothing of.
-/

namespace GloDroid.GadgetHal

open GloDroid.Base

namespace UsbGadget

/-- From the first call on, a set flag means that the links are those of the mask. -/
def StatusSound (rndisFunction : String) (s : UsbGadget) : Prop :=
  0 < s.calls → s.currentUsbFunctionsApplied = true →
    s.links = setupLinks rndisFunction s.currentUsbFunctions

end UsbGadget

/-- The monitor thread calls the callback. -/
def GadgetStep.isReport : GadgetStep → Bool
  | .monitor .report => true
  | _ => false

namespace UsbGadget

/-- A monitor reports only while the call that started it is the last one. -/
def FreshReport (s : UsbGadget) (step : GadgetStep) : Prop :=
  step.isReport = true → s.monitorCall = s.calls

instance (s : UsbGadget) (step : GadgetStep) : Decidable (FreshReport s step) :=
  inferInstanceAs (Decidable (_ → _))

/-! ## The invariant -/

/-- The current call has got through its setup: it set the flag, or its monitor may do so. -/
def Settled (s : UsbGadget) : Prop :=
  s.currentUsbFunctionsApplied = true ∨ s.monitorCall = s.calls

/-- What the script of the current call still promises. -/
structure Promised (rndisFunction : String) (s : UsbGadget) : Prop where
  /-- A script that still ends the setup leads to the links of the mask. -/
  links : (∃ op ∈ s.script, op.finishes = true) →
    s.script.foldl GadgetOp.linkEffect s.links = setupLinks rndisFunction s.currentUsbFunctions
  settled : s.Settled →
    s.links = setupLinks rndisFunction s.currentUsbFunctions ∧ ∀ op ∈ s.script, op.answers = true

variable {rndisFunction controller : String} {s s' : UsbGadget}

/-- An answer has no effect on the links. -/
theorem linkEffect_of_answers {op : GadgetOp} (h : op.answers = true) (links : List Link) :
    op.linkEffect links = links := by
  cases op <;> first | rfl | cases h

theorem foldl_linkEffect_of_answers {script : List GadgetOp}
    (h : ∀ op ∈ script, op.answers = true) (links : List Link) :
    script.foldl GadgetOp.linkEffect links = links :=
  foldl_eq_of_noEffect script (fun op hop => linkEffect_of_answers (h op hop)) links

/-- A call that begins promises the links of its mask, and is not settled. -/
theorem promised_beginCall {functions : Functions} {hasCallback : Bool}
    (hepoch : s.monitorCall ≤ s.calls)
    (h : s.beginCall rndisFunction functions hasCallback = some s') :
    Promised rndisFunction s' := by
  obtain ⟨-, rfl⟩ := beginCall_eq h
  refine ⟨fun _ => foldl_linkEffect_callScript _ _ _, ?_⟩
  rintro (hflag | hfresh)
  · cases hflag
  · -- the monitor belongs to an earlier call
    exact absurd hfresh (Nat.ne_of_lt (Nat.lt_succ_of_le hepoch))

/-- An operation that succeeds keeps the promise. -/
theorem Promised.done {s₁ : UsbGadget} {op : GadgetOp} {script : List GadgetOp}
    (h : Promised rndisFunction s) (hordered : s.Ordered) (hscript : s.script = op :: script)
    (hdone : Done s s₁ op) : Promised rndisFunction { s₁ with script } := by
  have hlinks := h.links
  have hsettled := h.settled
  rw [hscript] at hlinks hsettled
  refine ⟨?_, ?_⟩
  · rintro ⟨op', hop', hfin⟩
    show script.foldl GadgetOp.linkEffect s₁.links = _
    rw [hdone.links, hdone.functions]
    exact hlinks ⟨op', List.mem_cons_of_mem _ hop', hfin⟩
  · intro hsettled'
    show s₁.links = setupLinks _ s₁.currentUsbFunctions ∧ _
    rw [hdone.links, hdone.functions]
    by_cases hfin : op.finishes = true
    · -- the setup ends here: only answers are left, so the promised links are there
      have hanswers := hordered.answers_of_finishes hscript hfin
      have hpromise := hlinks ⟨op, List.mem_cons_self, hfin⟩
      rw [List.foldl_cons, foldl_linkEffect_of_answers hanswers] at hpromise
      exact ⟨hpromise, hanswers⟩
    · -- the setup had ended before: this is one of the answers
      obtain ⟨hflag, hcall⟩ := hdone.unfinished (by simpa using hfin)
      have hbefore : s.Settled := by
        refine hsettled'.imp (fun happlied => hflag ▸ happlied) fun hfresh => ?_
        rw [← hcall, ← hdone.calls]
        exact hfresh
      obtain ⟨hnow, hanswers⟩ := hsettled hbefore
      rw [linkEffect_of_answers (hanswers op List.mem_cons_self)]
      exact ⟨hnow, fun later hl => hanswers later (List.mem_cons_of_mem _ hl)⟩

/-- A call that fails had not settled, and promises nothing any more. -/
theorem Promised.failed {op : GadgetOp} {script : List GadgetOp} {links : List Link}
    {status : Status} (h : Promised rndisFunction s) (hscript : s.script = op :: script)
    (hop : op.answers = false) :
    Promised rndisFunction { s with links, script := [.answer status] } := by
  refine ⟨?_, fun hsettled => ?_⟩
  · rintro ⟨op', hop', hfin⟩
    obtain rfl := List.mem_singleton.mp hop'
    cases hfin
  · have hanswer := (h.settled hsettled).2 op (by simp [hscript])
    rw [hop] at hanswer
    cases hanswer

/-- A step of the monitor keeps the promise, unless a stale monitor reports. -/
theorem Promised.monitor {step : MonitorStep} (h : Promised rndisFunction s)
    (hfresh : FreshReport s (.monitor step)) (hstep : s.monitorStep controller step = some s') :
    Promised rndisFunction s' := by
  obtain ⟨⟨hscript, hlinks, hfunctions, hcalls⟩, ⟨hcall, -, -⟩, hflag⟩ := monitorStep_frame hstep
  -- a fresh report is made after the call has settled
  have hsettled (hs : s'.Settled) : s.Settled := by
    by_cases hreport : step = .report
    · subst hreport
      exact Or.inr (hfresh rfl)
    · refine hs.imp (fun happlied => hflag hreport ▸ happlied) fun hs => ?_
      rw [← hcall, ← hcalls]
      exact hs
  refine ⟨?_, fun hs => ?_⟩
  · rw [hscript, hlinks, hfunctions]
    exact h.links
  · rw [hscript, hlinks, hfunctions]
    exact h.settled (hsettled hs)

/-! ## Runs -/

/-- The invariant of the runs without a stale report. -/
structure GadgetInv (rndisFunction : String) (s : UsbGadget) : Prop where
  ordered : s.Ordered
  epoch : s.monitorCall ≤ s.calls
  promised : 0 < s.calls → Promised rndisFunction s
  /-- Before the first call there is nothing to do. -/
  idle : s.calls = 0 → s.script = []

/-- The step lemma. -/
theorem GadgetInv.next {step : GadgetStep} (h : GadgetInv rndisFunction s)
    (hok : FreshReport s step)
    (hnext : (gadgetMachine rndisFunction controller).next s step = some s') :
    GadgetInv rndisFunction s' := by
  have hordered := h.ordered.next hnext
  cases step with
  | beginCall functions hasCallback =>
    have hpromised := promised_beginCall h.epoch hnext
    obtain ⟨-, rfl⟩ := beginCall_eq hnext
    exact ⟨hordered, Nat.le_succ_of_le h.epoch, fun _ => hpromised, nofun⟩
  -- three ways an operation goes: done, failed, or not over yet
  | perform env =>
    obtain ⟨op, script, s₁, hscript, hdone, rfl⟩ | ⟨op, script, links, status, hscript, hop, rfl⟩ |
      rfl := perform_cases hnext
    · have hcalls : 0 < s.calls := by
        by_contra hzero
        simp [h.idle (by omega)] at hscript
      refine ⟨hordered, ?_, fun _ => (h.promised hcalls).done h.ordered hscript hdone,
        fun hzero => ?_⟩
      · show s₁.monitorCall ≤ s₁.calls
        rw [hdone.calls]
        rcases hdone.monitorCall with heq | heq
        · rw [heq]
          exact h.epoch
        · exact Nat.le_of_eq heq
      · have hsame : s₁.calls = s.calls := hdone.calls
        exact absurd (hsame ▸ hzero) (Nat.ne_of_gt hcalls)
    · have hcalls : 0 < s.calls := by
        by_contra hzero
        simp [h.idle (by omega)] at hscript
      exact ⟨hordered, h.epoch, fun _ => (h.promised hcalls).failed hscript hop,
        fun hzero => absurd hzero (Nat.ne_of_gt hcalls)⟩
    · exact ⟨hordered, h.epoch,
        fun hcalls => ⟨(h.promised hcalls).links, (h.promised hcalls).settled⟩, h.idle⟩
  | monitor step =>
    obtain ⟨⟨hscript, -, -, hcalls⟩, ⟨hcall, -, -⟩, -⟩ := monitorStep_frame hnext
    refine ⟨hordered, hcall ▸ hcalls ▸ h.epoch, fun hpos => ?_, fun hzero => ?_⟩
    · exact (h.promised (hcalls ▸ hpos)).monitor hok hnext
    · rw [hscript]
      exact h.idle (hcalls ▸ hzero)

/-- **The reported status is sound** in every run in which no monitor of an earlier call reports. -/
theorem statusSound_of_freshReports {rndisFunction controller : String} {s : UsbGadget}
    (h : (gadgetMachine rndisFunction controller).ReachableVia FreshReport s) :
    s.StatusSound rndisFunction := by
  have hinv : GadgetInv rndisFunction s := by
    refine h.invariant (GadgetInv rndisFunction) ?_ fun s step s' hs hok hnext => hs.next hok hnext
    rintro s ⟨functions, applied, links, udc, rfl⟩
    exact ⟨List.Pairwise.nil, Nat.le_refl _, fun hpos => absurd hpos (Nat.lt_irrefl 0),
      fun _ => rfl⟩
  intro hcalls happlied
  exact ((hinv.promised hcalls).settled (Or.inl happlied)).1

/-- After a report the status is sound exactly if the links happen to be those of the mask. -/
theorem statusSound_report_iff (hcalls : 0 < s.calls)
    (h : s.monitorStep controller .report = some s') :
    s'.StatusSound rndisFunction ↔
      s.links = setupLinks rndisFunction s.currentUsbFunctions := by
  cases monitorStepsTo_of_monitorStep h
  simp [StatusSound, hcalls]

/-- A call for adb that finds no endpoint files, which appear later, and the pull-up. -/
def adbSteps : List GadgetStep :=
  [.beginCall GadgetFunction.adb true] ++ succeed 15 ++
    [.monitor (.access fun _ => false), .perform { ok := true }, .monitor (.access fun _ => true),
      .monitor (.writeUdc true)]

/-- adb is requested, its monitor pulls up and reports. -/
def adbGadget : UsbGadget :=
  (((gadgetMachine "rndis.gs4" "musb-hdrc").restrict FreshReport).exec booted
    (adbSteps ++ [.monitor .report])).get (by decide)

theorem statusSound_of_freshReports_adb :
    adbGadget.currentUsbFunctionsApplied = true ∧ adbGadget.StatusSound "rndis.gs4" :=
  ⟨by decide, statusSound_of_freshReports
    (Machine.reachableVia_of_exec (booted_start "rndis.gs4" "musb-hdrc") _)⟩

/-- The monitor of the adb call has written the UDC file when mtp is requested. It reports, then the
teardown goes on, and watching the mtp directory fails. -/
def staleGadget : UsbGadget :=
  ((gadgetMachine "rndis.gs4" "musb-hdrc").exec booted
    (adbSteps ++ [.beginCall GadgetFunction.mtp true, .monitor .report] ++ succeed 7 ++
      [.monitor .readEvent] ++ succeed 4 ++
      [.perform { ok := false }, .perform { ok := true }])).get (by decide)

/-- The call for mtp is over and has failed; mtp is reported as applied, and nothing is linked. -/
theorem staleGadget_unsound :
    (gadgetMachine "rndis.gs4" "musb-hdrc").Reachable staleGadget ∧ staleGadget.script = [] ∧
      staleGadget.currentUsbFunctions = GadgetFunction.mtp ∧
      staleGadget.currentUsbFunctionsApplied = true ∧ staleGadget.links = [] ∧
      ¬ staleGadget.StatusSound "rndis.gs4" := by
  refine ⟨Machine.reachable_of_exec (booted_start _ _) _, by decide, by decide, by decide,
    by decide, fun hsound => ?_⟩
  exact absurd (hsound (by decide) (by decide)) (by decide)

end UsbGadget

end GloDroid.GadgetHal

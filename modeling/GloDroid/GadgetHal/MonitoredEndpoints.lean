import GloDroid.GadgetHal.Gadget

/-!
# The Monitored Endpoints

The endpoints are appended to `mEndpointList` while a call adds its functions, and only
`MonitorFfs::reset` clears the list, which a teardown calls only for a running monitor. A call that
fails after it appended endpoints leaves them there without a monitor, so the next call finds them
in front of its own (`endpointList_startMonitor_iff`).
-/

namespace GloDroid.GadgetHal

open GloDroid.Base

namespace UsbGadget

variable {rndisFunction controller : String} {s s' : UsbGadget}

/-- The list a call starts from, once its teardown is over. -/
def leftover (s : UsbGadget) : List String := if s.monitorRunning then [] else s.endpointList

/-- A script that still starts the monitor leads to the endpoints of the mask, after `left`. -/
def EndpointsPromised (left : List String) (s : UsbGadget) : Prop :=
  .startMonitor ∈ s.script →
    (s.script.foldl GadgetOp.endpointEffect (s.monitorRunning, s.endpointList)).2 =
      left ++ ffsEndpoints s.currentUsbFunctions

theorem endpointsPromised_beginCall {functions : Functions} {hasCallback : Bool}
    (h : s.beginCall rndisFunction functions hasCallback = some s') :
    EndpointsPromised s.leftover s' := by
  obtain ⟨-, rfl⟩ := beginCall_eq h
  exact fun _ => foldl_endpointEffect_callScript _ _ _

/-- The step lemma inside a call: operations that succeed keep the promise, a failed one gives up
starting the monitor, and the monitor thread does not touch the list. -/
theorem EndpointsPromised.next {left : List String} {step : GadgetStep}
    (h : EndpointsPromised left s) (hstep : step.isBeginCall = false)
    (hnext : (gadgetMachine rndisFunction controller).next s step = some s') :
    EndpointsPromised left s' := by
  cases step with
  | beginCall functions hasCallback => cases hstep
  | perform env =>
    obtain ⟨op, script, s₁, hscript, hdone, rfl⟩ | ⟨op, script, links, status, hscript, hop, rfl⟩ |
      rfl := perform_cases hnext
    · -- the operation had its effect, the rest of the script still has to
      intro hstart
      show (script.foldl GadgetOp.endpointEffect (s₁.monitorRunning, s₁.endpointList)).2 =
        left ++ ffsEndpoints s₁.currentUsbFunctions
      rw [hdone.monitor, hdone.functions]
      simp only [EndpointsPromised, hscript, List.foldl_cons] at h
      exact h (List.mem_cons_of_mem _ hstart)
    · -- what is left after a failure does not start the monitor
      intro hstart
      simp at hstart
    · exact h
  | monitor step =>
    obtain ⟨⟨hscript, -, hfunctions, -⟩, ⟨-, hrunning, hlist⟩, -⟩ := monitorStep_frame hnext
    simp only [EndpointsPromised, hscript, hfunctions, hrunning, hlist]
    exact h

/-- At the start of the monitor the promise is due. -/
theorem EndpointsPromised.startMonitor {left : List String} {script : List GadgetOp}
    (h : EndpointsPromised left s) (hordered : s.Ordered)
    (hscript : s.script = .startMonitor :: script) :
    s.endpointList = left ++ ffsEndpoints s.currentUsbFunctions := by
  have hanswers := hordered.answers_of_finishes hscript rfl
  have hdue := h (by simp [hscript])
  rw [hscript, List.foldl_cons, foldl_eq_of_noEffect script] at hdue
  · exact hdue
  · intro op hop monitor
    have hanswer := hanswers op hop
    cases op <;> first | rfl | cases hanswer

/-- The mask of the current call. -/
theorem currentUsbFunctions_next {step : GadgetStep} (hstep : step.isBeginCall = false)
    (hnext : (gadgetMachine rndisFunction controller).next s step = some s') :
    s'.currentUsbFunctions = s.currentUsbFunctions := by
  cases step with
  | beginCall functions hasCallback => cases hstep
  | perform env =>
    obtain ⟨op, script, s₁, -, hdone, rfl⟩ | ⟨op, script, links, status, -, -, rfl⟩ | rfl :=
      perform_cases hnext
    · exact hdone.functions
    · rfl
    · rfl
  | monitor step => exact (monitorStep_frame hnext).1.2.2.1

/-- Within a call, in every interleaving, the list at the start of the monitor is what the call
found after its teardown, followed by its own endpoints. -/
theorem endpointList_startMonitor {functions : Functions} {hasCallback : Bool}
    {steps : List GadgetStep} {script : List GadgetOp}
    (hreach : (gadgetMachine rndisFunction controller).Reachable s)
    (hrun : (gadgetMachine rndisFunction controller).Run s
      (.beginCall functions hasCallback :: steps) s')
    (hsteps : ∀ step ∈ steps, step.isBeginCall = false)
    (hscript : s'.script = .startMonitor :: script) :
    s'.endpointList = s.leftover ++ ffsEndpoints functions := by
  cases hrun with
  | @cons _ s₁ _ _ _ hbegin hrest =>
    have hordered : s₁.Ordered := (ordered_of_reachable hreach).next hbegin
    have hpromised := endpointsPromised_beginCall hbegin
    have hmask : s₁.currentUsbFunctions = functions := by
      obtain ⟨-, rfl⟩ := beginCall_eq hbegin
      rfl
    -- the three facts are kept by every step of this call
    obtain ⟨hordered', hpromised', hmask'⟩ := hrest.invariant
      (P := fun t => t.Ordered ∧ EndpointsPromised s.leftover t ∧ t.currentUsbFunctions = functions)
      (fun t step t' hstep ⟨ho, hp, hm⟩ hnext =>
        ⟨ho.next hnext, hp.next hstep hnext, (currentUsbFunctions_next hstep hnext).trans hm⟩)
      hsteps ⟨hordered, hpromised, hmask⟩
    have hlist := hpromised'.startMonitor hordered' hscript
    rwa [hmask'] at hlist

theorem leftover_eq_nil_iff : s.leftover = [] ↔ s.monitorRunning = true ∨ s.endpointList = [] := by
  cases hrunning : s.monitorRunning <;> simp [leftover, hrunning]

/-- **The monitor waits for the right endpoints** if and only if the call found a running monitor or
an empty list: after any history, in any interleaving of the call with the monitor thread, and
whatever fails. -/
theorem endpointList_startMonitor_iff {rndisFunction controller : String} {s s' : UsbGadget}
    {functions : Functions} {hasCallback : Bool} {steps : List GadgetStep} {script : List GadgetOp}
    (hreach : (gadgetMachine rndisFunction controller).Reachable s)
    (hrun : (gadgetMachine rndisFunction controller).Run s
      (.beginCall functions hasCallback :: steps) s')
    (hsteps : ∀ step ∈ steps, step.isBeginCall = false)
    (hscript : s'.script = .startMonitor :: script) :
    s'.endpointList = ffsEndpoints functions ↔
      s.monitorRunning = true ∨ s.endpointList = [] := by
  rw [endpointList_startMonitor hreach hrun hsteps hscript, ← leftover_eq_nil_iff]
  exact List.append_left_eq_self

/-- adb is requested first: the monitor is about to start. -/
def startingGadget : UsbGadget :=
  ((gadgetMachine "rndis.gs4" "musb-hdrc").exec booted
    (.beginCall GadgetFunction.adb true :: succeed 14)).get (by decide)

theorem endpointList_startMonitor_iff_first :
    startingGadget.endpointList = ffsEndpoints GadgetFunction.adb ↔
      booted.monitorRunning = true ∨ booted.endpointList = [] :=
  endpointList_startMonitor_iff (.start (booted_start "rndis.gs4" "musb-hdrc"))
    (Machine.run_of_exec _) (show ∀ step ∈ succeed 14, step.isBeginCall = false by decide)
    (show startingGadget.script = [.startMonitor, .answerPullUp] by decide)

/-- A call for mtp and adb that fails to watch the adb directory. -/
def halfAddedGadget : UsbGadget :=
  ((gadgetMachine "rndis.gs4" "musb-hdrc").exec booted
    ([.beginCall (GadgetFunction.adb ||| GadgetFunction.mtp) true] ++ succeed 16 ++
      [.perform { ok := false }, .perform { ok := true }])).get (by decide)

/-- A call for adb after that, at the start of its monitor. -/
def mixedGadget : UsbGadget :=
  ((gadgetMachine "rndis.gs4" "musb-hdrc").exec halfAddedGadget
    (.beginCall GadgetFunction.adb true :: succeed 14)).get (by decide)

/-- The monitor of the adb call also waits for the endpoints of mtp, which is not set up. -/
theorem mixedGadget_leftover :
    (gadgetMachine "rndis.gs4" "musb-hdrc").Reachable halfAddedGadget ∧
      (gadgetMachine "rndis.gs4" "musb-hdrc").Run halfAddedGadget
        (.beginCall GadgetFunction.adb true :: succeed 14) mixedGadget ∧
      mixedGadget.script = [.startMonitor, .answerPullUp] ∧
      mixedGadget.endpointList =
        ["/dev/usb-ffs/mtp/ep1", "/dev/usb-ffs/mtp/ep2", "/dev/usb-ffs/mtp/ep3"] ++
          ffsEndpoints GadgetFunction.adb ∧
      mixedGadget.endpointList ≠ ffsEndpoints GadgetFunction.adb :=
  ⟨Machine.reachable_of_exec (booted_start _ _) _, Machine.run_of_exec _, by decide, by decide,
    by decide⟩

end UsbGadget

end GloDroid.GadgetHal

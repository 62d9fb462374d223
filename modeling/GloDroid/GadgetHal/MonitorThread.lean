import GloDroid.GadgetHal.StatusSound
import GloDroid.GadgetHal.Answers

/-!
# One Monitor Thread at a Time

`startMonitorFd` goes through `mEndpointList` without a lock, and `startMonitor` replaces a thread
object that must have been joined by then. Nothing in `MonitorFfs` enforces this: it rests on the
order in which `setCurrentUsbFunctions` makes its calls. Each of them tears down before it adds an
endpoint, a call that fails adds none any more, and one that has started the monitor only answers.

So the list stays as it is while there is a thread, whatever fails and however the thread and the
calls interleave, and a thread is started only when the last one has been joined and has read the
event that told it to exit (`monitor_exclusive`).
-/

namespace GloDroid.GadgetHal

open GloDroid.Base

/-- The operation changes what the thread works on, or starts one. -/
def GadgetOp.needsNoThread : GadgetOp → Bool
  | .addEndPoint _ | .startMonitor => true
  | _ => false

/-- The teardown comes before all of these operations. -/
theorem resetMonitor_before {rndisFunction : String} {functions : Functions} {op : GadgetOp}
    {front rest : List GadgetOp}
    (hscript : callScript rndisFunction functions = front ++ op :: rest)
    (hop : op.needsNoThread = true) : .resetMonitor ∈ front := by
  have hteardown : op ∉ tearDownGadget := by
    intro hmem
    simp only [tearDownGadget, resetGadget, List.mem_append, List.mem_cons, List.not_mem_nil,
      or_false] at hmem
    rcases hmem with (rfl | rfl | rfl | rfl | rfl | rfl) | rfl <;> cases hop
  rw [callScript] at hscript
  have hreset : .resetMonitor ∈ tearDownGadget := List.mem_append_right _ List.mem_cons_self
  rcases List.append_eq_append_iff.mp hscript with ⟨between, rfl, -⟩ | ⟨between, hfront, hrest⟩
  · exact List.mem_append_left _ hreset
  · -- else the operation would be one of the teardown, or come right after it
    cases between with
    | nil => exact List.append_nil front ▸ hfront ▸ hreset
    | cons op' between =>
      obtain ⟨rfl, -⟩ := List.cons_eq_cons.mp hrest
      exact absurd (hfront ▸ List.mem_append_right _ List.mem_cons_self) hteardown

namespace UsbGadget

variable {rndisFunction controller : String} {s s' : UsbGadget}

/-- Whatever needs that there is no thread comes after a teardown, or there is none now. -/
def TornDownFirst (s : UsbGadget) : Prop :=
  ∀ front op rest, s.script = front ++ op :: rest → op.needsNoThread = true →
    .resetMonitor ∈ front ∨ s.Unmonitored

/-- An event that was written has not been read yet only if there is a thread to read it. -/
def SignalRead (s : UsbGadget) : Prop := s.monitor = .exited → s.stopMonitor = false

theorem Unmonitored.signal (h : s.Unmonitored) : { s with stopMonitor := true }.Unmonitored :=
  ⟨h.notRunning, h.exited, h.notPulledUp⟩

/-- The step lemma: the order of the operations is kept, and a reset leaves no thread. -/
theorem TornDownFirst.next {step : GadgetStep} (h : s.TornDownFirst) (hordered : s.Ordered)
    (howned : s.MonitorOwned)
    (hnext : (gadgetMachine rndisFunction controller).next s step = some s') :
    s'.TornDownFirst := by
  intro front op rest hscript' hop
  cases step with
  | beginCall functions hasCallback =>
    obtain ⟨-, rfl⟩ := beginCall_eq hnext
    exact .inl (resetMonitor_before hscript' hop)
  | monitor step =>
    obtain ⟨⟨hscript, -⟩, -⟩ := monitorStep_frame hnext
    rcases h front op rest (hscript ▸ hscript') hop with hreset | hnone
    · exact .inl hreset
    · -- a thread that does not exist makes no step
      rw [show (gadgetMachine rndisFunction controller).next s (.monitor step) = none from
        monitorStep_exited hnone.exited step] at hnext
      cases hnext
  | perform env =>
    obtain ⟨first, script, hscript, ⟨s₁, hdone, rfl⟩ | ⟨s₁, status, hfailed, rfl⟩ | hagain⟩ :=
      perform_eq hnext
    · have hscript₀ : s.script = (first :: front) ++ op :: rest := by
        rw [hscript, List.cons_append]
        exact congrArg (first :: ·) hscript'
      by_cases hreset : first = .resetMonitor
      · -- the reset has joined the thread
        obtain ⟨hrunning, hexited, hpullup⟩ := execute_resetMonitor howned (hreset ▸ hdone)
        exact .inr ⟨hrunning, hexited, hpullup⟩
      · rcases h (first :: front) op rest hscript₀ hop with hmem | hnone
        · exact .inl ((List.mem_cons.mp hmem).resolve_left (Ne.symm hreset))
        · -- behind the start of a monitor there are only answers
          have hstart : first ≠ .startMonitor := by
            rintro rfl
            have hrest : script = front ++ op :: rest := hscript'
            have hmem : op ∈ script := hrest ▸ List.mem_append_right front List.mem_cons_self
            have hanswers := hordered.answers_of_finishes hscript rfl op hmem
            cases op <;> simp [GadgetOp.needsNoThread, GadgetOp.answers] at hop hanswers
          obtain ⟨hrunning, hexited, hpullup⟩ :=
            hnone.congr (execute_sameMonitor hreset hstart hdone)
          exact .inr ⟨hrunning, hexited, hpullup⟩
    · -- after a failure there is only the answer
      have hrest : [GadgetOp.answer status] = front ++ op :: rest := hscript'
      have hmem : op ∈ [GadgetOp.answer status] :=
        hrest ▸ List.mem_append_right front List.mem_cons_self
      obtain rfl := List.mem_singleton.mp hmem
      cases hop
    · obtain rfl := execute_again hagain
      exact (h front op rest hscript' hop).imp_right Unmonitored.signal

/-- Only a thread is signalled. -/
theorem monitor_of_again {env : OpEnv} {op : GadgetOp}
    (h : s.execute controller env op = .again s') : s.monitor ≠ .exited := by
  cases op with
  | resetMonitor =>
    simp only [execute] at h
    split_ifs at h with hrunning hexited
    exact hexited
  | pullDown | notSupported | addEndPoint | setApplied | startMonitor | answer | answerPullUp =>
    cases h
  | writeFile | unlinkFunctions | addInotifyFd | linkFunction | pullUp =>
    simp only [execute] at h
    split_ifs at h

theorem SignalRead.next {step : GadgetStep} (h : s.SignalRead)
    (hnext : (gadgetMachine rndisFunction controller).next s step = some s') : s'.SignalRead := by
  intro hexited'
  cases step with
  | beginCall functions hasCallback =>
    obtain ⟨-, rfl⟩ := beginCall_eq hnext
    exact h hexited'
  | monitor step =>
    cases monitorStepsTo_of_monitorStep hnext with
    | readEvent => rfl
    | started hphase =>
      simp only at hexited'
      split_ifs at hexited'
    | wentAway hphase | unchanged hphase => cases hphase.symm.trans hexited'
    | cameBack | written | notWritten | report => cases hexited'
  | perform env =>
    obtain ⟨op, script, -, ⟨s₁, hdone, rfl⟩ | ⟨s₁, status, hfailed, rfl⟩ | hagain⟩ :=
      perform_eq hnext
    · cases succeeds_of_execute hdone with
      | startMonitor => cases hexited'
      | pullDown | writeFile | unlinkFunctions | noMonitor | joined | addInotifyFd | linkFunction
      | addEndPoint | pullUp | setApplied | answers => exact h hexited'
    · -- a failed operation leaves the thread alone
      obtain ⟨-, -, links, rfl⟩ := execute_failed hfailed
      exact h hexited'
    · -- the thread that is told to exit is still there
      have hthread := monitor_of_again hagain
      obtain rfl := execute_again hagain
      exact absurd hexited' hthread

/-- The invariant of the thread and the calls. -/
structure OneThread (s : UsbGadget) : Prop where
  tornDown : s.TornDownFirst
  signalRead : s.SignalRead
  ordered : s.Ordered
  owned : s.MonitorOwned

theorem oneThread_of_reachable (h : (gadgetMachine rndisFunction controller).Reachable s) :
    s.OneThread := by
  apply h.invariant OneThread
  · intro s hstart
    refine ⟨?_, ?_, ordered_of_reachable (.start hstart), monitorOwned_of_reachable (.start hstart)⟩
    · obtain ⟨functions, applied, links, udc, rfl⟩ := hstart
      intro front op rest hscript
      simp at hscript
    · obtain ⟨functions, applied, links, udc, rfl⟩ := hstart
      exact fun _ => rfl
  · intro s step s' hs _ hnext
    exact ⟨hs.tornDown.next hs.ordered hs.owned hnext, hs.signalRead.next hnext,
      hs.ordered.next hnext, monitorOwned_next hs.owned hnext⟩

/-- An operation changes the list only if it needs that there is no thread, or joins it. -/
theorem endpointList_of_done {op : GadgetOp} (h : Done s s' op) (hreset : op ≠ .resetMonitor)
    (hop : op.needsNoThread = false) : s'.endpointList = s.endpointList := by
  have heffect := congrArg Prod.snd h.monitor
  cases op <;> first | exact heffect | exact absurd rfl hreset | cases hop

/-- **One thread at a time.** In every interleaving of the calls with the monitor thread, and
whatever fails, no step changes the list of the endpoints while there is a thread; and when a call
is about to start one, the last one has been joined and no event waits for the new one. -/
theorem monitor_exclusive (h : (gadgetMachine rndisFunction controller).Reachable s) :
    (s.monitor ≠ .exited → ∀ step s',
      (gadgetMachine rndisFunction controller).next s step = some s' →
        s'.endpointList = s.endpointList) ∧
    ∀ script, s.script = .startMonitor :: script →
      s.monitorRunning = false ∧ s.monitor = .exited ∧ s.stopMonitor = false := by
  have hone := oneThread_of_reachable h
  -- an operation that needs that there is no thread is performed when there is none
  have hnone : ∀ op script, s.script = op :: script → op.needsNoThread = true → s.Unmonitored := by
    intro op script hscript hop
    exact (hone.tornDown [] op script hscript hop).resolve_left List.not_mem_nil
  constructor
  · intro hthread step s' hnext
    cases step with
    | beginCall functions hasCallback =>
      obtain ⟨-, rfl⟩ := beginCall_eq hnext
      rfl
    | monitor step => exact (monitorStep_frame hnext).2.1.2.2
    | perform env =>
      obtain ⟨op, script, hscript, ⟨s₁, hdone, rfl⟩ | ⟨s₁, status, hfailed, rfl⟩ | hagain⟩ :=
        perform_eq hnext
      · cases hop : op.needsNoThread with
        | true => exact absurd (hnone op script hscript hop).exited hthread
        | false =>
          by_cases hreset : op = .resetMonitor
          · -- a reset that is through has joined the thread
            subst hreset
            cases succeeds_of_execute hdone with
            | noMonitor => rfl
            | joined _ hexited => exact absurd hexited hthread
            | answers hop => cases hop
          · have hkept : s₁.endpointList = s.endpointList :=
              endpointList_of_done (execute_done hdone) hreset hop
            exact hkept
      · obtain ⟨-, -, links, rfl⟩ := execute_failed hfailed
        rfl
      · rw [execute_again hagain]
  · intro script hscript
    have hgone := hnone _ script hscript rfl
    exact ⟨hgone.notRunning, hgone.exited, hone.signalRead hgone.exited⟩

/-- The gadget pulled up for adb when mtp is requested: the teardown has written the event and waits
for the thread. -/
def joiningGadget : UsbGadget :=
  ((gadgetMachine "rndis.gs4" "musb-hdrc").exec booted
    (adbSteps ++ [.monitor .report, .beginCall GadgetFunction.mtp true] ++ succeed 7)).get
      (by decide)

/-- The thread reads the event, and the call goes on to where it starts the next one. -/
def rejoinedGadget : UsbGadget :=
  ((gadgetMachine "rndis.gs4" "musb-hdrc").exec booted
    (adbSteps ++ [.monitor .report, .beginCall GadgetFunction.mtp true] ++ succeed 7 ++
      [.monitor .readEvent] ++ succeed 9)).get (by decide)

theorem monitor_exclusive_rejoined :
    (joiningGadget.monitor ≠ .exited ∧ ∀ step s',
      (gadgetMachine "rndis.gs4" "musb-hdrc").next joiningGadget step = some s' →
        s'.endpointList = joiningGadget.endpointList) ∧
    rejoinedGadget.script = [.startMonitor, .answerPullUp] ∧
      rejoinedGadget.monitorRunning = false ∧ rejoinedGadget.monitor = .exited ∧
      rejoinedGadget.stopMonitor = false :=
  ⟨⟨by decide, (monitor_exclusive (Machine.reachable_of_exec (booted_start _ _) _)).1 (by decide)⟩,
    by decide, (monitor_exclusive (Machine.reachable_of_exec (booted_start _ _) _)).2 _
      (show rejoinedGadget.script = [.startMonitor, .answerPullUp] by decide)⟩

end UsbGadget

end GloDroid.GadgetHal

import GloDroid.Base.Machine
import GloDroid.GadgetHal.Script

/-!
# The USB Gadget HAL

The state of `UsbGadget` and its `MonitorFfs`, and the interleavings of `setCurrentUsbFunctions`
with the monitor thread.

- A call stores the mask, clears the flag and then performs its script, one operation a step. The
  calls are serialised by `mLockSetCurrentFunction`, so a call begins when no script is left. The
  mask and the flag are stored in one step: the monitor reads neither, and the service has a single
  RPC thread.
- The monitor thread checks its endpoint files when it starts and at each inotify event, writes
  the UDC file when they are all there, and then reports through the callback, which sets the flag.

The answers of the environment (which writes, links and watches succeed, what a failed unlinking
removed, which endpoint files exist) come with the steps.
-/

namespace GloDroid.GadgetHal

open GloDroid.Base

/-! ## State -/

/-- Where the monitor thread is. -/
inductive MonitorPhase where
  /-- There is no thread, or it has returned. -/
  | exited
  /-- Before the first check of the endpoint files. -/
  | starting
  /-- All files were there: it sleeps and then writes the UDC file. -/
  | pullUp
  /-- The UDC file is written: it takes `mLock` and reports. -/
  | report
  /-- In `epoll_wait`, or between two events. -/
  | polling
  deriving DecidableEq, Repr

/-- `UsbGadget` with its `MonitorFfs`. -/
structure UsbGadget where
  currentUsbFunctions : Functions
  currentUsbFunctionsApplied : Bool
  /-- The entries of the configuration directory whose name contains `function`. -/
  links : List Link
  udc : String
  endpointList : List String := []
  monitorRunning : Bool := false
  gadgetPullup : Bool := false
  monitor : MonitorPhase := .exited
  writeUdc : Bool := true
  /-- The monitor was signalled to exit. -/
  stopMonitor : Bool := false
  /-- What the current call still has to do. -/
  script : List GadgetOp := []
  /-- The argument of the current call, and whether it has a callback. -/
  functions : Functions := GadgetFunction.none
  hasCallback : Bool := false
  /-- The calls of `setCurrentUsbFunctionsCb`. -/
  answers : List (Functions × Status) := []
  /-- How many calls have begun, and which of them started the monitor. -/
  calls : Nat := 0
  monitorCall : Nat := 0

/-! ## Calls -/

namespace UsbGadget

/-- `setCurrentUsbFunctions`, up to the first operation of its script. -/
def beginCall (s : UsbGadget) (rndisFunction : String) (functions : Functions)
    (hasCallback : Bool) : Option UsbGadget :=
  if s.script = [] then
    some { s with
      currentUsbFunctions := functions
      currentUsbFunctionsApplied := false
      script := callScript rndisFunction functions
      functions
      hasCallback
      calls := s.calls + 1 }
  else none

/-- The callback is answered, if there is one. -/
def answer (s : UsbGadget) (status : Status) : UsbGadget :=
  if s.hasCallback then { s with answers := s.answers ++ [(s.functions, status)] } else s

/-- What the environment answers to an operation: whether it succeeds, and for a failed unlinking
which links are still there. -/
structure OpEnv where
  ok : Bool
  keeps : Link → Bool := fun _ => true

/-- How an operation goes. -/
inductive Outcome where
  | done (s : UsbGadget)
  | failed (s : UsbGadget) (status : Status)
  /-- The operation is not over yet. -/
  | again (s : UsbGadget)
  | blocked

/-- An operation of a call. -/
def execute (s : UsbGadget) (controller : String) (env : OpEnv) : GadgetOp → Outcome
  | .pullDown => .done (if env.ok then { s with udc := "none" } else s)
  | .writeFile _ _ | .addInotifyFd _ => if env.ok then .done s else .failed s .error
  | .unlinkFunctions =>
    if env.ok then .done { s with links := [] }
    else .failed { s with links := s.links.filter env.keeps } .error
  | .resetMonitor =>
    if !s.monitorRunning then .done s
    else if s.monitor = .exited then
      -- `join` returns, and the rest of `reset`
      .done { s with monitorRunning := false, endpointList := [], gadgetPullup := false }
    -- `mEventFd` is written once, then `join` waits
    else if !s.stopMonitor then .again { s with stopMonitor := true }
    else .blocked
  | .notSupported => .failed s .configurationNotSupported
  | .linkFunction function index =>
    let link := linkOf function index
    -- a name that exists makes `symlink` fail
    if env.ok && !(s.links.map Prod.fst).contains link.1 then
      .done { s with links := s.links ++ [link] }
    else .failed s .error
  | .addEndPoint ep => .done { s with endpointList := s.endpointList ++ [ep] }
  | .pullUp => if env.ok then .done { s with udc := controller } else .failed s .error
  | .setApplied => .done { s with currentUsbFunctionsApplied := true }
  | .startMonitor =>
    .done { s with
      monitorRunning := true
      monitor := .starting
      writeUdc := true
      monitorCall := s.calls }
  | .answer status => .done (s.answer status)
  | .answerPullUp => .done (s.answer (if s.gadgetPullup then .success else .error))

/-- The next operation of the call; at the label `error` the rest of the script is dropped and the
callback answered. -/
def perform (s : UsbGadget) (controller : String) (env : OpEnv) : Option UsbGadget :=
  match s.script with
  | [] => none
  | op :: script =>
    match s.execute controller env op with
    | .done s' => some { s' with script }
    | .failed s' status => some { s' with script := [.answer status] }
    | .again s' => some s'
    | .blocked => none

/-! ## The monitor thread -/

/-- A step of the monitor thread. -/
inductive MonitorStep where
  /-- The check of the endpoint files, at the start or for an inotify event. -/
  | access (exist : String → Bool)
  | writeUdc (ok : Bool)
  | report
  /-- The event of `mEventFd` is read. -/
  | readEvent

/-- `startMonitorFd`, step by step. -/
def monitorStep (s : UsbGadget) (controller : String) : MonitorStep → Option UsbGadget
  | .access exist =>
    let descriptorPresent := s.endpointList.all exist
    match s.monitor with
    | .starting =>
      some { s with monitor := if descriptorPresent then .pullUp else .polling }
    | .polling =>
      -- the owner of the endpoints went away: pull up again when it is back
      if !descriptorPresent && !s.writeUdc then some { s with writeUdc := true }
      else if descriptorPresent && s.writeUdc then some { s with monitor := .pullUp }
      else some s
    | _ => none
  | .writeUdc ok =>
    if s.monitor = .pullUp then
      some (if ok then { s with udc := controller, monitor := .report }
        else { s with monitor := .polling })
    else none
  | .report =>
    if s.monitor = .report then
      -- `currentFunctionsAppliedCallback`, called with true
      some { s with
        currentUsbFunctionsApplied := true
        gadgetPullup := true
        writeUdc := false
        monitor := .polling }
    else none
  | .readEvent =>
    if s.monitor = .polling ∧ s.stopMonitor = true then
      some { s with stopMonitor := false, monitor := .exited }
    else none

end UsbGadget

/-! ## Interleavings -/

/-- One step: a call begins, the call goes on, or the monitor thread runs. -/
inductive GadgetStep where
  | beginCall (functions : Functions) (hasCallback : Bool)
  | perform (env : UsbGadget.OpEnv)
  | monitor (step : UsbGadget.MonitorStep)

/-- A call begins. -/
def GadgetStep.isBeginCall : GadgetStep → Bool
  | .beginCall _ _ => true
  | _ => false

/-- The service for given properties. At the start nothing is known of the flag, the mask and the
links; the flag is not initialised and the links are those of the boot scripts. -/
def gadgetMachine (rndisFunction controller : String) : Machine UsbGadget GadgetStep where
  start s := ∃ functions applied links udc, s =
    { currentUsbFunctions := functions, currentUsbFunctionsApplied := applied, links, udc }
  next s
    | .beginCall functions hasCallback => s.beginCall rndisFunction functions hasCallback
    | .perform env => s.perform controller env
    | .monitor step => s.monitorStep controller step

/-! ## What a step does -/

namespace UsbGadget

theorem beginCall_eq {s s' : UsbGadget} {rndisFunction : String} {functions : Functions}
    {hasCallback : Bool} (h : s.beginCall rndisFunction functions hasCallback = some s') :
    s.script = [] ∧ s' = { s with
      currentUsbFunctions := functions
      currentUsbFunctionsApplied := false
      script := callScript rndisFunction functions
      functions
      hasCallback
      calls := s.calls + 1 } := by
  simp only [beginCall] at h
  split_ifs at h with hscript
  exact ⟨hscript, (Option.some.inj h).symm⟩

/-- The state after an operation that succeeds. -/
inductive Succeeds (s : UsbGadget) (controller : String) : GadgetOp → UsbGadget → Prop where
  | pullDown (udc : String) : Succeeds s controller .pullDown { s with udc }
  | writeFile (path value : String) : Succeeds s controller (.writeFile path value) s
  | unlinkFunctions : Succeeds s controller .unlinkFunctions { s with links := [] }
  | noMonitor (hrunning : s.monitorRunning = false) : Succeeds s controller .resetMonitor s
  | joined (hrunning : s.monitorRunning = true) (hexited : s.monitor = .exited) :
      Succeeds s controller .resetMonitor
        { s with monitorRunning := false, endpointList := [], gadgetPullup := false }
  | addInotifyFd (path : String) : Succeeds s controller (.addInotifyFd path) s
  | linkFunction (function : String) (index : Nat)
      (hfree : (linkOf function index).1 ∉ s.links.map Prod.fst) :
      Succeeds s controller (.linkFunction function index)
        { s with links := s.links ++ [linkOf function index] }
  | addEndPoint (ep : String) : Succeeds s controller (.addEndPoint ep)
      { s with endpointList := s.endpointList ++ [ep] }
  | pullUp : Succeeds s controller .pullUp { s with udc := controller }
  | setApplied : Succeeds s controller .setApplied { s with currentUsbFunctionsApplied := true }
  | startMonitor : Succeeds s controller .startMonitor { s with
      monitorRunning := true
      monitor := .starting
      writeUdc := true
      monitorCall := s.calls }
  | answers {op : GadgetOp} (hop : op.answers = true) (answers : List (Functions × Status)) :
      Succeeds s controller op { s with answers }

theorem exists_answer (s : UsbGadget) (status : Status) :
    ∃ answers, s.answer status = { s with answers } := by
  unfold answer
  split_ifs
  · exact ⟨_, rfl⟩
  · exact ⟨s.answers, rfl⟩

theorem succeeds_of_execute {s s' : UsbGadget} {controller : String} {env : OpEnv} {op : GadgetOp}
    (h : s.execute controller env op = .done s') : Succeeds s controller op s' := by
  cases op with
  | pullDown =>
    obtain rfl := Outcome.done.inj h
    split_ifs
    · exact .pullDown "none"
    · exact .pullDown s.udc
  | writeFile path value =>
    simp only [execute] at h
    split_ifs at h
    exact Outcome.done.inj h ▸ .writeFile path value
  | unlinkFunctions =>
    simp only [execute] at h
    split_ifs at h
    exact Outcome.done.inj h ▸ .unlinkFunctions
  | resetMonitor =>
    simp only [execute] at h
    split_ifs at h with hrunning hexited
    · exact Outcome.done.inj h ▸ .noMonitor (by simpa using hrunning)
    · exact Outcome.done.inj h ▸ .joined (by simpa using hrunning) hexited
  | notSupported => cases h
  | addInotifyFd path =>
    simp only [execute] at h
    split_ifs at h
    exact Outcome.done.inj h ▸ .addInotifyFd path
  | linkFunction function index =>
    simp only [execute] at h
    split_ifs at h with hok
    rw [Bool.and_eq_true, Bool.not_eq_true'] at hok
    exact Outcome.done.inj h ▸ .linkFunction function index (by simpa using hok.2)
  | addEndPoint ep => exact Outcome.done.inj h ▸ .addEndPoint ep
  | pullUp =>
    simp only [execute] at h
    split_ifs at h
    exact Outcome.done.inj h ▸ .pullUp
  | setApplied => exact Outcome.done.inj h ▸ .setApplied
  | startMonitor => exact Outcome.done.inj h ▸ .startMonitor
  | answer status =>
    obtain ⟨answers, heq⟩ := s.exists_answer status
    exact Outcome.done.inj h ▸ heq ▸ .answers rfl answers
  | answerPullUp =>
    obtain ⟨answers, heq⟩ := s.exists_answer (if s.gadgetPullup then .success else .error)
    exact Outcome.done.inj h ▸ heq ▸ .answers rfl answers

/-- `s'` is `s` after `op` succeeded, with its effect on the links and on the monitor. The flag is
set and a monitor started only where the setup ends. -/
structure Done (s s' : UsbGadget) (op : GadgetOp) : Prop where
  links : s'.links = op.linkEffect s.links
  monitor : (s'.monitorRunning, s'.endpointList) =
    op.endpointEffect (s.monitorRunning, s.endpointList)
  functions : s'.currentUsbFunctions = s.currentUsbFunctions
  calls : s'.calls = s.calls
  unfinished : op.finishes = false →
    s'.currentUsbFunctionsApplied = s.currentUsbFunctionsApplied ∧ s'.monitorCall = s.monitorCall
  monitorCall : s'.monitorCall = s.monitorCall ∨ s'.monitorCall = s.calls

/-- An operation that succeeds has its effect. -/
theorem execute_done {s s' : UsbGadget} {controller : String} {env : OpEnv} {op : GadgetOp}
    (h : s.execute controller env op = .done s') : Done s s' op := by
  cases succeeds_of_execute h with
  | pullDown | writeFile | unlinkFunctions | addInotifyFd | linkFunction | addEndPoint | pullUp =>
    exact ⟨rfl, rfl, rfl, rfl, fun _ => ⟨rfl, rfl⟩, Or.inl rfl⟩
  | noMonitor hrunning =>
    -- the endpoint list stays as it is
    refine ⟨rfl, ?_, rfl, rfl, fun _ => ⟨rfl, rfl⟩, Or.inl rfl⟩
    simp [GadgetOp.endpointEffect, hrunning]
  | joined hrunning =>
    refine ⟨rfl, ?_, rfl, rfl, fun _ => ⟨rfl, rfl⟩, Or.inl rfl⟩
    simp [GadgetOp.endpointEffect, hrunning]
  | setApplied => exact ⟨rfl, rfl, rfl, rfl, (fun hop => by cases hop), Or.inl rfl⟩
  | startMonitor => exact ⟨rfl, rfl, rfl, rfl, (fun hop => by cases hop), Or.inr rfl⟩
  | answers hop =>
    cases op <;> first | exact ⟨rfl, rfl, rfl, rfl, fun _ => ⟨rfl, rfl⟩, Or.inl rfl⟩ | cases hop

/-- An operation that fails is not an answer, leaves an error to be answered, and loses nothing but
links. -/
theorem execute_failed {s s' : UsbGadget} {controller : String} {env : OpEnv} {op : GadgetOp}
    {status : Status} (h : s.execute controller env op = .failed s' status) :
    op.answers = false ∧ status ≠ .success ∧ ∃ links, s' = { s with links } := by
  cases op <;> simp only [execute] at h <;> (try split_ifs at h) <;>
    first
      | (obtain ⟨rfl, rfl⟩ := Outcome.failed.inj h; exact ⟨rfl, by decide, _, rfl⟩)
      | cases h

/-- Only the signal to the monitor leaves an operation unfinished. -/
theorem execute_again {s s' : UsbGadget} {controller : String} {env : OpEnv} {op : GadgetOp}
    (h : s.execute controller env op = .again s') : s' = { s with stopMonitor := true } := by
  cases op <;> simp only [execute] at h <;> (try split_ifs at h) <;>
    first
      | exact (Outcome.again.inj h).symm
      | cases h

/-- The operation that is performed, and how it goes. -/
theorem perform_eq {s s' : UsbGadget} {controller : String} {env : OpEnv}
    (h : s.perform controller env = some s') :
    ∃ op script, s.script = op :: script ∧
      ((∃ s₁, s.execute controller env op = .done s₁ ∧ s' = { s₁ with script }) ∨
        (∃ s₁ status, s.execute controller env op = .failed s₁ status ∧
          s' = { s₁ with script := [.answer status] }) ∨
        s.execute controller env op = .again s') := by
  simp only [perform] at h
  split at h
  case h_1 => cases h
  case h_2 op script hscript =>
    refine ⟨op, script, hscript, ?_⟩
    split at h
    case h_1 s₁ hdone => exact Or.inl ⟨s₁, hdone, (Option.some.inj h).symm⟩
    case h_2 s₁ status hfailed =>
      exact Or.inr (Or.inl ⟨s₁, status, hfailed, (Option.some.inj h).symm⟩)
    case h_3 s₁ hagain => exact Or.inr (Or.inr (Option.some.inj h ▸ hagain))
    case h_4 => cases h

/-- **One operation of a call**: it is done, or it fails and the call only answers, or it signals
the monitor. -/
theorem perform_cases {s s' : UsbGadget} {controller : String} {env : OpEnv}
    (h : s.perform controller env = some s') :
    (∃ op script s₁, s.script = op :: script ∧ Done s s₁ op ∧ s' = { s₁ with script }) ∨
      (∃ op script links status, s.script = op :: script ∧ op.answers = false ∧
        s' = { s with links, script := [.answer status] }) ∨
      s' = { s with stopMonitor := true } := by
  obtain ⟨op, script, hscript, ⟨s₁, hdone, rfl⟩ | ⟨s₁, status, hfailed, rfl⟩ | hagain⟩ :=
    perform_eq h
  · exact Or.inl ⟨op, script, s₁, hscript, execute_done hdone, rfl⟩
  · obtain ⟨hop, -, links, rfl⟩ := execute_failed hfailed
    exact Or.inr (Or.inl ⟨op, script, links, status, hscript, hop, rfl⟩)
  · exact Or.inr (Or.inr (execute_again hagain))

/-- The state after a step of the monitor thread. -/
inductive MonitorStepsTo (s : UsbGadget) (controller : String) :
    MonitorStep → UsbGadget → Prop where
  | started {exist : String → Bool} (hphase : s.monitor = .starting) :
      MonitorStepsTo s controller (.access exist)
        { s with monitor := if s.endpointList.all exist then .pullUp else .polling }
  | wentAway {exist : String → Bool} (hphase : s.monitor = .polling)
      (habsent : s.endpointList.all exist = false) (hclear : s.writeUdc = false) :
      MonitorStepsTo s controller (.access exist) { s with writeUdc := true }
  | cameBack {exist : String → Bool} (hphase : s.monitor = .polling)
      (hpresent : s.endpointList.all exist = true) (hwrite : s.writeUdc = true) :
      MonitorStepsTo s controller (.access exist) { s with monitor := .pullUp }
  | unchanged {exist : String → Bool} (hphase : s.monitor = .polling) :
      MonitorStepsTo s controller (.access exist) s
  | written (hphase : s.monitor = .pullUp) :
      MonitorStepsTo s controller (.writeUdc true) { s with udc := controller, monitor := .report }
  | notWritten (hphase : s.monitor = .pullUp) :
      MonitorStepsTo s controller (.writeUdc false) { s with monitor := .polling }
  | report (hphase : s.monitor = .report) : MonitorStepsTo s controller .report { s with
      currentUsbFunctionsApplied := true
      gadgetPullup := true
      writeUdc := false
      monitor := .polling }
  | readEvent (hphase : s.monitor = .polling) (hstop : s.stopMonitor = true) :
      MonitorStepsTo s controller .readEvent { s with stopMonitor := false, monitor := .exited }

theorem monitorStepsTo_of_monitorStep {s s' : UsbGadget} {controller : String} {step : MonitorStep}
    (h : s.monitorStep controller step = some s') : MonitorStepsTo s controller step s' := by
  cases step with
  | access exist =>
    simp only [monitorStep] at h
    split at h
    case h_1 hphase => exact Option.some.inj h ▸ .started hphase
    case h_2 hphase =>
      split_ifs at h with hgone hback
      · rw [Bool.and_eq_true, Bool.not_eq_true', Bool.not_eq_true'] at hgone
        exact Option.some.inj h ▸ .wentAway hphase hgone.1 hgone.2
      · rw [Bool.and_eq_true] at hback
        exact Option.some.inj h ▸ .cameBack hphase hback.1 hback.2
      · exact Option.some.inj h ▸ .unchanged hphase
    case h_3 => cases h
  | writeUdc ok =>
    simp only [monitorStep] at h
    split_ifs at h with hphase hok
    · obtain rfl := hok
      exact Option.some.inj h ▸ .written hphase
    · obtain rfl : ok = false := by simpa using hok
      exact Option.some.inj h ▸ .notWritten hphase
  | report =>
    simp only [monitorStep] at h
    split_ifs at h with hphase
    exact Option.some.inj h ▸ .report hphase
  | readEvent =>
    simp only [monitorStep] at h
    split_ifs at h with hphase
    exact Option.some.inj h ▸ .readEvent hphase.1 hphase.2

/-- **The monitor thread** changes nothing of the call, the links and the endpoint list; it sets the
flag exactly when it reports. -/
theorem monitorStep_frame {s s' : UsbGadget} {controller : String} {step : MonitorStep}
    (h : s.monitorStep controller step = some s') :
    (s'.script = s.script ∧ s'.links = s.links ∧
      s'.currentUsbFunctions = s.currentUsbFunctions ∧ s'.calls = s.calls) ∧
    (s'.monitorCall = s.monitorCall ∧ s'.monitorRunning = s.monitorRunning ∧
      s'.endpointList = s.endpointList) ∧
    (step ≠ .report → s'.currentUsbFunctionsApplied = s.currentUsbFunctionsApplied) := by
  cases monitorStepsTo_of_monitorStep h with
  | started | wentAway | cameBack | unchanged | written | notWritten | readEvent =>
    exact ⟨⟨rfl, rfl, rfl, rfl⟩, ⟨rfl, rfl, rfl⟩, fun _ => rfl⟩
  | report => exact ⟨⟨rfl, rfl, rfl, rfl⟩, ⟨rfl, rfl, rfl⟩, fun hstep => absurd rfl hstep⟩

/-- Once a call has set the flag or started the monitor, it only answers. -/
def Ordered (s : UsbGadget) : Prop :=
  s.script.Pairwise fun op later => op.finishes = true → later.answers = true

theorem Ordered.answers_of_finishes {s : UsbGadget} {op : GadgetOp} {script : List GadgetOp}
    (h : s.Ordered) (hscript : s.script = op :: script) (hfin : op.finishes = true) :
    ∀ later ∈ script, later.answers = true := by
  simp only [Ordered, hscript, List.pairwise_cons] at h
  exact fun later hl => h.1 later hl hfin

theorem Ordered.next {s s' : UsbGadget} {rndisFunction controller : String} {step : GadgetStep}
    (h : s.Ordered) (hnext : (gadgetMachine rndisFunction controller).next s step = some s') :
    s'.Ordered := by
  cases step with
  | beginCall functions hasCallback =>
    obtain ⟨-, rfl⟩ := beginCall_eq hnext
    exact pairwise_callScript _ _
  | perform env =>
    obtain ⟨op, script, s₁, hscript, -, rfl⟩ | ⟨op, script, links, status, -, -, rfl⟩ | rfl :=
      perform_cases hnext
    · simp only [Ordered, hscript] at h
      exact h.of_cons
    · exact List.pairwise_singleton _ _
    · exact h
  | monitor step =>
    obtain ⟨⟨hscript, -⟩, -⟩ := monitorStep_frame hnext
    simp only [Ordered, hscript]
    exact h

theorem ordered_of_reachable {s : UsbGadget} {rndisFunction controller : String}
    (h : (gadgetMachine rndisFunction controller).Reachable s) : s.Ordered := by
  refine h.invariant Ordered ?_ fun s step s' hs _ hnext => hs.next hnext
  rintro s ⟨functions, applied, links, udc, rfl⟩
  exact List.Pairwise.nil

/-! ## A concrete gadget -/

/-- The gadget as the boot scripts leave it. -/
def booted : UsbGadget :=
  { currentUsbFunctions := GadgetFunction.none, currentUsbFunctionsApplied := false, links := [],
    udc := "" }

theorem booted_start (rndisFunction controller : String) :
    (gadgetMachine rndisFunction controller).start booted :=
  ⟨_, _, _, _, rfl⟩

/-- `n` operations that succeed. -/
def succeed (n : Nat) : List GadgetStep := List.replicate n (.perform { ok := true })

end UsbGadget

end GloDroid.GadgetHal

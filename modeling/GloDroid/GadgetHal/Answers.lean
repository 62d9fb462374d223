import GloDroid.GadgetHal.Gadget
import Mathlib.Algebra.Ring.Nat

/-!
# The Answer of a Call

A call answers its callback once, with the mask it was asked for, and a successful answer tells the
truth: the links are those of the selected functions, and the UDC file was written with the
controller's name after the last of them was made.

A call goes through stages (`CallStage`): it sets up, it pulls up itself or waits for its monitor,
or it fails, and it has answered. The flag `gadgetPullup` cannot be left over from an earlier call:
it is only ever set while a monitor runs, and the teardown of the call stops that one.
-/

namespace GloDroid.GadgetHal

open GloDroid.Base

/-! ## The links of the selected functions -/

/-- `function0`, `function1` and so on, pointing in order to the functions selected for the mask. -/
def selectedLinks (rndisFunction : String) (functions : Functions) : List Link :=
  (addedFunctions rndisFunction functions).zipIdx.map fun a => linkOf a.1.function a.2

theorem AddedFunction.foldl_linkEffect (a : AddedFunction) (functionCount : Nat)
    (links : List Link) :
    (a.script functionCount).foldl GadgetOp.linkEffect links =
      links ++ [linkOf a.function functionCount] := by
  cases hffs : a.ffs with
  | none => simp [script, hffs, GadgetOp.linkEffect]
  | some ffs =>
    obtain ⟨directory, eps⟩ := ffs
    have hrest : (eps.map GadgetOp.addEndPoint).foldl GadgetOp.linkEffect
        (links ++ [linkOf a.function functionCount]) =
          links ++ [linkOf a.function functionCount] := by
      apply foldl_eq_of_noEffect
      intro op hop links
      obtain ⟨ep, -, rfl⟩ := List.mem_map.mp hop
      rfl
    simpa [script, hffs, GadgetOp.linkEffect] using hrest

theorem foldl_linkEffect_addFunctions (as : List AddedFunction) (functionCount : Nat)
    (links : List Link) :
    (addFunctions functionCount as).foldl GadgetOp.linkEffect links =
      links ++ (as.zipIdx functionCount).map fun a => linkOf a.1.function a.2 := by
  induction as generalizing functionCount links with
  | nil => simp [addFunctions]
  | cons a as ih =>
    rw [addFunctions, List.foldl_append, a.foldl_linkEffect, ih]
    simp [List.zipIdx_cons]

theorem setupLinks_eq (rndisFunction : String) (functions : Functions) :
    setupLinks rndisFunction functions = selectedLinks rndisFunction functions := by
  have hfinish : ∀ links, (finishSetup functions).foldl GadgetOp.linkEffect links = links := by
    intro links
    unfold finishSetup
    split_ifs <;> rfl
  rw [setupLinks, setupFunctions, List.foldl_append, hfinish, foldl_linkEffect_addFunctions,
    List.nil_append]
  rfl

/-! ## What a call leaves alone -/

namespace UsbGadget

variable {s s' : UsbGadget} {controller : String}

/-- There is no monitor thread, and the flag of the last one is gone. -/
structure Unmonitored (s : UsbGadget) : Prop where
  notRunning : s.monitorRunning = false
  exited : s.monitor = .exited
  notPulledUp : s.gadgetPullup = false

/-- A gadget that does not run a monitor has none. -/
def MonitorOwned (s : UsbGadget) : Prop := s.monitorRunning = false → s.Unmonitored

/-- The call keeps what it was called with. -/
structure SameCall (s s' : UsbGadget) : Prop where
  functions : s'.functions = s.functions
  hasCallback : s'.hasCallback = s.hasCallback

/-- The operation keeps the monitor thread and its flag. -/
structure SameMonitor (s s' : UsbGadget) : Prop where
  monitorRunning : s'.monitorRunning = s.monitorRunning
  monitor : s'.monitor = s.monitor
  gadgetPullup : s'.gadgetPullup = s.gadgetPullup

theorem Unmonitored.congr (h : s.Unmonitored) (hsame : SameMonitor s s') : s'.Unmonitored :=
  ⟨hsame.monitorRunning.trans h.notRunning, hsame.monitor.trans h.exited,
    hsame.gadgetPullup.trans h.notPulledUp⟩

/-- Answering is the only operation that answers. -/
theorem execute_sameCall {env : OpEnv} {op : GadgetOp}
    (h : s.execute controller env op = .done s') :
    SameCall s s' ∧ (op.answers = false → s'.answers = s.answers) := by
  cases succeeds_of_execute h with
  | pullDown | writeFile | unlinkFunctions | noMonitor | joined | addInotifyFd | linkFunction
  | addEndPoint | pullUp | setApplied | startMonitor => exact ⟨⟨rfl, rfl⟩, fun _ => rfl⟩
  | answers hop => exact ⟨⟨rfl, rfl⟩, fun hother => by simp [hop] at hother⟩

/-- Only the start and the reset of the monitor touch it. -/
theorem execute_sameMonitor {env : OpEnv} {op : GadgetOp} (hreset : op ≠ .resetMonitor)
    (hstart : op ≠ .startMonitor) (h : s.execute controller env op = .done s') :
    SameMonitor s s' := by
  cases succeeds_of_execute h with
  | noMonitor | joined => exact absurd rfl hreset
  | startMonitor => exact absurd rfl hstart
  | pullDown | writeFile | unlinkFunctions | addInotifyFd | linkFunction | addEndPoint | pullUp
  | setApplied | answers => exact ⟨rfl, rfl, rfl⟩

/-- After the reset no monitor is left. -/
theorem execute_resetMonitor {env : OpEnv} (howned : s.MonitorOwned)
    (h : s.execute controller env .resetMonitor = .done s') : s'.Unmonitored := by
  cases succeeds_of_execute h with
  | noMonitor hrunning => exact howned hrunning
  | joined _ hexited => exact ⟨rfl, hexited, rfl⟩
  | answers hop => cases hop

/-- The monitor thread keeps the call and its answers. -/
theorem monitorStep_sameCall {step : MonitorStep} (h : s.monitorStep controller step = some s') :
    SameCall s s' ∧ s'.answers = s.answers := by
  cases monitorStepsTo_of_monitorStep h <;> exact ⟨⟨rfl, rfl⟩, rfl⟩

/-- The flag is set by a monitor that has written the controller's name to the UDC file. -/
theorem monitorStep_pullUp {step : MonitorStep} (h : s.monitorStep controller step = some s')
    (hpulled : s'.monitor = .report ∨ s'.gadgetPullup = true) :
    (step = .writeUdc true ∧ s'.udc = controller) ∨ s.monitor = .report ∨
      s.gadgetPullup = true := by
  cases monitorStepsTo_of_monitorStep h with
  | written => exact Or.inl ⟨rfl, rfl⟩
  | wentAway | unchanged => exact Or.inr hpulled
  | report hphase => exact Or.inr (Or.inl hphase)
  | started =>
    simp only at hpulled
    split_ifs at hpulled <;> exact Or.inr (Or.inr (by simpa using hpulled))
  | cameBack | notWritten | readEvent => exact Or.inr (Or.inr (by simpa using hpulled))

/-- Without a thread nothing happens. -/
theorem monitorStep_exited (h : s.monitor = .exited) (step : MonitorStep) :
    s.monitorStep controller step = none := by
  cases step <;> simp [monitorStep, h]

theorem monitorOwned_next {rndisFunction : String} {step : GadgetStep} (h : s.MonitorOwned)
    (hnext : (gadgetMachine rndisFunction controller).next s step = some s') :
    s'.MonitorOwned := by
  cases step with
  | beginCall functions hasCallback =>
    obtain ⟨-, rfl⟩ := beginCall_eq hnext
    exact fun hrunning => ⟨hrunning, (h hrunning).exited, (h hrunning).notPulledUp⟩
  | monitor step =>
    intro hrunning
    obtain ⟨-, ⟨-, hsame, -⟩, -⟩ := monitorStep_frame hnext
    -- there was no thread to make the step
    have hexited := (h (hsame ▸ hrunning)).exited
    rw [show (gadgetMachine rndisFunction controller).next s (.monitor step) = none from
      monitorStep_exited hexited step] at hnext
    cases hnext
  | perform env =>
    obtain ⟨op, script, -, ⟨s₁, hdone, rfl⟩ | ⟨s₁, status, hfailed, rfl⟩ | hagain⟩ :=
      perform_eq hnext
    · intro hrunning
      by_cases hreset : op = .resetMonitor
      · obtain ⟨-, hexited, hpullup⟩ := execute_resetMonitor h (hreset ▸ hdone)
        exact ⟨hrunning, hexited, hpullup⟩
      · by_cases hstart : op = .startMonitor
        · obtain rfl := Outcome.done.inj (hstart ▸ hdone :
            s.execute controller env .startMonitor = .done s₁)
          cases hrunning
        · have hsame := execute_sameMonitor hreset hstart hdone
          obtain ⟨-, hexited, hpullup⟩ := (h (hsame.monitorRunning ▸ hrunning)).congr hsame
          exact ⟨hrunning, hexited, hpullup⟩
    · obtain ⟨-, -, links, rfl⟩ := execute_failed hfailed
      exact fun hrunning => ⟨hrunning, (h hrunning).exited, (h hrunning).notPulledUp⟩
    · rw [execute_again hagain]
      exact fun hrunning => ⟨hrunning, (h hrunning).exited, (h hrunning).notPulledUp⟩

theorem monitorOwned_of_reachable {rndisFunction : String}
    (h : (gadgetMachine rndisFunction controller).Reachable s) : s.MonitorOwned := by
  refine h.invariant MonitorOwned ?_ fun s step s' hs _ hnext => monitorOwned_next hs hnext
  rintro s ⟨functions, applied, links, udc, rfl⟩
  exact fun _ => ⟨rfl, rfl, rfl⟩

end UsbGadget

/-! ## Tracked runs -/

/-- The gadget, and whether the controller's name was written to the UDC file during the current
call and since the last link was made. -/
structure AnswerTracked where
  gadget : UsbGadget
  pulledUp : Bool := false

/-- The observations after a step that takes the gadget from `t.gadget` to `g`: a write of the UDC
file counts when it went through and the file then holds the name of the controller. -/
def AnswerTracked.observe (t : AnswerTracked) (controller : String) (g : UsbGadget) :
    GadgetStep → AnswerTracked
  | .beginCall _ _ => { gadget := g }
  | .perform env =>
    { gadget := g
      pulledUp := match t.gadget.script with
        | .linkFunction _ _ :: _ => false
        | .pullUp :: _ => (env.ok && g.udc == controller) || t.pulledUp
        | _ => t.pulledUp }
  | .monitor (.writeUdc ok) =>
    { gadget := g, pulledUp := (ok && g.udc == controller) || t.pulledUp }
  | .monitor _ => { t with gadget := g }

/-- The service with the observations of its run. -/
def answerMachine (rndisFunction controller : String) : Machine AnswerTracked GadgetStep where
  start t := (gadgetMachine rndisFunction controller).start t.gadget ∧ t.pulledUp = false
  next t step := ((gadgetMachine rndisFunction controller).next t.gadget step).map
    fun g => t.observe controller g step

theorem AnswerTracked.gadget_observe (t : AnswerTracked) (controller : String) (g : UsbGadget)
    (step : GadgetStep) : (t.observe controller g step).gadget = g := by
  cases step with
  | beginCall | perform => rfl
  | monitor step => cases step <;> rfl

theorem answerMachine_next {rndisFunction controller : String} {t t' : AnswerTracked}
    {step : GadgetStep} (h : (answerMachine rndisFunction controller).next t step = some t') :
    (gadgetMachine rndisFunction controller).next t.gadget step = some t'.gadget ∧
      t' = t.observe controller t'.gadget step := by
  obtain ⟨g, hg, rfl⟩ := Option.map_eq_some_iff.mp h
  rw [AnswerTracked.gadget_observe]
  exact ⟨hg, rfl⟩

/-- Observing restricts nothing. -/
theorem answerMachine_observes (rndisFunction controller : String) :
    (answerMachine rndisFunction controller).Observes (gadgetMachine rndisFunction controller)
      AnswerTracked.gadget where
  start g := by
    constructor
    · exact fun hg => ⟨{ gadget := g }, ⟨hg, rfl⟩, rfl⟩
    · rintro ⟨t, ht, rfl⟩
      exact ht.1
  next t step := by
    simp only [answerMachine, Option.map_map, Function.comp_def, AnswerTracked.gadget_observe,
      Option.map_id']

/-! ## The stages of a call -/

/-- What a successful answer tells: the links are those of the mask, and the gadget was pulled up
with them. -/
def Truthful (rndisFunction : String) (functions : Functions) (t : AnswerTracked) : Prop :=
  (functions = GadgetFunction.none → t.gadget.links = []) ∧
    (functions ≠ GadgetFunction.none →
      t.gadget.links = selectedLinks rndisFunction functions ∧ t.pulledUp = true)

/-- Where a call for `functions` is, when `old` are the answers before it. -/
inductive CallStage (rndisFunction : String) (functions : Functions)
    (old : List (Functions × Status)) (t : AnswerTracked) : Prop where
  /-- Operations before the end are left. They make the links of the mask, and either reset the
  monitor or have done so. -/
  | setup (front : List GadgetOp)
      (script : t.gadget.script = front ++ callEnd functions)
      (ends : ∀ op ∈ front, op.ends = false)
      (links : front.foldl GadgetOp.linkEffect t.gadget.links =
        selectedLinks rndisFunction functions)
      (monitor : .resetMonitor ∈ front ∨ t.gadget.Unmonitored)
      (answers : t.gadget.answers = old)
  /-- The call pulled up itself. -/
  | pulled
      (script : t.gadget.script = [.setApplied, .answer .success] ∨
        t.gadget.script = [.answer .success])
      (truthful : Truthful rndisFunction functions t)
      (answers : t.gadget.answers = old)
  /-- The monitor of this call is to pull up. -/
  | waiting
      (script : t.gadget.script = [.answerPullUp])
      (some_function : functions ≠ GadgetFunction.none)
      (links : t.gadget.links = selectedLinks rndisFunction functions)
      (monitor : t.gadget.monitor = .report ∨ t.gadget.gadgetPullup = true → t.pulledUp = true)
      (answers : t.gadget.answers = old)
  | failing (status : Status)
      (script : t.gadget.script = [.answer status])
      (failed : status ≠ .success)
      (answers : t.gadget.answers = old)
  | answered (status : Status)
      (script : t.gadget.script = [])
      (truthful : status = .success → Truthful rndisFunction functions t)
      (answers : t.gadget.answers = old ++ [(functions, status)])

/-- A call with a callback, as it was made. -/
structure CallInv (rndisFunction : String) (functions : Functions)
    (old : List (Functions × Status)) (t : AnswerTracked) : Prop where
  argument : t.gadget.functions = functions
  callback : t.gadget.hasCallback = true
  stage : CallStage rndisFunction functions old t

namespace UsbGadget

variable {s s' : UsbGadget} {controller : String}

theorem perform_sameCall {env : OpEnv} (h : s.perform controller env = some s') :
    SameCall s s' := by
  obtain ⟨op, script, -, ⟨s₁, hdone, rfl⟩ | ⟨s₁, status, hfailed, rfl⟩ | hagain⟩ := perform_eq h
  · obtain ⟨⟨hfunctions, hcallback⟩, -⟩ := execute_sameCall hdone
    exact ⟨hfunctions, hcallback⟩
  · obtain ⟨-, -, links, rfl⟩ := execute_failed hfailed
    exact ⟨rfl, rfl⟩
  · rw [execute_again hagain]
    exact ⟨rfl, rfl⟩

/-- The callback is answered with the argument of the call. -/
theorem answers_answer (hcallback : s.hasCallback = true) (status : Status) :
    (s.answer status).answers = s.answers ++ [(s.functions, status)] := by
  rw [answer, if_pos hcallback]

theorem links_answer (s : UsbGadget) (status : Status) : (s.answer status).links = s.links := by
  unfold answer
  split_ifs <;> rfl

end UsbGadget

/-- Adding up the links of a call. -/
theorem foldl_linkEffect_callFront (rndisFunction : String) (functions : Functions)
    (links : List Link) :
    (callFront rndisFunction functions).foldl GadgetOp.linkEffect links =
      selectedLinks rndisFunction functions := by
  have hend : ∀ links, (callEnd functions).foldl GadgetOp.linkEffect links = links := by
    intro links
    rcases callEnd_cases functions with ⟨-, hend⟩ | ⟨-, hend | hend⟩ <;> rw [hend] <;> rfl
  rw [← setupLinks_eq, ← foldl_linkEffect_callScript rndisFunction functions links, callScript_eq,
    List.foldl_append, hend]

variable {rndisFunction controller : String} {functions : Functions}
  {old : List (Functions × Status)} {t t' : AnswerTracked}

/-- A call begins with its setup. -/
theorem callInv_beginCall {g : UsbGadget}
    (hbegin : t.gadget.beginCall rndisFunction functions true = some g) :
    CallInv rndisFunction functions t.gadget.answers
      (t.observe controller g (.beginCall functions true)) := by
  obtain ⟨-, rfl⟩ := UsbGadget.beginCall_eq hbegin
  refine ⟨rfl, rfl, .setup (callFront rndisFunction functions) (callScript_eq _ _)
    (fun op => mem_callFront) (foldl_linkEffect_callFront _ _ _) (Or.inl ?_) rfl⟩
  simp [callFront, tearDownGadget]

/-- An operation of the setup. -/
theorem CallStage.setup_cons {op : GadgetOp} {front : List GadgetOp} {env : UsbGadget.OpEnv}
    {g : UsbGadget} (howned : t.gadget.MonitorOwned)
    (hscript : t.gadget.script = op :: front ++ callEnd functions)
    (hends : ∀ o ∈ op :: front, o.ends = false)
    (hlinks : (op :: front).foldl GadgetOp.linkEffect t.gadget.links =
      selectedLinks rndisFunction functions)
    (hmonitor : .resetMonitor ∈ op :: front ∨ t.gadget.Unmonitored)
    (hanswers : t.gadget.answers = old)
    (hperform : t.gadget.perform controller env = some g) :
    CallStage rndisFunction functions old (t.observe controller g (.perform env)) := by
  have hop : op.ends = false := hends op List.mem_cons_self
  have hanswer : op.answers = false := by
    cases op <;> first | rfl | cases hop
  obtain ⟨op', script, hscript', hout⟩ := UsbGadget.perform_eq hperform
  obtain ⟨rfl, rfl⟩ := List.cons.inj (hscript.symm.trans hscript')
  rcases hout with ⟨s₁, hdone, rfl⟩ | ⟨s₁, status, hfailed, rfl⟩ | hagain
  · -- the operation had its effect
    refine .setup front rfl (fun o ho => hends o (List.mem_cons_of_mem _ ho)) ?_ ?_ ?_
    · have heffect := (UsbGadget.execute_done hdone).links
      show front.foldl GadgetOp.linkEffect s₁.links = _
      rw [heffect]
      exact hlinks
    · by_cases hreset : op = .resetMonitor
      · obtain ⟨hrunning, hexited, hpullup⟩ :=
          UsbGadget.execute_resetMonitor howned (hreset ▸ hdone)
        exact Or.inr ⟨hrunning, hexited, hpullup⟩
      · have hstart : op ≠ .startMonitor := by
          rintro rfl
          cases hop
        have hsame := UsbGadget.execute_sameMonitor hreset hstart hdone
        rcases hmonitor with hmem | hnone
        · exact Or.inl ((List.mem_cons.mp hmem).resolve_left fun heq => hreset heq.symm)
        · obtain ⟨hrunning, hexited, hpullup⟩ := hnone.congr hsame
          exact Or.inr ⟨hrunning, hexited, hpullup⟩
    · exact ((UsbGadget.execute_sameCall hdone).2 hanswer).trans hanswers
  · obtain ⟨-, hstatus, links, rfl⟩ := UsbGadget.execute_failed hfailed
    exact .failing status rfl hstatus hanswers
  · obtain rfl := UsbGadget.execute_again hagain
    refine .setup (op :: front) hscript hends hlinks (hmonitor.imp_right fun hnone => ?_) hanswers
    exact ⟨hnone.notRunning, hnone.exited, hnone.notPulledUp⟩

/-- The last operation of a call answers. -/
theorem CallStage.answer {op : GadgetOp} {status : Status} {env : UsbGadget.OpEnv} {g : UsbGadget}
    (hargument : t.gadget.functions = functions) (hcallback : t.gadget.hasCallback = true)
    (hscript : t.gadget.script = [op]) (hop : op.answers = true)
    (hexecute : t.gadget.execute controller env op = .done (t.gadget.answer status))
    (htruthful : status = .success → Truthful rndisFunction functions t)
    (hanswers : t.gadget.answers = old)
    (hperform : t.gadget.perform controller env = some g) :
    CallStage rndisFunction functions old (t.observe controller g (.perform env)) := by
  obtain rfl : { t.gadget.answer status with script := [] } = g := by
    simpa [UsbGadget.perform, hscript, hexecute] using hperform
  refine .answered status rfl (fun hsuccess => ?_) ?_
  · obtain ⟨hnone, hsome⟩ := htruthful hsuccess
    have hlinks := t.gadget.links_answer status
    have hpulled : ∀ g, (t.observe controller g (.perform env)).pulledUp = t.pulledUp := by
      intro g
      cases op with
      | answer | answerPullUp => simp only [AnswerTracked.observe, hscript]
      | _ => cases hop
    refine ⟨fun h => hlinks.trans (hnone h), fun h => ⟨hlinks.trans (hsome h).1, ?_⟩⟩
    exact (hpulled _).trans (hsome h).2
  · show (t.gadget.answer status).answers = _
    rw [UsbGadget.answers_answer hcallback, hanswers, hargument]

/-- The end of a call, once the setup is done. -/
theorem CallStage.setup_nil {env : UsbGadget.OpEnv} {g : UsbGadget}
    (hargument : t.gadget.functions = functions) (hcallback : t.gadget.hasCallback = true)
    (hscript : t.gadget.script = callEnd functions)
    (hlinks : t.gadget.links = selectedLinks rndisFunction functions)
    (hmonitor : t.gadget.Unmonitored) (hanswers : t.gadget.answers = old)
    (hperform : t.gadget.perform controller env = some g) :
    CallStage rndisFunction functions old (t.observe controller g (.perform env)) := by
  rcases callEnd_cases functions with ⟨hnone, hend⟩ | ⟨hsome, hend | hend⟩
  · -- nothing is to be pulled up
    refine CallStage.answer hargument hcallback (hscript.trans hend) rfl rfl (fun _ => ?_) hanswers
      hperform
    refine ⟨fun _ => ?_, fun h => absurd hnone h⟩
    rw [hlinks, hnone, ← setupLinks_eq]
    rfl
  · rw [hend] at hscript
    simp only [UsbGadget.perform, hscript, UsbGadget.execute] at hperform
    by_cases hok : env.ok = true
    · rw [if_pos hok] at hperform
      obtain rfl := Option.some.inj hperform
      refine .pulled (Or.inl rfl) ⟨fun h => absurd h hsome, fun _ => ⟨hlinks, ?_⟩⟩ hanswers
      simp [AnswerTracked.observe, hscript, hok]
    · rw [if_neg hok] at hperform
      obtain rfl := Option.some.inj hperform
      exact .failing .error rfl (by decide) hanswers
  · rw [hend] at hscript
    simp only [UsbGadget.perform, hscript, UsbGadget.execute] at hperform
    obtain rfl := Option.some.inj hperform
    refine .waiting rfl hsome hlinks ?_ hanswers
    -- the monitor has just been started, and the flag of an earlier one is gone
    rintro (hreport | hpullup)
    · cases hreport
    · have hflag : t.gadget.gadgetPullup = true := hpullup
      rw [hmonitor.notPulledUp] at hflag
      cases hflag

/-- **An operation of the call.** -/
theorem CallInv.perform {env : UsbGadget.OpEnv} {g : UsbGadget}
    (h : CallInv rndisFunction functions old t) (howned : t.gadget.MonitorOwned)
    (hperform : t.gadget.perform controller env = some g) :
    CallInv rndisFunction functions old (t.observe controller g (.perform env)) := by
  obtain ⟨hargument, hcallback, hstage⟩ := h
  obtain ⟨hfunctions, hhas⟩ := UsbGadget.perform_sameCall hperform
  refine ⟨hfunctions.trans hargument, hhas.trans hcallback, ?_⟩
  cases hstage with
  | setup front hscript hends hlinks hmonitor hanswers =>
    cases front with
    | nil =>
      have hnone : t.gadget.Unmonitored := hmonitor.resolve_left (List.not_mem_nil)
      exact CallStage.setup_nil hargument hcallback hscript hlinks hnone hanswers hperform
    | cons op front =>
      exact CallStage.setup_cons howned hscript hends hlinks hmonitor hanswers hperform
  | pulled hscript htruthful hanswers =>
    rcases hscript with hscript | hscript
    · -- `setApplied` comes in between, and what is true stays true
      simp only [UsbGadget.perform, hscript, UsbGadget.execute] at hperform
      obtain rfl := Option.some.inj hperform
      refine .pulled (Or.inr rfl) ⟨htruthful.1, fun hsome => ⟨(htruthful.2 hsome).1, ?_⟩⟩ hanswers
      simpa [AnswerTracked.observe, hscript] using (htruthful.2 hsome).2
    · exact CallStage.answer hargument hcallback hscript rfl rfl (fun _ => htruthful) hanswers
        hperform
  | waiting hscript hsome hlinks hmonitor hanswers =>
    -- a success is only answered where the wait has seen the pull-up
    refine CallStage.answer hargument hcallback hscript rfl rfl (fun hsuccess => ?_) hanswers
      hperform
    have hpullup : t.gadget.gadgetPullup = true := by
      by_contra hno
      rw [if_neg hno] at hsuccess
      cases hsuccess
    exact ⟨fun h => absurd h hsome, fun _ => ⟨hlinks, hmonitor (Or.inr hpullup)⟩⟩
  | failing status hscript hfailed hanswers =>
    exact CallStage.answer hargument hcallback hscript rfl rfl (fun h => absurd h hfailed) hanswers
      hperform
  | answered status hscript htruthful hanswers =>
    simp [UsbGadget.perform, hscript] at hperform

/-- The monitor can only add to what was observed of the pull-up. -/
theorem AnswerTracked.pulledUp_monitor (t : AnswerTracked) (controller : String) (g : UsbGadget)
    (step : UsbGadget.MonitorStep) (h : t.pulledUp = true) :
    (t.observe controller g (.monitor step)).pulledUp = true := by
  cases step with
  | writeUdc ok => simp [AnswerTracked.observe, h]
  | access | report | readEvent => exact h

/-- **A step of the monitor thread.** -/
theorem CallInv.monitor {step : UsbGadget.MonitorStep} {g : UsbGadget}
    (h : CallInv rndisFunction functions old t)
    (hstep : t.gadget.monitorStep controller step = some g) :
    CallInv rndisFunction functions old (t.observe controller g (.monitor step)) := by
  obtain ⟨hargument, hcallback, hstage⟩ := h
  obtain ⟨⟨hfunctions, hhas⟩, hkept⟩ := UsbGadget.monitorStep_sameCall hstep
  obtain ⟨⟨hsamescript, hsamelinks, -⟩, -, -⟩ := UsbGadget.monitorStep_frame hstep
  have hgadget := t.gadget_observe controller g (.monitor step)
  have htruth : Truthful rndisFunction functions t →
      Truthful rndisFunction functions (t.observe controller g (.monitor step)) := by
    rintro ⟨hnone, hsome⟩
    rw [Truthful, hgadget, hsamelinks]
    exact ⟨hnone, fun h => ⟨(hsome h).1, t.pulledUp_monitor controller g step (hsome h).2⟩⟩
  refine ⟨?_, ?_, ?_⟩
  · rw [hgadget, hfunctions, hargument]
  · rw [hgadget, hhas, hcallback]
  cases hstage with
  | setup front hscript hends hlinks hmonitor hanswers =>
    refine .setup front ?_ hends ?_ ?_ ?_ <;> rw [hgadget]
    · exact hsamescript.trans hscript
    · rw [hsamelinks, hlinks]
    · rcases hmonitor with hmem | hnone
      · exact Or.inl hmem
      · -- there is no thread to make the step
        rw [UsbGadget.monitorStep_exited hnone.exited] at hstep
        cases hstep
    · exact hkept.trans hanswers
  | pulled hscript htruthful hanswers =>
    refine .pulled ?_ (htruth htruthful) ?_ <;> rw [hgadget]
    · rwa [hsamescript]
    · exact hkept.trans hanswers
  | waiting hscript hsome hlinks hmonitor hanswers =>
    refine .waiting ?_ hsome ?_ ?_ ?_ <;> rw [hgadget]
    · exact hsamescript.trans hscript
    · exact hsamelinks.trans hlinks
    · intro hpulled
      rcases UsbGadget.monitorStep_pullUp hstep hpulled with ⟨rfl, hudc⟩ | hbefore
      · simp [AnswerTracked.observe, hudc]
      · exact t.pulledUp_monitor controller g step (hmonitor hbefore)
    · exact hkept.trans hanswers
  | failing status hscript hfailed hanswers =>
    refine .failing status ?_ hfailed ?_ <;> rw [hgadget]
    · exact hsamescript.trans hscript
    · exact hkept.trans hanswers
  | answered status hscript htruthful hanswers =>
    refine .answered status ?_ (fun h => htruth (htruthful h)) ?_ <;> rw [hgadget]
    · exact hsamescript.trans hscript
    · exact hkept.trans hanswers

/-! ## A call comes to its end -/

/-- An operation that fails still leaves an answer to be made. -/
def GadgetOp.cost (op : GadgetOp) : Nat := if op.answers then 1 else 2

/-- What a call has left to do. -/
def remaining (script : List GadgetOp) : Nat := (script.map GadgetOp.cost).sum

theorem remaining_cons_lt (op : GadgetOp) (script : List GadgetOp) :
    remaining script < remaining (op :: script) := by
  have hpos : 0 < op.cost := by
    unfold GadgetOp.cost
    split_ifs <;> omega
  simp only [remaining, List.map_cons, List.sum_cons]
  omega

theorem remaining_answer_lt {op : GadgetOp} (hop : op.answers = false) (script : List GadgetOp)
    (status : Status) : remaining [.answer status] < remaining (op :: script) := by
  have hcost : op.cost = 2 := by simp [GadgetOp.cost, hop]
  simp only [remaining, List.map_cons, List.sum_cons, hcost]
  simp [GadgetOp.cost, GadgetOp.answers]
  omega

namespace UsbGadget

/-- The call goes on, with the monitor thread, from `g` to `g'`. -/
def GoesTo (rndisFunction controller : String) (g g' : UsbGadget) : Prop :=
  ∃ steps : List GadgetStep, (∀ step ∈ steps, step.isBeginCall = false) ∧
    (gadgetMachine rndisFunction controller).Run g steps g'

theorem GoesTo.refl (g : UsbGadget) : GoesTo rndisFunction controller g g :=
  ⟨[], by simp, .nil g⟩

theorem GoesTo.trans {g g' g'' : UsbGadget} (h : GoesTo rndisFunction controller g g')
    (h' : GoesTo rndisFunction controller g' g'') : GoesTo rndisFunction controller g g'' := by
  obtain ⟨steps, hsteps, hrun⟩ := h
  obtain ⟨steps', hsteps', hrun'⟩ := h'
  refine ⟨steps ++ steps', fun step hstep => ?_, hrun.append hrun'⟩
  exact (List.mem_append.mp hstep).elim (hsteps step) (hsteps' step)

theorem GoesTo.step {g g' : UsbGadget} (step : GadgetStep) (hbegin : step.isBeginCall = false)
    (hnext : (gadgetMachine rndisFunction controller).next g step = some g') :
    GoesTo rndisFunction controller g g' :=
  ⟨[step], by simpa using hbegin, .cons hnext (.nil g')⟩

/-- A monitor that was signalled can exit, wherever it is. -/
theorem monitor_exits (rndisFunction controller : String) {g : UsbGadget}
    (hstop : g.stopMonitor = true) :
    ∃ g', GoesTo rndisFunction controller g g' ∧ g'.monitor = .exited ∧ g'.script = g.script := by
  -- from `epoll_wait` it reads the signal, and every other phase comes back there
  have hpolling : ∀ g₁ : UsbGadget, g₁.monitor = .polling → g₁.stopMonitor = true →
      ∃ g', GoesTo rndisFunction controller g₁ g' ∧ g'.monitor = .exited ∧
        g'.script = g₁.script := by
    intro g₁ hphase hstop₁
    exact ⟨{ g₁ with stopMonitor := false, monitor := .exited },
      .step (.monitor .readEvent) rfl (if_pos ⟨hphase, hstop₁⟩), rfl, rfl⟩
  have hpullUp : ∀ g₁ : UsbGadget, g₁.monitor = .pullUp → g₁.stopMonitor = true →
      ∃ g', GoesTo rndisFunction controller g₁ g' ∧ g'.monitor = .exited ∧
        g'.script = g₁.script := by
    intro g₁ hphase hstop₁
    obtain ⟨g', hgo, hexited, hscript⟩ := hpolling { g₁ with monitor := .polling } rfl hstop₁
    refine ⟨g', .trans (.step (.monitor (.writeUdc false)) rfl ?_) hgo, hexited, hscript⟩
    exact if_pos hphase
  cases hphase : g.monitor with
  | exited => exact ⟨g, .refl g, hphase, rfl⟩
  | polling => exact hpolling g hphase hstop
  | pullUp => exact hpullUp g hphase hstop
  | report =>
    obtain ⟨g', hgo, hexited, hscript⟩ := hpolling { g with
      currentUsbFunctionsApplied := true
      gadgetPullup := true
      writeUdc := false
      monitor := .polling } rfl hstop
    refine ⟨g', .trans (.step (.monitor .report) rfl ?_) hgo, hexited, hscript⟩
    exact if_pos hphase
  | starting =>
    -- a look that finds no file, unless none is looked for
    have hlook : (gadgetMachine rndisFunction controller).next g
        (.monitor (.access fun _ => false)) = some { g with
          monitor := if g.endpointList.all fun _ => false then .pullUp else .polling } := by
      simp only [gadgetMachine, monitorStep, hphase]
    cases hnone : g.endpointList.all fun _ => false with
    | true =>
      rw [hnone, if_pos rfl] at hlook
      obtain ⟨g', hgo, hexited, hscript⟩ := hpullUp { g with monitor := .pullUp } rfl hstop
      exact ⟨g', .trans (.step _ rfl hlook) hgo, hexited, hscript⟩
    | false =>
      rw [hnone, if_neg Bool.false_ne_true] at hlook
      obtain ⟨g', hgo, hexited, hscript⟩ := hpolling { g with monitor := .polling } rfl hstop
      exact ⟨g', .trans (.step _ rfl hlook) hgo, hexited, hscript⟩

/-- An operation that does not wait is over in one step. -/
theorem perform_decreases (controller : String) {g : UsbGadget} {op : GadgetOp}
    {script : List GadgetOp}
    (hscript : g.script = op :: script)
    (hwait : op = .resetMonitor → g.monitorRunning = false ∨ g.monitor = .exited) :
    ∃ g', g.perform controller { ok := true } = some g' ∧
      remaining g'.script < remaining g.script := by
  -- only the reset waits, and the monitor has ended or never ran
  have hfree : ∀ s', g.execute controller { ok := true } op ≠ .again s' ∧
      g.execute controller { ok := true } op ≠ .blocked := by
    intro s'
    cases op with
    | resetMonitor =>
      simp only [execute]
      rcases hwait rfl with hrunning | hexited
      · simp [hrunning]
      · split_ifs <;> simp
    | linkFunction function index =>
      simp only [execute]
      split_ifs <;> simp
    | _ => simp [execute]
  simp only [perform, hscript]
  cases hout : g.execute controller { ok := true } op with
  | done s₁ => exact ⟨_, rfl, remaining_cons_lt op script⟩
  | failed s₁ status =>
    exact ⟨_, rfl, remaining_answer_lt (execute_failed hout).1 script status⟩
  | again s₁ => exact absurd hout (hfree s₁).1
  | blocked => exact absurd hout (hfree g).2

/-- As long as a call has something left to do, it can go on. -/
theorem call_goesOn (rndisFunction controller : String) {g : UsbGadget} (h : g.script ≠ []) :
    ∃ g', GoesTo rndisFunction controller g g' ∧ remaining g'.script < remaining g.script := by
  obtain ⟨op, script, hscript⟩ := List.exists_cons_of_ne_nil h
  have hperform : ∀ g₁ : UsbGadget, g₁.script = g.script →
      (op = .resetMonitor → g₁.monitorRunning = false ∨ g₁.monitor = .exited) →
      ∃ g', GoesTo rndisFunction controller g₁ g' ∧ remaining g'.script < remaining g.script := by
    intro g₁ hsame hwait
    obtain ⟨g', hnext, hless⟩ := perform_decreases controller (hsame.trans hscript) hwait
    exact ⟨g', .step (.perform { ok := true }) rfl hnext, hsame ▸ hless⟩
  by_cases hwait : op = .resetMonitor → g.monitorRunning = false ∨ g.monitor = .exited
  · exact hperform g rfl hwait
  · simp only [Classical.not_imp, not_or, Bool.not_eq_false] at hwait
    obtain ⟨rfl, hrunning, hexited⟩ := hwait
    -- the monitor is signalled, exits, and then the reset goes through
    have hsignal : GoesTo rndisFunction controller g { g with stopMonitor := true } := by
      cases hstop : g.stopMonitor with
      | true => rw [← hstop]; exact .refl g
      | false =>
        refine .step (.perform { ok := true }) rfl ?_
        simp [gadgetMachine, perform, hscript, execute, hrunning, hexited, hstop]
    obtain ⟨g₁, hexit, hgone, hsame⟩ := monitor_exits rndisFunction controller
      (g := { g with stopMonitor := true }) rfl
    obtain ⟨g', hgo, hless⟩ := hperform g₁ hsame fun _ => Or.inr hgone
    exact ⟨g', (hsignal.trans hexit).trans hgo, hless⟩

/-- **A call can always be brought to its end**, whatever has failed so far. -/
theorem call_ends (rndisFunction controller : String) (g : UsbGadget) :
    ∃ g', GoesTo rndisFunction controller g g' ∧ g'.script = [] := by
  induction hn : remaining g.script using Nat.strongRecOn generalizing g with
  | ind n ih =>
    by_cases hscript : g.script = []
    · exact ⟨g, .refl g, hscript⟩
    · obtain ⟨g₁, hgo, hless⟩ := call_goesOn rndisFunction controller hscript
      obtain ⟨g', hgo', hend⟩ := ih _ (hn ▸ hless) g₁ rfl
      exact ⟨g', hgo.trans hgo', hend⟩

end UsbGadget

/-! ## The answer -/

/-- A call that began keeps its invariant, in every interleaving with the monitor thread. -/
theorem callInv_run {steps : List GadgetStep}
    (hreach : (answerMachine rndisFunction controller).Reachable t)
    (hrun : (answerMachine rndisFunction controller).Run t (.beginCall functions true :: steps) t')
    (hsteps : ∀ step ∈ steps, step.isBeginCall = false) :
    CallInv rndisFunction functions t.gadget.answers t' := by
  have howned := UsbGadget.monitorOwned_of_reachable
    ((answerMachine_observes rndisFunction controller).reachable_iff.mpr ⟨t, hreach, rfl⟩)
  cases hrun with
  | @cons _ t₁ _ _ _ hbegin hrest =>
    obtain ⟨hnext, heq⟩ := answerMachine_next hbegin
    have hfirst : CallInv rndisFunction functions t.gadget.answers t₁ ∧ t₁.gadget.MonitorOwned :=
      ⟨heq ▸ callInv_beginCall hnext, UsbGadget.monitorOwned_next howned hnext⟩
    refine (hrest.invariant (P := fun s => CallInv rndisFunction functions t.gadget.answers s ∧
      s.gadget.MonitorOwned) ?_ hsteps hfirst).1
    rintro s step s' hstep ⟨hinv, hown⟩ hs
    obtain ⟨hgadget, heq'⟩ := answerMachine_next hs
    refine ⟨?_, UsbGadget.monitorOwned_next hown hgadget⟩
    rw [heq']
    cases step with
    | beginCall functions hasCallback => cases hstep
    | perform env => exact hinv.perform hown hgadget
    | monitor step => exact hinv.monitor hgadget

/-- **Every call is answered exactly once, and truthfully**: after any history, in any interleaving
with the monitor threads and whatever fails, a call with a callback can be brought to its end; it
has not answered before, and there it has answered once, with its mask. After the answer `SUCCESS`
there are no links for the empty mask, and else exactly those of the selected functions, with the
UDC file written after the last of them. -/
theorem setCurrentUsbFunctions_answers {steps : List GadgetStep}
    (hreach : (answerMachine rndisFunction controller).Reachable t)
    (hrun : (answerMachine rndisFunction controller).Run t (.beginCall functions true :: steps) t')
    (hsteps : ∀ step ∈ steps, step.isBeginCall = false) :
    (∃ more t'', (∀ step ∈ more, step.isBeginCall = false) ∧
      (answerMachine rndisFunction controller).Run t' more t'' ∧ t''.gadget.script = []) ∧
    (t'.gadget.script ≠ [] → t'.gadget.answers = t.gadget.answers) ∧
    (t'.gadget.script = [] → ∃ status,
      t'.gadget.answers = t.gadget.answers ++ [(functions, status)] ∧
        (status = .success → Truthful rndisFunction functions t')) := by
  have hinv := callInv_run hreach hrun hsteps
  refine ⟨?_, ?_, ?_⟩
  · obtain ⟨g, ⟨more, hmore, hgo⟩, hend⟩ :=
      UsbGadget.call_ends rndisFunction controller t'.gadget
    obtain ⟨t'', hrun', rfl⟩ := (answerMachine_observes rndisFunction controller).run hgo rfl
    exact ⟨more, t'', hmore, hrun', hend⟩
  · intro hscript
    cases hinv.stage with
    | setup _ _ _ _ _ hanswers => exact hanswers
    | pulled _ _ hanswers => exact hanswers
    | waiting _ _ _ _ hanswers => exact hanswers
    | failing _ _ _ hanswers => exact hanswers
    | answered _ hdone _ _ => exact absurd hdone hscript
  · -- only the last stage has an empty script
    intro hscript
    cases hinv.stage with
    | setup front hsetup _ _ _ _ =>
      rcases callEnd_cases functions with ⟨-, hend⟩ | ⟨-, hend | hend⟩ <;>
        simp [hsetup, hend] at hscript
    | pulled hpulled _ _ => rcases hpulled with h | h <;> simp [h] at hscript
    | waiting hwaiting _ _ _ _ => simp [hwaiting] at hscript
    | failing _ hfailing _ _ => simp [hfailing] at hscript
    | answered status _ htruthful hanswers => exact ⟨status, hanswers, htruthful⟩

/-- adb is requested; its monitor finds the endpoints, pulls up and reports, and the call
answers. -/
def adbAnswered : AnswerTracked :=
  ((answerMachine "rndis.gs4" "musb-hdrc").exec { gadget := UsbGadget.booted }
    (.beginCall GadgetFunction.adb true :: (UsbGadget.succeed 15 ++
      [.monitor (.access fun _ => true), .monitor (.writeUdc true), .monitor .report,
        .perform { ok := true }]))).get (by decide)

theorem setCurrentUsbFunctions_answers_adb :
    adbAnswered.gadget.answers = [(GadgetFunction.adb, .success)] ∧ ∃ status,
      adbAnswered.gadget.answers = [] ++ [(GadgetFunction.adb, status)] ∧
        (status = .success → Truthful "rndis.gs4" GadgetFunction.adb adbAnswered) :=
  ⟨by decide, (@setCurrentUsbFunctions_answers "rndis.gs4" "musb-hdrc" GadgetFunction.adb
    { gadget := UsbGadget.booted } adbAnswered _
    (.start ⟨UsbGadget.booted_start "rndis.gs4" "musb-hdrc", rfl⟩)
    (Machine.run_of_exec _)
    (show ∀ step ∈ UsbGadget.succeed 15 ++ [GadgetStep.monitor (.access fun _ => true),
      .monitor (.writeUdc true), .monitor .report, .perform { ok := true }],
      step.isBeginCall = false by decide)).2.2
    (show adbAnswered.gadget.script = [] by decide)⟩

end GloDroid.GadgetHal

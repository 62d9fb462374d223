import GloDroid.BootScript.Script

/-!
# What Commands Leave Alone

A rule for one command, which has only to look at its effect, and the frame rule: `Place` names what
a state consists of, `BootCommand.touches` what a command may change, and a script keeps each place
that none of its commands touches (`Runs.frame`).
-/

namespace GloDroid.BootScript

open GloDroid.Base

/-! ## Fields after an update -/

namespace Boot

variable (s : Boot) (v : Var) (text : String)

@[simp] theorem set_vars : (s.set v text).vars = Function.update s.vars v text := rfl
@[simp] theorem set_verified : (s.set v text).verified = s.verified := rfl
@[simp] theorem set_table : (s.set v text).table = s.table := rfl
@[simp] theorem expand_nil : s.expand [] = "" := rfl

@[simp] theorem expand_text (rest : Word) :
    s.expand (.text text :: rest) = text ++ s.expand rest := rfl

@[simp] theorem expand_var (rest : Word) :
    s.expand (.var v :: rest) = s.vars v ++ s.expand rest := rfl

end Boot

namespace BootCommand

variable (c : BootCommand) (ok : Bool) (s : Boot)

@[simp] theorem finish_vars : (c.finish ok s).vars = s.vars := rfl
@[simp] theorem finish_verified : (c.finish ok s).verified = s.verified := rfl
@[simp] theorem finish_bcb : (c.finish ok s).bcb = s.bcb := rfl
@[simp] theorem finish_misc : (c.finish ok s).misc = s.misc := rfl
@[simp] theorem finish_sessions : (c.finish ok s).sessions = s.sessions := rfl
@[simp] theorem finish_requests : (c.finish ok s).requests = s.requests := rfl
@[simp] theorem finish_table : (c.finish ok s).table = s.table := rfl
@[simp] theorem finish_failed :
    (c.finish ok s).failed = if ok then s.failed else c :: s.failed := rfl

end BootCommand

/-! ## One command -/

/-- `{P} script {Q, R}` for the commands of U-Boot. -/
abbrev Runs (P : Boot → Prop) (script : UbootScript) (Q : Bool → Boot → Prop)
    (R : Stop → Boot → Prop) : Prop :=
  Script.Triple BootCommand.run P script Q R

section Rules

variable {P : Boot → Prop} {Q : Bool → Boot → Prop} {R : Stop → Boot → Prop} {c : BootCommand}
  {v : Var}

theorem Runs.command (hlost : ∀ s, P s → R .powerLost s)
    (heffect : ∀ s, P s → (c.effect s).All (fun ok s => Q ok (c.finish ok s)) R) :
    Runs P (.command c) Q R := by
  refine Script.Triple.command fun s hs => ?_
  unfold BootCommand.run
  split
  · exact hlost s hs
  · exact (heffect s hs).bind fun ok s' hs' => hs'

theorem Runs.setText {text : String} (hlost : ∀ s, P s → R .powerLost s)
    (hset : ∀ s, P s → Q true ((BootCommand.setenv v [.text text]).finish true (s.set v text))) :
    Runs P (setText v text) Q R := by
  apply Runs.command hlost
  intro s hs
  simpa [BootCommand.effect, ScriptEnd.All] using hset s hs

theorem Runs.extenv {extension : Word} (hlost : ∀ s, P s → R .powerLost s)
    (hset : ∀ s, P s → Q true ((BootCommand.setenv v (.var v :: extension)).finish true
      (s.set v (s.vars v ++ s.expand extension)))) :
    Runs P (extenv v extension) Q R :=
  Runs.command hlost hset

/-- A test keeps the state but for the answer that it uses up. -/
theorem Runs.testEq {a b : Word} (hlost : ∀ s, P s → R .powerLost s)
    (htest : ∀ s ok, P s → (ok = true ↔ s.expand a = s.expand b) →
      Q ok ((BootCommand.testEq a b).finish ok s)) :
    Runs P (.command (.testEq a b)) Q R :=
  Runs.command hlost fun s hs => htest s _ hs decide_eq_true_iff

theorem Runs.testNe {a b : Word} (hlost : ∀ s, P s → R .powerLost s)
    (htest : ∀ s ok, P s → (ok = true ↔ s.expand a ≠ s.expand b) →
      Q ok ((BootCommand.testNe a b).finish ok s)) :
    Runs P (.command (.testNe a b)) Q R :=
  Runs.command hlost fun s hs => htest s _ hs decide_eq_true_iff

end Rules

/-! ## Places -/

/-- What a state consists of. -/
inductive Place where
  | var (v : Var)
  /-- what was verified -/
  | verified
  /-- the bootloader message and the sessions of `fastboot` -/
  | message
  | table
  | memory
  /-- the commands that failed -/
  | failed
  deriving DecidableEq, Repr

/-- A command of the bootloader message failed. -/
def Boot.messageFailed (s : Boot) : Bool :=
  s.failed.any fun
    | .bcbLoad | .bcbSet _ | .bcbClear | .bcbStore => true
    | _ => false

/-- The two states agree in a place. -/
def Boot.SameAt (s s' : Boot) : Place → Prop
  | .var v => s'.vars v = s.vars v
  | .verified => s'.verified = s.verified
  | .message =>
    s'.bcb = s.bcb ∧ s'.misc = s.misc ∧ s'.sessions = s.sessions ∧ s'.requests = s.requests ∧
      s'.messageFailed = s.messageFailed
  | .table => s'.table = s.table
  | .memory => s'.memory = s.memory
  | .failed => s'.failed = s.failed

/-- What the effect of a command may change. -/
def BootCommand.touches : BootCommand → List Place
  | setenv v _ => [.var v]
  | testEq _ _ | testNe _ _ | call _ | mmcDev _ | bcbTest _ | bootm _ | reset => []
  | fastboot _ => [.message, .table, .memory]
  | gptWrite _ => [.table]
  | bcbLoad | bcbSet _ | bcbClear | bcbStore => [.message]
  | abSelect _ => [.var .slotName]
  | avbVerify _ => [.var .avbBootargs, .verified]
  | part _ _ v => [.var v]
  | mmcRead _ _ _ | cpB _ _ _ | fdt _ => [.memory]
  | adtimgGet _ index => [.var .dtbStart, .var .dtbSize, .var index]

namespace Boot.SameAt

variable {s s' s'' : Boot} {p : Place}

theorem refl : s.SameAt s p := by
  cases p with
  | message => exact ⟨rfl, rfl, rfl, rfl, rfl⟩
  | var | verified | table | memory | failed => rfl

theorem trans (h : s.SameAt s' p) (h' : s'.SameAt s'' p) : s.SameAt s'' p := by
  cases p with
  | message =>
    obtain ⟨hbcb, hmisc, hsessions, hrequests, hfailed⟩ := h
    obtain ⟨hbcb', hmisc', hsessions', hrequests', hfailed'⟩ := h'
    exact ⟨hbcb'.trans hbcb, hmisc'.trans hmisc, hsessions'.trans hsessions,
      hrequests'.trans hrequests, hfailed'.trans hfailed⟩
  | var | verified | table | memory | failed => exact Eq.trans h' h

theorem set {v : Var} (hp : p ≠ .var v) (text : String) : s.SameAt (s.set v text) p := by
  cases p with
  | var w => exact Function.update_of_ne (fun heq => hp (congrArg Place.var heq)) text s.vars
  | message => exact ⟨rfl, rfl, rfl, rfl, rfl⟩
  | verified | table | memory | failed => rfl

theorem memory (hp : p ≠ .memory) (m : Nat → Option Nat) :
    s.SameAt { s with memory := m } p := by
  cases p with
  | memory => exact (hp rfl).elim
  | message => exact ⟨rfl, rfl, rfl, rfl, rfl⟩
  | var | verified | table | failed => rfl

theorem table (hp : p ≠ .table) (t : PartTable) : s.SameAt { s with table := t } p := by
  cases p with
  | table => exact (hp rfl).elim
  | message => exact ⟨rfl, rfl, rfl, rfl, rfl⟩
  | var | verified | memory | failed => rfl

theorem bcb (hp : p ≠ .message) (message : Option String) :
    s.SameAt { s with bcb := message } p := by
  cases p with
  | message => exact (hp rfl).elim
  | var | verified | table | memory | failed => rfl

theorem misc (hp : p ≠ .message) (command : String) : s.SameAt { s with misc := command } p := by
  cases p with
  | message => exact (hp rfl).elim
  | var | verified | table | memory | failed => rfl

/-- A session of `fastboot` concerns the message, the table and the memory. -/
theorem session (hmessage : p ≠ .message) (hmemory : p ≠ .memory) (htable : p ≠ .table)
    (sessions : List (FastbootReason × Bool)) (command : String) (t : PartTable) (requests : Nat) :
    s.SameAt
      { s.touch with
        sessions := sessions
        misc := command
        table := t
        requests := requests } p := by
  cases p with
  | message => exact (hmessage rfl).elim
  | memory => exact (hmemory rfl).elim
  | table => exact (htable rfl).elim
  | var | verified | failed => rfl

/-- The memory of failures concerns the bootloader message only. -/
theorem finish {c : BootCommand} (hp : p ∉ c.touches) (hfailed : p ≠ .failed) (ok : Bool) :
    s.SameAt (c.finish ok s) p := by
  cases p with
  | failed => exact (hfailed rfl).elim
  | message =>
    refine ⟨rfl, rfl, rfl, rfl, ?_⟩
    cases ok with
    | true => rfl
    | false => cases c <;> first | rfl | exact (hp List.mem_cons_self).elim
  | var | verified | table | memory => rfl

end Boot.SameAt

/-- **A command changes only what it touches.** -/
theorem BootCommand.effect_same {c : BootCommand} {p : Place} (hp : p ∉ c.touches) (s : Boot) :
    (c.effect s).All (fun _ s' => s.SameAt s' p) (fun _ s' => s.SameAt s' p) := by
  have hne : ∀ q, q ∈ c.touches → p ≠ q := fun q hq heq => hp (heq ▸ hq)
  cases c with
  | testEq | testNe | call | mmcDev | bcbTest | reset => exact .refl
  | setenv v value => exact .set (hne _ List.mem_cons_self) _
  | gptWrite => exact .table (hne _ List.mem_cons_self) _
  | bcbLoad => exact .bcb (hne _ List.mem_cons_self) _
  | fdt => exact .memory (hne _ List.mem_cons_self) _
  | fastboot why =>
    have hmessage := hne .message (by simp [touches])
    have hmemory := hne .memory (by simp [touches])
    have htable := hne .table (by simp [touches])
    -- whether or not the board restarts, the session has done the same to the state
    simp only [effect, runFastboot]
    split
    · exact .session hmessage hmemory htable _ _ _ _
    · exact .session hmessage hmemory htable _ _ _ _
  | bcbSet | bcbClear =>
    simp only [effect]
    split
    · exact .bcb (hne _ List.mem_cons_self) _
    · exact .refl
  | bcbStore =>
    simp only [effect]
    split
    · split
      · exact .misc (hne _ List.mem_cons_self) _
      · exact .refl
    · exact .refl
  | abSelect =>
    simp only [effect]
    split
    · exact .set (hne _ List.mem_cons_self) _
    · exact .refl
  | avbVerify =>
    have hverified := hne .verified (by simp [touches])
    simp only [effect]
    split
    · have hset : s.SameAt (s.set .avbBootargs (s.answer.texts 0)) p :=
        .set (hne _ List.mem_cons_self) _
      cases p with
      | verified => exact (hverified rfl).elim
      | var | message | table | memory | failed => exact hset
    · exact .refl
  | part field partition v =>
    simp only [effect, runPart]
    split
    · split
      · exact .set (hne _ List.mem_cons_self) _
      · exact .refl
    · exact .refl
  | mmcRead =>
    simp only [effect, runMmcRead]
    split
    · exact .memory (hne _ List.mem_cons_self) _
    · exact .memory (hne _ List.mem_cons_self) _
  | adtimgGet id index =>
    simp only [effect]
    split
    · have hstart : s.SameAt (s.set .dtbStart (s.answer.texts 0)) p :=
        .set (hne _ List.mem_cons_self) _
      have hsize := hstart.trans (.set (hne (.var .dtbSize) (by simp [touches])) (s.answer.texts 1))
      exact hsize.trans (.set (hne (.var index) (by simp [touches])) _)
    · exact .refl
  | cpB =>
    simp only [effect, runCpB]
    split
    · exact .refl
    · exact .memory (hne _ List.mem_cons_self) _
  | bootm =>
    simp only [effect]
    split
    · exact .refl
    · exact .refl

/-! ## The frame rule -/

/-- The two states agree in all the places. -/
def Kept (ps : List Place) (s s' : Boot) : Prop := ∀ p ∈ ps, s.SameAt s' p

namespace Kept

variable {ps qs : List Place} {s s' : Boot}

theorem refl : Kept ps s s := fun _ _ => .refl

theorem mono (h : Kept qs s s') (hsub : ps ⊆ qs) : Kept ps s s' := fun p hp => h p (hsub hp)

theorem var (h : Kept ps s s') {v : Var} (hv : .var v ∈ ps) : s'.vars v = s.vars v := h _ hv

end Kept

/-- The script touches none of the places. -/
def Keeps (ps : List Place) (script : UbootScript) : Bool :=
  !ps.contains .failed && script.commands.all fun c => c.touches.all fun p => !ps.contains p

theorem Runs.kept {ps : List Place} {script : UbootScript} (h : Keeps ps script = true) (s : Boot) :
    Runs (Kept ps s) script (fun _ => Kept ps s) (fun _ => Kept ps s) := by
  simp only [Keeps, Bool.and_eq_true, List.all_eq_true, Bool.not_eq_true', List.contains_eq_mem,
    decide_eq_false_iff_not] at h
  obtain ⟨hfailed, h⟩ := h
  refine Script.Triple.invariant fun c hc => Runs.command (fun _ hs => hs) fun s' hs' => ?_
  have hout : ∀ p ∈ ps, p ∉ c.touches := fun p hp htouch => h c hc p htouch hp
  cases heffect : c.effect s' with
  | status ok s'' =>
    intro p hp
    have hsame := BootCommand.effect_same (hout p hp) s'
    rw [heffect] at hsame
    have hne : p ≠ .failed := ne_of_mem_of_not_mem hp hfailed
    exact (hs' p hp).trans (hsame.trans (.finish (hout p hp) hne ok))
  | stopped why s'' =>
    intro p hp
    have hsame := BootCommand.effect_same (hout p hp) s'
    rw [heffect] at hsame
    exact (hs' p hp).trans hsame

/-- The frame rule: what depends only on places that no command touches stays true. -/
theorem Runs.frame (ps : List Place) {P : Boot → Prop} {R : Stop → Boot → Prop}
    {script : UbootScript} (h : Keeps ps script = true)
    (hP : ∀ s s', Kept ps s s' → P s → P s') (hR : ∀ why s, P s → R why s) :
    Runs P script (fun _ => P) R :=
  fun s hs => (Runs.kept h s s .refl).mono (fun _ s' hs' => hP s s' hs' hs)
    fun why s' hs' => hR why s' (hP s s' hs' hs)

/-- A script only adds to the failures. -/
theorem Runs.failures {script : UbootScript} {f : BootCommand → Bool} :
    Runs (fun s => s.failed.any f = true) script (fun _ s => s.failed.any f = true)
      (fun _ s => s.failed.any f = true) := by
  refine Script.Triple.invariant fun c _ => Runs.command (fun _ hs => hs) fun s hs => ?_
  have hsame := BootCommand.effect_same (c := c) (p := .failed)
    (by cases c <;> simp [BootCommand.touches]) s
  refine hsame.mono (fun ok s' hs' => ?_) fun why s' hs' => ?_
  · have hfailed : s'.failed.any f = true := by
      rw [show s'.failed = s.failed from hs']
      exact hs
    cases ok with
    | true => exact hfailed
    | false => simp [hfailed]
  · rw [show s'.failed = s.failed from hs']
    exact hs

/-- The frame rule for what is known unless certain commands failed. -/
theorem Runs.frameUnless (ps : List Place) {f : BootCommand → Bool} {P : Boot → Prop}
    {script : UbootScript} (h : Keeps ps script = true)
    (hP : ∀ s s', Kept ps s s' → P s → P s') :
    Runs (fun s => s.failed.any f = true ∨ P s) script
      (fun _ s => s.failed.any f = true ∨ P s) (fun _ _ => True) := by
  intro s hs
  rcases hs with hfailed | hP'
  · exact (Runs.failures s hfailed).mono (fun _ _ h => Or.inl h) fun _ _ _ => trivial
  · exact (Runs.frame (R := fun _ _ => True) ps h hP (fun _ _ _ => trivial) s hP').mono
      (fun _ _ h => Or.inr h) fun _ _ _ => trivial

/-- A test of the bootloader message changes nothing. -/
theorem Runs.bcbTest {P : Boot → Prop} {Q : Bool → Boot → Prop} {R : Stop → Boot → Prop}
    {command : String} (hlost : ∀ s, P s → R .powerLost s)
    (htest : ∀ s s' ok, P s → s.SameAt s' .message → (ok = true ↔ s.bcb = some command) → Q ok s') :
    Runs P (.command (.bcbTest command)) Q R :=
  Runs.command hlost fun s hs =>
    htest s _ _ hs (.finish List.not_mem_nil (by decide) _) decide_eq_true_iff

/-! ## Before the kernel -/

/-- Nothing is promised unless the kernel is started. -/
def AtKernel (P : Boot → Prop) (why : Stop) (s : Boot) : Prop := why = .kernel → P s

section AtKernel

variable {P K : Boot → Prop} {script : UbootScript}

theorem lost_atKernel (s : Boot) (_ : P s) : AtKernel K .powerLost s := nofun

/-- The script does not start the kernel. -/
def StartsNothing (script : UbootScript) : Bool :=
  script.commands.all fun
    | .bootm _ => false
    | _ => true

theorem Runs.startsNothing (h : StartsNothing script = true) :
    Runs (fun _ => True) script (fun _ _ => True) (AtKernel K) := by
  refine Script.Triple.invariant fun c hc => Runs.command lost_atKernel fun s _ => ?_
  have hc := List.all_eq_true.mp h c hc
  cases c with
  | bootm => cases hc
  | reset => exact nofun
  | fastboot =>
    simp only [BootCommand.effect, BootCommand.runFastboot]
    split
    · exact nofun
    · trivial
  | setenv | testEq | testNe | call | mmcDev | gptWrite | bcbLoad | bcbTest | fdt => trivial
  | bcbSet | bcbClear | abSelect | avbVerify | adtimgGet =>
    simp only [BootCommand.effect]
    split
    · trivial
    · trivial
  | bcbStore =>
    simp only [BootCommand.effect]
    split
    · split
      · trivial
      · trivial
    · trivial
  | part =>
    simp only [BootCommand.effect, BootCommand.runPart]
    split
    · split
      · trivial
      · trivial
    · trivial
  | mmcRead | cpB =>
    simp only [BootCommand.effect, BootCommand.runMmcRead, BootCommand.runCpB]
    split
    · trivial
    · trivial

/-- The frame rule for a script before the kernel is started. -/
theorem Runs.frameAt (ps : List Place) (h : (StartsNothing script && Keeps ps script) = true)
    (hP : ∀ s s', Kept ps s s' → P s → P s') : Runs P script (fun _ => P) (AtKernel K) := by
  obtain ⟨hstarts, hkeeps⟩ := Bool.and_eq_true_iff.mp h
  have hstop : Runs P script (fun _ _ => True) (AtKernel K) :=
    Script.Triple.mono (Runs.startsNothing hstarts) (fun _ _ => trivial) (fun _ _ h => h)
      fun _ _ h => h
  have hframe : Runs P script (fun _ => P) fun _ _ => True :=
    Runs.frame ps hkeeps hP fun _ _ _ => trivial
  exact Script.Triple.mono (hframe.and hstop) (fun _ hs => hs) (fun _ _ h => h.1) fun _ _ h => h.2

end AtKernel

end GloDroid.BootScript

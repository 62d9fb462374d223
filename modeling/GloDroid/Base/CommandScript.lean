import Mathlib.Data.List.Basic
import Mathlib.Tactic.Common

/-!
# Scripts of Commands

The control flow of a command shell without loops: a command ends with a status, and `;`, `&&`, `||`
and `if` decide by it what runs next. A command may also stop the script for good, as a command that
starts another program in its place does; nothing runs after that.

What a command does is a parameter. Triples `{P} script {Q, R}` say that from a state in `P` the
script ends in `Q` for its status, or stops in `R`. Each construct has a rule; `Triple.invariant`
is the one for what no command of a script changes.
-/

namespace GloDroid.Base

universe u v w

variable {χ : Type u} {σ : Type v} {ω : Type w}

/-- How a command or a script ends: with a status, or not at all. -/
inductive ScriptEnd (σ : Type v) (ω : Type w) where
  | status (ok : Bool) (s : σ)
  | stopped (why : ω) (s : σ)
  deriving DecidableEq, Repr

/-- A script over the commands `χ`. -/
inductive Script (χ : Type u) where
  /-- does nothing -/
  | skip
  | command (c : χ)
  /-- `first ; second` -/
  | seq (first second : Script χ)
  /-- `first && second` -/
  | andThen (first second : Script χ)
  /-- `first || second` -/
  | orElse (first second : Script χ)
  /-- `if cond ; then thn ; else els ; fi` -/
  | ifElse (cond thn els : Script χ)
  deriving Repr

namespace ScriptEnd

/-- What follows runs if the script did not stop. -/
def bind (e : ScriptEnd σ ω) (k : Bool → σ → ScriptEnd σ ω) : ScriptEnd σ ω :=
  match e with
  | status ok s => k ok s
  | stopped why s => stopped why s

theorem bind_assoc (e : ScriptEnd σ ω) (k k' : Bool → σ → ScriptEnd σ ω) :
    (e.bind k).bind k' = e.bind fun ok s => (k ok s).bind k' := by
  cases e with
  | status ok s => rfl
  | stopped why s => rfl

/-- The state at the end. -/
def state : ScriptEnd σ ω → σ
  | status _ s => s
  | stopped _ s => s

/-- Why the script stopped, if it did. -/
def why? : ScriptEnd σ ω → Option ω
  | status _ _ => none
  | stopped why _ => some why

theorem eq_stopped {e : ScriptEnd σ ω} {why : ω} (h : e.why? = some why) :
    e = stopped why e.state := by
  cases e with
  | status ok s => cases h
  | stopped why' s =>
    cases h
    rfl

/-- The script ends in `Q` or stops in `R`. -/
def All (Q : Bool → σ → Prop) (R : ω → σ → Prop) : ScriptEnd σ ω → Prop
  | status ok s => Q ok s
  | stopped why s => R why s

theorem All.mono {Q Q' : Bool → σ → Prop} {R R' : ω → σ → Prop} {e : ScriptEnd σ ω}
    (h : e.All Q R) (hQ : ∀ ok s, Q ok s → Q' ok s) (hR : ∀ why s, R why s → R' why s) :
    e.All Q' R' := by
  cases e with
  | status ok s => exact hQ ok s h
  | stopped why s => exact hR why s h

theorem All.bind {M Q : Bool → σ → Prop} {R : ω → σ → Prop} {e : ScriptEnd σ ω}
    {k : Bool → σ → ScriptEnd σ ω} (h : e.All M R) (hk : ∀ ok s, M ok s → (k ok s).All Q R) :
    (e.bind k).All Q R := by
  cases e with
  | status ok s => exact hk ok s h
  | stopped why s => exact h

end ScriptEnd

namespace Script

/-- Commands one after the other; the status is that of the last one. -/
def block : List (Script χ) → Script χ
  | [] => skip
  | [script] => script
  | script :: scripts => seq script (block scripts)

/-- `script && script && ...` -/
def chain : List (Script χ) → Script χ
  | [] => skip
  | [script] => script
  | script :: scripts => andThen script (chain scripts)

/-- `if cond ; then thn ; fi` -/
def ifThen (cond thn : Script χ) : Script χ := ifElse cond thn skip

/-- The script, for the effect `run` of the commands. -/
def exec (run : χ → σ → ScriptEnd σ ω) : Script χ → σ → ScriptEnd σ ω
  | skip, s => .status true s
  | command c, s => run c s
  | seq first second, s => (exec run first s).bind fun _ s => exec run second s
  | andThen first second, s =>
    (exec run first s).bind fun ok s => if ok then exec run second s else .status false s
  | orElse first second, s =>
    (exec run first s).bind fun ok s => if ok then .status true s else exec run second s
  | ifElse cond thn els, s =>
    (exec run cond s).bind fun ok s => if ok then exec run thn s else exec run els s

/-- The commands that occur in a script. -/
def commands : Script χ → List χ
  | skip => []
  | command c => [c]
  | seq first second | andThen first second | orElse first second =>
    commands first ++ commands second
  | ifElse cond thn els => commands cond ++ commands thn ++ commands els

/-! ## Triples -/

/-- `{P} script {Q, R}` -/
def Triple (run : χ → σ → ScriptEnd σ ω) (P : σ → Prop) (script : Script χ) (Q : Bool → σ → Prop)
    (R : ω → σ → Prop) : Prop :=
  ∀ s, P s → (script.exec run s).All Q R

section Rules

variable {run : χ → σ → ScriptEnd σ ω} {P P' : σ → Prop} {M Q Q' : Bool → σ → Prop}
  {R R' : ω → σ → Prop} {first second cond thn els script : Script χ}

theorem Triple.mono (h : Triple run P script Q R) (hP : ∀ s, P' s → P s)
    (hQ : ∀ ok s, Q ok s → Q' ok s) (hR : ∀ why s, R why s → R' why s) :
    Triple run P' script Q' R' :=
  fun s hs => (h s (hP s hs)).mono hQ hR

theorem Triple.skip (h : ∀ s, P s → Q true s) : Triple run P Script.skip Q R := h

theorem Triple.command {c : χ} (h : ∀ s, P s → (run c s).All Q R) :
    Triple run P (Script.command c) Q R := h

theorem Triple.seq (hfirst : Triple run P first M R)
    (hsecond : ∀ ok, Triple run (M ok) second Q R) : Triple run P (Script.seq first second) Q R :=
  fun s hs => (hfirst s hs).bind fun ok s' hs' => hsecond ok s' hs'

theorem Triple.andThen (hfirst : Triple run P first M R)
    (hsecond : Triple run (M true) second Q R) (hfail : ∀ s, M false s → Q false s) :
    Triple run P (Script.andThen first second) Q R := by
  refine fun s hs => (hfirst s hs).bind fun ok s' hs' => ?_
  cases ok with
  | true => exact hsecond s' hs'
  | false => exact hfail s' hs'

theorem Triple.orElse (hfirst : Triple run P first M R)
    (hsecond : Triple run (M false) second Q R) (hdone : ∀ s, M true s → Q true s) :
    Triple run P (Script.orElse first second) Q R := by
  refine fun s hs => (hfirst s hs).bind fun ok s' hs' => ?_
  cases ok with
  | true => exact hdone s' hs'
  | false => exact hsecond s' hs'

theorem Triple.ifElse (hcond : Triple run P cond M R) (hthn : Triple run (M true) thn Q R)
    (hels : Triple run (M false) els Q R) : Triple run P (Script.ifElse cond thn els) Q R := by
  refine fun s hs => (hcond s hs).bind fun ok s' hs' => ?_
  cases ok with
  | true => exact hthn s' hs'
  | false => exact hels s' hs'

/-- The first command of several, whatever its status. -/
theorem Triple.blockCons {scripts : List (Script χ)} (hfirst : Triple run P first M R)
    (hrest : ∀ ok, Triple run (M ok) (block (second :: scripts)) Q R) :
    Triple run P (block (first :: second :: scripts)) Q R :=
  Triple.seq hfirst hrest

/-- The first command of several that must all succeed. -/
theorem Triple.chainCons {scripts : List (Script χ)} (hfirst : Triple run P first M R)
    (hrest : Triple run (M true) (chain (second :: scripts)) Q R)
    (hfail : ∀ s, M false s → Q false s) :
    Triple run P (chain (first :: second :: scripts)) Q R :=
  Triple.andThen hfirst hrest hfail

theorem Triple.ifThen (hcond : Triple run P cond M R) (hthn : Triple run (M true) thn Q R)
    (hskip : ∀ s, M false s → Q true s) : Triple run P (Script.ifThen cond thn) Q R :=
  Triple.ifElse hcond hthn (Triple.skip hskip)

/-- A chain of which only the last command does something that matters. -/
theorem Triple.chainLast {scripts : List (Script χ)} {last : Script χ}
    (hscripts : ∀ script ∈ scripts, Triple run P script (fun _ => P) R)
    (hlast : Triple run P last Q R) (hfail : ∀ s, P s → Q false s) :
    Triple run P (chain (scripts ++ [last])) Q R := by
  induction scripts with
  | nil => exact hlast
  | cons script scripts ih =>
    have hrest := ih fun other hother => hscripts other (List.mem_cons_of_mem _ hother)
    have hscript := hscripts script List.mem_cons_self
    cases scripts with
    | nil => exact Triple.andThen hscript hrest hfail
    | cons => exact Triple.andThen hscript hrest hfail

/-- Two things that are known of a script. -/
theorem Triple.and {Q₂ : Bool → σ → Prop} {R₂ : ω → σ → Prop} (h : Triple run P script Q R)
    (h₂ : Triple run P script Q₂ R₂) :
    Triple run P script (fun ok s => Q ok s ∧ Q₂ ok s) (fun why s => R why s ∧ R₂ why s) := by
  intro s hs
  have hend := h s hs
  have hend₂ := h₂ s hs
  cases hexec : script.exec run s with
  | status ok s' =>
    rw [hexec] at hend hend₂
    exact ⟨hend, hend₂⟩
  | stopped why s' =>
    rw [hexec] at hend hend₂
    exact ⟨hend, hend₂⟩

/-- The invariant rule: what each command of the script keeps, the script keeps. -/
theorem Triple.invariant {I : σ → Prop}
    (h : ∀ c ∈ script.commands, Triple run I (Script.command c) (fun _ => I) R) :
    Triple run I script (fun _ => I) R := by
  induction script with
  | skip => exact .skip fun s hs => hs
  | command c => exact h c List.mem_cons_self
  | seq first second ihfirst ihsecond =>
    exact .seq (ihfirst fun c hc => h c (List.mem_append_left _ hc))
      fun _ => ihsecond fun c hc => h c (List.mem_append_right _ hc)
  | andThen first second ihfirst ihsecond =>
    exact .andThen (ihfirst fun c hc => h c (List.mem_append_left _ hc))
      (ihsecond fun c hc => h c (List.mem_append_right _ hc)) fun s hs => hs
  | orElse first second ihfirst ihsecond =>
    exact .orElse (ihfirst fun c hc => h c (List.mem_append_left _ hc))
      (ihsecond fun c hc => h c (List.mem_append_right _ hc)) fun s hs => hs
  | ifElse cond thn els ihcond ihthn ihels =>
    refine .ifElse (ihcond fun c hc => ?_) (ihthn fun c hc => ?_) (ihels fun c hc => ?_)
    · exact h c (List.mem_append_left _ (List.mem_append_left _ hc))
    · exact h c (List.mem_append_left _ (List.mem_append_right _ hc))
    · exact h c (List.mem_append_right _ hc)

end Rules

end Script

end GloDroid.Base

import Mathlib.Data.List.Basic
import Mathlib.Tactic.Common

/-!
# Labelled Machines and their Runs

A machine is a partial step function `σ → α → Option σ` together with its start states: a label
says which thread moves, which call is made and what the environment answers, and `none` says
that the step is not enabled.

Two notions of "for every run" are used by the developments that instantiate this file:

- `Machine.ReachableVia ok`: the states reached by runs each of whose steps satisfies `ok`.
  `Machine.Reachable` is the special case with no condition on the steps.
- `Machine.Run`: a run with the list of its labels, for statements that compare the steps of a
  run with the states it goes through.

A statement about the past of a run is made about a machine that also keeps what it observes
(`Machine.Observes`).
-/

namespace GloDroid.Base

universe u v w

/-- A labelled machine: start states and a partial step function. -/
structure Machine (σ : Type u) (α : Type v) where
  /-- The states a run may start from. -/
  start : σ → Prop
  /-- The step under a label, `none` when the label is not enabled. -/
  next : σ → α → Option σ

namespace Machine

variable {σ : Type u} {α : Type v} (m : Machine σ α)

/-! ## Reachable states -/

/-- The states reached by runs each of whose steps satisfies `ok`. -/
inductive ReachableVia (ok : σ → α → Prop) : σ → Prop where
  | start {s : σ} : m.start s → ReachableVia ok s
  | step {s s' : σ} {a : α} :
      ReachableVia ok s → ok s a → m.next s a = some s' → ReachableVia ok s'

/-- The states reached by any run. -/
abbrev Reachable : σ → Prop := m.ReachableVia fun _ _ => True

variable {m}

/-- The invariant rule: what holds initially and is kept by every admitted step holds in every
reached state. -/
theorem ReachableVia.invariant {ok : σ → α → Prop} (P : σ → Prop)
    (hstart : ∀ s, m.start s → P s)
    (hstep : ∀ s a s', P s → ok s a → m.next s a = some s' → P s')
    {s : σ} (h : m.ReachableVia ok s) : P s := by
  induction h with
  | start hs => exact hstart _ hs
  | step _ hok hnext ih => exact hstep _ _ _ ih hok hnext

/-- Weaker conditions on the steps reach more states. -/
theorem ReachableVia.mono {ok ok' : σ → α → Prop} (hok : ∀ s a, ok s a → ok' s a)
    {s : σ} (h : m.ReachableVia ok s) : m.ReachableVia ok' s := by
  induction h with
  | start hs => exact .start hs
  | step _ hstep hnext ih => exact .step ih (hok _ _ hstep) hnext

/-- A state reached under a condition is reachable. -/
theorem ReachableVia.reachable {ok : σ → α → Prop} {s : σ} (h : m.ReachableVia ok s) :
    m.Reachable s :=
  h.mono fun _ _ _ => trivial

/-! ## Runs with their labels -/

/-- `m.Run s as s'`: from `s` the labels `as` lead to `s'`. -/
inductive Run (m : Machine σ α) : σ → List α → σ → Prop where
  | nil (s : σ) : Run m s [] s
  | cons {s s' s'' : σ} {a : α} {as : List α} :
      m.next s a = some s' → Run m s' as s'' → Run m s (a :: as) s''

/-- Executing the labels one after the other, as a function. -/
def exec (m : Machine σ α) : σ → List α → Option σ
  | s, [] => some s
  | s, a :: as =>
    match m.next s a with
    | some s' => exec m s' as
    | none => none

theorem run_iff_exec {s s' : σ} {as : List α} : m.Run s as s' ↔ m.exec s as = some s' := by
  constructor
  · intro h
    induction h with
    | nil s => rfl
    | cons hnext _ ih => simp only [exec, hnext, ih]
  · intro h
    -- on the labels: `exec` ends at the first one that is not enabled
    induction as generalizing s with
    | nil =>
      obtain rfl : s = s' := by simpa [exec] using h
      exact .nil _
    | cons a as ih =>
      cases hnext : m.next s a with
      | none => simp [exec, hnext] at h
      | some t => exact .cons hnext (ih (by simpa [exec, hnext] using h))

/-- Runs one after the other. -/
theorem Run.append {s s' s'' : σ} {as bs : List α} (h : m.Run s as s') (h' : m.Run s' bs s'') :
    m.Run s (as ++ bs) s'' := by
  induction h with
  | nil _ => exact h'
  | cons hnext _ ih => exact .cons hnext (ih h')

/-- A run along labels one after the other, taken apart. -/
theorem Run.split {s s'' : σ} {as bs : List α} (h : m.Run s (as ++ bs) s'') :
    ∃ s', m.Run s as s' ∧ m.Run s' bs s'' := by
  induction as generalizing s with
  | nil => exact ⟨s, .nil s, h⟩
  | cons a as ih =>
    cases h with
    | cons hnext hrest =>
      obtain ⟨s', hfirst, hlast⟩ := ih hrest
      exact ⟨s', .cons hnext hfirst, hlast⟩

/-- A run continues a reachable state to a reachable state. -/
theorem Run.reachable {s s' : σ} {as : List α} (h : m.Run s as s') (hs : m.Reachable s) :
    m.Reachable s' := by
  induction h with
  | nil _ => exact hs
  | cons hnext _ ih => exact ih (.step hs trivial hnext)

/-- What every admitted step keeps is kept by every run of admitted steps. -/
theorem Run.invariant {P : σ → Prop} {ok : α → Prop}
    (hstep : ∀ s a s', ok a → P s → m.next s a = some s' → P s')
    {s s' : σ} {as : List α} (h : m.Run s as s') (hok : ∀ a ∈ as, ok a) (hs : P s) : P s' := by
  induction h with
  | nil _ => exact hs
  | @cons s _ _ a _ hnext _ ih =>
    -- the first step is admitted, and so are the others
    have hfirst := hstep _ _ _ (hok a List.mem_cons_self) hs hnext
    exact ih (fun b hb => hok b (List.mem_cons_of_mem _ hb)) hfirst

theorem run_of_exec {s : σ} {as : List α} (h : (m.exec s as).isSome) :
    m.Run s as ((m.exec s as).get h) :=
  run_iff_exec.mpr (Option.some_get h).symm

/-- A state computed by `exec` from a start state is reachable. -/
theorem reachable_of_exec {s : σ} {as : List α} (hs : m.start s) (h : (m.exec s as).isSome) :
    m.Reachable ((m.exec s as).get h) :=
  (run_of_exec h).reachable (.start hs)

/-- A run of admitted labels continues a state reached by admitted steps. -/
theorem Run.reachableVia {ok : α → Prop} {s s' : σ} {as : List α} (h : m.Run s as s')
    (hok : ∀ a ∈ as, ok a) (hs : m.ReachableVia (fun _ a => ok a) s) :
    m.ReachableVia (fun _ a => ok a) s' := by
  induction h with
  | nil _ => exact hs
  | @cons _ _ _ a _ hnext _ ih =>
    apply ih
    · exact fun b hb => hok b (List.mem_cons_of_mem _ hb)
    · exact .step hs (hok a List.mem_cons_self) hnext

/-! ## Observed machines -/

/-- `m'` is `m` with observations of its run, which `forget` drops: every start state is that of
some observations, and they disable no step. -/
structure Observes {τ : Type w} (m' : Machine τ α) (m : Machine σ α) (forget : τ → σ) : Prop where
  start : ∀ s, m.start s ↔ ∃ t, m'.start t ∧ forget t = s
  next : ∀ t a, (m'.next t a).map forget = m.next (forget t) a

/-- Every run is observed, whatever was observed before. -/
theorem Observes.run {τ : Type w} {m' : Machine τ α} {forget : τ → σ} (ho : m'.Observes m forget)
    {s s' : σ} {as : List α} (h : m.Run s as s') {t : τ} (ht : forget t = s) :
    ∃ t', m'.Run t as t' ∧ forget t' = s' := by
  induction h generalizing t with
  | nil _ => exact ⟨t, .nil t, ht⟩
  | cons hnext _ ih =>
    rw [← ht, ← ho.next, Option.map_eq_some_iff] at hnext
    obtain ⟨t₁, hnext, ht₁⟩ := hnext
    obtain ⟨t', hrun, ht'⟩ := ih ht₁
    exact ⟨t', .cons hnext hrun, ht'⟩

/-- The states of the observed runs are the reachable ones. -/
theorem Observes.reachable_iff {τ : Type w} {m' : Machine τ α} {forget : τ → σ}
    (ho : m'.Observes m forget) {s : σ} :
    m.Reachable s ↔ ∃ t, m'.Reachable t ∧ forget t = s := by
  constructor
  · intro h
    induction h with
    | start hs =>
      obtain ⟨t, ht, heq⟩ := (ho.start _).mp hs
      exact ⟨t, .start ht, heq⟩
    | step _ _ hnext ih =>
      obtain ⟨t, ht, rfl⟩ := ih
      rw [← ho.next, Option.map_eq_some_iff] at hnext
      obtain ⟨t', hnext, heq⟩ := hnext
      exact ⟨t', .step ht trivial hnext, heq⟩
  · rintro ⟨t, h, rfl⟩
    induction h with
    | start ht => exact .start ((ho.start _).mpr ⟨_, ht, rfl⟩)
    | step _ _ hnext ih =>
      apply ih.step trivial
      rw [← ho.next, hnext, Option.map_some]

/-! ## Restricted machines -/

/-- The machine that only takes the steps admitted by `ok`. -/
def restrict (m : Machine σ α) (ok : σ → α → Prop) [∀ s a, Decidable (ok s a)] : Machine σ α where
  start := m.start
  next s a := if ok s a then m.next s a else none

/-- What the restricted machine reaches is reached by admitted steps. -/
theorem reachableVia_of_restrict {ok : σ → α → Prop} [∀ s a, Decidable (ok s a)] {s : σ}
    (h : (m.restrict ok).Reachable s) : m.ReachableVia ok s := by
  induction h with
  | start hs => exact .start hs
  | step _ _ hnext ih =>
    simp only [restrict] at hnext
    -- a step of the restricted machine is an admitted one
    split_ifs at hnext with hok
    exact .step ih hok hnext

/-- A state computed by `exec` on admitted steps only. -/
theorem reachableVia_of_exec {ok : σ → α → Prop} [∀ s a, Decidable (ok s a)] {s : σ} {as : List α}
    (hs : m.start s) (h : ((m.restrict ok).exec s as).isSome) :
    m.ReachableVia ok (((m.restrict ok).exec s as).get h) :=
  reachableVia_of_restrict (reachable_of_exec (m := m.restrict ok) hs h)

end Machine

end GloDroid.Base

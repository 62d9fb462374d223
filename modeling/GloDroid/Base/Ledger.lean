import Mathlib.Data.Set.Insert
import Mathlib.Tactic.Common

/-!
# A Ledger of Resources

What a component has acquired and not yet released, each resource with those it stands on: a device
on its library, a buffer on its device. A resource is misused when it is

- acquired while it is live, or on something that is not;
- used while it is not live;
- released while it is not live, or under something that stands on it.

`Records s` says that nothing was misused and that exactly the resources of `s` are live. Each
operation has a rule.
-/

namespace GloDroid.Base

variable {ρ : Type*} [DecidableEq ρ]

/-- What is live, with what it stands on, and what was misused. -/
structure Ledger (ρ : Type*) where
  live : List (ρ × List ρ) := []
  misused : List ρ := []
  deriving DecidableEq, Repr

namespace Ledger

def isLive (l : Ledger ρ) (r : ρ) : Bool := (l.live.map Prod.fst).contains r

def misuse (l : Ledger ρ) (r : ρ) : Ledger ρ := { l with misused := r :: l.misused }

/-- `r` is acquired, and stands on the resources in `on`. -/
def acquire (l : Ledger ρ) (r : ρ) (on : List ρ) : Ledger ρ :=
  if !l.isLive r && on.all l.isLive then { l with live := (r, on) :: l.live } else l.misuse r

/-- `r` is used. -/
def use (l : Ledger ρ) (r : ρ) : Ledger ρ :=
  if l.isLive r then l else l.misuse r

/-- Something that is live stands on `r`. -/
def isUnder (l : Ledger ρ) (r : ρ) : Bool := l.live.any fun e => e.2.contains r

/-- `r` is released. -/
def release (l : Ledger ρ) (r : ρ) : Ledger ρ :=
  if l.isLive r && !l.isUnder r then { l with live := l.live.filter fun e => e.1 ≠ r }
  else l.misuse r

/-! ## Rules -/

/-- Nothing was misused, and what is live is what is in `s`. -/
structure Records (s : Set (ρ × List ρ)) (l : Ledger ρ) : Prop where
  noMisuse : l.misused = []
  live : ∀ e, e ∈ l.live ↔ e ∈ s

variable {s s' : Set (ρ × List ρ)} {l : Ledger ρ} {r : ρ} {on : List ρ}

omit [DecidableEq ρ] in
theorem records_empty : Records (∅ : Set (ρ × List ρ)) {} :=
  ⟨rfl, fun e => by simp⟩

omit [DecidableEq ρ] in
theorem Records.congr (h : l.Records s) (heq : ∀ e, e ∈ s' ↔ e ∈ s) : l.Records s' :=
  ⟨h.noMisuse, fun e => (h.live e).trans (heq e).symm⟩

theorem Records.isLive_iff (h : l.Records s) : l.isLive r = true ↔ ∃ on, (r, on) ∈ s := by
  simp only [isLive, List.contains_iff_mem, List.mem_map, h.live, Prod.exists, exists_and_right,
    exists_eq_right]

theorem Records.isUnder_iff (h : l.Records s) : l.isUnder r = true ↔ ∃ e ∈ s, r ∈ e.2 := by
  simp only [isUnder, List.any_eq_true, List.contains_iff_mem, h.live]

theorem Records.acquire (h : l.Records s) (hfresh : ∀ on, (r, on) ∉ s)
    (hon : ∀ r' ∈ on, ∃ on', (r', on') ∈ s) : (l.acquire r on).Records (insert (r, on) s) := by
  have hnot : l.isLive r = false := by
    rw [Bool.eq_false_iff, Ne, h.isLive_iff]
    exact fun ⟨on, hmem⟩ => hfresh on hmem
  have hall : on.all l.isLive = true := by
    rw [List.all_eq_true]
    exact fun r' hr' => h.isLive_iff.mpr (hon r' hr')
  simp only [Ledger.acquire, hnot, hall, Bool.not_false, Bool.and_self, if_true]
  exact ⟨h.noMisuse, fun e => by rw [List.mem_cons, h.live, Set.mem_insert_iff]⟩

/-- The use of what is live leaves no trace. -/
theorem Records.use_eq (h : l.Records s) (hr : (r, on) ∈ s) : l.use r = l := by
  have hlive : l.isLive r = true := h.isLive_iff.mpr ⟨on, hr⟩
  rw [Ledger.use, if_pos hlive]

theorem Records.use (h : l.Records s) (hr : (r, on) ∈ s) : (l.use r).Records s := by
  rwa [h.use_eq hr]

theorem Records.release (h : l.Records s) (hr : (r, on) ∈ s) (hfree : ∀ e ∈ s, r ∉ e.2) :
    (l.release r).Records {e ∈ s | e.1 ≠ r} := by
  have hlive : l.isLive r = true := h.isLive_iff.mpr ⟨on, hr⟩
  have hnot : l.isUnder r = false := by
    rw [Bool.eq_false_iff, Ne, h.isUnder_iff]
    exact fun ⟨e, he, hmem⟩ => hfree e he hmem
  simp only [Ledger.release, hlive, hnot, Bool.not_false, Bool.and_self, if_true]
  exact ⟨h.noMisuse, fun e => by simp [h.live]⟩

/-- A resource is released if it was acquired at all. -/
theorem Records.releaseIf {c : Bool} (h : l.Records s) (hr : c = true → ∃ on, (r, on) ∈ s)
    (hnone : c = false → ∀ e ∈ s, e.1 ≠ r) (hfree : ∀ e ∈ s, r ∉ e.2) :
    (if c then l.release r else l).Records {e ∈ s | e.1 ≠ r} := by
  cases c with
  | true =>
    obtain ⟨on, hmem⟩ := hr rfl
    exact h.release hmem hfree
  | false =>
    exact h.congr fun e => ⟨fun he => he.1, fun he => ⟨he, hnone rfl e he⟩⟩

end Ledger

end GloDroid.Base

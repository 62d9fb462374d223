import Mathlib.Data.List.Basic
import Mathlib.Data.List.Pairwise
import Mathlib.Tactic.Common
import Mathlib.Tactic.Linarith

/-!
# Windows and Runs in a List

A window of a list is a range of positions given by its first position and its size. A predicate
holds on one contiguous run of a list when the list splits into elements without it, elements
with it and elements without it. The rules here lead from windows to runs and from a run to the
local form: no element without the predicate stands between two elements with it.
-/

namespace GloDroid.Base

variable {α : Type*}

/-- Position `i` lies in the window of `size` positions starting at `first`. -/
def InWindow (first size i : Nat) : Prop := first ≤ i ∧ i < first + size

instance (first size i : Nat) : Decidable (InWindow first size i) :=
  inferInstanceAs (Decidable (_ ∧ _))

theorem not_inWindow_zero (first i : Nat) : ¬ InWindow first 0 i := by
  unfold InWindow
  omega

/-- The elements satisfying `p` form one contiguous run of the list, possibly empty. -/
def ContiguousIn (p : α → Prop) (l : List α) : Prop :=
  ∃ below run above, l = below ++ run ++ above ∧
    (∀ x ∈ below, ¬ p x) ∧ (∀ x ∈ run, p x) ∧ (∀ x ∈ above, ¬ p x)

theorem ContiguousIn.congr {p q : α → Prop} {l : List α} (hpq : ∀ x ∈ l, (p x ↔ q x))
    (h : ContiguousIn p l) : ContiguousIn q l := by
  obtain ⟨below, run, above, rfl, hbelow, hrun, habove⟩ := h
  refine ⟨below, run, above, rfl, fun x hx => ?_, fun x hx => ?_, fun x hx => ?_⟩
  · exact (not_congr (hpq x (by simp [hx]))).mp (hbelow x hx)
  · exact (hpq x (by simp [hx])).mp (hrun x hx)
  · exact (not_congr (hpq x (by simp [hx]))).mp (habove x hx)

/-- In a list ascending for an asymmetric relation, nothing without `p` stands between two elements
of a contiguous run. -/
theorem ContiguousIn.between {p : α → Prop} {r : α → α → Prop} {l : List α}
    (hasymm : ∀ c d, r c d → ¬ r d c) (hl : l.Pairwise r) (h : ContiguousIn p l)
    {a x b : α} (ha : a ∈ l) (hx : x ∈ l) (hb : b ∈ l) (hax : r a x) (hxb : r x b)
    (hpa : p a) (hpb : p b) : p x := by
  obtain ⟨below, run, above, rfl, hbelow, hrun, habove⟩ := h
  obtain ⟨hlow, -, hcross⟩ := List.pairwise_append.mp hl
  obtain ⟨-, -, hcross'⟩ := List.pairwise_append.mp hlow
  -- `a` and `b` are in the run, so `x` is neither below nor above it
  have hmid : ∀ c, c ∈ below ++ run ++ above → p c → c ∈ run := by
    intro c hc hpc
    rcases List.mem_append.mp hc with hc | hc
    · rcases List.mem_append.mp hc with hc | hc
      · exact absurd hpc (hbelow c hc)
      · exact hc
    · exact absurd hpc (habove c hc)
  rcases List.mem_append.mp hx with hx | hx
  · rcases List.mem_append.mp hx with hx | hx
    · -- an element below the run precedes `a`
      exact absurd (hcross' x hx a (hmid a ha hpa)) (hasymm a x hax)
    · exact hrun x hx
  · -- an element above the run follows `b`
    exact absurd (hcross b (List.mem_append_right _ (hmid b hb hpb)) x hx) (hasymm x b hxb)

/-! ## From a window to the three parts of the list -/

/-- The positions before, inside and after a window are those of three consecutive parts. -/
theorem window_parts {p : α → Prop} {l : List α} {first size : Nat}
    (h : ∀ i (hi : i < l.length), p l[i] ↔ InWindow first size i) :
    (∀ x ∈ l.take first, ¬ p x) ∧ (∀ x ∈ (l.drop first).take size, p x) ∧
      (∀ x ∈ (l.drop first).drop size, ¬ p x) := by
  refine ⟨fun x hx => ?_, fun x hx => ?_, fun x hx => ?_⟩
  -- a position in a part is one in the list, moved by the parts before it
  all_goals obtain ⟨i, hi, rfl⟩ := List.mem_iff_getElem.mp hx
  · rw [List.length_take] at hi
    rw [List.getElem_take, h i (by omega)]
    unfold InWindow
    omega
  · rw [List.length_take, List.length_drop] at hi
    rw [List.getElem_take, List.getElem_drop, h (first + i) (by omega)]
    unfold InWindow
    omega
  · rw [List.length_drop, List.length_drop] at hi
    rw [List.getElem_drop, List.getElem_drop, h (first + (size + i)) (by omega)]
    unfold InWindow
    omega

theorem window_split (l : List α) (first size : Nat) :
    l = l.take first ++ (l.drop first).take size ++ (l.drop first).drop size := by
  rw [List.append_assoc, List.take_append_drop, List.take_append_drop]

/-- A predicate that holds exactly on a window of positions holds on a contiguous run. -/
theorem contiguousIn_of_window {p : α → Prop} {l : List α} {first size : Nat}
    (h : ∀ i (hi : i < l.length), p l[i] ↔ InWindow first size i) : ContiguousIn p l :=
  ⟨l.take first, (l.drop first).take size, (l.drop first).drop size, window_split l first size,
    window_parts h⟩

/-- A window inside the list leaves out all but `size` elements. -/
theorem length_filter_not_window {p : α → Bool} {l : List α} {first size : Nat}
    (h : ∀ i (hi : i < l.length), p l[i] = true ↔ InWindow first size i)
    (hfits : first + size ≤ l.length) :
    (l.filter fun x => !p x).length = l.length - size := by
  obtain ⟨hbelow, hrun, habove⟩ := window_parts (p := fun x => p x = true) h
  have keep : ∀ part : List α, (∀ x ∈ part, ¬ p x = true) → part.filter (fun x => !p x) = part :=
    fun part hpart => List.filter_eq_self.mpr fun x hx => by simpa using hpart x hx
  have drop : ((l.drop first).take size).filter (fun x => !p x) = [] :=
    List.filter_eq_nil_iff.mpr fun x hx => by simpa using hrun x hx
  calc (l.filter fun x => !p x).length
      = (l.take first ++ (l.drop first).drop size).length := by
        conv_lhs => rw [window_split l first size]
        rw [List.filter_append, List.filter_append, keep _ hbelow, drop, keep _ habove,
          List.append_nil]
    _ = l.length - size := by
        rw [List.length_append, List.length_take, List.length_drop, List.length_drop]
        omega

end GloDroid.Base

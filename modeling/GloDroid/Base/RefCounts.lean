import GloDroid.Base.OrderedMap

/-!
# Reference Counts in a Map

A map from keys to positive counts. A count is changed by erasing the entry and inserting it again
with the new count, and the entry goes away with the last reference. `Counts m f` says that the
map holds exactly the counts `f`, with no entry for zero.
-/

namespace GloDroid.Base

variable {K : Type*} [LinearOrder K]

namespace OrderedMap

/-- One more reference to `k`. -/
def retain (m : OrderedMap K Nat) (k : K) : OrderedMap K Nat :=
  match m.find? k with
  | some num => (m.erase k).emplace k (num + 1)
  | none => m.emplace k 1

/-- One reference to `k` less. -/
def drop (m : OrderedMap K Nat) (k : K) : OrderedMap K Nat :=
  match m.find? k with
  | some num => if 1 < num then (m.erase k).emplace k (num - 1) else m.erase k
  | none => m

/-- The map holds the counts `f`. -/
def Counts (m : OrderedMap K Nat) (f : K → Nat) : Prop :=
  ∀ k, m.find? k = if f k = 0 then none else some (f k)

theorem counts_empty : (empty : OrderedMap K Nat).Counts fun _ => 0 := fun _ => rfl

/-- An entry written anew after its erasure. -/
theorem find?_reinsert (m : OrderedMap K Nat) (k k' : K) (num : Nat) :
    ((m.erase k).emplace k num).find? k' = if k' = k then some num else m.find? k' := by
  rw [find?_emplace, find?_erase, if_pos rfl, find?_erase]
  split_ifs <;> rfl

theorem Counts.retain {m : OrderedMap K Nat} {f : K → Nat} (h : m.Counts f) (k : K) :
    (m.retain k).Counts fun k' => f k' + if k' = k then 1 else 0 := by
  intro k'
  unfold OrderedMap.retain
  have hk := h k
  cases hfind : m.find? k with
  | none =>
    have hzero : f k = 0 := by
      by_contra hne
      simp [hfind, hne] at hk
    dsimp only
    rw [find?_emplace, hfind]
    by_cases heq : k' = k
    · simp [heq, hzero]
    · simp [heq, h k']
  | some num =>
    have hnum : f k = num := by
      rw [hfind] at hk
      split_ifs at hk
      exact (Option.some.inj hk).symm
    dsimp only
    rw [find?_reinsert]
    by_cases heq : k' = k
    · simp [heq, hnum]
    · simp [heq, h k']

theorem Counts.drop {m : OrderedMap K Nat} {f : K → Nat} (h : m.Counts f) (k : K) :
    (m.drop k).Counts fun k' => f k' - if k' = k then 1 else 0 := by
  intro k'
  unfold OrderedMap.drop
  have hk := h k
  cases hfind : m.find? k with
  | none =>
    have hzero : f k = 0 := by
      by_contra hne
      simp [hfind, hne] at hk
    by_cases heq : k' = k
    · simp [heq, hzero, hfind]
    · simp [heq, h k']
  | some num =>
    have hnum : f k = num ∧ num ≠ 0 := by
      rw [hfind] at hk
      split_ifs at hk with hzero
      have heq := Option.some.inj hk
      exact ⟨heq.symm, heq ▸ hzero⟩
    dsimp only
    by_cases hmany : 1 < num
    · rw [if_pos hmany, find?_reinsert]
      by_cases heq : k' = k
      · simp [heq, hnum.1, show ¬ num - 1 = 0 by omega]
      · simp [heq, h k']
    · -- that was the last reference
      rw [if_neg hmany, find?_erase]
      by_cases heq : k' = k
      · simp [heq, hnum.1, show num - 1 = 0 by omega]
      · simp [heq, h k']

/-! ## Several references -/

theorem Counts.congr {m : OrderedMap K Nat} {f g : K → Nat} (h : m.Counts f)
    (hfg : ∀ k, f k = g k) : m.Counts g := fun k => by rw [h k, hfg k]

theorem Counts.retainAll {m : OrderedMap K Nat} {f : K → Nat} (h : m.Counts f) (ks : List K) :
    (ks.foldl OrderedMap.retain m).Counts fun k => f k + ks.count k := by
  induction ks generalizing m f with
  | nil => exact h.congr fun k => by simp
  | cons k ks ih =>
    refine (ih (h.retain k)).congr fun k' => ?_
    rw [List.count_cons]
    by_cases heq : k' = k
    · subst heq
      simp
      omega
    · simp [heq, Ne.symm heq]

theorem Counts.dropAll {m : OrderedMap K Nat} {f : K → Nat} (h : m.Counts f) (ks : List K) :
    (ks.foldl OrderedMap.drop m).Counts fun k => f k - ks.count k := by
  induction ks generalizing m f with
  | nil => exact h.congr fun k => by simp
  | cons k ks ih =>
    refine (ih (h.drop k)).congr fun k' => ?_
    rw [List.count_cons]
    by_cases heq : k' = k
    · subst heq
      simp
      omega
    · simp [heq, Ne.symm heq]

theorem Counts.isNone_iff {m : OrderedMap K Nat} {f : K → Nat} (h : m.Counts f) (k : K) :
    (m.find? k).isNone = true ↔ f k = 0 := by
  rw [h k]
  split_ifs with hzero <;> simp [hzero]

end OrderedMap

end GloDroid.Base

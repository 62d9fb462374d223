import Mathlib.Order.Lattice
import Mathlib.Data.List.Basic
import Mathlib.Data.List.Pairwise
import Mathlib.Tactic.Common

/-!
# Multimaps

A multimap that iterates in ascending key order, as `std::multimap` does. Among equal keys
`emplace` puts the new entry at the end of their range, so iteration is stable: filling a
multimap from a list orders it by key and, among equal keys, by the position in the list.
-/

namespace GloDroid.Base

variable {K V : Type*} [LinearOrder K]

/-- A multimap with ascending iteration order. -/
structure MultiMap (K V : Type*) [LinearOrder K] where
  /-- The entries in iteration order. -/
  entries : List (K × V)
  /-- Keys ascend, not necessarily strictly. -/
  sorted : entries.Pairwise (fun a b => a.1 ≤ b.1)

namespace MultiMap

/-- The multimap with no entry. -/
def empty : MultiMap K V := ⟨[], .nil⟩

/-- Insertion at the end of the range of equal keys. -/
def emplaceEntry (k : K) (v : V) : List (K × V) → List (K × V)
  | [] => [(k, v)]
  -- equal keys are passed over
  | e :: rest => if k < e.1 then (k, v) :: e :: rest else e :: emplaceEntry k v rest

theorem mem_emplaceEntry_iff {k : K} {v : V} {l : List (K × V)} {e : K × V} :
    e ∈ emplaceEntry k v l ↔ e = (k, v) ∨ e ∈ l := by
  induction l with
  | nil => simp [emplaceEntry]
  | cons e' rest ih =>
    simp only [emplaceEntry]
    split_ifs with hlt
    · simp
    · simp only [List.mem_cons, ih]
      exact or_left_comm

/-- In a sorted list the new entry stands between the keys up to `k` and the keys above. -/
theorem emplaceEntry_eq_filter {k : K} {v : V} {l : List (K × V)}
    (hl : l.Pairwise (fun a b => a.1 ≤ b.1)) :
    emplaceEntry k v l = l.filter (fun e => e.1 ≤ k) ++ (k, v) :: l.filter (fun e => k < e.1) := by
  induction l with
  | nil => simp [emplaceEntry]
  | cons e rest ih =>
    obtain ⟨hhead, hrest⟩ := List.pairwise_cons.mp hl
    simp only [emplaceEntry]
    split_ifs with hlt
    · -- the rest of the list is above `k` as well
      have habove : ∀ e' ∈ rest, k < e'.1 := fun e' he' => lt_of_lt_of_le hlt (hhead e' he')
      have hnone : rest.filter (fun e => e.1 ≤ k) = [] :=
        List.filter_eq_nil_iff.mpr fun e' he' => by simpa using habove e' he'
      have hall : rest.filter (fun e => k < e.1) = rest :=
        List.filter_eq_self.mpr fun e' he' => by simpa using habove e' he'
      simp [hlt, hnone, hall]
    · simp [hlt, not_lt.mp hlt, ih hrest]

theorem pairwise_emplaceEntry {k : K} {v : V} {l : List (K × V)}
    (hl : l.Pairwise (fun a b => a.1 ≤ b.1)) :
    (emplaceEntry k v l).Pairwise (fun a b => a.1 ≤ b.1) := by
  rw [emplaceEntry_eq_filter hl]
  refine List.pairwise_append.mpr ⟨hl.filter _, List.pairwise_cons.mpr ⟨?_, hl.filter _⟩, ?_⟩
  · intro e he
    exact le_of_lt (by simpa using (List.mem_filter.mp he).2)
  · intro e he e' he'
    have hle : e.1 ≤ k := by simpa using (List.mem_filter.mp he).2
    rcases List.mem_cons.mp he' with rfl | he'
    · exact hle
    · have hlt : k < e'.1 := by simpa using (List.mem_filter.mp he').2
      exact le_trans hle (le_of_lt hlt)

/-- `std::multimap::emplace`. -/
def emplace (m : MultiMap K V) (k : K) (v : V) : MultiMap K V :=
  ⟨emplaceEntry k v m.entries, pairwise_emplaceEntry m.sorted⟩

/-- The new entry stands between the keys up to `k` and the keys above. -/
theorem entries_emplace (m : MultiMap K V) (k : K) (v : V) :
    (m.emplace k v).entries =
      m.entries.filter (fun e => e.1 ≤ k) ++ (k, v) :: m.entries.filter (fun e => k < e.1) :=
  emplaceEntry_eq_filter m.sorted

/-- Emplacing adds the element and nothing else. -/
theorem emplace_perm (m : MultiMap K V) (k : K) (v : V) :
    (m.emplace k v).entries.Perm ((k, v) :: m.entries) := by
  have hrest : (m.entries.filter fun e => k < e.1) = m.entries.filter fun e => !decide (e.1 ≤ k) :=
    List.filter_congr fun e _ => by rw [← decide_not, decide_eq_decide, not_le]
  rw [entries_emplace, hrest]
  exact List.perm_middle.trans ((List.filter_append_perm _ _).cons _)

theorem mem_emplace_iff {m : MultiMap K V} {k : K} {v : V} {e : K × V} :
    e ∈ (m.emplace k v).entries ↔ e = (k, v) ∨ e ∈ m.entries :=
  mem_emplaceEntry_iff

/-! ## Filling a multimap from a list -/

/-- Emplace the elements of a list one after the other. -/
def ofList (l : List (K × V)) : MultiMap K V :=
  l.foldl (fun m e => m.emplace e.1 e.2) empty

theorem mem_foldl_emplace {l : List (K × V)} {m : MultiMap K V} {e : K × V} :
    e ∈ (l.foldl (fun m e => m.emplace e.1 e.2) m).entries ↔ e ∈ m.entries ∨ e ∈ l := by
  induction l generalizing m with
  | nil => simp
  | cons e' rest ih =>
    simp only [List.foldl_cons, ih, mem_emplace_iff, List.mem_cons]
    exact or_assoc.trans or_left_comm

theorem mem_ofList_iff {l : List (K × V)} {e : K × V} : e ∈ (ofList l).entries ↔ e ∈ l := by
  simp [ofList, mem_foldl_emplace, empty]

/-- The stable order of a multimap: by key, then by `R` on the values. -/
def StableLt (R : V → V → Prop) (a b : K × V) : Prop :=
  a.1 < b.1 ∨ (a.1 = b.1 ∧ R a.2 b.2)

/-- Emplacing an entry whose value comes after every value already there keeps the stable
order. -/
theorem stable_emplace {R : V → V → Prop} {m : MultiMap K V} {k : K} {v : V}
    (hm : m.entries.Pairwise (StableLt R)) (hlast : ∀ e ∈ m.entries, R e.2 v) :
    (m.emplace k v).entries.Pairwise (StableLt R) := by
  rw [entries_emplace]
  refine List.pairwise_append.mpr ⟨hm.filter _, List.pairwise_cons.mpr ⟨?_, hm.filter _⟩, ?_⟩
  · intro e he
    exact Or.inl (by simpa using (List.mem_filter.mp he).2)
  · intro e he e' he'
    obtain ⟨hmem, hle⟩ := List.mem_filter.mp he
    have hle : e.1 ≤ k := by simpa using hle
    rcases List.mem_cons.mp he' with rfl | he'
    · -- among equal keys the new value comes last
      rcases lt_or_eq_of_le hle with hlt | heq
      · exact Or.inl hlt
      · exact Or.inr ⟨heq, hlast e hmem⟩
    · have hlt : k < e'.1 := by simpa using (List.mem_filter.mp he').2
      exact Or.inl (lt_of_le_of_lt hle hlt)

/-- A multimap filled from an `R`-ascending list iterates in the stable order. -/
theorem stable_ofList {R : V → V → Prop} {l : List (K × V)}
    (hl : l.Pairwise (fun a b => R a.2 b.2)) :
    (ofList l).entries.Pairwise (StableLt R) := by
  -- what is emplaced already comes before the rest of the list
  have hfold : ∀ (m : MultiMap K V), m.entries.Pairwise (StableLt R) →
      (∀ e ∈ m.entries, ∀ e' ∈ l, R e.2 e'.2) →
      (l.foldl (fun m e => m.emplace e.1 e.2) m).entries.Pairwise (StableLt R) := by
    induction l with
    | nil => exact fun m hm _ => hm
    | cons e rest ih =>
      intro m hm hbefore
      obtain ⟨hhead, hrest⟩ := List.pairwise_cons.mp hl
      refine ih hrest _ (stable_emplace hm fun e' he' => hbefore e' he' e List.mem_cons_self) ?_
      intro e' he' e'' he''
      rcases mem_emplace_iff.mp he' with rfl | he'
      · exact hhead e'' he''
      · exact hbefore e' he' e'' (List.mem_cons_of_mem _ he'')
  exact hfold empty List.Pairwise.nil (by simp [empty])

end MultiMap

end GloDroid.Base

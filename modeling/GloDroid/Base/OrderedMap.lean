import Mathlib.Order.Lattice
import Mathlib.Data.List.Basic
import Mathlib.Data.List.Pairwise
import Mathlib.Tactic.Common

/-!
# Ordered Maps

A map that iterates over its entries in ascending key order, as `std::map` does: a list of
entries whose keys strictly ascend. Besides lookup, insertion of a fresh key and erasure there is
`OrderedMap.loop`, the shape of a `for` loop over the entries that may rewrite each value,
carries a loop state and may return early.
-/

namespace GloDroid.Base

variable {K V S : Type*}

/-! ## Loops with early return -/

/-- A `for` loop over the entries: the body sees the loop state, the key and the value, returns
the rewritten value and either the next loop state or `none` to leave the loop at once. -/
def loopEntries (body : S → K → V → V × Option S) : S → List (K × V) → List (K × V) × Option S
  | s, [] => ([], some s)
  | s, (k, v) :: rest =>
    match body s k v with
    -- the entries behind an early return stay as they are
    | (v', none) => ((k, v') :: rest, none)
    | (v', some s') =>
      let r := loopEntries body s' rest
      ((k, v') :: r.1, r.2)

/-- An iteration that continues. -/
theorem loopEntries_cons_some {body : S → K → V → V × Option S} {s s' : S} {k : K} {v v' : V}
    (h : body s k v = (v', some s')) (rest : List (K × V)) :
    loopEntries body s ((k, v) :: rest) =
      ((k, v') :: (loopEntries body s' rest).1, (loopEntries body s' rest).2) := by
  simp only [loopEntries, h]

/-- An iteration that leaves the loop. -/
theorem loopEntries_cons_none {body : S → K → V → V × Option S} {s : S} {k : K} {v v' : V}
    (h : body s k v = (v', none)) (rest : List (K × V)) :
    loopEntries body s ((k, v) :: rest) = ((k, v') :: rest, none) := by
  simp only [loopEntries, h]

theorem keys_loopEntries (body : S → K → V → V × Option S) (s : S) (l : List (K × V)) :
    (loopEntries body s l).1.map Prod.fst = l.map Prod.fst := by
  induction l generalizing s with
  | nil => rfl
  | cons e rest ih =>
    obtain ⟨k, v⟩ := e
    unfold loopEntries
    split
    · rfl
    · simp [ih]

/-- After a loop, complete or left early, every value is the old one or one the body produced. -/
theorem mem_loopEntries {body : S → K → V → V × Option S} {s : S} {l : List (K × V)}
    {k : K} {v' : V} (h : (k, v') ∈ (loopEntries body s l).1) :
    ∃ v, (k, v) ∈ l ∧ (v' = v ∨ ∃ t, v' = (body t k v).1) := by
  induction l generalizing s with
  | nil => simp [loopEntries] at h
  | cons e rest ih =>
    obtain ⟨k₁, v₁⟩ := e
    unfold loopEntries at h
    split at h
    case h_1 w hbody =>
      rcases List.mem_cons.mp h with heq | hrest
      · obtain ⟨rfl, rfl⟩ := Prod.mk.inj heq
        exact ⟨v₁, List.mem_cons_self, Or.inr ⟨s, by rw [hbody]⟩⟩
      · exact ⟨v', List.mem_cons_of_mem _ hrest, Or.inl rfl⟩
    case h_2 w t hbody =>
      rcases List.mem_cons.mp h with heq | hrest
      · obtain ⟨rfl, rfl⟩ := Prod.mk.inj heq
        exact ⟨v₁, List.mem_cons_self, Or.inr ⟨s, by rw [hbody]⟩⟩
      · obtain ⟨v, hv, hcase⟩ := ih hrest
        exact ⟨v, List.mem_cons_of_mem _ hv, hcase⟩

variable [LinearOrder K]

/-- A map with ascending iteration order. -/
structure OrderedMap (K V : Type*) [LinearOrder K] where
  /-- The entries in iteration order. -/
  entries : List (K × V)
  /-- Keys strictly ascend. -/
  sorted : entries.Pairwise (fun a b => a.1 < b.1)

namespace OrderedMap

/-- The map with no entry. -/
def empty : OrderedMap K V := ⟨[], .nil⟩

/-- Entry lists with the same keys satisfy the same ordering condition. -/
theorem pairwise_of_keys_eq {W : Type*} {l : List (K × V)} {l' : List (K × W)}
    (hkeys : l'.map Prod.fst = l.map Prod.fst) (hl : l.Pairwise (fun a b => a.1 < b.1)) :
    l'.Pairwise (fun a b => a.1 < b.1) := by
  have hmap : (l'.map Prod.fst).Pairwise (· < ·) := by
    rw [hkeys]
    exact List.pairwise_map.mpr hl
  exact List.pairwise_map.mp hmap

/-- The value stored under a key. -/
def find? (m : OrderedMap K V) (k : K) : Option V := m.entries.lookup k

/-! ## Membership and lookup -/

theorem lookup_eq_some_iff {l : List (K × V)} (hl : l.Pairwise (fun a b => a.1 < b.1))
    {k : K} {v : V} : l.lookup k = some v ↔ (k, v) ∈ l := by
  induction l with
  | nil => simp
  | cons e rest ih =>
    obtain ⟨k', v'⟩ := e
    have hrest := (List.pairwise_cons.mp hl).2
    have hhead := (List.pairwise_cons.mp hl).1
    -- under strictly ascending keys no later entry has the key of the first
    by_cases hk : k = k'
    · subst hk
      have hnot : (k, v) ∉ rest := fun hmem => lt_irrefl k (hhead (k, v) hmem)
      simp [hnot, eq_comm]
    · have hbeq : (k == k') = false := by simpa using hk
      simp [List.lookup_cons, hbeq, ih hrest, hk]

/-- Lookup and membership in the entry list agree. -/
theorem find?_eq_some_iff {m : OrderedMap K V} {k : K} {v : V} :
    m.find? k = some v ↔ (k, v) ∈ m.entries :=
  lookup_eq_some_iff m.sorted

theorem find?_eq_none_iff {m : OrderedMap K V} {k : K} :
    m.find? k = none ↔ ∀ v, (k, v) ∉ m.entries := by
  simp only [Option.eq_none_iff_forall_ne_some, ne_eq, find?_eq_some_iff]

/-- Two entries under one key are the same entry. -/
theorem value_unique {m : OrderedMap K V} {k : K} {v w : V}
    (hv : (k, v) ∈ m.entries) (hw : (k, w) ∈ m.entries) : v = w := by
  have hv' := find?_eq_some_iff.mpr hv
  have hw' := find?_eq_some_iff.mpr hw
  simpa [hv'] using hw'

theorem nodup_keys (m : OrderedMap K V) : (m.entries.map Prod.fst).Nodup :=
  List.pairwise_map.mpr (m.sorted.imp fun h => ne_of_lt h)

/-! ## Insertion and erasure -/

/-- Insert under a fresh key; an entry that is already there stays as it is. -/
def emplaceEntry (k : K) (v : V) : List (K × V) → List (K × V)
  | [] => [(k, v)]
  | (k', v') :: rest =>
    if k < k' then (k, v) :: (k', v') :: rest
    -- the key is taken, and `emplace` does nothing
    else if k = k' then (k', v') :: rest
    else (k', v') :: emplaceEntry k v rest

theorem mem_emplaceEntry_imp {k : K} {v : V} {l : List (K × V)} {e : K × V}
    (h : e ∈ emplaceEntry k v l) : e = (k, v) ∨ e ∈ l := by
  induction l with
  | nil => simpa [emplaceEntry] using h
  | cons e' rest ih =>
    obtain ⟨k', v'⟩ := e'
    simp only [emplaceEntry] at h
    split_ifs at h with hlt heq
    · simpa using h
    · exact Or.inr h
    · rcases List.mem_cons.mp h with rfl | hrest
      · exact Or.inr List.mem_cons_self
      · exact (ih hrest).imp id (List.mem_cons_of_mem _)

theorem pairwise_emplaceEntry {k : K} {v : V} {l : List (K × V)}
    (hl : l.Pairwise (fun a b => a.1 < b.1)) :
    (emplaceEntry k v l).Pairwise (fun a b => a.1 < b.1) := by
  induction l with
  | nil => simp [emplaceEntry]
  | cons e' rest ih =>
    obtain ⟨k', v'⟩ := e'
    obtain ⟨hhead, hrest⟩ := List.pairwise_cons.mp hl
    simp only [emplaceEntry]
    split_ifs with hlt heq
    · refine List.pairwise_cons.mpr ⟨fun e he => ?_, hl⟩
      rcases List.mem_cons.mp he with rfl | he
      · exact hlt
      · exact lt_trans hlt (hhead e he)
    · exact hl
    · refine List.pairwise_cons.mpr ⟨fun e he => ?_, ih hrest⟩
      rcases mem_emplaceEntry_imp he with rfl | he
      · exact lt_of_le_of_ne (not_lt.mp hlt) (Ne.symm heq)
      · exact hhead e he

/-- `std::map::emplace`. -/
def emplace (m : OrderedMap K V) (k : K) (v : V) : OrderedMap K V :=
  ⟨emplaceEntry k v m.entries, pairwise_emplaceEntry m.sorted⟩

/-- An emplaced entry is there unless its key was taken; the old entries stay. -/
theorem mem_emplaceEntry_iff {k k' : K} {v v' : V} {l : List (K × V)}
    (hl : l.Pairwise (fun a b => a.1 < b.1)) :
    (k', v') ∈ emplaceEntry k v l ↔
      (k', v') ∈ l ∨ (k' = k ∧ v' = v ∧ ∀ w, (k, w) ∉ l) := by
  induction l with
  | nil => simp [emplaceEntry]
  | cons e rest ih =>
    obtain ⟨k₁, v₁⟩ := e
    obtain ⟨hhead, hrest⟩ := List.pairwise_cons.mp hl
    simp only [emplaceEntry]
    split_ifs with hlt heq
    · -- every key of the list is above the new one
      have hfresh : ∀ w, (k, w) ∉ (k₁, v₁) :: rest := by
        intro w hw
        rcases List.mem_cons.mp hw with h | h
        · exact ne_of_lt hlt (congrArg Prod.fst h)
        · exact lt_asymm hlt (hhead _ h)
      simp only [List.mem_cons (a := (k', v')) (b := (k, v)), Prod.mk.injEq, hfresh,
        not_false_eq_true, implies_true, and_true]
      exact or_comm
    · subst heq
      have htaken : ¬ ∀ w, (k, w) ∉ (k, v₁) :: rest := fun h => h v₁ List.mem_cons_self
      exact (or_iff_left fun h => htaken h.2.2).symm
    · have hne : ∀ w, (k, w) ≠ (k₁, v₁) := fun w h => heq (congrArg Prod.fst h)
      simp only [List.mem_cons, ih hrest, hne, false_or]
      exact or_assoc.symm

theorem find?_emplace (m : OrderedMap K V) (k k' : K) (v : V) :
    (m.emplace k v).find? k' = if k' = k then some ((m.find? k).getD v) else m.find? k' := by
  ext w
  rw [find?_eq_some_iff, emplace, mem_emplaceEntry_iff m.sorted]
  by_cases hk : k' = k
  · subst hk
    cases hfind : m.find? k' with
    | none =>
      -- a fresh key
      have hfresh := find?_eq_none_iff.mp hfind
      simp [hfresh, eq_comm]
    | some u =>
      -- a taken key keeps its value
      have hu := find?_eq_some_iff.mp hfind
      have htaken : ¬ ∀ w, (k', w) ∉ m.entries := fun h => h u hu
      simp only [htaken, and_false, or_false, if_true, Option.getD_some, Option.some.injEq]
      exact ⟨fun hw => value_unique hu hw, fun h => h ▸ hu⟩
  · simp [hk, find?_eq_some_iff]

/-- Emplacing under a fresh key adds an entry and nothing else. -/
theorem emplaceEntry_perm {k : K} {v : V} {l : List (K × V)} (h : ∀ w, (k, w) ∉ l) :
    (emplaceEntry k v l).Perm ((k, v) :: l) := by
  induction l with
  | nil => exact List.Perm.refl _
  | cons e rest ih =>
    obtain ⟨k', v'⟩ := e
    have hne : k ≠ k' := by
      rintro rfl
      exact h v' List.mem_cons_self
    have hrest : ∀ w, (k, w) ∉ rest := fun w hw => h w (List.mem_cons_of_mem _ hw)
    simp only [emplaceEntry]
    rw [if_neg hne]
    split_ifs
    · exact List.Perm.refl _
    · exact ((ih hrest).cons _).trans (List.Perm.swap _ _ _)

theorem emplace_perm {m : OrderedMap K V} {k : K} (h : m.find? k = none) (v : V) :
    (m.emplace k v).entries.Perm ((k, v) :: m.entries) :=
  emplaceEntry_perm (find?_eq_none_iff.mp h)

/-- `std::map::erase`. -/
def erase (m : OrderedMap K V) (k : K) : OrderedMap K V :=
  ⟨m.entries.filter fun e => e.1 ≠ k, m.sorted.filter _⟩

theorem mem_erase_iff {m : OrderedMap K V} {k : K} {e : K × V} :
    e ∈ (m.erase k).entries ↔ e ∈ m.entries ∧ e.1 ≠ k := by
  simp [erase]

theorem find?_erase (m : OrderedMap K V) (k k' : K) :
    (m.erase k).find? k' = if k' = k then none else m.find? k' := by
  ext v
  rw [find?_eq_some_iff, mem_erase_iff]
  by_cases h : k' = k <;> simp [h, find?_eq_some_iff]

/-! ## Updating values in place -/

/-- Rewrite every value. -/
def mapVals (m : OrderedMap K V) (f : K → V → V) : OrderedMap K V :=
  ⟨m.entries.map fun e => (e.1, f e.1 e.2),
    pairwise_of_keys_eq (by simp [Function.comp_def]) m.sorted⟩

/-- Rewrite the value stored under one key. -/
def modify (m : OrderedMap K V) (k : K) (f : V → V) : OrderedMap K V :=
  m.mapVals fun k' v => if k' = k then f v else v

theorem find?_mapVals (m : OrderedMap K V) (f : K → V → V) (k : K) :
    (m.mapVals f).find? k = (m.find? k).map (f k) := by
  ext v
  rw [find?_eq_some_iff]
  simp only [mapVals, List.mem_map, Option.map_eq_some_iff]
  constructor
  · rintro ⟨⟨k', w⟩, hmem, heq⟩
    obtain ⟨rfl, rfl⟩ := Prod.mk.inj heq
    exact ⟨w, find?_eq_some_iff.mpr hmem, rfl⟩
  · rintro ⟨w, hw, rfl⟩
    exact ⟨(k, w), find?_eq_some_iff.mp hw, rfl⟩

theorem find?_modify (m : OrderedMap K V) (k k' : K) (f : V → V) :
    (m.modify k f).find? k' = if k' = k then (m.find? k').map f else m.find? k' := by
  rw [modify, find?_mapVals]
  by_cases h : k' = k <;> simp [h]

@[simp] theorem keys_mapVals (m : OrderedMap K V) (f : K → V → V) :
    (m.mapVals f).entries.map Prod.fst = m.entries.map Prod.fst := by
  simp [mapVals, Function.comp_def]

/-! ## Loops over a map -/

/-- `loopEntries` on the entries of a map. -/
def loop (m : OrderedMap K V) (body : S → K → V → V × Option S) (s : S) :
    OrderedMap K V × Option S :=
  (⟨(loopEntries body s m.entries).1,
    pairwise_of_keys_eq (keys_loopEntries body s m.entries) m.sorted⟩,
   (loopEntries body s m.entries).2)

end OrderedMap

end GloDroid.Base

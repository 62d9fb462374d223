import Mathlib.Data.List.Perm.Basic
import Mathlib.Data.List.Count
import Mathlib.Tactic.Common

/-!
# Objects with Shared Owners

The objects that the shared pointers of a component point to, as `std::shared_ptr` keeps them: each
with the number of its owners. An object is destroyed by the release that leaves it without an
owner.

`Holds owners` says that the use counts are those of the pointers in `owners`. Each operation has a
rule, and a release destroys exactly if the pointer is not among the owners that are left.
-/

namespace GloDroid.Base

variable {α β : Type*}

/-- The objects in the order of their construction, each with its use count: zero after its
destruction. -/
structure SharedHeap (α : Type*) where
  cells : List (α × Nat) := []
  deriving DecidableEq, Repr

namespace SharedHeap

/-- `use_count`. -/
def useCount (h : SharedHeap α) (id : Nat) : Nat := (h.cells[id]?).elim 0 Prod.snd

/-- The object, also after its destruction. -/
def get? (h : SharedHeap α) (id : Nat) : Option α := (h.cells[id]?).map Prod.fst

/-- The pointer that the next object gets. -/
def next (h : SharedHeap α) : Nat := h.cells.length

/-- `make_shared`. -/
def make (h : SharedHeap α) (a : α) : SharedHeap α := ⟨h.cells ++ [(a, 1)]⟩

/-- A shared pointer is copied. -/
def copy (h : SharedHeap α) (id : Nat) : SharedHeap α :=
  ⟨h.cells.modify id fun c => (c.1, c.2 + 1)⟩

/-- A shared pointer is destroyed; the result is the object to be destroyed with it. -/
def release (h : SharedHeap α) (id : Nat) : Option α × SharedHeap α :=
  match h.cells[id]? with
  | some (a, n) => (if n = 1 then some a else none, ⟨h.cells.set id (a, n - 1)⟩)
  | none => (none, h)

/-- What the objects that have an owner contain. -/
def contents (f : α → List β) (h : SharedHeap α) : List β :=
  h.cells.flatMap fun c => if c.2 = 0 then [] else f c.1

/-! ## Counts and objects -/

variable {h : SharedHeap α} {a : α} {id id' : Nat}

theorem useCount_next : h.useCount h.next = 0 := by
  simp [useCount, next]

theorem getElem?_make :
    (h.make a).cells[id]? = if id = h.next then some (a, 1) else h.cells[id]? := by
  rcases Nat.lt_trichotomy id h.cells.length with hlt | rfl | hgt
  · simp [make, next, hlt, Nat.ne_of_lt hlt, List.getElem?_append_left]
  · simp [make, next]
  · have hlast : (h.cells ++ [(a, 1)])[id]? = none := by
      rw [List.getElem?_eq_none_iff, List.length_append, List.length_singleton]
      omega
    have hbefore : h.cells[id]? = none := List.getElem?_eq_none_iff.mpr (Nat.le_of_lt hgt)
    simp [make, next, Nat.ne_of_gt hgt, hlast, hbefore]

theorem useCount_make :
    (h.make a).useCount id = if id = h.next then 1 else h.useCount id := by
  simp only [useCount, getElem?_make]
  by_cases heq : id = h.next <;> simp [heq]

theorem useCount_copy (hid : id < h.next) :
    (h.copy id).useCount id' = h.useCount id' + if id' = id then 1 else 0 := by
  by_cases heq : id' = id
  · subst heq
    have hcell : id' < h.cells.length := hid
    simp [useCount, copy, hcell]
  · simp [useCount, copy, heq, Ne.symm heq]

theorem useCount_release :
    (h.release id).2.useCount id' = h.useCount id' - if id' = id then 1 else 0 := by
  unfold release
  cases hcell : h.cells[id]? with
  | none =>
    by_cases heq : id' = id
    · subst heq
      simp [useCount, hcell]
    · simp [heq]
  | some c =>
    obtain ⟨hlt, rfl⟩ := List.getElem?_eq_some_iff.mp hcell
    by_cases heq : id' = id
    · subst heq
      simp [useCount, hlt]
    · simp [useCount, heq, Ne.symm heq]

theorem lt_next_of_useCount (hid : 0 < h.useCount id) : id < h.next := by
  by_contra hnot
  have hcell : h.cells[id]? = none := List.getElem?_eq_none_iff.mpr (Nat.le_of_not_lt hnot)
  simp [useCount, hcell] at hid

@[simp] theorem get?_copy : (h.copy id).get? id' = h.get? id' := by
  simp only [get?, copy, List.getElem?_modify]
  cases h.cells[id']? with
  | none => rfl
  | some c => by_cases heq : id = id' <;> simp [heq]

@[simp] theorem get?_release : (h.release id).2.get? id' = h.get? id' := by
  unfold release
  cases hcell : h.cells[id]? with
  | none => rfl
  | some c =>
    obtain ⟨hlt, rfl⟩ := List.getElem?_eq_some_iff.mp hcell
    by_cases heq : id' = id
    · subst heq
      simp [get?, hlt]
    · simp [get?, Ne.symm heq]

theorem get?_make : (h.make a).get? id = if id = h.next then some a else h.get? id := by
  simp only [get?, getElem?_make]
  by_cases heq : id = h.next <;> simp [heq]

/-! ## Owners -/

/-- The use counts are those of the pointers in `owners`. -/
def Holds (owners : List Nat) (h : SharedHeap α) : Prop := ∀ id, h.useCount id = owners.count id

variable {owners owners' : List Nat}

theorem holds_empty : (⟨[]⟩ : SharedHeap α).Holds [] := fun id => by simp [useCount]

/-- Only the owners count, not their order. -/
theorem Holds.congr (hh : h.Holds owners) (hperm : owners'.Perm owners) : h.Holds owners' :=
  fun id => (hh id).trans (hperm.count_eq id).symm

theorem Holds.pos_iff (hh : h.Holds owners) : 0 < h.useCount id ↔ id ∈ owners := by
  rw [hh id, List.count_pos_iff]

theorem Holds.make (hh : h.Holds owners) : (h.make a).Holds (h.next :: owners) := by
  intro id
  rw [useCount_make, List.count_cons]
  by_cases heq : id = h.next
  · subst heq
    have hnone : owners.count h.next = 0 := by rw [← hh, useCount_next]
    simp [hnone]
  · simp [heq, Ne.symm heq, hh id]

theorem Holds.copy (hh : h.Holds owners) (hid : id ∈ owners) :
    (h.copy id).Holds (id :: owners) := by
  intro id'
  rw [useCount_copy (lt_next_of_useCount (hh.pos_iff.mpr hid)), hh id', List.count_cons]
  by_cases heq : id' = id
  · simp [heq]
  · simp [heq, Ne.symm heq]

theorem Holds.release (hh : h.Holds (id :: owners)) : (h.release id).2.Holds owners := by
  intro id'
  rw [useCount_release, hh id', List.count_cons]
  by_cases heq : id' = id
  · simp [heq]
  · simp [heq, Ne.symm heq]

/-- The last owner destroys the object. -/
theorem Holds.release_fst (hh : h.Holds (id :: owners)) :
    (h.release id).1 = if id ∈ owners then none else h.get? id := by
  have hcount := hh id
  rw [List.count_cons_self] at hcount
  have hlt : id < h.next := lt_next_of_useCount (by omega)
  obtain ⟨c, hcell⟩ : ∃ c, h.cells[id]? = some c := ⟨_, List.getElem?_eq_getElem hlt⟩
  have hnum : c.2 = owners.count id + 1 := by simpa [useCount, hcell] using hcount
  have hone : c.2 = 1 ↔ id ∉ owners := by
    rw [hnum, ← List.count_eq_zero]
    omega
  by_cases hmem : id ∈ owners
  · simp [SharedHeap.release, hcell, hmem, mt hone.mp (not_not.mpr hmem)]
  · simp [SharedHeap.release, get?, hcell, hmem, hone.mpr hmem]

/-! ## Contents -/

variable {f : α → List β}

theorem contents_make : (h.make a).contents f = h.contents f ++ f a := by
  simp [contents, make]

/-- The contents before and after a cell. -/
theorem contents_set {c d : α × Nat} (hcell : h.cells[id]? = some c) :
    ∃ before after : List β,
      h.contents f = before ++ (if c.2 = 0 then [] else f c.1) ++ after ∧
        (⟨h.cells.set id d⟩ : SharedHeap α).contents f =
          before ++ (if d.2 = 0 then [] else f d.1) ++ after := by
  obtain ⟨hlt, rfl⟩ := List.getElem?_eq_some_iff.mp hcell
  refine ⟨(h.cells.take id).flatMap fun c => if c.2 = 0 then [] else f c.1,
    (h.cells.drop (id + 1)).flatMap fun c => if c.2 = 0 then [] else f c.1, ?_, ?_⟩
  · have hsplit : h.cells = h.cells.take id ++ h.cells[id] :: h.cells.drop (id + 1) := by
      rw [List.getElem_cons_drop, List.take_append_drop]
    have hcat : h.contents f = (h.cells.take id ++ h.cells[id] :: h.cells.drop (id + 1)).flatMap
        fun c => if c.2 = 0 then [] else f c.1 := by rw [← hsplit, contents]
    rw [hcat, List.flatMap_append, List.flatMap_cons, List.append_assoc]
  · simp [contents, List.set_eq_take_append_cons_drop, hlt]

theorem contents_copy (hid : 0 < h.useCount id) : (h.copy id).contents f = h.contents f := by
  obtain ⟨c, hcell⟩ : ∃ c, h.cells[id]? = some c :=
    ⟨_, List.getElem?_eq_getElem (lt_next_of_useCount hid)⟩
  have hpos : c.2 ≠ 0 := by
    have hcount : h.useCount id = c.2 := by simp [useCount, hcell]
    omega
  have hset : h.copy id = ⟨h.cells.set id (c.1, c.2 + 1)⟩ := by
    obtain ⟨hlt, rfl⟩ := List.getElem?_eq_some_iff.mp hcell
    simp [copy, List.modify_eq_set_getElem?, hlt]
  obtain ⟨before, after, hold, hnew⟩ := contents_set (f := f) (d := (c.1, c.2 + 1)) hcell
  rw [hset, hnew, hold]
  simp [hpos]

/-- What a release destroys is what the contents lose. -/
theorem Holds.contents_release (hh : h.Holds (id :: owners)) :
    ((h.release id).1.elim [] f ++ (h.release id).2.contents f).Perm (h.contents f) := by
  have hcount := hh id
  rw [List.count_cons_self] at hcount
  obtain ⟨c, hcell⟩ : ∃ c, h.cells[id]? = some c :=
    ⟨_, List.getElem?_eq_getElem (show id < h.next from lt_next_of_useCount (by omega))⟩
  have hpos : c.2 ≠ 0 := by
    have hnum : h.useCount id = c.2 := by simp [useCount, hcell]
    omega
  obtain ⟨before, after, hold, hnew⟩ := contents_set (f := f) (d := (c.1, c.2 - 1)) hcell
  simp only [SharedHeap.release, hcell]
  rw [hold, hnew, if_neg hpos]
  by_cases hone : c.2 = 1
  · -- the object is destroyed
    simp only [hone, if_true, Option.elim_some, Nat.sub_self, List.append_nil]
    rw [← List.append_assoc]
    exact List.perm_append_comm.append_right after
  · have hleft : c.2 - 1 ≠ 0 := by omega
    simp [hone, hleft]

/-- A copy that is destroyed again leaves everything as it was. -/
theorem release_copy (hid : 0 < h.useCount id) : (h.copy id).release id = (none, h) := by
  obtain ⟨hlt, hcell⟩ : ∃ hlt : id < h.cells.length, h.useCount id = h.cells[id].2 := by
    have hlt : id < h.cells.length := lt_next_of_useCount hid
    exact ⟨hlt, by simp [useCount, hlt]⟩
  have hne : h.cells[id].2 + 1 ≠ 1 := by omega
  have hlast : (h.copy id).cells[id]? = some (h.cells[id].1, h.cells[id].2 + 1) := by
    simp [copy, hlt]
  have hset : (h.copy id).cells.set id (h.cells[id].1, h.cells[id].2) = h.cells := by
    have hcopy : (h.copy id).cells = h.cells.set id (h.cells[id].1, h.cells[id].2 + 1) := by
      simp [copy, List.modify_eq_set_getElem?, hlt]
    rw [hcopy, List.set_set]
    exact List.set_getElem_self hlt
  rw [release, hlast]
  simp only [hne, if_false, Nat.add_sub_cancel, hset]

/-- Without owners there are no contents. -/
theorem Holds.contents_eq_nil (hh : h.Holds []) : h.contents f = [] := by
  refine List.flatMap_eq_nil_iff.mpr fun c hc => ?_
  obtain ⟨id, hcell⟩ := List.mem_iff_getElem?.mp hc
  have hcount := hh id
  simp only [useCount, hcell, Option.elim_some, List.count_nil] at hcount
  rw [if_pos hcount]

end SharedHeap

end GloDroid.Base

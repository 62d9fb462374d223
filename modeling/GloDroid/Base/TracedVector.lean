import Mathlib.Data.List.Basic
import Mathlib.Tactic.Common

/-!
# Vectors with Recorded Accesses

A vector that is accessed without bounds checks, together with a record of the accesses: which index
was used, and how many elements there were at that time. That a program never leaves the bounds is a
statement about the record.

An access outside the bounds has no effect on the elements here. Nothing can be concluded from what
a program does after one, except that there was one (`TracedVector.Extends`).
-/

namespace GloDroid.Base

/-- An access: the index, and the number of elements at the time. -/
structure Access where
  index : Int
  size : Nat
  deriving DecidableEq, Repr

def Access.InRange (a : Access) : Prop := 0 ≤ a.index ∧ a.index < a.size

instance (a : Access) : Decidable a.InRange := inferInstanceAs (Decidable (_ ∧ _))

/-- The elements, and the accesses so far, the last one first. -/
structure TracedVector (α : Type*) where
  elems : List α := []
  accesses : List Access := []

namespace TracedVector

variable {α ι : Type*} {v v' : TracedVector α} {n : Nat} {i : Int}

def size (v : TracedVector α) : Nat := v.elems.length

/-- Elements at the end are dropped or filled up. -/
def resize (v : TracedVector α) (n : Nat) (fill : α) : TracedVector α :=
  { v with elems := v.elems.take n ++ List.replicate (n - v.size) fill }

/-- An access that reads an element; the value is not kept. -/
def read (v : TracedVector α) (i : Int) : TracedVector α :=
  { v with accesses := ⟨i, v.size⟩ :: v.accesses }

/-- An access that changes an element. -/
def modify (v : TracedVector α) (i : Int) (f : α → α) : TracedVector α :=
  { elems := if 0 ≤ i then v.elems.modify i.toNat f else v.elems
    accesses := ⟨i, v.size⟩ :: v.accesses }

/-! ## Bounds -/

/-- The vector has `n` elements, and no access has left the bounds. -/
structure Within (n : Nat) (v : TracedVector α) : Prop where
  size_eq : v.size = n
  inRange : ∀ a ∈ v.accesses, a.InRange

theorem size_resize (v : TracedVector α) (n : Nat) (fill : α) : (v.resize n fill).size = n := by
  simp only [resize, size, List.length_append, List.length_take, List.length_replicate]
  omega

theorem within_resize (h : ∀ a ∈ v.accesses, a.InRange) (n : Nat) (fill : α) :
    (v.resize n fill).Within n :=
  ⟨size_resize v n fill, h⟩

theorem size_modify (v : TracedVector α) (i : Int) (f : α → α) : (v.modify i f).size = v.size := by
  unfold modify size
  split_ifs
  · exact List.length_modify f _ _
  · rfl

theorem Within.read (h : v.Within n) (hi : 0 ≤ i) (hlt : i < n) : (v.read i).Within n := by
  refine ⟨h.size_eq, fun a ha => ?_⟩
  rcases List.mem_cons.mp ha with rfl | ha
  · exact ⟨hi, by rwa [h.size_eq]⟩
  · exact h.inRange a ha

theorem Within.modify (h : v.Within n) (hi : 0 ≤ i) (hlt : i < n) (f : α → α) :
    (v.modify i f).Within n :=
  ⟨(size_modify v i f).trans h.size_eq, (h.read hi hlt).inRange⟩

/-- A loop whose body keeps the bounds keeps them. -/
theorem Within.foldl {body : TracedVector α → ι → TracedVector α} {is : List ι} (h : v.Within n)
    (hbody : ∀ v : TracedVector α, v.Within n → ∀ i ∈ is, (body v i).Within n) :
    (is.foldl body v).Within n := by
  induction is generalizing v with
  | nil => exact h
  | cons i rest ih =>
    apply ih (hbody v h i List.mem_cons_self)
    exact fun v hv j hj => hbody v hv j (List.mem_cons_of_mem _ hj)

/-! ## Records only grow -/

/-- The record of `v'` has everything the record of `v` has. -/
def Extends (v v' : TracedVector α) : Prop := v.accesses <:+ v'.accesses

theorem Extends.trans {v'' : TracedVector α} (h : v.Extends v') (h' : v'.Extends v'') :
    v.Extends v'' :=
  List.IsSuffix.trans h h'

theorem extends_modify (v : TracedVector α) (i : Int) (f : α → α) : v.Extends (v.modify i f) :=
  List.suffix_cons _ _

theorem extends_foldl {body : TracedVector α → ι → TracedVector α}
    (hbody : ∀ (v : TracedVector α) i, v.Extends (body v i)) (is : List ι) (v : TracedVector α) :
    v.Extends (is.foldl body v) := by
  induction is generalizing v with
  | nil => exact List.suffix_rfl
  | cons i rest ih => exact (hbody v i).trans (ih (body v i))

end TracedVector

end GloDroid.Base

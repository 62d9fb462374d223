import GloDroid.Base.RoundUp
import Mathlib.Data.List.Pairwise

/-!
# Regions of a Store

Items are laid out one after the other, each from a multiple of an alignment on, and data is written
to regions of a store. Where the regions come one after the other, each of them holds what was
written to it, and everything outside is as it was.
-/

namespace GloDroid.Base

/-! ## Layouts -/

/-- Each item from the first multiple of `a` on at which the one before it has ended. -/
def layout {α : Type*} (size : α → Nat) (a : Nat) : Nat → List α → List (Nat × α)
  | _, [] => []
  | start, x :: xs => (start, x) :: layout size a (roundUp (start + size x) a) xs

section Layout

variable {α : Type*} {size : α → Nat} {a d start : Nat} {items : List α} {p : Nat × α}

theorem map_snd_layout : (layout size a start items).map Prod.snd = items := by
  induction items generalizing start with
  | nil => rfl
  | cons x xs ih => simp [layout, ih]

theorem le_of_mem_layout (ha : 0 < a) (h : p ∈ layout size a start items) : start ≤ p.1 := by
  induction items generalizing start with
  | nil => cases h
  | cons x xs ih =>
    rcases List.mem_cons.mp h with rfl | h
    · exact Nat.le_refl start
    · have hnext : start + size x ≤ roundUp (start + size x) a := le_roundUp ha
      exact (Nat.le_add_right start (size x)).trans (hnext.trans (ih h))

theorem dvd_of_mem_layout (hstart : d ∣ start) (ha : d ∣ a)
    (h : p ∈ layout size a start items) : d ∣ p.1 := by
  induction items generalizing start with
  | nil => cases h
  | cons x xs ih =>
    rcases List.mem_cons.mp h with rfl | h
    · exact hstart
    · exact ih (ha.trans (dvd_roundUp _ a)) h

/-- Each item ends before the next one starts. -/
theorem pairwise_layout (ha : 0 < a) (start : Nat) (items : List α) :
    (layout size a start items).Pairwise fun p q => p.1 + size p.2 ≤ q.1 := by
  induction items generalizing start with
  | nil => exact List.Pairwise.nil
  | cons x xs ih =>
    refine List.Pairwise.cons ?_ (ih _)
    intro q hq
    exact (le_roundUp ha).trans (le_of_mem_layout ha hq)

/-- Of two items of a layout, one ends before the other one starts. -/
theorem layout_disjoint (ha : 0 < a) {q : Nat × α} (hp : p ∈ layout size a start items)
    (hq : q ∈ layout size a start items) :
    p = q ∨ p.1 + size p.2 ≤ q.1 ∨ q.1 + size q.2 ≤ p.1 := by
  have hsymm : Std.Symm fun p q : Nat × α =>
      p = q ∨ p.1 + size p.2 ≤ q.1 ∨ q.1 + size q.2 ≤ p.1 :=
    ⟨fun _ _ h => h.imp Eq.symm Or.symm⟩
  have hall : (layout size a start items).Pairwise fun p q =>
      p = q ∨ p.1 + size p.2 ≤ q.1 ∨ q.1 + size q.2 ≤ p.1 :=
    (pairwise_layout ha start items).imp fun h => .inr (.inl h)
  exact hall.forall_of_forall (fun _ _ => .inl rfl) hp hq

end Layout

/-! ## Writes -/

/-- The data at an offset, and the store everywhere else. -/
def writeAt {β : Type*} (store : Nat → β) (offset : Nat) (data : List β) : Nat → β := fun i =>
  if offset ≤ i then data[i - offset]?.getD (store i) else store i

/-- Several writes, one after the other. -/
def writeAll {β : Type*} (store : Nat → β) : List (Nat × List β) → Nat → β
  | [] => store
  | w :: ws => writeAll (writeAt store w.1 w.2) ws

section Write

variable {β : Type*} {store store' : Nat → β} {offset i j : Nat} {data : List β} {b : β}
  {ws : List (Nat × List β)}

theorem writeAt_inside (h : data[j]? = some b) : writeAt store offset data (offset + j) = b := by
  simp [writeAt, h]

theorem writeAt_outside (h : i < offset ∨ offset + data.length ≤ i) :
    writeAt store offset data i = store i := by
  by_cases hle : offset ≤ i
  · have hnone : data[i - offset]? = none := List.getElem?_eq_none (by omega)
    simp [writeAt, hnone]
  · simp [writeAt, hle]

theorem writeAt_congr (h : store i = store' i) :
    writeAt store offset data i = writeAt store' offset data i := by
  simp [writeAt, h]

theorem writeAll_congr (h : store i = store' i) : writeAll store ws i = writeAll store' ws i := by
  induction ws generalizing store store' with
  | nil => exact h
  | cons w ws ih => exact ih (writeAt_congr h)

theorem writeAll_outside (h : ∀ w ∈ ws, i < w.1 ∨ w.1 + w.2.length ≤ i) :
    writeAll store ws i = store i := by
  induction ws generalizing store with
  | nil => rfl
  | cons w ws ih =>
    have hrest : writeAll (writeAt store w.1 w.2) ws i = writeAt store w.1 w.2 i :=
      ih fun v hv => h v (List.mem_cons_of_mem w hv)
    exact hrest.trans (writeAt_outside (h w List.mem_cons_self))

/-- A region holds what was written to it, as no later write touches it. -/
theorem writeAll_inside (hdisjoint : ws.Pairwise fun v w => v.1 + v.2.length ≤ w.1)
    (hmem : (offset, data) ∈ ws) (h : data[j]? = some b) :
    writeAll store ws (offset + j) = b := by
  induction ws generalizing store with
  | nil => cases hmem
  | cons w ws ih =>
    obtain ⟨hlater, hdisjoint⟩ := List.pairwise_cons.mp hdisjoint
    rcases List.mem_cons.mp hmem with rfl | hmem
    · have hj : j < data.length := (List.getElem?_eq_some_iff.mp h).1
      have houtside : ∀ v ∈ ws, offset + j < v.1 ∨ v.1 + v.2.length ≤ offset + j := by
        intro v hv
        have hend : offset + data.length ≤ v.1 := hlater v hv
        omega
      exact (writeAll_outside houtside).trans (writeAt_inside h)
    · exact ih hdisjoint hmem

end Write

end GloDroid.Base

import Mathlib.Data.List.Perm.Basic
import Mathlib.Data.List.Nodup
import Mathlib.Tactic.Common

/-!
# Linear Ownership of File Descriptors

The open descriptors of a process, seen from one component: those it opened itself and still holds,
and those of everyone else. Closing a number that the component does not hold is a stray close; it
hits nobody, or the descriptor of someone else.

`Owned stored` says that the places where the component keeps descriptors, listed in `stored`, own
them linearly: each descriptor it holds is kept in exactly one place, and there was no stray close.
Each operation has a rule: opening adds a place, closing removes one.
-/

namespace GloDroid.Base

/-- The descriptors of a process. -/
structure FdTable where
  /-- Opened by the component, and not closed. -/
  held : List Nat := []
  /-- Open, and not opened by the component. -/
  foreign : List Nat := []
  /-- Closed by the component without being held by it. -/
  stray : List Nat := []
  deriving DecidableEq, Repr

namespace FdTable

/-- The number is in use. -/
def isOpen (t : FdTable) (fd : Nat) : Bool := t.held.contains fd || t.foreign.contains fd

/-- The component opens a descriptor: the kernel returns a number that is not in use, or fails. -/
def openFd (t : FdTable) : Option Nat → Option FdTable
  | none => some t
  | some fd => if t.isOpen fd then none else some { t with held := fd :: t.held }

/-- The same for a descriptor that belongs to someone else. -/
def openForeign (t : FdTable) : Option Nat → Option FdTable
  | none => some t
  | some fd => if t.isOpen fd then none else some { t with foreign := fd :: t.foreign }

/-- The component closes a number. -/
def close (t : FdTable) (fd : Nat) : FdTable :=
  if t.held.contains fd then { t with held := t.held.erase fd }
  -- the number may belong to someone else by now
  else { t with foreign := t.foreign.erase fd, stray := fd :: t.stray }

/-- Someone else closes one of its descriptors. -/
def closeForeign (t : FdTable) (fd : Nat) : Option FdTable :=
  if t.foreign.contains fd then some { t with foreign := t.foreign.erase fd } else none

/-- The component opens several descriptors, one after the other. -/
def openAll (t : FdTable) : List (Option Nat) → Option FdTable
  | [] => some t
  | fd :: fds =>
    match t.openFd fd with
    | some t' => t'.openAll fds
    | none => none

/-- The component closes several numbers, one after the other. -/
def closeAll (t : FdTable) (fds : List Nat) : FdTable := fds.foldl close t

/-! ## Ownership -/

/-- The places in `stored` own the descriptors of the component. -/
structure Owned (stored : List Nat) (t : FdTable) : Prop where
  perm : stored.Perm t.held
  nodup : t.held.Nodup
  separate : ∀ fd ∈ t.held, fd ∉ t.foreign
  noStray : t.stray = []

/-- Whoever holds nothing owns it in no place. -/
theorem owned_nil (foreign : List Nat) : Owned [] { foreign } :=
  ⟨List.Perm.nil, List.nodup_nil, fun _ hn => absurd hn List.not_mem_nil, rfl⟩

/-- Only the contents of the places count, not their order. -/
theorem Owned.congr {stored stored' : List Nat} {t : FdTable} (h : Owned stored t)
    (hperm : stored'.Perm stored) : Owned stored' t :=
  ⟨hperm.trans h.perm, h.nodup, h.separate, h.noStray⟩

theorem openFd_some {t t' : FdTable} {fd : Nat} (h : t.openFd (some fd) = some t') :
    (fd ∉ t.held ∧ fd ∉ t.foreign) ∧ t' = { t with held := fd :: t.held } := by
  simp only [openFd] at h
  split_ifs at h with hopen
  exact ⟨by simpa [isOpen] using hopen, (Option.some.inj h).symm⟩

theorem openForeign_some {t t' : FdTable} {fd : Nat} (h : t.openForeign (some fd) = some t') :
    (fd ∉ t.held ∧ fd ∉ t.foreign) ∧ t' = { t with foreign := fd :: t.foreign } := by
  simp only [openForeign] at h
  split_ifs at h with hopen
  exact ⟨by simpa [isOpen] using hopen, (Option.some.inj h).symm⟩

/-- What is opened has to be kept. -/
theorem Owned.openFd {stored : List Nat} {t t' : FdTable} {fd : Option Nat} (h : Owned stored t)
    (hopen : t.openFd fd = some t') : Owned (fd.toList ++ stored) t' := by
  cases fd with
  | none =>
    obtain rfl := Option.some.inj hopen
    exact h
  | some fd =>
    obtain ⟨⟨hheld, hforeign⟩, rfl⟩ := openFd_some hopen
    refine ⟨h.perm.cons fd, List.nodup_cons.mpr ⟨hheld, h.nodup⟩, ?_, h.noStray⟩
    intro n hn
    rcases List.mem_cons.mp hn with rfl | hn
    · exact hforeign
    · exact h.separate n hn

theorem Owned.openAll {stored : List Nat} {t t' : FdTable} {fds : List (Option Nat)}
    (h : Owned stored t) (hopen : t.openAll fds = some t') :
    Owned (fds.filterMap id ++ stored) t' := by
  induction fds generalizing t stored with
  | nil =>
    obtain rfl := Option.some.inj hopen
    exact h
  | cons fd fds ih =>
    simp only [FdTable.openAll] at hopen
    split at hopen
    case h_1 t₁ hfirst =>
      -- the places are the same, with the first one last
      refine (ih (h.openFd hfirst) hopen).congr ?_
      cases fd with
      | none => exact List.Perm.refl _
      | some fd => exact List.perm_middle.symm
    case h_2 => cases hopen

theorem Owned.openForeign {stored : List Nat} {t t' : FdTable} {fd : Option Nat}
    (h : Owned stored t) (hopen : t.openForeign fd = some t') : Owned stored t' := by
  cases fd with
  | none =>
    obtain rfl := Option.some.inj hopen
    exact h
  | some fd =>
    obtain ⟨⟨hheld, -⟩, rfl⟩ := openForeign_some hopen
    refine ⟨h.perm, h.nodup, ?_, h.noStray⟩
    intro n hn hmem
    rcases List.mem_cons.mp hmem with rfl | hmem
    · exact hheld hn
    · exact h.separate n hn hmem

theorem Owned.closeForeign {stored : List Nat} {t t' : FdTable} {fd : Nat} (h : Owned stored t)
    (hclose : t.closeForeign fd = some t') : Owned stored t' := by
  simp only [FdTable.closeForeign] at hclose
  split_ifs at hclose
  obtain rfl := Option.some.inj hclose
  exact ⟨h.perm, h.nodup, fun n hn hmem => h.separate n hn (List.mem_of_mem_erase hmem), h.noStray⟩

/-- Closing empties one place. -/
theorem Owned.close {stored : List Nat} {t : FdTable} {fd : Nat} (h : Owned (fd :: stored) t) :
    Owned stored (t.close fd) := by
  have hheld : fd ∈ t.held := h.perm.subset List.mem_cons_self
  have hclose : t.close fd = { t with held := t.held.erase fd } := by
    simp [FdTable.close, hheld]
  rw [hclose]
  refine ⟨?_, h.nodup.erase fd, fun n hn => h.separate n (List.mem_of_mem_erase hn), h.noStray⟩
  have herase := h.perm.erase fd
  rwa [List.erase_cons_head] at herase

theorem Owned.closeAll {stored fds : List Nat} {t : FdTable} (h : Owned (fds ++ stored) t) :
    Owned stored (t.closeAll fds) := by
  induction fds generalizing t with
  | nil => exact h
  | cons fd fds ih => exact ih h.close

end FdTable

end GloDroid.Base

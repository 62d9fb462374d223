import Mathlib.Data.Set.Basic
import GloDroid.Base.Descriptors

/-!
# Open Files

A descriptor table together with the file that each number refers to. A duplicate refers to the file
of its original, and `close` forgets the number.

The rules say where a new descriptor has to be kept, and that an operation keeps the files behind
the other descriptors of the component: a new number is none of them, and nobody else can close
them.
-/

namespace GloDroid.Base

variable {φ : Type*}

/-- The descriptors of a process, and the files behind them. -/
structure OpenFiles (φ : Type*) where
  table : FdTable := {}
  file : Nat → Option φ := fun _ => none

namespace OpenFiles

/-- The file behind a descriptor, none for an empty or a closed one. -/
def fileOf (t : OpenFiles φ) (fd : Option Nat) : Option φ := fd.bind t.file

/-- The table after a number, if there is one, was opened on a file or closed. -/
def refer (t : OpenFiles φ) (table : FdTable) (fd : Option Nat) (f : Option φ) : OpenFiles φ where
  table := table
  file := match fd with
    | some n => Function.update t.file n f
    | none => t.file

/-- The component opens a file: the kernel returns a number that refers to none, or fails. -/
def openFd (t : OpenFiles φ) (fd : Option Nat) (f : φ) : Option (OpenFiles φ) :=
  if (t.fileOf fd).isSome then none
  else (t.table.openFd fd).map fun table => t.refer table fd (some f)

/-- Someone else opens a file. -/
def openForeign (t : OpenFiles φ) (fd : Option Nat) (f : φ) : Option (OpenFiles φ) :=
  if (t.fileOf fd).isSome then none
  else (t.table.openForeign fd).map fun table => t.refer table fd (some f)

/-- `dup` for the component, with its result. -/
def dup (t : OpenFiles φ) (src answer : Option Nat) : Option (Option Nat × OpenFiles φ) :=
  match t.fileOf src with
  -- bad file descriptor
  | none => some (none, t)
  | some f => (t.openFd answer f).map fun t' => (answer, t')

/-- `dup` whose result goes to someone else. -/
def dupForeign (t : OpenFiles φ) (src answer : Option Nat) : Option (Option Nat × OpenFiles φ) :=
  match t.fileOf src with
  | none => some (none, t)
  | some f => (t.openForeign answer f).map fun t' => (answer, t')

/-- The component closes a number. -/
def close (t : OpenFiles φ) (fd : Nat) : OpenFiles φ := t.refer (t.table.close fd) (some fd) none

/-- Someone else closes one of its descriptors. -/
def closeForeign (t : OpenFiles φ) (fd : Nat) : Option (OpenFiles φ) :=
  (t.table.closeForeign fd).map fun table => t.refer table (some fd) none

/-- The component closes several numbers, one after the other. -/
def closeAll (t : OpenFiles φ) (fds : List Nat) : OpenFiles φ := fds.foldl close t

/-! ## Files that stay -/

/-- What these numbers refer to, they go on referring to. -/
def KeepsFiles (kept : Set Nat) (t t' : OpenFiles φ) : Prop :=
  ∀ n ∈ kept, ∀ f, t.file n = some f → t'.file n = some f

variable {kept : Set Nat} {stored : List Nat} {t t' t'' : OpenFiles φ}
variable {fd src answer : Option Nat} {n : Nat} {f : φ}

theorem KeepsFiles.refl (kept : Set Nat) (t : OpenFiles φ) : KeepsFiles kept t t :=
  fun _ _ _ hf => hf

theorem KeepsFiles.trans (h : KeepsFiles kept t t') (h' : KeepsFiles kept t' t'') :
    KeepsFiles kept t t'' :=
  fun n hn f hf => h' n hn f (h n hn f hf)

theorem KeepsFiles.mono {kept' : Set Nat} (h : KeepsFiles kept t t') (hsub : kept' ⊆ kept) :
    KeepsFiles kept' t t' :=
  fun n hn => h n (hsub hn)

theorem KeepsFiles.fileOf (h : KeepsFiles Set.univ t t') (hf : t.fileOf fd = some f) :
    t'.fileOf fd = some f := by
  cases fd with
  | none => cases hf
  | some n => exact h n (Set.mem_univ n) f hf

/-- The change of one number concerns no other. -/
theorem keepsFiles_refer {table : FdTable} {f : Option φ} (hfd : ∀ n ∈ fd, n ∉ kept) :
    KeepsFiles kept t (t.refer table fd f) := by
  intro m hm g hg
  cases fd with
  | none => exact hg
  | some n =>
    have hne : m ≠ n := by
      rintro rfl
      exact hfd m rfl hm
    exact (Function.update_of_ne hne _ _).trans hg

/-- A number that is opened referred to nothing. -/
theorem keepsFiles_refer_fresh {table : FdTable} {f : Option φ} (hfd : t.fileOf fd = none) :
    KeepsFiles Set.univ t (t.refer table fd f) := by
  intro m _ g hg
  cases fd with
  | none => exact hg
  | some n =>
    have hne : m ≠ n := by
      rintro rfl
      rw [show t.file m = none from hfd] at hg
      cases hg
    exact (Function.update_of_ne hne _ _).trans hg

theorem fileOf_refer {table : FdTable} (hfd : n ∈ fd) :
    (t.refer table fd (some f)).file n = some f := by
  rw [Option.mem_def.mp hfd]
  exact Function.update_self _ _ _

theorem openFd_some (h : t.openFd fd f = some t') :
    t.fileOf fd = none ∧ ∃ table, t.table.openFd fd = some table ∧
      t' = t.refer table fd (some f) := by
  simp only [openFd] at h
  split_ifs at h with hused
  obtain ⟨table, htable, rfl⟩ := Option.map_eq_some_iff.mp h
  exact ⟨by simpa using hused, table, htable, rfl⟩

theorem openForeign_some (h : t.openForeign fd f = some t') :
    t.fileOf fd = none ∧ ∃ table, t.table.openForeign fd = some table ∧
      t' = t.refer table fd (some f) := by
  simp only [openForeign] at h
  split_ifs at h with hused
  obtain ⟨table, htable, rfl⟩ := Option.map_eq_some_iff.mp h
  exact ⟨by simpa using hused, table, htable, rfl⟩

/-! ## Ownership -/

/-- The places in `stored` own the descriptors of the component. -/
def Owned (stored : List Nat) (t : OpenFiles φ) : Prop := FdTable.Owned stored t.table

theorem owned_empty : Owned [] ({} : OpenFiles φ) := FdTable.owned_nil []

/-- Only the contents of the places count, not their order. -/
theorem Owned.congr {stored' : List Nat} (h : t.Owned stored) (hperm : stored'.Perm stored) :
    t.Owned stored' :=
  FdTable.Owned.congr h hperm

theorem Owned.nodup_places (h : t.Owned stored) : stored.Nodup :=
  h.perm.nodup_iff.mpr h.nodup

/-- What is opened has to be kept. -/
theorem Owned.openFd (h : t.Owned stored) (hopen : t.openFd fd f = some t') :
    t'.Owned (fd.toList ++ stored) ∧ KeepsFiles Set.univ t t' ∧ ∀ n ∈ fd, t'.file n = some f := by
  obtain ⟨hfresh, table, htable, rfl⟩ := openFd_some hopen
  exact ⟨FdTable.Owned.openFd h htable, keepsFiles_refer_fresh hfresh, fun n hn => fileOf_refer hn⟩

/-- A duplicate has to be kept, and refers to the file of its original. -/
theorem Owned.dup (h : t.Owned stored) (hdup : t.dup src answer = some (fd, t')) :
    t'.Owned (fd.toList ++ stored) ∧ KeepsFiles Set.univ t t' ∧
      ∀ n ∈ fd, ∃ f, t.fileOf src = some f ∧ t'.file n = some f := by
  unfold OpenFiles.dup at hdup
  split at hdup
  case h_1 =>
    obtain ⟨rfl, rfl⟩ := Prod.mk.inj (Option.some.inj hdup)
    exact ⟨h, KeepsFiles.refl _ _, fun n hn => by cases hn⟩
  case h_2 f hsrc =>
    obtain ⟨t₁, hopen, heq⟩ := Option.map_eq_some_iff.mp hdup
    obtain ⟨rfl, rfl⟩ := Prod.mk.inj heq
    obtain ⟨howned, hkeeps, hfile⟩ := h.openFd hopen
    exact ⟨howned, hkeeps, fun n hn => ⟨f, hsrc, hfile n hn⟩⟩

theorem Owned.openForeign (h : t.Owned stored) (hopen : t.openForeign fd f = some t') :
    t'.Owned stored ∧ KeepsFiles Set.univ t t' ∧ ∀ n ∈ fd, t'.file n = some f := by
  obtain ⟨hfresh, table, htable, rfl⟩ := openForeign_some hopen
  exact ⟨FdTable.Owned.openForeign h htable, keepsFiles_refer_fresh hfresh,
    fun n hn => fileOf_refer hn⟩

theorem Owned.dupForeign (h : t.Owned stored) (hdup : t.dupForeign src answer = some (fd, t')) :
    t'.Owned stored ∧ KeepsFiles Set.univ t t' ∧
      ∀ n ∈ fd, ∃ f, t.fileOf src = some f ∧ t'.file n = some f := by
  unfold OpenFiles.dupForeign at hdup
  split at hdup
  case h_1 =>
    obtain ⟨rfl, rfl⟩ := Prod.mk.inj (Option.some.inj hdup)
    exact ⟨h, KeepsFiles.refl _ _, fun n hn => by cases hn⟩
  case h_2 f hsrc =>
    obtain ⟨t₁, hopen, heq⟩ := Option.map_eq_some_iff.mp hdup
    obtain ⟨rfl, rfl⟩ := Prod.mk.inj heq
    obtain ⟨howned, hkeeps, hfile⟩ := h.openForeign hopen
    exact ⟨howned, hkeeps, fun n hn => ⟨f, hsrc, hfile n hn⟩⟩

/-- Others close only what the component does not own. -/
theorem Owned.closeForeign (h : t.Owned stored) (hclose : t.closeForeign n = some t') :
    t'.Owned stored ∧ KeepsFiles {m | m ∈ stored} t t' := by
  obtain ⟨table, htable, rfl⟩ := Option.map_eq_some_iff.mp hclose
  refine ⟨FdTable.Owned.closeForeign h htable, keepsFiles_refer fun m hm hmem => ?_⟩
  obtain rfl := Option.some.inj hm
  simp only [FdTable.closeForeign] at htable
  split_ifs at htable with hforeign
  exact h.separate _ (h.perm.subset hmem) (List.contains_iff_mem.mp hforeign)

/-- Closing empties one place. -/
theorem Owned.close (h : t.Owned (n :: stored)) :
    (t.close n).Owned stored ∧ KeepsFiles {m | m ∈ stored} t (t.close n) := by
  refine ⟨FdTable.Owned.close h, keepsFiles_refer fun m hm hmem => ?_⟩
  obtain rfl := Option.some.inj hm
  exact (List.nodup_cons.mp h.nodup_places).1 hmem

theorem Owned.closeAll {fds : List Nat} (h : t.Owned (fds ++ stored)) :
    (t.closeAll fds).Owned stored ∧ KeepsFiles {m | m ∈ stored} t (t.closeAll fds) := by
  induction fds generalizing t with
  | nil => exact ⟨h, KeepsFiles.refl _ _⟩
  | cons fd fds ih =>
    have hfirst : t.Owned (fd :: (fds ++ stored)) := h
    obtain ⟨howned, hkeeps⟩ := hfirst.close
    obtain ⟨howned', hkeeps'⟩ := ih howned
    exact ⟨howned', (hkeeps.mono fun m hm => List.mem_append_right fds hm).trans hkeeps'⟩

end OpenFiles

end GloDroid.Base

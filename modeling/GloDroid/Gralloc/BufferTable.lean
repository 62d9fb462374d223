import GloDroid.Base.Machine
import GloDroid.Base.RefCounts
import Mathlib.Algebra.Ring.Nat

/-!
# The Buffer Table

`drv.c` keeps a count for every dma-buf inode in `buffer_table`: `drv_bo_acquire` counts up the
inode of each plane of a buffer object, `drv_bo_release` counts them down again and says whether any
of them is still in use. The same inode may back several planes of an object and several objects.

The table holds exactly the planes of the live objects, and the verdict of a release is about the
other live objects (`bufferTable_exact`). `drmHash` is a map; its `Insert` does not overwrite.
Reading an inode is a parameter: a plane whose inode is not known yet is looked up by its
descriptor.
-/

namespace GloDroid.Gralloc

open GloDroid.Base

/-- `buffer_table`: the counts of the dma-bufs, by inode. -/
abbrev BufferTable := OrderedMap Nat Nat

/-! ## Acquire and release -/

/-- The loop of `drv_bo_acquire` from `plane` on: the table and the inodes of the object
afterwards. `getInode` is what `drv_get_inode` says of a plane's descriptor. -/
def acquireLoop (getInode : Nat → Nat) :
    Nat → BufferTable → List Nat → BufferTable × List Nat
  | _, table, [] => (table, [])
  | plane, table, inode :: rest =>
    let inode := if inode = 0 then getInode plane else inode
    let table := match table.find? inode with
      | some num => (table.erase inode).emplace inode (num + 1)
      | none => table.emplace inode 1
    let r := acquireLoop getInode (plane + 1) table rest
    (r.1, inode :: r.2)

/-- `drv_bo_acquire`. -/
def drvBoAcquire (getInode : Nat → Nat) (table : BufferTable) (inodes : List Nat) :
    BufferTable × List Nat :=
  acquireLoop getInode 0 table inodes

/-- The first loop of `drv_bo_release`. -/
def releaseLoop : BufferTable → List Nat → BufferTable
  | table, [] => table
  | table, inode :: rest =>
    let table := match table.find? inode with
      | some num =>
        if 1 < num then (table.erase inode).emplace inode (num - 1) else table.erase inode
      | none => table
    releaseLoop table rest

/-- `drv_bo_release`: the table afterwards, and whether no plane is in use any more. -/
def drvBoRelease (table : BufferTable) (inodes : List Nat) : BufferTable × Bool :=
  let table := releaseLoop table inodes
  -- the same buffer can back multiple planes with different offsets
  (table, inodes.all fun inode => (table.find? inode).isNone)

theorem acquireLoop_table (getInode : Nat → Nat) (plane : Nat) (table : BufferTable)
    (inodes : List Nat) :
    (acquireLoop getInode plane table inodes).1 =
      (acquireLoop getInode plane table inodes).2.foldl OrderedMap.retain table := by
  induction inodes generalizing plane table with
  | nil => rfl
  | cons inode rest ih =>
    simp only [acquireLoop, List.foldl_cons]
    exact ih _ _

theorem releaseLoop_eq (table : BufferTable) (inodes : List Nat) :
    releaseLoop table inodes = inodes.foldl OrderedMap.drop table := by
  induction inodes generalizing table with
  | nil => rfl
  | cons inode rest ih =>
    rw [List.foldl_cons, releaseLoop]
    exact ih _

/-! ## Runs -/

/-- The table with the live objects, given by id and inodes, and the ids of all objects acquired so
far. -/
structure BufferState where
  table : BufferTable := OrderedMap.empty
  live : List (Nat × List Nat) := []
  acquired : List Nat := []

/-- Objects are acquired once and released at most once. -/
inductive BufferStep where
  | acquire (bo : Nat) (inodes : List Nat) (getInode : Nat → Nat)
  | release (bo : Nat)

namespace BufferState

/-- A step. -/
def next (s : BufferState) : BufferStep → Option BufferState
  | .acquire bo inodes getInode =>
    if bo ∈ s.acquired then none
    else
      let r := drvBoAcquire getInode s.table inodes
      some { table := r.1, live := (bo, r.2) :: s.live, acquired := bo :: s.acquired }
  | .release bo =>
    match s.live.lookup bo with
    | some inodes =>
      some { s with
        table := (drvBoRelease s.table inodes).1
        live := s.live.erase (bo, inodes) }
    | none => none

/-- The number of planes of live objects that carry the inode. -/
def planesCarrying (s : BufferState) (inode : Nat) : Nat :=
  (s.live.map fun o => o.2.count inode).sum

end BufferState

/-- The table under any sequence of acquisitions and releases. -/
def bufferTableMachine : Machine BufferState BufferStep where
  start s := s = {}
  next := BufferState.next

namespace BufferState

variable {s s' : BufferState}

/-- The planes of an object that goes away, and of those that stay. -/
theorem planesCarrying_erase {bo : Nat} {inodes : List Nat} (h : (bo, inodes) ∈ s.live)
    (inode : Nat) :
    s.planesCarrying inode = inodes.count inode +
      ((s.live.erase (bo, inodes)).map fun o => o.2.count inode).sum := by
  have hperm := (List.perm_cons_erase h).map fun o : Nat × List Nat => o.2.count inode
  rw [planesCarrying, hperm.sum_nat, List.map_cons, List.sum_cons]

/-- The table holds the planes of the live objects, and these are different objects. -/
structure TableInv (s : BufferState) : Prop where
  counts : s.table.Counts s.planesCarrying
  nodup : (s.live.map Prod.fst).Nodup
  acquired : ∀ o ∈ s.live, o.1 ∈ s.acquired

theorem mem_of_lookup {bo : Nat} {inodes : List Nat} {live : List (Nat × List Nat)}
    (h : live.lookup bo = some inodes) : (bo, inodes) ∈ live := by
  induction live with
  | nil => cases h
  | cons o rest ih =>
    obtain ⟨bo', inodes'⟩ := o
    rw [List.lookup_cons] at h
    split at h
    case h_1 heq =>
      obtain rfl : bo = bo' := by simpa using heq
      obtain rfl := Option.some.inj h
      exact List.mem_cons_self
    case h_2 => exact List.mem_cons_of_mem _ (ih h)

/-- **Every step keeps the counts exact.** -/
theorem TableInv.next {step : BufferStep} (h : TableInv s)
    (hnext : bufferTableMachine.next s step = some s') : TableInv s' := by
  obtain ⟨hcounts, hnodup, hacquired⟩ := h
  cases step with
  | acquire bo inodes getInode =>
    simp only [bufferTableMachine, BufferState.next] at hnext
    split_ifs at hnext with hnew
    obtain rfl := Option.some.inj hnext
    refine ⟨?_, ?_, ?_⟩
    · -- one more for each plane of the new buffer
      show (drvBoAcquire getInode s.table inodes).1.Counts _
      rw [drvBoAcquire, acquireLoop_table]
      refine (hcounts.retainAll _).congr fun inode => ?_
      simp only [planesCarrying, List.map_cons, List.sum_cons]
      omega
    · refine List.nodup_cons.mpr ⟨fun hmem => ?_, hnodup⟩
      obtain ⟨o, ho, heq⟩ := List.mem_map.mp hmem
      have hbo : o.1 = bo := heq
      exact hnew (hbo ▸ hacquired o ho)
    · intro o ho
      rcases List.mem_cons.mp ho with rfl | ho
      · exact List.mem_cons_self
      · exact List.mem_cons_of_mem _ (hacquired o ho)
  | release bo =>
    simp only [bufferTableMachine, BufferState.next] at hnext
    split at hnext
    case h_1 inodes hlookup =>
      obtain rfl := Option.some.inj hnext
      have hlive := mem_of_lookup hlookup
      refine ⟨?_, ?_, ?_⟩
      · -- one less for each plane of the released one
        show (releaseLoop s.table inodes).Counts _
        rw [releaseLoop_eq]
        refine (hcounts.dropAll _).congr fun inode => ?_
        rw [planesCarrying_erase hlive]
        simp only [planesCarrying]
        omega
      · exact hnodup.sublist (List.erase_sublist.map _)
      · exact fun o ho => hacquired o (List.mem_of_mem_erase ho)
    case h_2 => cases hnext

theorem tableInv_reachable (h : bufferTableMachine.Reachable s) : TableInv s := by
  refine h.invariant TableInv ?_ fun s step s' hs _ hnext => hs.next hnext
  rintro s rfl
  exact ⟨OrderedMap.counts_empty, List.nodup_nil, by simp⟩

/-- The other live objects are those with another id. -/
theorem mem_erase_live {bo : Nat} {inodes : List Nat} (hnodup : (s.live.map Prod.fst).Nodup)
    (hlive : (bo, inodes) ∈ s.live) (o : Nat × List Nat) :
    o ∈ s.live.erase (bo, inodes) ↔ o ∈ s.live ∧ o.1 ≠ bo := by
  have hperm := (List.perm_cons_erase hlive).map Prod.fst
  have hfresh : bo ∉ (s.live.erase (bo, inodes)).map Prod.fst :=
    (List.nodup_cons.mp (hperm.nodup_iff.mp hnodup)).1
  constructor
  · intro ho
    refine ⟨List.mem_of_mem_erase ho, ?_⟩
    rintro rfl
    exact hfresh (List.mem_map_of_mem ho)
  · rintro ⟨ho, hne⟩
    have hother : o ≠ (bo, inodes) := fun heq => hne (congrArg Prod.fst heq)
    exact (List.mem_erase_of_ne hother).mpr ho

/-- **Shared dma-bufs are counted exactly**: after every sequence of acquisitions and releases the
table maps each inode to the number of live planes that carry it, with no entry for zero, and a
release reports true exactly when no other live object has a plane on an inode of the released
one. -/
theorem bufferTable_exact (h : bufferTableMachine.Reachable s) :
    (∀ inode, s.table.find? inode =
      if s.planesCarrying inode = 0 then none else some (s.planesCarrying inode)) ∧
    ∀ bo inodes, (bo, inodes) ∈ s.live → ((drvBoRelease s.table inodes).2 = true ↔
      ∀ o ∈ s.live, o.1 ≠ bo → ∀ inode ∈ inodes, inode ∉ o.2) := by
  obtain ⟨hcounts, hnodup, -⟩ := tableInv_reachable h
  refine ⟨hcounts, fun bo inodes hlive => ?_⟩
  have hafter := hcounts.dropAll inodes
  -- what is left of an inode are the planes of the other objects
  have hleft : ∀ inode, s.planesCarrying inode - inodes.count inode = 0 ↔
      ∀ o ∈ s.live, o.1 ≠ bo → inode ∉ o.2 := by
    intro inode
    rw [planesCarrying_erase hlive, Nat.add_sub_cancel_left, List.sum_eq_zero_iff_forall_eq_nat]
    constructor
    · intro hzero o ho hne
      apply List.count_eq_zero.mp
      exact hzero _ (List.mem_map_of_mem ((mem_erase_live hnodup hlive o).mpr ⟨ho, hne⟩))
    · intro hnone n hn
      obtain ⟨o, ho, rfl⟩ := List.mem_map.mp hn
      obtain ⟨ho, hne⟩ := (mem_erase_live hnodup hlive o).mp ho
      exact List.count_eq_zero.mpr (hnone o ho hne)
  have hverdict : (drvBoRelease s.table inodes).2 = true ↔
      ∀ inode ∈ inodes, ((inodes.foldl OrderedMap.drop s.table).find? inode).isNone = true := by
    rw [drvBoRelease, releaseLoop_eq, List.all_eq_true]
  rw [hverdict]
  simp only [hafter.isNone_iff, hleft]
  exact ⟨fun hnone o ho hne inode hi => hnone inode hi o ho hne,
    fun hnone inode hi o ho hne => hnone o ho hne inode hi⟩

/-- Two objects on the dma-buf 5, one of them with two planes on it. -/
def sharedState : BufferState :=
  (bufferTableMachine.exec {}
    [.acquire 0 [5, 5, 7] fun _ => 0, .acquire 1 [0] fun _ => 5]).get (by decide)

theorem bufferTable_exact_shared :
    sharedState.table.find? 5 = some 3 ∧
    (∀ inode, sharedState.table.find? inode = if sharedState.planesCarrying inode = 0 then none
      else some (sharedState.planesCarrying inode)) ∧
    ∀ bo inodes, (bo, inodes) ∈ sharedState.live →
      ((drvBoRelease sharedState.table inodes).2 = true ↔
        ∀ o ∈ sharedState.live, o.1 ≠ bo → ∀ inode ∈ inodes, inode ∉ o.2) :=
  ⟨by decide, bufferTable_exact (Machine.reachable_of_exec rfl _)⟩

end BufferState

end GloDroid.Gralloc

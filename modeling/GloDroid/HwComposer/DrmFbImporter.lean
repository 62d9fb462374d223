import GloDroid.Base.Descriptors
import GloDroid.Base.Machine
import GloDroid.Base.OrderedMap
import GloDroid.HwComposer.Layer

/-!
# Framebuffers of a Buffer

`DrmFbIdHandle` keeps the framebuffer id of an imported buffer and, filled on demand, one more id
for each format the buffer was shown in instead (`GetFbIdForFormat`). The destructor removes them.

Framebuffer ids are a resource like file descriptors: the kernel gives out numbers that are not in
use, and every number has to be given back once. `FdTable` keeps the account; `fourcc` is what the
kernel knows of a framebuffer. What `AddFB2` answers comes with the call: `none` is an error, and an
id is neither zero nor in use.
-/

namespace GloDroid.HwComposer

open GloDroid.Base

/-! ## Handles -/

/-- `DrmFbIdHandle`: the buffer info, `fb_id_` and `fb_id_resolved_format_`. -/
structure DrmFbIdHandle where
  bo : BufferInfo
  fbId : Nat
  fbIdResolvedFormat : OrderedMap Nat Nat := OrderedMap.empty

/-- The ids the destructor removes. -/
def DrmFbIdHandle.ids (h : DrmFbIdHandle) : List Nat :=
  h.fbId :: h.fbIdResolvedFormat.entries.map Prod.snd

/-- The framebuffers of the process, and the handles that exist; a destroyed handle leaves an empty
slot. `created` and `removed` are the ids of all `AddFB2` and `RmFB` calls so far that took
effect. -/
structure Framebuffers where
  table : FdTable := {}
  fourcc : Nat → Nat := fun _ => 0
  handles : List (Option DrmFbIdHandle) := []
  created : List Nat := []
  removed : List Nat := []

namespace Framebuffers

/-- The ids kept in handles. -/
def stored (s : Framebuffers) : List Nat :=
  s.handles.flatMap fun h => (h.map DrmFbIdHandle.ids).getD []

/-- A successful `drmModeAddFB2` with the id the kernel chose. -/
def addFb (s : Framebuffers) (format id : Nat) : Option Framebuffers :=
  if id = 0 then none
  else (s.table.openFd (some id)).map fun table =>
    { s with
      table := table
      fourcc := Function.update s.fourcc id format
      created := id :: s.created }

/-- `drmModeRmFB`. There is no framebuffer with the id 0, and the call fails. -/
def rmFb (s : Framebuffers) (id : Nat) : Framebuffers :=
  if id = 0 then s else { s with table := s.table.close id, removed := id :: s.removed }

/-- `~DrmFbIdHandle`, without the GEM handles. -/
def destroy (s : Framebuffers) (h : DrmFbIdHandle) : Framebuffers := h.ids.foldl rmFb s

/-- `DrmFbIdHandle::CreateInstance`. A handle whose GEM handles cannot be imported, or whose
framebuffer cannot be created, is destroyed again. -/
def createInstance (s : Framebuffers) (bo : BufferInfo) (imported : Bool) (answer : Option Nat) :
    Option Framebuffers :=
  let loc : DrmFbIdHandle := { bo, fbId := 0 }
  if !imported then some (s.destroy loc)
  else
    match answer with
    | none => some (s.destroy loc)
    | some id =>
      (s.addFb bo.format id).map fun s =>
        { s with handles := s.handles ++ [some { loc with fbId := id }] }

/-- `GetFbIdForFormat` on the handle in slot `i`, and the id it returns. -/
def getFbIdForFormat (s : Framebuffers) (i : Nat) (h : DrmFbIdHandle) (fourcc : Nat)
    (answer : Option Nat) : Option (Framebuffers × Nat) :=
  match h.fbIdResolvedFormat.find? fourcc with
  | some id => some (s, id)
  | none =>
    match answer with
    -- an error is returned as the id 0
    | none => some (s, 0)
    | some id =>
      (s.addFb fourcc id).map fun s =>
        let h := { h with fbIdResolvedFormat := h.fbIdResolvedFormat.emplace fourcc id }
        ({ s with handles := s.handles.set i (some h) }, id)

end Framebuffers

/-! ## Actions -/

/-- What the process does with framebuffers, with the answers of the kernel. -/
inductive FbAction where
  | createInstance (bo : BufferInfo) (imported : Bool) (answer : Option Nat)
  | getFbIdForFormat (i : Nat) (fourcc : Nat) (answer : Option Nat)
  | destroy (i : Nat)

/-- The effect of an action; one on a handle that does not exist is not enabled. -/
def FbAction.next (s : Framebuffers) : FbAction → Option Framebuffers
  | .createInstance bo imported answer => s.createInstance bo imported answer
  | .getFbIdForFormat i fourcc answer =>
    match s.handles[i]? with
    | some (some h) => (s.getFbIdForFormat i h fourcc answer).map Prod.fst
    | _ => none
  | .destroy i =>
    match s.handles[i]? with
    | some (some h) => some { s.destroy h with handles := s.handles.set i none }
    | _ => none

/-- The framebuffers of the process under any sequence of actions. -/
def fbMachine : Machine Framebuffers FbAction where
  start s := ∃ foreign, s = { table := { foreign } }
  next := FbAction.next

/-! ## The invariant -/

/-- The kernel knows the ids of the handle as what the handle takes them for. -/
structure DrmFbIdHandle.Registered (h : DrmFbIdHandle) (fourcc : Nat → Nat) : Prop where
  nonzero : ∀ id ∈ h.ids, id ≠ 0
  own : fourcc h.fbId = h.bo.format
  resolved : ∀ f id, (f, id) ∈ h.fbIdResolvedFormat.entries → fourcc id = f

/-- **The account of framebuffers**: each one the process has is kept in one place, every handle is
right about its own, and what was created is what was removed and what is kept. -/
structure Framebuffers.Balanced (s : Framebuffers) : Prop where
  owned : FdTable.Owned s.stored s.table
  registered : ∀ h, some h ∈ s.handles → h.Registered s.fourcc
  balance : s.created.Perm (s.removed ++ s.stored)

namespace Framebuffers

theorem balanced_start {s : Framebuffers} (h : fbMachine.start s) : s.Balanced := by
  obtain ⟨foreign, rfl⟩ := h
  exact ⟨FdTable.owned_nil foreign, fun h hh => absurd hh List.not_mem_nil, List.Perm.nil⟩

theorem mem_stored {s : Framebuffers} {h : DrmFbIdHandle} (hh : some h ∈ s.handles) {id : Nat}
    (hid : id ∈ h.ids) : id ∈ s.stored :=
  List.mem_flatMap.mpr ⟨some h, hh, hid⟩

/-- The ids of a slot, and those of all others. -/
theorem stored_set_perm {s : Framebuffers} {i : Nat} {h : DrmFbIdHandle}
    (hi : s.handles[i]? = some (some h)) :
    ∃ rest, s.stored.Perm (h.ids ++ rest) ∧ ∀ h' : Option DrmFbIdHandle,
      ({ s with handles := s.handles.set i h' } : Framebuffers).stored.Perm
        ((h'.map DrmFbIdHandle.ids).getD [] ++ rest) := by
  obtain ⟨hlt, hget⟩ := List.getElem?_eq_some_iff.mp hi
  set kept : Option DrmFbIdHandle → List Nat := fun h => (h.map DrmFbIdHandle.ids).getD []
    with hkept
  have hset : ∀ h' : Option DrmFbIdHandle, ((s.handles.set i h').flatMap kept).Perm
      (kept h' ++ ((s.handles.take i).flatMap kept ++ (s.handles.drop (i + 1)).flatMap kept)) := by
    intro h'
    rw [List.set_eq_take_append_cons_drop, if_pos hlt, List.flatMap_append, List.flatMap_cons]
    exact List.perm_append_comm_assoc _ _ _
  refine ⟨_, ?_, hset⟩
  have hself : s.handles.set i (some h) = s.handles := by
    rw [← hget, List.set_getElem_self]
  have hold := hset (some h)
  rwa [hself] at hold

/-- **What `AddFB2` does**: the id is new, and has to be kept. -/
theorem Balanced.addFb {s s' : Framebuffers} {format id : Nat} (hs : s.Balanced)
    (hadd : s.addFb format id = some s') :
    id ≠ 0 ∧ FdTable.Owned (id :: s.stored) s'.table ∧ s'.handles = s.handles ∧
      s'.removed = s.removed ∧ s'.created = id :: s.created ∧ s'.fourcc id = format ∧
      ∀ id' ∈ s.stored, s'.fourcc id' = s.fourcc id' := by
  unfold Framebuffers.addFb at hadd
  split_ifs at hadd with hzero
  obtain ⟨table, hopen, rfl⟩ := Option.map_eq_some_iff.mp hadd
  obtain ⟨⟨hnew, -⟩, -⟩ := FdTable.openFd_some hopen
  refine ⟨hzero, hs.owned.openFd hopen, rfl, rfl, rfl, Function.update_self _ _ _, ?_⟩
  intro id' hid'
  apply Function.update_of_ne
  rintro rfl
  exact hnew (hs.owned.perm.subset hid')

end Framebuffers

/-- A handle is right about its ids as long as the kernel's record of them stays. -/
theorem DrmFbIdHandle.Registered.congr {h : DrmFbIdHandle} {fourcc fourcc' : Nat → Nat}
    (hreg : h.Registered fourcc) (hsame : ∀ id ∈ h.ids, fourcc' id = fourcc id) :
    h.Registered fourcc' := by
  refine ⟨hreg.nonzero, ?_, fun f id hid => ?_⟩
  · rw [hsame _ List.mem_cons_self]
    exact hreg.own
  · rw [hsame id (List.mem_cons_of_mem _ (List.mem_map_of_mem (f := Prod.snd) hid))]
    exact hreg.resolved f id hid

namespace Framebuffers

/-- The destructor of a handle without framebuffer removes nothing. -/
theorem destroy_unregistered (s : Framebuffers) (bo : BufferInfo) :
    s.destroy { bo, fbId := 0 } = s := rfl

theorem balance_created {created removed stored stored' : List Nat} {id : Nat}
    (h : created.Perm (removed ++ stored)) (hperm : stored'.Perm (id :: stored)) :
    (id :: created).Perm (removed ++ stored') :=
  calc (id :: created).Perm (id :: (removed ++ stored)) := h.cons id
    _ |>.Perm (removed ++ id :: stored) := List.perm_middle.symm
    _ |>.Perm (removed ++ stored') := hperm.symm.append_left removed

theorem Balanced.createInstance {s s' : Framebuffers} {bo : BufferInfo} {imported : Bool}
    {answer : Option Nat} (hs : s.Balanced)
    (hnext : s.createInstance bo imported answer = some s') : s'.Balanced := by
  unfold Framebuffers.createInstance at hnext
  dsimp only at hnext
  rw [destroy_unregistered] at hnext
  split_ifs at hnext with himported
  · obtain rfl := Option.some.inj hnext
    exact hs
  cases answer with
  | none =>
    obtain rfl := Option.some.inj hnext
    exact hs
  | some id =>
    obtain ⟨s₁, hadd, rfl⟩ := Option.map_eq_some_iff.mp hnext
    obtain ⟨hzero, howned, hhandles, hremoved, hcreated, hformat, hothers⟩ := hs.addFb hadd
    -- the new handle keeps the id and nothing else
    have hstored : ({ s₁ with handles := s₁.handles ++ [some { bo, fbId := id }] } :
        Framebuffers).stored = s.stored ++ [id] := by
      simp [stored, hhandles, DrmFbIdHandle.ids, OrderedMap.empty]
    have hperm : (s.stored ++ [id]).Perm (id :: s.stored) := List.perm_append_singleton _ _
    refine ⟨?_, fun h hh => ?_, ?_⟩
    · rw [hstored]
      exact howned.congr hperm
    · dsimp only at hh
      rw [hhandles, List.mem_append, List.mem_singleton] at hh
      rcases hh with hh | hh
      · exact (hs.registered h hh).congr fun id' hid' => hothers id' (mem_stored hh hid')
      · obtain rfl := Option.some.inj hh
        refine ⟨fun id' hid' => ?_, hformat, fun f id' hid' => absurd hid' List.not_mem_nil⟩
        obtain rfl : id' = id := by simpa [DrmFbIdHandle.ids, OrderedMap.empty] using hid'
        exact hzero
    · rw [hstored, hremoved, hcreated]
      exact balance_created hs.balance hperm

theorem Balanced.getFbIdForFormat {s s' : Framebuffers} {i : Nat} {h : DrmFbIdHandle}
    {fourcc : Nat} {answer : Option Nat} {r : Nat} (hs : s.Balanced)
    (hi : s.handles[i]? = some (some h))
    (hnext : s.getFbIdForFormat i h fourcc answer = some (s', r)) : s'.Balanced := by
  unfold Framebuffers.getFbIdForFormat at hnext
  cases hfind : h.fbIdResolvedFormat.find? fourcc with
  | some id =>
    rw [hfind] at hnext
    obtain ⟨rfl, -⟩ := Prod.mk.inj (Option.some.inj hnext)
    exact hs
  | none =>
    rw [hfind] at hnext
    cases answer with
    | none =>
      obtain ⟨rfl, -⟩ := Prod.mk.inj (Option.some.inj hnext)
      exact hs
    | some id =>
      obtain ⟨s₁, hadd, heq⟩ := Option.map_eq_some_iff.mp hnext
      obtain ⟨rfl, -⟩ := Prod.mk.inj heq
      obtain ⟨hzero, howned, hhandles, hremoved, hcreated, hformat, hothers⟩ := hs.addFb hadd
      have hmem : some h ∈ s.handles := List.mem_of_getElem? hi
      have hreg := hs.registered h hmem
      set h' : DrmFbIdHandle :=
        { h with fbIdResolvedFormat := h.fbIdResolvedFormat.emplace fourcc id } with hh'
      have hids : h'.ids.Perm (id :: h.ids) :=
        (((OrderedMap.emplace_perm hfind id).map Prod.snd).cons _).trans (List.Perm.swap _ _ _)
      -- the slot keeps one id more
      obtain ⟨rest, hold, hnew⟩ := stored_set_perm hi
      have hstored : ({ s₁ with handles := s₁.handles.set i (some h') } : Framebuffers).stored.Perm
          (id :: s.stored) := by
        rw [hhandles]
        exact (hnew (some h')).trans ((hids.append_right rest).trans (hold.symm.cons id))
      refine ⟨howned.congr hstored, fun k hk => ?_, ?_⟩
      · dsimp only at hk
        rw [hhandles] at hk
        rcases List.mem_or_eq_of_mem_set hk with hk | hk
        · exact (hs.registered k hk).congr fun id' hid' => hothers id' (mem_stored hk hid')
        · obtain rfl := Option.some.inj hk
          refine ⟨fun id' hid' => ?_, ?_, fun f id' hid' => ?_⟩
          · rcases List.mem_cons.mp (hids.subset hid') with rfl | hid'
            · exact hzero
            · exact hreg.nonzero id' hid'
          · exact (hothers h.fbId (mem_stored hmem List.mem_cons_self)).trans hreg.own
          · rcases List.mem_cons.mp ((OrderedMap.emplace_perm hfind id).subset hid') with heq | hid'
            · obtain ⟨rfl, rfl⟩ := Prod.mk.inj heq
              exact hformat
            · rw [hothers id' (mem_stored hmem
                (List.mem_cons_of_mem _ (List.mem_map_of_mem (f := Prod.snd) hid')))]
              exact hreg.resolved f id' hid'
      · dsimp only
        rw [hremoved, hcreated]
        exact balance_created hs.balance hstored

theorem foldl_rmFb (s : Framebuffers) {ids : List Nat} (hids : ∀ id ∈ ids, id ≠ 0) :
    ids.foldl rmFb s =
      { s with table := s.table.closeAll ids, removed := ids.reverse ++ s.removed } := by
  induction ids generalizing s with
  | nil => rfl
  | cons id rest ih =>
    rw [List.foldl_cons, rmFb, if_neg (hids id List.mem_cons_self),
      ih _ fun id' hid' => hids id' (List.mem_cons_of_mem _ hid')]
    simp [FdTable.closeAll]

theorem Balanced.destroy {s : Framebuffers} {i : Nat} {h : DrmFbIdHandle} (hs : s.Balanced)
    (hi : s.handles[i]? = some (some h)) :
    ({ s.destroy h with handles := s.handles.set i none } : Framebuffers).Balanced := by
  have hreg := hs.registered h (List.mem_of_getElem? hi)
  obtain ⟨rest, hold, hnew⟩ := stored_set_perm hi
  have hdestroy : s.destroy h =
      { s with table := s.table.closeAll h.ids, removed := h.ids.reverse ++ s.removed } :=
    foldl_rmFb s hreg.nonzero
  rw [hdestroy]
  have hstored : ({ s with handles := s.handles.set i none } : Framebuffers).stored.Perm rest :=
    hnew none
  refine ⟨?_, fun k hk => ?_, ?_⟩
  · exact ((hs.owned.congr hold.symm).closeAll).congr hstored
  · rcases List.mem_or_eq_of_mem_set hk with hk | hk
    · exact hs.registered k hk
    · cases hk
  · show s.created.Perm ((h.ids.reverse ++ s.removed) ++
      ({ s with handles := s.handles.set i none } : Framebuffers).stored)
    calc s.created.Perm (s.removed ++ s.stored) := hs.balance
      _ |>.Perm (s.removed ++ (h.ids ++ rest)) := hold.append_left _
      _ |>.Perm (h.ids ++ (s.removed ++ rest)) := List.perm_append_comm_assoc _ _ _
      _ |>.Perm (h.ids.reverse ++ (s.removed ++ rest)) := h.ids.reverse_perm.symm.append_right _
      _ = h.ids.reverse ++ s.removed ++ rest := (List.append_assoc _ _ _).symm
      _ |>.Perm _ := hstored.symm.append_left _

/-- Every action keeps the account. -/
theorem Balanced.next {s s' : Framebuffers} {a : FbAction} (hs : s.Balanced)
    (hnext : a.next s = some s') : s'.Balanced := by
  cases a with
  | createInstance bo imported answer => exact hs.createInstance hnext
  | getFbIdForFormat i fourcc answer =>
    simp only [FbAction.next] at hnext
    split at hnext
    case h_1 h hi =>
      obtain ⟨⟨s₁, r⟩, hget, rfl⟩ := Option.map_eq_some_iff.mp hnext
      exact hs.getFbIdForFormat hi hget
    case h_2 => cases hnext
  | destroy i =>
    simp only [FbAction.next] at hnext
    split at hnext
    case h_1 h hi =>
      obtain rfl := Option.some.inj hnext
      exact hs.destroy hi
    case h_2 => cases hnext

/-- **The account of framebuffers is kept in every run.** -/
theorem balanced_of_reachable {s : Framebuffers} (h : fbMachine.Reachable s) : s.Balanced :=
  h.invariant Balanced (fun _ hs => balanced_start hs) fun _ _ _ hs _ hnext => hs.next hnext

end Framebuffers

end GloDroid.HwComposer

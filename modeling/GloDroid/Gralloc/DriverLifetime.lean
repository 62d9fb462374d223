import GloDroid.Gralloc.DriverLoading

/-!
# The Lifetime of the gbm_mesa Driver

Whatever the order of the calls and whatever fails in them, a driver is there exactly as long as the
backend or a buffer refers to it. Hence a buffer is freed before its device, a device is destroyed
before its library and its node are closed, nothing is used or released after that, and nothing is
left when nobody refers to a driver (`safeLifetimes`).
-/

namespace GloDroid.Gralloc

open GloDroid.Base

/-! ## Pointers -/

/-- The shared pointers in the backend and its buffers. -/
def driverOwners (priv : Option Nat) (bos : List GbmMesaBoPriv) : List Nat :=
  priv.toList ++ bos.filterMap GbmMesaBoPriv.drv

theorem driverOwners_cons (priv : Option Nat) (bo : GbmMesaBoPriv) (bos : List GbmMesaBoPriv) :
    (driverOwners priv (bo :: bos)).Perm (bo.drv.toList ++ driverOwners priv bos) := by
  unfold driverOwners
  cases hdrv : bo.drv with
  | none => simp [hdrv]
  | some drv => simp [hdrv]

theorem mem_driverOwners_of_bo {priv : Option Nat} {bo : GbmMesaBoPriv} {bos : List GbmMesaBoPriv}
    {drv : Nat} (hbo : bo ∈ bos) (hdrv : bo.drv = some drv) : drv ∈ driverOwners priv bos :=
  List.mem_append_right _ (List.mem_filterMap.mpr ⟨bo, hbo, hdrv⟩)

/-! ## Calls -/

namespace MesaState

abbrev owners (s : MesaState) : List Nat := driverOwners s.priv s.bos

/-- Drivers are there for the owners and for the pointers that a call still has, and what is held is
what they and the buffers hold. -/
structure Sound (pending : List Nat) (s : MesaState) : Prop where
  counts : s.drivers.Holds (pending ++ s.owners)
  records : s.ledger.Records (heldEntries (pending ++ s.owners) s.bos)
  owned : s.table.Owned (s.drivers.contents GbmMesaDriver.fds)
  loaded : ∀ drv d, s.drivers.get? drv = some d → d.Loaded
  drvOfBo : ∀ bo ∈ s.bos, bo.gbmBo.isSome → bo.drv.isSome
  nodup : (s.bos.filterMap GbmMesaBoPriv.gbmBo).Nodup

variable {s s' : MesaState} {pending : List Nat} {drv : Nat}

/-- **A pointer goes**: the driver is destroyed if that was the last one. -/
theorem Sound.dropDriver (h : s.Sound (drv :: pending)) : (s.dropDriver drv).Sound pending := by
  have hheld : s.drivers.Holds (drv :: (pending ++ s.owners)) := h.counts
  have hfst := hheld.release_fst
  have hcontents := hheld.contents_release (f := GbmMesaDriver.fds)
  have hcounts := hheld.release
  have hloaded : ∀ n d, (s.drivers.release drv).2.get? n = some d → d.Loaded :=
    fun n d hget => h.loaded n d (by simpa using hget)
  by_cases hmem : drv ∈ pending ++ s.owners
  · -- there are other owners
    rw [if_pos hmem] at hfst
    have hdrop : s.dropDriver drv = { s with drivers := (s.drivers.release drv).2 } := by
      simp [MesaState.dropDriver, hfst]
    rw [hfst] at hcontents
    rw [hdrop]
    refine ⟨hcounts, h.records.congr ?_, h.owned.congr hcontents, hloaded, h.drvOfBo, h.nodup⟩
    exact heldEntries_congr (fun n => (mem_cons_iff_of_mem hmem).symm) fun _ => Iff.rfl
  · rw [if_neg hmem] at hfst
    obtain ⟨d, hget⟩ : ∃ d, s.drivers.get? drv = some d := by
      have hpos : 0 < s.drivers.useCount drv := h.counts.pos_iff.mpr (by simp)
      have hlt := SharedHeap.lt_next_of_useCount hpos
      exact ⟨_, by simp [SharedHeap.get?, List.getElem?_eq_getElem hlt]; rfl⟩
    rw [hget] at hfst
    have hd := h.loaded drv d hget
    have hdrop : s.dropDriver drv =
        { s with drivers := (s.drivers.release drv).2 }.withWorld (d.destroy drv s.world) := by
      simp [MesaState.dropDriver, hfst]
    rw [hfst, Option.elim_some] at hcontents
    rw [hdrop]
    refine ⟨hcounts, ?_, ?_, hloaded, h.drvOfBo, h.nodup⟩
    · -- no buffer is left that stands on the device
      have hapart : Apart drv (heldEntries (pending ++ s.owners) s.bos) :=
        apart_heldEntries hmem fun bo hbo n hn =>
          List.mem_append_right _ (mem_driverOwners_of_bo hbo hn)
      exact GbmMesaDriver.records_destroy (fun _ => hd.dlHandle) hapart
        (h.records.congr fun e => (hd.heldEntries_cons e).symm)
    · show ((d.destroy drv s.world).fds.table).Owned _
      rw [GbmMesaDriver.destroy_table]
      refine FdTable.Owned.closeAll (h.owned.congr ?_)
      exact (List.perm_append_comm.append_right _).trans hcontents

/-- A copy of a pointer that is there. -/
theorem Sound.copyDriver (h : s.Sound pending) (hmem : drv ∈ pending ++ s.owners) :
    ({ s with drivers := s.drivers.copy drv } : MesaState).Sound (drv :: pending) := by
  refine ⟨h.counts.copy hmem, h.records.congr ?_, ?_, fun n d hget => ?_, h.drvOfBo, h.nodup⟩
  · exact heldEntries_congr (fun n => mem_cons_iff_of_mem hmem) fun _ => Iff.rfl
  · rw [SharedHeap.contents_copy (h.counts.pos_iff.mpr hmem)]
    exact h.owned
  · exact h.loaded n d (by simpa using hget)

theorem Sound.copyPending (h : s.Sound (drv :: pending)) :
    ({ s with drivers := s.drivers.copy drv } : MesaState).Sound (drv :: drv :: pending) :=
  h.copyDriver List.mem_cons_self

/-- **A driver is found or opened**, and there is one more pointer to it; after a failure everything
is as it was. -/
theorem Sound.getOrInit {mapperSphal : Bool} {env : InitEnv} {result : Option Nat}
    (h : s.Sound []) (hget : s.gbmMesaGetOrInitDriver mapperSphal env = some (result, s')) :
    s'.Sound result.toList ∧ s'.priv = result ∧ s'.bos = s.bos ∧ s'.crashed = s.crashed := by
  unfold gbmMesaGetOrInitDriver at hget
  split at hget
  case h_1 drv hpriv =>
    obtain ⟨rfl, rfl⟩ := Prod.mk.inj (Option.some.inj hget)
    have hmem : drv ∈ [] ++ s.owners := by simp [driverOwners, hpriv]
    exact ⟨h.copyDriver hmem, hpriv, rfl, rfl⟩
  case h_2 hpriv =>
    split at hget
    case h_1 => cases hget
    case h_2 d fds hfind =>
      have hstart : Accounted [] (s.drivers.contents GbmMesaDriver.fds) [] s.world.fds :=
        accounted_start h.owned
      obtain ⟨haccounted, hdev, hlib⟩ := GbmMesaDriver.findNodes_accounted hstart hfind
      -- no buffer has to do with the driver that is opened
      have hnone : s.drivers.next ∉ s.owners := by
        have hzero := h.counts s.drivers.next
        rw [SharedHeap.useCount_next, List.nil_append] at hzero
        exact List.count_eq_zero.mp hzero.symm
      have hapart : Apart s.drivers.next (heldEntries ([] ++ s.owners) s.bos) :=
        apart_heldEntries hnone fun bo hbo n hn => mem_driverOwners_of_bo hbo hn
      dsimp only at hget
      split at hget
      case h_1 d' w hload =>
        obtain ⟨hrecords, hfds, hnodes, hdev', -⟩ :=
          GbmMesaDriver.records_load hdev hlib hapart h.records hload
        simp only [Option.some.injEq, Prod.mk.injEq] at hget
        obtain ⟨rfl, rfl⟩ := hget
        refine ⟨⟨h.counts, ?_, ?_, h.loaded, h.drvOfBo, h.nodup⟩, hpriv, rfl, rfl⟩
        · exact GbmMesaDriver.records_destroy hdev' hapart hrecords
        · show ((d'.destroy _ w).fds.table).Owned _
          rw [GbmMesaDriver.destroy_table, hfds, hnodes.1, hnodes.2]
          refine FdTable.Owned.closeAll (haccounted.owned.congr ?_)
          exact List.perm_append_comm.append_right _
      case h_2 d' w hload =>
        obtain ⟨hrecords, hfds, hnodes, -, hd⟩ :=
          GbmMesaDriver.records_load hdev hlib hapart h.records hload
        have hloaded := hd rfl
        simp only [Option.some.injEq, Prod.mk.injEq] at hget
        obtain ⟨rfl, rfl⟩ := hget
        have hmake : (s.drivers.make d').Holds (s.drivers.next :: s.owners) := h.counts.make
        have howners : s.drivers.next :: s.owners = driverOwners (some s.drivers.next) s.bos := by
          simp [driverOwners, hpriv]
        rw [howners] at hmake
        have hnext : s.drivers.next ∈ driverOwners (some s.drivers.next) s.bos := by
          simp [driverOwners]
        refine ⟨⟨?_, ?_, ?_, fun n d hd => ?_, h.drvOfBo, h.nodup⟩, rfl, rfl, rfl⟩
        · exact hmake.copy hnext
        · refine hrecords.congr fun e => ?_
          rw [← hloaded.heldEntries_cons, List.nil_append, howners]
          exact heldEntries_congr (fun n => mem_cons_iff_of_mem hnext) (fun _ => Iff.rfl) e
        · have hpos := hmake.pos_iff.mpr hnext
          rw [withWorld_table, withWorld_drivers, SharedHeap.contents_copy hpos,
            SharedHeap.contents_make, hfds]
          refine haccounted.owned.congr ?_
          have hsame : d'.fds = d.fds := by rw [GbmMesaDriver.fds, hnodes.1, hnodes.2]; rfl
          rw [hsame]
          exact List.perm_append_comm
        · -- the new driver, or one of the others
          have hget' : (s.drivers.make d').get? n = some d := by
            rwa [withWorld_drivers, SharedHeap.get?_copy] at hd
          rw [SharedHeap.get?_make] at hget'
          split_ifs at hget'
          · exact Option.some.inj hget' ▸ hloaded
          · exact h.loaded n d hget'

/-- A use of something that is held. -/
theorem Sound.use {r : GbmResource} {on : List GbmResource} (h : s.Sound pending)
    (hr : (r, on) ∈ heldEntries (pending ++ s.owners) s.bos) :
    (s.withWorld (s.world.use r)).Sound pending :=
  ⟨h.counts, h.records.use hr, h.owned, h.loaded, h.drvOfBo, h.nodup⟩

/-- A driver that someone points to is used by its library, on its device. -/
theorem Sound.useDevice (h : s.Sound pending) (hmem : drv ∈ pending ++ s.owners) :
    (s.useDevice drv).Sound pending :=
  (h.use (mem_heldEntries_library.mpr ⟨hmem, rfl⟩)).use (mem_heldEntries_device.mpr ⟨hmem, rfl⟩)

/-- The pointers, with a buffer that keeps one of those that are pending. -/
theorem driverOwners_addBo (priv : Option Nat) (bo : GbmMesaBoPriv) (bos : List GbmMesaBoPriv)
    (pending : List Nat) :
    (pending ++ driverOwners priv (bo :: bos)).Perm
      (bo.drv.toList ++ pending ++ driverOwners priv bos) := by
  refine ((driverOwners_cons priv bo bos).append_left pending).trans ?_
  rw [← List.append_assoc]
  exact List.perm_append_comm.append_right _

theorem driverOwners_perm (priv : Option Nat) {bos bos' : List GbmMesaBoPriv}
    (hperm : bos.Perm bos') : (driverOwners priv bos).Perm (driverOwners priv bos') :=
  (hperm.filterMap _).append_left _

/-- A buffer that was not imported by the library keeps a pointer, if it gets one. -/
theorem Sound.addBo (bo : GbmMesaBoPriv) (h : s.Sound (bo.drv.toList ++ pending))
    (hgbm : bo.gbmBo = none) : ({ s with bos := bo :: s.bos } : MesaState).Sound pending := by
  have howners := driverOwners_addBo s.priv bo s.bos pending
  refine ⟨h.counts.congr howners, h.records.congr fun e => ?_, h.owned, h.loaded, ?_, ?_⟩
  · rw [mem_heldEntries_cons]
    simp only [hgbm, reduceCtorEq, false_and, exists_false, false_or]
    exact heldEntries_congr (fun n => howners.mem_iff) (fun _ => Iff.rfl) e
  · intro bo' hbo hgbm'
    rcases List.mem_cons.mp hbo with rfl | hbo
    · simp [hgbm] at hgbm'
    · exact h.drvOfBo bo' hbo hgbm'
  · simpa [hgbm] using h.nodup

/-- A buffer that was imported by the library keeps a pointer to the driver. -/
theorem Sound.addImported {gbmBo : Nat} (h : s.Sound (drv :: pending))
    (hfresh : s.ledger.isLive (.bo gbmBo) = false) :
    ({ s with bos := { drv := some drv, gbmBo := some gbmBo } :: s.bos }.withWorld
      (s.world.acquire (.bo gbmBo) [.device drv])).Sound pending := by
  have howners := driverOwners_addBo s.priv { drv := some drv, gbmBo := some gbmBo } s.bos pending
  -- the library has not handed out that buffer before
  have hnone : ∀ on, (GbmResource.bo gbmBo, on) ∉
      heldEntries (drv :: pending ++ s.owners) s.bos := by
    intro on hmem
    have hlive := h.records.isLive_iff.mpr ⟨on, hmem⟩
    rw [hfresh] at hlive
    cases hlive
  have hdevice : ∀ r ∈ [GbmResource.device drv],
      ∃ on, (r, on) ∈ heldEntries (drv :: pending ++ s.owners) s.bos := by
    intro r hr
    obtain rfl := List.mem_singleton.mp hr
    exact ⟨_, mem_heldEntries_device.mpr ⟨List.mem_cons_self, rfl⟩⟩
  refine ⟨h.counts.congr howners, (h.records.acquire hnone hdevice).congr fun e => ?_, h.owned,
    h.loaded, ?_, ?_⟩
  · rw [Set.mem_insert_iff, withWorld_bos, mem_heldEntries_cons]
    refine or_congr (by simp) ?_
    exact heldEntries_congr (fun n => howners.mem_iff) (fun _ => Iff.rfl) e
  · intro bo hbo hgbm
    rcases List.mem_cons.mp hbo with rfl | hbo
    · rfl
    · exact h.drvOfBo bo hbo hgbm
  · refine List.nodup_cons.mpr ⟨fun hmem => ?_, h.nodup⟩
    obtain ⟨bo, hbo, hgbm⟩ := List.mem_filterMap.mp hmem
    obtain ⟨n, hn⟩ := Option.isSome_iff_exists.mp (h.drvOfBo bo hbo (by simp [hgbm]))
    exact hnone _ (mem_heldEntries_bo.mpr ⟨bo, hbo, hgbm, n, hn, rfl⟩)

/-- A buffer goes and leaves its pointer. -/
theorem Sound.removeBo {bo : Nat} {priv : GbmMesaBoPriv} (h : s.Sound pending)
    (hbo : s.bos[bo]? = some priv) (hgbm : priv.gbmBo = none) :
    ({ s with bos := s.bos.eraseIdx bo } : MesaState).Sound (priv.drv.toList ++ pending) := by
  obtain ⟨hlt, rfl⟩ := List.getElem?_eq_some_iff.mp hbo
  have hperm := List.getElem_cons_eraseIdx_perm hlt
  have howners := (driverOwners_addBo s.priv s.bos[bo] (s.bos.eraseIdx bo) pending).symm.trans
    ((driverOwners_perm s.priv hperm).append_left pending)
  have hsub : (s.bos.eraseIdx bo).Sublist s.bos := List.eraseIdx_sublist s.bos bo
  refine ⟨h.counts.congr howners, h.records.congr fun e => ?_, h.owned, h.loaded,
    fun bo' hbo' => h.drvOfBo bo' (hsub.subset hbo'), h.nodup.sublist (hsub.filterMap _)⟩
  have hbos := heldEntries_congr (fun n => howners.mem_iff) (fun bo' => hperm.mem_iff (a := bo')) e
  rw [mem_heldEntries_cons] at hbos
  simpa [hgbm] using hbos

/-- An imported buffer is freed, and leaves its pointer. -/
theorem Sound.removeImported {bo gbmBo : Nat} {priv : GbmMesaBoPriv} (h : s.Sound pending)
    (hbo : s.bos[bo]? = some priv) (hdrv : priv.drv = some drv) (hgbm : priv.gbmBo = some gbmBo) :
    ({ s with bos := s.bos.eraseIdx bo }.withWorld
      ((s.world.use (.library drv)).release (.bo gbmBo))).Sound (drv :: pending) := by
  obtain ⟨hlt, rfl⟩ := List.getElem?_eq_some_iff.mp hbo
  have hperm := List.getElem_cons_eraseIdx_perm hlt
  have howners := (driverOwners_addBo s.priv s.bos[bo] (s.bos.eraseIdx bo) pending).symm.trans
    ((driverOwners_perm s.priv hperm).append_left pending)
  rw [hdrv] at howners
  have hsub : (s.bos.eraseIdx bo).Sublist s.bos := List.eraseIdx_sublist s.bos bo
  have hmem : drv ∈ pending ++ s.owners :=
    List.mem_append_right _ (mem_driverOwners_of_bo (List.getElem_mem hlt) hdrv)
  refine ⟨h.counts.congr howners, ?_, h.owned, h.loaded,
    fun bo' hbo' => h.drvOfBo bo' (hsub.subset hbo'), h.nodup.sublist (hsub.filterMap _)⟩
  have huse := h.records.use (mem_heldEntries_library.mpr ⟨hmem, rfl⟩)
  -- the buffer of the library is held by the one that goes
  have hr : (.bo gbmBo, [.device drv]) ∈ heldEntries (pending ++ s.owners) s.bos :=
    mem_heldEntries_bo.mpr ⟨_, List.getElem_mem hlt, hgbm, drv, hdrv, rfl⟩
  refine (huse.release hr ?_).congr fun e => ?_
  · -- nothing stands on a buffer
    rintro ⟨r, on⟩ he
    cases r with
    | node n => simp [he.2]
    | library n => simp [he.2]
    | device n => simp [he.2]
    | bo n =>
      obtain ⟨_, -, -, _, -, rfl⟩ := he
      simp
  · -- no other buffer is the same
    have hother : ∀ on, (.bo gbmBo, on) ∉ heldEntries (drv :: pending ++ driverOwners s.priv
        (s.bos.eraseIdx bo)) (s.bos.eraseIdx bo) := by
      rintro on ⟨bo', hbo', hgbm', -⟩
      have hnodup := (hperm.filterMap GbmMesaBoPriv.gbmBo).nodup_iff.mpr h.nodup
      rw [List.filterMap_cons, hgbm] at hnodup
      exact (List.nodup_cons.mp hnodup).1 (List.mem_filterMap.mpr ⟨bo', hbo', hgbm'⟩)
    have hbos := heldEntries_congr (fun n => howners.mem_iff)
      (fun bo' => hperm.mem_iff (a := bo')) e
    rw [mem_heldEntries_cons] at hbos
    obtain ⟨r, on⟩ := e
    constructor
    · intro he
      refine ⟨hbos.mp (Or.inr he), ?_⟩
      rintro rfl
      exact hother on he
    · rintro ⟨he, hne⟩
      rcases hbos.mpr he with ⟨n, hn, m, -, heq⟩ | he
      · obtain rfl := Option.some.inj (hgbm.symm.trans hn)
        exact absurd (congrArg Prod.fst heq) hne
      · exact he

/-! ## Runs -/

theorem Sound.crash (h : s.Sound pending) : s.crash.Sound pending :=
  ⟨h.counts, h.records, h.owned, h.loaded, h.drvOfBo, h.nodup⟩

theorem Sound.finishCreate {allocated : Bool} (h : s.Sound [drv]) :
    (s.finishCreate drv allocated).Sound [] := by
  cases allocated with
  | false => exact h.dropDriver
  | true =>
    exact (h.copyPending.addBo { drv := some drv } rfl).dropDriver

theorem Sound.boCreate {camera first second : Bool} {env : InitEnv} (h : s.Sound [])
    (hnext : s.gbmMesaBoCreate camera env first second = some s') : s'.Sound [] := by
  unfold gbmMesaBoCreate at hnext
  split at hnext
  case h_1 => cases hnext
  case h_2 s₁ hget =>
    obtain rfl := Option.some.inj hnext
    exact (h.getOrInit hget).1
  case h_3 drv s₁ hget =>
    have h₁ : s₁.Sound [drv] := (h.getOrInit hget).1
    -- the allocation is tried a second time with other flags
    have h₂ : (s₁.useDevice drv).Sound [drv] := h₁.useDevice List.mem_cons_self
    dsimp only at hnext
    split_ifs at hnext with hfirst
    · obtain rfl := Option.some.inj hnext
      exact h₂.finishCreate
    · obtain rfl := Option.some.inj hnext
      exact (h₂.useDevice List.mem_cons_self).finishCreate

theorem Sound.boImport {empty sw : Bool} {env : InitEnv} {imported : Option Nat} (h : s.Sound [])
    (hnext : s.gbmMesaBoImport empty sw env imported = some s') : s'.Sound [] := by
  unfold gbmMesaBoImport at hnext
  split_ifs at hnext with hempty hsw
  · obtain rfl := Option.some.inj hnext
    exact h
  · obtain rfl := Option.some.inj hnext
    exact Sound.addBo {} h rfl
  split at hnext
  case h_1 => cases hnext
  case h_2 s₁ hget =>
    obtain rfl := Option.some.inj hnext
    exact (h.getOrInit hget).1.crash
  case h_3 drv s₁ hget =>
    have h₁ : s₁.Sound [drv] := (h.getOrInit hget).1
    have h₂ : (s₁.useDevice drv).Sound [drv] := h₁.useDevice List.mem_cons_self
    -- the buffer keeps a copy of the pointer, and the call drops its own
    have hcopy := h₂.copyPending
    cases imported with
    | none =>
      obtain rfl := Option.some.inj hnext
      exact (hcopy.addBo { drv := some drv } rfl).dropDriver
    | some gbmBo =>
      dsimp only at hnext
      split_ifs at hnext with hlive
      obtain rfl := Option.some.inj hnext
      exact (hcopy.addImported (by simpa using hlive)).dropDriver

theorem Sound.boDestroy {bo : Nat} (h : s.Sound []) (hnext : s.gbmMesaBoDestroy bo = some s') :
    s'.Sound [] := by
  unfold gbmMesaBoDestroy at hnext
  split at hnext
  case h_1 => cases hnext
  case h_2 priv hbo =>
    obtain ⟨drv, gbmBo⟩ := priv
    cases gbmBo with
    | none =>
      have hremove := h.removeBo hbo rfl
      cases drv with
      | none =>
        obtain rfl := Option.some.inj hnext
        exact hremove
      | some drv =>
        obtain rfl := Option.some.inj hnext
        exact hremove.dropDriver
    | some gbmBo =>
      -- it has a driver
      obtain ⟨drv, rfl⟩ := Option.isSome_iff_exists.mp
        (h.drvOfBo _ (List.mem_of_getElem? hbo) rfl)
      obtain rfl := Option.some.inj hnext
      exact (h.removeImported hbo rfl rfl).dropDriver

/-- An access that fails its assertion ends the process while it has a pointer to the driver. -/
theorem Sound.boAccess {bo : Nat} {env : InitEnv} {asserted : Bool} (h : s.Sound [])
    (hnext : s.gbmMesaBoAccess bo env asserted = some s') :
    ∃ pending, s'.Sound pending ∧ (s'.crashed = false → pending = []) := by
  unfold gbmMesaBoAccess at hnext
  split at hnext
  case h_1 => cases hnext
  case h_2 priv hbo =>
    split at hnext
    case h_1 => cases hnext
    case h_2 s₁ hget =>
      obtain rfl := Option.some.inj hnext
      exact ⟨[], (h.getOrInit hget).1.crash, fun _ => rfl⟩
    case h_3 drv s₁ hget =>
      obtain ⟨h₁, -, hbos, -⟩ := h.getOrInit hget
      split at hnext
      case h_1 gbmBo _ hgbm =>
        obtain rfl := Option.some.inj hnext
        have hmem : priv ∈ s₁.bos := hbos ▸ List.mem_of_getElem? hbo
        obtain ⟨n, hn⟩ := Option.isSome_iff_exists.mp (h₁.drvOfBo priv hmem (by simp [hgbm]))
        have h₂ := h₁.use (mem_heldEntries_library.mpr ⟨List.mem_cons_self, rfl⟩)
        have h₃ := h₂.use (mem_heldEntries_bo.mpr ⟨priv, hmem, hgbm, n, hn, rfl⟩)
        exact ⟨[], h₃.dropDriver, fun _ => rfl⟩
      case h_2 =>
        obtain rfl := Option.some.inj hnext
        -- the assertion fails while the call has the pointer
        exact ⟨[drv], h₁.crash, by simp [MesaState.crash]⟩

theorem Sound.driverClose (h : s.Sound []) : s.gbmMesaDriverClose.Sound [] := by
  unfold gbmMesaDriverClose
  split
  case h_1 drv hpriv =>
    apply Sound.dropDriver
    -- the backend's pointer becomes one that is to be dropped
    have howners : drv :: driverOwners none s.bos = s.owners := by simp [driverOwners, hpriv]
    have h' := h
    refine ⟨?_, ?_, h.owned, h.loaded, h.drvOfBo, h.nodup⟩
    · show s.drivers.Holds (drv :: driverOwners none s.bos)
      rw [howners]
      exact h.counts
    · show s.ledger.Records (heldEntries (drv :: driverOwners none s.bos) s.bos)
      rw [howners]
      exact h.records
  case h_2 => exact h

/-- The step lemma. -/
theorem sound_next {call : MesaCall} (h : s.Sound []) (hnext : mesaMachine.next s call = some s') :
    ∃ pending, s'.Sound pending ∧ (s'.crashed = false → pending = []) := by
  simp only [mesaMachine] at hnext
  split_ifs at hnext
  cases call with
  | boCreate camera env first second => exact ⟨[], h.boCreate hnext, fun _ => rfl⟩
  | boImport empty sw env imported => exact ⟨[], h.boImport hnext, fun _ => rfl⟩
  | boDestroy bo => exact ⟨[], h.boDestroy hnext, fun _ => rfl⟩
  | boMap bo env => exact h.boAccess hnext
  | boUnmap bo env vmaPriv => exact h.boAccess hnext
  | driverClose =>
    obtain rfl := Option.some.inj hnext
    exact ⟨[], h.driverClose, fun _ => rfl⟩
  | otherOpen fd =>
    obtain ⟨t, hopen, rfl⟩ := Option.map_eq_some_iff.mp hnext
    exact ⟨[], ⟨h.counts, h.records, h.owned.openForeign hopen, h.loaded, h.drvOfBo, h.nodup⟩,
      fun _ => rfl⟩
  | otherClose fd =>
    obtain ⟨t, hclose, rfl⟩ := Option.map_eq_some_iff.mp hnext
    exact ⟨[], ⟨h.counts, h.records, h.owned.closeForeign hclose, h.loaded, h.drvOfBo, h.nodup⟩,
      fun _ => rfl⟩

/-- Every reached state is sound; a call of a crashed process may still have a pointer. -/
theorem sound_of_reachable (h : mesaMachine.Reachable s) :
    ∃ pending, s.Sound pending ∧ (s.crashed = false → pending = []) := by
  refine h.invariant
    (fun s => ∃ pending, s.Sound pending ∧ (s.crashed = false → pending = [])) ?_ ?_
  · rintro s ⟨foreign, rfl⟩
    refine ⟨[], ⟨SharedHeap.holds_empty, Ledger.records_empty.congr ?_, ?_, ?_, ?_, ?_⟩,
      fun _ => rfl⟩
    · rintro ⟨r, on⟩
      cases r <;> simp [driverOwners]
    · exact FdTable.owned_nil foreign
    · intro drv d hget
      simp [SharedHeap.get?] at hget
    · simp
    · simp
  · rintro s call s' ⟨pending, hsound, hpending⟩ - hnext
    -- a crashed process makes no further call
    have hcrashed : s.crashed = false := by
      by_contra hne
      simp [mesaMachine, hne] at hnext
    rw [hpending hcrashed] at hsound
    exact sound_next hsound hnext

/-- Nothing is misused. Until the process crashes, what is live is what the backend and the buffers
refer to, with the descriptors of the nodes; so nothing is left when nobody refers to a driver. -/
structure SafeLifetimes (s : MesaState) : Prop where
  noMisuse : s.ledger.misused = []
  device : s.crashed = false → ∀ drv, s.ledger.isLive (.device drv) = true ↔ drv ∈ s.owners
  library : s.crashed = false → ∀ drv, s.ledger.isLive (.library drv) = true ↔ drv ∈ s.owners
  node : s.crashed = false → ∀ drv, s.ledger.isLive (.node drv) = true ↔ drv ∈ s.owners
  bo : s.crashed = false → ∀ gbmBo, s.ledger.isLive (.bo gbmBo) = true ↔
    ∃ bo ∈ s.bos, bo.gbmBo = some gbmBo
  owned : s.table.Owned (s.drivers.contents GbmMesaDriver.fds)
  released : s.crashed = false → s.priv = none → (∀ bo ∈ s.bos, bo.drv = none) →
    s.ledger.live = [] ∧ s.table.held = []

/-- **The driver lives exactly as long as it is referred to**, in every run of calls, whatever
fails in them. -/
theorem safeLifetimes {s : MesaState} (h : mesaMachine.Reachable s) : SafeLifetimes s := by
  obtain ⟨pending, hsound, hpending⟩ := sound_of_reachable h
  have hwhole : s.crashed = false → s.ledger.Records (heldEntries s.owners s.bos) := by
    intro hcrashed
    have hrecords := hsound.records
    rwa [hpending hcrashed, List.nil_append] at hrecords
  refine ⟨hsound.records.noMisuse, fun hcrashed drv => ?_, fun hcrashed drv => ?_,
    fun hcrashed drv => ?_, fun hcrashed gbmBo => ?_, hsound.owned, fun hcrashed hpriv hbos => ?_⟩
  · rw [(hwhole hcrashed).isLive_iff]
    simp
  · rw [(hwhole hcrashed).isLive_iff]
    simp
  · rw [(hwhole hcrashed).isLive_iff]
    simp
  · rw [(hwhole hcrashed).isLive_iff]
    constructor
    · rintro ⟨on, bo, hbo, hgbm, -⟩
      exact ⟨bo, hbo, hgbm⟩
    · rintro ⟨bo, hbo, hgbm⟩
      obtain ⟨drv, hdrv⟩ := Option.isSome_iff_exists.mp (hsound.drvOfBo bo hbo (by simp [hgbm]))
      exact ⟨_, mem_heldEntries_bo.mpr ⟨bo, hbo, hgbm, drv, hdrv, rfl⟩⟩
  · -- nobody refers to a driver
    have howners : s.owners = [] := by
      simp only [driverOwners, hpriv, Option.toList_none, List.nil_append]
      exact List.filterMap_eq_nil_iff.mpr hbos
    have hcounts := hsound.counts
    rw [hpending hcrashed, howners] at hcounts
    have howned := hsound.owned
    rw [hcounts.contents_eq_nil] at howned
    refine ⟨List.eq_nil_iff_forall_not_mem.mpr fun e he => ?_, List.nil_perm.mp howned.perm⟩
    obtain ⟨r, on⟩ := e
    have hmem := ((hwhole hcrashed).live _).mp he
    rw [howners] at hmem
    cases r with
    | node n => exact absurd hmem.1 List.not_mem_nil
    | library n => exact absurd hmem.1 List.not_mem_nil
    | device n => exact absurd hmem.1 List.not_mem_nil
    | bo gbmBo =>
      obtain ⟨bo, hbo, -, drv, hdrv, -⟩ := hmem
      rw [hbos bo hbo] at hdrv
      cases hdrv

theorem noDriver_start : mesaMachine.start {} := ⟨[], rfl⟩

/-- A GPU with a separate display controller, and its KMS node. -/
def limaEnv (gpuFd kmsFd : Nat) : InitEnv where
  glob cardNode :=
    if cardNode then some [⟨some kmsFd, true, ['s', 'u', 'n', '4', 'i']⟩]
    else some [⟨some gpuFd, false, ['l', 'i', 'm', 'a']⟩]
  dup := some kmsFd

/-- A buffer is created and one is imported, the driver is closed, and the created buffer destroyed;
then the imported one is mapped, which opens another driver. -/
def reopenedState : MesaState :=
  (mesaMachine.exec {}
    [.boCreate false (limaEnv 5 6) true false, .boImport true true (limaEnv 7 8) (some 40),
      .driverClose, .boDestroy 1, .boMap 0 (limaEnv 7 8)]).get (by decide)

theorem safeLifetimes_reopened :
    reopenedState.ledger.isLive (.device 0) = true ∧
      reopenedState.ledger.isLive (.device 1) = true ∧ reopenedState.table.held = [8, 7, 6, 5] ∧
      SafeLifetimes reopenedState :=
  ⟨by decide, by decide, by decide, safeLifetimes (Machine.reachable_of_exec noDriver_start _)⟩

end MesaState

end GloDroid.Gralloc

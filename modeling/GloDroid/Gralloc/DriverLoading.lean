import GloDroid.Gralloc.MesaDriver

/-!
# Loading and Destroying a gbm_mesa Driver

What a driver holds at each point of its initialisation, and that its destructor releases just that,
wherever the initialisation stopped: nothing is released under something that stands on it.
-/

namespace GloDroid.Gralloc

open GloDroid.Base

/-! ## What is held -/

namespace GbmResource

/-- The driver that the resource is part of. -/
def driver? : GbmResource → Option Nat
  | .node drv | .library drv | .device drv => some drv
  | .bo _ => none

end GbmResource

/-- The resources of a driver, as far as it is loaded. -/
def GbmMesaDriver.entries (d : GbmMesaDriver) (drv : Nat) : Set (GbmResource × List GbmResource)
  | (.node n, on) => (n = drv ∧ d.gbmNodeFd.isSome) ∧ on = []
  | (.library n, on) => (n = drv ∧ d.dlHandle) ∧ on = []
  | (.device n, on) => (n = drv ∧ d.gbmDev) ∧ on = [.library n, .node n]
  | (.bo _, _) => False

/-- The resources of loaded drivers and of buffers. -/
def heldEntries (owners : List Nat) (bos : List GbmMesaBoPriv) :
    Set (GbmResource × List GbmResource)
  | (.node n, on) => n ∈ owners ∧ on = []
  | (.library n, on) => n ∈ owners ∧ on = []
  | (.device n, on) => n ∈ owners ∧ on = [.library n, .node n]
  | (.bo gbmBo, on) => ∃ bo ∈ bos, bo.gbmBo = some gbmBo ∧ ∃ drv, bo.drv = some drv ∧
      on = [.device drv]

/-- Nothing in `s` is part of the driver, or stands on something that is. -/
def Apart (drv : Nat) (s : Set (GbmResource × List GbmResource)) : Prop :=
  ∀ e ∈ s, e.1.driver? ≠ some drv ∧ ∀ r ∈ e.2, r.driver? ≠ some drv

section Entries

variable {d : GbmMesaDriver} {drv n gbmBo : Nat} {on : List GbmResource} {owners : List Nat}
  {bos : List GbmMesaBoPriv}

@[simp] theorem mem_entries_node :
    (.node n, on) ∈ d.entries drv ↔ (n = drv ∧ d.gbmNodeFd.isSome) ∧ on = [] := Iff.rfl

@[simp] theorem mem_entries_library :
    (.library n, on) ∈ d.entries drv ↔ (n = drv ∧ d.dlHandle) ∧ on = [] := Iff.rfl

@[simp] theorem mem_entries_device :
    (.device n, on) ∈ d.entries drv ↔ (n = drv ∧ d.gbmDev) ∧ on = [.library n, .node n] := Iff.rfl

@[simp] theorem not_mem_entries_bo : (.bo gbmBo, on) ∉ d.entries drv := fun h => h

@[simp] theorem mem_heldEntries_node :
    (.node n, on) ∈ heldEntries owners bos ↔ n ∈ owners ∧ on = [] := Iff.rfl

@[simp] theorem mem_heldEntries_library :
    (.library n, on) ∈ heldEntries owners bos ↔ n ∈ owners ∧ on = [] := Iff.rfl

@[simp] theorem mem_heldEntries_device :
    (.device n, on) ∈ heldEntries owners bos ↔ n ∈ owners ∧ on = [.library n, .node n] := Iff.rfl

@[simp] theorem mem_heldEntries_bo :
    (.bo gbmBo, on) ∈ heldEntries owners bos ↔ ∃ bo ∈ bos, bo.gbmBo = some gbmBo ∧
      ∃ drv, bo.drv = some drv ∧ on = [.device drv] := Iff.rfl

/-- Without an owner, nothing has to do with the driver. -/
theorem apart_heldEntries (hnone : drv ∉ owners)
    (hbos : ∀ bo ∈ bos, ∀ n, bo.drv = some n → n ∈ owners) :
    Apart drv (heldEntries owners bos) := by
  rintro ⟨r, on⟩ h
  have hne : ∀ n, n ∈ owners → n ≠ drv := fun n hn heq => hnone (heq ▸ hn)
  cases r with
  | node n =>
    obtain ⟨hn, rfl⟩ := h
    exact ⟨by simpa [GbmResource.driver?] using hne n hn, by simp⟩
  | library n =>
    obtain ⟨hn, rfl⟩ := h
    exact ⟨by simpa [GbmResource.driver?] using hne n hn, by simp⟩
  | device n =>
    obtain ⟨hn, rfl⟩ := h
    exact ⟨by simpa [GbmResource.driver?] using hne n hn,
      by simpa [GbmResource.driver?] using hne n hn⟩
  | bo gbmBo =>
    obtain ⟨bo, hbo, -, n, hdrv, rfl⟩ := h
    exact ⟨by simp [GbmResource.driver?],
      by simpa [GbmResource.driver?] using hne n (hbos bo hbo n hdrv)⟩

theorem heldEntries_congr {owners' : List Nat} {bos' : List GbmMesaBoPriv}
    (howners : ∀ n, n ∈ owners ↔ n ∈ owners') (hbos : ∀ bo, bo ∈ bos ↔ bo ∈ bos')
    (e : GbmResource × List GbmResource) :
    e ∈ heldEntries owners bos ↔ e ∈ heldEntries owners' bos' := by
  obtain ⟨r, on⟩ := e
  cases r with
  | node n => exact and_congr_left' (howners n)
  | library n => exact and_congr_left' (howners n)
  | device n => exact and_congr_left' (howners n)
  | bo gbmBo => exact exists_congr fun bo => and_congr_left' (hbos bo)

/-- What one buffer holds. -/
theorem mem_heldEntries_cons {bo : GbmMesaBoPriv} {e : GbmResource × List GbmResource} :
    e ∈ heldEntries owners (bo :: bos) ↔
      (∃ gbmBo, bo.gbmBo = some gbmBo ∧ ∃ drv, bo.drv = some drv ∧
        e = (.bo gbmBo, [.device drv])) ∨ e ∈ heldEntries owners bos := by
  obtain ⟨r, on⟩ := e
  cases r <;> simp

/-- One more pointer to what is pointed to already. -/
theorem mem_cons_iff_of_mem {n m : Nat} (hmem : n ∈ owners) : m ∈ n :: owners ↔ m ∈ owners :=
  ⟨fun hm => (List.mem_cons.mp hm).elim (· ▸ hmem) id, List.mem_cons_of_mem _⟩

end Entries

/-! ## The nodes -/

section Nodes

variable {before stored kept : List Nat} {f f' : ProbeFds}

/-- A duplicate is kept beside the others. -/
theorem Accounted.dup {fd : UniqueFd} {t : FdTable} (h : Accounted before stored kept f)
    (hopen : f.table.openFd fd = some t) :
    Accounted before stored (fd.toList ++ kept)
      { f with table := t, opened := f.opened ++ fd.toList } := by
  cases fd with
  | none =>
    obtain rfl := Option.some.inj hopen
    simpa using h
  | some fd =>
    have hlast : f.openFd fd = some { f with table := t, opened := f.opened ++ [fd] } := by
      simp [ProbeFds.openFd, hopen]
    exact h.openFd hlast

/-- The probe of the GPU, with the descriptors that are kept elsewhere. -/
theorem isSeparateDcGpu_accounted {glob : Bool → Option (List DrmNode)} {answer : Bool}
    {gpuNodeFd : UniqueFd} (h : Accounted before stored [] f)
    (hgpu : isSeparateDcGpu glob none f = some (answer, gpuNodeFd, f')) :
    Accounted before stored gpuNodeFd.toList f' := by
  unfold isSeparateDcGpu openDrmDev at hgpu
  cases hglob : glob false with
  | none =>
    simp only [hglob, Option.some.injEq, Prod.mk.injEq] at hgpu
    obtain ⟨-, rfl, rfl⟩ := hgpu
    exact h
  | some nodes =>
    cases hloop : openNodes foundGpu nodes ({}, f) with
    | none => simp [hglob, hloop] at hgpu
    | some end' =>
      obtain ⟨probe, f'⟩ := end'
      simp only [hglob, hloop, Option.map_some, Option.some.injEq, Prod.mk.injEq] at hgpu
      obtain ⟨-, rfl, rfl⟩ := hgpu
      exact openNodes_accounted (s := {}) foundGpu_accounts h hloop

/-- The callback that looks for a KMS node, while other descriptors are kept. -/
theorem foundKms_accounts_beside (beside : List Nat) :
    Accounts (fun u => u.toList ++ beside) foundKms := by
  intro before stored fd isKms drmName u f h
  cases u with
  | some old => simpa [foundKms] using h
  | none =>
    cases isKms with
    | true => simpa [foundKms, UniqueFd.assign, UniqueFd.set, UniqueFd.release] using h
    | false => simpa [foundKms] using h

/-- The search for a KMS node, while other descriptors are kept. -/
theorem openDrmDev_accounted_beside {glob : Bool → Option (List DrmNode)} {result : Int}
    {gbmNodeFd : UniqueFd} (h : Accounted before stored kept f)
    (hkms : openDrmDev glob true foundKms (none, f) = some (result, gbmNodeFd, f')) :
    Accounted before stored (gbmNodeFd.toList ++ kept) f' := by
  unfold openDrmDev at hkms
  cases hglob : glob true with
  | none =>
    simp only [hglob, Option.some.injEq, Prod.mk.injEq] at hkms
    obtain ⟨-, rfl, rfl⟩ := hkms
    exact h
  | some nodes =>
    simp only [hglob, Option.map_eq_some_iff, Prod.mk.injEq] at hkms
    obtain ⟨end', hloop, -, rfl⟩ := hkms
    exact openNodes_accounted (s := none) (foundKms_accounts_beside kept) h hloop

end Nodes

/-! ## A driver is loaded and destroyed -/

namespace GbmMesaDriver

variable {d d' : GbmMesaDriver} {drv : Nat} {w : GbmWorld} {env : InitEnv}
  {s : Set (GbmResource × List GbmResource)}

/-- It got to the end. -/
structure Loaded (d : GbmMesaDriver) : Prop where
  wrapper : d.wrapper = true
  gbmDev : d.gbmDev = true
  dlHandle : d.dlHandle = true
  gbmNodeFd : d.gbmNodeFd.isSome = true

/-- A loaded driver holds all of its resources. -/
theorem Loaded.heldEntries_cons (hd : d.Loaded) {owners : List Nat} {bos : List GbmMesaBoPriv}
    (e : GbmResource × List GbmResource) :
    e ∈ heldEntries (drv :: owners) bos ↔ e ∈ d.entries drv ∪ heldEntries owners bos := by
  obtain ⟨r, on⟩ := e
  rw [Set.mem_union]
  cases r with
  | node n => simp only [mem_heldEntries_node, mem_entries_node, hd.gbmNodeFd, List.mem_cons]; tauto
  | library n =>
    simp only [mem_heldEntries_library, mem_entries_library, hd.dlHandle, List.mem_cons]; tauto
  | device n =>
    simp only [mem_heldEntries_device, mem_entries_device, hd.gbmDev, List.mem_cons]; tauto
  | bo gbmBo => simp only [mem_heldEntries_bo, not_mem_entries_bo, false_or]

/-- What stands on a resource of the driver is its device. -/
theorem device_of_mem_on {e : GbmResource × List GbmResource} {r : GbmResource}
    (hapart : Apart drv s) (he : e ∈ d.entries drv ∪ s) (hr : r ∈ e.2)
    (hdrv : r.driver? = some drv) : e.1 = .device drv ∧ r ≠ .device drv := by
  obtain ⟨r', on⟩ := e
  rcases he with he | he
  · cases r' with
    | node n => simp [he.2] at hr
    | library n => simp [he.2] at hr
    | device n =>
      obtain ⟨⟨rfl, -⟩, rfl⟩ := he
      refine ⟨rfl, ?_⟩
      rintro rfl
      simp at hr
    | bo gbmBo => exact he.elim
  · exact absurd hdrv ((hapart _ he).2 r hr)

/-- What the destructor does to the resources of GBM. -/
theorem destroy_ledger :
    (d.destroy drv w).ledger =
      let l := if d.gbmDev then (w.ledger.use (.library drv)).release (.device drv) else w.ledger
      let l := if d.dlHandle then l.release (.library drv) else l
      if d.gbmNodeFd.isSome then l.release (.node drv) else l := by
  cases hgbm : d.gbmDev <;> cases hlib : d.dlHandle <;> cases hnode : d.gbmNodeFd <;>
    simp [destroy, hgbm, hlib, hnode, GbmWorld.use, GbmWorld.release]

/-- The destructor closes the nodes. -/
theorem destroy_table :
    (d.destroy drv w).fds.table =
      w.fds.table.closeAll (d.gpuNodeFd.toList ++ d.gbmNodeFd.toList) := by
  cases hgbm : d.gbmDev <;> cases hlib : d.dlHandle <;> cases hnode : d.gbmNodeFd <;>
    cases hgpu : d.gpuNodeFd <;>
    simp [destroy, hgbm, hlib, hnode, hgpu, GbmWorld.use, GbmWorld.release, UniqueFd.destroy,
      UniqueFd.set, ProbeFds.close, FdTable.closeAll]

/-- The destructor releases what the driver holds, in an order that leaves nothing in the air. -/
theorem records_destroy (hdev : d.gbmDev = true → d.dlHandle = true) (hapart : Apart drv s)
    (h : w.ledger.Records (d.entries drv ∪ s)) : (d.destroy drv w).ledger.Records s := by
  have hother : ∀ e ∈ s, ∀ r, r.driver? = some drv → e.1 ≠ r :=
    fun e he r hr heq => (hapart e he).1 (heq ▸ hr)
  -- the device: nothing stands on it
  have hdevice : (if d.gbmDev then (w.ledger.use (.library drv)).release (.device drv)
      else w.ledger).Records {e ∈ d.entries drv ∪ s | e.1 ≠ .device drv} := by
    have huse : (if d.gbmDev then w.ledger.use (.library drv) else w.ledger).Records
        (d.entries drv ∪ s) := by
      split_ifs with hgbm
      · exact h.use (Or.inl (mem_entries_library.mpr ⟨⟨rfl, hdev hgbm⟩, rfl⟩))
      · exact h
    have hrelease := huse.releaseIf (c := d.gbmDev) (r := .device drv)
      (fun hgbm => ⟨_, Or.inl (mem_entries_device.mpr ⟨⟨rfl, hgbm⟩, rfl⟩)⟩) ?_
      fun e he hr => (device_of_mem_on hapart he hr rfl).2 rfl
    · cases hgbm : d.gbmDev <;> simpa [hgbm] using hrelease
    · rintro hgbm ⟨r, on⟩ (he | he)
      · rintro rfl
        simp [hgbm] at he
      · exact hother _ he _ rfl
  -- the library and the node: only the device stood on them
  have hlibrary := hdevice.releaseIf (c := d.dlHandle) (r := .library drv)
    (fun hlib => ⟨[], Or.inl (mem_entries_library.mpr ⟨⟨rfl, hlib⟩, rfl⟩), by simp⟩) ?_
    fun e he hr => he.2 (device_of_mem_on hapart he.1 hr rfl).1
  rotate_left
  · rintro hlib ⟨r, on⟩ ⟨he | he, -⟩
    · rintro rfl
      simp [hlib] at he
    · exact hother _ he _ rfl
  have hnode := hlibrary.releaseIf (c := d.gbmNodeFd.isSome) (r := .node drv)
    (fun hfd => ⟨[], ⟨Or.inl (mem_entries_node.mpr ⟨⟨rfl, hfd⟩, rfl⟩), by simp⟩, by simp⟩) ?_
    fun e he hr => he.1.2 (device_of_mem_on hapart he.1.1 hr rfl).1
  rotate_left
  · rintro hfd ⟨r, on⟩ ⟨⟨he | he, -⟩, -⟩
    · rintro rfl
      simp [hfd] at he
    · exact hother _ he _ rfl
  rw [destroy_ledger]
  refine hnode.congr fun e => ⟨fun he => ?_, fun he => ?_⟩
  · exact ⟨⟨⟨Or.inr he, hother e he _ rfl⟩, hother e he _ rfl⟩, hother e he _ rfl⟩
  · -- nothing of the driver is left
    obtain ⟨⟨⟨he | he, hndev⟩, hnlib⟩, hnnode⟩ := he
    · obtain ⟨r, on⟩ := e
      cases r with
      | node n => exact absurd (congrArg GbmResource.node he.1.1) hnnode
      | library n => exact absurd (congrArg GbmResource.library he.1.1) hnlib
      | device n => exact absurd (congrArg GbmResource.device he.1.1) hndev
      | bo gbmBo => exact he.elim
    · exact he

/-- One more resource of the driver is acquired. -/
theorem records_acquire {l : Ledger GbmResource} {r : GbmResource} {on : List GbmResource}
    (hapart : Apart drv s) (h : l.Records (d.entries drv ∪ s)) (hr : r.driver? = some drv)
    (hfresh : ∀ on, (r, on) ∉ d.entries drv)
    (hon : ∀ r' ∈ on, ∃ on', (r', on') ∈ d.entries drv)
    (hd' : ∀ e, e ∈ d'.entries drv ↔ e = (r, on) ∨ e ∈ d.entries drv) :
    (l.acquire r on).Records (d'.entries drv ∪ s) := by
  refine (h.acquire ?_ ?_).congr ?_
  · rintro on (he | he)
    · exact hfresh on he
    · exact (hapart _ he).1 hr
  · intro r' hr'
    obtain ⟨on', hmem⟩ := hon r' hr'
    exact ⟨on', Or.inl hmem⟩
  · intro e
    rw [Set.mem_union, Set.mem_insert_iff, Set.mem_union, hd', or_assoc]

/-- Loading gets to the end or leaves a driver that holds what was loaded. -/
theorem records_load {ok : Bool} {w' : GbmWorld} (hdev : d.gbmDev = false)
    (hlib : d.dlHandle = false) (hapart : Apart drv s) (h : w.ledger.Records s)
    (hload : d.load drv env w = (ok, d', w')) :
    w'.ledger.Records (d'.entries drv ∪ s) ∧ w'.fds = w.fds ∧
      (d'.gbmNodeFd = d.gbmNodeFd ∧ d'.gpuNodeFd = d.gpuNodeFd) ∧
      (d'.gbmDev = true → d'.dlHandle = true) ∧ (ok = true → d'.Loaded) := by
  by_cases hnode : d.gbmNodeFd = none
  · simp only [load, hnode, if_true] at hload
    obtain ⟨rfl, rfl, rfl⟩ := hload
    refine ⟨h.congr ?_, rfl, ⟨rfl, rfl⟩, by simp [hdev], by simp⟩
    rintro ⟨r, on⟩
    cases r <;> simp [hdev, hlib, hnode]
  have hsome : d.gbmNodeFd.isSome = true := Option.isSome_iff_ne_none.mpr hnode
  -- the node, the library and the device are acquired one after the other
  have h₁ : (w.ledger.acquire (.node drv) []).Records (d.entries drv ∪ s) := by
    have hempty : ∀ e,
        e ∈ ({ d with gbmNodeFd := none } : GbmMesaDriver).entries drv ∪ s ↔ e ∈ s := by
      rintro ⟨r, on⟩
      cases r <;> simp [hdev, hlib]
    refine records_acquire hapart (h.congr hempty) rfl (by simp) (by simp) ?_
    rintro ⟨r, on⟩
    cases r <;> simp [hdev, hlib, hsome]
  have h₂ : ((w.ledger.acquire (.node drv) []).acquire (.library drv) []).Records
      (({ d with dlHandle := true } : GbmMesaDriver).entries drv ∪ s) := by
    refine records_acquire hapart h₁ rfl (by simp [hlib]) (by simp) ?_
    rintro ⟨r, on⟩
    cases r <;> simp [hdev, hlib]
  have hmem : (.library drv, []) ∈ ({ d with dlHandle := true } : GbmMesaDriver).entries drv ∪ s :=
    Or.inl (mem_entries_library.mpr ⟨⟨rfl, rfl⟩, rfl⟩)
  simp only [load, hnode, if_false, GbmWorld.acquire, GbmWorld.use] at hload
  split_ifs at hload with hdl hsym hops hcreate
  · obtain ⟨rfl, rfl, rfl⟩ := hload
    exact ⟨h₁, rfl, ⟨rfl, rfl⟩, by simp [hdev], by simp⟩
  · obtain ⟨rfl, rfl, rfl⟩ := hload
    exact ⟨h₂, rfl, ⟨rfl, rfl⟩, by simp, by simp⟩
  · obtain ⟨rfl, rfl, rfl⟩ := hload
    exact ⟨h₂.use hmem, rfl, ⟨rfl, rfl⟩, by simp, by simp⟩
  · obtain ⟨rfl, rfl, rfl⟩ := hload
    refine ⟨((h₂.use hmem).use hmem).congr ?_, rfl, ⟨rfl, rfl⟩, by simp, by simp⟩
    rintro ⟨r, on⟩
    cases r <;> simp_all
  · obtain ⟨rfl, rfl, rfl⟩ := hload
    refine ⟨?_, rfl, ⟨rfl, rfl⟩, by simp, fun _ => ⟨?_, ?_, rfl, hsome⟩⟩
    · refine records_acquire hapart ((h₂.use hmem).use hmem) rfl (by simp [hdev]) ?_ ?_
      · simp [hsome]
      · rintro ⟨r, on⟩
        cases r <;> simp_all
    · simpa using hops
    · simpa using hcreate

/-- The nodes that are kept; the others were closed. -/
theorem findNodes_accounted {mapperSphal : Bool} {before stored : List Nat} {f f' : ProbeFds}
    (h : Accounted before stored [] f) (hfind : findNodes mapperSphal env f = some (d, f')) :
    Accounted before stored d.fds f' ∧ d.gbmDev = false ∧ d.dlHandle = false := by
  unfold findNodes at hfind
  split at hfind
  case h_1 => cases hfind
  case h_2 lookForKms gpuNodeFd f₁ hgpu =>
    have h₁ : Accounted before stored gpuNodeFd.toList f₁ := isSeparateDcGpu_accounted h hgpu
    by_cases hkms : (lookForKms && !mapperSphal) = true
    · rw [if_pos hkms] at hfind
      split at hfind
      case h_1 => cases hfind
      case h_2 result gbmNodeFd f₂ hkms =>
        obtain ⟨rfl, rfl⟩ := Prod.mk.inj (Option.some.inj hfind)
        exact ⟨openDrmDev_accounted_beside h₁ hkms, rfl, rfl⟩
    · rw [if_neg hkms] at hfind
      dsimp only at hfind
      generalize hdup : (if gpuNodeFd.isSome then env.dup else none) = gbmNodeFd at hfind
      split at hfind
      case h_1 => cases hfind
      case h_2 t hopen =>
        obtain ⟨rfl, rfl⟩ := Prod.mk.inj (Option.some.inj hfind)
        exact ⟨h₁.dup hopen, rfl, rfl⟩

end GbmMesaDriver

end GloDroid.Gralloc

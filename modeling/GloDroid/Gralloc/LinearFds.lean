import GloDroid.Gralloc.Buffers

/-!
# Linear Ownership of Buffer Descriptors

The dmabuf-heap backend, imports and `bo_get_plane_fd` keep every descriptor in exactly one
`UniqueFd`. `gbm_mesa_bo_create` does so only for a buffer of one plane, and only if no allocation
attempt fails after it obtained the descriptor (`owned_gbmMesaBoCreate_iff`):

- every plane gets a `UniqueFd` made from the same number, so with several planes the number is
  closed several times, and with none it is never closed;
- `gbm_mesa_alloc` returns without closing the descriptor when the import for the map stride fails,
  and the second attempt overwrites `out_fd`.
-/

namespace GloDroid.Gralloc

open GloDroid.Base

/-! ## When a creation keeps one owner -/

namespace AllocEnv

/-- The allocation attempt fails. -/
def fails (env : AllocEnv) (needsMapStride : Bool) : Bool :=
  !env.created || (needsMapStride && !env.imported)

/-- The descriptor of an attempt that fails after it obtained one. -/
def lost (env : AllocEnv) (needsMapStride : Bool) : List Nat :=
  if env.created && needsMapStride && !env.imported then env.fd.toList else []

end AllocEnv

namespace GbmMesaEnv

/-- The descriptor that the allocation ends with. -/
def outFd (env : GbmMesaEnv) (needsMapStride scanoutStrong : Bool) : Option Nat :=
  if !env.first.fails needsMapStride then env.first.fd
  else if scanoutStrong || env.second.fails needsMapStride then none
  else env.second.fd

/-- The descriptors of the attempts that fail. -/
def lost (env : GbmMesaEnv) (needsMapStride scanoutStrong : Bool) : List Nat :=
  if !env.first.fails needsMapStride || scanoutStrong then env.first.lost needsMapStride
  else env.second.lost needsMapStride ++ env.first.lost needsMapStride

end GbmMesaEnv

/-- A creation by gbm_mesa ends with one plane for its descriptor, or without a descriptor, and no
attempt loses one. There is no condition on other calls. -/
def OneOwner (drv : DrvHelpers) : BufferCall → Prop
  | .gbmMesaBoCreate width height format useFlags env =>
    let needsMapStride := (allocArgs drv width height format useFlags).needsMapStride
    env.driverReady = true →
      env.lost needsMapStride useFlags.camera = [] ∧
        (env.outFd needsMapStride useFlags.camera = none ∨ drv.numPlanes format = 1)
  | _ => True

instance (drv : DrvHelpers) : (call : BufferCall) → Decidable (OneOwner drv call)
  | .gbmMesaBoCreate _ _ _ _ _ => inferInstanceAs (Decidable (_ → _ ∧ (_ ∨ _)))
  | .dmabufBoCreate _ _ _ | .boImport _ _ _ | .boGetPlaneFd _ _ _ | .boDestroy _ | .callerOpen _
  | .callerClose _ => inferInstanceAs (Decidable True)

/-! ## Calls -/

namespace Buffers

variable {drv : DrvHelpers} {s s' : Buffers}

/-- An attempt opens a descriptor and returns it or loses it. -/
theorem gbmMesaAlloc_owned {t t' : FdTable} {args : AllocArgs} {env : AllocEnv}
    {result : AllocResult} {stored : List Nat} (howned : t.Owned stored)
    (h : gbmMesaAlloc t args env = some (t', result)) :
    (env.fails args.needsMapStride = true ∧ result = .failed ∧
        t'.Owned (env.lost args.needsMapStride ++ stored)) ∨
      (env.fails args.needsMapStride = false ∧ env.lost args.needsMapStride = [] ∧
        result = .allocated env.fd ∧ t'.Owned (env.fd.toList ++ stored)) := by
  -- nothing is opened unless the buffer is created
  cases hcreated : env.created with
  | false =>
    simp only [gbmMesaAlloc, hcreated, Bool.not_false, if_true, Option.some.injEq,
      Prod.mk.injEq] at h
    obtain ⟨rfl, rfl⟩ := h
    left
    refine ⟨by simp [AllocEnv.fails, hcreated], rfl, ?_⟩
    simpa [AllocEnv.lost, hcreated] using howned
  | true =>
    simp only [gbmMesaAlloc, hcreated, Bool.not_true, Bool.false_eq_true, if_false] at h
    split at h
    case h_1 => cases h
    case h_2 t₁ hopen =>
      have howned' := howned.openFd hopen
      -- the descriptor is open by now, whether the import succeeds or not
      split_ifs at h with hstride
      · obtain ⟨rfl, rfl⟩ := Prod.mk.inj (Option.some.inj h)
        simp only [Bool.and_eq_true, Bool.not_eq_true'] at hstride
        obtain ⟨hneeds, himported⟩ := hstride
        left
        refine ⟨by simp [AllocEnv.fails, hneeds, himported], rfl, ?_⟩
        simpa [AllocEnv.lost, hcreated, hneeds, himported] using howned'
      · obtain ⟨rfl, rfl⟩ := Prod.mk.inj (Option.some.inj h)
        simp only [Bool.and_eq_true, Bool.not_eq_true', not_and, Bool.not_eq_false] at hstride
        right
        refine ⟨?_, ?_, rfl, howned'⟩
        · simpa [AllocEnv.fails, hcreated] using hstride
        · simp only [AllocEnv.lost, hcreated, Bool.true_and]
          rw [if_neg (by simpa using hstride)]

theorem stored_addBo (s : Buffers) (t : FdTable) (fds : List (Option Nat)) :
    (s.addBo t fds).stored = fds.filterMap id ++ s.stored :=
  rfl

/-- The `UniqueFd`s made from one descriptor, one for each plane. -/
def planeFds (planes : Nat) (outFd : Option Nat) : List Nat :=
  (List.replicate planes outFd).filterMap id

theorem planeFds_none (planes : Nat) : planeFds planes none = [] := by
  simp [planeFds]

theorem planeFds_some (planes fd : Nat) : planeFds planes (some fd) = List.replicate planes fd := by
  simp [planeFds]

/-- **A creation by gbm_mesa**: what the attempts opened has to be kept, and what is kept is the
descriptor they ended with, once for each plane. -/
theorem gbmMesaBoCreate_owned {width height format : UInt32} {useFlags : UseFlags}
    {env : GbmMesaEnv} (howned : s.table.Owned s.stored) (hready : env.driverReady = true)
    (h : s.gbmMesaBoCreate drv width height format useFlags env = some s') :
    let needsMapStride := (allocArgs drv width height format useFlags).needsMapStride
    let outFd := env.outFd needsMapStride useFlags.camera
    s'.table.Owned ((outFd.toList ++ env.lost needsMapStride useFlags.camera) ++ s.stored) ∧
      s'.stored = planeFds (drv.numPlanes format) outFd ++ s.stored := by
  intro needsMapStride outFd
  simp only [gbmMesaBoCreate, hready, Bool.not_true, Bool.false_eq_true, if_false] at h
  split at h
  case h_1 => cases h
  case h_2 t fd hfirst =>
    -- the first attempt succeeds
    obtain ⟨-, hresult, -⟩ | ⟨hfails, hlost, hresult, howned'⟩ := gbmMesaAlloc_owned howned hfirst
    · cases hresult
    · obtain rfl := AllocResult.allocated.inj hresult
      obtain rfl := Option.some.inj h
      have hout : outFd = env.first.fd := by
        simp [outFd, GbmMesaEnv.outFd, needsMapStride, hfails]
      have hnone : env.lost needsMapStride useFlags.camera = [] := by
        simpa [GbmMesaEnv.lost, needsMapStride, hfails] using hlost
      rw [hout, hnone, List.append_nil]
      exact ⟨howned', stored_addBo _ _ _⟩
  case h_3 t hfirst =>
    obtain ⟨hfails, -, howned'⟩ | ⟨-, -, hresult, -⟩ := gbmMesaAlloc_owned howned hfirst
    swap
    · cases hresult
    by_cases hcamera : useFlags.camera = true
    · -- no second attempt
      rw [if_pos hcamera] at h
      obtain rfl := Option.some.inj h
      have hout : outFd = none := by
        simp [outFd, GbmMesaEnv.outFd, needsMapStride, hfails, hcamera]
      have hlost : env.lost needsMapStride useFlags.camera = env.first.lost needsMapStride := by
        simp [GbmMesaEnv.lost, hcamera]
      rw [hout, hlost, planeFds_none]
      exact ⟨howned', rfl⟩
    · rw [if_neg hcamera] at h
      have hcamera' : useFlags.camera = false := by simpa using hcamera
      have hlost : env.lost needsMapStride useFlags.camera =
          env.second.lost needsMapStride ++ env.first.lost needsMapStride := by
        simp [GbmMesaEnv.lost, needsMapStride, hfails, hcamera']
      split at h
      case h_1 => cases h
      case h_2 t' fd hsecond =>
        obtain ⟨-, hresult, -⟩ | ⟨hfails', hlost', hresult, howned''⟩ :=
          gbmMesaAlloc_owned howned' hsecond
        · cases hresult
        · obtain rfl := AllocResult.allocated.inj hresult
          obtain rfl := Option.some.inj h
          have hout : outFd = env.second.fd := by
            simp only [outFd, GbmMesaEnv.outFd, needsMapStride, hfails, hcamera', hfails',
              Bool.not_true, Bool.false_eq_true, if_false, Bool.or_self]
          have hnone : env.second.lost needsMapStride = [] := hlost'
          rw [hout, hlost, hnone, List.nil_append, List.append_assoc]
          exact ⟨howned'', stored_addBo _ _ _⟩
      case h_3 t' hsecond =>
        obtain ⟨hfails', -, howned''⟩ | ⟨-, -, hresult, -⟩ := gbmMesaAlloc_owned howned' hsecond
        swap
        · cases hresult
        obtain rfl := Option.some.inj h
        have hout : outFd = none := by
          simp only [outFd, GbmMesaEnv.outFd, needsMapStride, hfails, hcamera', hfails',
            Bool.not_true, Bool.false_eq_true, if_false, Bool.or_true, if_true]
        rw [hout, hlost, planeFds_none]
        refine ⟨?_, rfl⟩
        rw [Option.toList_none, List.nil_append, List.append_assoc]
        exact howned''

/-- The descriptors opened by the attempts are those of the planes exactly if there is one plane for
the descriptor, and none is lost. -/
theorem planeFds_perm_iff (planes : Nat) {outFd : Option Nat} {lost : List Nat}
    (hnodup : (outFd.toList ++ lost).Nodup) :
    (planeFds planes outFd).Perm (outFd.toList ++ lost) ↔
      lost = [] ∧ (outFd = none ∨ planes = 1) := by
  cases outFd with
  | none =>
    rw [planeFds_none, Option.toList_none, List.nil_append, List.nil_perm]
    simp
  | some fd =>
    rw [planeFds_some]
    constructor
    · intro hperm
      -- equal members, and no member twice
      have honce : planes ≤ 1 := List.nodup_replicate.mp (hperm.nodup_iff.mpr hnodup)
      have hlength : planes = 1 + lost.length := by
        simpa [Nat.add_comm] using hperm.length_eq
      have hnone : lost.length = 0 := by omega
      exact ⟨List.length_eq_zero_iff.mp hnone, Or.inr (by omega)⟩
    · rintro ⟨rfl, hplanes⟩
      rcases hplanes with hnone | rfl
      · cases hnone
      · exact List.Perm.refl _

/-- **When a creation by gbm_mesa keeps ownership linear**: exactly if it ends with one plane for
its descriptor and loses none. -/
theorem owned_gbmMesaBoCreate_iff {width height format : UInt32} {useFlags : UseFlags}
    {env : GbmMesaEnv} (howned : s.table.Owned s.stored)
    (h : s.gbmMesaBoCreate drv width height format useFlags env = some s') :
    s'.table.Owned s'.stored ↔
      OneOwner drv (.gbmMesaBoCreate width height format useFlags env) := by
  by_cases hready : env.driverReady = true
  · obtain ⟨hopened, hstored⟩ := gbmMesaBoCreate_owned howned hready h
    have hnodup := hopened.perm.nodup_iff.mpr hopened.nodup
    have hiff := planeFds_perm_iff (drv.numPlanes format) (List.Nodup.of_append_left hnodup)
    rw [hstored]
    constructor
    · intro howned' _
      exact hiff.mp ((List.perm_append_right_iff _).mp (howned'.perm.trans hopened.perm.symm))
    · intro hone
      exact hopened.congr ((hiff.mpr (hone hready)).append_right _)
  · -- nothing is done
    have hnot : env.driverReady = false := by simpa using hready
    simp only [gbmMesaBoCreate, hnot, Bool.not_false, if_true] at h
    obtain rfl := Option.some.inj h
    exact ⟨fun _ hready' => absurd hready' hready, fun _ => howned⟩

/-! ## The other calls -/

theorem dmabufBoCreate_owned {format : UInt32} {useFlags : UseFlags} {env : DmabufEnv}
    (howned : s.table.Owned s.stored)
    (h : s.dmabufBoCreate drv format useFlags env = some s') : s'.table.Owned s'.stored := by
  simp only [dmabufBoCreate] at h
  split_ifs at h
  · obtain rfl := Option.some.inj h
    exact howned
  split at h
  case h_1 =>
    obtain rfl := Option.some.inj h
    exact howned
  case h_2 fd _ =>
    split at h
    case h_1 => cases h
    case h_2 t hopen =>
      split at h
      case h_1 => cases h
      case h_2 t' hdups =>
        obtain rfl := Option.some.inj h
        -- the allocated descriptor, then the duplicates, then the former is closed
        have hopened := (howned.openFd hopen).openAll hdups
        rw [stored_addBo]
        exact (hopened.congr List.perm_middle.symm).close

theorem boImport_owned {empty : Bool} {format : UInt32} {dups : Nat → Option Nat}
    (howned : s.table.Owned s.stored) (h : s.boImport drv empty format dups = some s') :
    s'.table.Owned s'.stored := by
  simp only [boImport] at h
  split_ifs at h
  · obtain rfl := Option.some.inj h
    exact howned
  split at h
  case h_1 => cases h
  case h_2 t hdups =>
    obtain rfl := Option.some.inj h
    rw [stored_addBo]
    exact howned.openAll hdups

theorem boGetPlaneFd_owned {bo plane : Nat} {dup result : Option Nat}
    (howned : s.table.Owned s.stored)
    (h : s.boGetPlaneFd bo plane dup = some (result, s')) :
    s'.table.Owned s'.stored ∧ ∀ fd, result = some fd → fd ∈ s'.table.foreign := by
  simp only [boGetPlaneFd] at h
  split at h
  case h_1 => cases h
  case h_2 priv _ =>
    split at h
    case h_1 => cases h
    case h_2 t hopen =>
      obtain ⟨rfl, rfl⟩ := Prod.mk.inj (Option.some.inj h)
      refine ⟨howned.openForeign hopen, fun fd hfd => ?_⟩
      rw [hfd] at hopen
      obtain ⟨-, rfl⟩ := FdTable.openForeign_some hopen
      exact List.mem_cons_self

/-- Destroying a buffer closes what its `UniqueFd`s keep. -/
theorem boDestroy_owned {bo : Nat} (howned : s.table.Owned s.stored)
    (h : s.boDestroy bo = some s') : s'.table.Owned s'.stored := by
  simp only [boDestroy] at h
  split at h
  case h_1 => cases h
  case h_2 priv hpriv =>
    obtain rfl := Option.some.inj h
    obtain ⟨hlt, rfl⟩ := List.getElem?_eq_some_iff.mp hpriv
    -- the buffer's places come first, then those of the others
    have hperm : (s.bos[bo].stored ++ (s.bos.eraseIdx bo).flatMap BoPriv.stored).Perm s.stored :=
      (List.getElem_cons_eraseIdx_perm hlt).flatMap_right BoPriv.stored
    exact (howned.congr hperm).closeAll

/-! ## Runs -/

/-- Every descriptor of the backend is in exactly one live `UniqueFd` and was never closed twice,
none is left without buffers, and the result of `bo_get_plane_fd` belongs to its caller alone. -/
structure LinearFds (s : Buffers) : Prop where
  owned : s.table.Owned s.stored
  released : s.bos = [] → s.table.held = []
  planeFd : ∀ bo plane dup fd s', s.boGetPlaneFd bo plane dup = some (some fd, s') →
    fd ∈ s'.table.foreign ∧ fd ∉ s'.stored

theorem linearFds_of_owned (howned : s.table.Owned s.stored) : LinearFds s where
  owned := howned
  released hbos := by
    have hstored : s.stored = [] := by rw [Buffers.stored, hbos, List.flatMap_nil]
    have hperm := howned.perm
    rw [hstored, List.nil_perm] at hperm
    exact hperm
  planeFd bo plane dup fd s' h := by
    obtain ⟨howned', hforeign⟩ := boGetPlaneFd_owned howned h
    have hmem := hforeign fd rfl
    exact ⟨hmem, fun hstored => howned'.separate fd (howned'.perm.subset hstored) hmem⟩

/-- The step lemma. -/
theorem owned_next {call : BufferCall} (howned : s.table.Owned s.stored) (hone : OneOwner drv call)
    (h : (bufferMachine drv).next s call = some s') : s'.table.Owned s'.stored := by
  cases call with
  | gbmMesaBoCreate width height format useFlags env =>
    exact (owned_gbmMesaBoCreate_iff howned h).mpr hone
  | dmabufBoCreate format useFlags env => exact dmabufBoCreate_owned howned h
  | boImport empty format dups => exact boImport_owned howned h
  | boGetPlaneFd bo plane dup =>
    obtain ⟨⟨result, s''⟩, hplane, rfl⟩ := Option.map_eq_some_iff.mp h
    exact (boGetPlaneFd_owned howned hplane).1
  | boDestroy bo => exact boDestroy_owned howned h
  | callerOpen fd =>
    obtain ⟨t, hopen, rfl⟩ := Option.map_eq_some_iff.mp h
    exact howned.openForeign hopen
  | callerClose fd =>
    obtain ⟨t, hclose, rfl⟩ := Option.map_eq_some_iff.mp h
    exact howned.closeForeign hclose

/-- **Descriptors are owned linearly** in every run in which each creation by gbm_mesa ends with one
plane for its descriptor and loses none. -/
theorem linearFds_of_oneOwner {drv : DrvHelpers} {s : Buffers}
    (h : (bufferMachine drv).ReachableVia (fun _ call => OneOwner drv call) s) : LinearFds s := by
  apply linearFds_of_owned
  refine h.invariant (fun s => s.table.Owned s.stored) ?_
    fun s call s' howned hone hnext => owned_next howned hone hnext
  rintro s ⟨foreign, rfl⟩
  exact FdTable.owned_nil foreign

def drmFormatXrgb8888 : UInt32 := 0x34325258
def drmFormatNv12 : UInt32 := 0x3231564e

/-- minigbm's answers for NV12, which has two planes, and for packed formats of 32 bits. -/
def nv12Helpers : DrvHelpers where
  numPlanes format := if format = drmFormatNv12 then 2 else 1
  totalSize stride height format :=
    if format = drmFormatNv12 then (stride * height).toUInt64 * 3 / 2
    else (stride * height).toUInt64 * 4

/-- GBM allocates and returns descriptor `fd`. -/
def allocates (fd : Nat) : GbmMesaEnv where
  driverReady := true
  first := { created := true, fd := some fd, imported := true }
  second := { created := false, fd := none, imported := false }

theorem noBuffers_start (drv : DrvHelpers) : (bufferMachine drv).start {} := ⟨[], rfl⟩

/-- A buffer of one plane, its descriptor handed to the caller, a dmabuf of two planes, and the
first buffer destroyed. -/
def mixedBuffers : Buffers :=
  (((bufferMachine nv12Helpers).restrict fun _ call => OneOwner nv12Helpers call).exec {}
    [.gbmMesaBoCreate 64 64 drmFormatXrgb8888 { scanout := true } (allocates 5),
      .boGetPlaneFd 0 0 (some 6),
      .dmabufBoCreate drmFormatNv12 {} ⟨true, fun _ => some 7, fun plane => some (8 + plane)⟩,
      .boDestroy 1]).get (by decide)

theorem linearFds_of_oneOwner_mixed : mixedBuffers.stored = [8, 9] ∧ LinearFds mixedBuffers :=
  ⟨by decide, linearFds_of_oneOwner (Machine.reachableVia_of_exec (noBuffers_start nv12Helpers) _)⟩

/-- An NV12 buffer, created and destroyed. -/
def sharedBuffers : Buffers :=
  ((bufferMachine nv12Helpers).exec {}
    [.gbmMesaBoCreate 64 64 drmFormatNv12 {} (allocates 5), .boDestroy 0]).get (by decide)

/-- A buffer for software access; the import for the map stride fails in both attempts. -/
def leakedBuffers : Buffers :=
  ((bufferMachine nv12Helpers).exec {}
    [.gbmMesaBoCreate 64 64 drmFormatXrgb8888 { sw := true }
      ⟨true, ⟨true, some 5, false⟩, ⟨true, some 6, false⟩⟩]).get (by decide)

/-- The descriptor of the NV12 buffer was closed a second time; the failed creation left two open
descriptors behind, and no buffer. -/
theorem sharedBuffers_leakedBuffers_notLinear :
    ((bufferMachine nv12Helpers).Reachable sharedBuffers ∧ sharedBuffers.table.stray = [5] ∧
        ¬ LinearFds sharedBuffers) ∧
      (bufferMachine nv12Helpers).Reachable leakedBuffers ∧ leakedBuffers.bos = [] ∧
        leakedBuffers.table.held = [6, 5] ∧ ¬ LinearFds leakedBuffers := by
  refine ⟨⟨Machine.reachable_of_exec (noBuffers_start _) _, by decide, fun h => ?_⟩,
    Machine.reachable_of_exec (noBuffers_start _) _, by decide, by decide, fun h => ?_⟩
  · exact absurd h.owned.noStray (by decide)
  · exact absurd (h.released (by decide)) (by decide)

end Buffers

end GloDroid.Gralloc

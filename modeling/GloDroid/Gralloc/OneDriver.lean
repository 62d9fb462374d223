import GloDroid.Gralloc.DriverLifetime

/-!
# One Driver for All Buffers

`gbm_mesa_bo_map` and `gbm_mesa_bo_unmap` call the library of the driver in `drv->priv`, not that of
the driver that the buffer was imported with. The two are the same as long as the driver is closed
only when no buffer refers to one; then an access needs no initialisation, whatever the system would
answer to it, and leaves everything as it is (`oneDriver_of_closedLast`).

The driver is opened on nodes that depend on the call that comes first (`getOrInit_opens`).
-/

namespace GloDroid.Gralloc

open GloDroid.Base

namespace MesaState

variable {s s' : MesaState} {drv : Nat}

/-- The driver is closed when no buffer refers to one. There is no condition on other calls. -/
def ClosedLast (s : MesaState) : MesaCall → Prop
  | .driverClose => ∀ bo ∈ s.bos, bo.drv = none
  | _ => True

instance (s : MesaState) : (call : MesaCall) → Decidable (s.ClosedLast call)
  | .driverClose => inferInstanceAs (Decidable (∀ bo ∈ s.bos, bo.drv = none))
  | .boCreate .. | .boImport .. | .boDestroy _ | .boMap .. | .boUnmap .. | .otherOpen _
  | .otherClose _ => inferInstanceAs (Decidable True)

/-- Each buffer that has a driver has that of the backend. -/
def SameDriver (s : MesaState) : Prop := ∀ bo ∈ s.bos, ∀ drv, bo.drv = some drv → s.priv = some drv

@[simp] theorem dropDriver_priv : (s.dropDriver drv).priv = s.priv := by
  unfold dropDriver
  split
  split <;> rfl

@[simp] theorem dropDriver_bos : (s.dropDriver drv).bos = s.bos := by
  unfold dropDriver
  split
  split <;> rfl

/-- The driver that is found or opened is that of the backend from then on. -/
theorem SameDriver.getOrInit {mapperSphal : Bool} {env : InitEnv} {result : Option Nat}
    (h : s.SameDriver) (hget : s.gbmMesaGetOrInitDriver mapperSphal env = some (result, s')) :
    s'.SameDriver ∧ s'.priv = result ∧ s'.bos = s.bos := by
  unfold gbmMesaGetOrInitDriver at hget
  split at hget
  case h_1 drv hpriv =>
    obtain ⟨rfl, rfl⟩ := Prod.mk.inj (Option.some.inj hget)
    exact ⟨h, hpriv, rfl⟩
  case h_2 hpriv =>
    -- no buffer has a driver
    have hnone : ∀ bo ∈ s.bos, ∀ drv, bo.drv ≠ some drv := by
      intro bo hbo drv hdrv
      rw [h bo hbo drv hdrv] at hpriv
      cases hpriv
    split at hget
    case h_1 => cases hget
    case h_2 d fds hfind =>
      dsimp only at hget
      split at hget
      case h_1 =>
        obtain ⟨rfl, rfl⟩ := Prod.mk.inj (Option.some.inj hget)
        exact ⟨h, hpriv, rfl⟩
      case h_2 =>
        obtain ⟨rfl, rfl⟩ := Prod.mk.inj (Option.some.inj hget)
        exact ⟨fun bo hbo drv hdrv => absurd hdrv (hnone bo hbo drv), rfl, rfl⟩

/-- A buffer with the driver of the backend is added. -/
theorem SameDriver.cons {bo : GbmMesaBoPriv} {bos : List GbmMesaBoPriv} (h : s.SameDriver)
    (hbos : s'.bos = bo :: bos) (hsub : ∀ bo ∈ bos, bo ∈ s.bos) (hpriv : s'.priv = s.priv)
    (hdrv : ∀ drv, bo.drv = some drv → s.priv = some drv) : s'.SameDriver := by
  intro bo' hbo' drv hdrv'
  rw [hpriv]
  rw [hbos] at hbo'
  rcases List.mem_cons.mp hbo' with rfl | hmem
  · exact hdrv drv hdrv'
  · exact h bo' (hsub bo' hmem) drv hdrv'

/-- Buffers go, or stay as they are. -/
theorem SameDriver.subset (h : s.SameDriver) (hsub : ∀ bo ∈ s'.bos, bo ∈ s.bos)
    (hpriv : s'.priv = s.priv) : s'.SameDriver := by
  intro bo hbo drv hdrv
  rw [hpriv]
  exact h bo (hsub bo hbo) drv hdrv

theorem finishCreate_priv {allocated : Bool} : (s.finishCreate drv allocated).priv = s.priv := by
  cases allocated <;> simp [finishCreate]

theorem finishCreate_bos {allocated : Bool} :
    (s.finishCreate drv allocated).bos =
      if allocated then { drv := some drv } :: s.bos else s.bos := by
  cases allocated <;> simp [finishCreate]

theorem SameDriver.finishCreate {allocated : Bool} (h : s.SameDriver) (hpriv : s.priv = some drv) :
    (s.finishCreate drv allocated).SameDriver := by
  cases allocated with
  | false => exact h.subset (by simp [finishCreate_bos]) finishCreate_priv
  | true =>
    refine h.cons (by rw [finishCreate_bos]; rfl) (fun bo hbo => hbo) finishCreate_priv ?_
    rintro n ⟨⟩
    exact hpriv

theorem SameDriver.boDestroy {bo : Nat} (h : s.SameDriver)
    (hnext : s.gbmMesaBoDestroy bo = some s') : s'.SameDriver := by
  have hsub : ∀ b ∈ s.bos.eraseIdx bo, b ∈ s.bos := (List.eraseIdx_sublist s.bos bo).subset
  simp only [gbmMesaBoDestroy] at hnext
  split at hnext
  case h_1 => cases hnext
  case h_2 priv _ =>
    split at hnext
    case h_1 =>
      obtain rfl := Option.some.inj hnext
      exact h.subset hsub rfl
    case h_2 =>
      obtain rfl := Option.some.inj hnext
      exact h.subset (by rw [dropDriver_bos]; exact hsub) (dropDriver_priv ..)
    case h_3 =>
      obtain rfl := Option.some.inj hnext
      exact h.subset (by rw [dropDriver_bos]; exact hsub) (dropDriver_priv ..)
    case h_4 =>
      obtain rfl := Option.some.inj hnext
      exact h.subset hsub rfl

theorem SameDriver.boAccess {bo : Nat} {env : InitEnv} {asserted : Bool} (h : s.SameDriver)
    (hnext : s.gbmMesaBoAccess bo env asserted = some s') : s'.SameDriver := by
  simp only [gbmMesaBoAccess] at hnext
  split at hnext
  case h_1 => cases hnext
  case h_2 priv _ =>
    split at hnext
    case h_1 => cases hnext
    case h_2 s₁ hget =>
      obtain rfl := Option.some.inj hnext
      exact (h.getOrInit hget).1
    case h_3 drv s₁ hget =>
      have h₁ := (h.getOrInit hget).1
      split at hnext
      case h_1 =>
        obtain rfl := Option.some.inj hnext
        exact h₁.subset (by simp) (dropDriver_priv ..)
      case h_2 =>
        obtain rfl := Option.some.inj hnext
        exact h₁

/-- The step lemma. -/
theorem SameDriver.next {call : MesaCall} (h : s.SameDriver) (hlast : s.ClosedLast call)
    (hnext : mesaMachine.next s call = some s') : s'.SameDriver := by
  simp only [mesaMachine] at hnext
  split_ifs at hnext
  cases call with
  | boCreate camera env first second =>
    simp only [gbmMesaBoCreate] at hnext
    split at hnext
    case h_1 => cases hnext
    case h_2 s₁ hget =>
      obtain rfl := Option.some.inj hnext
      exact (h.getOrInit hget).1
    case h_3 drv s₁ hget =>
      obtain ⟨h₁, hpriv, -⟩ := h.getOrInit hget
      split_ifs at hnext
      · obtain rfl := Option.some.inj hnext
        exact (show (s₁.useDevice drv).SameDriver from h₁).finishCreate hpriv
      · obtain rfl := Option.some.inj hnext
        exact (show ((s₁.useDevice drv).useDevice drv).SameDriver from h₁).finishCreate hpriv
  | boImport empty sw env imported =>
    simp only [gbmMesaBoImport] at hnext
    split_ifs at hnext
    · obtain rfl := Option.some.inj hnext
      exact h
    · obtain rfl := Option.some.inj hnext
      exact h.cons rfl (fun bo hbo => hbo) rfl (by simp)
    split at hnext
    case h_1 => cases hnext
    case h_2 s₁ hget =>
      obtain rfl := Option.some.inj hnext
      exact (h.getOrInit hget).1
    case h_3 drv s₁ hget =>
      obtain ⟨h₁, hpriv, -⟩ := h.getOrInit hget
      -- the buffer gets the driver that the call has found
      have hdrv : ∀ n, some drv = some n → s₁.priv = some n := by
        rintro n ⟨⟩
        exact hpriv
      split at hnext
      case h_1 =>
        obtain rfl := Option.some.inj hnext
        exact h₁.cons (dropDriver_bos ..) (fun bo hbo => hbo) (dropDriver_priv ..) hdrv
      case h_2 =>
        split_ifs at hnext
        obtain rfl := Option.some.inj hnext
        exact h₁.cons (dropDriver_bos ..) (fun bo hbo => hbo) (dropDriver_priv ..) hdrv
  | boDestroy bo => exact h.boDestroy hnext
  | boMap bo env => exact h.boAccess hnext
  | boUnmap bo env vmaPriv => exact h.boAccess hnext
  | driverClose =>
    obtain rfl := Option.some.inj hnext
    -- no buffer has a driver that could differ
    intro bo hbo drv hdrv
    have hbo' : bo ∈ s.bos := by
      unfold gbmMesaDriverClose at hbo
      split at hbo
      · simpa using hbo
      · exact hbo
    rw [hlast bo hbo'] at hdrv
    cases hdrv
  | otherOpen fd =>
    obtain ⟨t, -, rfl⟩ := Option.map_eq_some_iff.mp hnext
    exact h
  | otherClose fd =>
    obtain ⟨t, -, rfl⟩ := Option.map_eq_some_iff.mp hnext
    exact h

/-- **An access to an imported buffer** finds the driver, uses it, and leaves everything as it
is. -/
theorem Sound.boAccess_eq {bo gbmBo : Nat} {priv : GbmMesaBoPriv} (env : InitEnv)
    (h : s.Sound []) (hsame : s.SameDriver) (hbo : s.bos[bo]? = some priv)
    (hgbm : priv.gbmBo = some gbmBo) : s.gbmMesaBoAccess bo env true = some s := by
  have hmem : priv ∈ s.bos := List.mem_of_getElem? hbo
  obtain ⟨drv, hdrv⟩ := Option.isSome_iff_exists.mp (h.drvOfBo priv hmem (by simp [hgbm]))
  have hpriv : s.priv = some drv := hsame priv hmem drv hdrv
  have howner : drv ∈ [] ++ s.owners := mem_driverOwners_of_bo hmem hdrv
  have hlibrary : s.ledger.use (.library drv) = s.ledger :=
    h.records.use_eq (mem_heldEntries_library.mpr ⟨howner, rfl⟩)
  have hbuffer : s.ledger.use (.bo gbmBo) = s.ledger :=
    h.records.use_eq (mem_heldEntries_bo.mpr ⟨priv, hmem, hgbm, drv, hdrv, rfl⟩)
  have hget : s.gbmMesaGetOrInitDriver true env =
      some (some drv, { s with drivers := s.drivers.copy drv }) := by
    rw [gbmMesaGetOrInitDriver, hpriv]
  -- the pointer that the call gets goes with it
  have hdrop : ({ s with drivers := s.drivers.copy drv } : MesaState).dropDriver drv = s := by
    simp only [MesaState.dropDriver, SharedHeap.release_copy (h.counts.pos_iff.mpr howner)]
  have huse : (s.world.use (.library drv)).use (.bo gbmBo) = s.world := by
    have hworld : s.world.ledger = s.ledger := rfl
    simp only [GbmWorld.use, hworld, hlibrary, hbuffer]
    rfl
  simp only [gbmMesaBoAccess, hbo, hget, hgbm]
  exact congrArg some ((congrArg (fun w => (({ s with drivers := s.drivers.copy drv } :
    MesaState).withWorld w).dropDriver drv) huse).trans hdrop)

/-- There is no device but that of the driver of the backend, each buffer that has a driver has that
one, and imported buffers can be accessed without another initialisation. -/
structure OneDriver (s : MesaState) : Prop where
  device : ∀ drv, s.ledger.isLive (.device drv) = true → s.priv = some drv
  bos : s.SameDriver
  access : ∀ bo priv gbmBo env, s.bos[bo]? = some priv → priv.gbmBo = some gbmBo →
    s.gbmMesaBoMap bo env = some s ∧ s.gbmMesaBoUnmap bo env true = some s

/-- **All buffers share one driver** in every run in which the driver is closed only when no buffer
refers to one, until the process crashes. -/
theorem oneDriver_of_closedLast {s : MesaState} (h : mesaMachine.ReachableVia ClosedLast s)
    (hcrashed : s.crashed = false) : OneDriver s := by
  have hsame : s.SameDriver := by
    refine h.invariant SameDriver ?_ fun s call s' hs hlast hnext => hs.next hlast hnext
    rintro s ⟨foreign, rfl⟩ bo hbo
    cases hbo
  obtain ⟨pending, hsound, hpending⟩ := sound_of_reachable h.reachable
  rw [hpending hcrashed] at hsound
  refine ⟨fun drv hlive => ?_, hsame, fun bo priv gbmBo env hbo hgbm => ?_⟩
  · -- a live device has an owner: the backend, or a buffer with the backend's driver
    obtain ⟨on, hmem⟩ := hsound.records.isLive_iff.mp hlive
    rcases List.mem_append.mp (show drv ∈ driverOwners s.priv s.bos from hmem.1) with hpriv | hbo
    · exact Option.mem_toList.mp hpriv
    · obtain ⟨bo, hbo, hdrv⟩ := List.mem_filterMap.mp hbo
      exact hsame bo hbo drv hdrv
  · have haccess := Sound.boAccess_eq env hsound hsame hbo hgbm
    exact ⟨haccess, haccess⟩

/-- A process that imports, maps, closes the last buffer, and only then the driver. -/
def tidyState : MesaState :=
  ((mesaMachine.restrict ClosedLast).exec {}
    [.boImport true true (limaEnv 5 6) (some 40), .boMap 0 (limaEnv 5 6), .boDestroy 0,
      .driverClose, .boCreate true (limaEnv 7 8) true false,
      .boImport true true (limaEnv 5 6) (some 40)]).get (by decide)

theorem oneDriver_of_closedLast_tidy :
    tidyState.crashed = false ∧ tidyState.priv = some 1 ∧ OneDriver tidyState :=
  ⟨by decide, by decide,
    oneDriver_of_closedLast (Machine.reachableVia_of_exec noDriver_start _) (by decide)⟩

end MesaState

/-! ## The nodes of a driver -/

section Nodes

open DrmNode

variable {env : InitEnv} {mapperSphal : Bool} {drv : Nat}

/-- The render node that the probe keeps. -/
def gpuNode (env : InitEnv) : Option Nat := (picked ((env.glob false).getD [])).bind DrmNode.fd

/-- The node that the device is created on: the first KMS node for an allocator on a GPU with a
separate display controller, otherwise the render node again. -/
def gbmNode (mapperSphal : Bool) (env : InitEnv) : Option Nat :=
  if (opened ((env.glob false).getD [])).any isSeparateDc && !mapperSphal then
    ((opened ((env.glob true).getD [])).find? DrmNode.isKms).bind DrmNode.fd
  else if (gpuNode env).isSome then env.dup
  else none

theorem isSeparateDcGpu_fst {f f' : ProbeFds} {answer : Bool} {gpuNodeFd : UniqueFd}
    (h : isSeparateDcGpu env.glob none f = some (answer, gpuNodeFd, f')) :
    answer = (opened ((env.glob false).getD [])).any isSeparateDc ∧ gpuNodeFd = gpuNode env := by
  unfold isSeparateDcGpu openDrmDev at h
  cases hglob : env.glob false with
  | none =>
    simp only [hglob, Option.some.injEq, Prod.mk.injEq] at h
    obtain ⟨rfl, rfl, -⟩ := h
    simp [gpuNode, hglob, opened, picked]
  | some nodes =>
    cases hloop : openNodes foundGpu nodes ({}, f) with
    | none => simp [hglob, hloop] at h
    | some end' =>
      obtain ⟨probe, f''⟩ := end'
      simp only [hglob, hloop, Option.map_some, Option.some.injEq, Prod.mk.injEq] at h
      obtain ⟨rfl, rfl, -⟩ := h
      have hpicked := openNodes_foundGpu (s := {}) rfl hloop
      simpa [gpuNode, hglob] using hpicked

theorem openDrmDev_fst {f f' : ProbeFds} {result : Int} {gbmNodeFd : UniqueFd}
    (h : openDrmDev env.glob true foundKms (none, f) = some (result, gbmNodeFd, f')) :
    gbmNodeFd = ((opened ((env.glob true).getD [])).find? DrmNode.isKms).bind DrmNode.fd := by
  unfold openDrmDev at h
  cases hglob : env.glob true with
  | none =>
    simp only [hglob, Option.some.injEq, Prod.mk.injEq] at h
    obtain ⟨-, rfl, -⟩ := h
    simp [opened]
  | some nodes =>
    simp only [hglob, Option.map_eq_some_iff, Prod.mk.injEq] at h
    obtain ⟨end', hloop, -, rfl⟩ := h
    simpa using openNodes_foundKms (u := none) hloop

theorem findNodes_fst {f f' : ProbeFds} {d : GbmMesaDriver}
    (h : GbmMesaDriver.findNodes mapperSphal env f = some (d, f')) :
    d.gpuNodeFd = gpuNode env ∧ d.gbmNodeFd = gbmNode mapperSphal env := by
  unfold GbmMesaDriver.findNodes at h
  split at h
  case h_1 => cases h
  case h_2 lookForKms gpuNodeFd f₁ hgpu =>
    obtain ⟨rfl, rfl⟩ := isSeparateDcGpu_fst hgpu
    unfold gbmNode
    -- the allocator looks for a KMS node only beside a separate display controller
    by_cases hkms : ((opened ((env.glob false).getD [])).any isSeparateDc && !mapperSphal) = true
    · rw [if_pos hkms] at h ⊢
      split at h
      case h_1 => cases h
      case h_2 result gbmNodeFd f₂ hsearch =>
        obtain ⟨rfl, -⟩ := Prod.mk.inj (Option.some.inj h)
        exact ⟨rfl, openDrmDev_fst hsearch⟩
    · rw [if_neg hkms] at h ⊢
      dsimp only at h
      generalize (if (gpuNode env).isSome then env.dup else none) = gbmNodeFd at h ⊢
      split at h
      case h_1 => cases h
      case h_2 t hopen =>
        obtain ⟨rfl, -⟩ := Prod.mk.inj (Option.some.inj h)
        exact ⟨rfl, rfl⟩

/-- What loading needs of the system. -/
def InitEnv.loads (env : InitEnv) : Bool :=
  env.dlopen && env.dlsym && env.getGbmOps && env.devCreate

theorem load_fst (d : GbmMesaDriver) (drv : Nat) (env : InitEnv) (w : GbmWorld) :
    (d.load drv env w).1 = (d.gbmNodeFd.isSome && env.loads) := by
  unfold GbmMesaDriver.load InitEnv.loads
  cases hnode : d.gbmNodeFd with
  | none => rfl
  | some fd =>
    cases env.dlopen <;> cases env.dlsym <;> cases env.getGbmOps <;> cases env.devCreate <;>
      simp

theorem load_nodes {d d' : GbmMesaDriver} {w w' : GbmWorld} {ok : Bool}
    (h : d.load drv env w = (ok, d', w')) :
    d'.gbmNodeFd = d.gbmNodeFd ∧ d'.gpuNodeFd = d.gpuNodeFd := by
  simp only [GbmMesaDriver.load] at h
  split_ifs at h <;> obtain ⟨-, rfl, -⟩ := h <;> exact ⟨rfl, rfl⟩

end Nodes

namespace MesaState

/-- **A driver is opened** if there is a node for it and the library and the device answer. It is on
the nodes that depend on the call; the process then has the descriptors of these nodes beside those
it had before, and just those it had before if no driver is opened. -/
theorem getOrInit_opens {s s' : MesaState} {mapperSphal : Bool} {env : InitEnv}
    {result : Option Nat} (h : mesaMachine.Reachable s) (hcrashed : s.crashed = false)
    (hpriv : s.priv = none)
    (hget : s.gbmMesaGetOrInitDriver mapperSphal env = some (result, s')) :
    (result.isSome = ((gbmNode mapperSphal env).isSome && env.loads)) ∧
      s'.table.held.Perm ((if result.isSome then (gbmNode mapperSphal env).toList ++
        (gpuNode env).toList else []) ++ s.table.held) ∧
      ∀ drv, result = some drv → (s'.drivers.get? drv).map (fun d => (d.gbmNodeFd, d.gpuNodeFd)) =
        some (gbmNode mapperSphal env, gpuNode env) := by
  obtain ⟨pending, hsound, hpending⟩ := sound_of_reachable h
  rw [hpending hcrashed] at hsound
  have hsound' := (hsound.getOrInit hget).1
  unfold gbmMesaGetOrInitDriver at hget
  simp only [hpriv] at hget
  split at hget
  case h_1 => cases hget
  case h_2 d fds hfind =>
    obtain ⟨hgpu, hgbm⟩ := findNodes_fst hfind
    have hold : (s.drivers.contents GbmMesaDriver.fds).Perm s.table.held := hsound.owned.perm
    have hloaded := load_fst d s.drivers.next env { fds, ledger := s.ledger }
    rw [hgbm] at hloaded
    split at hget
    case h_1 d' w hload =>
      obtain ⟨rfl, rfl⟩ := Prod.mk.inj (Option.some.inj hget)
      have hfst : false = ((gbmNode mapperSphal env).isSome && env.loads) := by
        rw [← hloaded, show s.ledger = s.world.ledger from rfl, hload]
      exact ⟨hfst, hsound'.owned.perm.symm.trans hold, by simp⟩
    case h_2 d' w hload =>
      obtain ⟨rfl, rfl⟩ := Prod.mk.inj (Option.some.inj hget)
      have hfst : true = ((gbmNode mapperSphal env).isSome && env.loads) := by
        rw [← hloaded, show s.ledger = s.world.ledger from rfl, hload]
      have hnodes := load_nodes hload
      have hget' : ((s.drivers.make d').copy s.drivers.next).get? s.drivers.next = some d' := by
        simp [SharedHeap.get?_make]
      refine ⟨hfst, ?_, ?_⟩
      · -- the descriptors of the new driver come last
        have hpos : 0 < (s.drivers.make d').useCount s.drivers.next := by
          simp [SharedHeap.useCount_make]
        have hnew := hsound'.owned.perm
        rw [withWorld_drivers, SharedHeap.contents_copy hpos, SharedHeap.contents_make,
          GbmMesaDriver.fds, hnodes.1, hnodes.2, hgbm, hgpu] at hnew
        exact (hnew.symm.trans List.perm_append_comm).trans (hold.append_left _)
      · rintro drv ⟨⟩
        rw [withWorld_drivers, hget', Option.map_some, hnodes.1, hnodes.2, hgbm, hgpu]

/-- The driver is opened for an allocator. -/
def limaState : MesaState :=
  ((({} : MesaState).gbmMesaGetOrInitDriver false (limaEnv 5 6)).get (by decide)).2

theorem getOrInit_opens_lima :
    (some 0).isSome = ((gbmNode false (limaEnv 5 6)).isSome && (limaEnv 5 6).loads) ∧
      limaState.table.held.Perm ([6] ++ [5] ++ []) ∧
      (limaState.drivers.get? 0).map (fun d => (d.gbmNodeFd, d.gpuNodeFd)) =
        some (some 6, some 5) := by
  have hget : ({} : MesaState).gbmMesaGetOrInitDriver false (limaEnv 5 6) =
      some (some 0, limaState) := by decide
  obtain ⟨hsome, hheld, hnodes⟩ := getOrInit_opens (.start noDriver_start) rfl rfl hget
  exact ⟨hsome, hheld, hnodes 0 rfl⟩

end MesaState

end GloDroid.Gralloc

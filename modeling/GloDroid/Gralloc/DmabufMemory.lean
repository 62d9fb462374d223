import GloDroid.Gralloc.DmabufDriver
import GloDroid.Gralloc.LinearFds

/-!
# Where the Memory of a Buffer Comes From

In every run of the dmabuf-heap backend

- the descriptors it holds are those of its heaps and of the planes of its buffers, each in one
  place (`dmabuf_descriptors`);
- the planes of a buffer refer to files with the inodes that minigbm counts them by, and those of a
  buffer that was created to one dmabuf from the heap its use flags ask for, or from the system heap
  if there is no such heap (`dmabuf_memory`).
-/

namespace GloDroid.Gralloc

open GloDroid.Base

/-! ## Invariants -/

/-- The heaps whose descriptors may stand for a heap. -/
abbrev Serves := Heap → Heap → Prop

/-- The answers for the heaps lead to descriptors of these heaps only. -/
structure DmabufInitEnv.Admits (serves : Serves) (env : DmabufInitEnv) : Prop where
  opened : ∀ h, (env.openHeap h).isSome = true → serves h h
  missing : ∀ h, env.openHeap h = none → serves h .system

/-- The descriptors of the driver refer to the heaps they stand for. -/
def DmabufDriver.Ok (serves : Serves) (t : OpenFiles DmabufFile) (d : DmabufDriver) : Prop :=
  ∀ h, ∀ n ∈ d.heapFd h, ∃ h', t.file n = some (.heap h') ∧ serves h h'

/-- The planes of a buffer refer to what minigbm takes them for. -/
structure DmabufBo.Ok (serves : Serves) (stIno : DmabufFile → UInt64) (t : OpenFiles DmabufFile)
    (bo : DmabufBo) : Prop where
  length : bo.inodes.length = bo.fds.length
  inodes : ∀ plane n : Nat, bo.fds[plane]? = some (some n) →
    ∃ f, t.file n = some f ∧ bo.inodes[plane]? = some (stIno f).toUInt32
  created : bo.imported = false → ∃ h id, serves (heapOf bo.useFlags) h ∧
    ∀ n ∈ bo.stored, t.file n = some (.dmabuf h id)

/-- Every place owns its descriptor, and every descriptor refers to what it should. -/
structure DmabufState.Ok (serves : Serves) (stIno : DmabufFile → UInt64) (s : DmabufState) :
    Prop where
  owned : s.files.Owned s.stored
  driver : ∀ d ∈ s.priv, d.Ok serves s.files
  bos : ∀ bo ∈ s.bos, bo.Ok serves stIno s.files

variable {drv : DrvHelpers} {stIno : DmabufFile → UInt64} {serves : Serves}
variable {t t' : OpenFiles DmabufFile} {stored : List Nat}

theorem DmabufDriver.mem_stored {d : DmabufDriver} {h : Heap} {n : Nat} (hn : n ∈ d.heapFd h) :
    n ∈ d.stored := by
  cases h <;> simp_all [heapFd, DmabufDriver.stored]

theorem DmabufBo.mem_stored {bo : DmabufBo} {plane n : Nat}
    (hn : bo.fds[plane]? = some (some n)) : n ∈ bo.stored :=
  List.mem_filterMap.mpr ⟨some n, List.mem_of_getElem? hn, rfl⟩

theorem DmabufDriver.Ok.keeps {d : DmabufDriver} (h : d.Ok serves t)
    (hkeeps : OpenFiles.KeepsFiles {n | n ∈ d.stored} t t') : d.Ok serves t' := by
  intro heap n hn
  obtain ⟨heap', hfile, hserves⟩ := h heap n hn
  exact ⟨heap', hkeeps n (d.mem_stored hn) _ hfile, hserves⟩

theorem DmabufBo.Ok.keeps {bo : DmabufBo} (h : bo.Ok serves stIno t)
    (hkeeps : OpenFiles.KeepsFiles {n | n ∈ bo.stored} t t') : bo.Ok serves stIno t' where
  length := h.length
  inodes plane n hn := by
    obtain ⟨f, hfile, hinode⟩ := h.inodes plane n hn
    exact ⟨f, hkeeps n (bo.mem_stored hn) f hfile, hinode⟩
  created himported := by
    obtain ⟨heap, id, hserves, hfiles⟩ := h.created himported
    exact ⟨heap, id, hserves, fun n hn => hkeeps n hn _ (hfiles n hn)⟩

namespace DmabufState

variable {s s' : DmabufState}

theorem mem_stored_of_priv {d : DmabufDriver} (hd : d ∈ s.priv) {n : Nat} (hn : n ∈ d.stored) :
    n ∈ s.stored := by
  rw [stored, Option.mem_def.mp hd]
  exact List.mem_append_left _ hn

theorem mem_stored_of_bo {bo : DmabufBo} (hbo : bo ∈ s.bos) {n : Nat} (hn : n ∈ bo.stored) :
    n ∈ s.stored :=
  List.mem_append_right _ (List.mem_flatMap.mpr ⟨bo, hbo, hn⟩)

/-- The same places own what they owned, and go on referring to it. -/
theorem Ok.keeps {files : OpenFiles DmabufFile} (h : s.Ok serves stIno)
    (howned : files.Owned s.stored)
    (hkeeps : OpenFiles.KeepsFiles {n | n ∈ s.stored} s.files files) :
    Ok serves stIno { s with files } where
  owned := howned
  driver d hd := (h.driver d hd).keeps (hkeeps.mono fun _ hn => mem_stored_of_priv hd hn)
  bos bo hbo := (h.bos bo hbo).keeps (hkeeps.mono fun _ hn => mem_stored_of_bo hbo hn)

/-! ## The driver -/

theorem openOrDup_ok {env : DmabufInitEnv} {h : Heap} {system : Nat} {u : UniqueFd}
    (howned : t.Owned stored) (hsystem : t.file system = some (.heap .system))
    (henv : env.Admits serves) (hopen : openOrDup env h system t = some (u, t')) :
    t'.Owned (u.toList ++ stored) ∧ OpenFiles.KeepsFiles Set.univ t t' ∧
      ∀ n ∈ u, ∃ h', t'.file n = some (.heap h') ∧ serves h h' := by
  unfold openOrDup at hopen
  split at hopen
  case h_1 fd hfd =>
    obtain ⟨t₁, ht₁, heq⟩ := Option.map_eq_some_iff.mp hopen
    obtain ⟨rfl, rfl⟩ := Prod.mk.inj heq
    obtain ⟨howned', hkeeps, hfile⟩ := howned.openFd ht₁
    exact ⟨howned', hkeeps, fun n hn => ⟨h, hfile n hn, henv.opened h (by rw [hfd]; rfl)⟩⟩
  case h_2 hnone =>
    obtain ⟨howned', hkeeps, hfile⟩ := howned.dup hopen
    refine ⟨howned', hkeeps, fun n hn => ?_⟩
    obtain ⟨f, hf, hn⟩ := hfile n hn
    obtain rfl : DmabufFile.heap .system = f := Option.some.inj (hsystem.symm.trans hf)
    exact ⟨.system, hn, henv.missing h hnone⟩

/-- The driver is opened with the first call that finds a system heap, and found later. -/
theorem Ok.getOrInit {env : DmabufInitEnv} {d : Option DmabufDriver} (h : s.Ok serves stIno)
    (henv : env.Admits serves) (hinit : s.dmabufGetOrInitDriver env = some (d, s')) :
    s'.Ok serves stIno ∧ s'.priv = d := by
  unfold dmabufGetOrInitDriver at hinit
  split at hinit
  case h_1 d' hpriv =>
    obtain ⟨rfl, rfl⟩ := Prod.mk.inj (Option.some.inj hinit)
    exact ⟨h, hpriv⟩
  case h_2 hpriv =>
    split at hinit
    case h_1 =>
      obtain ⟨rfl, rfl⟩ := Prod.mk.inj (Option.some.inj hinit)
      exact ⟨h, hpriv⟩
    case h_2 system hsystem =>
      simp only [Option.bind_eq_bind, Option.bind_eq_some_iff, Option.some.injEq, Prod.mk.injEq,
        Prod.exists] at hinit
      obtain ⟨t₁, h₁, uncached, t₂, h₂, cma, t₃, h₃, rfl, rfl⟩ := hinit
      have hstored : s.stored = s.bos.flatMap DmabufBo.stored := by rw [stored, hpriv]; rfl
      -- one descriptor after the other; the first one stays that of the system heap
      have howned := h.owned
      rw [hstored] at howned
      obtain ⟨howned₁, hkeeps₁, hfile₁⟩ := howned.openFd h₁
      have hsys₁ : t₁.file system = some (.heap .system) := hfile₁ system rfl
      obtain ⟨howned₂, hkeeps₂, hfile₂⟩ := openOrDup_ok howned₁ hsys₁ henv h₂
      have hsys₂ := hkeeps₂ system (Set.mem_univ _) _ hsys₁
      obtain ⟨howned₃, hkeeps₃, hfile₃⟩ := openOrDup_ok howned₂ hsys₂ henv h₃
      refine ⟨⟨?_, ?_, ?_⟩, rfl⟩
      · -- the places of the new driver are those of the three descriptors
        refine howned₃.congr (List.Perm.of_eq ?_)
        simp [stored, DmabufDriver.stored]
      · intro d hd heap n hn
        obtain rfl := Option.some.inj hd
        cases heap with
        | system =>
          obtain rfl := Option.some.inj hn
          exact ⟨.system, hkeeps₃ _ (Set.mem_univ _) _ hsys₂,
            henv.opened .system (by rw [hsystem]; rfl)⟩
        | systemUncached =>
          obtain ⟨heap', hfile, hserves⟩ := hfile₂ n hn
          exact ⟨heap', hkeeps₃ n (Set.mem_univ _) _ hfile, hserves⟩
        | cma => exact hfile₃ n hn
      · intro bo hbo
        have hkeeps := (hkeeps₁.trans hkeeps₂).trans hkeeps₃
        exact (h.bos bo hbo).keeps (hkeeps.mono (Set.subset_univ _))

/-- `dmabuf_driver_close`: the heaps are closed, and nothing else. -/
theorem Ok.driverClose (h : s.Ok serves stIno) : s.dmabufDriverClose.Ok serves stIno := by
  unfold dmabufDriverClose
  split
  case h_1 d hpriv =>
    have howned := h.owned
    rw [stored, hpriv] at howned
    obtain ⟨howned', hkeeps⟩ := OpenFiles.Owned.closeAll howned
    refine ⟨howned', fun d hd => ?_, fun bo hbo => ?_⟩
    · cases hd
    · apply (h.bos bo hbo).keeps
      exact hkeeps.mono fun n hn => List.mem_flatMap.mpr ⟨bo, hbo, hn⟩
  case h_2 => exact h

/-! ## Buffers -/

/-- The duplicates have to be kept, and refer to the files of their originals. -/
theorem dupPlanes_ok {src answers : Nat → Option Nat} {planes : List Nat} {fds : List UniqueFd}
    (howned : t.Owned stored) (hdup : dupPlanes src answers planes t = some (fds, t')) :
    t'.Owned (fds.filterMap id ++ stored) ∧ OpenFiles.KeepsFiles Set.univ t t' ∧
      fds.length = planes.length ∧ ∀ k n : Nat, fds[k]? = some (some n) →
        ∃ plane f, planes[k]? = some plane ∧ t'.fileOf (src plane) = some f ∧
          t'.file n = some f := by
  induction planes generalizing t fds stored with
  | nil =>
    obtain ⟨rfl, rfl⟩ := Prod.mk.inj (Option.some.inj hdup)
    exact ⟨howned, OpenFiles.KeepsFiles.refl _ _, rfl, fun k n hk => by simp at hk⟩
  | cons plane planes ih =>
    simp only [dupPlanes, Option.bind_eq_bind, Option.bind_eq_some_iff, Option.some.injEq,
      Prod.mk.injEq, Prod.exists] at hdup
    obtain ⟨fd, t₁, hfirst, rest, t₂, hrest, rfl, rfl⟩ := hdup
    obtain ⟨howned₁, hkeeps₁, hfile₁⟩ := howned.dup hfirst
    obtain ⟨howned₂, hkeeps₂, hlength, hfiles⟩ := ih howned₁ hrest
    -- the first duplicate goes on referring to its file while the others are made
    refine ⟨?_, hkeeps₁.trans hkeeps₂, by simp [hlength], fun k n hk => ?_⟩
    · refine howned₂.congr ?_
      cases fd with
      | none => exact List.Perm.refl _
      | some fd => exact List.perm_middle.symm
    · cases k with
      | zero =>
        obtain ⟨f, hsrc, hn⟩ := hfile₁ n (Option.some.inj hk)
        exact ⟨plane, f, rfl, (hkeeps₁.trans hkeeps₂).fileOf hsrc,
          hkeeps₂ n (Set.mem_univ _) f hn⟩
      | succ k => exact hfiles k n hk

/-- A buffer is added, with places that were free before. -/
theorem Ok.addBo {files : OpenFiles DmabufFile} {bo : DmabufBo} (h : s.Ok serves stIno)
    (howned : files.Owned (bo.stored ++ s.stored))
    (hkeeps : OpenFiles.KeepsFiles {n | n ∈ s.stored} s.files files)
    (hbo : bo.Ok serves stIno files) :
    Ok serves stIno { s with files, bos := bo :: s.bos } where
  owned := by
    refine howned.congr ?_
    rw [stored, stored, List.flatMap_cons, ← List.append_assoc, ← List.append_assoc]
    exact List.perm_append_comm.append_right _
  driver d hd := (h.driver d hd).keeps (hkeeps.mono fun _ hn => mem_stored_of_priv (s := s) hd hn)
  bos bo' hbo' := by
    rcases List.mem_cons.mp hbo' with rfl | hbo'
    · exact hbo
    · exact (h.bos bo' hbo').keeps (hkeeps.mono fun _ hn => mem_stored_of_bo (s := s) hbo' hn)

theorem Ok.boCreate {format : UInt32} {useFlags : UseFlags} {env : CreateEnv} {ret : Int}
    (h : s.Ok serves stIno) (henv : env.init.Admits serves)
    (hstep : s.dmabufBoCreate drv stIno format useFlags env = some (ret, s')) :
    s'.Ok serves stIno := by
  simp only [dmabufBoCreate, Option.bind_eq_bind, Option.bind_eq_some_iff, Prod.exists] at hstep
  obtain ⟨d, s₁, hinit, hstep⟩ := hstep
  obtain ⟨h₁, hpriv⟩ := h.getOrInit henv hinit
  split at hstep
  case h_1 =>
    obtain ⟨-, rfl⟩ := Prod.mk.inj (Option.some.inj hstep)
    exact h₁
  case h_2 d =>
    split at hstep
    case h_2 =>
      obtain ⟨-, rfl⟩ := Prod.mk.inj (Option.some.inj hstep)
      exact h₁
    case h_1 heap fd dmabuf hheap halloc =>
      simp only [Option.bind_eq_some_iff, Option.some.injEq, Prod.mk.injEq, Prod.exists] at hstep
      obtain ⟨t₁, hopen, fds, t₂, hdups, -, rfl⟩ := hstep
      -- the heap that the descriptor refers to
      obtain ⟨n, hn⟩ : ∃ n, d.heapFd (heapOf useFlags) = some n := by
        cases hfd : d.heapFd (heapOf useFlags) with
        | none => simp [hfd, OpenFiles.fileOf] at hheap
        | some n => exact ⟨n, rfl⟩
      obtain ⟨heap', hfile, hserves⟩ := h₁.driver d hpriv _ n hn
      obtain rfl : heap = heap' := by
        rw [hn] at hheap
        exact DmabufFile.heap.inj (Option.some.inj (hheap.symm.trans hfile))
      obtain ⟨howned₁, hkeeps₁, hfile₁⟩ := h₁.owned.openFd hopen
      have hbuf : t₁.file fd = some (.dmabuf heap dmabuf) := hfile₁ fd rfl
      obtain ⟨howned₂, hkeeps₂, hlength, hfiles⟩ := dupPlanes_ok howned₁ hdups
      -- `buf_fd` is closed, its duplicates go on referring to the dmabuf
      have hbuf₂ : t₂.file fd = some (.dmabuf heap dmabuf) := hkeeps₂ fd (Set.mem_univ _) _ hbuf
      have hplaces : t₂.Owned (fd :: (fds.filterMap id ++ s₁.stored)) :=
        howned₂.congr List.perm_middle.symm
      obtain ⟨howned, hkeeps⟩ := hplaces.close
      have hplane : ∀ n ∈ fds.filterMap id, (t₂.close fd).file n = some (.dmabuf heap dmabuf) := by
        intro n hn
        obtain ⟨k, hk⟩ := List.mem_iff_getElem?.mp (show some n ∈ fds by simpa using hn)
        obtain ⟨-, f, -, hsrc, hfile⟩ := hfiles k n hk
        obtain rfl : DmabufFile.dmabuf heap dmabuf = f := Option.some.inj (hbuf₂.symm.trans hsrc)
        exact hkeeps n (List.mem_append_left _ hn) _ hfile
      refine h₁.addBo howned ?_ ⟨by simp [hlength], fun plane n hn => ?_, fun _ => ?_⟩
      · exact (hkeeps₁.trans hkeeps₂ |>.mono (Set.subset_univ _)).trans
          (hkeeps.mono fun n hn => List.mem_append_right _ hn)
      · -- the inode was taken from `buf_fd`, whose file is that of the plane
        have hmem : n ∈ fds.filterMap id :=
          List.mem_filterMap.mpr ⟨some n, List.mem_of_getElem? hn, rfl⟩
        refine ⟨_, hplane n hmem, ?_⟩
        have hlt : plane < drv.numPlanes format := by
          have hlt := (List.getElem?_eq_some_iff.mp hn).1
          simpa [hlength] using hlt
        have hinode : drvGetInode stIno t₁ (some fd) = (stIno (.dmabuf heap dmabuf)).toUInt32 := by
          simp [drvGetInode, OpenFiles.fileOf, hbuf]
        simp [hlt, hinode]
      · exact ⟨heap, dmabuf, hserves, hplane⟩

theorem Ok.boImport {empty : Bool} {format : UInt32} {useFlags : UseFlags}
    {fds dups : Nat → Option Nat} {ret : Int} (h : s.Ok serves stIno)
    (hstep : s.dmabufBoImport drv stIno empty format useFlags fds dups = some (ret, s')) :
    s'.Ok serves stIno := by
  unfold dmabufBoImport at hstep
  split_ifs at hstep
  · obtain ⟨-, rfl⟩ := Prod.mk.inj (Option.some.inj hstep)
    exact h
  · simp only [Option.bind_eq_bind, Option.bind_eq_some_iff, Option.some.injEq, Prod.mk.injEq,
      Prod.exists] at hstep
    obtain ⟨own, t, hdups, -, rfl⟩ := hstep
    obtain ⟨howned, hkeeps, hlength, hfiles⟩ := dupPlanes_ok h.owned hdups
    -- minigbm takes the inodes from the caller's descriptors, of which these are duplicates
    refine h.addBo howned (hkeeps.mono (Set.subset_univ _))
      ⟨by simp [hlength], fun plane n hn => ?_, fun himported => by cases himported⟩
    obtain ⟨plane', f, hplane, hsrc, hfile⟩ := hfiles plane n hn
    refine ⟨f, hfile, ?_⟩
    rw [List.getElem?_map, hplane, Option.map_some, drvGetInode, hsrc]

theorem Ok.boDestroy {bo : Nat} (h : s.Ok serves stIno) (hstep : s.dmabufBoDestroy bo = some s') :
    s'.Ok serves stIno := by
  simp only [dmabufBoDestroy, Option.bind_eq_bind, Option.bind_eq_some_iff,
    Option.some.injEq] at hstep
  obtain ⟨priv, hbo, rfl⟩ := hstep
  obtain ⟨hlt, rfl⟩ := List.getElem?_eq_some_iff.mp hbo
  -- the buffer's places come first, then those of the others
  have hbos : (s.bos[bo].stored ++ (s.bos.eraseIdx bo).flatMap DmabufBo.stored).Perm
      (s.bos.flatMap DmabufBo.stored) :=
    (List.getElem_cons_eraseIdx_perm hlt).flatMap_right DmabufBo.stored
  have hperm : (s.bos[bo].stored ++ (s.priv.elim [] DmabufDriver.stored ++
      (s.bos.eraseIdx bo).flatMap DmabufBo.stored)).Perm s.stored :=
    (List.perm_append_comm_assoc _ _ _).trans (hbos.append_left _)
  obtain ⟨howned, hkeeps⟩ := (h.owned.congr hperm).closeAll
  refine ⟨howned, fun d hd => ?_, fun bo' hbo' => ?_⟩
  · apply (h.driver d hd).keeps
    refine hkeeps.mono fun n hn => List.mem_append_left _ ?_
    rw [Option.mem_def.mp hd]
    exact hn
  · apply (h.bos bo' (List.mem_of_mem_eraseIdx hbo')).keeps
    exact hkeeps.mono fun n hn =>
      List.mem_append_right _ (List.mem_flatMap.mpr ⟨bo', hbo', hn⟩)

theorem Ok.boGetPlaneFd {bo plane : Nat} {answer fd : Option Nat} (h : s.Ok serves stIno)
    (hstep : s.dmabufBoGetPlaneFd bo plane answer = some (fd, s')) : s'.Ok serves stIno := by
  simp only [dmabufBoGetPlaneFd, Option.bind_eq_bind, Option.bind_eq_some_iff, Option.some.injEq,
    Prod.mk.injEq, Prod.exists] at hstep
  obtain ⟨priv, -, fd', t, hdup, -, rfl⟩ := hstep
  obtain ⟨howned, hkeeps, -⟩ := h.owned.dupForeign hdup
  exact h.keeps howned (hkeeps.mono (Set.subset_univ _))

end DmabufState

/-! ## Runs -/

/-- The heaps that a creation may open the driver with. -/
def DmabufCall.Admits (serves : Serves) : DmabufCall → Prop
  | .boCreate _ _ env => env.init.Admits serves
  | _ => True

/-- The step lemma. -/
theorem DmabufState.Ok.next {s s' : DmabufState} {call : DmabufCall} (h : s.Ok serves stIno)
    (hcall : call.Admits serves) (hnext : (dmabufMachine drv stIno).next s call = some s') :
    s'.Ok serves stIno := by
  cases call with
  | boCreate format useFlags env =>
    obtain ⟨⟨ret, s₁⟩, hstep, rfl⟩ := Option.map_eq_some_iff.mp hnext
    exact h.boCreate hcall hstep
  | boImport empty format useFlags fds dups =>
    obtain ⟨⟨ret, s₁⟩, hstep, rfl⟩ := Option.map_eq_some_iff.mp hnext
    exact h.boImport hstep
  | boGetPlaneFd bo plane answer =>
    obtain ⟨⟨fd, s₁⟩, hstep, rfl⟩ := Option.map_eq_some_iff.mp hnext
    exact h.boGetPlaneFd hstep
  | boDestroy bo => exact h.boDestroy hnext
  | driverClose =>
    obtain rfl := Option.some.inj hnext
    exact h.driverClose
  | callerOpen fd file =>
    obtain ⟨t, hopen, rfl⟩ := Option.map_eq_some_iff.mp hnext
    obtain ⟨howned, hkeeps, -⟩ := h.owned.openForeign hopen
    exact h.keeps howned (hkeeps.mono (Set.subset_univ _))
  | callerClose fd =>
    obtain ⟨t, hclose, rfl⟩ := Option.map_eq_some_iff.mp hnext
    obtain ⟨howned, hkeeps⟩ := h.owned.closeForeign hclose
    exact h.keeps howned hkeeps

theorem dmabufOk_of_reachableVia {s : DmabufState}
    (h : (dmabufMachine drv stIno).ReachableVia (fun _ call => call.Admits serves) s) :
    s.Ok serves stIno := by
  refine h.invariant (DmabufState.Ok serves stIno) ?_ fun s call s' hs hcall hnext =>
    hs.next hcall hnext
  rintro s rfl
  refine ⟨OpenFiles.owned_empty, fun d hd => ?_, fun bo hbo => ?_⟩
  · cases hd
  · cases hbo

theorem dmabufOk_of_reachable {s : DmabufState} (h : (dmabufMachine drv stIno).Reachable s) :
    s.Ok (fun _ _ => True) stIno := by
  apply dmabufOk_of_reachableVia
  refine h.mono fun _ call _ => ?_
  cases call with
  | boCreate => exact ⟨fun _ _ => trivial, fun _ _ => trivial⟩
  | boImport | boGetPlaneFd | boDestroy | driverClose | callerOpen | callerClose => trivial

/-- **Every descriptor is accounted for.** In every run of the backend and its callers, with any
heaps missing and any call failing, the descriptors that the backend holds are those of its heaps
and of the planes of its buffers, each in one place, and none is left once the driver is closed and
the buffers are destroyed. The plane behind a descriptor carries the inode of its file. -/
theorem dmabuf_descriptors {s : DmabufState} (h : (dmabufMachine drv stIno).Reachable s) :
    s.files.Owned s.stored ∧ (s.priv = none → s.bos = [] → s.files.table.held = []) ∧
      ∀ bo ∈ s.bos, ∀ plane n : Nat, bo.fds[plane]? = some (some n) →
        ∃ f, s.files.file n = some f ∧ bo.inodes[plane]? = some (stIno f).toUInt32 := by
  have hok := dmabufOk_of_reachable h
  refine ⟨hok.owned, fun hpriv hbos => ?_, fun bo hbo => (hok.bos bo hbo).inodes⟩
  have hperm := hok.owned.perm
  have hnone : s.stored = [] := by simp [DmabufState.stored, hpriv, hbos]
  rw [hnone] at hperm
  exact List.nil_perm.mp hperm

/-- The inodes of a system that numbers its dmabufs from 100. -/
def dmabufInodes : DmabufFile → UInt64
  | .heap _ => 1
  | .dmabuf _ id => UInt64.ofNat (100 + id)
  | .other id => UInt64.ofNat id

/-- A system without an uncached heap creates an NV12 buffer for a display. -/
def createScanout : DmabufCall :=
  .boCreate Buffers.drmFormatNv12 { scanout := true }
    { init :=
        { openHeap := fun h =>
            match h with
            | .system => some 5
            | .systemUncached => none
            | .cma => some 6
          dup := fun _ => some 7 }
      alloc := some (8, 1)
      dups := fun plane => some (9 + plane) }

/-- The buffer is destroyed and the driver closed. -/
def closedDmabuf : DmabufState :=
  ((dmabufMachine Buffers.nv12Helpers dmabufInodes).exec {}
    [createScanout, .boDestroy 0, .driverClose]).get (by decide)

theorem dmabuf_descriptors_closed : closedDmabuf.files.table.held = [] := by
  have hreach : (dmabufMachine Buffers.nv12Helpers dmabufInodes).Reachable closedDmabuf :=
    Machine.reachable_of_exec rfl _
  exact (dmabuf_descriptors hreach).2.1 (by decide) (by decide)

/-- The nodes of these heaps, and no others, can be opened when the driver is. -/
def DmabufCall.Finds (present : Heap → Bool) : DmabufCall → Prop
  | .boCreate _ _ env => ∀ h, (env.init.openHeap h).isSome = present h
  | _ => True

/-- **The memory of a buffer that was created.** On a system with the heaps `present`, all planes of
the buffer refer to one dmabuf, from the heap that its use flags ask for, or from the system heap if
the system does not have it; whatever call opened the driver. -/
theorem dmabuf_memory {present : Heap → Bool} {s : DmabufState} {bo : DmabufBo}
    (h : (dmabufMachine drv stIno).ReachableVia (fun _ call => call.Finds present) s)
    (hbo : bo ∈ s.bos) (hcreated : bo.imported = false) :
    ∃ id, ∀ n ∈ bo.stored, s.files.file n = some (.dmabuf
      (if present (heapOf bo.useFlags) then heapOf bo.useFlags else .system) id) := by
  have hok : s.Ok (fun h h' => h' = if present h then h else .system) stIno := by
    apply dmabufOk_of_reachableVia
    refine h.mono fun _ call hfinds => ?_
    cases call with
    | boCreate format useFlags env =>
      refine ⟨fun heap hopen => ?_, fun heap hnone => ?_⟩
      · rw [if_pos ((hfinds heap).symm.trans hopen)]
      · have habsent : present heap = false := by
          rw [← hfinds heap, hnone]
          rfl
        rw [habsent]
        rfl
    | boImport | boGetPlaneFd | boDestroy | driverClose | callerOpen | callerClose => trivial
  obtain ⟨heap, id, rfl, hfiles⟩ := (hok.bos bo hbo).created hcreated
  exact ⟨id, hfiles⟩

/-- The buffer for the display exists. -/
def scanoutDmabuf : DmabufState :=
  ((dmabufMachine Buffers.nv12Helpers dmabufInodes).exec {} [createScanout]).get (by decide)

def scanoutBo : DmabufBo where
  fds := [some 9, some 10]
  inodes := [101, 101]
  useFlags := { scanout := true }
  imported := false

/-- A display gets its memory from the CMA heap, also with the uncached heap missing. -/
theorem dmabuf_memory_scanout :
    scanoutDmabuf.bos = [scanoutBo] ∧
      ∃ id, ∀ n ∈ scanoutBo.stored, scanoutDmabuf.files.file n = some (.dmabuf .cma id) := by
  have hbos : scanoutDmabuf.bos = [scanoutBo] := by decide
  refine ⟨hbos, ?_⟩
  have hrun : (dmabufMachine Buffers.nv12Helpers dmabufInodes).Run {} [createScanout]
      scanoutDmabuf :=
    Machine.run_of_exec _
  have hfinds : createScanout.Finds fun h => h != .systemUncached := by
    intro h
    cases h <;> rfl
  have hreach := hrun.reachableVia (List.forall_mem_singleton.mpr hfinds) (.start rfl)
  exact dmabuf_memory hreach (hbos ▸ List.mem_cons_self) rfl

/-! ## Export and import -/

/-- The caller takes a descriptor of each of these planes. -/
def exportPlanes (bo : Nat) (answers : Nat → Nat) (planes : List Nat) : List DmabufCall :=
  planes.map fun plane => .boGetPlaneFd bo plane (some (answers plane))

/-- A descriptor that is taken refers to the file of the plane. -/
theorem DmabufState.boGetPlaneFd_file {s s' : DmabufState} {k plane n a : Nat} {bo : DmabufBo}
    {f : DmabufFile} (hbo : s.bos[k]? = some bo) (hplane : bo.fds[plane]? = some (some n))
    (hfile : s.files.file n = some f)
    (hnext : (dmabufMachine drv stIno).next s (.boGetPlaneFd k plane (some a)) = some s') :
    s'.bos = s.bos ∧ OpenFiles.KeepsFiles Set.univ s.files s'.files ∧
      s'.files.file a = some f := by
  obtain ⟨⟨fd, s₁⟩, hstep, rfl⟩ := Option.map_eq_some_iff.mp hnext
  have hsrc : s.files.fileOf (some n) = some f := hfile
  simp only [dmabufBoGetPlaneFd, hbo, hplane, Option.join_some, OpenFiles.dupForeign, hsrc,
    Option.bind_eq_bind, Option.bind_some, Option.bind_eq_some_iff, Option.map_eq_some_iff,
    Option.some.injEq, Prod.mk.injEq, Prod.exists] at hstep
  obtain ⟨_, t, ⟨t₁, hopen, -, rfl⟩, -, rfl⟩ := hstep
  obtain ⟨hfresh, table, -, rfl⟩ := OpenFiles.openForeign_some hopen
  exact ⟨rfl, OpenFiles.keepsFiles_refer_fresh hfresh, OpenFiles.fileOf_refer rfl⟩

/-- The descriptors that were taken refer to the files of the planes. -/
theorem exportPlanes_run {s s' : DmabufState} {k : Nat} {bo : DmabufBo} {answers : Nat → Nat}
    {planes : List Nat} (hbo : s.bos[k]? = some bo)
    (hfull : ∀ plane ∈ planes, ∃ n f, bo.fds[plane]? = some (some n) ∧ s.files.file n = some f)
    (hrun : (dmabufMachine drv stIno).Run s (exportPlanes k answers planes) s') :
    s'.bos = s.bos ∧ OpenFiles.KeepsFiles Set.univ s.files s'.files ∧
      ∀ plane ∈ planes, ∀ n f, bo.fds[plane]? = some (some n) → s.files.file n = some f →
        s'.files.file (answers plane) = some f := by
  induction planes generalizing s with
  | nil =>
    cases hrun
    exact ⟨rfl, OpenFiles.KeepsFiles.refl _ _, fun plane hplane => by cases hplane⟩
  | cons plane planes ih =>
    cases hrun with
    | cons hnext hrest =>
      obtain ⟨n, f, hplane, hfile⟩ := hfull plane List.mem_cons_self
      obtain ⟨hbos, hkeeps, htaken⟩ := DmabufState.boGetPlaneFd_file hbo hplane hfile hnext
      obtain ⟨hbos', hkeeps', htaken'⟩ := ih (hbos ▸ hbo) (fun plane' hplane' => by
        obtain ⟨n', f', hfd, hf⟩ := hfull plane' (List.mem_cons_of_mem _ hplane')
        exact ⟨n', f', hfd, hkeeps n' (Set.mem_univ _) f' hf⟩) hrest
      refine ⟨hbos'.trans hbos, hkeeps.trans hkeeps', fun plane' hplane' n' f' hfd hf => ?_⟩
      rcases List.mem_cons.mp hplane' with rfl | hplane'
      · obtain rfl : n = n' := Option.some.inj (Option.some.inj (hplane.symm.trans hfd))
        obtain rfl : f = f' := Option.some.inj (hfile.symm.trans hf)
        exact hkeeps' _ (Set.mem_univ _) f htaken
      · exact htaken' plane' hplane' n' f' hfd (hkeeps n' (Set.mem_univ _) f' hf)

/-- **A buffer survives the way through its descriptors.** A caller that takes the descriptors of
all planes of a buffer and imports them gets a buffer with the same inodes, whose planes refer to
the files of the original. -/
theorem dmabuf_roundTrip {s s' : DmabufState} {k : Nat} {bo : DmabufBo} {answers : Nat → Nat}
    {format : UInt32} {useFlags : UseFlags} {dups : Nat → Option Nat}
    (h : (dmabufMachine drv stIno).Reachable s) (hbo : s.bos[k]? = some bo)
    (hfull : none ∉ bo.fds) (hplanes : drv.numPlanes format = bo.fds.length)
    (hrun : (dmabufMachine drv stIno).Run s
      (exportPlanes k answers (List.range bo.fds.length) ++
        [.boImport true format useFlags (fun plane => some (answers plane)) dups]) s') :
    ∃ copy, s'.bos = copy :: s.bos ∧ copy.inodes = bo.inodes ∧
      ∀ plane n m : Nat, bo.fds[plane]? = some (some n) → copy.fds[plane]? = some (some m) →
        s'.files.file m = s'.files.file n := by
  -- first the descriptors are taken, then they are imported
  obtain ⟨s₁, hexport, himport⟩ := hrun.split
  have hok := (dmabufOk_of_reachable h).bos bo (List.mem_of_getElem? hbo)
  have hplane : ∀ plane ∈ List.range bo.fds.length, ∃ n f, bo.fds[plane]? = some (some n) ∧
      s.files.file n = some f := by
    intro plane hplane
    have hlt : plane < bo.fds.length := List.mem_range.mp hplane
    cases hfd : bo.fds[plane] with
    | none => exact absurd (hfd ▸ List.getElem_mem hlt) hfull
    | some n =>
      have hget : bo.fds[plane]? = some (some n) := hfd ▸ List.getElem?_eq_getElem hlt
      obtain ⟨f, hfile, -⟩ := hok.inodes plane n hget
      exact ⟨n, f, hget, hfile⟩
  obtain ⟨hbos, hkeeps, htaken⟩ := exportPlanes_run hbo hplane hexport
  have howned := (dmabufOk_of_reachable (hexport.reachable h)).owned
  cases himport with
  | cons hnext hnil =>
    cases hnil
    obtain ⟨⟨ret, s₂⟩, hstep, rfl⟩ := Option.map_eq_some_iff.mp hnext
    simp only [DmabufState.dmabufBoImport, Bool.not_true, Bool.false_eq_true, if_false,
      Option.bind_eq_bind, Option.bind_eq_some_iff, Option.some.injEq, Prod.mk.injEq,
      Prod.exists] at hstep
    obtain ⟨own, t, hdups, -, rfl⟩ := hstep
    obtain ⟨-, hkeeps', -, hfiles⟩ := DmabufState.dupPlanes_ok howned hdups
    refine ⟨_, by rw [hbos], ?_, fun plane n m hn hm => ?_⟩
    · -- the inodes plane by plane: of a plane that exists, or of none on both sides
      apply List.ext_getElem?
      intro plane
      rcases Nat.lt_or_ge plane bo.fds.length with hlt | hge
      · obtain ⟨n, f, hget, hfile⟩ := hplane plane (List.mem_range.mpr hlt)
        obtain ⟨f', hfile', hinode⟩ := hok.inodes plane n hget
        obtain rfl : f = f' := Option.some.inj (hfile.symm.trans hfile')
        have htake : t.fileOf (some (answers plane)) = some f :=
          hkeeps'.fileOf (htaken plane (List.mem_range.mpr hlt) n f hget hfile)
        rw [hinode, List.getElem?_map, List.getElem?_range (hplanes ▸ hlt), Option.map_some,
          drvGetInode, htake]
      · rw [List.getElem?_eq_none (by simpa [hplanes] using hge),
          List.getElem?_eq_none (hok.length.trans_le hge)]
    · obtain ⟨plane', f, hplane', hsrc, hfile⟩ := hfiles plane m hm
      obtain ⟨-, rfl⟩ : plane < drv.numPlanes format ∧ plane = plane' := by
        simpa [List.getElem?_eq_some_iff] using hplane'
      have hlt : plane < bo.fds.length := (List.getElem?_eq_some_iff.mp hn).1
      obtain ⟨n', g, hget, hg⟩ := hplane plane (List.mem_range.mpr hlt)
      obtain rfl : n' = n := Option.some.inj (Option.some.inj (hget.symm.trans hn))
      have htake : t.fileOf (some (answers plane)) = some g :=
        hkeeps'.fileOf (htaken plane (List.mem_range.mpr hlt) n' g hget hg)
      obtain rfl : g = f := Option.some.inj (htake.symm.trans hsrc)
      -- the original still refers to its file
      have horiginal : t.file n' = some g := (hkeeps.trans hkeeps') n' (Set.mem_univ _) g hg
      exact hfile.trans horiginal.symm

/-- A caller takes the planes of the buffer for the display and imports them again. -/
def copiedDmabuf : DmabufState :=
  ((dmabufMachine Buffers.nv12Helpers dmabufInodes).exec scanoutDmabuf
    (exportPlanes 0 (20 + ·) (List.range 2) ++
      [.boImport true Buffers.drmFormatNv12 {} (fun plane => some (20 + plane))
        fun plane => some (30 + plane)])).get (by decide)

theorem dmabuf_roundTrip_scanout :
    ∃ copy, copiedDmabuf.bos = copy :: scanoutDmabuf.bos ∧ copy.inodes = scanoutBo.inodes ∧
      ∀ plane n m : Nat, scanoutBo.fds[plane]? = some (some n) →
        copy.fds[plane]? = some (some m) →
          copiedDmabuf.files.file m = copiedDmabuf.files.file n := by
  have hreach : (dmabufMachine Buffers.nv12Helpers dmabufInodes).Reachable scanoutDmabuf :=
    Machine.reachable_of_exec rfl _
  have hbo : scanoutDmabuf.bos[0]? = some scanoutBo := by decide
  exact dmabuf_roundTrip hreach hbo (by decide) (by decide) (Machine.run_of_exec _)

end GloDroid.Gralloc

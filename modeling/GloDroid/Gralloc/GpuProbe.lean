import GloDroid.Base.Descriptors

/-!
# Probing the GPU

`open_drm_dev` opens the DRM nodes one after the other and shows each descriptor to a callback; the
callback keeps a descriptor by returning true, and any other is closed by the loop.
`is_separate_dc_gpu` passes a callback that keeps each node it is shown in the same `UniqueFd`,
until it finds a GPU that relies on a separate display controller, and
`gbm_mesa_get_or_init_driver` one that keeps the first KMS node.

The kernel chooses the number of each descriptor, and may choose one that was closed before.
-/

namespace GloDroid.Gralloc

open GloDroid.Base

/-! ## Descriptors -/

/-- The descriptors of the process, with the numbers that the probe opened and closed. -/
structure ProbeFds where
  table : FdTable
  opened : List Nat := []
  closed : List Nat := []
  deriving DecidableEq, Repr

namespace ProbeFds

/-- `open` returns this number; no result if it is in use. -/
def openFd (f : ProbeFds) (fd : Nat) : Option ProbeFds :=
  (f.table.openFd (some fd)).map fun t => { f with table := t, opened := f.opened ++ [fd] }

/-- `close`. -/
def close (f : ProbeFds) (fd : Nat) : ProbeFds :=
  { f with table := f.table.close fd, closed := f.closed ++ [fd] }

theorem opened_of_openFd {f f' : ProbeFds} {fd : Nat} (h : f.openFd fd = some f') :
    f'.opened = f.opened ++ [fd] := by
  obtain ⟨t, -, rfl⟩ := Option.map_eq_some_iff.mp h
  rfl

end ProbeFds

/-- `UniqueFd`; `none` is `kEmptyFd`. -/
abbrev UniqueFd := Option Nat

namespace UniqueFd

/-- `Set`. -/
def set (u : UniqueFd) (newFd : Option Nat) (f : ProbeFds) : UniqueFd × ProbeFds :=
  match u with
  | some fd => (newFd, f.close fd)
  | none => (newFd, f)

/-- `Release`: the descriptor, and what is left. -/
def release (u : UniqueFd) : Option Nat × UniqueFd := (u, none)

/-- `operator=`: the two sides afterwards. -/
def assign (u rhs : UniqueFd) (f : ProbeFds) : UniqueFd × UniqueFd × ProbeFds :=
  let (u', f') := u.set rhs.release.1 f
  (u', rhs.release.2, f')

/-- `~UniqueFd`. -/
def destroy (u : UniqueFd) (f : ProbeFds) : ProbeFds := (u.set none f).2

@[simp] theorem set_fst (u : UniqueFd) (newFd : Option Nat) (f : ProbeFds) :
    (u.set newFd f).1 = newFd := by
  cases u <;> rfl

@[simp] theorem assign_fst (u rhs : UniqueFd) (f : ProbeFds) : (u.assign rhs f).1 = rhs :=
  set_fst u rhs f

end UniqueFd

/-! ## The probe -/

/-- A path that `glob` returns: the descriptor from `open`, none for a failure, and what
`is_kms_dev` and `drmGetVersion` say of it. -/
structure DrmNode where
  fd : Option Nat
  isKms : Bool
  drmName : List Char
  deriving DecidableEq, Repr

/-- A callback with what it has captured. -/
abbrev Found (σ : Type) := Nat → Bool → List Char → σ × ProbeFds → Bool × σ × ProbeFds

/-- The loop of `open_drm_dev`. -/
def openNodes {σ : Type} (found : Found σ) : List DrmNode → σ × ProbeFds → Option (σ × ProbeFds)
  | [], s => some s
  | node :: nodes, s =>
    match node.fd with
    -- "Unable to open"
    | none => openNodes found nodes s
    | some fd =>
      match s.2.openFd fd with
      | none => none
      | some f =>
        match found fd node.isKms node.drmName (s.1, f) with
        | (true, s') => openNodes found nodes s'
        | (false, s', f') => openNodes found nodes (s', f'.close fd)

/-- `-EINVAL`. -/
def einval : Int := -22

/-- `open_drm_dev`. `glob` answers for the pattern of the card nodes or of the render nodes. -/
def openDrmDev {σ : Type} (glob : Bool → Option (List DrmNode)) (cardNode : Bool)
    (found : Found σ) (s : σ × ProbeFds) : Option (Int × σ × ProbeFds) :=
  match glob cardNode with
  | none => some (einval, s)
  | some nodes => (openNodes found nodes s).map fun s' => (0, s')

/-- `separate_dc_gpu_list`. -/
def separateDcGpuList : List (List Char) :=
  [['v', '3', 'd'], ['v', 'c', '4'], ['e', 't', 'n', 'a', 'v', 'i', 'v'],
    ['p', 'a', 'n', 'f', 'r', 'o', 's', 't'], ['l', 'i', 'm', 'a'],
    ['f', 'r', 'e', 'e', 'd', 'r', 'e', 'n', 'o']]

/-- What the callback of `is_separate_dc_gpu` captures. -/
structure GpuProbe where
  gpuFd : UniqueFd := none
  separateDc : Bool := false
  gpuName : List Char := []
  deriving DecidableEq, Repr

/-- The callback of `is_separate_dc_gpu`. -/
def foundGpu : Found GpuProbe := fun fd _ drmName (s, f) =>
  if s.separateDc then (false, s, f)
  else
    let (gpuFd, _, f') := s.gpuFd.assign (some fd) f
    (true, { gpuFd, separateDc := separateDcGpuList.contains drmName, gpuName := drmName }, f')

/-- `is_separate_dc_gpu`: the answer and `out_gpu_fd`. -/
def isSeparateDcGpu (glob : Bool → Option (List DrmNode)) (outGpuFd : UniqueFd) (f : ProbeFds) :
    Option (Bool × UniqueFd × ProbeFds) :=
  match openDrmDev glob false foundGpu ({}, f) with
  | none => none
  | some (_, s, f') =>
    let (outGpuFd', gpuFd, f'') := outGpuFd.assign s.gpuFd f'
    some (s.separateDc, outGpuFd', gpuFd.destroy f'')

/-- The callback that looks for a KMS node, with `gbm_node_fd`. -/
def foundKms : Found UniqueFd := fun fd isKms _ (gbmNodeFd, f) =>
  if !isKms || gbmNodeFd.isSome then (false, gbmNodeFd, f)
  else
    let (gbmNodeFd', _, f') := gbmNodeFd.assign (some fd) f
    (true, gbmNodeFd', f')

/-! ## Accounts -/

/-- The descriptors in `kept` and those in `stored` are owned linearly, and those that the probe
opened are the kept and the closed ones, of which `before` were there at the start. -/
structure Accounted (before stored kept : List Nat) (f : ProbeFds) : Prop where
  owned : f.table.Owned (kept ++ stored)
  balance : (kept ++ f.closed).Perm (before ++ f.opened)

section Accounts

variable {before stored kept : List Nat} {f f' : ProbeFds} {fd : Nat}

theorem accounted_start {t : FdTable} (h : t.Owned (before ++ stored)) :
    Accounted before stored before { table := t } :=
  ⟨h, List.Perm.refl _⟩

theorem Accounted.openFd (h : Accounted before stored kept f) (hopen : f.openFd fd = some f') :
    Accounted before stored (fd :: kept) f' := by
  obtain ⟨t, ht, rfl⟩ := Option.map_eq_some_iff.mp hopen
  refine ⟨h.owned.openFd ht, ?_⟩
  have hlast := (h.balance.cons fd).trans List.perm_middle.symm
  have hcomm : ([fd] ++ f.opened).Perm (f.opened ++ [fd]) := List.perm_append_comm
  exact hlast.trans (hcomm.append_left before)

theorem Accounted.close (h : Accounted before stored (fd :: kept) f) :
    Accounted before stored kept (f.close fd) := by
  refine ⟨h.owned.close, ?_⟩
  have hlast : (kept ++ (f.closed ++ [fd])).Perm (fd :: (kept ++ f.closed)) := by
    rw [← List.append_assoc]
    exact List.perm_append_singleton fd _
  exact hlast.trans h.balance

theorem Accounted.congr {kept' : List Nat} (h : Accounted before stored kept f)
    (hperm : kept'.Perm kept) : Accounted before stored kept' f :=
  ⟨h.owned.congr (hperm.append_right stored), (hperm.append_right f.closed).trans h.balance⟩

/-- Descriptors that were there before may be counted among the kept ones. -/
theorem Accounted.frame {out : List Nat} (h : Accounted [] (out ++ stored) kept f) :
    Accounted out stored (kept ++ out) f := by
  refine ⟨by simpa using h.owned, ?_⟩
  have hfirst : (kept ++ out ++ f.closed).Perm (out ++ (kept ++ f.closed)) := by
    rw [← List.append_assoc]
    exact List.perm_append_comm.append_right f.closed
  exact hfirst.trans (h.balance.append_left out)

/-- What was in the `UniqueFd` is closed. -/
theorem Accounted.assign (u rhs : UniqueFd)
    (h : Accounted before stored (rhs.toList ++ u.toList) f) :
    Accounted before stored rhs.toList (u.assign rhs f).2.2 := by
  cases u with
  | none => simpa [UniqueFd.assign, UniqueFd.set, UniqueFd.release] using h
  | some old =>
    have hfirst : Accounted before stored (old :: rhs.toList) f :=
      h.congr (List.perm_append_singleton old rhs.toList).symm
    exact hfirst.close

end Accounts

/-- The callback accounts for the descriptor it is shown: it is in its places if the callback
returns true, and is left to the loop otherwise. -/
def Accounts {σ : Type} (places : σ → List Nat) (found : Found σ) : Prop :=
  ∀ (before stored : List Nat) (fd : Nat) (isKms : Bool) (drmName : List Char) (s : σ)
    (f : ProbeFds),
    Accounted before stored (fd :: places s) f →
    Accounted before stored
      ((if (found fd isKms drmName (s, f)).1 then [] else [fd]) ++
        places (found fd isKms drmName (s, f)).2.1)
      (found fd isKms drmName (s, f)).2.2

theorem openNodes_accounted {σ : Type} {places : σ → List Nat} {found : Found σ}
    (hfound : Accounts places found) {before stored : List Nat} {nodes : List DrmNode} {s s' : σ}
    {f f' : ProbeFds} (h : Accounted before stored (places s) f)
    (hopen : openNodes found nodes (s, f) = some (s', f')) :
    Accounted before stored (places s') f' := by
  induction nodes generalizing s f with
  | nil =>
    obtain ⟨rfl, rfl⟩ := Prod.mk.inj (Option.some.inj hopen)
    exact h
  | cons node nodes ih =>
    simp only [openNodes] at hopen
    split at hopen
    case h_1 => exact ih h hopen
    case h_2 fd _ =>
      split at hopen
      case h_1 => cases hopen
      case h_2 f₁ hfd =>
        have hshown := hfound _ _ fd node.isKms node.drmName s _ (h.openFd hfd)
        split at hopen
        case h_1 s₂ hcall =>
          -- the callback has taken the descriptor
          simp only [hcall, if_true, List.nil_append] at hshown
          exact ih hshown hopen
        case h_2 s₂ f₂ hcall =>
          -- it was left to the loop, which closes it
          simp only [hcall, Bool.false_eq_true, if_false] at hshown
          exact ih hshown.close hopen

theorem foundGpu_accounts : Accounts (fun s => s.gpuFd.toList) foundGpu := by
  intro before stored fd isKms drmName s f h
  by_cases hdc : s.separateDc
  · simpa [foundGpu, hdc] using h
  · have hassign := Accounted.assign s.gpuFd (some fd) h
    simpa [foundGpu, hdc] using hassign

theorem foundKms_accounts : Accounts Option.toList foundKms := by
  intro before stored fd isKms drmName s f h
  by_cases hkeep : !isKms || s.isSome
  · simp only [foundKms, hkeep, if_true, Bool.false_eq_true, if_false]
    exact h
  · have hassign := Accounted.assign s (some fd) h
    simpa [foundKms, hkeep] using hassign

/-! ## The node that is picked -/

namespace DrmNode

/-- The GPU relies on a separate display controller. -/
def isSeparateDc (node : DrmNode) : Bool := separateDcGpuList.contains node.drmName

/-- The nodes that could be opened. -/
def opened (nodes : List DrmNode) : List DrmNode := nodes.filter fun node => node.fd.isSome

/-- The first node of a GPU with a separate display controller, or the last one that was opened. -/
def picked (nodes : List DrmNode) : Option DrmNode :=
  ((opened nodes).find? isSeparateDc).or (opened nodes).getLast?

section Cons

variable {node : DrmNode} {nodes : List DrmNode}

theorem opened_cons (h : node.fd.isSome) : opened (node :: nodes) = node :: opened nodes := by
  simp [opened, h]

theorem opened_cons_of_none (h : node.fd = none) : opened (node :: nodes) = opened nodes := by
  simp [opened, h]

theorem picked_cons_separateDc (h : node.fd.isSome) (hdc : node.isSeparateDc) :
    picked (node :: nodes) = some node := by
  simp [picked, opened_cons h, hdc]

theorem picked_cons (h : node.fd.isSome) (hdc : ¬ node.isSeparateDc) :
    picked (node :: nodes) = (picked nodes).or (some node) := by
  simp only [picked, opened_cons h, List.find?_cons_of_neg hdc, Option.or_assoc]
  congr 1
  cases hlast : (opened nodes).getLast? <;> simp [List.getLast?_cons, hlast]

/-- What is picked was opened. -/
theorem isSome_of_picked (h : picked nodes = some node) : node.fd.isSome := by
  have hmem : node ∈ opened nodes := by
    rcases Option.or_eq_some_iff.mp h with hfirst | ⟨-, hlast⟩
    · exact List.mem_of_find?_eq_some hfirst
    · exact List.mem_of_getLast? hlast
  exact (List.mem_filter.mp hmem).2

end Cons

end DrmNode

open DrmNode

section Picked

variable {nodes : List DrmNode} {s s' : GpuProbe} {f f' : ProbeFds}

/-- The callback keeps what it is shown, until it has found what it looks for. -/
theorem foundGpu_of_not_found (hdc : s.separateDc = false) (node : DrmNode) (fd : Nat) :
    foundGpu fd node.isKms node.drmName (s, f) =
      (true,
        { gpuFd := some fd, separateDc := node.isSeparateDc, gpuName := node.drmName },
        (s.gpuFd.assign (some fd) f).2.2) := by
  simp [foundGpu, hdc, isSeparateDc]

/-- Once a separate display controller is found, the other nodes change nothing. -/
theorem openNodes_foundGpu_found (hdc : s.separateDc = true)
    (h : openNodes foundGpu nodes (s, f) = some (s', f')) : s' = s := by
  induction nodes generalizing f with
  | nil =>
    obtain ⟨rfl, -⟩ := Prod.mk.inj (Option.some.inj h)
    rfl
  | cons node nodes ih =>
    simp only [openNodes, foundGpu, hdc, if_true] at h
    split at h
    case h_1 => exact ih h
    case h_2 =>
      split at h
      case h_1 => cases h
      case h_2 => exact ih h

/-- The callback keeps the node that is picked, and what it had if none is opened. -/
theorem openNodes_foundGpu (hdc : s.separateDc = false)
    (h : openNodes foundGpu nodes (s, f) = some (s', f')) :
    s'.separateDc = (opened nodes).any isSeparateDc ∧
      s'.gpuFd = ((picked nodes).bind DrmNode.fd).or s.gpuFd := by
  induction nodes generalizing s f with
  | nil =>
    obtain ⟨rfl, -⟩ := Prod.mk.inj (Option.some.inj h)
    simp [opened, picked, hdc]
  | cons node nodes ih =>
    simp only [openNodes] at h
    split at h
    case h_1 hfd =>
      have hnodes := ih hdc h
      simpa [picked, opened_cons_of_none hfd] using hnodes
    case h_2 fd hfd =>
      have hopened : node.fd.isSome := by simp [hfd]
      split at h
      case h_1 => cases h
      case h_2 f₁ _ =>
        simp only [foundGpu_of_not_found hdc] at h
        by_cases hsep : node.isSeparateDc
        · -- the others are closed by the loop
          obtain rfl := openNodes_foundGpu_found hsep h
          simp [opened_cons hopened, picked_cons_separateDc hopened hsep, hsep, hfd]
        · have hnodes := ih (by simpa using hsep) h
          refine ⟨by simpa [opened_cons hopened, hsep] using hnodes.1, ?_⟩
          rw [hnodes.2, picked_cons hopened hsep]
          cases hpicked : picked nodes with
          | none => simp [hfd]
          | some last =>
            obtain ⟨fd', hfd'⟩ := Option.isSome_iff_exists.mp (isSome_of_picked hpicked)
            simp [hfd']

end Picked

/-- The callback opens nothing. -/
def OpensNothing {σ : Type} (found : Found σ) : Prop :=
  ∀ fd isKms drmName s, (found fd isKms drmName s).2.2.opened = s.2.opened

/-- What the loop has opened, in order. -/
theorem openNodes_opened {σ : Type} {found : Found σ} (hfound : OpensNothing found)
    {nodes : List DrmNode} {s s' : σ × ProbeFds} (h : openNodes found nodes s = some s') :
    s'.2.opened = s.2.opened ++ nodes.filterMap DrmNode.fd := by
  induction nodes generalizing s with
  | nil =>
    obtain rfl := Option.some.inj h
    simp
  | cons node nodes ih =>
    simp only [openNodes] at h
    split at h
    case h_1 hfd => simpa [hfd] using ih h
    case h_2 fd hfd =>
      split at h
      case h_1 => cases h
      case h_2 f hopen =>
        have hshown := hfound fd node.isKms node.drmName (s.1, f)
        simp only [ProbeFds.opened_of_openFd hopen] at hshown
        split at h
        case h_1 s₂ hcall =>
          simp only [hcall] at hshown
          simp [ih h, hshown, hfd]
        case h_2 s₂ f₂ hcall =>
          simp only [hcall] at hshown
          simp [ih h, ProbeFds.close, hshown, hfd]

namespace UniqueFd

@[simp] theorem set_opened (u : UniqueFd) (newFd : Option Nat) (f : ProbeFds) :
    (u.set newFd f).2.opened = f.opened := by
  cases u <;> rfl

@[simp] theorem assign_opened (u rhs : UniqueFd) (f : ProbeFds) :
    (u.assign rhs f).2.2.opened = f.opened :=
  set_opened u rhs f

end UniqueFd

theorem foundGpu_opensNothing : OpensNothing foundGpu := by
  intro fd isKms drmName s
  by_cases hdc : s.1.separateDc <;> simp [foundGpu, hdc]

/-- **The probe picks the right node and leaks none.** The answer says whether some node that could
be opened is that of a GPU with a separate display controller; the descriptor is that of the first
such node, or of the last one that was opened; each of the others was closed once, and so was what
`out_gpu_fd` had before. -/
theorem isSeparateDcGpu_picks {glob : Bool → Option (List DrmNode)} {t : FdTable}
    {stored : List Nat} {out out' : UniqueFd} {answer : Bool} {f : ProbeFds}
    (howned : t.Owned (out.toList ++ stored))
    (h : isSeparateDcGpu glob out { table := t } = some (answer, out', f)) :
    (answer = true ↔ ∃ node ∈ opened ((glob false).getD []), node.drmName ∈ separateDcGpuList) ∧
      out' = (picked ((glob false).getD [])).bind DrmNode.fd ∧
      f.opened = ((glob false).getD []).filterMap DrmNode.fd ∧
      (out'.toList ++ f.closed).Perm (out.toList ++ f.opened) ∧
      f.table.Owned (out'.toList ++ stored) := by
  -- a failure of `glob` is not noticed: it is as if there was no node
  obtain ⟨s, f', hloop, rfl, rfl, rfl⟩ : ∃ s f',
      openNodes foundGpu ((glob false).getD []) ({}, { table := t }) = some (s, f') ∧
        answer = s.separateDc ∧ out' = s.gpuFd ∧ f = (out.assign s.gpuFd f').2.2 := by
    simp only [isSeparateDcGpu, openDrmDev] at h
    cases hglob : glob false with
    | none =>
      simp only [hglob, Option.some.injEq, Prod.mk.injEq] at h
      obtain ⟨rfl, rfl, rfl⟩ := h
      exact ⟨{}, _, rfl, rfl, UniqueFd.assign_fst .., rfl⟩
    | some nodes =>
      cases hloop : openNodes foundGpu nodes ({}, { table := t }) with
      | none => simp [hglob, hloop] at h
      | some end' =>
        simp only [hglob, hloop, Option.map_some, Option.some.injEq, Prod.mk.injEq] at h
        obtain ⟨rfl, rfl, rfl⟩ := h
        exact ⟨end'.1, end'.2, hloop, rfl, UniqueFd.assign_fst .., rfl⟩
  obtain ⟨hanswer, hpicked⟩ := openNodes_foundGpu rfl hloop
  have hopened := openNodes_opened foundGpu_opensNothing hloop
  have hstart : Accounted [] (out.toList ++ stored) [] { table := t } := accounted_start howned
  have hkept : Accounted [] (out.toList ++ stored) s.gpuFd.toList f' :=
    openNodes_accounted (s := {}) foundGpu_accounts hstart hloop
  have hout := Accounted.assign out s.gpuFd hkept.frame
  refine ⟨?_, by simpa using hpicked, by simpa using hopened, hout.balance, hout.owned⟩
  simp [hanswer, isSeparateDc]

/-- A node that cannot be opened, a GPU of another kind, and two with display controllers of their
own, of which the last gets the number of the first descriptor again. -/
def fourNodes : List DrmNode :=
  [⟨none, false, []⟩, ⟨some 5, true, ['m', 's', 'm']⟩, ⟨some 6, false, ['l', 'i', 'm', 'a']⟩,
    ⟨some 5, false, ['v', '3', 'd']⟩]

theorem isSeparateDcGpu_picks_fourNodes :
    let closed : ProbeFds :=
      { table := { held := [6], foreign := [1, 2] }, opened := [5, 6, 5], closed := [5, 5] }
    isSeparateDcGpu (fun _ => some fourNodes) none { table := { foreign := [1, 2] } } =
        some (true, some 6, closed) ∧
      (true = true ↔ ∃ node ∈ opened fourNodes, node.drmName ∈ separateDcGpuList) ∧
      some 6 = (picked fourNodes).bind DrmNode.fd ∧
      closed.opened = fourNodes.filterMap DrmNode.fd ∧
      ([6] ++ closed.closed).Perm closed.opened ∧
      closed.table.Owned ([6] ++ []) := by
  intro closed
  have hrun : isSeparateDcGpu (fun _ => some fourNodes) none { table := { foreign := [1, 2] } } =
      some (true, some 6, closed) := by decide
  exact ⟨hrun, isSeparateDcGpu_picks (FdTable.owned_nil [1, 2]) hrun⟩

/-! ## The KMS node -/

theorem foundKms_opensNothing : OpensNothing foundKms := by
  intro fd isKms drmName s
  by_cases hkeep : !isKms || s.1.isSome
  · simp only [foundKms, hkeep, if_true]
  · simp [foundKms, hkeep]

/-- The KMS node that is kept is the first one that could be opened. -/
theorem openNodes_foundKms {nodes : List DrmNode} {u u' : UniqueFd} {f f' : ProbeFds}
    (h : openNodes foundKms nodes (u, f) = some (u', f')) :
    u' = u.or (((opened nodes).find? DrmNode.isKms).bind DrmNode.fd) := by
  induction nodes generalizing u f with
  | nil =>
    obtain ⟨rfl, -⟩ := Prod.mk.inj (Option.some.inj h)
    simp [opened]
  | cons node nodes ih =>
    simp only [openNodes] at h
    split at h
    case h_1 hfd => simpa [opened_cons_of_none hfd] using ih h
    case h_2 fd hfd =>
      have hopened : node.fd.isSome := by simp [hfd]
      split at h
      case h_1 => cases h
      case h_2 f₁ _ =>
        cases hu : u with
        | some old =>
          -- a node was kept before, and this one is left to the loop
          simp only [foundKms, hu, Option.isSome_some, Bool.or_true, if_true] at h
          simpa using ih h
        | none =>
          by_cases hkms : node.isKms
          · simp only [foundKms, hu, hkms, Bool.not_true, Option.isSome_none, Bool.or_self,
              Bool.false_eq_true, if_false] at h
            simpa [opened_cons hopened, hkms, hfd] using ih h
          · simp only [foundKms, hu, hkms, Bool.not_false, Bool.true_or, if_true] at h
            simpa [opened_cons hopened, hkms] using ih h

/-- The search for a KMS node keeps the first one that could be opened and closes the others. -/
theorem openDrmDev_foundKms {glob : Bool → Option (List DrmNode)} {t : FdTable} {stored : List Nat}
    {result : Int} {u : UniqueFd} {f : ProbeFds} (howned : t.Owned stored)
    (h : openDrmDev glob true foundKms (none, { table := t }) = some (result, u, f)) :
    u = ((opened ((glob true).getD [])).find? DrmNode.isKms).bind DrmNode.fd ∧
      f.opened = ((glob true).getD []).filterMap DrmNode.fd ∧
      (u.toList ++ f.closed).Perm f.opened ∧ f.table.Owned (u.toList ++ stored) := by
  obtain hloop : openNodes foundKms ((glob true).getD []) (none, { table := t }) = some (u, f) := by
    simp only [openDrmDev] at h
    cases hglob : glob true with
    | none =>
      simp only [hglob, Option.some.injEq, Prod.mk.injEq] at h
      obtain ⟨-, rfl, rfl⟩ := h
      rfl
    | some nodes =>
      simp only [hglob, Option.map_eq_some_iff, Prod.mk.injEq] at h
      obtain ⟨end', hend, -, rfl⟩ := h
      exact hend
  have hstart : Accounted [] stored [] { table := t } := accounted_start howned
  have hkept : Accounted [] stored u.toList f :=
    openNodes_accounted (s := none) foundKms_accounts hstart hloop
  have hopened := openNodes_opened foundKms_opensNothing hloop
  exact ⟨by simpa using openNodes_foundKms hloop, by simpa using hopened, hkept.balance,
    hkept.owned⟩

end GloDroid.Gralloc

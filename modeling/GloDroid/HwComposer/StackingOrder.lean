import GloDroid.HwComposer.Selection

/-!
# The Depth of the Client Target

`PresentComposition` inserts `client_output` into the z-ordered multimap under the key
`client_start`. `GetOrderedLayers` computes `client_start` as a list position, while the multimap
is keyed by z-positions: the client target lands where its list position would be as a z-position.

Hence the target stands at the depth of the client layers exactly when no scanout layer below them
has a z-position above their list position and every scanout layer above them has one above it.
-/

namespace GloDroid.HwComposer

open GloDroid.Base

/-! ## The layers that are planned -/

theorem isClient_of_imported {comp comp' : FEComposition} (h : comp.Rel HwcLayer.Imported comp') :
    comp'.isClient = comp.isClient :=
  funext fun r => (h.layer r).useClient

/-- When every import succeeds, the collected layers are the scanout layers in their order. -/
theorem importLayers_refs {env : PipeEnv} {comp : FEComposition} {refs : List LayerRef}
    {ds : List (LayerRef × LayerData)} (h : (importLayers env comp refs).2 = some ds) :
    ds.map Prod.fst = refs.filter fun r => !comp.isClient r := by
  induction refs generalizing comp ds with
  | nil =>
    obtain rfl : [] = ds := by simpa [importLayers] using h
    rfl
  | cons r rest ih =>
    unfold importLayers at h
    by_cases hc : comp.isClient r = true
    · -- a client layer is skipped
      rw [if_pos hc] at h
      rw [ih h, List.filter_cons_of_neg (by simp [hc])]
    · rw [if_neg hc] at h
      dsimp only at h
      split_ifs at h with hok
      obtain ⟨ds', hds', rfl⟩ := Option.map_eq_some_iff.mp h
      -- importing the head moved no layer between client and device composition
      have hrel : comp.Rel HwcLayer.Imported
          (comp.modify r fun _ => ((comp.deref r).populateLayerData env.importResult).1) :=
        .modify HwcLayer.Imported.refl (HwcLayer.imported_populateLayerData _ _)
      rw [List.map_cons, ih hds', isClient_of_imported hrel,
        List.filter_cons_of_pos (by simp [hc])]

/-- The planned layers are the scanout layers among the presented ones. -/
theorem presentComposition_planned {env : PipeEnv} {flatcon : Option FlatteningController}
    {comp : FEComposition} {args : AtomicCommitArgs} {ds : List (LayerRef × LayerData)}
    (h : (presentComposition env flatcon comp args).planned = some ds) :
    ds.map Prod.fst = (presentedLayers comp).refs.filter fun r => !comp.isClient r := by
  have hrefs : (importLayers env comp (presentedLayers comp).refs).2 = some ds := by
    unfold presentComposition at h
    dsimp only at h
    by_cases hempty : (presentedLayers comp).refs.isEmpty
    · rw [if_pos hempty] at h
      simp at h
    · rw [if_neg hempty] at h
      split at h
      next => simp at h
      next heq =>
        rw [heq]
        split_ifs at h <;> simpa using h
  exact importLayers_refs hrefs

/-! ## Where the client target is inserted -/

/-- The z-ordered layers are `below`, a non-empty run of client layers and `above`, with scanout
layers on both sides. -/
structure ClientRun (comp : FEComposition) (below run above : List LayerRef) : Prop where
  split : (orderedLayers comp).refs = below ++ run ++ above
  below_scanout : ∀ r ∈ below, comp.isClient r = false
  run_client : ∀ r ∈ run, comp.isClient r = true
  above_scanout : ∀ r ∈ above, comp.isClient r = false
  nonempty : run ≠ []

theorem scanClientRange_append (isClient : LayerRef → Bool) (i : Nat) (range : ClientRange)
    (refs refs' : List LayerRef) :
    scanClientRange isClient i range (refs ++ refs') =
      scanClientRange isClient (i + refs.length) (scanClientRange isClient i range refs) refs' := by
  induction refs generalizing i range with
  | nil => rfl
  | cons r rest ih =>
    simp only [List.cons_append, scanClientRange, ih, List.length_cons]
    congr 1
    omega

theorem scanClientRange_of_scanout {isClient : LayerRef → Bool} {refs : List LayerRef}
    (h : ∀ r ∈ refs, isClient r = false) (i : Nat) (range : ClientRange) :
    scanClientRange isClient i range refs = range := by
  induction refs generalizing i with
  | nil => rfl
  | cons r rest ih =>
    unfold scanClientRange
    rw [h r List.mem_cons_self]
    exact ih (fun r' hr' => h r' (List.mem_cons_of_mem _ hr')) _

/-- A range that ends where the scan stands grows by the client layers met next. -/
theorem scanClientRange_of_client {isClient : LayerRef → Bool} {refs : List LayerRef}
    (h : ∀ r ∈ refs, isClient r = true) {i start size : Nat} (hend : start + size = i) :
    scanClientRange isClient i { start := start, size := size } refs =
      { start := start, size := size + refs.length } := by
  induction refs generalizing i size with
  | nil => rfl
  | cons r rest ih =>
    have hstart : ¬ (start : Int) < 0 := by omega
    have hsize : ((i : Int) - start).toNat + 1 = size + 1 := by omega
    unfold scanClientRange
    dsimp only
    rw [if_pos (h r List.mem_cons_self), if_neg hstart, hsize,
      ih (fun r' hr' => h r' (List.mem_cons_of_mem _ hr')) (by omega), List.length_cons,
      Nat.add_assoc, Nat.add_comm 1]

/-- `GetOrderedLayers` reports the position and the length of the run. -/
theorem ClientRun.range_eq {comp : FEComposition} {below run above : List LayerRef}
    (h : ClientRun comp below run above) :
    (getOrderedLayers comp).2 = { start := below.length, size := run.length } := by
  obtain ⟨r, rest, rfl⟩ := List.exists_cons_of_ne_nil h.nonempty
  have hr : comp.isClient r = true := h.run_client r List.mem_cons_self
  have hrest : ∀ r' ∈ rest, comp.isClient r' = true := fun r' hr' =>
    h.run_client r' (List.mem_cons_of_mem _ hr')
  unfold getOrderedLayers
  dsimp only
  rw [h.split, scanClientRange_append, scanClientRange_append,
    scanClientRange_of_scanout h.below_scanout, scanClientRange_of_scanout h.above_scanout]
  unfold scanClientRange
  dsimp only
  -- the first layer of the run starts a range of one layer
  rw [hr, if_pos rfl, if_pos (by decide), Nat.zero_add, Int.sub_self, Int.toNat_zero, Nat.zero_add,
    scanClientRange_of_client hrest rfl, List.length_cons, Nat.add_comm 1]

/-- `client_start` is the list position of the run. -/
theorem ClientRun.range {comp : FEComposition} {below run above : List LayerRef}
    (h : ClientRun comp below run above) :
    (getOrderedLayers comp).2.start = below.length ∧ 0 < (getOrderedLayers comp).2.size := by
  rw [h.range_eq]
  exact ⟨rfl, List.length_pos_of_ne_nil h.nonempty⟩

/-- The z-ordered layers up to or above a z-position, as entries of the multimap or as layers. -/
theorem map_filter_entries (comp : FEComposition) (p : Nat → Bool) :
    ((orderedLayers comp).entries.filter fun e => p e.1).map Prod.snd =
      (orderedLayers comp).refs.filter fun r => p (comp.deref r).zpos := by
  rw [OrderedLayers.refs, List.filter_map]
  congr 1
  refine List.filter_congr fun e he => ?_
  rw [zpos_of_mem_entries he]
  rfl

/-- The scanout layers of a composition with a client run are those on both sides of it. -/
theorem ClientRun.scanout {comp : FEComposition} {below run above : List LayerRef}
    (h : ClientRun comp below run above) :
    ((orderedLayers comp).refs.filter fun r => !comp.isClient r) = below ++ above := by
  -- the parts are all scanout or all client
  have keep : ∀ part : List LayerRef, (∀ r ∈ part, comp.isClient r = false) →
      part.filter (fun r => !comp.isClient r) = part :=
    fun part hpart => List.filter_eq_self.mpr fun r hr => by simp [hpart r hr]
  have drop : run.filter (fun r => !comp.isClient r) = [] :=
    List.filter_eq_nil_iff.mpr fun r hr => by simp [h.run_client r hr]
  rw [h.split, List.filter_append, List.filter_append, keep below h.below_scanout, drop,
    keep above h.above_scanout, List.append_nil]

/-- **What is planned**: the scanout layers with a z-position up to the list position of the run,
the client target, and the scanout layers with a z-position above. -/
theorem ClientRun.planned {comp : FEComposition} {below run above : List LayerRef}
    (h : ClientRun comp below run above) :
    ((presentedLayers comp).refs.filter fun r => !comp.isClient r) =
      (below ++ above).filter (fun r => (comp.deref r).zpos ≤ below.length) ++
        ([LayerRef.clientOutput].filter fun r => !comp.isClient r) ++
        (below ++ above).filter fun r => below.length < (comp.deref r).zpos := by
  obtain ⟨hstart, hsize⟩ := h.range
  -- the list position of the run is used as a z-position
  have hrefs : (presentedLayers comp).refs =
      (orderedLayers comp).refs.filter (fun r => (comp.deref r).zpos ≤ below.length) ++
        [LayerRef.clientOutput] ++
        (orderedLayers comp).refs.filter fun r => below.length < (comp.deref r).zpos := by
    have hlayers : (getOrderedLayers comp).1 = orderedLayers comp := rfl
    unfold presentedLayers
    dsimp only
    rw [if_pos hsize, hstart, hlayers, Int.toNat_natCast, OrderedLayers.refs,
      MultiMap.entries_emplace, List.map_append, List.map_cons,
      map_filter_entries comp (fun z => decide (z ≤ below.length)),
      map_filter_entries comp (fun z => decide (below.length < z))]
    simp
  rw [hrefs, List.filter_append, List.filter_append, List.filter_comm, h.scanout,
    List.filter_comm _ _ (orderedLayers comp).refs, h.scanout]

/-- The client target is not among the z-ordered layers. -/
theorem ClientRun.clientOutput_notMem {comp : FEComposition} {below run above : List LayerRef}
    (h : ClientRun comp below run above) : LayerRef.clientOutput ∉ below ++ above := by
  intro hmem
  have hin : LayerRef.clientOutput ∈ (orderedLayers comp).refs := by
    rw [h.split]
    simp only [List.mem_append] at hmem ⊢
    exact hmem.imp_left Or.inl
  obtain ⟨k, -, hk⟩ := mem_refs_iff.mp hin
  cases hk

/-- **The depth of the client target**: `PresentComposition` passes the scanout layers below the
client layers, the client target and the scanout layers above them on to `DrmKmsPlan`, in this
order, if and only if the client target is itself a scanout layer, no layer below the client
layers has a z-position above `client_start`, and every layer above them has one above it. -/
theorem presentComposition_depth_iff (env : PipeEnv) (flatcon : Option FlatteningController)
    (comp : FEComposition) (args : AtomicCommitArgs) {below run above : List LayerRef}
    {ds : List (LayerRef × LayerData)} (h : ClientRun comp below run above)
    (hplanned : (presentComposition env flatcon comp args).planned = some ds) :
    ds.map Prod.fst = below ++ [.clientOutput] ++ above ↔
      comp.clientOutput.useClient = false ∧
        (∀ r ∈ below, (comp.deref r).zpos ≤ below.length) ∧
        ∀ r ∈ above, below.length < (comp.deref r).zpos := by
  have hnot := h.clientOutput_notMem
  rw [presentComposition_planned hplanned, h.planned]
  have htarget : comp.isClient .clientOutput = comp.clientOutput.useClient := rfl
  constructor
  · intro heq
    -- the target is planned, hence it is no client layer
    have huse : comp.clientOutput.useClient = false := by
      by_contra hc
      have hmem : LayerRef.clientOutput ∈ below ++ [.clientOutput] ++ above := by simp
      rw [← heq] at hmem
      simp only [List.mem_append, List.mem_filter, htarget] at hmem
      rw [Bool.not_eq_false] at hc
      obtain (hbelow | htarget') | habove := hmem
      · exact hnot (List.mem_append.mpr hbelow.1)
      · rw [hc] at htarget'
        exact Bool.false_ne_true htarget'.2
      · exact hnot (List.mem_append.mpr habove.1)
    refine ⟨huse, ?_⟩
    have hone : ([LayerRef.clientOutput].filter fun r => !comp.isClient r) =
        [.clientOutput] := by simp [htarget, huse]
    rw [hone, List.append_assoc, List.append_assoc, List.singleton_append,
      List.singleton_append] at heq
    -- both lists hold the target once, so the parts around it agree
    obtain ⟨hbelow, -, habove⟩ := (List.append_cons_inj_of_notMem
      (fun hmem => hnot (List.mem_filter.mp hmem).1)
      (fun hmem => hnot (List.mem_filter.mp hmem).1)).mp heq
    constructor
    · intro r hr
      rw [← hbelow] at hr
      exact of_decide_eq_true (List.mem_filter.mp hr).2
    · intro r hr
      rw [← habove] at hr
      exact of_decide_eq_true (List.mem_filter.mp hr).2
  · rintro ⟨huse, hbelow, habove⟩
    -- each part passes one filter whole and the other not at all
    have keep : ∀ (p : LayerRef → Bool) (part : List LayerRef), (∀ r ∈ part, p r = true) →
        part.filter p = part := fun p part hpart => List.filter_eq_self.mpr hpart
    have drop : ∀ (p : LayerRef → Bool) (part : List LayerRef), (∀ r ∈ part, p r = false) →
        part.filter p = [] :=
      fun p part hpart => List.filter_eq_nil_iff.mpr fun r hr => by simp [hpart r hr]
    rw [List.filter_append, List.filter_append,
      keep _ below fun r hr => decide_eq_true (hbelow r hr),
      drop _ above fun r hr => decide_eq_false (not_le.mpr (habove r hr)),
      drop _ below fun r hr => decide_eq_false (not_lt.mpr (hbelow r hr)),
      keep _ above fun r hr => decide_eq_true (habove r hr),
      keep _ [.clientOutput] fun r hr => by simp [List.mem_singleton.mp hr, htarget, huse]]
    simp

/-- A scanout layer at z-position 3 under a client layer at z-position 5. -/
def raisedLayers : FEComposition where
  feLayers := ⟨[(0, { zpos := 3, bufferHandle := some 1 }),
                (1, { zpos := 5, bufferHandle := some 2, useClient := true })], by decide⟩
  clientOutput := { bufferHandle := some 3 }

/-- The same layers at z-positions 0 and 1. -/
def groundedLayers : FEComposition where
  feLayers := ⟨[(0, { zpos := 0, bufferHandle := some 1 }),
                (1, { zpos := 1, bufferHandle := some 2, useClient := true })], by decide⟩
  clientOutput := { bufferHandle := some 3 }

/-- What is planned for the grounded layers. -/
def groundedPlan : List (LayerRef × LayerData) :=
  [(.feLayer 0, { bi := some {}, fb := some 0 }), (.clientOutput, { bi := some {}, fb := some 0 })]

theorem groundedLayers_run : ClientRun groundedLayers [.feLayer 0] [.feLayer 1] [] :=
  ⟨by decide, by decide, by decide, by decide, by decide⟩

theorem presentComposition_depth_iff_grounded :
    groundedPlan.map Prod.fst = [.feLayer 0] ++ [.clientOutput] ++ [] ↔
      groundedLayers.clientOutput.useClient = false ∧
        (∀ r ∈ [LayerRef.feLayer 0], (groundedLayers.deref r).zpos ≤ 1) ∧
        ∀ r ∈ ([] : List LayerRef), 1 < (groundedLayers.deref r).zpos :=
  presentComposition_depth_iff (.accepting 2) none groundedLayers {} groundedLayers_run (by decide)

/-- The client target of the raised layers is planned below the scanout layer it should cover. -/
theorem clientTarget_sinks :
    ClientRun raisedLayers [.feLayer 0] [.feLayer 1] [] ∧
      ∃ ds, (presentComposition (.accepting 2) none raisedLayers {}).planned = some ds ∧
        ds.map Prod.fst = [.clientOutput, .feLayer 0] ∧
        ds.map Prod.fst ≠ [.feLayer 0] ++ [.clientOutput] ++ [] :=
  ⟨⟨by decide, by decide, by decide, by decide, by decide⟩,
    [(.clientOutput, { bi := some {}, fb := some 0 }),
      (.feLayer 0, { bi := some {}, fb := some 0 })], by decide, by decide, by decide⟩

end GloDroid.HwComposer

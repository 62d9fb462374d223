import GloDroid.HwComposer.StackingOrder

/-!
# Importing the Same Layers Again

A test commit imports the buffers of the layers it plans, and the next one finds them imported.

- `importLayers_eq` gives `importLayers` in closed form: the layers it writes are those it imports
  one by one, and the data it collects are theirs.
- `populateLayerData_again`: a layer whose buffer was imported yields the same data when it is
  imported again, whatever has happened to its composition types and flags in between.

`ImportFb` itself is outside the patches; what is used of it is its first statement, by which a
layer that is not usable or whose buffer has not been updated is skipped (`ImportsOnce`).
-/

namespace GloDroid.HwComposer

open GloDroid.Base

/-! ## One layer -/

/-- `ImportFb` returns at once for a layer that is not usable or whose buffer was not updated, and
else begins with `buffer_handle_updated_ = false`. -/
structure ImportsOnce (importResult : HwcLayer → ImportResult) : Prop where
  skipped : ∀ l : HwcLayer, l.isLayerUsableAsDevice = false ∨ l.bufferHandleUpdated = false →
    l.importFb (importResult l) = l
  taken : ∀ l : HwcLayer, l.isLayerUsableAsDevice = true →
    (importResult l).bufferHandleUpdated = false

/-- Two layers that agree in what `PopulateLayerData` reads. -/
structure HwcLayer.SameBuffer (l l' : HwcLayer) : Prop where
  layerData : l'.layerData = l.layerData
  bufferHandle : l'.bufferHandle = l.bufferHandle
  bufferHandleUpdated : l'.bufferHandleUpdated = l.bufferHandleUpdated
  biGetFailed : l'.biGetFailed = l.biGetFailed
  fbImportFailed : l'.fbImportFailed = l.fbImportFailed
  blendMode : l'.blendMode = l.blendMode
  colorSpace : l'.colorSpace = l.colorSpace
  sampleRange : l'.sampleRange = l.sampleRange

namespace HwcLayer

theorem SameBuffer.refl (l : HwcLayer) : l.SameBuffer l := ⟨rfl, rfl, rfl, rfl, rfl, rfl, rfl, rfl⟩

theorem SameBuffer.trans {l l' l'' : HwcLayer} (h : l.SameBuffer l') (h' : l'.SameBuffer l'') :
    l.SameBuffer l'' :=
  ⟨h'.layerData.trans h.layerData, h'.bufferHandle.trans h.bufferHandle,
    h'.bufferHandleUpdated.trans h.bufferHandleUpdated, h'.biGetFailed.trans h.biGetFailed,
    h'.fbImportFailed.trans h.fbImportFailed, h'.blendMode.trans h.blendMode,
    h'.colorSpace.trans h.colorSpace, h'.sampleRange.trans h.sampleRange⟩

theorem SameBuffer.isLayerUsableAsDevice {l l' : HwcLayer} (h : l.SameBuffer l') :
    l'.isLayerUsableAsDevice = l.isLayerUsableAsDevice := by
  unfold HwcLayer.isLayerUsableAsDevice
  rw [h.biGetFailed, h.fbImportFailed, h.bufferHandle]

/-- `PopulateLayerData` succeeds exactly with buffer info and a usable layer. -/
theorem populateLayerData_of_ok {importResult : HwcLayer → ImportResult} {l : HwcLayer}
    (hok : (l.populateLayerData importResult).2 = true) :
    ∃ bi, (importResult l).bi = some bi ∧
      (l.populateLayerData importResult).1 =
        { l.importFb (importResult l) with
          layerData := { (l.importFb (importResult l)).layerData with
            bi := some (l.overrideBufferInfo bi) } } ∧
      (l.populateLayerData importResult).1.isLayerUsableAsDevice = true := by
  unfold populateLayerData at hok ⊢
  dsimp only at hok ⊢
  cases hbi : (importResult l).bi with
  | none =>
    have hnone : (l.importFb (importResult l)).layerData.bi = none := hbi
    rw [hnone] at hok
    cases hok
  | some bi =>
    have hsome : (l.importFb (importResult l)).layerData.bi = some bi := hbi
    rw [hsome] at hok ⊢
    exact ⟨bi, rfl, rfl, hok⟩

/-- The frontend's values override those of the buffer info once and for all. -/
theorem overrideBufferInfo_idem (l : HwcLayer) (bi : BufferInfo) :
    l.overrideBufferInfo (l.overrideBufferInfo bi) = l.overrideBufferInfo bi := by
  simp only [overrideBufferInfo]
  split_ifs <;> rfl

/-- **An imported layer is imported again without effect**: the data it yields are the same. -/
theorem populateLayerData_again {importResult : HwcLayer → ImportResult}
    (honce : ImportsOnce importResult) {l l' : HwcLayer}
    (hok : (l.populateLayerData importResult).2 = true)
    (hsame : (l.populateLayerData importResult).1.SameBuffer l') :
    (l'.populateLayerData importResult).2 = true ∧
      (l'.populateLayerData importResult).1.layerData =
        (l.populateLayerData importResult).1.layerData := by
  obtain ⟨bi, hbi, hresult, husable⟩ := populateLayerData_of_ok hok
  -- the first import was a real one, so the buffer counts as imported
  have hbefore : l.isLayerUsableAsDevice = true := by
    by_contra hnot
    have hskipped := honce.skipped l (Or.inl (Bool.eq_false_of_not_eq_true hnot))
    rw [hresult, hskipped] at husable
    exact hnot husable
  have hdone : l'.bufferHandleUpdated = false := by
    rw [hsame.bufferHandleUpdated, hresult]
    exact honce.taken l hbefore
  have hskip : l'.importFb (importResult l') = l' := honce.skipped l' (Or.inr hdone)
  have hinfo : l'.layerData.bi = some (l.overrideBufferInfo bi) := by
    rw [hsame.layerData, hresult]
  have hover : l'.overrideBufferInfo (l.overrideBufferInfo bi) = l.overrideBufferInfo bi := by
    have hb : l'.blendMode = l.blendMode := by rw [hsame.blendMode, hresult]; rfl
    have hc : l'.colorSpace = l.colorSpace := by rw [hsame.colorSpace, hresult]; rfl
    have hr : l'.sampleRange = l.sampleRange := by rw [hsame.sampleRange, hresult]; rfl
    have hfields : ∀ b, l'.overrideBufferInfo b = l.overrideBufferInfo b := by
      intro b
      unfold overrideBufferInfo
      rw [hb, hc, hr]
    rw [hfields, overrideBufferInfo_idem]
  have hpopulate : l'.populateLayerData importResult = (l', l'.isLayerUsableAsDevice) := by
    unfold populateLayerData
    rw [hskip]
    dsimp only
    rw [hinfo]
    dsimp only
    rw [hover, ← hinfo]
  rw [hpopulate]
  exact ⟨hsame.isLayerUsableAsDevice.trans husable, hsame.layerData⟩

end HwcLayer

/-! ## All layers -/

/-- Every scanout layer among `refs` can be processed. -/
def AllImport (env : PipeEnv) (comp : FEComposition) (refs : List LayerRef) : Prop :=
  ∀ r ∈ refs, comp.isClient r = false →
    ((comp.deref r).populateLayerData env.importResult).2 = true

instance (env : PipeEnv) (comp : FEComposition) (refs : List LayerRef) :
    Decidable (AllImport env comp refs) :=
  inferInstanceAs (Decidable (∀ r ∈ refs, _))

/-- The data collected for the scanout layers among `refs`. -/
def importedData (env : PipeEnv) (comp : FEComposition) (refs : List LayerRef) :
    List (LayerRef × LayerData) :=
  (refs.filter fun r => !comp.isClient r).map fun r =>
    (r, ((comp.deref r).populateLayerData env.importResult).1.layerData)

theorem allImport_cons {env : PipeEnv} {comp : FEComposition} {r : LayerRef}
    {rest : List LayerRef} :
    AllImport env comp (r :: rest) ↔
      (comp.isClient r = false →
        ((comp.deref r).populateLayerData env.importResult).2 = true) ∧
      AllImport env comp rest :=
  List.forall_mem_cons

theorem importedData_cons (env : PipeEnv) (comp : FEComposition) (r : LayerRef)
    (rest : List LayerRef) :
    importedData env comp (r :: rest) =
      if comp.isClient r then importedData env comp rest
      else (r, ((comp.deref r).populateLayerData env.importResult).1.layerData) ::
        importedData env comp rest := by
  unfold importedData
  by_cases hc : comp.isClient r = true
  · rw [List.filter_cons_of_neg (by simp [hc]), if_pos hc]
  · rw [List.filter_cons_of_pos (by simp [hc]), if_neg hc, List.map_cons]

/-- What the layers in `refs` yield depends only on their flags and their import. -/
theorem importedData_congr {env env' : PipeEnv} {comp comp' : FEComposition} {refs : List LayerRef}
    (hclient : ∀ r ∈ refs, comp'.isClient r = comp.isClient r)
    (hdata : ∀ r ∈ refs, comp.isClient r = false →
      ((comp'.deref r).populateLayerData env'.importResult).1.layerData =
        ((comp.deref r).populateLayerData env.importResult).1.layerData) :
    importedData env' comp' refs = importedData env comp refs := by
  unfold importedData
  rw [List.filter_congr fun r hr => congrArg not (hclient r hr)]
  apply List.map_congr_left
  intro r hr
  obtain ⟨hmem, hscanout⟩ := List.mem_filter.mp hr
  rw [hdata r hmem (by simpa using hscanout)]

/-- Importing leaves alone what is not in `refs` or left to the client. -/
theorem importLayers_deref {env : PipeEnv} {comp : FEComposition} {refs : List LayerRef}
    {r : LayerRef} (hr : r ∉ refs ∨ comp.isClient r = true) :
    (importLayers env comp refs).1.deref r = comp.deref r := by
  induction refs generalizing comp with
  | nil => rfl
  | cons r₀ rest ih =>
    have hrest : r ∉ rest ∨ comp.isClient r = true :=
      hr.imp_left fun h hmem => h (List.mem_cons_of_mem _ hmem)
    unfold importLayers
    by_cases hc : comp.isClient r₀ = true
    · rw [if_pos hc]
      exact ih hrest
    · rw [if_neg hc]
      dsimp only
      have hne : r ≠ r₀ := by
        rintro rfl
        exact hr.elim (fun h => h List.mem_cons_self) hc
      set imported := ((comp.deref r₀).populateLayerData env.importResult).1
      have hsame : (comp.modify r₀ fun _ => imported).deref r = comp.deref r :=
        FEComposition.deref_modify_of_ne hne _
      split_ifs
      · rw [ih, hsame]
        exact hrest.imp_right fun h => by rwa [FEComposition.isClient, hsame]
      · exact hsame

/-- **The import loop in closed form**: it collects the data of all scanout layers, or nothing when
one of them cannot be processed. -/
theorem importLayers_eq (env : PipeEnv) (comp : FEComposition) {refs : List LayerRef}
    (hnodup : refs.Nodup) :
    (importLayers env comp refs).2 =
      if AllImport env comp refs then some (importedData env comp refs) else none := by
  induction refs generalizing comp with
  | nil => simp [importLayers, AllImport, importedData]
  | cons r rest ih =>
    obtain ⟨hnot, hrest⟩ := List.nodup_cons.mp hnodup
    unfold importLayers
    by_cases hc : comp.isClient r = true
    · have hall : AllImport env comp (r :: rest) ↔ AllImport env comp rest :=
        allImport_cons.trans (and_iff_right fun h => absurd (h.symm.trans hc) (by decide))
      rw [if_pos hc, ih comp hrest, importedData_cons, if_pos hc, if_congr hall rfl rfl]
    · have hscanout : comp.isClient r = false := Bool.eq_false_of_not_eq_true hc
      rw [if_neg hc]
      dsimp only
      set comp₁ := comp.modify r fun _ => ((comp.deref r).populateLayerData env.importResult).1
      -- the layers that follow are other layers
      have hsame : ∀ r' ∈ rest, comp₁.deref r' = comp.deref r' :=
        FEComposition.deref_modify_of_mem hnot _
      have hall : AllImport env comp₁ rest ↔ AllImport env comp rest := by
        unfold AllImport FEComposition.isClient
        exact forall₂_congr fun r' hr' => by rw [hsame r' hr']
      have hdata : importedData env comp₁ rest = importedData env comp rest := by
        apply importedData_congr
        · intro r' hr'
          unfold FEComposition.isClient
          rw [hsame r' hr']
        · intro r' hr' _
          rw [hsame r' hr']
      by_cases hok : ((comp.deref r).populateLayerData env.importResult).2 = true
      · have hall' : AllImport env comp (r :: rest) ↔ AllImport env comp rest :=
          allImport_cons.trans (and_iff_right fun _ => hok)
        rw [if_pos hok, ih comp₁ hrest, if_congr hall rfl rfl, if_congr hall' rfl rfl, hdata,
          importedData_cons, if_neg hc]
        split_ifs <;> rfl
      · rw [if_neg hok, if_neg]
        exact fun h => hok ((allImport_cons.mp h).1 hscanout)

/-- After a successful import each scanout layer is as its own import left it. -/
theorem importLayers_imported {env : PipeEnv} {comp : FEComposition} {refs : List LayerRef}
    (hnodup : refs.Nodup) (hvalid : ∀ r ∈ refs, comp.Valid r) (hall : AllImport env comp refs)
    {r : LayerRef} (hr : r ∈ refs) (hscanout : comp.isClient r = false) :
    (importLayers env comp refs).1.deref r =
      ((comp.deref r).populateLayerData env.importResult).1 := by
  induction refs generalizing comp with
  | nil => cases hr
  | cons r₀ rest ih =>
    obtain ⟨hnot, hrest⟩ := List.nodup_cons.mp hnodup
    obtain ⟨hhead, htail⟩ := allImport_cons.mp hall
    have hvalidRest : ∀ r ∈ rest, comp.Valid r := fun r hr => hvalid r (List.mem_cons_of_mem _ hr)
    unfold importLayers
    by_cases hc : comp.isClient r₀ = true
    · have hmem : r ∈ rest := by
        apply (List.mem_cons.mp hr).resolve_left
        rintro rfl
        exact absurd (hscanout.symm.trans hc) (by decide)
      rw [if_pos hc]
      exact ih hrest hvalidRest htail hmem hscanout
    · rw [if_neg hc]
      dsimp only
      rw [if_pos (hhead (Bool.eq_false_of_not_eq_true hc))]
      set comp₁ := comp.modify r₀ fun _ => ((comp.deref r₀).populateLayerData env.importResult).1
        with hcomp₁
      have hsame : ∀ r' ∈ rest, comp₁.deref r' = comp.deref r' :=
        FEComposition.deref_modify_of_mem hnot _
      by_cases heq : r = r₀
      · -- the rest of the loop does not come back to it
        subst heq
        dsimp only
        rw [importLayers_deref (Or.inl hnot), hcomp₁,
          FEComposition.deref_modify_self (hvalid r hr)]
      · have hmem : r ∈ rest := (List.mem_cons.mp hr).resolve_left heq
        dsimp only
        rw [ih hrest _ _ hmem, hsame r hmem]
        · unfold FEComposition.isClient
          rwa [hsame r hmem]
        · intro r' hr'
          exact (hvalidRest r' hr').modify r₀ _
        · -- what is known of the rest is about layers that are still the same
          intro r' hr' hclient
          rw [hsame r' hr']
          apply htail r' hr'
          unfold FEComposition.isClient at hclient ⊢
          rwa [hsame r' hr'] at hclient

end GloDroid.HwComposer

import GloDroid.HwComposer.CheapestWindow
import GloDroid.HwComposer.RepeatedImport
import GloDroid.HwComposer.ScalerLimits

/-!
# Validation after Acceptance

`AcceptDisplayChanges` turns every layer the compositor gave to the client into one the framework
asks the client to compose. The next `ValidateDisplay` begins with those layers as client layers
and comes to the same selection: the client range it finds is the window selected before, which
fits the planes and is not extended again, and the test commit sees the same plan.
-/

namespace GloDroid.HwComposer

open GloDroid.Base

/-! ## What a present returns -/

/-- The pointers `PresentComposition` goes through are the z-ordered layers and, when there are
client layers, the client target. -/
theorem refs_presentedLayers_perm (comp : FEComposition) :
    (presentedLayers comp).refs.Perm
      (if 0 < (getOrderedLayers comp).2.size then
        LayerRef.clientOutput :: (orderedLayers comp).refs
      else (orderedLayers comp).refs) := by
  have hlayers : (getOrderedLayers comp).1 = orderedLayers comp := rfl
  unfold presentedLayers
  dsimp only
  rw [hlayers]
  split_ifs
  · exact (MultiMap.emplace_perm _ _ _).map Prod.snd
  · exact List.Perm.refl _

theorem clientOutput_notMem_refs (comp : FEComposition) :
    LayerRef.clientOutput ∉ (orderedLayers comp).refs := by
  intro hmem
  obtain ⟨k, -, hk⟩ := mem_refs_iff.mp hmem
  cases hk

theorem nodup_presentedLayers (comp : FEComposition) : (presentedLayers comp).refs.Nodup := by
  rw [(refs_presentedLayers_perm comp).nodup_iff]
  split_ifs
  · exact List.nodup_cons.mpr ⟨clientOutput_notMem_refs comp, nodup_refs comp⟩
  · exact nodup_refs comp

theorem mem_presentedLayers {comp : FEComposition} {r : LayerRef}
    (hr : r ∈ (presentedLayers comp).refs) :
    r ∈ (orderedLayers comp).refs ∨ r = .clientOutput := by
  have hmem := (refs_presentedLayers_perm comp).mem_iff.mp hr
  split_ifs at hmem
  · exact (List.mem_cons.mp hmem).symm
  · exact Or.inl hmem

theorem mem_presentedLayers_of_mem {comp : FEComposition} {r : LayerRef}
    (hr : r ∈ (orderedLayers comp).refs) : r ∈ (presentedLayers comp).refs := by
  rw [(refs_presentedLayers_perm comp).mem_iff]
  split_ifs
  · exact List.mem_cons_of_mem _ hr
  · exact hr

theorem valid_of_mem_refs {comp : FEComposition} {r : LayerRef}
    (hr : r ∈ (orderedLayers comp).refs) : comp.Valid r := by
  obtain ⟨k, hk, rfl⟩ := mem_refs_iff.mp hr
  exact FEComposition.valid_feLayer_iff.mpr hk

theorem valid_of_mem_presentedLayers {comp : FEComposition} {r : LayerRef}
    (hr : r ∈ (presentedLayers comp).refs) : comp.Valid r := by
  rcases mem_presentedLayers hr with h | rfl
  · exact valid_of_mem_refs h
  · trivial

/-- **What decides about a present**: whether there are layers, all scanout layers can be processed,
a plan exists for their data and the commit accepts it. -/
theorem presentComposition_ret_eq_zero_iff (env : PipeEnv) (flatcon : Option FlatteningController)
    (comp : FEComposition) (args : AtomicCommitArgs) :
    (presentComposition env flatcon comp args).ret = 0 ↔
      (presentedLayers comp).refs.isEmpty = false ∧
        AllImport env comp (presentedLayers comp).refs ∧
        env.createPlan ((importedData env comp (presentedLayers comp).refs).map Prod.snd) = true ∧
        (env.commit args ((importedData env comp (presentedLayers comp).refs).map Prod.snd)).ret =
          0 := by
  have hinval : ¬ negEINVAL = 0 := by decide
  have himport := importLayers_eq env comp (nodup_presentedLayers comp)
  unfold presentComposition
  dsimp only
  by_cases hempty : (presentedLayers comp).refs.isEmpty = true
  · rw [if_pos hempty]
    exact iff_of_false hinval fun h => absurd (h.1.symm.trans hempty) (by decide)
  · rw [if_neg hempty, Bool.eq_false_of_not_eq_true hempty, eq_self_iff_true, true_and]
    by_cases hall : AllImport env comp (presentedLayers comp).refs
    · -- all buffers are there: the plan and the commit decide
      rw [if_pos hall] at himport
      split
      next heq => rw [heq] at himport; cases himport
      next ds heq =>
        rw [heq] at himport
        obtain rfl := Option.some.inj himport
        split_ifs with hplan hret htest
        · exact iff_of_false hret fun h => hret h.2.2
        · exact iff_of_true rfl ⟨hall, hplan, not_not.mp hret⟩
        · exact iff_of_true rfl ⟨hall, hplan, not_not.mp hret⟩
        · exact iff_of_false hinval fun h => hplan h.2.1
    · rw [if_neg hall] at himport
      split
      next heq => exact iff_of_false hinval fun h => hall h.1
      next heq => rw [heq] at himport; cases himport

/-- Whatever the outcome, the layers are left as the import left them. -/
theorem presentComposition_comp (env : PipeEnv) (flatcon : Option FlatteningController)
    (comp : FEComposition) (args : AtomicCommitArgs)
    (hlayers : (presentedLayers comp).refs.isEmpty = false) :
    (presentComposition env flatcon comp args).comp =
      (importLayers env comp (presentedLayers comp).refs).1 := by
  unfold presentComposition
  dsimp only
  rw [hlayers, if_neg Bool.false_ne_true]
  split
  next heq => rw [heq]
  next heq =>
    rw [heq]
    split_ifs <;> rfl

/-! ## The range found again -/

/-- `GetOrderedLayers` reports the range whose window the client layers fill. -/
theorem range_of_window {comp : FEComposition} {range : ClientRange}
    (hwithin : range.Within (orderedLayers comp).refs.length)
    (h : ClientWindow comp (toSizeT range.start) range.size) :
    (getOrderedLayers comp).2 = range := by
  obtain ⟨hbelow, hrun, habove⟩ := window_parts (p := fun r => comp.isClient r = true) h
  rcases hwithin with ⟨hstart, hsize⟩ | ⟨hpos, hsize, hfit⟩
  · -- no client layer at all
    have hnone : ∀ r ∈ (orderedLayers comp).refs, comp.isClient r = false := by
      intro r hr
      obtain ⟨i, hi, rfl⟩ := List.mem_iff_getElem.mp hr
      rw [← Bool.not_eq_true, h i hi, hsize]
      exact not_inWindow_zero _ _
    have hscan := scanClientRange_of_scanout hnone 0 {}
    rw [getOrderedLayers, hscan]
    exact ClientRange.eq_of_fields hstart.symm hsize.symm
  · rw [toSizeT_of_nonneg hpos] at hbelow hrun habove
    have hrun_length : (((orderedLayers comp).refs.drop range.start.toNat).take range.size).length =
        range.size := by
      rw [List.length_take, List.length_drop]
      omega
    have hclients : ClientRun comp ((orderedLayers comp).refs.take range.start.toNat)
        (((orderedLayers comp).refs.drop range.start.toNat).take range.size)
        (((orderedLayers comp).refs.drop range.start.toNat).drop range.size) := by
      refine ⟨window_split _ _ _, fun r hr => ?_, hrun, fun r hr => ?_, ?_⟩
      · exact Bool.eq_false_of_not_eq_true (hbelow r hr)
      · exact Bool.eq_false_of_not_eq_true (habove r hr)
      · apply List.ne_nil_of_length_pos
        omega
    rw [hclients.range_eq, hrun_length, List.length_take]
    apply ClientRange.eq_of_fields
    · dsimp only
      omega
    · rfl

/-- A range that leaves enough planes is not extended. -/
theorem extendClientRange_of_fits {usablePlanes : Nat} (comp : FEComposition)
    {layers : OrderedLayers} {range : ClientRange}
    (hfits : layers.refs.length - range.size + (if range.size = 0 then 0 else 1) ≤ usablePlanes) :
    extendClientRange usablePlanes comp layers range = range := by
  unfold extendClientRange
  dsimp only
  rw [if_neg]
  obtain ⟨_, h⟩ | ⟨_, h⟩ := availPlanes_cases usablePlanes layers.refs.length <;>
    split_ifs at hfits <;> omega

theorem deref_modify_asClient {comp : FEComposition} {r : LayerRef}
    (hclient : comp.isClient r = true) (r' : LayerRef) :
    (comp.modify r HwcLayer.asClient).deref r' = comp.deref r' := by
  have hsame : comp.deref r = (comp.deref r).asClient := by
    have huse : (comp.deref r).useClient = true := hclient
    unfold HwcLayer.asClient
    rw [← huse]
  exact ((FEComposition.Rel.modify (R := Eq) (fun _ => rfl) hsame).layer r').symm

/-- Marking client layers as client layers changes nothing. -/
theorem deref_markClient_of_window {comp : FEComposition} {first size : Nat}
    (h : ClientWindow comp first size) (r : LayerRef) :
    (markClient (orderedLayers comp) comp first size).deref r = comp.deref r := by
  unfold markClient
  rw [deref_markLoop (fun r => valid_of_mem_refs) (nodup_refs comp)]
  split_ifs with hwin
  · obtain ⟨i, hi, rfl, hi'⟩ := hwin
    rw [Nat.zero_add] at hi'
    have hclient : (comp.deref (orderedLayers comp).refs[i]).useClient = true := (h i hi).mpr hi'
    unfold HwcLayer.asClient
    rw [← hclient]
  · rfl

/-! ## The selection repeated -/

/-- Two calls that find the same pipeline: the answers of the plan and of the commit depend on
nothing but what is planned. Time may have passed. -/
structure SamePipe (env env' : PipeEnv) : Prop where
  usablePlanes : env'.usablePlanes = env.usablePlanes
  importResult : env'.importResult = env.importResult
  createPlan : env'.createPlan = env.createPlan
  commit : ∀ args data, (env'.commit args data).ret = (env.commit args data).ret
  roundFloat : env'.roundFloat = env.roundFloat

/-- A selection starts on `comp'` from the client flags and the imports that one ended with on
`comp`. -/
structure Resumes (comp comp' : FEComposition) : Prop where
  layers : orderedLayers comp' = orderedLayers comp
  client : comp'.isClient = comp.isClient
  buffer : ∀ r, (comp.deref r).SameBuffer (comp'.deref r)

/-- The arguments of the test commit. -/
def testArgs : AtomicCommitArgs := { testOnly := true, allowFail := true }

/-- `ExtendClientRange` on the range `GetOrderedLayers` reports. -/
def grownRange (env : PipeEnv) (comp : FEComposition) : ClientRange :=
  extendClientRange env.usablePlanes comp (orderedLayers comp) (getOrderedLayers comp).2

/-- The composition `SelectClientLayers` tests. -/
def testedComposition (env : PipeEnv) (comp : FEComposition) : FEComposition :=
  markClient (orderedLayers comp) comp (toSizeT (grownRange env comp).start)
    (grownRange env comp).size

/-- The selection without a flatten request. -/
theorem selectGeneric_eq (env : PipeEnv) {flatcon : Option FlatteningController}
    (hflatten : flatcon.any (·.shouldFlatten) = false) (comp : FEComposition) :
    selectGeneric env flatcon comp =
      if (grownRange env comp).start ≠ 0 ∨
          (grownRange env comp).size ≠ (orderedLayers comp).refs.length then
        if (presentComposition env flatcon (testedComposition env comp) testArgs).ret ≠ 0 then
          markClient (orderedLayers comp)
            (presentComposition env flatcon (testedComposition env comp) testArgs).comp 0
            (orderedLayers comp).refs.length
        else (presentComposition env flatcon (testedComposition env comp) testArgs).comp
      else testedComposition env comp := by
  have hlayers : (getOrderedLayers comp).1 = orderedLayers comp := rfl
  unfold selectGeneric
  dsimp only
  rw [hlayers, hflatten, if_neg Bool.false_ne_true]
  rfl

/-- Without a flatten request everything is left to the client, or the grown range is, with a test
commit that succeeded. -/
theorem selectGeneric_tested (env : PipeEnv) {flatcon : Option FlatteningController}
    (hflatten : flatcon.any (·.shouldFlatten) = false) (comp : FEComposition) :
    ClientWindow (selectGeneric env flatcon comp) 0 (orderedLayers comp).refs.length ∨
      ((presentComposition env flatcon (testedComposition env comp) testArgs).ret = 0 ∧
        selectGeneric env flatcon comp =
          (presentComposition env flatcon (testedComposition env comp) testArgs).comp) := by
  have hmark : comp.Rel HwcLayer.Selected (testedComposition env comp) := markClient_rel _ _ _ _
  rw [selectGeneric_eq env hflatten]
  split_ifs with hneeded hret
  · -- the test failed
    left
    exact clientWindow_markAll (hmark.trans HwcLayer.Selected.trans
      ((presentComposition_rel _ _ _ _).mono HwcLayer.Imported.selected))
  · exact Or.inr ⟨not_not.mp hret, rfl⟩
  · -- not tested: the range is the whole list
    left
    rw [not_or, not_not, not_not] at hneeded
    unfold testedComposition
    rw [hneeded.1, hneeded.2]
    exact clientWindow_markAll (.refl HwcLayer.Selected.refl comp)

/-- A test commit that succeeds leaves the client flags as they were tested. -/
theorem isClient_selectGeneric_of_passed {env : PipeEnv} {flatcon : Option FlatteningController}
    (hflatten : flatcon.any (·.shouldFlatten) = false) {comp : FEComposition}
    (hret : (presentComposition env flatcon (testedComposition env comp) testArgs).ret = 0) :
    (selectGeneric env flatcon comp).isClient = (testedComposition env comp).isClient := by
  rw [selectGeneric_eq env hflatten]
  split_ifs with hneeded
  · exact absurd hret ‹_›
  · exact isClient_of_imported (presentComposition_rel _ _ _ _)
  · rfl

/-- The pointers to present follow from the z-order and the client range. -/
theorem presentedLayers_congr {comp comp' : FEComposition}
    (hlayers : orderedLayers comp' = orderedLayers comp)
    (hrange : (getOrderedLayers comp').2 = (getOrderedLayers comp).2) :
    presentedLayers comp' = presentedLayers comp := by
  have hboth : getOrderedLayers comp' = getOrderedLayers comp := Prod.ext hlayers hrange
  unfold presentedLayers
  rw [hboth]

/-- The client layers of the tested composition fill the grown range. -/
theorem clientWindow_testedComposition (env : PipeEnv) (comp : FEComposition) :
    ClientWindow (testedComposition env comp) (toSizeT (grownRange env comp).start)
      (grownRange env comp).size := by
  obtain ⟨hwithin, hclient⟩ := getOrderedLayers_range comp
  refine clientWindow_markClient fun i hi hc => ?_
  exact extendClientRange_covers env.usablePlanes comp (orderedLayers comp) hwithin
    (hclient i hi hc)

theorem ClientWindow.congr {comp comp' : FEComposition} {first size : Nat}
    (h : ClientWindow comp first size) (hlayers : orderedLayers comp' = orderedLayers comp)
    (hclient : comp'.isClient = comp.isClient) : ClientWindow comp' first size := by
  unfold ClientWindow
  rw [hlayers, hclient]
  exact h

/-- **The test commit repeated**: with the same flags, on layers that are imported, it sees the same
plan and succeeds again. -/
theorem presentComposition_again {env env' : PipeEnv} {flatcon : Option FlatteningController}
    {comp comp' : FEComposition} {args : AtomicCommitArgs} (hpipe : SamePipe env env')
    (honce : ImportsOnce env.importResult)
    (hret : (presentComposition env flatcon comp args).ret = 0)
    (hlayers : presentedLayers comp' = presentedLayers comp)
    (hclient : comp'.isClient = comp.isClient)
    (hbuffer : ∀ r, ((presentComposition env flatcon comp args).comp.deref r).SameBuffer
      (comp'.deref r)) :
    (presentComposition env' flatcon comp' args).ret = 0 := by
  obtain ⟨hempty, hall, hplan, hcommit⟩ :=
    (presentComposition_ret_eq_zero_iff env flatcon comp args).mp hret
  rw [presentComposition_comp env flatcon comp args hempty] at hbuffer
  -- each layer was imported by the first test
  have hagain : ∀ r ∈ (presentedLayers comp).refs, comp.isClient r = false →
      ((comp'.deref r).populateLayerData env'.importResult).2 = true ∧
        ((comp'.deref r).populateLayerData env'.importResult).1.layerData =
          ((comp.deref r).populateLayerData env.importResult).1.layerData := by
    intro r hr hscanout
    have hsame := hbuffer r
    rw [importLayers_imported (nodup_presentedLayers comp)
      (fun r hr => valid_of_mem_presentedLayers hr) hall hr hscanout] at hsame
    rw [hpipe.importResult]
    exact HwcLayer.populateLayerData_again honce (hall r hr hscanout) hsame
  have hall' : AllImport env' comp' (presentedLayers comp).refs := by
    intro r hr hscanout
    rw [hclient] at hscanout
    exact (hagain r hr hscanout).1
  have hdata : importedData env' comp' (presentedLayers comp).refs =
      importedData env comp (presentedLayers comp).refs :=
    importedData_congr (fun r _ => congrFun hclient r) fun r hr hc => (hagain r hr hc).2
  apply (presentComposition_ret_eq_zero_iff env' flatcon comp' args).mpr
  rw [hlayers, hdata, hpipe.createPlan, hpipe.commit]
  exact ⟨hempty, hall', hplan, hcommit⟩

/-- What was selected is selected again, with at least one plane and well-formed frames of a total
area below `UINT32_MAX`. -/
theorem isClient_selectGeneric_again {env env' : PipeEnv} {flatcon : Option FlatteningController}
    {comp comp' : FEComposition} (hpipe : SamePipe env env')
    (honce : ImportsOnce env.importResult) (hflatten : flatcon.any (·.shouldFlatten) = false)
    (hplanes : 1 ≤ env.usablePlanes) (hframes : comp.FramesWellFormed)
    (harea : comp.totalArea < uint32Max) (hresumes : Resumes (selectGeneric env flatcon comp) comp')
    {r : LayerRef} (hr : r ∈ (orderedLayers comp).refs) :
    (selectGeneric env' flatcon comp').isClient r =
      (selectGeneric env flatcon comp).isClient r := by
  have hlayers : orderedLayers (selectGeneric env flatcon comp) = orderedLayers comp :=
    orderedLayers_of_selected (selectGeneric_rel env flatcon comp)
  have hlayers' : orderedLayers comp' = orderedLayers comp := hresumes.layers.trans hlayers
  -- no client layer is given back
  have hkeep : (selectGeneric env flatcon comp).isClient r = true →
      (selectGeneric env' flatcon comp').isClient r = true := by
    intro hc
    apply ((selectGeneric_rel env' flatcon comp').layer r).useClient
    rw [← hresumes.client] at hc
    exact hc
  rcases selectGeneric_tested env hflatten comp with hall | ⟨hret, hselected⟩
  · -- everything was left to the client
    obtain ⟨i, hi, rfl⟩ := List.mem_iff_getElem.mp hr
    unfold ClientWindow at hall
    rw [hlayers] at hall
    have hclient := (hall i hi).mpr ⟨Nat.zero_le i, by omega⟩
    rw [hclient, hkeep hclient]
  · have himported : (testedComposition env comp).Rel HwcLayer.Imported
        (selectGeneric env flatcon comp) := hselected ▸ presentComposition_rel _ _ _ _
    have htestedLayers : orderedLayers (testedComposition env comp) = orderedLayers comp :=
      orderedLayers_of_selected (markClient_rel _ _ _ _)
    have hclient : comp'.isClient = (testedComposition env comp).isClient :=
      hresumes.client.trans (isClient_of_imported himported)
    have hwindow := clientWindow_testedComposition env comp
    have hwindow' := hwindow.congr (hlayers'.trans htestedLayers.symm) hclient
    obtain ⟨hwithin, hfits⟩ := extendClientRange_fits (getOrderedLayers_range comp).1 hplanes
      (calcPixOps_lt hframes harea · · true)
    -- the range found is the one selected, and it is not extended
    have hrange : (getOrderedLayers (testedComposition env comp)).2 = grownRange env comp :=
      range_of_window (by rw [htestedLayers]; exact hwithin) hwindow
    have hrange' : (getOrderedLayers comp').2 = grownRange env comp :=
      range_of_window (by rw [hlayers']; exact hwithin) hwindow'
    have hgrown : grownRange env' comp' = grownRange env comp := by
      rw [grownRange, hrange', hlayers', hpipe.usablePlanes]
      exact extendClientRange_of_fits comp' hfits
    have hderef : ∀ r, (testedComposition env' comp').deref r = comp'.deref r := by
      intro r
      rw [testedComposition, hgrown]
      exact deref_markClient_of_window hwindow' r
    have hsameClient : (testedComposition env' comp').isClient =
        (testedComposition env comp).isClient := by
      rw [← hclient]
      funext r
      exact congrArg (·.useClient) (hderef r)
    have htestedLayers' : orderedLayers (testedComposition env' comp') =
        orderedLayers (testedComposition env comp) :=
      ((orderedLayers_of_selected (markClient_rel _ _ _ _)).trans hlayers').trans
        htestedLayers.symm
    have hpresented := presentedLayers_congr htestedLayers' <| by
      rw [hrange]
      apply range_of_window
      · rw [htestedLayers', htestedLayers]
        exact hwithin
      · exact hwindow.congr htestedLayers' hsameClient
    have hagain := presentComposition_again hpipe honce hret hpresented hsameClient fun r => by
      rw [← hselected, hderef]
      exact hresumes.buffer r
    rw [isClient_selectGeneric_of_passed hflatten hagain, hsameClient,
      isClient_of_imported himported]

/-! ## The sunxi rule repeated -/

/-- The marking loop changes nothing when it meets only client layers and layers the scaler can
handle. -/
theorem deref_sunxiLoop_of_fits {env : PipeEnv} {mostBottom : Bool} {comp : FEComposition}
    {refs : List LayerRef} (hnodup : refs.Nodup)
    (hfits : ∀ r ∈ refs, comp.isClient r = false →
      exceedsScaler env (mostBottom && decide (refs.head? = some r))
        (comp.deref r).layerData.pi = false) (r : LayerRef) :
    (sunxiLoop env mostBottom comp refs).deref r = comp.deref r := by
  induction refs generalizing mostBottom comp with
  | nil => rfl
  | cons r₀ rest ih =>
    obtain ⟨hnot, hrest⟩ := List.nodup_cons.mp hnodup
    unfold sunxiLoop
    set comp₁ := if exceedsScaler env mostBottom (comp.deref r₀).layerData.pi then
      comp.modify r₀ HwcLayer.asClient else comp with hcomp₁
    have hsame : ∀ r, comp₁.deref r = comp.deref r := by
      intro r
      rw [hcomp₁]
      split_ifs with hexceeds
      · -- only a client layer is above its limit
        have hclient : comp.isClient r₀ = true := by
          by_contra hc
          have hfit := hfits r₀ List.mem_cons_self (Bool.eq_false_of_not_eq_true hc)
          rw [List.head?_cons, decide_eq_true rfl, Bool.and_true, hexceeds] at hfit
          cases hfit
        exact deref_modify_asClient hclient r
      · rfl
    dsimp only
    rw [ih hrest, hsame]
    intro r hr hclient
    have hne : ¬ (r₀ :: rest).head? = some r := by
      rintro heq
      exact hnot (Option.some.inj heq ▸ hr)
    unfold FEComposition.isClient at hclient hfits
    rw [hsame] at hclient
    have hfit := hfits r (List.mem_cons_of_mem _ hr) hclient
    rw [decide_eq_false hne, Bool.and_false] at hfit
    rw [hsame, Bool.false_and]
    exact hfit

/-- The sunxi rule marks nothing new on a composition that resumes from its selection. -/
theorem resumes_sunxiMark {env env' : PipeEnv} {flatcon : Option FlatteningController}
    {comp comp' : FEComposition} (hround : env'.roundFloat = env.roundFloat)
    (hresumes : Resumes (selectSunxi env flatcon comp) comp') :
    Resumes (selectSunxi env flatcon comp) (sunxiMark env' comp') := by
  have hrel : comp.Rel HwcLayer.Selected (selectSunxi env flatcon comp) :=
    selectClientLayers_rel env flatcon comp .sunxi
  have hlayers : orderedLayers comp' = orderedLayers comp :=
    hresumes.layers.trans (orderedLayers_of_selected hrel)
  have hsame : ∀ r, (sunxiMark env' comp').deref r = comp'.deref r := by
    -- a layer that was not selected is within the limit, and its data is the same
    apply deref_sunxiLoop_of_fits (nodup_refs comp')
    intro r hr hclient
    have hmem : r ∈ (orderedLayers comp).refs := hlayers ▸ hr
    obtain ⟨k, hk, rfl⟩ := mem_refs_iff.mp hmem
    rw [hresumes.client] at hclient
    have hpi : (comp'.deref (.feLayer k)).layerData.pi = comp.pi k := by
      rw [(hresumes.buffer (.feLayer k)).layerData]
      exact (hrel.layer (.feLayer k)).pi
    rw [exceedsScaler_congr hround, hpi, hlayers, Bool.true_and]
    exact selectSunxi_fits flatcon hk hclient
  refine ⟨(orderedLayers_of_selected (sunxiMark_rel env' comp')).trans hresumes.layers, ?_,
    fun r => ?_⟩
  · rw [← hresumes.client]
    funext r
    exact congrArg (·.useClient) (hsame r)
  · rw [hsame]
    exact hresumes.buffer r

/-! ## The display after acceptance -/

/-- A scanout layer of the selection can be imported. -/
theorem usable_of_selectGeneric {env : PipeEnv} {flatcon : Option FlatteningController}
    (hflatten : flatcon.any (·.shouldFlatten) = false) {comp : FEComposition} {k : Nat}
    (hk : k ∈ comp.keys)
    (hscanout : (selectGeneric env flatcon comp).isClient (.feLayer k) = false) :
    ((selectGeneric env flatcon comp).deref (.feLayer k)).isLayerUsableAsDevice = true := by
  have hlayers : orderedLayers (selectGeneric env flatcon comp) = orderedLayers comp :=
    orderedLayers_of_selected (selectGeneric_rel env flatcon comp)
  have hmem : LayerRef.feLayer k ∈ (orderedLayers comp).refs := mem_refs_iff.mpr ⟨k, hk, rfl⟩
  rcases selectGeneric_tested env hflatten comp with hall | ⟨hret, hselected⟩
  · -- everything is left to the client
    obtain ⟨i, hi, heq⟩ := List.mem_iff_getElem.mp hmem
    unfold ClientWindow at hall
    rw [hlayers] at hall
    have hclient := (hall i hi).mpr ⟨Nat.zero_le i, by omega⟩
    rw [heq, hscanout] at hclient
    cases hclient
  · obtain ⟨hempty, hall, -, -⟩ := (presentComposition_ret_eq_zero_iff _ _ _ _).mp hret
    have htested : (testedComposition env comp).isClient (.feLayer k) = false := by
      rw [← hscanout, hselected, isClient_of_imported (presentComposition_rel _ _ _ _)]
    have hpresented : LayerRef.feLayer k ∈ (presentedLayers (testedComposition env comp)).refs := by
      apply mem_presentedLayers_of_mem
      rw [testedComposition, orderedLayers_of_selected (markClient_rel _ _ _ _)]
      exact hmem
    have hok := hall _ hpresented htested
    obtain ⟨-, -, -, husable⟩ := HwcLayer.populateLayerData_of_ok hok
    rwa [hselected, presentComposition_comp _ _ _ _ hempty,
      importLayers_imported (nodup_presentedLayers _)
        (fun r hr => valid_of_mem_presentedLayers hr) hall hpresented htested]

/-- Every compositor leaves only importable layers on planes. -/
theorem usable_of_selectClientLayers {env : PipeEnv} {flatcon : Option FlatteningController}
    (hflatten : flatcon.any (·.shouldFlatten) = false) {comp : FEComposition}
    {kind : CompositorKind} {k : Nat} (hk : k ∈ comp.keys)
    (hscanout : (selectClientLayers env flatcon comp kind).isClient (.feLayer k) = false) :
    ((selectClientLayers env flatcon comp kind).deref (.feLayer k)).isLayerUsableAsDevice =
      true := by
  cases kind with
  | generic => exact usable_of_selectGeneric hflatten hk hscanout
  | client =>
    have hclient : (selectClient comp).isClient (.feLayer k) = true := isClient_selectClient hk
    exact absurd (hclient.symm.trans hscanout) (by decide)
  | sunxi =>
    apply usable_of_selectGeneric hflatten _ hscanout
    rw [(sunxiMark_rel env comp).keys]
    exact hk

/-- **The selection repeated**: every compositor selects again what it selected. -/
theorem isClient_selectClientLayers_again {env env' : PipeEnv}
    {flatcon : Option FlatteningController} {comp comp' : FEComposition} {kind : CompositorKind}
    (hpipe : SamePipe env env') (honce : ImportsOnce env.importResult)
    (hflatten : flatcon.any (·.shouldFlatten) = false) (hplanes : 1 ≤ env.usablePlanes)
    (hframes : comp.FramesWellFormed) (harea : comp.totalArea < uint32Max)
    (hresumes : Resumes (selectClientLayers env flatcon comp kind) comp')
    (hkeys : comp'.keys = comp.keys) {k : Nat} (hk : k ∈ comp.keys) :
    (selectClientLayers env' flatcon comp' kind).isClient (.feLayer k) =
      (selectClientLayers env flatcon comp kind).isClient (.feLayer k) := by
  cases kind with
  | generic =>
    exact isClient_selectGeneric_again hpipe honce hflatten hplanes hframes harea hresumes
      (mem_refs_iff.mpr ⟨k, hk, rfl⟩)
  | client =>
    have hfirst : (selectClient comp).isClient (.feLayer k) = true := isClient_selectClient hk
    have hsecond : (selectClient comp').isClient (.feLayer k) = true :=
      isClient_selectClient (hkeys ▸ hk)
    exact hsecond.trans hfirst.symm
  | sunxi =>
    have hrel := sunxiMark_rel env comp
    have hframe := selected_frames hrel
    -- the generic rule runs on what the sunxi rule has marked, which has the same frames
    apply isClient_selectGeneric_again hpipe honce hflatten hplanes _ _
      (resumes_sunxiMark hpipe.roundFloat hresumes)
    · rw [mem_refs_iff]
      exact ⟨k, hrel.keys ▸ hk, rfl⟩
    · unfold FEComposition.FramesWellFormed
      rwa [hrel.keys, hframe]
    · unfold FEComposition.totalArea
      rwa [hrel.keys, hframe]

namespace HwcDisplay

/-- A layer between two selections: validated, accepted, and asked whether it can be scanned out. -/
def recheckLayer (rules : ScanoutRules) (l : HwcLayer) : HwcLayer :=
  { (finishLayer l).acceptTypeChange with
    useClient := !(finishLayer l).acceptTypeChange.canScanout rules }

/-- The composition the validation after an acceptance begins with. -/
def resumed (d : HwcDisplay) (env : DisplayEnv) (n : Nat) : FEComposition :=
  (d.validateDisplay env n).1.acceptDisplayChanges.requestClient

theorem find?_resumed (d : HwcDisplay) (env : DisplayEnv) (n k : Nat) :
    (d.resumed env n).feLayers.find? k =
      ((d.selected env).feLayers.find? k).map (recheckLayer d.rules) := by
  simp only [resumed, requestClient, acceptDisplayChanges, validateDisplay, selected,
    OrderedMap.find?_mapVals, Option.map_map]
  rfl

theorem keys_resumed (d : HwcDisplay) (env : DisplayEnv) (n : Nat) :
    (d.resumed env n).keys = d.keys := by
  have haccept : (d.validateDisplay env n).1.acceptDisplayChanges.keys =
      (d.validateDisplay env n).1.keys := OrderedMap.keys_mapVals _ _
  have hrequest : (d.resumed env n).keys = (d.validateDisplay env n).1.acceptDisplayChanges.keys :=
    OrderedMap.keys_mapVals _ _
  exact hrequest.trans (haccept.trans (d.keys_validateDisplay env n))

theorem keys_requestClient (d : HwcDisplay) : d.requestClient.keys = d.keys :=
  OrderedMap.keys_mapVals _ _

theorem deref_requestClient {d : HwcDisplay} {k : Nat} (hk : k ∈ d.keys) :
    d.requestClient.deref (.feLayer k) =
      { d.deref (.feLayer k) with useClient := !(d.deref (.feLayer k)).canScanout d.rules } := by
  obtain ⟨l, hl⟩ := FEComposition.mem_keys_iff.mp hk
  simp [requestClient, FEComposition.deref, OrderedMap.find?_mapVals, hl]

theorem keys_selected (d : HwcDisplay) (env : DisplayEnv) : (d.selected env).keys = d.keys :=
  (selectClientLayers_rel env.toPipeEnv d.flatcon d.requestClient d.kind).keys.trans
    d.keys_requestClient

theorem deref_resumed (d : HwcDisplay) (env : DisplayEnv) (n k : Nat) :
    (d.resumed env n).deref (.feLayer k) =
      if k ∈ d.keys then recheckLayer d.rules ((d.selected env).deref (.feLayer k))
      else (d.selected env).deref (.feLayer k) := by
  have hkeys : k ∈ d.keys ↔ ∃ l, (d.selected env).feLayers.find? k = some l := by
    rw [← d.keys_selected env, FEComposition.mem_keys_iff]
  unfold FEComposition.deref
  dsimp only
  rw [find?_resumed]
  cases hfind : (d.selected env).feLayers.find? k with
  | none =>
    have hnot : k ∉ d.keys := by
      rw [hkeys, hfind]
      rintro ⟨l, hl⟩
      cases hl
    rw [if_neg hnot]
    rfl
  | some l =>
    rw [if_pos (hkeys.mpr ⟨l, hfind⟩)]
    rfl

/-- **A layer accepted as it was validated is asked for that again**: it can be scanned out exactly
if the selection left it on a plane. -/
theorem useClient_recheckLayer {d : HwcDisplay} {env : DisplayEnv}
    (hflatten : d.flatcon.any (·.shouldFlatten) = false) {k : Nat} (hk : k ∈ d.keys) :
    (recheckLayer d.rules ((d.selected env).deref (.feLayer k))).useClient =
      (d.selected env).isClient (.feLayer k) := by
  have hmem : k ∈ d.requestClient.keys := d.keys_requestClient ▸ hk
  have hrel := selectClientLayers_rel env.toPipeEnv d.flatcon d.requestClient d.kind
  unfold FEComposition.isClient
  set l := (d.selected env).deref (.feLayer k) with hl
  by_cases huse : l.useClient = true
  · -- its type is now `Client`
    rw [huse]
    simp [recheckLayer, finishLayer, HwcLayer.updateValidatedType, HwcLayer.acceptTypeChange,
      HwcLayer.canScanout, huse]
  · have hscanout : l.useClient = false := Bool.eq_false_of_not_eq_true huse
    have husable : l.isLayerUsableAsDevice = true :=
      usable_of_selectClientLayers hflatten hmem hscanout
    -- it could be scanned out before the selection, and its presentation is the same
    have hbefore : (d.requestClient.deref (.feLayer k)).useClient = false := by
      by_contra hc
      exact huse ((hrel.layer (.feLayer k)).useClient (by simpa using hc))
    have hrequest := deref_requestClient hk
    have hpi : l.layerData.pi = (d.deref (.feLayer k)).layerData.pi := by
      rw [hl, selected, (hrel.layer (.feLayer k)).pi, hrequest]
    have hscaling : (d.rules.requireScalingOrPhasing l.layerData.pi &&
        d.rules.forcedScalingWithGpu) = false := by
      rw [hrequest] at hbefore
      rw [hpi]
      by_contra hscaled
      rw [Bool.not_eq_false] at hscaled
      simp [HwcLayer.canScanout, hscaled] at hbefore
    have hfinished : (finishLayer l).acceptTypeChange.isLayerUsableAsDevice = true := husable
    rw [hscanout]
    simp only [recheckLayer, HwcLayer.canScanout]
    rw [hfinished]
    simp [finishLayer, HwcLayer.updateValidatedType, HwcLayer.acceptTypeChange, hscanout, hscaling]

/-- The composition after an acceptance resumes from the selection before. -/
theorem resumes_resumed {d : HwcDisplay} {env : DisplayEnv}
    (hflatten : d.flatcon.any (·.shouldFlatten) = false) (n : Nat) :
    Resumes (d.selected env) (d.resumed env n) := by
  have hlayer : ∀ k, ((d.resumed env n).deref (.feLayer k)).zpos =
        ((d.selected env).deref (.feLayer k)).zpos ∧
      ((d.resumed env n).deref (.feLayer k)).useClient =
        ((d.selected env).deref (.feLayer k)).useClient ∧
      ((d.selected env).deref (.feLayer k)).SameBuffer ((d.resumed env n).deref (.feLayer k)) := by
    intro k
    rw [deref_resumed]
    split_ifs with hk
    · exact ⟨rfl, useClient_recheckLayer hflatten hk, rfl, rfl, rfl, rfl, rfl, rfl, rfl, rfl⟩
    · exact ⟨rfl, rfl, .refl _⟩
  constructor
  · apply orderedLayers_congr
    · rw [keys_resumed, keys_selected]
    · exact fun k => (hlayer k).1
  · funext r
    cases r with
    | clientOutput => rfl
    | feLayer k => exact (hlayer k).2.1
  · intro r
    cases r with
    | clientOutput => exact .refl _
    | feLayer k => exact (hlayer k).2.2

theorem validatedType_validateDisplay {d : HwcDisplay} {env : DisplayEnv} {k : Nat}
    (hk : k ∈ d.keys) (n : Nat) :
    ((d.validateDisplay env n).1.deref (.feLayer k)).validatedType =
      if (d.selected env).isClient (.feLayer k) then .client else .device := by
  rw [← d.keys_selected env] at hk
  obtain ⟨l, hl⟩ := FEComposition.mem_keys_iff.mp hk
  have hfind : (d.validateDisplay env n).1.feLayers.find? k = some (finishLayer l) := by
    have hmap := OrderedMap.find?_mapVals (d.selected env).feLayers (fun _ l => finishLayer l) k
    rw [hl] at hmap
    exact hmap
  simp [FEComposition.isClient, FEComposition.deref, hfind, hl, finishLayer,
    HwcLayer.updateValidatedType]

/-- Validating asks for no other types than before. -/
theorem sfType_validateDisplay (d : HwcDisplay) (env : DisplayEnv) (n k : Nat) :
    ((d.validateDisplay env n).1.deref (.feLayer k)).sfType = (d.deref (.feLayer k)).sfType := by
  have hrel := selectClientLayers_rel env.toPipeEnv d.flatcon d.requestClient d.kind
  have hfinish : ((d.validateDisplay env n).1.deref (.feLayer k)).sfType =
      ((d.selected env).deref (.feLayer k)).sfType := by
    simp only [FEComposition.deref, validateDisplay, selected, OrderedMap.find?_mapVals]
    cases (selectClientLayers env.toPipeEnv d.flatcon d.requestClient d.kind).feLayers.find? k <;>
      rfl
  have hrequest : (d.requestClient.deref (.feLayer k)).sfType =
      (d.deref (.feLayer k)).sfType := by
    simp only [FEComposition.deref, requestClient, OrderedMap.find?_mapVals]
    cases d.feLayers.find? k <;> rfl
  exact hfinish.trans ((hrel.layer (.feLayer k)).sfType.trans hrequest)

theorem sfType_acceptDisplayChanges (d : HwcDisplay) (k : Nat) :
    (d.acceptDisplayChanges.deref (.feLayer k)).sfType =
      (d.deref (.feLayer k)).validatedType := by
  simp only [FEComposition.deref, acceptDisplayChanges, OrderedMap.find?_mapVals]
  cases d.feLayers.find? k <;> rfl

theorem frame_requestClient (d : HwcDisplay) :
    d.requestClient.frame = d.toFEComposition.frame := by
  funext k
  simp only [FEComposition.frame, FEComposition.deref, requestClient, OrderedMap.find?_mapVals]
  cases d.feLayers.find? k <;> rfl

/-- The client flags of a validation after an acceptance are those of the one before. -/
theorem isClient_validate_again {d : HwcDisplay} {env env' : DisplayEnv}
    (hpipe : SamePipe env.toPipeEnv env'.toPipeEnv) (honce : ImportsOnce env.importResult)
    (hflatten : d.flatcon.any (·.shouldFlatten) = false) (hplanes : 1 ≤ env.usablePlanes)
    (hframes : d.FramesWellFormed) (harea : d.totalArea < uint32Max) (n : Nat) {k : Nat}
    (hk : k ∈ d.keys) :
    ((d.validateDisplay env n).1.acceptDisplayChanges.selected env').isClient (.feLayer k) =
      (d.selected env).isClient (.feLayer k) := by
  have hkeys : (d.resumed env n).keys = d.requestClient.keys :=
    (d.keys_resumed env n).trans d.keys_requestClient.symm
  apply isClient_selectClientLayers_again hpipe honce hflatten hplanes _ _
    (resumes_resumed hflatten n) hkeys (d.keys_requestClient ▸ hk)
  · unfold FEComposition.FramesWellFormed
    rw [d.keys_requestClient, d.frame_requestClient]
    exact hframes
  · unfold FEComposition.totalArea
    rw [d.keys_requestClient, d.frame_requestClient]
    exact harea

end HwcDisplay

/-- **Validation settles after one acceptance**: if the answers of the pipeline depend only on what
is planned, no flatten request is pending, there is a plane and the frames are well formed with a
total area below `UINT32_MAX`, then for any layers and any compositor a `ValidateDisplay` that
follows `ValidateDisplay` and `AcceptDisplayChanges` reports no change and gives every layer the
type it had. -/
theorem validateDisplay_settles {d : HwcDisplay} (env env' : DisplayEnv)
    (hpipe : SamePipe env.toPipeEnv env'.toPipeEnv) (honce : ImportsOnce env.importResult)
    (hflatten : d.flatcon.any (·.shouldFlatten) = false) (hplanes : 1 ≤ env.usablePlanes)
    (hframes : d.FramesWellFormed) (harea : d.totalArea < 2 ^ 32 - 1) (numTypes : Nat) :
    let first := (d.validateDisplay env numTypes).1
    let second := first.acceptDisplayChanges.validateDisplay env' 0
    second.2 = (0, HwcError.none) ∧ second.1.keys = first.keys ∧
      ∀ k ∈ first.keys, (second.1.deref (.feLayer k)).validatedType =
        (first.deref (.feLayer k)).validatedType := by
  intro first second
  have hacceptKeys : first.acceptDisplayChanges.keys = first.keys := OrderedMap.keys_mapVals _ _
  have hfirstKeys : first.keys = d.keys := d.keys_validateDisplay env numTypes
  have hsecondKeys : second.1.keys = first.keys :=
    (first.acceptDisplayChanges.keys_validateDisplay env' 0).trans hacceptKeys
  have htype : ∀ k ∈ first.keys, (second.1.deref (.feLayer k)).validatedType =
      (first.deref (.feLayer k)).validatedType := by
    intro k hk
    have hdk : k ∈ d.keys := hfirstKeys ▸ hk
    rw [HwcDisplay.validatedType_validateDisplay (hacceptKeys ▸ hk) 0,
      HwcDisplay.validatedType_validateDisplay hdk numTypes,
      HwcDisplay.isClient_validate_again hpipe honce hflatten hplanes hframes harea numTypes hdk]
  -- what was accepted is what is validated
  have hunchanged : ∀ e ∈ second.1.feLayers.entries, e.2.isTypeChanged = false := by
    intro e he
    obtain ⟨hk, hderef⟩ := FEComposition.mem_entries_iff_deref.mp he
    have hsf : (second.1.deref (.feLayer e.1)).sfType =
        (first.deref (.feLayer e.1)).validatedType :=
      (HwcDisplay.sfType_validateDisplay _ _ _ _).trans (HwcDisplay.sfType_acceptDisplayChanges _ _)
    rw [← hderef, HwcLayer.isTypeChanged, hsf, htype e.1 (hsecondKeys ▸ hk)]
    simp
  have hcount : second.1.feLayers.entries.countP (fun e => e.2.isTypeChanged) = 0 :=
    List.countP_eq_zero.mpr fun e he => by simp [hunchanged e he]
  have hnumTypes : second.2.1 = 0 := by
    show 0 + second.1.feLayers.entries.countP (fun e => e.2.isTypeChanged) = 0
    rw [hcount]
  have herror : second.2.2 = HwcError.none := by
    show (if second.2.1 ≠ 0 then HwcError.hasChanges else HwcError.none) = HwcError.none
    rw [hnumTypes, if_neg (not_not.mpr rfl)]
  exact ⟨Prod.ext hnumTypes herror, hsecondKeys, htype⟩

/-- An importer that takes over every new buffer of a usable layer. -/
def importNewBuffer (l : HwcLayer) : ImportResult :=
  if l.isLayerUsableAsDevice && l.bufferHandleUpdated then
    { bi := some {}, fb := some 0, bufferHandleUpdated := false, biGetFailed := false,
      fbImportFailed := false }
  else
    { bi := l.layerData.bi, fb := l.layerData.fb, bufferHandleUpdated := l.bufferHandleUpdated,
      biGetFailed := l.biGetFailed, fbImportFailed := l.fbImportFailed }

theorem importsOnce_importNewBuffer : ImportsOnce importNewBuffer where
  skipped l h := by
    have hskip : (l.isLayerUsableAsDevice && l.bufferHandleUpdated) = false := by
      rcases h with h | h <;> simp [h]
    rw [importNewBuffer, hskip]
    rfl
  taken l h := by
    rw [importNewBuffer, h, Bool.true_and]
    split_ifs with hupdated
    · rfl
    · exact Bool.eq_false_of_not_eq_true hupdated

/-- A layer with a new buffer, meant for a plane. -/
def deviceLayer (zpos : Nat) : HwcLayer where
  zpos := zpos
  layerData := { pi := { sourceCrop := ⟨0, 64, 0, 64⟩, displayFrame := ⟨0, 64, 0, 64⟩ } }
  sfType := .device
  bufferHandle := some zpos
  bufferHandleUpdated := true

/-- Three layers meant for planes and a client target, under `CompositorSunxi`. -/
def deviceDisplay : HwcDisplay :=
  { HwcDisplay.blank .sunxi with
    feLayers := ⟨[(0, deviceLayer 0), (1, deviceLayer 1), (2, deviceLayer 2)], by decide⟩
    clientOutput := deviceLayer 0 }

/-- Two planes, and buffers are imported once. -/
def importingEnv : DisplayEnv :=
  { PipeEnv.accepting 2 with importResult := importNewBuffer }

/-- With two planes two of the three layers are changed to client layers, once. -/
theorem validateDisplay_settles_deviceDisplay :
    ((deviceDisplay.validateDisplay importingEnv 0).1.acceptDisplayChanges.validateDisplay
      importingEnv 0).2 = (0, HwcError.none) :=
  (validateDisplay_settles importingEnv importingEnv ⟨rfl, rfl, rfl, fun _ _ => rfl, rfl⟩
    importsOnce_importNewBuffer rfl (by decide) (by decide) (by decide) 0).1

end GloDroid.HwComposer

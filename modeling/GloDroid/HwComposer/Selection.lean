import GloDroid.HwComposer.Compositor

/-!
# Selection of Client Layers

What `SelectClientLayers` does to a composition, for any plane count, any frames and any outcome
of the test commit:

- it leaves everything but the buffer import and the client flags alone (`selectClientLayers_rel`);
- the client layers afterwards fill a window of the z-ordered layers (`selectGeneric_window`).

With well-formed frames and at least one plane the window fits the planes
(`extendClientRange_fits`), which makes the selection safe end to end.
-/

namespace GloDroid.HwComposer

open GloDroid.Base

/-! ## What is left alone -/

/-- A layer before and after its buffer was imported. -/
structure HwcLayer.Imported (l l' : HwcLayer) : Prop where
  useClient : l'.useClient = l.useClient
  piChanged : l'.piChanged = l.piChanged
  zpos : l'.zpos = l.zpos
  pi : l'.layerData.pi = l.layerData.pi
  sfType : l'.sfType = l.sfType

/-- A layer before and after the selection: as after an import, but the client flag may be set. -/
structure HwcLayer.Selected (l l' : HwcLayer) : Prop where
  useClient : l.useClient = true → l'.useClient = true
  piChanged : l'.piChanged = l.piChanged
  zpos : l'.zpos = l.zpos
  pi : l'.layerData.pi = l.layerData.pi
  sfType : l'.sfType = l.sfType

namespace HwcLayer

theorem Imported.refl (l : HwcLayer) : l.Imported l := ⟨rfl, rfl, rfl, rfl, rfl⟩

theorem Imported.trans (l l' l'' : HwcLayer) (h : l.Imported l') (h' : l'.Imported l'') :
    l.Imported l'' :=
  ⟨h'.useClient.trans h.useClient, h'.piChanged.trans h.piChanged, h'.zpos.trans h.zpos,
    h'.pi.trans h.pi, h'.sfType.trans h.sfType⟩

theorem Selected.refl (l : HwcLayer) : l.Selected l := ⟨id, rfl, rfl, rfl, rfl⟩

theorem Selected.trans (l l' l'' : HwcLayer) (h : l.Selected l') (h' : l'.Selected l'') :
    l.Selected l'' :=
  ⟨fun hc => h'.useClient (h.useClient hc), h'.piChanged.trans h.piChanged, h'.zpos.trans h.zpos,
    h'.pi.trans h.pi, h'.sfType.trans h.sfType⟩

theorem Imported.selected (l l' : HwcLayer) (h : l.Imported l') : l.Selected l' :=
  ⟨fun hc => h.useClient.trans hc, h.piChanged, h.zpos, h.pi, h.sfType⟩

theorem selected_asClient (l : HwcLayer) : l.Selected l.asClient :=
  ⟨fun _ => rfl, rfl, rfl, rfl, rfl⟩

theorem imported_populateLayerData (importResult : HwcLayer → ImportResult) (l : HwcLayer) :
    l.Imported (l.populateLayerData importResult).1 := by
  obtain ⟨huse, hpi, hz, hinfo, hsf, -⟩ := l.populateLayerData_frame importResult
  exact ⟨huse, hpi, hz, hinfo, hsf⟩

end HwcLayer

/-- Selected compositions have the same z-ordered layers. -/
theorem orderedLayers_of_selected {comp comp' : FEComposition}
    (h : comp.Rel HwcLayer.Selected comp') : orderedLayers comp' = orderedLayers comp :=
  orderedLayers_congr h.keys fun k => (h.layer (.feLayer k)).zpos

/-! ## Importing and presenting -/

theorem importLayers_rel (env : PipeEnv) (comp : FEComposition) (refs : List LayerRef) :
    comp.Rel HwcLayer.Imported (importLayers env comp refs).1 := by
  induction refs generalizing comp with
  | nil => exact .refl HwcLayer.Imported.refl comp
  | cons r rest ih =>
    unfold importLayers
    have hhead : comp.Rel HwcLayer.Imported
        (comp.modify r fun _ => ((comp.deref r).populateLayerData env.importResult).1) :=
      .modify HwcLayer.Imported.refl (HwcLayer.imported_populateLayerData _ _)
    dsimp only
    split_ifs
    · exact ih comp
    · exact hhead.trans HwcLayer.Imported.trans (ih _)
    · exact hhead

theorem presentComposition_rel (env : PipeEnv) (flatcon : Option FlatteningController)
    (comp : FEComposition) (args : AtomicCommitArgs) :
    comp.Rel HwcLayer.Imported (presentComposition env flatcon comp args).comp := by
  have himport := importLayers_rel env comp (presentedLayers comp).refs
  unfold presentComposition
  dsimp only
  by_cases hempty : (presentedLayers comp).refs.isEmpty
  · rw [if_pos hempty]
    exact .refl HwcLayer.Imported.refl comp
  · rw [if_neg hempty]
    split
    next heq => rwa [heq] at himport
    next heq =>
      rw [heq] at himport
      split_ifs <;> exact himport

/-! ## Marking -/

/-- `MarkClient` sets the flag behind the pointers in the window and nothing else. -/
theorem deref_markLoop {first size i : Nat} {comp : FEComposition} {refs : List LayerRef}
    (hvalid : ∀ r ∈ refs, comp.Valid r) (hnodup : refs.Nodup) (r : LayerRef) :
    (markLoop first size i comp refs).deref r =
      if ∃ j, ∃ hj : j < refs.length, refs[j] = r ∧ InWindow first size (i + j) then
        (comp.deref r).asClient
      else comp.deref r := by
  induction refs generalizing i comp with
  | nil => simp [markLoop]
  | cons r₀ rest ih =>
    obtain ⟨hnot, hrest⟩ := List.nodup_cons.mp hnodup
    unfold markLoop
    set comp₁ := if InWindow first size i then comp.modify r₀ HwcLayer.asClient else comp
      with hcomp₁
    have hvalid₁ : ∀ r' ∈ rest, comp₁.Valid r' := by
      intro r' hr'
      have h := hvalid r' (List.mem_cons_of_mem _ hr')
      rw [hcomp₁]
      split_ifs
      · exact h.modify r₀ _
      · exact h
    -- the tail of the list moves one position on
    have hshift : (∃ j, ∃ hj : j < (r₀ :: rest).length,
          (r₀ :: rest)[j] = r ∧ InWindow first size (i + j)) ↔
        (r₀ = r ∧ InWindow first size i) ∨
          ∃ j, ∃ hj : j < rest.length, rest[j] = r ∧ InWindow first size (i + 1 + j) := by
      constructor
      · rintro ⟨j, hj, hr, hwin⟩
        cases j with
        | zero => exact Or.inl ⟨hr, hwin⟩
        | succ j => exact Or.inr ⟨j, by simpa using hj, hr, by rwa [Nat.add_assoc, Nat.add_comm 1]⟩
      · rintro (⟨hr, hwin⟩ | ⟨j, hj, hr, hwin⟩)
        · exact ⟨0, by simp, hr, hwin⟩
        · exact ⟨j + 1, by simpa using hj, hr, by rwa [Nat.add_comm j, ← Nat.add_assoc]⟩
    dsimp only
    rw [ih hvalid₁ hrest, if_congr hshift rfl rfl]
    by_cases hr : r₀ = r
    · -- the head itself: it does not occur again
      subst hr
      have htail : ¬ ∃ j, ∃ hj : j < rest.length,
          rest[j] = r₀ ∧ InWindow first size (i + 1 + j) := by
        rintro ⟨j, hj, hr, -⟩
        exact hnot (hr ▸ List.getElem_mem hj)
      rw [if_neg htail, hcomp₁]
      by_cases hwin : InWindow first size i
      · rw [if_pos hwin, if_pos (Or.inl ⟨rfl, hwin⟩),
          FEComposition.deref_modify_self (hvalid r₀ List.mem_cons_self)]
      · rw [if_neg hwin, if_neg fun h => h.elim (fun h => hwin h.2) htail]
    · have hsame : comp₁.deref r = comp.deref r := by
        rw [hcomp₁]
        split_ifs
        · exact FEComposition.deref_modify_of_ne (Ne.symm hr) _
        · rfl
      rw [hsame]
      exact if_congr (or_iff_right fun h => hr h.1).symm rfl rfl

theorem markLoop_rel (first size i : Nat) (comp : FEComposition) (refs : List LayerRef) :
    comp.Rel HwcLayer.Selected (markLoop first size i comp refs) := by
  induction refs generalizing i comp with
  | nil => exact .refl HwcLayer.Selected.refl comp
  | cons r rest ih =>
    unfold markLoop
    refine FEComposition.Rel.trans HwcLayer.Selected.trans ?_ (ih _ _)
    split_ifs
    · exact .modify HwcLayer.Selected.refl (HwcLayer.selected_asClient _)
    · exact .refl HwcLayer.Selected.refl comp

theorem markClient_rel (layers : OrderedLayers) (comp : FEComposition) (first size : Nat) :
    comp.Rel HwcLayer.Selected (markClient layers comp first size) :=
  markLoop_rel first size 0 comp layers.refs

/-- After `MarkClient` the client layers are the old ones and those in the window. -/
theorem isClient_markClient {comp : FEComposition} {first size : Nat} {i : Nat}
    (hi : i < (orderedLayers comp).refs.length) :
    (markClient (orderedLayers comp) comp first size).isClient (orderedLayers comp).refs[i] =
        true ↔
      comp.isClient (orderedLayers comp).refs[i] = true ∨ InWindow first size i := by
  have hvalid : ∀ r ∈ (orderedLayers comp).refs, comp.Valid r := by
    intro r hr
    obtain ⟨k, hk, rfl⟩ := mem_refs_iff.mp hr
    exact FEComposition.valid_feLayer_iff.mpr hk
  have hnodup := nodup_refs comp
  have hpos : (∃ j, ∃ hj : j < (orderedLayers comp).refs.length,
      (orderedLayers comp).refs[j] = (orderedLayers comp).refs[i] ∧
        InWindow first size (0 + j)) ↔ InWindow first size i := by
    constructor
    · rintro ⟨j, hj, heq, hwin⟩
      rw [(List.Nodup.getElem_inj_iff hnodup).mp heq] at hwin
      simpa using hwin
    · intro hwin
      exact ⟨i, hi, rfl, by simpa using hwin⟩
  unfold markClient FEComposition.isClient
  rw [deref_markLoop hvalid hnodup, if_congr hpos rfl rfl]
  split_ifs with hwin <;> simp [hwin, HwcLayer.asClient]

/-! ## The range of client layers -/

/-- A client range over `n` layers: empty, or a window inside the list. -/
def ClientRange.Within (n : Nat) (range : ClientRange) : Prop :=
  (range.start = -1 ∧ range.size = 0) ∨
    (0 ≤ range.start ∧ 0 < range.size ∧ range.start + range.size ≤ n)

/-- The position lies in the range. -/
def ClientRange.Covers (range : ClientRange) (i : Nat) : Prop :=
  InWindow (toSizeT range.start) range.size i

theorem toSizeT_of_nonneg {x : Int} (h : 0 ≤ x) : toSizeT x = x.toNat :=
  if_neg (by omega)

theorem ClientRange.covers_iff_of_nonneg {range : ClientRange} (h : 0 ≤ range.start) (i : Nat) :
    range.Covers i ↔ range.start ≤ i ∧ (i : Int) < range.start + range.size := by
  unfold Covers InWindow
  rw [toSizeT_of_nonneg h]
  omega

theorem ClientRange.not_covers_of_size_zero {range : ClientRange} (h : range.size = 0) (i : Nat) :
    ¬ range.Covers i := by
  unfold Covers
  rw [h]
  exact not_inWindow_zero _ _

/-- The scan keeps the range it has, covers every client layer it meets and stays inside. -/
theorem scanClientRange_spec (isClient : LayerRef → Bool) {i : Nat} {range : ClientRange}
    (refs : List LayerRef) (hrange : range.Within i) :
    (scanClientRange isClient i range refs).Within (i + refs.length) ∧
      (∀ j, range.Covers j → (scanClientRange isClient i range refs).Covers j) ∧
      ∀ j (hj : j < refs.length), isClient refs[j] = true →
        (scanClientRange isClient i range refs).Covers (i + j) := by
  induction refs generalizing i range with
  | nil => exact ⟨hrange, fun _ h => h, by simp⟩
  | cons r rest ih =>
    unfold scanClientRange
    dsimp only
    by_cases hc : isClient r = true
    · rw [if_pos hc]
      set range₁ : ClientRange :=
        { start := if range.start < 0 then (i : Int) else range.start
          size := ((i : Int) - if range.start < 0 then (i : Int) else range.start).toNat + 1 }
        with hrange₁
      -- the range now ends with the layer at position `i`
      have hstart : 0 ≤ range₁.start ∧ range₁.start + range₁.size = i + 1 ∧
          (range.size ≠ 0 → range₁.start = range.start) ∧ (range.size = 0 → range₁.start = i) := by
        rcases hrange with ⟨h₁, h₂⟩ | ⟨h₁, h₂, h₃⟩
        · have hneg : range.start < 0 := by omega
          simp only [hrange₁, if_pos hneg]
          exact ⟨by omega, by omega, fun h => absurd h₂ h, fun _ => trivial⟩
        · have hneg : ¬ range.start < 0 := by omega
          simp only [hrange₁, if_neg hneg]
          exact ⟨by omega, by omega, fun _ => trivial, fun h => by omega⟩
      obtain ⟨hpos, hend, hsame, hnew⟩ := hstart
      have hwithin : range₁.Within (i + 1) := Or.inr ⟨hpos, Nat.succ_pos _, by omega⟩
      obtain ⟨ih₁, ih₂, ih₃⟩ := ih hwithin
      have hgrow : ∀ j, range.Covers j → range₁.Covers j := by
        intro j hj
        rcases hrange with ⟨-, hzero⟩ | ⟨hp, hsize, hfit⟩
        · exact absurd hj (ClientRange.not_covers_of_size_zero hzero j)
        · rw [ClientRange.covers_iff_of_nonneg hp] at hj
          rw [ClientRange.covers_iff_of_nonneg hpos]
          omega
      refine ⟨?_, fun j hj => ih₂ j (hgrow j hj), fun j hj hclient => ?_⟩
      · rwa [List.length_cons, Nat.add_comm rest.length, ← Nat.add_assoc]
      · cases j with
        | zero =>
          apply ih₂
          rw [ClientRange.covers_iff_of_nonneg hpos]
          have hle : range₁.start ≤ i := by
            rcases hrange with ⟨-, hzero⟩ | ⟨hp, hsize, hfit⟩
            · rw [hnew hzero]
            · rw [hsame (by omega)]
              omega
          omega
        | succ j =>
          have h := ih₃ j (by simpa using hj) hclient
          rwa [Nat.add_assoc, Nat.add_comm 1] at h
    · rw [if_neg hc]
      have hwithin : range.Within (i + 1) := by
        unfold ClientRange.Within at *
        omega
      obtain ⟨ih₁, ih₂, ih₃⟩ := ih hwithin
      refine ⟨?_, ih₂, fun j hj hclient => ?_⟩
      · rwa [List.length_cons, Nat.add_comm rest.length, ← Nat.add_assoc]
      · cases j with
        | zero => exact absurd hclient hc
        | succ j =>
          have h := ih₃ j (by simpa using hj) hclient
          rwa [Nat.add_assoc, Nat.add_comm 1] at h

/-- `GetOrderedLayers` reports a range inside the list that covers every client layer. -/
theorem getOrderedLayers_range (comp : FEComposition) :
    (getOrderedLayers comp).2.Within (orderedLayers comp).refs.length ∧
      ∀ i (hi : i < (orderedLayers comp).refs.length),
        comp.isClient (orderedLayers comp).refs[i] = true → (getOrderedLayers comp).2.Covers i := by
  have hempty : ({} : ClientRange).Within 0 := Or.inl ⟨rfl, rfl⟩
  obtain ⟨hwithin, -, hcovers⟩ :=
    scanClientRange_spec comp.isClient (orderedLayers comp).refs hempty
  refine ⟨?_, fun i hi hc => ?_⟩
  · simpa [getOrderedLayers] using hwithin
  · simpa [getOrderedLayers] using hcovers i hi hc

/-! ## Extending the range -/

/-- The search ends at one of the candidates or where it began. -/
theorem cheapestStart_cases (cost : Nat → Int) (start : Int) (steps : Nat) (clientStart : Int) :
    cheapestStart cost start steps clientStart = clientStart ∨
      ∃ i < steps, cheapestStart cost start steps clientStart = start + i := by
  have hfold : ∀ (l : List Nat) (best : Int × Int),
      (l.foldl (fun (best : Int × Int) i =>
        if cost i < best.1 then (cost i, start + i) else best) best).2 = best.2 ∨
      ∃ i ∈ l, (l.foldl (fun (best : Int × Int) i =>
        if cost i < best.1 then (cost i, start + i) else best) best).2 = start + i := by
    intro l
    induction l with
    | nil => exact fun best => Or.inl rfl
    | cons j rest ih =>
      intro best
      rw [List.foldl_cons]
      rcases ih (if cost j < best.1 then (cost j, start + j) else best) with h | ⟨i, hi, h⟩
      · rw [h]
        split_ifs
        · exact Or.inr ⟨j, List.mem_cons_self, rfl⟩
        · exact Or.inl rfl
      · exact Or.inr ⟨i, List.mem_cons_of_mem _ hi, h⟩
  rcases hfold (List.range steps) (uint32Max, clientStart) with h | ⟨i, hi, h⟩
  · exact Or.inl h
  · exact Or.inr ⟨i, List.mem_range.mp hi, h⟩

/-- With a first candidate below the initial cost some candidate is chosen. -/
theorem cheapestStart_chosen (cost : Nat → Int) (start : Int) {steps : Nat} (clientStart : Int)
    (hsteps : 0 < steps) (hcost : cost 0 < uint32Max) :
    ∃ i < steps, cheapestStart cost start steps clientStart = start + i := by
  -- after the first candidate the initial start is forgotten
  have hforget : cheapestStart cost start steps clientStart =
      cheapestStart cost start steps (start + (0 : Nat)) := by
    obtain ⟨m, rfl⟩ := Nat.exists_eq_succ_of_ne_zero hsteps.ne'
    unfold cheapestStart
    rw [List.range_succ_eq_map, List.foldl_cons, List.foldl_cons, if_pos hcost, if_pos hcost]
  rw [hforget]
  rcases cheapestStart_cases cost start steps (start + (0 : Nat)) with h | h
  · exact ⟨0, hsteps, h⟩
  · exact h

theorem availPlanes_cases (usablePlanes n : Nat) :
    (usablePlanes < n ∧ availPlanes usablePlanes n = usablePlanes - 1) ∨
      (n ≤ usablePlanes ∧ availPlanes usablePlanes n = usablePlanes) := by
  unfold availPlanes
  split_ifs with h
  · exact Or.inl ⟨h, rfl⟩
  · exact Or.inr ⟨by omega, rfl⟩

theorem pickWindow_start_cases (comp : FEComposition) (layers : OrderedLayers)
    (clientStart start : Int) (size : Nat) {steps : Int} (hsteps : 0 ≤ steps) :
    (pickWindow comp layers clientStart start size steps).start = clientStart ∨
      ∃ j : Nat, (j : Int) < steps ∧
        (pickWindow comp layers clientStart start size steps).start = start + j := by
  rcases cheapestStart_cases (fun i => calcPixOps comp layers (toSizeT (start + i)) size true)
    start (toSizeT steps) clientStart with h | ⟨j, hj, h⟩
  · exact Or.inl h
  · rw [toSizeT_of_nonneg hsteps] at hj
    exact Or.inr ⟨j, by omega, h⟩

theorem pickWindow_start_chosen {comp : FEComposition} {layers : OrderedLayers}
    (hcost : ∀ first size, calcPixOps comp layers first size true < uint32Max)
    (clientStart start : Int) (size : Nat) {steps : Int} (hsteps : 1 ≤ steps) :
    ∃ j : Nat, (j : Int) < steps ∧
      (pickWindow comp layers clientStart start size steps).start = start + j := by
  have hpos : 0 < toSizeT steps := by
    rw [toSizeT_of_nonneg (by omega)]
    omega
  obtain ⟨j, hj, h⟩ := cheapestStart_chosen
    (fun i => calcPixOps comp layers (toSizeT (start + i)) size true) start clientStart hpos
    (hcost _ size)
  rw [toSizeT_of_nonneg (by omega)] at hj
  exact ⟨j, by omega, h⟩

@[simp] theorem pickWindow_size (comp : FEComposition) (layers : OrderedLayers)
    (clientStart start : Int) (size : Nat) (steps : Int) :
    (pickWindow comp layers clientStart start size steps).size = size := rfl

/-- **The extension drops no client layer**: whatever the cost of the windows and the number of
planes, the new range covers the old one. -/
theorem extendClientRange_covers (usablePlanes : Nat) (comp : FEComposition)
    (layers : OrderedLayers) {range : ClientRange} (hrange : range.Within layers.refs.length)
    {i : Nat} (hi : range.Covers i) :
    (extendClientRange usablePlanes comp layers range).Covers i := by
  rcases hrange with ⟨-, hzero⟩ | ⟨hpos, hsize, hfit⟩
  · exact absurd hi (ClientRange.not_covers_of_size_zero hzero i)
  have hiw := (ClientRange.covers_iff_of_nonneg hpos i).mp hi
  have havail := availPlanes_cases usablePlanes layers.refs.length
  unfold extendClientRange
  dsimp only
  set n : Int := (layers.refs.length : Int)
  set extra : Int := n - range.size - availPlanes usablePlanes layers.refs.length
  by_cases hpositive : 0 < extra
  · rw [if_pos hpositive, if_pos hsize.ne']
    -- a candidate starts at most `prepend` positions lower and reaches at least as far
    set start := range.start - min range.start extra
    set steps := 1 + min (min (min (n - (range.start + range.size)) extra) (min range.start extra))
      (n - (start + ((range.size + extra.toNat : Nat) : Int)))
    have hnonneg : 0 ≤ steps := by omega
    rcases pickWindow_start_cases comp layers range.start start (range.size + extra.toNat) hnonneg
      with h | ⟨j, hj, h⟩
    · rw [ClientRange.covers_iff_of_nonneg (by rw [h]; exact hpos), h, pickWindow_size]
      omega
    · have hstart : 0 ≤ start + j := by omega
      rw [ClientRange.covers_iff_of_nonneg (by rw [h]; exact hstart), h, pickWindow_size]
      omega
  · rwa [if_neg hpositive]

/-- **The extended range fits the planes**: with at least one plane and every window cheaper than
`UINT32_MAX` the new range stays inside the list, and the layers left over need, together with one
plane for the client target, no more than the usable planes. -/
theorem extendClientRange_fits {usablePlanes : Nat} {comp : FEComposition}
    {layers : OrderedLayers} {range : ClientRange} (hrange : range.Within layers.refs.length)
    (hplanes : 1 ≤ usablePlanes)
    (hcost : ∀ first size, calcPixOps comp layers first size true < uint32Max) :
    (extendClientRange usablePlanes comp layers range).Within layers.refs.length ∧
      layers.refs.length - (extendClientRange usablePlanes comp layers range).size +
        (if (extendClientRange usablePlanes comp layers range).size = 0 then 0 else 1) ≤
          usablePlanes := by
  have havail := availPlanes_cases usablePlanes layers.refs.length
  unfold extendClientRange
  dsimp only
  set n := layers.refs.length
  set extra : Int := (n : Int) - range.size - availPlanes usablePlanes n
  by_cases hpositive : 0 < extra
  · rw [if_pos hpositive]
    by_cases hsize : range.size ≠ 0
    · -- a range is there: the window slides around it
      rw [if_pos hsize]
      obtain ⟨-, hzero⟩ | ⟨hpos, -, hfit⟩ := hrange
      · exact absurd hzero hsize
      set start := range.start - min range.start extra
      set steps := 1 + min (min (min ((n : Int) - (range.start + range.size)) extra)
        (min range.start extra)) ((n : Int) - (start + ((range.size + extra.toNat : Nat) : Int)))
      obtain ⟨j, hj, h⟩ := pickWindow_start_chosen hcost range.start start
        (range.size + extra.toNat) (show 1 ≤ steps by omega)
      refine ⟨Or.inr ?_, ?_⟩
      · rw [h, pickWindow_size]
        exact ⟨by omega, by omega, by omega⟩
      · rw [pickWindow_size, if_neg (by omega)]
        omega
    · -- no range yet: any window of the missing size will do
      rw [if_neg hsize]
      obtain ⟨j, hj, h⟩ := pickWindow_start_chosen hcost range.start 0 extra.toNat
        (show 1 ≤ 1 + (n : Int) - extra by omega)
      refine ⟨Or.inr ?_, ?_⟩
      · rw [h, pickWindow_size]
        exact ⟨by omega, by omega, by omega⟩
      · rw [pickWindow_size, if_neg (by omega)]
        omega
  · -- enough planes already
    rw [if_neg hpositive]
    have hsize_le : range.size ≤ n := by
      obtain ⟨-, h⟩ | ⟨_, _, _⟩ := hrange <;> omega
    refine ⟨hrange, ?_⟩
    split_ifs <;> omega

/-! ## The pixel cost of a window -/

/-- The display frame of the layer with key `k`. -/
def FEComposition.frame (comp : FEComposition) (k : Nat) : IRect :=
  (comp.deref (.feLayer k)).layerData.pi.displayFrame

/-- Every display frame has `left <= right` and `top <= bottom`. -/
def FEComposition.FramesWellFormed (comp : FEComposition) : Prop :=
  ∀ k ∈ comp.keys, (comp.frame k).left ≤ (comp.frame k).right ∧
    (comp.frame k).top ≤ (comp.frame k).bottom

instance (comp : FEComposition) : Decidable comp.FramesWellFormed :=
  inferInstanceAs (Decidable (∀ k ∈ comp.keys, _))

/-- The total area of the display frames. -/
def FEComposition.totalArea (comp : FEComposition) : Int :=
  (comp.keys.map fun k => (comp.frame k).area).sum

/-- Wrapping only lowers a sum of non-negative areas. -/
theorem pixOpsLoop_bounds (comp : FEComposition) (first size i : Nat) (acc : Int × Bool)
    {refs : List LayerRef} (hacc : 0 ≤ acc.1)
    (harea : ∀ r ∈ refs, 0 ≤ (comp.deref r).layerData.pi.displayFrame.area) :
    (pixOpsLoop comp first size i acc refs).1 ≤
      acc.1 + (refs.map fun r => (comp.deref r).layerData.pi.displayFrame.area).sum := by
  induction refs generalizing i acc with
  | nil => simp [pixOpsLoop]
  | cons r rest ih =>
    have hr := harea r List.mem_cons_self
    have hrest : ∀ r' ∈ rest, 0 ≤ (comp.deref r').layerData.pi.displayFrame.area :=
      fun r' hr' => harea r' (List.mem_cons_of_mem _ hr')
    unfold pixOpsLoop
    dsimp only
    rw [List.map_cons, List.sum_cons]
    by_cases hwin : InWindow first size i
    · rw [if_pos hwin]
      -- the remainder of a sum that is not negative is at most the sum
      have hsum : 0 ≤ acc.1 + (comp.deref r).layerData.pi.displayFrame.area := by omega
      have hmod := Int.emod_nonneg (acc.1 + (comp.deref r).layerData.pi.displayFrame.area)
        (show (2 ^ 32 : Int) ≠ 0 by decide)
      have hle : (acc.1 + (comp.deref r).layerData.pi.displayFrame.area) % 2 ^ 32 ≤
          acc.1 + (comp.deref r).layerData.pi.displayFrame.area := by omega
      have htail := ih (i + 1) ((acc.1 + (comp.deref r).layerData.pi.displayFrame.area) % 2 ^ 32,
        acc.2 && !(comp.deref r).piChanged) hmod hrest
      dsimp only at htail
      omega
    · rw [if_neg hwin]
      have htail := ih (i + 1) acc hacc hrest
      omega

/-- The z-ordered layers are a rearrangement of the layers by key. -/
theorem refs_perm (comp : FEComposition) :
    (orderedLayers comp).refs.Perm (comp.keys.map LayerRef.feLayer) := by
  have hinj : Function.Injective LayerRef.feLayer := fun _ _ h => LayerRef.feLayer.inj h
  refine (List.perm_ext_iff_of_nodup (nodup_refs comp)
    (comp.feLayers.nodup_keys.map hinj)).mpr fun r => ?_
  rw [mem_refs_iff, List.mem_map]
  constructor
  · rintro ⟨k, hk, rfl⟩
    exact ⟨k, hk, rfl⟩
  · rintro ⟨k, hk, rfl⟩
    exact ⟨k, hk, rfl⟩

theorem area_nonneg {comp : FEComposition} (hframes : comp.FramesWellFormed) {r : LayerRef}
    (hr : r ∈ (orderedLayers comp).refs) : 0 ≤ (comp.deref r).layerData.pi.displayFrame.area := by
  obtain ⟨k, hk, rfl⟩ := mem_refs_iff.mp hr
  obtain ⟨hwidth, hheight⟩ := hframes k hk
  exact mul_nonneg (sub_nonneg.mpr hwidth) (sub_nonneg.mpr hheight)

theorem sum_area_refs (comp : FEComposition) :
    ((orderedLayers comp).refs.map fun r => (comp.deref r).layerData.pi.displayFrame.area).sum =
      comp.totalArea := by
  rw [((refs_perm comp).map _).sum_eq, List.map_map]
  rfl

/-- **Every window is cheaper than `UINT32_MAX`** when the frames are well formed and their total
area is. -/
theorem calcPixOps_lt {comp : FEComposition} (hframes : comp.FramesWellFormed)
    (harea : comp.totalArea < uint32Max) (first size : Nat) (zeroCostEn : Bool) :
    calcPixOps comp (orderedLayers comp) first size zeroCostEn < uint32Max := by
  have hbound := pixOpsLoop_bounds comp first size 0 (0, true) le_rfl
    fun _ hr => area_nonneg hframes hr
  unfold calcPixOps
  dsimp only
  split_ifs
  · decide
  · rw [sum_area_refs] at hbound
    omega

/-! ## The selected window -/

/-- The client layers of `comp` are those in the window `first`, `size` of the z-ordered layers. -/
def ClientWindow (comp : FEComposition) (first size : Nat) : Prop :=
  ∀ i (hi : i < (orderedLayers comp).refs.length),
    comp.isClient (orderedLayers comp).refs[i] = true ↔ InWindow first size i

theorem ClientWindow.of_imported {comp comp' : FEComposition} {first size : Nat}
    (h : ClientWindow comp first size) (hrel : comp.Rel HwcLayer.Imported comp') :
    ClientWindow comp' first size := by
  unfold ClientWindow
  rw [orderedLayers_of_selected (hrel.mono HwcLayer.Imported.selected)]
  intro i hi
  rw [← h i hi]
  exact Eq.to_iff (congrArg (· = true) (hrel.layer _).useClient)

/-- A mark that covers the client layers leaves exactly its window. -/
theorem clientWindow_markClient {comp : FEComposition} {first size : Nat}
    (hcovers : ∀ i (hi : i < (orderedLayers comp).refs.length),
      comp.isClient (orderedLayers comp).refs[i] = true → InWindow first size i) :
    ClientWindow (markClient (orderedLayers comp) comp first size) first size := by
  unfold ClientWindow
  rw [orderedLayers_of_selected (markClient_rel _ _ _ _)]
  intro i hi
  rw [isClient_markClient hi]
  exact or_iff_right_of_imp (hcovers i hi)

/-- Marking the whole list leaves every layer to the client. -/
theorem clientWindow_markAll {comp c : FEComposition} (hc : comp.Rel HwcLayer.Selected c) :
    ClientWindow (markClient (orderedLayers comp) c 0 (orderedLayers comp).refs.length) 0
      (orderedLayers comp).refs.length := by
  rw [← orderedLayers_of_selected hc]
  exact clientWindow_markClient fun i hi _ => ⟨Nat.zero_le i, by omega⟩

/-- The two ways `SelectClientLayers` ends: everything is marked, or the extended range is marked
and the rest imported for the test. -/
theorem selectGeneric_cases (env : PipeEnv) (flatcon : Option FlatteningController)
    (comp : FEComposition) :
    (∃ c, comp.Rel HwcLayer.Selected c ∧ selectGeneric env flatcon comp =
        markClient (orderedLayers comp) c 0 (orderedLayers comp).refs.length) ∨
      (markClient (orderedLayers comp) comp
        (toSizeT (extendClientRange env.usablePlanes comp (orderedLayers comp)
          (getOrderedLayers comp).2).start)
        (extendClientRange env.usablePlanes comp (orderedLayers comp)
          (getOrderedLayers comp).2).size).Rel HwcLayer.Imported
        (selectGeneric env flatcon comp) := by
  have hlayers : (getOrderedLayers comp).1 = orderedLayers comp := rfl
  unfold selectGeneric
  dsimp only
  rw [hlayers]
  split_ifs
  · exact Or.inl ⟨comp, .refl HwcLayer.Selected.refl comp, rfl⟩
  · -- the test failed
    refine Or.inl ⟨_, ?_, rfl⟩
    exact (markClient_rel _ _ _ _).trans HwcLayer.Selected.trans
      ((presentComposition_rel _ _ _ _).mono HwcLayer.Imported.selected)
  · exact Or.inr (presentComposition_rel _ _ _ _)
  · exact Or.inr (.refl HwcLayer.Imported.refl _)

theorem selectGeneric_rel (env : PipeEnv) (flatcon : Option FlatteningController)
    (comp : FEComposition) : comp.Rel HwcLayer.Selected (selectGeneric env flatcon comp) := by
  rcases selectGeneric_cases env flatcon comp with ⟨c, hc, heq⟩ | h
  · rw [heq]
    exact hc.trans HwcLayer.Selected.trans (markClient_rel _ _ _ _)
  · exact (markClient_rel _ _ _ _).trans HwcLayer.Selected.trans
      (h.mono HwcLayer.Imported.selected)

/-- **The selected window**: the client layers fill the whole list, after a flatten request or a
failed test, or the extended client range. -/
theorem selectGeneric_window (env : PipeEnv) (flatcon : Option FlatteningController)
    (comp : FEComposition) :
    ClientWindow (selectGeneric env flatcon comp) 0 (orderedLayers comp).refs.length ∨
      ClientWindow (selectGeneric env flatcon comp)
        (toSizeT (extendClientRange env.usablePlanes comp (orderedLayers comp)
          (getOrderedLayers comp).2).start)
        (extendClientRange env.usablePlanes comp (orderedLayers comp)
          (getOrderedLayers comp).2).size := by
  rcases selectGeneric_cases env flatcon comp with ⟨c, hc, heq⟩ | h
  · left
    rw [heq]
    exact clientWindow_markAll hc
  · right
    obtain ⟨hwithin, hclient⟩ := getOrderedLayers_range comp
    refine ClientWindow.of_imported (clientWindow_markClient fun i hi hc => ?_) h
    exact extendClientRange_covers env.usablePlanes comp (orderedLayers comp) hwithin
      (hclient i hi hc)

/-! ## The other compositors -/

theorem sunxiLoop_rel (env : PipeEnv) (mostBottom : Bool) (comp : FEComposition)
    (refs : List LayerRef) : comp.Rel HwcLayer.Selected (sunxiLoop env mostBottom comp refs) := by
  induction refs generalizing mostBottom comp with
  | nil => exact .refl HwcLayer.Selected.refl comp
  | cons r rest ih =>
    unfold sunxiLoop
    refine FEComposition.Rel.trans HwcLayer.Selected.trans ?_ (ih false _)
    split_ifs
    · exact .modify HwcLayer.Selected.refl (HwcLayer.selected_asClient _)
    · exact .refl HwcLayer.Selected.refl comp

theorem sunxiMark_rel (env : PipeEnv) (comp : FEComposition) :
    comp.Rel HwcLayer.Selected (sunxiMark env comp) :=
  sunxiLoop_rel env true comp _

/-- After `CompositorClient` every layer is a client layer. -/
theorem isClient_selectClient {comp : FEComposition} {k : Nat} (hk : k ∈ comp.keys) :
    (selectClient comp).isClient (.feLayer k) = true := by
  obtain ⟨l, hl⟩ := FEComposition.mem_keys_iff.mp hk
  simp [FEComposition.isClient, FEComposition.deref, selectClient, OrderedMap.find?_mapVals, hl,
    HwcLayer.asClient]

theorem selectClient_rel (comp : FEComposition) :
    comp.Rel HwcLayer.Selected (selectClient comp) := by
  refine ⟨OrderedMap.keys_mapVals _ _, fun r => ?_⟩
  cases r with
  | clientOutput => exact .refl _
  | feLayer k =>
    simp only [FEComposition.deref, selectClient, OrderedMap.find?_mapVals]
    cases comp.feLayers.find? k with
    | none => exact .refl _
    | some l => exact HwcLayer.selected_asClient l

theorem clientWindow_selectClient (comp : FEComposition) :
    ClientWindow (selectClient comp) 0 (orderedLayers (selectClient comp)).refs.length := by
  intro i hi
  obtain ⟨k, hk, heq⟩ := mem_refs_iff.mp (List.getElem_mem hi)
  rw [heq]
  exact iff_of_true (isClient_selectClient ((selectClient_rel comp).keys ▸ hk))
    ⟨Nat.zero_le i, by omega⟩

/-- **What every compositor leaves alone**: keys, z-positions, presentation and change flags stay,
and no layer loses its client flag. -/
theorem selectClientLayers_rel (env : PipeEnv) (flatcon : Option FlatteningController)
    (comp : FEComposition) (kind : CompositorKind) :
    comp.Rel HwcLayer.Selected (selectClientLayers env flatcon comp kind) := by
  cases kind with
  | generic => exact selectGeneric_rel env flatcon comp
  | client => exact selectClient_rel comp
  | sunxi =>
    exact (sunxiMark_rel env comp).trans HwcLayer.Selected.trans (selectGeneric_rel env flatcon _)

/-- **Contiguity**: after the selection the client layers form one run of the z-ordered layers,
for any plane count, any frames and any outcome of the test. -/
theorem selectClientLayers_contiguous (env : PipeEnv) (flatcon : Option FlatteningController)
    (comp : FEComposition) (kind : CompositorKind) :
    ContiguousIn (fun r => (selectClientLayers env flatcon comp kind).isClient r = true)
      (orderedLayers (selectClientLayers env flatcon comp kind)).refs := by
  cases kind with
  | generic =>
    rcases selectGeneric_window env flatcon comp with h | h <;> exact contiguousIn_of_window h
  | client => exact contiguousIn_of_window (clientWindow_selectClient comp)
  | sunxi =>
    rcases selectGeneric_window env flatcon (sunxiMark env comp) with h | h <;>
      exact contiguousIn_of_window h

/-! ## The planes the selection needs -/

/-- The planes a composition needs: one for each scanout layer and one for the client target when
there is a client layer. -/
def planesNeeded (comp : FEComposition) : Nat :=
  ((orderedLayers comp).refs.filter fun r => !comp.isClient r).length +
    if (orderedLayers comp).refs.any comp.isClient then 1 else 0

/-- A window inside the list needs a plane for each layer outside and one for the window. -/
theorem planesNeeded_of_window {comp : FEComposition} {first size : Nat}
    (h : ClientWindow comp first size) (hfits : first + size ≤ (orderedLayers comp).refs.length) :
    planesNeeded comp = (orderedLayers comp).refs.length - size + if size = 0 then 0 else 1 := by
  have hany : (orderedLayers comp).refs.any comp.isClient = true ↔ size ≠ 0 := by
    rw [List.any_eq_true]
    constructor
    · rintro ⟨r, hr, hc⟩ hzero
      obtain ⟨i, hi, rfl⟩ := List.mem_iff_getElem.mp hr
      rw [h i hi, hzero] at hc
      exact not_inWindow_zero _ _ hc
    · intro hsize
      have hi : first < (orderedLayers comp).refs.length := by omega
      exact ⟨_, List.getElem_mem hi, (h first hi).mpr ⟨le_rfl, by omega⟩⟩
  unfold planesNeeded
  rw [length_filter_not_window h hfits, if_congr hany rfl rfl]
  split_ifs <;> first | rfl | contradiction

/-- The whole list as one client window needs at most one plane. -/
theorem planesNeeded_of_all {comp : FEComposition} {n : Nat}
    (hn : (orderedLayers comp).refs.length = n) (h : ClientWindow comp 0 n) :
    planesNeeded comp ≤ 1 := by
  rw [planesNeeded_of_window h (by omega), hn]
  split_ifs <;> omega

theorem selectGeneric_planesNeeded {env : PipeEnv} (flatcon : Option FlatteningController)
    {comp : FEComposition} (hplanes : 1 ≤ env.usablePlanes) (hframes : comp.FramesWellFormed)
    (harea : comp.totalArea < uint32Max) :
    planesNeeded (selectGeneric env flatcon comp) ≤ env.usablePlanes := by
  have hlayers := orderedLayers_of_selected (selectGeneric_rel env flatcon comp)
  rcases selectGeneric_window env flatcon comp with h | h
  · exact (planesNeeded_of_all (by rw [hlayers]) h).trans hplanes
  · obtain ⟨hwithin, hfits⟩ := extendClientRange_fits (getOrderedLayers_range comp).1 hplanes
      (calcPixOps_lt hframes harea · · true)
    rcases hwithin with ⟨-, hzero⟩ | ⟨hpos, -, hend⟩
    · -- no client layers: the window is empty wherever it starts
      rw [hzero] at h hfits
      have hnone : ClientWindow (selectGeneric env flatcon comp) 0 0 := fun i hi =>
        (h i hi).trans (iff_of_false (not_inWindow_zero _ _) (not_inWindow_zero _ _))
      rw [planesNeeded_of_window hnone (by omega), hlayers]
      exact hfits
    · rw [planesNeeded_of_window h (by rw [hlayers, toSizeT_of_nonneg hpos]; omega), hlayers]
      exact hfits

theorem selected_frames {comp comp' : FEComposition} (h : comp.Rel HwcLayer.Selected comp') :
    comp'.frame = comp.frame := by
  funext k
  exact congrArg PresentInfo.displayFrame (h.layer (.feLayer k)).pi

/-- **Client-layer selection is safe end to end**: with at least one usable plane and well-formed
frames of a total area below `UINT32_MAX`, for any z-positions, client flags, flatten request and
test outcome, the selection keeps the layers and every client flag (those set by the sunxi scaler
rule included), leaves the client layers in one contiguous run of the z-order, and needs no more
planes than there are. -/
theorem selectClientLayers_safe (env : PipeEnv) (flatcon : Option FlatteningController)
    (comp : FEComposition) (kind : CompositorKind) (hplanes : 1 ≤ env.usablePlanes)
    (hframes : comp.FramesWellFormed) (harea : comp.totalArea < 2 ^ 32 - 1) :
    let comp' := selectClientLayers env flatcon comp kind
    orderedLayers comp' = orderedLayers comp ∧
      (∀ r, comp.isClient r = true → comp'.isClient r = true) ∧
      (kind = .sunxi → ∀ r, (sunxiMark env comp).isClient r = true → comp'.isClient r = true) ∧
      ContiguousIn (fun r => comp'.isClient r = true) (orderedLayers comp').refs ∧
      planesNeeded comp' ≤ env.usablePlanes := by
  intro comp'
  have hrel := selectClientLayers_rel env flatcon comp kind
  refine ⟨orderedLayers_of_selected hrel, fun r => (hrel.layer r).useClient, ?_,
    selectClientLayers_contiguous env flatcon comp kind, ?_⟩
  · rintro rfl r hr
    exact ((selectGeneric_rel env flatcon (sunxiMark env comp)).layer r).useClient hr
  · cases kind with
    | generic => exact selectGeneric_planesNeeded flatcon hplanes hframes harea
    | client => exact (planesNeeded_of_all rfl (clientWindow_selectClient comp)).trans hplanes
    | sunxi =>
      -- the sunxi rule changes no frame, so the generic selection still fits
      have hsame := selected_frames (sunxiMark_rel env comp)
      have hkeys := (sunxiMark_rel env comp).keys
      refine selectGeneric_planesNeeded flatcon hplanes ?_ ?_
      · unfold FEComposition.FramesWellFormed
        rwa [hkeys, hsame]
      · unfold FEComposition.totalArea
        rwa [hkeys, hsame]

/-- Three full-screen layers, two of them at one z-position. -/
def threeLayers : FEComposition where
  feLayers := ⟨[(0, { zpos := 5, layerData := { pi := { displayFrame := ⟨0, 1080, 0, 1920⟩ } } }),
                (1, { zpos := 5, layerData := { pi := { displayFrame := ⟨0, 1080, 0, 1920⟩ } } }),
                (2, { zpos := 9, layerData := { pi := { displayFrame := ⟨0, 64, 0, 64⟩ } } })],
               by decide⟩
  clientOutput := {}

/-- Three layers on two planes: one is scanned out, the client composes the other two. -/
theorem selectClientLayers_safe_threeLayers :
    planesNeeded (selectClientLayers (.accepting 2) none threeLayers .sunxi) ≤ 2 :=
  (selectClientLayers_safe (.accepting 2) none threeLayers .sunxi (by decide) (by decide)
    (by decide)).2.2.2.2

end GloDroid.HwComposer

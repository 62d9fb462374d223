import GloDroid.HwComposer.Display

/-!
# Runs of the Display

What a single call does to the layers, stated once for all calls:

- `validateDisplay_layer`: after `ValidateDisplay` every layer is unchanged, and client exactly
  when its validated type is;
- `next_layer`: any other call either creates the layer or carries it over; a layer that is still
  unmarked as changed was unmarked before, with the same client flag and z-position.

`Tracked` adds what the statements about runs refer to: the layers validated as client, the layers
disturbed since, and the layers scanned out in the last frame.
-/

namespace GloDroid.HwComposer

open GloDroid.Base

/-! ## Membership after a rewrite of the layers -/

theorem FEComposition.mem_entries_iff_deref {comp : FEComposition} {k : Nat} {l : HwcLayer} :
    (k, l) ∈ comp.feLayers.entries ↔ k ∈ comp.keys ∧ comp.deref (.feLayer k) = l := by
  constructor
  · intro h
    exact ⟨List.mem_map_of_mem (f := Prod.fst) h, FEComposition.deref_feLayer_of_mem h⟩
  · rintro ⟨hk, rfl⟩
    obtain ⟨l, hl⟩ := FEComposition.mem_keys_iff.mp hk
    have hmem := OrderedMap.find?_eq_some_iff.mp hl
    rwa [FEComposition.deref_feLayer_of_mem hmem]

theorem mem_mapVals {m : OrderedMap Nat HwcLayer} {f : Nat → HwcLayer → HwcLayer} {k : Nat}
    {l' : HwcLayer} (h : (k, l') ∈ (m.mapVals f).entries) :
    ∃ l, (k, l) ∈ m.entries ∧ l' = f k l := by
  obtain ⟨⟨k', l⟩, hl, heq⟩ := List.mem_map.mp h
  obtain ⟨rfl, rfl⟩ := Prod.mk.inj heq
  exact ⟨l, hl, rfl⟩

/-! ## The skip-validate loop -/

namespace HwcLayer

/-- "Try luck to scanout this layer": a changed client layer loses its flag. -/
def retry (l : HwcLayer) : HwcLayer :=
  if l.useClient && l.piChanged then { l with useClient := false } else l

/-- The layer is composed from the client buffer that is already there. -/
def reused (l : HwcLayer) : Bool := l.useClient && !l.piChanged

theorem useClient_retry (l : HwcLayer) : l.retry.useClient = l.reused := by
  unfold retry reused
  split_ifs with h
  · rw [(Bool.and_eq_true_iff.mp h).2, Bool.not_true, Bool.and_false]
  · cases huse : l.useClient with
    | false => rfl
    | true =>
      rw [huse, Bool.true_and] at h
      rw [Bool.true_and, Bool.eq_false_iff.mpr h, Bool.not_false]

theorem piChanged_retry (l : HwcLayer) : l.retry.piChanged = l.piChanged := by
  unfold retry
  split_ifs <;> rfl

theorem zpos_retry (l : HwcLayer) : l.retry.zpos = l.zpos := by
  unfold retry
  split_ifs <;> rfl

end HwcLayer

namespace HwcDisplay

theorem skipValidateLayer_eq (rules : ScanoutRules) (reuse : Nat) (l : HwcLayer) :
    skipValidateLayer rules reuse l =
      (l.retry, if l.retry.canScanout rules then
        some (if l.reused then reuse + 1 else reuse) else none) := by
  unfold skipValidateLayer HwcLayer.retry HwcLayer.reused
  dsimp only
  split_ifs <;> rfl

/-- A loop that ran to its end visited every layer and counted those to be reused. -/
theorem skipValidateLoop_some {rules : ScanoutRules} {n m : Nat} {es : List (Nat × HwcLayer)}
    (h : (loopEntries (fun reuse _ l => skipValidateLayer rules reuse l) n es).2 = some m) :
    (loopEntries (fun reuse _ l => skipValidateLayer rules reuse l) n es).1 =
        es.map (fun e => (e.1, e.2.retry)) ∧
      m = n + es.countP fun e => e.2.reused := by
  induction es generalizing n with
  | nil =>
    obtain rfl : n = m := by simpa [loopEntries] using h
    exact ⟨rfl, rfl⟩
  | cons e rest ih =>
    obtain ⟨k, l⟩ := e
    -- the loop goes on at a layer that can be scanned out, and is left at any other
    by_cases hscan : l.retry.canScanout rules = true
    · have hbody : skipValidateLayer rules n l =
          (l.retry, some (if l.reused then n + 1 else n)) := by
        rw [skipValidateLayer_eq, if_pos hscan]
      rw [loopEntries_cons_some hbody] at h ⊢
      obtain ⟨hmap, hcount⟩ := ih h
      refine ⟨by rw [hmap, List.map_cons], ?_⟩
      rw [hcount, List.countP_cons]
      split_ifs <;> omega
    · have hbody : skipValidateLayer rules n l = (l.retry, none) := by
        rw [skipValidateLayer_eq, if_neg hscan]
      rw [loopEntries_cons_none hbody] at h
      cases h

/-- What the skip-validate check can do to a layer. -/
theorem skipValidate_layer {d : HwcDisplay} {k : Nat} {l' : HwcLayer}
    (h : (k, l') ∈ d.skipValidate.1.feLayers.entries) :
    ∃ l, (k, l) ∈ d.feLayers.entries ∧ (l' = l ∨ l' = l.retry) := by
  obtain ⟨l, hl, hcase⟩ := mem_loopEntries h
  refine ⟨l, hl, hcase.imp id ?_⟩
  rintro ⟨reuse, rfl⟩
  rw [skipValidateLayer_eq]

/-- **What a passed check means**: every layer went through the loop, and the layers to be reused
are none or as many as the last `ValidateDisplay` left to the client. -/
theorem skipValidate_passed {d : HwcDisplay} (h : d.skipValidate.2 = true) :
    d.skipValidate.1.feLayers = d.feLayers.mapVals (fun _ l => l.retry) ∧
      (d.feLayers.entries.countP (fun e => e.2.reused) = 0 ∨
        d.feLayers.entries.countP (fun e => e.2.reused) = d.clientLayersCount) := by
  unfold skipValidate OrderedMap.loop at h ⊢
  dsimp only at h ⊢
  cases hloop : (loopEntries (fun reuse _ l => skipValidateLayer d.rules reuse l) 0
      d.feLayers.entries).2 with
  | none => simp [hloop] at h
  | some m =>
    obtain ⟨hmap, hcount⟩ := skipValidateLoop_some hloop
    constructor
    · simp only [OrderedMap.mapVals, hmap]
    · simp [hloop] at h
      omega

theorem keys_skipValidate (d : HwcDisplay) :
    d.skipValidate.1.feLayers.entries.map Prod.fst = d.feLayers.entries.map Prod.fst :=
  keys_loopEntries _ _ _

/-! ## Presenting -/

theorem applyStagedMode_feLayers (d : HwcDisplay) (now : Int) :
    (d.applyStagedMode now).1.feLayers = d.feLayers := by
  unfold applyStagedMode
  split
  · split_ifs <;> rfl
  · rfl

/-- The commit only imports buffers. -/
theorem commitFrame_layers (d : HwcDisplay) (env : DisplayEnv) (validated : Bool) :
    (d.commitFrame env validated).1.keys = d.keys ∧
      ∀ k, (d.deref (.feLayer k)).Imported
        ((d.commitFrame env validated).1.deref (.feLayer k)) := by
  have hstaged := applyStagedMode_feLayers d env.monotonicNow
  have hrel := presentComposition_rel env.toPipeEnv (d.applyStagedMode env.monotonicNow).1.flatcon
    (d.applyStagedMode env.monotonicNow).1.toFEComposition
    { allowFail := !validated, displayMode := (d.applyStagedMode env.monotonicNow).2 }
  -- the display takes over the composition that was presented
  have hcomp : (d.commitFrame env validated).1.toFEComposition =
      (d.commitFrame env validated).2.comp := by
    unfold commitFrame
    dsimp only
    split_ifs <;> rfl
  have hderef : ∀ k, (d.applyStagedMode env.monotonicNow).1.deref (.feLayer k) =
      d.deref (.feLayer k) := by
    intro k
    simp only [FEComposition.deref, hstaged]
  rw [hcomp]
  refine ⟨?_, fun k => ?_⟩
  · have hkeys : (d.applyStagedMode env.monotonicNow).1.keys = d.keys := by
      simp only [FEComposition.keys, hstaged]
    rw [← hkeys]
    unfold commitFrame
    dsimp only
    split_ifs <;> exact hrel.keys
  · rw [← hderef]
    unfold commitFrame
    dsimp only
    split_ifs <;> exact hrel.layer (.feLayer k)

/-- The display `PresentDisplay` works on once it read `frame_validated_` and checked the frame. -/
def checked (d : HwcDisplay) : HwcDisplay × Bool :=
  HwcDisplay.checkFrame { d with frameValidated := false } d.frameValidated

/-- **The two ways `PresentDisplay` ends**: the check fails, or the checked frame is handed to
`PresentComposition`. -/
theorem presentDisplay_cases (d : HwcDisplay) (env : DisplayEnv) :
    (d.checked.2 = false ∧ (d.presentDisplay env).display = d.checked.1 ∧
        (d.presentDisplay env).error ≠ .none ∧ (d.presentDisplay env).composed = none) ∨
      (d.checked.2 = true ∧
        (d.presentDisplay env).display = (d.checked.1.commitFrame env d.frameValidated).1 ∧
        (d.presentDisplay env).composed =
          some (d.checked.1, (d.checked.1.commitFrame env d.frameValidated).2) ∧
        ((d.presentDisplay env).error = .none ↔
          (d.checked.1.commitFrame env d.frameValidated).2.ret = 0)) := by
  -- both fallbacks are errors
  have hfailure : ∀ b : Bool, (if b then HwcError.badLayer else .notValidated) ≠ .none := by decide
  have hchecked : HwcDisplay.checkFrame { d with frameValidated := false } d.frameValidated =
      d.checked := rfl
  unfold presentDisplay tryPresentDisplay
  dsimp only
  rw [hchecked]
  by_cases hok : d.checked.2 = true
  · right
    rw [if_pos hok]
    refine ⟨hok, rfl, rfl, ?_⟩
    dsimp only
    by_cases hret : (d.checked.1.commitFrame env d.frameValidated).2.ret = 0
    · simp [hret]
    · rw [if_pos hret]
      exact iff_of_false (hfailure _) hret
  · left
    rw [if_neg hok]
    exact ⟨by simpa using hok, rfl, hfailure _, rfl⟩

/-! ## What a call does to a layer -/

end HwcDisplay

/-- A layer before and after a call other than `ValidateDisplay`: the client flag is never set, and
a layer that is not marked as changed was not marked before and kept its flag and z-position. -/
structure HwcLayer.Carried (l l' : HwcLayer) : Prop where
  useClient : l'.useClient = true → l.useClient = true
  unchanged : l'.piChanged = false →
    l.piChanged = false ∧ l'.useClient = l.useClient ∧ l'.zpos = l.zpos

namespace HwcLayer

theorem Carried.refl (l : HwcLayer) : l.Carried l := ⟨id, fun h => ⟨h, rfl, rfl⟩⟩

theorem Carried.trans {l l' l'' : HwcLayer} (h : l.Carried l') (h' : l'.Carried l'') :
    l.Carried l'' := by
  refine ⟨fun hc => h.useClient (h'.useClient hc), fun hpi => ?_⟩
  obtain ⟨hpi', huse', hz'⟩ := h'.unchanged hpi
  obtain ⟨hpi'', huse, hz⟩ := h.unchanged hpi'
  exact ⟨hpi'', huse'.trans huse, hz'.trans hz⟩

theorem Imported.carried {l l' : HwcLayer} (h : l.Imported l') : l.Carried l' :=
  ⟨fun hc => h.useClient.symm.trans hc,
    fun hpi => ⟨h.piChanged.symm.trans hpi, h.useClient, h.zpos⟩⟩

theorem carried_retry (l : HwcLayer) : l.Carried l.retry := by
  refine ⟨fun hc => ?_, fun hpi => ?_⟩
  · rw [useClient_retry, reused, Bool.and_eq_true] at hc
    exact hc.1
  · rw [piChanged_retry] at hpi
    refine ⟨hpi, ?_, zpos_retry l⟩
    rw [useClient_retry, reused, hpi]
    simp

theorem carried_run (l : HwcLayer) (c : LayerCall) : l.Carried (c.run l) := by
  refine ⟨fun hc => ?_, fun hpi => ?_⟩
  · rwa [LayerCall.run_useClient] at hc
  · obtain ⟨hpi', happ, -⟩ := LayerCall.run_of_unchanged hpi
    exact ⟨hpi', LayerCall.run_useClient l c, congrArg Appearance.zpos happ⟩

/-- A relation that allows for what `PresentDisplay` does to a layer. -/
structure PresentRel (R : HwcLayer → HwcLayer → Prop) : Prop where
  refl : ∀ l, R l l
  trans : ∀ {l l' l''}, R l l' → R l' l'' → R l l''
  imported : ∀ {l l'}, l.Imported l' → R l l'
  retry : ∀ l, R l l.retry

/-- A relation that allows for what a setter does to a layer. -/
structure SetterRel (R : HwcLayer → HwcLayer → Prop) : Prop where
  refl : ∀ l, R l l
  run : ∀ l (c : LayerCall), R l (c.run l)
  accept : ∀ l, R l l.acceptTypeChange

/-- A relation that allows for what any call other than `ValidateDisplay` does to a layer. -/
structure CallRel (R : HwcLayer → HwcLayer → Prop) : Prop extends PresentRel R, SetterRel R

theorem callRel_carried : CallRel Carried where
  refl := .refl
  trans := .trans
  imported := Imported.carried
  retry := carried_retry
  run := carried_run
  accept _ := ⟨id, fun hpi => ⟨hpi, rfl, rfl⟩⟩

/-- A layer before and after a call other than `ValidateDisplay`: one that is not marked as changed
was not marked before, and is presented the same way. -/
def SameInfo (l l' : HwcLayer) : Prop :=
  l'.piChanged = false → l.piChanged = false ∧ l'.layerData.pi = l.layerData.pi

/-- The presentation info is part of the appearance. -/
theorem pi_eq_of_appearance {l l' : HwcLayer} (h : l'.appearance = l.appearance) :
    l'.layerData.pi = l.layerData.pi := by
  have htransform : l'.layerData.pi.transform = l.layerData.pi.transform :=
    congrArg Appearance.transform h
  have halpha : l'.layerData.pi.alpha = l.layerData.pi.alpha := congrArg Appearance.alpha h
  have hcrop : l'.layerData.pi.sourceCrop = l.layerData.pi.sourceCrop :=
    congrArg Appearance.sourceCrop h
  have hframe : l'.layerData.pi.displayFrame = l.layerData.pi.displayFrame :=
    congrArg Appearance.displayFrame h
  cases hpi : l.layerData.pi
  cases hpi' : l'.layerData.pi
  simp_all

theorem callRel_sameInfo : CallRel SameInfo where
  refl l h := ⟨h, rfl⟩
  trans := by
    intro l l' l'' h h' hpi
    obtain ⟨hpi', hinfo'⟩ := h' hpi
    obtain ⟨hpi₀, hinfo⟩ := h hpi'
    exact ⟨hpi₀, hinfo'.trans hinfo⟩
  imported h hpi := ⟨h.piChanged.symm.trans hpi, h.pi⟩
  retry l hpi := by
    rw [piChanged_retry] at hpi
    refine ⟨hpi, ?_⟩
    unfold retry
    split_ifs <;> rfl
  run l c hpi := by
    obtain ⟨hpi', happ, -⟩ := LayerCall.run_of_unchanged hpi
    exact ⟨hpi', pi_eq_of_appearance happ⟩
  accept l hpi := ⟨hpi, rfl⟩

end HwcLayer

namespace HwcDisplay

theorem checked_layer {d : HwcDisplay} {k : Nat} {l' : HwcLayer}
    (h : (k, l') ∈ d.checked.1.feLayers.entries) :
    ∃ l, (k, l) ∈ d.feLayers.entries ∧ (l' = l ∨ l' = l.retry) := by
  unfold checked checkFrame at h
  split_ifs at h
  · exact ⟨l', h, Or.inl rfl⟩
  · exact skipValidate_layer h

/-- Presenting rewrites every layer within a relation that allows for the import and the retry. -/
theorem presentDisplay_layer_of {R : HwcLayer → HwcLayer → Prop} (hR : HwcLayer.PresentRel R)
    {d : HwcDisplay} {env : DisplayEnv} {k : Nat} {l' : HwcLayer}
    (h : (k, l') ∈ (d.presentDisplay env).display.feLayers.entries) :
    ∃ l, (k, l) ∈ d.feLayers.entries ∧ R l l' := by
  have hchecked : ∀ {l₁}, (k, l₁) ∈ d.checked.1.feLayers.entries →
      ∃ l, (k, l) ∈ d.feLayers.entries ∧ R l l₁ := by
    intro l₁ hl₁
    obtain ⟨l, hl, rfl | rfl⟩ := checked_layer hl₁
    · exact ⟨l₁, hl, hR.refl l₁⟩
    · exact ⟨l, hl, hR.retry l⟩
  rcases presentDisplay_cases d env with ⟨-, hdisplay, -, -⟩ | ⟨-, hdisplay, -, -⟩
  · rw [hdisplay] at h
    exact hchecked h
  · rw [hdisplay] at h
    obtain ⟨hkeys, hlayers⟩ := commitFrame_layers d.checked.1 env d.frameValidated
    obtain ⟨hk, rfl⟩ := FEComposition.mem_entries_iff_deref.mp h
    rw [hkeys] at hk
    obtain ⟨l, hl, hcarried⟩ := hchecked (FEComposition.mem_entries_iff_deref.mpr ⟨hk, rfl⟩)
    exact ⟨l, hl, hR.trans hcarried (hR.imported (hlayers k))⟩

theorem keys_checked (d : HwcDisplay) : d.checked.1.keys = d.keys := by
  unfold checked checkFrame
  split_ifs
  · rfl
  · exact keys_skipValidate _

theorem keys_presentDisplay (d : HwcDisplay) (env : DisplayEnv) :
    (d.presentDisplay env).display.keys = d.keys := by
  rcases d.presentDisplay_cases env with ⟨-, hdisplay, -, -⟩ | ⟨-, hdisplay, -, -⟩
  · rw [hdisplay, keys_checked]
  · rw [hdisplay, (commitFrame_layers _ env _).1, keys_checked]

end HwcDisplay

/-! ## Committed frames -/

/-- The layer behind a key is marked as changed. -/
def FEComposition.isChanged (comp : FEComposition) (k : Nat) : Bool :=
  (comp.deref (.feLayer k)).piChanged

/-- The layer goes into the committed frame as a client layer: it is one, and without validation it
is also unchanged. -/
def HwcDisplay.keptClient (d : HwcDisplay) (k : Nat) : Bool :=
  d.isClient (.feLayer k) && (d.frameValidated || !d.isChanged k)

/-- A frame that passed the check has the kept client layers as its client layers. -/
theorem HwcDisplay.checked_passed {d : HwcDisplay} (h : d.checked.2 = true) :
    d.checked.1.keys = d.keys ∧
      ∀ k, d.checked.1.isClient (.feLayer k) = d.keptClient k ∧
        (d.checked.1.deref (.feLayer k)).zpos = (d.deref (.feLayer k)).zpos := by
  unfold checked checkFrame at h ⊢
  by_cases hvalidated : d.frameValidated = true
  · rw [if_pos hvalidated]
    refine ⟨rfl, fun k => ⟨?_, rfl⟩⟩
    simp [keptClient, hvalidated, FEComposition.isClient, FEComposition.deref]
  · rw [if_neg hvalidated] at h ⊢
    obtain ⟨hlayers, -⟩ := skipValidate_passed h
    refine ⟨by simp [FEComposition.keys, hlayers], fun k => ?_⟩
    simp only [keptClient, FEComposition.isChanged, FEComposition.isClient, FEComposition.deref,
      hlayers, OrderedMap.find?_mapVals]
    cases d.feLayers.find? k with
    | none => exact ⟨rfl, rfl⟩
    | some l =>
      refine ⟨?_, l.zpos_retry⟩
      simp [HwcLayer.useClient_retry, HwcLayer.reused, hvalidated]

/-- A successful `PresentDisplay` commits the kept client layers as client layers and moves no
layer. -/
theorem HwcDisplay.presentDisplay_committed {d : HwcDisplay} {env : DisplayEnv}
    (h : (d.presentDisplay env).error = .none) :
    (d.presentDisplay env).display.keys = d.keys ∧
      ∀ k, (d.presentDisplay env).display.isClient (.feLayer k) = d.keptClient k ∧
        ((d.presentDisplay env).display.deref (.feLayer k)).zpos =
          (d.deref (.feLayer k)).zpos := by
  rcases d.presentDisplay_cases env with ⟨-, -, herror, -⟩ | ⟨hpassed, hdisplay, -, -⟩
  · exact absurd h herror
  · obtain ⟨hkeys, hchecked⟩ := checked_passed hpassed
    obtain ⟨hkeys', hcommit⟩ := commitFrame_layers d.checked.1 env d.frameValidated
    rw [hdisplay]
    refine ⟨hkeys'.trans hkeys, fun k => ⟨?_, ?_⟩⟩
    · exact (hcommit k).useClient.trans (hchecked k).1
    · exact (hcommit k).zpos.trans (hchecked k).2

/-! ## What a call does to the display -/

/-- What `ValidateDisplay` alone writes, or no call at all. -/
structure HwcDisplay.SameSetup (d d' : HwcDisplay) : Prop where
  kind : d'.kind = d.kind
  clientLayersCount : d'.clientLayersCount = d.clientLayersCount

namespace HwcDisplay

theorem SameSetup.trans {d d' d'' : HwcDisplay} (h : d.SameSetup d') (h' : d'.SameSetup d'') :
    d.SameSetup d'' :=
  ⟨h'.kind.trans h.kind, h'.clientLayersCount.trans h.clientLayersCount⟩

/-- The commit writes neither the setup of the display nor `frame_validated_`. -/
theorem sameSetup_commitFrame (d : HwcDisplay) (env : DisplayEnv) (validated : Bool) :
    d.SameSetup (d.commitFrame env validated).1 ∧
      (d.commitFrame env validated).1.frameValidated = d.frameValidated := by
  have hstaged : d.SameSetup (d.applyStagedMode env.monotonicNow).1 ∧
      (d.applyStagedMode env.monotonicNow).1.frameValidated = d.frameValidated := by
    unfold applyStagedMode
    split
    · split_ifs <;> exact ⟨⟨rfl, rfl⟩, rfl⟩
    · exact ⟨⟨rfl, rfl⟩, rfl⟩
  unfold commitFrame
  dsimp only
  split_ifs <;> exact ⟨⟨hstaged.1.kind, hstaged.1.clientLayersCount⟩, hstaged.2⟩

theorem sameSetup_checked (d : HwcDisplay) :
    d.SameSetup d.checked.1 ∧ d.checked.1.frameValidated = false := by
  unfold checked checkFrame
  split_ifs <;> exact ⟨⟨rfl, rfl⟩, rfl⟩

/-- `PresentDisplay` keeps the setup and uses up the validation. -/
theorem sameSetup_presentDisplay (d : HwcDisplay) (env : DisplayEnv) :
    d.SameSetup (d.presentDisplay env).display ∧
      (d.presentDisplay env).display.frameValidated = false := by
  obtain ⟨hsetup, hflag⟩ := d.sameSetup_checked
  rcases d.presentDisplay_cases env with ⟨-, hdisplay, -, -⟩ | ⟨-, hdisplay, -, -⟩
  · rw [hdisplay]
    exact ⟨hsetup, hflag⟩
  · obtain ⟨hsetup', hflag'⟩ := sameSetup_commitFrame d.checked.1 env d.frameValidated
    rw [hdisplay]
    exact ⟨hsetup.trans hsetup', hflag'.trans hflag⟩

/-- `SetClientTarget` only writes `client_output`. -/
theorem setClientTarget_eq (d : HwcDisplay) (env : DisplayEnv) (target : Option Nat)
    (fence : Int) (dataspace : BitVec 32) :
    ∃ output, (d.setClientTarget env target fence dataspace).1 =
      { d with clientOutput := output } := by
  unfold setClientTarget
  dsimp only
  split_ifs
  · exact ⟨_, rfl⟩
  · split <;> exact ⟨_, rfl⟩

end HwcDisplay

namespace DisplayCall

/-- Successful or failed, `PresentDisplay` hands on its display. -/
theorem next_presentDisplay {d d' : HwcDisplay} {env : DisplayEnv}
    (hnext : (DisplayCall.presentDisplay env).next d = some d') :
    (d.presentDisplay env).display = d' := by
  simp only [DisplayCall.next] at hnext
  split_ifs at hnext
  exact Option.some.inj hnext

theorem next_sameSetup {d d' : HwcDisplay} {call : DisplayCall}
    (hnext : call.next d = some d') (hcall : ∀ env n, call ≠ .validateDisplay env n) :
    d.SameSetup d' := by
  cases call with
  | validateDisplay env n => exact absurd rfl (hcall env n)
  | presentDisplay env =>
    rw [← next_presentDisplay hnext]
    exact (d.sameSetup_presentDisplay env).1
  | setClientTarget env target fence dataspace =>
    obtain rfl := Option.some.inj hnext
    obtain ⟨output, heq⟩ := d.setClientTarget_eq env target fence dataspace
    rw [heq]
    exact ⟨rfl, rfl⟩
  | createLayer | destroyLayer | callLayer | acceptDisplayChanges | stageMode | flatteningThread =>
    obtain rfl := Option.some.inj hnext
    exact ⟨rfl, rfl⟩

/-- The calls that neither validate nor present a frame. -/
def keepsFrame : DisplayCall → Bool
  | .validateDisplay _ _ => false
  | .presentDisplay _ => false
  | _ => true

/-- `frame_validated_` is written by the validate and present calls only. -/
theorem next_frameValidated {d d' : HwcDisplay} {call : DisplayCall}
    (hnext : call.next d = some d') (hkeeps : call.keepsFrame = true) :
    d'.frameValidated = d.frameValidated := by
  cases call with
  | validateDisplay | presentDisplay => cases hkeeps
  | setClientTarget env target fence dataspace =>
    obtain rfl := Option.some.inj hnext
    obtain ⟨output, heq⟩ := d.setClientTarget_eq env target fence dataspace
    rw [heq]
  | createLayer | destroyLayer | callLayer | acceptDisplayChanges | stageMode | flatteningThread =>
    obtain rfl := Option.some.inj hnext
    rfl

/-- **What a call that keeps the frame does to a layer**, for any relation that allows for it: the
layer is new, marked as changed and no client layer, or it is related to the old one. -/
theorem next_layer_of_setter {R : HwcLayer → HwcLayer → Prop} (hR : HwcLayer.SetterRel R)
    {d d' : HwcDisplay} {call : DisplayCall}
    (hnext : call.next d = some d') (hkeeps : call.keepsFrame = true)
    {k : Nat} {l' : HwcLayer} (h : (k, l') ∈ d'.feLayers.entries) :
    (k ∉ d.keys ∧ l'.piChanged = true ∧ l'.useClient = false) ∨
      ∃ l, (k, l) ∈ d.feLayers.entries ∧ R l l' := by
  cases call with
  | validateDisplay | presentDisplay => cases hkeeps
  | createLayer color =>
    obtain rfl := Option.some.inj hnext
    -- a fresh layer starts out changed and without the flag
    rcases (OrderedMap.mem_emplaceEntry_iff d.feLayers.sorted).mp h with hold | ⟨rfl, rfl, hfresh⟩
    · exact Or.inr ⟨l', hold, hR.refl l'⟩
    · refine Or.inl ⟨fun hk => ?_, rfl, rfl⟩
      obtain ⟨l, hl⟩ := FEComposition.mem_keys_iff.mp hk
      exact hfresh l (OrderedMap.find?_eq_some_iff.mp hl)
  | destroyLayer layer =>
    obtain rfl := Option.some.inj hnext
    exact Or.inr ⟨l', (OrderedMap.mem_erase_iff.mp h).1, hR.refl l'⟩
  | callLayer layer call =>
    obtain rfl := Option.some.inj hnext
    obtain ⟨l, hl, rfl⟩ := mem_mapVals h
    refine Or.inr ⟨l, hl, ?_⟩
    split_ifs
    · exact hR.run l call
    · exact hR.refl l
  | acceptDisplayChanges =>
    obtain rfl := Option.some.inj hnext
    obtain ⟨l, hl, rfl⟩ := mem_mapVals h
    exact Or.inr ⟨l, hl, hR.accept l⟩
  | setClientTarget env target fence dataspace =>
    obtain rfl := Option.some.inj hnext
    obtain ⟨output, heq⟩ := d.setClientTarget_eq env target fence dataspace
    rw [heq] at h
    exact Or.inr ⟨l', h, hR.refl l'⟩
  | stageMode mode =>
    obtain rfl := Option.some.inj hnext
    exact Or.inr ⟨l', h, hR.refl l'⟩
  | flatteningThread now =>
    obtain rfl := Option.some.inj hnext
    exact Or.inr ⟨l', h, hR.refl l'⟩

/-- **What a call other than `ValidateDisplay` does to a layer**, for any relation that allows for
it: the layer is new, marked as changed and no client layer, or it is related to the old one. -/
theorem next_layer_of {R : HwcLayer → HwcLayer → Prop} (hR : HwcLayer.CallRel R)
    {d d' : HwcDisplay} {call : DisplayCall}
    (hnext : call.next d = some d') (hcall : ∀ env n, call ≠ .validateDisplay env n)
    {k : Nat} {l' : HwcLayer} (h : (k, l') ∈ d'.feLayers.entries) :
    (l'.piChanged = true ∧ l'.useClient = false) ∨
      ∃ l, (k, l) ∈ d.feLayers.entries ∧ R l l' := by
  by_cases hkeeps : call.keepsFrame = true
  · exact (next_layer_of_setter hR.toSetterRel hnext hkeeps h).imp_left And.right
  · cases call with
    | validateDisplay env n => exact absurd rfl (hcall env n)
    | presentDisplay env =>
      rw [← next_presentDisplay hnext] at h
      exact Or.inr (HwcDisplay.presentDisplay_layer_of hR.toPresentRel h)
    | createLayer | destroyLayer | callLayer | acceptDisplayChanges | setClientTarget | stageMode
    | flatteningThread => exact absurd rfl hkeeps

end DisplayCall

/-- The layer is new, or it is carried over. -/
theorem DisplayCall.next_layer {d d' : HwcDisplay} {call : DisplayCall}
    (hnext : call.next d = some d') (hcall : ∀ env n, call ≠ .validateDisplay env n)
    {k : Nat} {l' : HwcLayer} (h : (k, l') ∈ d'.feLayers.entries) :
    (l'.piChanged = true ∧ l'.useClient = false) ∨
      ∃ l, (k, l) ∈ d.feLayers.entries ∧ l.Carried l' :=
  DisplayCall.next_layer_of HwcLayer.callRel_carried hnext hcall h

/-! ## Validating -/

namespace HwcDisplay

/-- The composition the compositor leaves to the second loop of `ValidateDisplay`. -/
def selected (d : HwcDisplay) (env : DisplayEnv) : FEComposition :=
  selectClientLayers env.toPipeEnv d.flatcon d.requestClient d.kind

theorem keys_validateDisplay (d : HwcDisplay) (env : DisplayEnv) (n : Nat) :
    (d.validateDisplay env n).1.keys = d.keys := by
  have hrequest : d.requestClient.keys = d.keys := OrderedMap.keys_mapVals _ _
  -- the loops around the selection rewrite every layer in place
  have hselect := (selectClientLayers_rel env.toPipeEnv d.flatcon d.requestClient d.kind).keys
  have hfinish : (d.validateDisplay env n).1.keys = (d.selected env).keys :=
    OrderedMap.keys_mapVals _ _
  exact hfinish.trans (hselect.trans hrequest)

/-- **What `ValidateDisplay` leaves**: no layer is marked as changed, and the client layers are
those validated as client. -/
theorem validateDisplay_layer {d : HwcDisplay} {env : DisplayEnv} {n k : Nat} {l' : HwcLayer}
    (h : (k, l') ∈ (d.validateDisplay env n).1.feLayers.entries) :
    l'.piChanged = false ∧ (l'.useClient = true ↔ l'.validatedType = .client) := by
  obtain ⟨l, -, rfl⟩ := mem_mapVals h
  refine ⟨rfl, ?_⟩
  simp only [finishLayer, HwcLayer.updateValidatedType]
  split_ifs with hc
  · exact iff_of_true hc rfl
  · exact iff_of_false hc (by decide)

/-- The second loop of `ValidateDisplay` changes neither flags nor positions nor contents. -/
theorem validateDisplay_deref (d : HwcDisplay) (env : DisplayEnv) (n k : Nat) :
    (d.validateDisplay env n).1.isClient (.feLayer k) = (d.selected env).isClient (.feLayer k) ∧
      ((d.validateDisplay env n).1.deref (.feLayer k)).zpos =
        ((d.selected env).deref (.feLayer k)).zpos ∧
      ((d.validateDisplay env n).1.deref (.feLayer k)).layerData =
        ((d.selected env).deref (.feLayer k)).layerData := by
  simp only [FEComposition.isClient, FEComposition.deref, validateDisplay,
    OrderedMap.find?_mapVals, selected]
  cases (selectClientLayers env.toPipeEnv d.flatcon d.requestClient d.kind).feLayers.find? k <;>
    exact ⟨rfl, rfl, rfl⟩

/-- **Contiguity after `ValidateDisplay`**. -/
theorem validateDisplay_contiguous (d : HwcDisplay) (env : DisplayEnv) (n : Nat) :
    ContiguousIn (fun r => (d.validateDisplay env n).1.isClient r = true)
      (orderedLayers (d.validateDisplay env n).1.toFEComposition).refs := by
  have hselected := selectClientLayers_contiguous env.toPipeEnv d.flatcon d.requestClient d.kind
  have hlayers : orderedLayers (d.validateDisplay env n).1.toFEComposition =
      orderedLayers (d.selected env) :=
    orderedLayers_congr (OrderedMap.keys_mapVals _ _) fun k => (d.validateDisplay_deref env n k).2.1
  rw [hlayers]
  refine hselected.congr fun r hr => ?_
  obtain ⟨k, -, rfl⟩ := mem_refs_iff.mp hr
  exact Eq.to_iff (congrArg (· = true) (d.validateDisplay_deref env n k).1.symm)

end HwcDisplay

/-! ## Tracked runs -/

/-- A display together with what has been observed of its run: the layers validated as client at the
last `ValidateDisplay`, the layers disturbed since (destroyed, given a buffer or changed in
appearance by a setter), and the layers scanned out in the last successful `PresentDisplay` that
exist ever since. -/
structure Tracked where
  display : HwcDisplay
  validatedClients : List Nat := []
  disturbed : List Nat := []
  scannedOut : List Nat := []

/-- The setter gives the layer with key `k` a buffer or changes its appearance. -/
def HwcDisplay.disturbs (d : HwcDisplay) (k : Nat) (call : LayerCall) : Bool :=
  match d.feLayers.find? k with
  | some l => call.setsBuffer || decide ((call.run l).appearance ≠ l.appearance)
  | none => false

/-- The keys of the layers satisfying `p`. -/
def HwcDisplay.keysWith (d : HwcDisplay) (p : HwcLayer → Bool) : List Nat :=
  (d.feLayers.entries.filter fun e => p e.2).map Prod.fst

/-- The observations after a call that takes the display from `t.display` to `d'`. -/
def Tracked.observe (t : Tracked) (d' : HwcDisplay) : DisplayCall → Tracked
  | .destroyLayer k =>
    { t with
      display := d'
      disturbed := k :: t.disturbed
      scannedOut := t.scannedOut.filter (· ≠ k) }
  | .callLayer k call =>
    { t with
      display := d'
      -- a setter that stores what is there disturbs nothing
      disturbed := if t.display.disturbs k call then k :: t.disturbed else t.disturbed }
  | .validateDisplay _ _ =>
    { t with
      display := d'
      validatedClients := d'.keysWith fun l => l.validatedType = .client
      disturbed := [] }
  | .presentDisplay env =>
    { t with
      display := d'
      -- a failed call leaves the old frame on the screen
      scannedOut := if (t.display.presentDisplay env).error = .none then
        d'.keysWith fun l => !l.useClient else t.scannedOut }
  | _ => { t with display := d' }

/-- The display with the observations of its run. -/
def trackedMachine : Machine Tracked DisplayCall where
  start t := t.display.Fresh ∧ t.validatedClients = [] ∧ t.disturbed = [] ∧ t.scannedOut = []
  next t call := (call.next t.display).map fun d' => t.observe d' call

theorem Tracked.display_observe (t : Tracked) (d' : HwcDisplay) (call : DisplayCall) :
    (t.observe d' call).display = d' := by
  cases call <;> rfl

theorem trackedMachine_start_blank (kind : CompositorKind) :
    trackedMachine.start { display := .blank kind } :=
  ⟨HwcDisplay.fresh_blank kind, rfl, rfl, rfl⟩

/-- Observing restricts nothing: every display that is reached is reached by a tracked run. -/
theorem trackedMachine_observes : trackedMachine.Observes displayMachine Tracked.display where
  start d := by
    constructor
    · exact fun hd => ⟨{ display := d }, ⟨hd, rfl, rfl, rfl⟩, rfl⟩
    · rintro ⟨t, ht, rfl⟩
      exact ht.1
  next t call := by
    simp only [trackedMachine, Option.map_map, Function.comp_def, Tracked.display_observe,
      Option.map_id']
    rfl

/-- A tracked step is a call with its observations. -/
theorem trackedMachine_next {t t' : Tracked} {call : DisplayCall}
    (h : trackedMachine.next t call = some t') :
    ∃ d', call.next t.display = some d' ∧ t' = t.observe d' call := by
  obtain ⟨d', hd', heq⟩ := Option.map_eq_some_iff.mp h
  exact ⟨d', hd', heq.symm⟩

end GloDroid.HwComposer

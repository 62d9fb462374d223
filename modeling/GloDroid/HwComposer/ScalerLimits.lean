import GloDroid.HwComposer.Interleaving

/-!
# Scaler Limits of Presented Frames

`CompositorSunxi` leaves a layer to the client when the scaler of its place in the stack cannot
shrink it: 15 times at the bottom, 3.8 times above. Only `SelectClientLayers` looks at the limits;
`PresentDisplay` checks whether a layer can be scanned out at all, while crops, frames and the
z-order may change between the two calls, and a changed client layer is tried on a plane.

A layer that stays unmarked as changed keeps the limit it was validated for (`SettledScale`). So a
committed frame breaks a limit exactly when a changed layer takes part: the layer itself, or a
changed layer at the bottom that made the former bottom layer an upper one.
-/

namespace GloDroid.HwComposer

open GloDroid.Base

/-! ## The bottom of the stack -/

/-- The layer is the first of the z-ordered layers. -/
def FEComposition.isBottom (comp : FEComposition) (k : Nat) : Bool :=
  (orderedLayers comp).refs.head? = some (.feLayer k)

/-- The presentation info of a layer. -/
def FEComposition.pi (comp : FEComposition) (k : Nat) : PresentInfo :=
  (comp.deref (.feLayer k)).layerData.pi

/-- The bottom layer lies below every other layer. -/
theorem FEComposition.isBottom_iff {comp : FEComposition} {k : Nat} :
    comp.isBottom k = true ↔ k ∈ comp.keys ∧ ∀ k' ∈ comp.keys, k' ≠ k → comp.ZBelow k k' := by
  have hpairwise := refs_pairwise comp
  have hmem : ∀ k', k' ∈ comp.keys ↔ LayerRef.feLayer k' ∈ (orderedLayers comp).refs := by
    intro k'
    rw [mem_refs_iff]
    constructor
    · exact fun hk => ⟨k', hk, rfl⟩
    · rintro ⟨k₀, hk₀, heq⟩
      rwa [LayerRef.feLayer.inj heq]
  simp only [isBottom, decide_eq_true_eq, hmem]
  cases hrefs : (orderedLayers comp).refs with
  | nil => simp
  | cons r rest =>
    rw [hrefs, List.pairwise_cons] at hpairwise
    simp only [List.head?_cons, Option.some.injEq]
    constructor
    · rintro rfl
      refine ⟨List.mem_cons_self, fun k' hk' hne => ?_⟩
      apply hpairwise.1 (.feLayer k')
      exact (List.mem_cons.mp hk').resolve_left fun heq => hne (LayerRef.feLayer.inj heq)
    · rintro ⟨hk, hbelow⟩
      rcases List.mem_cons.mp hk with heq | hrest
      · exact heq.symm
      · -- the first layer would lie below and above this one
        obtain ⟨k₀, -, rfl⟩ := mem_refs_iff.mp (hrefs ▸ List.mem_cons_self : r ∈ _)
        have hfirst : comp.ZBelow k₀ k := hpairwise.1 _ hrest
        by_cases hne : k₀ = k
        · rw [hne]
        · exact absurd (hbelow k₀ List.mem_cons_self hne) hfirst.asymm

/-- Some layer is at the bottom, unless there is none. -/
theorem FEComposition.exists_isBottom {comp : FEComposition} {k : Nat} (hk : k ∈ comp.keys) :
    ∃ b, comp.isBottom b = true := by
  have hmem := mem_refs_iff.mpr ⟨k, hk, rfl⟩
  cases hrefs : (orderedLayers comp).refs with
  | nil => simp [hrefs] at hmem
  | cons r rest =>
    obtain ⟨b, -, rfl⟩ := mem_refs_iff.mp (hrefs ▸ List.mem_cons_self : r ∈ _)
    exact ⟨b, by simp [isBottom, hrefs]⟩

/-- The bottom only depends on keys and z-positions. -/
theorem FEComposition.isBottom_congr {comp comp' : FEComposition} (hkeys : comp'.keys = comp.keys)
    (hz : ∀ k, (comp'.deref (.feLayer k)).zpos = (comp.deref (.feLayer k)).zpos) (k : Nat) :
    comp'.isBottom k = comp.isBottom k := by
  unfold isBottom
  rw [orderedLayers_congr hkeys hz]

/-! ## The limits -/

/-- The exact downscale ratio: the larger of source over destination in width and in height. -/
def PresentInfo.downscale (pi : PresentInfo) : ℚ :=
  max ((pi.sourceCrop.right - pi.sourceCrop.left) /
      ((pi.displayFrame.right - pi.displayFrame.left : Int) : ℚ))
    ((pi.sourceCrop.bottom - pi.sourceCrop.top) /
      ((pi.displayFrame.bottom - pi.displayFrame.top : Int) : ℚ))

/-- The destination is neither empty nor turned over. -/
def PresentInfo.PositiveFrame (pi : PresentInfo) : Prop :=
  0 < pi.displayFrame.right - pi.displayFrame.left ∧
    0 < pi.displayFrame.bottom - pi.displayFrame.top

/-- The largest ratio a plane can shrink by, at the bottom of the stack or above it. -/
def scalerLimit (mostBottom : Bool) : ℚ := if mostBottom then kViMaxRatio else kUiMaxRatio

/-- In exact numbers: the destination is positive and the ratio is above the limit. -/
def PresentInfo.Overscaled (mostBottom : Bool) (pi : PresentInfo) : Prop :=
  pi.PositiveFrame ∧ scalerLimit mostBottom < pi.downscale

/-- With exact arithmetic the rule of the compositor compares the exact ratio with the limit. -/
theorem exceedsScaler_exact {env : PipeEnv} (hexact : env.roundFloat = id) {pi : PresentInfo}
    (hpos : pi.PositiveFrame) (mostBottom : Bool) :
    exceedsScaler env mostBottom pi = true ↔ scalerLimit mostBottom < pi.downscale := by
  obtain ⟨hwidth, hheight⟩ := hpos
  have hw : ((pi.displayFrame.right - pi.displayFrame.left : Int) : ℚ) ≠ 0 := by
    exact_mod_cast hwidth.ne'
  have hh : ((pi.displayFrame.bottom - pi.displayFrame.top : Int) : ℚ) ≠ 0 := by
    exact_mod_cast hheight.ne'
  have hmax : ∀ a b : ℚ, Ratio.max (.finite a) (.finite b) = .finite (max a b) := by
    intro a b
    unfold Ratio.max Ratio.lt
    rcases lt_or_ge a b with hlt | hge
    · rw [if_pos (by simpa using hlt), max_eq_right hlt.le]
    · rw [if_neg (by simpa using hge), max_eq_left hge]
  have hratio : scaleRatio env pi = .finite pi.downscale := by
    simp only [scaleRatio, floatDiv, hexact, id_eq, if_neg hw, if_neg hh, hmax]
    rfl
  cases mostBottom <;>
    simp [exceedsScaler, hratio, Ratio.leConst, scalerLimit, hexact]

/-- What exceeds the limit at the bottom exceeds the one above it. -/
theorem exceedsScaler_mono {env : PipeEnv} (hround : env.roundFloat kUiMaxRatio ≤ kViMaxRatio)
    {pi : PresentInfo} (h : exceedsScaler env true pi = true) :
    exceedsScaler env false pi = true := by
  have hle : ∀ r : Ratio, r.leConst (env.roundFloat kUiMaxRatio) = true →
      r.leConst kViMaxRatio = true := by
    intro r hr
    cases r with
    | finite q => simpa [Ratio.leConst] using (of_decide_eq_true hr).trans hround
    | negInf => rfl
    | posInf | nan => cases hr
  cases hui : (scaleRatio env pi).leConst (env.roundFloat kUiMaxRatio) with
  | false => simp [exceedsScaler, hui]
  | true => simp [exceedsScaler, hle _ hui] at h

/-- The rule only depends on the rounding. -/
theorem exceedsScaler_congr {env env' : PipeEnv} (h : env.roundFloat = env'.roundFloat)
    (mostBottom : Bool) (pi : PresentInfo) :
    exceedsScaler env mostBottom pi = exceedsScaler env' mostBottom pi := by
  simp only [exceedsScaler, scaleRatio, floatDiv, h]

/-! ## Validated frames -/

/-- The marking loop gives every layer above its limit to the client. -/
theorem isClient_sunxiLoop {env : PipeEnv} {mostBottom : Bool} {comp : FEComposition}
    {refs : List LayerRef} {r : LayerRef} (hvalid : ∀ r ∈ refs, comp.Valid r) (hr : r ∈ refs)
    (hover : exceedsScaler env (mostBottom && decide (refs.head? = some r))
      (comp.deref r).layerData.pi = true) :
    (sunxiLoop env mostBottom comp refs).isClient r = true := by
  induction refs generalizing mostBottom comp with
  | nil => cases hr
  | cons r₀ rest ih =>
    unfold sunxiLoop
    set comp₁ := if exceedsScaler env mostBottom (comp.deref r₀).layerData.pi then
      comp.modify r₀ HwcLayer.asClient else comp with hcomp₁
    by_cases heq : r = r₀
    · -- the layer at the head is marked now, and the loop keeps the mark
      subst heq
      rw [List.head?_cons, decide_eq_true rfl, Bool.and_true] at hover
      apply ((sunxiLoop_rel env false comp₁ rest).layer r).useClient
      rw [hcomp₁, if_pos hover, FEComposition.deref_modify_self (hvalid r hr)]
      rfl
    · -- the head is marked or not, which leaves the layer as it is
      have hrest : r ∈ rest := (List.mem_cons.mp hr).resolve_left heq
      have hsame : comp₁.deref r = comp.deref r := by
        rw [hcomp₁]
        split_ifs
        · exact FEComposition.deref_modify_of_ne heq _
        · rfl
      have hhead : ¬ (r₀ :: rest).head? = some r := fun h => heq (Option.some.inj h).symm
      rw [decide_eq_false hhead, Bool.and_false] at hover
      apply ih
      · intro r' hr'
        have hold := hvalid r' (List.mem_cons_of_mem _ hr')
        rw [hcomp₁]
        split_ifs
        · exact hold.modify r₀ _
        · exact hold
      · exact hrest
      · rw [hsame, Bool.false_and]
        exact hover

/-- After the selection of `CompositorSunxi` no layer left on a plane is above its limit. -/
theorem selectSunxi_fits {env : PipeEnv} (flatcon : Option FlatteningController)
    {comp : FEComposition} {k : Nat} (hk : k ∈ comp.keys)
    (hscanout : (selectSunxi env flatcon comp).isClient (.feLayer k) = false) :
    exceedsScaler env (comp.isBottom k) (comp.pi k) = false := by
  by_contra hover
  rw [Bool.not_eq_false] at hover
  have hvalid : ∀ r ∈ (orderedLayers comp).refs, comp.Valid r := by
    intro r hr
    obtain ⟨k', hk', rfl⟩ := mem_refs_iff.mp hr
    exact FEComposition.valid_feLayer_iff.mpr hk'
  have hmarked : (sunxiMark env comp).isClient (.feLayer k) = true := by
    apply isClient_sunxiLoop hvalid (mem_refs_iff.mpr ⟨k, hk, rfl⟩)
    rw [Bool.true_and]
    exact hover
  have hclient : (selectSunxi env flatcon comp).isClient (.feLayer k) = true :=
    ((selectGeneric_rel env flatcon (sunxiMark env comp)).layer (.feLayer k)).useClient hmarked
  rw [hscanout] at hclient
  cases hclient

namespace HwcDisplay

/-- The loops of `ValidateDisplay` keep position and presentation of every layer. -/
theorem validateDisplay_frame (d : HwcDisplay) (env : DisplayEnv) (n k : Nat) :
    ((d.validateDisplay env n).1.deref (.feLayer k)).zpos = (d.deref (.feLayer k)).zpos ∧
      (d.validateDisplay env n).1.pi k = d.pi k ∧
      (d.validateDisplay env n).1.isClient (.feLayer k) =
        (d.selected env).isClient (.feLayer k) := by
  have hselect := (selectClientLayers_rel env.toPipeEnv d.flatcon d.requestClient d.kind).layer
    (.feLayer k)
  have hrequest : (d.requestClient.deref (.feLayer k)).zpos = (d.deref (.feLayer k)).zpos ∧
      (d.requestClient.deref (.feLayer k)).layerData.pi = d.pi k := by
    simp only [FEComposition.deref, FEComposition.pi, requestClient, OrderedMap.find?_mapVals]
    cases d.feLayers.find? k <;> exact ⟨rfl, rfl⟩
  obtain ⟨hclient, hz, hdata⟩ := d.validateDisplay_deref env n k
  have hpi : (d.validateDisplay env n).1.pi k =
      ((d.selected env).deref (.feLayer k)).layerData.pi := congrArg LayerData.pi hdata
  exact ⟨hz.trans (hselect.zpos.trans hrequest.1), hpi.trans (hselect.pi.trans hrequest.2),
    hclient⟩

/-- After `ValidateDisplay` with `CompositorSunxi` every layer on a plane keeps its limit. -/
theorem validateDisplay_fits {d : HwcDisplay} {env : DisplayEnv} {n k : Nat}
    (hkind : d.kind = .sunxi) (hk : k ∈ (d.validateDisplay env n).1.keys)
    (hscanout : (d.validateDisplay env n).1.isClient (.feLayer k) = false) :
    exceedsScaler env.toPipeEnv ((d.validateDisplay env n).1.isBottom k)
      ((d.validateDisplay env n).1.pi k) = false := by
  have hkeys := d.keys_validateDisplay env n
  have hrequest : d.requestClient.keys = d.keys := OrderedMap.keys_mapVals _ _
  have hbottom : (d.validateDisplay env n).1.isBottom k = d.requestClient.isBottom k := by
    apply FEComposition.isBottom_congr (hkeys.trans hrequest.symm)
    intro k'
    rw [(d.validateDisplay_frame env n k').1]
    simp only [FEComposition.deref, requestClient, OrderedMap.find?_mapVals]
    cases d.feLayers.find? k' <;> rfl
  have hpi : (d.validateDisplay env n).1.pi k = d.requestClient.pi k := by
    rw [(d.validateDisplay_frame env n k).2.1]
    simp only [FEComposition.deref, FEComposition.pi, requestClient, OrderedMap.find?_mapVals]
    cases d.feLayers.find? k <;> rfl
  rw [hbottom, hpi]
  apply selectSunxi_fits d.flatcon
  · rw [hrequest, ← hkeys]
    exact hk
  · rw [(d.validateDisplay_frame env n k).2.2, selected, hkind] at hscanout
    exact hscanout

end HwcDisplay

/-! ## What unchanged layers keep -/

/-- A layer that is unmarked after a call other than `ValidateDisplay` is presented as before. -/
theorem DisplayCall.next_unchanged_pi {d d' : HwcDisplay} {call : DisplayCall}
    (hnext : call.next d = some d') (hcall : ∀ env n, call ≠ .validateDisplay env n)
    {k : Nat} (hk : k ∈ d'.keys) (hpi : d'.isChanged k = false) : d'.pi k = d.pi k := by
  have hmem := FEComposition.mem_entries_iff_deref.mpr ⟨hk, rfl⟩
  rcases DisplayCall.next_layer_of HwcLayer.callRel_sameInfo hnext hcall hmem with
    ⟨hchanged, -⟩ | ⟨l, hl, hsame⟩
  · rw [FEComposition.isChanged, hchanged] at hpi
    cases hpi
  · obtain ⟨-, rfl⟩ := FEComposition.mem_entries_iff_deref.mp hl
    exact (hsame hpi).2

/-- A call never changes the compositor of a display. -/
theorem DisplayCall.next_kind {d d' : HwcDisplay} {call : DisplayCall}
    (hnext : call.next d = some d') : d'.kind = d.kind := by
  by_cases hcall : ∃ env n, call = .validateDisplay env n
  · obtain ⟨env, n, rfl⟩ := hcall
    obtain rfl := Option.some.inj hnext
    rfl
  · exact (DisplayCall.next_sameSetup hnext fun env n heq => hcall ⟨env, n, heq⟩).kind

/-- A limit on presentation infos that is stricter above the bottom of the stack. -/
structure StackLimit (exceeds : Bool → PresentInfo → Prop) : Prop where
  mono : ∀ pi, exceeds true pi → exceeds false pi

/-- An unchanged layer on a plane keeps the limit at the bottom, and the stricter one unless it lies
below every other unchanged layer. -/
def SettledScale (exceeds : Bool → PresentInfo → Prop) (d : HwcDisplay) : Prop :=
  ∀ k ∈ d.keys, d.isChanged k = false → d.isClient (.feLayer k) = false →
    ¬ exceeds true (d.pi k) ∧
      (exceeds false (d.pi k) → ∀ k' ∈ d.keys, d.isChanged k' = false → k' ≠ k → d.ZBelow k k')

/-- Every limit that the validated layers keep is settled after `ValidateDisplay`. -/
theorem settledScale_validate {exceeds : Bool → PresentInfo → Prop} (hlimit : StackLimit exceeds)
    {d : HwcDisplay} {env : DisplayEnv} {n : Nat} (hkind : d.kind = .sunxi)
    (hrule : ∀ mostBottom pi,
      exceeds mostBottom pi → exceedsScaler env.toPipeEnv mostBottom pi = true) :
    SettledScale exceeds (d.validateDisplay env n).1 := by
  intro k hk _ hscanout
  have hfits : ¬ exceeds ((d.validateDisplay env n).1.isBottom k)
      ((d.validateDisplay env n).1.pi k) := by
    intro hover
    have hkept := HwcDisplay.validateDisplay_fits hkind hk hscanout
    rw [hrule _ _ hover] at hkept
    cases hkept
  cases hbottom : (d.validateDisplay env n).1.isBottom k with
  | true =>
    rw [hbottom] at hfits
    refine ⟨hfits, fun _ k' hk' _ hne => ?_⟩
    exact (FEComposition.isBottom_iff.mp hbottom).2 k' hk' hne
  | false =>
    rw [hbottom] at hfits
    exact ⟨fun hover => hfits (hlimit.mono _ hover), fun hover => absurd hover hfits⟩

/-- **Every other call keeps the limits of the unchanged layers.** -/
theorem settledScale_next {exceeds : Bool → PresentInfo → Prop} {d d' : HwcDisplay}
    {call : DisplayCall} (h : SettledScale exceeds d) (hnext : call.next d = some d')
    (hcall : ∀ env n, call ≠ .validateDisplay env n) : SettledScale exceeds d' := by
  intro k hk hpi hscanout
  obtain ⟨hk₀, hpi₀, hclient, hz⟩ := DisplayCall.next_unchanged hnext hcall hk hpi
  have hinfo := DisplayCall.next_unchanged_pi hnext hcall hk hpi
  rw [hclient] at hscanout
  rw [hinfo]
  obtain ⟨hbottom, hupper⟩ := h k hk₀ hpi₀ hscanout
  refine ⟨hbottom, fun hover k' hk' hpi' hne => ?_⟩
  obtain ⟨hk₁, hpi₁, -, hz'⟩ := DisplayCall.next_unchanged hnext hcall hk' hpi'
  have hbelow := hupper hover k' hk₁ hpi₁ hne
  unfold FEComposition.ZBelow at hbelow ⊢
  rwa [hz, hz']

/-- The call rounds as `round` does where the limits are looked at. -/
def DisplayCall.RoundsAs (round : ℚ → ℚ) : DisplayCall → Prop
  | .validateDisplay env _ => env.roundFloat = round
  | _ => True

theorem settledScale_reachable {exceeds : Bool → PresentInfo → Prop} (hlimit : StackLimit exceeds)
    {round : ℚ → ℚ}
    (hrule : ∀ env : PipeEnv, env.roundFloat = round →
      ∀ mostBottom pi, exceeds mostBottom pi → exceedsScaler env mostBottom pi = true)
    {d : HwcDisplay} (h : displayMachine.ReachableVia (fun _ call => call.RoundsAs round) d)
    (hkind : d.kind = .sunxi) : SettledScale exceeds d := by
  refine h.invariant (fun d => d.kind = .sunxi → SettledScale exceeds d) ?_ ?_ hkind
  · intro s hs _ k hk
    have hnone : s.keys = [] := by
      rw [FEComposition.keys, hs.no_layers]
      rfl
    rw [hnone] at hk
    cases hk
  · intro s call s' hinv hrounds hnext hkind'
    have hkind₀ : s.kind = .sunxi := (DisplayCall.next_kind hnext).symm.trans hkind'
    by_cases hcall : ∃ env n, call = .validateDisplay env n
    · obtain ⟨env, n, rfl⟩ := hcall
      rw [← Option.some.inj hnext]
      exact settledScale_validate hlimit hkind₀ (hrule env.toPipeEnv hrounds)
    · exact settledScale_next (hinv hkind₀) hnext fun env n heq => hcall ⟨env, n, heq⟩

/-! ## Committed frames -/

/-- A layer goes onto a plane above its limit, and it is marked as changed or the bottom layer
is. -/
def HwcDisplay.BreaksLimit (d : HwcDisplay) (exceeds : Bool → PresentInfo → Prop) : Prop :=
  ∃ k ∈ d.keys, d.keptClient k = false ∧ exceeds (d.isBottom k) (d.pi k) ∧
    (d.isChanged k = true ∨ ∃ b, d.isBottom b = true ∧ d.isChanged b = true)

/-- Every layer scanned out directly keeps the limit of its place. -/
def FEComposition.KeepsLimit (comp : FEComposition) (exceeds : Bool → PresentInfo → Prop) : Prop :=
  ∀ k ∈ comp.keys, comp.isClient (.feLayer k) = false → ¬ exceeds (comp.isBottom k) (comp.pi k)

/-- Presenting changes no presentation info. -/
theorem HwcDisplay.presentDisplay_pi (d : HwcDisplay) (env : DisplayEnv) (k : Nat) :
    (d.presentDisplay env).display.pi k = d.pi k := by
  have hrel : HwcLayer.PresentRel fun l l' => l'.layerData.pi = l.layerData.pi := by
    refine ⟨fun _ => rfl, fun h h' => h'.trans h, fun h => h.pi, fun l => ?_⟩
    unfold HwcLayer.retry
    split_ifs <;> rfl
  have hkeys := d.keys_presentDisplay env
  by_cases hk : k ∈ (d.presentDisplay env).display.keys
  · obtain ⟨l, hl, hinfo⟩ :=
      presentDisplay_layer_of hrel (FEComposition.mem_entries_iff_deref.mpr ⟨hk, rfl⟩)
    obtain ⟨-, rfl⟩ := FEComposition.mem_entries_iff_deref.mp hl
    exact hinfo
  · -- without the layer both sides are the default
    have hnone : ∀ comp : FEComposition, k ∉ comp.keys → comp.pi k = {} := by
      intro comp hnot
      cases hfind : comp.feLayers.find? k with
      | none => simp [FEComposition.pi, FEComposition.deref, hfind]
      | some l => exact absurd (FEComposition.mem_keys_iff.mpr ⟨l, hfind⟩) hnot
    rw [hnone _ hk, hnone _ (hkeys ▸ hk)]

/-- A committed frame keeps a settled limit unless a changed layer breaks it. -/
theorem HwcDisplay.presentDisplay_keepsLimit_iff {exceeds : Bool → PresentInfo → Prop}
    {d : HwcDisplay} (hsettled : SettledScale exceeds d) {env : DisplayEnv}
    (hcommit : (d.presentDisplay env).error = .none) :
    (d.presentDisplay env).display.KeepsLimit exceeds ↔ ¬ d.BreaksLimit exceeds := by
  obtain ⟨hkeys, hlayers⟩ := presentDisplay_committed hcommit
  have hbottom := FEComposition.isBottom_congr hkeys fun k => (hlayers k).2
  unfold FEComposition.KeepsLimit
  simp only [hkeys, hlayers, hbottom, presentDisplay_pi]
  constructor
  · rintro hkeeps ⟨k, hk, hscanout, hover, -⟩
    exact hkeeps k hk hscanout hover
  · intro hnone k hk hscanout hover
    apply hnone
    refine ⟨k, hk, hscanout, hover, ?_⟩
    cases hchanged : d.isChanged k with
    | true => exact Or.inl rfl
    | false =>
      right
      have hclient : d.isClient (.feLayer k) = false := by
        simpa [keptClient, hchanged] using hscanout
      obtain ⟨hnotBottom, hupper⟩ := hsettled k hk hchanged hclient
      obtain ⟨b, hb⟩ := FEComposition.exists_isBottom hk
      refine ⟨b, hb, ?_⟩
      by_contra hb'
      rw [Bool.not_eq_true] at hb'
      obtain ⟨hbmem, hbelow⟩ := FEComposition.isBottom_iff.mp hb
      cases hkb : d.isBottom k with
      | true =>
        rw [hkb] at hover
        exact hnotBottom hover
      | false =>
        -- an unchanged layer below it contradicts what it kept
        rw [hkb] at hover
        have hne : b ≠ k := by
          rintro rfl
          rw [hb] at hkb
          cases hkb
        exact (hupper hover b hbmem hb' hne).asymm (hbelow k hk hne.symm)

theorem stackLimit_overscaled : StackLimit PresentInfo.Overscaled := by
  refine ⟨fun pi h => ⟨h.1, lt_trans ?_ h.2⟩⟩
  norm_num [scalerLimit, kViMaxRatio, kUiMaxRatio]

/-- **When the fast path respects the scaler limits**: in every run of a display with
`CompositorSunxi`, a frame that `PresentDisplay` commits scans out no layer above its limit (in
exact numbers: 15 at the bottom, 3.8 above; in any rounding: the rule of `SelectClientLayers`) if
and only if no layer above its limit goes onto a plane while it, or the bottom layer, is marked as
changed since the last `ValidateDisplay`. -/
theorem presentDisplay_keepsScaler_iff {d : HwcDisplay} {env : DisplayEnv}
    (hreach : displayMachine.ReachableVia (fun _ call => call.RoundsAs env.roundFloat) d)
    (hkind : d.kind = .sunxi) (hcommit : (d.presentDisplay env).error = .none) :
    (env.roundFloat = id →
      ((d.presentDisplay env).display.KeepsLimit PresentInfo.Overscaled ↔
        ¬ d.BreaksLimit PresentInfo.Overscaled)) ∧
    (env.roundFloat kUiMaxRatio ≤ kViMaxRatio →
      ((d.presentDisplay env).display.KeepsLimit
          (fun mostBottom pi => exceedsScaler env.toPipeEnv mostBottom pi = true) ↔
        ¬ d.BreaksLimit fun mostBottom pi =>
          exceedsScaler env.toPipeEnv mostBottom pi = true)) := by
  constructor
  · intro hexact
    apply HwcDisplay.presentDisplay_keepsLimit_iff _ hcommit
    apply settledScale_reachable stackLimit_overscaled _ hreach hkind
    intro env' hround mostBottom pi hover
    exact (exceedsScaler_exact (hround.trans hexact) hover.1 mostBottom).mpr hover.2
  · intro hround
    apply HwcDisplay.presentDisplay_keepsLimit_iff _ hcommit
    apply settledScale_reachable ⟨fun pi => exceedsScaler_mono hround⟩ _ hreach hkind
    intro env' hsame mostBottom pi hover
    rwa [exceedsScaler_congr hsame]

/-- One layer of 40 by 40 pixels shown in full size, validated and presented. -/
def unscaledCalls : List DisplayCall :=
  [.createLayer {}, .callLayer 0 (.compositionType 2), .callLayer 0 (.buffer (some 1) (-1)),
    .callLayer 0 (.sourceCrop ⟨0, 40, 0, 40⟩), .callLayer 0 (.displayFrame ⟨0, 40, 0, 40⟩),
    .validateDisplay { PipeEnv.accepting 2 with } 0, .presentDisplay { PipeEnv.accepting 2 with }]

/-- The display after those calls. -/
def unscaledDisplay : HwcDisplay :=
  (displayMachine.exec (.blank .sunxi) unscaledCalls).get (by decide +kernel)

/-- The same with the crop enlarged to 40 times the frame, which is cut to a pixel. -/
def shrunkDisplay : HwcDisplay :=
  (displayMachine.exec (.blank .sunxi)
    (unscaledCalls ++ [.callLayer 0 (.displayFrame ⟨0, 1, 0, 1⟩)])).get (by decide +kernel)

/-- Presented again, the unchanged layer keeps its limit. -/
theorem presentDisplay_keepsScaler_iff_unscaled :
    (unscaledDisplay.presentDisplay { PipeEnv.accepting 2 with }).display.KeepsLimit
        PresentInfo.Overscaled ↔
      ¬ unscaledDisplay.BreaksLimit PresentInfo.Overscaled := by
  refine (presentDisplay_keepsScaler_iff ?_ (by decide +kernel) (by decide +kernel)).1 rfl
  apply (Machine.run_of_exec _).reachableVia _ (.start (HwcDisplay.fresh_blank .sunxi))
  intro call hcall
  simp only [unscaledCalls, List.mem_cons, List.not_mem_nil, or_false] at hcall
  rcases hcall with rfl | rfl | rfl | rfl | rfl | rfl | rfl <;> first | rfl | trivial

/-- Presented without validation, the layer is scanned out 40 times its size on the screen. -/
theorem shrunkDisplay_overscaled :
    displayMachine.Reachable shrunkDisplay ∧ shrunkDisplay.kind = .sunxi ∧
      (shrunkDisplay.presentDisplay { PipeEnv.accepting 2 with }).error = .none ∧
      ¬ (shrunkDisplay.presentDisplay { PipeEnv.accepting 2 with }).display.KeepsLimit
        PresentInfo.Overscaled := by
  refine ⟨Machine.reachable_of_exec (HwcDisplay.fresh_blank .sunxi) _, by decide +kernel,
    by decide +kernel, fun hkeeps => ?_⟩
  apply hkeeps 0 (by decide +kernel) (by decide +kernel)
  constructor
  · unfold PresentInfo.PositiveFrame
    decide +kernel
  · decide +kernel

end GloDroid.HwComposer

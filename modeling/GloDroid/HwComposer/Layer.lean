import Mathlib.Data.Rat.Defs
import Mathlib.Tactic.Common

/-!
# Layers of the Hardware Composer

The data model of `compositor/FEComposition.h`, `compositor/LayerData.h` and `hwc2_device/HwcLayer`
after the whole `drm_hwcomposer` patch series, and the layer setters of the HWC2 API.

`FELayer` is what the compositor sees, `HwcLayer` adds what the frontend keeps for one layer. Since
the patch "Increase chance for CLIENT buffer reuse" every setter that stores a new value also sets
`pi_changed`; `HwcLayer.setIfChanged` is that common shape.

Outside the patches, and hence parameters of the model: the buffer import of `ImportFb`
(`ImportResult`), `PresentInfo::RequireScalingOrPhasing` and the scaling property of the resource
manager (`ScanoutRules`).
-/

namespace GloDroid.HwComposer

/-! ## Data -/

/-- `HWC2::Composition`. The setter casts any `int32_t`, so other raw values are kept. -/
inductive Composition where
  | invalid | client | device | solidColor | cursor | sideband
  | other (raw : Int)
  deriving DecidableEq, Repr

/-- `static_cast<HWC2::Composition>`. -/
def Composition.ofRaw : Int → Composition
  | 0 => .invalid
  | 1 => .client
  | 2 => .device
  | 3 => .solidColor
  | 4 => .cursor
  | 5 => .sideband
  | raw => .other raw

inductive BufferBlendMode where
  | undefined | none | preMult | coverage
  deriving DecidableEq, Repr

inductive BufferColorSpace where
  | undefined | ituRec601 | ituRec709 | ituRec2020
  deriving DecidableEq, Repr

inductive BufferSampleRange where
  | undefined | fullRange | limitedRange
  deriving DecidableEq, Repr

/-- `IRect`: a rectangle of `int` coordinates. -/
structure IRect where
  top : Int := 0
  bottom : Int := 0
  left : Int := 0
  right : Int := 0
  deriving DecidableEq, Repr

/-- `FRect`: a rectangle of finite `float` coordinates, each identified with its exact value. -/
structure FRect where
  top : ℚ := 0
  bottom : ℚ := 0
  left : ℚ := 0
  right : ℚ := 0
  deriving DecidableEq

/-- `PresentInfo`: how a buffer is shown on the display. `alpha` is a `uint16_t`. -/
structure PresentInfo where
  transform : Nat := 0
  alpha : Nat := 65535
  sourceCrop : FRect := {}
  displayFrame : IRect := {}
  deriving DecidableEq

/-- The part of `BufferInfo` the composition code reads or writes. -/
structure BufferInfo where
  width : Nat := 0
  height : Nat := 0
  format : Nat := 0
  blendMode : BufferBlendMode := .undefined
  colorSpace : BufferColorSpace := .undefined
  sampleRange : BufferSampleRange := .undefined
  deriving DecidableEq

/-- `LayerData`: buffer, framebuffer handle, presentation and acquire fence of a layer. -/
structure LayerData where
  bi : Option BufferInfo := none
  fb : Option Nat := none
  pi : PresentInfo := {}
  acquireFence : Option Nat := none
  deriving DecidableEq

/-- `FELayer`: the layer as the compositor sees it. -/
structure FELayer where
  useClient : Bool := false
  piChanged : Bool := true
  zpos : Nat := 0
  layerData : LayerData := {}
  deriving DecidableEq

/-- `hwc_color_t`. -/
structure HwcColor where
  r : UInt8 := 0
  g : UInt8 := 0
  b : UInt8 := 0
  a : UInt8 := 0
  deriving DecidableEq

/-- `HwcLayer`: the layer as the frontend keeps it. `color_` has no initialiser in the source, so a
fresh layer may carry any colour. -/
structure HwcLayer extends FELayer where
  sfType : Composition := .invalid
  validatedType : Composition := .invalid
  blendMode : BufferBlendMode := .undefined
  colorSpace : BufferColorSpace := .undefined
  sampleRange : BufferSampleRange := .undefined
  bufferHandle : Option Nat := none
  bufferHandleUpdated : Bool := false
  color : HwcColor := {}
  biGetFailed : Bool := false
  fbImportFailed : Bool := false
  deriving DecidableEq

/-! ## Scanout and validation -/

/-- What decides about scaling and lies outside the patches: the resource manager's
`ForcedScalingWithGpu()` and `PresentInfo::RequireScalingOrPhasing()`. -/
structure ScanoutRules where
  forcedScalingWithGpu : Bool := false
  requireScalingOrPhasing : PresentInfo → Bool := fun _ => false

namespace HwcLayer

/-- `IsLayerUsableAsDevice()`. -/
def isLayerUsableAsDevice (l : HwcLayer) : Bool :=
  !l.biGetFailed && !l.fbImportFailed && l.bufferHandle.isSome

/-- `CanScanout()`. -/
def canScanout (rules : ScanoutRules) (l : HwcLayer) : Bool :=
  -- only these two types are meant for a plane
  if l.sfType ≠ .device ∧ l.sfType ≠ .cursor then false
  else if !l.isLayerUsableAsDevice then false
  else if rules.requireScalingOrPhasing l.layerData.pi && rules.forcedScalingWithGpu then false
  else true

/-- `AcceptTypeChange()`. -/
def acceptTypeChange (l : HwcLayer) : HwcLayer := { l with sfType := l.validatedType }

/-- `UpdateValidatedType()`. -/
def updateValidatedType (l : HwcLayer) : HwcLayer :=
  { l with validatedType := if l.useClient then .client else .device }

/-- `IsTypeChanged()`. -/
def isTypeChanged (l : HwcLayer) : Bool := l.sfType ≠ l.validatedType

end HwcLayer

/-! ## Buffer import -/

/-- What `ImportFb()` leaves in the fields it writes. The buffer info getter, the framebuffer
importer and the swap chain cache behind it are outside the patches. -/
structure ImportResult where
  bi : Option BufferInfo
  fb : Option Nat
  bufferHandleUpdated : Bool
  biGetFailed : Bool
  fbImportFailed : Bool

namespace HwcLayer

/-- `ImportFb()` with the given outcome. -/
def importFb (l : HwcLayer) (r : ImportResult) : HwcLayer :=
  { l with
    layerData := { l.layerData with bi := r.bi, fb := r.fb }
    bufferHandleUpdated := r.bufferHandleUpdated
    biGetFailed := r.biGetFailed
    fbImportFailed := r.fbImportFailed }

/-- The frontend's values override those of the buffer info unless they are undefined. -/
def overrideBufferInfo (l : HwcLayer) (bi : BufferInfo) : BufferInfo :=
  { bi with
    blendMode := if l.blendMode ≠ .undefined then l.blendMode else bi.blendMode
    colorSpace := if l.colorSpace ≠ .undefined then l.colorSpace else bi.colorSpace
    sampleRange := if l.sampleRange ≠ .undefined then l.sampleRange else bi.sampleRange }

/-- `PopulateLayerData()`: the layer afterwards and whether it can be processed further. -/
def populateLayerData (importResult : HwcLayer → ImportResult) (l : HwcLayer) : HwcLayer × Bool :=
  let l := l.importFb (importResult l)
  match l.layerData.bi with
  -- without buffer info nothing can be shown
  | none => (l, false)
  | some bi =>
    let l := { l with layerData := { l.layerData with bi := some (l.overrideBufferInfo bi) } }
    (l, l.isLayerUsableAsDevice)

/-! ## Setters -/

/-- Store a value and mark the layer as changed, or do nothing when the value is already there. -/
def setIfChanged {β : Type} [DecidableEq β] (l : HwcLayer) (get : HwcLayer → β)
    (set : HwcLayer → β → HwcLayer) (v : β) : HwcLayer :=
  if get l = v then l else { set l v with piChanged := true }

/-- `SetCursorPosition` ignores its arguments. -/
def setCursorPosition (l : HwcLayer) (_x _y : Int) : HwcLayer := l

/-- `SetLayerBlendMode`, on the raw `HWC2::BlendMode`. -/
def setLayerBlendMode (l : HwcLayer) (mode : Int) : HwcLayer :=
  let bm : BufferBlendMode := match mode with
    | 1 => .none
    | 2 => .preMult
    | 3 => .coverage
    | _ => .undefined
  l.setIfChanged (·.blendMode) (fun l v => { l with blendMode := v }) bm

/-- `MakeSharedFd`: a negative descriptor is no fence. -/
def makeSharedFd (fd : Int) : Option Nat := if fd < 0 then none else some fd.toNat

/-- `SetLayerBuffer` always counts as a change. -/
def setLayerBuffer (l : HwcLayer) (buffer : Option Nat) (acquireFence : Int) : HwcLayer :=
  { l with
    layerData := { l.layerData with acquireFence := makeSharedFd acquireFence }
    bufferHandle := buffer
    bufferHandleUpdated := true
    piChanged := true }

/-- `SetLayerColor`. -/
def setLayerColor (l : HwcLayer) (color : HwcColor) : HwcLayer :=
  l.setIfChanged (·.color) (fun l v => { l with color := v }) color

/-- `SetLayerCompositionType` stores the type without marking a change. -/
def setLayerCompositionType (l : HwcLayer) (type : Int) : HwcLayer :=
  { l with sfType := Composition.ofRaw type }

/-- The colour space named by the standard bits of an `android_dataspace_t`. -/
def dataspaceColorSpace (dataspace : BitVec 32) : BufferColorSpace :=
  match (dataspace >>> 16 &&& 63#32).toNat with
  | 1 => .ituRec709
  | 2 | 3 | 4 | 5 => .ituRec601
  | 6 | 7 => .ituRec2020
  | _ => .undefined

/-- The sample range named by the range bits of an `android_dataspace_t`. -/
def dataspaceSampleRange (dataspace : BitVec 32) : BufferSampleRange :=
  match (dataspace >>> 27 &&& 7#32).toNat with
  | 1 => .fullRange
  | 2 => .limitedRange
  | _ => .undefined

/-- `SetLayerDataspace`: colour space and sample range, each compared and stored on its own. -/
def setLayerDataspace (l : HwcLayer) (dataspace : BitVec 32) : HwcLayer :=
  -- unknown standards and ranges count as undefined
  let l := l.setIfChanged (·.colorSpace) (fun l v => { l with colorSpace := v })
    (dataspaceColorSpace dataspace)
  l.setIfChanged (·.sampleRange) (fun l v => { l with sampleRange := v })
    (dataspaceSampleRange dataspace)

/-- Rewrite the presentation info. -/
def withPi (l : HwcLayer) (f : PresentInfo → PresentInfo) : HwcLayer :=
  { l with layerData := { l.layerData with pi := f l.layerData.pi } }

/-- `SetLayerDisplayFrame`. -/
def setLayerDisplayFrame (l : HwcLayer) (frame : IRect) : HwcLayer :=
  l.setIfChanged (·.layerData.pi.displayFrame)
    (fun l v => l.withPi fun pi => { pi with displayFrame := v }) frame

/-- `SetLayerPlaneAlpha`, on `a = std::lround(alpha * UINT16_MAX)`. The comparison is made on the
`long`, the stored value is cut to `uint16_t`. -/
def setLayerPlaneAlpha (l : HwcLayer) (a : Int) : HwcLayer :=
  if (l.layerData.pi.alpha : Int) = a then l
  else { l.withPi fun pi => { pi with alpha := (a % 65536).toNat } with piChanged := true }

/-- `SetLayerSourceCrop`. -/
def setLayerSourceCrop (l : HwcLayer) (crop : FRect) : HwcLayer :=
  l.setIfChanged (·.layerData.pi.sourceCrop)
    (fun l v => l.withPi fun pi => { pi with sourceCrop := v }) crop

/-- `SetLayerSurfaceDamage`: a rectangle with a corner off both axes counts as a change. -/
def setLayerSurfaceDamage (l : HwcLayer) (damage : List IRect) : HwcLayer :=
  if damage.any fun r => r.right ≠ 0 && r.bottom ≠ 0 then { l with piChanged := true } else l

/-- `SetLayerTransform`, on the `LayerTransform` bits computed from its argument. -/
def setLayerTransform (l : HwcLayer) (transform : Nat) : HwcLayer :=
  l.setIfChanged (·.layerData.pi.transform)
    (fun l v => l.withPi fun pi => { pi with transform := v }) transform

/-- `SetLayerVisibleRegion` ignores its argument. -/
def setLayerVisibleRegion (l : HwcLayer) (_visible : List IRect) : HwcLayer := l

/-- `SetLayerZOrder`. -/
def setLayerZOrder (l : HwcLayer) (order : Nat) : HwcLayer :=
  l.setIfChanged (·.zpos) (fun l v => { l with zpos := v }) order

end HwcLayer

/-! ## Setter calls as data -/

/-- A call of one of the layer setters. -/
inductive LayerCall where
  | cursorPosition (x y : Int)
  | blendMode (mode : Int)
  | buffer (buffer : Option Nat) (acquireFence : Int)
  | color (color : HwcColor)
  | compositionType (type : Int)
  | dataspace (dataspace : BitVec 32)
  | displayFrame (frame : IRect)
  | planeAlpha (a : Int)
  | sourceCrop (crop : FRect)
  | surfaceDamage (damage : List IRect)
  | transform (transform : Nat)
  | visibleRegion (visible : List IRect)
  | zOrder (order : Nat)

/-- The setter behind a call. -/
def LayerCall.run (l : HwcLayer) : LayerCall → HwcLayer
  | .cursorPosition x y => l.setCursorPosition x y
  | .blendMode m => l.setLayerBlendMode m
  | .buffer h fd => l.setLayerBuffer h fd
  | .color c => l.setLayerColor c
  | .compositionType t => l.setLayerCompositionType t
  | .dataspace d => l.setLayerDataspace d
  | .displayFrame r => l.setLayerDisplayFrame r
  | .planeAlpha a => l.setLayerPlaneAlpha a
  | .sourceCrop r => l.setLayerSourceCrop r
  | .surfaceDamage rs => l.setLayerSurfaceDamage rs
  | .transform t => l.setLayerTransform t
  | .visibleRegion rs => l.setLayerVisibleRegion rs
  | .zOrder z => l.setLayerZOrder z

/-- What the frontend shows of a layer: blend mode, buffer, colour, colour space, sample range,
display frame, plane alpha, source crop, transform and z-order. -/
structure Appearance where
  blendMode : BufferBlendMode
  buffer : Option Nat
  color : HwcColor
  colorSpace : BufferColorSpace
  sampleRange : BufferSampleRange
  displayFrame : IRect
  alpha : Nat
  sourceCrop : FRect
  transform : Nat
  zpos : Nat
  deriving DecidableEq

/-- The appearance of a layer. -/
def HwcLayer.appearance (l : HwcLayer) : Appearance where
  blendMode := l.blendMode
  buffer := l.bufferHandle
  color := l.color
  colorSpace := l.colorSpace
  sampleRange := l.sampleRange
  displayFrame := l.layerData.pi.displayFrame
  alpha := l.layerData.pi.alpha
  sourceCrop := l.layerData.pi.sourceCrop
  transform := l.layerData.pi.transform
  zpos := l.zpos

/-- The call hands over a buffer. A new buffer is a change even under the old handle. -/
def LayerCall.setsBuffer : LayerCall → Bool
  | LayerCall.buffer .. => true
  | _ => false

/-! ## What a setter can do -/

namespace HwcLayer

variable {β : Type} [DecidableEq β] {get : HwcLayer → β} {set : HwcLayer → β → HwcLayer}

/-- A `setIfChanged` setter that leaves the change flag clear has done nothing. -/
theorem setIfChanged_of_unchanged {l : HwcLayer} {v : β}
    (h : (l.setIfChanged get set v).piChanged = false) : l.setIfChanged get set v = l := by
  unfold setIfChanged at h ⊢
  split_ifs at h ⊢
  rfl

/-- A `setIfChanged` setter whose store keeps the client flag keeps it. -/
theorem setIfChanged_useClient (hset : ∀ l v, (set l v).useClient = l.useClient) (l : HwcLayer)
    (v : β) : (l.setIfChanged get set v).useClient = l.useClient := by
  unfold setIfChanged
  split_ifs
  · rfl
  · exact hset l v

end HwcLayer

/-- Setters never move a layer between client and device composition. -/
theorem LayerCall.run_useClient (l : HwcLayer) (c : LayerCall) :
    (c.run l).useClient = l.useClient := by
  cases c with
  | cursorPosition | compositionType | visibleRegion | buffer => rfl
  | blendMode | color | displayFrame | sourceCrop | transform | zOrder =>
    apply HwcLayer.setIfChanged_useClient
    intros
    rfl
  | dataspace =>
    apply (HwcLayer.setIfChanged_useClient ?range _ _).trans
      (HwcLayer.setIfChanged_useClient ?standard _ _)
    all_goals
      intros
      rfl
  | planeAlpha a =>
    simp only [run, HwcLayer.setLayerPlaneAlpha, HwcLayer.withPi]
    split_ifs <;> rfl
  | surfaceDamage damage =>
    simp only [run, HwcLayer.setLayerSurfaceDamage]
    split_ifs <;> rfl

/-- **What an unmarked change means**: a setter after which the change flag is clear found it
clear, was not a buffer update and left the appearance of the layer as it was. -/
theorem LayerCall.run_of_unchanged {l : HwcLayer} {c : LayerCall}
    (h : (c.run l).piChanged = false) :
    l.piChanged = false ∧ (c.run l).appearance = l.appearance ∧ c.setsBuffer = false := by
  have same : ∀ {l' : HwcLayer}, l' = l → l'.piChanged = false →
      l.piChanged = false ∧ l'.appearance = l.appearance := by
    rintro _ rfl h
    exact ⟨h, rfl⟩
  -- one case for each setter, the common shape once
  cases c with
  | cursorPosition | compositionType | visibleRegion => exact ⟨h, rfl, rfl⟩
  | buffer buffer fence => simp [run, HwcLayer.setLayerBuffer] at h
  | blendMode | color | displayFrame | sourceCrop | transform | zOrder =>
    have hsame := same (HwcLayer.setIfChanged_of_unchanged h) h
    exact ⟨hsame.1, hsame.2, rfl⟩
  | dataspace dataspace =>
    simp only [run, HwcLayer.setLayerDataspace] at h ⊢
    -- two stores in a row: the second did nothing, and then the first
    have hsecond := HwcLayer.setIfChanged_of_unchanged h
    rw [hsecond] at h ⊢
    have hsame := same (HwcLayer.setIfChanged_of_unchanged h) h
    exact ⟨hsame.1, hsame.2, rfl⟩
  | planeAlpha a =>
    simp only [run, HwcLayer.setLayerPlaneAlpha] at h ⊢
    split_ifs at h ⊢ with heq
    · exact ⟨h, rfl, rfl⟩
  | surfaceDamage damage =>
    simp only [run, HwcLayer.setLayerSurfaceDamage] at h ⊢
    split_ifs at h ⊢ with heq
    · exact ⟨h, rfl, rfl⟩

/-- Importing a buffer keeps every field that is not about the buffer. -/
theorem HwcLayer.populateLayerData_frame (importResult : HwcLayer → ImportResult) (l : HwcLayer) :
    (l.populateLayerData importResult).1.useClient = l.useClient ∧
    (l.populateLayerData importResult).1.piChanged = l.piChanged ∧
    (l.populateLayerData importResult).1.zpos = l.zpos ∧
    (l.populateLayerData importResult).1.layerData.pi = l.layerData.pi ∧
    (l.populateLayerData importResult).1.sfType = l.sfType ∧
    (l.populateLayerData importResult).1.validatedType = l.validatedType := by
  unfold populateLayerData
  dsimp only
  split <;> exact ⟨rfl, rfl, rfl, rfl, rfl, rfl⟩

end GloDroid.HwComposer

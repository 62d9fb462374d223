import GloDroid.Base.Machine
import GloDroid.HwComposer.Selection

/-!
# The Display

`hwc2_device/HwcDisplay` of a connected display: layer creation and destruction, the validate and
present calls, the release fences. The service hooks hold the main lock for a whole call, so a
call is one step; the thread of the flattening controller is the only other party.

The statements that follow the visible ones under `if (mode_update_commited_)` are not in the
patches: what they leave in `staged_mode_` is a parameter of the call. Vsync, colour and
configuration queries, which no layer or fence depends on, are left out. `force_client` is never
set, since the only assignment to it is commented out.
-/

namespace GloDroid.HwComposer

open GloDroid.Base

/-! ## State and results -/

/-- A mode staged by `SetActiveConfigInternal`, with its time and config id. -/
structure StagedMode where
  mode : Nat
  hdisplay : Int
  vdisplay : Int
  configId : Nat
  changeTime : Int
  deriving DecidableEq, Repr

/-- `HwcDisplay`. -/
structure HwcDisplay extends FEComposition where
  kind : CompositorKind
  rules : ScanoutRules
  flatcon : Option FlatteningController
  stagedMode : Option StagedMode := none
  activeConfigId : Nat := 0
  frameValidated : Bool := false
  clientLayersCount : Nat := 0
  presentFence : Option Nat := none
  layerIdx : Nat := 0

/-- The `HWC2::Error` values the modelled calls return. -/
inductive HwcError where
  | none | hasChanges | badLayer | notValidated
  deriving DecidableEq, Repr

/-- What lies outside the display during one call: the pipeline, the monotonic clock and what a
committed mode update leaves in `staged_mode_`. -/
structure DisplayEnv extends PipeEnv where
  monotonicNow : Int := 0
  stagedAfterUpdate : Option StagedMode := none

namespace HwcDisplay

/-! ## Layers -/

/-- `CreateLayer`. The colour of the new layer is whatever its memory held. -/
def createLayer (d : HwcDisplay) (color : HwcColor) : HwcDisplay :=
  { d with
    feLayers := d.feLayers.emplace d.layerIdx { color }
    layerIdx := (d.layerIdx + 1) % 2 ^ 32 }

/-- `DestroyLayer`. -/
def destroyLayer (d : HwcDisplay) (layer : Nat) : HwcDisplay :=
  { d with feLayers := d.feLayers.erase layer }

/-- A layer setter; without the layer the hook returns `BadLayer` and changes nothing. -/
def callLayer (d : HwcDisplay) (layer : Nat) (call : LayerCall) : HwcDisplay :=
  { d with feLayers := d.feLayers.modify layer fun l => call.run l }

/-- `AcceptDisplayChanges`. -/
def acceptDisplayChanges (d : HwcDisplay) : HwcDisplay :=
  { d with feLayers := d.feLayers.mapVals fun _ l => l.acceptTypeChange }

/-- `SetClientTarget`. -/
def setClientTarget (d : HwcDisplay) (env : DisplayEnv) (target : Option Nat) (fence : Int)
    (dataspace : BitVec 32) : HwcDisplay × HwcError :=
  let l := (d.clientOutput.setLayerBuffer target fence).setLayerDataspace dataspace
  if target.isNone then ({ d with clientOutput := l }, .none)
  else
    let p := l.populateLayerData env.importResult
    match p.2, p.1.layerData.bi with
    | true, some bi =>
      let crop : FRect := ⟨0, env.roundFloat bi.height, 0, env.roundFloat bi.width⟩
      ({ d with clientOutput := p.1.setLayerSourceCrop crop }, .none)
    | _, _ => ({ d with clientOutput := p.1 }, .badLayer)

/-! ## Validating -/

/-- The loop of `ValidateDisplay` before the selection. -/
def requestClient (d : HwcDisplay) : FEComposition :=
  { d.toFEComposition with
    feLayers := d.feLayers.mapVals fun _ l => { l with useClient := !l.canScanout d.rules } }

/-- A layer after the second loop of `ValidateDisplay`. -/
def finishLayer (l : HwcLayer) : HwcLayer := { l.updateValidatedType with piChanged := false }

/-- `ValidateDisplay`: the display, the new value of `*num_types` and the error. -/
def validateDisplay (d : HwcDisplay) (env : DisplayEnv) (numTypes : Nat) :
    HwcDisplay × Nat × HwcError :=
  let comp := selectClientLayers env.toPipeEnv d.flatcon d.requestClient d.kind
  let layers := comp.feLayers.mapVals fun _ l => finishLayer l
  let numTypes := numTypes + layers.entries.countP fun e => e.2.isTypeChanged
  ({ d with
      feLayers := layers
      clientOutput := comp.clientOutput
      clientLayersCount := layers.entries.countP fun e => e.2.validatedType = .client
      frameValidated := true },
    numTypes, if numTypes ≠ 0 then .hasChanges else .none)

/-! ## Presenting -/

/-- One iteration of the skip-validate loop of `TryPresentDisplayInt`: an unchanged client layer
is counted for reuse, a changed one is tried on a plane, and the loop is left at a layer that
cannot be scanned out. -/
def skipValidateLayer (rules : ScanoutRules) (reuse : Nat) (l : HwcLayer) :
    HwcLayer × Option Nat :=
  let reuse' := if l.useClient && !l.piChanged then reuse + 1 else reuse
  let l' := if l.useClient && l.piChanged then { l with useClient := false } else l
  if l'.canScanout rules then (l', some reuse') else (l', none)

/-- The first part of `TryPresentDisplayInt`, entered without validation: the display afterwards
and whether the frame may be presented. -/
def skipValidate (d : HwcDisplay) : HwcDisplay × Bool :=
  let r := d.feLayers.loop (fun reuse _ l => skipValidateLayer d.rules reuse l) 0
  ({ d with feLayers := r.1 },
    match r.2 with
    | none => false
    -- client layers are reused all together or not at all
    | some reuse => !(decide (0 < reuse) && decide (reuse ≠ d.clientLayersCount)))

/-- `TryPresentDisplayInt` puts a staged mode whose time has come into effect before the commit. -/
def applyStagedMode (d : HwcDisplay) (now : Int) : HwcDisplay × Option Nat :=
  match d.stagedMode with
  | some m =>
    if m.changeTime ≤ now then
      ({ d with
          clientOutput := d.clientOutput.setLayerDisplayFrame ⟨0, m.vdisplay, 0, m.hdisplay⟩
          activeConfigId := m.configId },
        some m.mode)
    else (d, none)
  | none => (d, none)

/-- The second part of `TryPresentDisplayInt`: the display afterwards, and the result of
`PresentComposition`. -/
def commitFrame (d : HwcDisplay) (env : DisplayEnv) (validated : Bool) :
    HwcDisplay × PresentResult :=
  let (d, mode) := d.applyStagedMode env.monotonicNow
  let r := presentComposition env.toPipeEnv d.flatcon d.toFEComposition
    { allowFail := !validated, displayMode := mode }
  let d := { d with toFEComposition := r.comp, flatcon := r.flatcon }
  if r.ret ≠ 0 then (d, r)
  else
    ({ d with
        stagedMode := if mode.isSome then env.stagedAfterUpdate else d.stagedMode
        presentFence := r.outFence },
      r)

/-- What `PresentDisplay` returns. `composed` are, if the call got as far as
`PresentComposition`, the display that passed the skip-validate check and the result. -/
structure PresentOutcome where
  display : HwcDisplay
  error : HwcError
  composed : Option (HwcDisplay × PresentResult) := none

/-- The start of `TryPresentDisplayInt`: a frame that was not validated has to pass the check. -/
def checkFrame (d : HwcDisplay) (validated : Bool) : HwcDisplay × Bool :=
  if validated then (d, true) else d.skipValidate

/-- `TryPresentDisplayInt` and the error `PresentDisplay` makes of its result. -/
def tryPresentDisplay (d : HwcDisplay) (env : DisplayEnv) (validated : Bool) : PresentOutcome :=
  let failure : HwcError := if validated then .badLayer else .notValidated
  let c := d.checkFrame validated
  if c.2 then
    let r := c.1.commitFrame env validated
    { display := r.1
      error := if r.2.ret ≠ 0 then failure else .none
      composed := some (c.1, r.2) }
  else { display := c.1, error := failure }

/-- `PresentDisplay`. -/
def presentDisplay (d : HwcDisplay) (env : DisplayEnv) : PresentOutcome :=
  { d with frameValidated := false }.tryPresentDisplay env d.frameValidated

/-! ## Release fences -/

/-- The loop of `GetReleaseFences` with arrays of `capacity` elements: `none` when the arrays are
too small, else the layers with the duplicated fences. -/
def releaseFencesLoop (fence : Option Nat) (capacity : Nat) :
    List (Nat × HwcLayer) → List (Nat × Nat) → Option (List (Nat × Nat))
  | [], out => some out
  | (k, l) :: rest, out =>
    match fence with
    | some f =>
      if l.useClient then releaseFencesLoop fence capacity rest out
      -- the arrays are too small
      else if capacity < out.length + 1 then none
      else releaseFencesLoop fence capacity rest (out ++ [(k, f)])
    | none => releaseFencesLoop fence capacity rest out

/-- `GetReleaseFences` with non-null arrays. -/
def getReleaseFences (d : HwcDisplay) (capacity : Nat) : Option (List (Nat × Nat)) :=
  releaseFencesLoop d.presentFence capacity d.feLayers.entries []

end HwcDisplay

/-! ## Calls as steps -/

/-- The calls of the client and the steps of the flattening thread. -/
inductive DisplayCall where
  | createLayer (color : HwcColor)
  | destroyLayer (layer : Nat)
  | callLayer (layer : Nat) (call : LayerCall)
  | acceptDisplayChanges
  | setClientTarget (env : DisplayEnv) (target : Option Nat) (fence : Int) (dataspace : BitVec 32)
  | stageMode (mode : StagedMode)
  | validateDisplay (env : DisplayEnv) (numTypes : Nat)
  | presentDisplay (env : DisplayEnv)
  | flatteningThread (now : Int)

/-- The effect of a call on the display. A commit that succeeds without an out-fence has no
successor: the process dereferences the empty fence. -/
def DisplayCall.next (d : HwcDisplay) : DisplayCall → Option HwcDisplay
  | .createLayer color => some (d.createLayer color)
  | .destroyLayer layer => some (d.destroyLayer layer)
  | .callLayer layer call => some (d.callLayer layer call)
  | .acceptDisplayChanges => some d.acceptDisplayChanges
  | .setClientTarget env target fence dataspace =>
    some (d.setClientTarget env target fence dataspace).1
  | .stageMode mode => some { d with stagedMode := some mode }
  | .validateDisplay env numTypes => some (d.validateDisplay env numTypes).1
  | .presentDisplay env =>
    let r := d.presentDisplay env
    -- an empty fence is dereferenced
    if r.error = .none ∧ r.display.presentFence = none then none else some r.display
  | .flatteningThread now => some { d with flatcon := d.flatcon.map (·.threadIteration now) }

/-- A display without layers, as `Init` leaves it. -/
structure HwcDisplay.Fresh (d : HwcDisplay) : Prop where
  no_layers : d.feLayers = OrderedMap.empty
  target_scanout : d.clientOutput.useClient = false
  not_validated : d.frameValidated = false
  no_client_layers : d.clientLayersCount = 0
  no_fence : d.presentFence = none

/-- A fresh display without a flattening controller. -/
def HwcDisplay.blank (kind : CompositorKind) : HwcDisplay where
  feLayers := OrderedMap.empty
  clientOutput := {}
  kind := kind
  rules := {}
  flatcon := none

theorem HwcDisplay.fresh_blank (kind : CompositorKind) : (HwcDisplay.blank kind).Fresh :=
  ⟨rfl, rfl, rfl, rfl, rfl⟩

/-- The display under any sequence of calls. -/
def displayMachine : Machine HwcDisplay DisplayCall where
  start := HwcDisplay.Fresh
  next := DisplayCall.next

end GloDroid.HwComposer

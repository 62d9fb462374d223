import Mathlib.Data.List.Perm.Lattice
import Mathlib.Algebra.BigOperators.Group.List.Basic
import GloDroid.Base.Window
import GloDroid.HwComposer.Composition
import GloDroid.HwComposer.FlatteningController

/-!
# The Compositors

`compositor/CompositorClassic` and `compositor/CompositorSunxi`: which layers the client composes
(`SelectClientLayers`) and what is handed to the kernel (`PresentComposition`).

The pipeline behind the compositor is a parameter: the number of usable planes, the buffer
import, the outcome of `DrmKmsPlan::CreateDrmKmsPlan` and of `ExecuteAtomicCommit`, and the
system clock. Layer counts stay far below `INT_MAX`, so list positions are kept as unbounded
integers; what wraps in practice is the conversion of a negative `int` to `size_t` and the
`uint32_t` pixel sum, and both are modelled. The statistics counters and `current_plan_`, which
nothing here reads, are left out.
-/

namespace GloDroid.HwComposer

open GloDroid.Base

/-! ## The environment of a call -/

/-- The input fields of `AtomicCommitArgs` that are set here. A display mode is named by its id. -/
structure AtomicCommitArgs where
  testOnly : Bool := false
  allowFail : Bool := false
  displayMode : Option Nat := none
  deriving DecidableEq, Repr

/-- The answer of `ExecuteAtomicCommit`: its return value and `out_fence`. -/
structure CommitResult where
  ret : Int
  outFence : Option Nat := none
  deriving DecidableEq, Repr

/-- What lies outside the compositor during one call. -/
structure PipeEnv where
  usablePlanes : Nat
  importResult : HwcLayer → ImportResult
  createPlan : List LayerData → Bool
  commit : AtomicCommitArgs → List LayerData → CommitResult
  now : Int
  /-- Rounding of an exact value to `float`. -/
  roundFloat : ℚ → ℚ

/-- A pipeline with `planes` planes that imports every buffer and accepts every commit. -/
def PipeEnv.accepting (planes : Nat) : PipeEnv where
  usablePlanes := planes
  importResult := fun _ => { bi := some {}, fb := some 0, bufferHandleUpdated := false,
                             biGetFailed := false, fbImportFailed := false }
  createPlan := fun _ => true
  commit := fun _ _ => { ret := 0, outFence := some 7 }
  now := 0
  roundFloat := id

/-- `-EINVAL`. -/
def negEINVAL : Int := -22

/-- Conversion of an `int` to `size_t`. -/
def toSizeT (x : Int) : Nat := if x < 0 then (x + 2 ^ 64).toNat else x.toNat

/-- `UINT32_MAX`. -/
def uint32Max : Int := 4294967295

/-! ## Pixel cost and client range -/

/-- `(right - left) * (bottom - top)`. -/
def IRect.area (f : IRect) : Int := (f.right - f.left) * (f.bottom - f.top)

/-- The loop of `CalcPixOps` from position `i`: pixel sum and the zero-cost flag. -/
def pixOpsLoop (comp : FEComposition) (first size : Nat) :
    Nat → Int × Bool → List LayerRef → Int × Bool
  | _, acc, [] => acc
  | i, acc, r :: rest =>
    let l := comp.deref r
    let acc :=
      if InWindow first size i then
        -- the sum is a `uint32_t`
        ((acc.1 + l.layerData.pi.displayFrame.area) % 2 ^ 32, acc.2 && !l.piChanged)
      else acc
    pixOpsLoop comp first size (i + 1) acc rest

/-- `CalcPixOps`. -/
def calcPixOps (comp : FEComposition) (layers : OrderedLayers) (first size : Nat)
    (zeroCostEn : Bool) : Int :=
  let r := pixOpsLoop comp first size 0 (0, true) layers.refs
  -- a window without a changed layer costs nothing: its buffer can be reused
  if r.2 && zeroCostEn then 0 else r.1

/-- `use_client = true`. -/
def HwcLayer.asClient (l : HwcLayer) : HwcLayer := { l with useClient := true }

/-- The loop of `MarkClient` from position `i`. -/
def markLoop (first size : Nat) : Nat → FEComposition → List LayerRef → FEComposition
  | _, comp, [] => comp
  | i, comp, r :: rest =>
    let comp := if InWindow first size i then comp.modify r HwcLayer.asClient else comp
    markLoop first size (i + 1) comp rest

/-- `MarkClient`. -/
def markClient (layers : OrderedLayers) (comp : FEComposition) (first size : Nat) :
    FEComposition :=
  markLoop first size 0 comp layers.refs

/-- The search for the cheapest window: the first start with the least cost below `UINT32_MAX`,
else the start it had. -/
def cheapestStart (cost : Nat → Int) (start : Int) (steps : Nat) (clientStart : Int) : Int :=
  ((List.range steps).foldl
    (fun (best : Int × Int) i => if cost i < best.1 then (cost i, start + i) else best)
    (uint32Max, clientStart)).2

/-- `avail_planes`: with more layers than planes, one plane is saved for the client composited
layers. -/
def availPlanes (usablePlanes n : Nat) : Int :=
  if usablePlanes < n then (usablePlanes : Int) - 1 else usablePlanes

/-- The cheapest of the `steps` windows of `size` layers from `start` on. -/
def pickWindow (comp : FEComposition) (layers : OrderedLayers) (clientStart : Int)
    (start : Int) (size : Nat) (steps : Int) : ClientRange :=
  { start := cheapestStart (fun i => calcPixOps comp layers (toSizeT (start + i)) size true)
      start (toSizeT steps) clientStart
    size := size }

/-- `ExtendClientRange`. -/
def extendClientRange (usablePlanes : Nat) (comp : FEComposition) (layers : OrderedLayers)
    (range : ClientRange) : ClientRange :=
  let n : Int := layers.refs.length
  let extra : Int := n - range.size - availPlanes usablePlanes layers.refs.length
  if 0 < extra then
    if range.size ≠ 0 then
      -- every candidate contains the client range
      let prepend := min range.start extra
      let append := min (n - (range.start + range.size)) extra
      let start := range.start - prepend
      let size := range.size + extra.toNat
      pickWindow comp layers range.start start size
        (1 + min (min append prepend) (n - (start + size)))
    else
      -- no client layer yet: any window will do
      pickWindow comp layers range.start 0 extra.toNat (1 + n - extra)
  else range

/-! ## Presenting -/

/-- The loop of `PresentComposition` over the ordered layers: client layers are skipped, every
other layer is imported and its data collected, until one cannot be processed further. -/
def importLayers (env : PipeEnv) :
    FEComposition → List LayerRef → FEComposition × Option (List (LayerRef × LayerData))
  | comp, [] => (comp, some [])
  | comp, r :: rest =>
    if comp.isClient r then importLayers env comp rest
    else
      let p := (comp.deref r).populateLayerData env.importResult
      let comp := comp.modify r fun _ => p.1
      if p.2 then
        let q := importLayers env comp rest
        (q.1, q.2.map fun ds => (r, p.1.layerData) :: ds)
      else (comp, none)

/-- What `PresentComposition` leaves behind. `planned` are the layers passed on to
`CreateDrmKmsPlan`, if the call got that far. -/
structure PresentResult where
  ret : Int
  comp : FEComposition
  flatcon : Option FlatteningController
  planned : Option (List (LayerRef × LayerData)) := none
  outFence : Option Nat := none

/-- The layers `PresentComposition` iterates over: the ordered layers and, if there are client
layers, `client_output` inserted under the key `client_start`. -/
def presentedLayers (comp : FEComposition) : OrderedLayers :=
  let (layers, range) := getOrderedLayers comp
  if 0 < range.size then layers.emplace range.start.toNat .clientOutput else layers

/-- The flattening controller after a committed frame of `n` planes-or-client layers. -/
def flatconAfterCommit (env : PipeEnv) (n : Nat) (fc : FlatteningController) :
    FlatteningController :=
  if n ≤ 1 then fc.disable else (fc.newFrame env.now).1

/-- `CompositorGeneric::PresentComposition`. -/
def presentComposition (env : PipeEnv) (flatcon : Option FlatteningController)
    (comp : FEComposition) (args : AtomicCommitArgs) : PresentResult :=
  let layers := presentedLayers comp
  if layers.refs.isEmpty then { ret := negEINVAL, comp, flatcon }
  else
    match importLayers env comp layers.refs with
    -- some layer cannot be shown
    | (comp, none) => { ret := negEINVAL, comp, flatcon }
    | (comp, some ds) =>
      let data := ds.map Prod.snd
      if env.createPlan data then
        let r := env.commit args data
        if r.ret ≠ 0 then
          { ret := r.ret, comp, flatcon, planned := some ds, outFence := r.outFence }
        else
          -- only a frame on the screen counts for the flattening
          let flatcon :=
            if args.testOnly then flatcon
            else flatcon.map (flatconAfterCommit env layers.refs.length)
          { ret := 0, comp, flatcon, planned := some ds, outFence := r.outFence }
      else { ret := negEINVAL, comp, flatcon, planned := some ds }

/-! ## Selecting client layers -/

/-- `CompositorGeneric::SelectClientLayers`. The test commit leaves the flattening controller
alone, so only the composition changes. -/
def selectGeneric (env : PipeEnv) (flatcon : Option FlatteningController)
    (comp : FEComposition) : FEComposition :=
  let (layers, range) := getOrderedLayers comp
  let n := layers.refs.length
  -- a flatten request gives everything to the client
  if flatcon.any (·.shouldFlatten) then markClient layers comp 0 n
  else
    let range := extendClientRange env.usablePlanes comp layers range
    let comp := markClient layers comp (toSizeT range.start) range.size
    -- a frame that is all client is not tested
    let testingNeeded := range.start ≠ 0 ∨ range.size ≠ n
    if testingNeeded then
      let r := presentComposition env flatcon comp { testOnly := true, allowFail := true }
      if r.ret ≠ 0 then markClient layers r.comp 0 n else r.comp
    else comp

/-- `CompositorClient::SelectClientLayers`. -/
def selectClient (comp : FEComposition) : FEComposition :=
  { comp with feLayers := comp.feLayers.mapVals fun _ l => l.asClient }

/-- A `float` quotient: dividing by zero gives an infinity or no number at all. -/
inductive Ratio where
  | finite (q : ℚ)
  | posInf
  | negInf
  | nan
  deriving DecidableEq

/-- `src / dst` with a `float` numerator and an `int` denominator. -/
def floatDiv (env : PipeEnv) (src : ℚ) (dst : Int) : Ratio :=
  let d := env.roundFloat dst
  if d = 0 then
    if 0 < src then .posInf else if src < 0 then .negInf else .nan
  else .finite (env.roundFloat (src / d))

/-- `a < b` on floats. -/
def Ratio.lt : Ratio → Ratio → Bool
  | .finite a, .finite b => a < b
  | .finite _, .posInf => true
  | .negInf, .finite _ => true
  | .negInf, .posInf => true
  | _, _ => false

/-- `a <= k` for a constant. -/
def Ratio.leConst : Ratio → ℚ → Bool
  | .finite a, k => a ≤ k
  | .negInf, _ => true
  | _, _ => false

/-- `std::max`. -/
def Ratio.max (a b : Ratio) : Ratio := if a.lt b then b else a

/-- `kViMaxRatio`. -/
def kViMaxRatio : ℚ := 15

/-- `kUiMaxRatio`, before rounding. -/
def kUiMaxRatio : ℚ := 38 / 10

/-- The larger of the width and the height ratio of a layer. -/
def scaleRatio (env : PipeEnv) (pi : PresentInfo) : Ratio :=
  let srcWidth := env.roundFloat (pi.sourceCrop.right - pi.sourceCrop.left)
  let srcHeight := env.roundFloat (pi.sourceCrop.bottom - pi.sourceCrop.top)
  let dstWidth := pi.displayFrame.right - pi.displayFrame.left
  let dstHeight := pi.displayFrame.bottom - pi.displayFrame.top
  (floatDiv env srcWidth dstWidth).max (floatDiv env srcHeight dstHeight)

/-- The scaler cannot handle the layer, at the bottom of the stack or above it. -/
def exceedsScaler (env : PipeEnv) (mostBottom : Bool) (pi : PresentInfo) : Bool :=
  let fitsViLayer := (scaleRatio env pi).leConst kViMaxRatio
  let fitsUiLayer := (scaleRatio env pi).leConst (env.roundFloat kUiMaxRatio)
  (!fitsViLayer && mostBottom) || (!fitsUiLayer && !mostBottom)

/-- The marking loop of `CompositorSunxi::SelectClientLayers`. -/
def sunxiLoop (env : PipeEnv) : Bool → FEComposition → List LayerRef → FEComposition
  | _, comp, [] => comp
  | mostBottom, comp, r :: rest =>
    let comp :=
      if exceedsScaler env mostBottom (comp.deref r).layerData.pi then
        comp.modify r HwcLayer.asClient
      else comp
    sunxiLoop env false comp rest

/-- `CompositorSunxi` before it calls the generic selection. -/
def sunxiMark (env : PipeEnv) (comp : FEComposition) : FEComposition :=
  sunxiLoop env true comp (getOrderedLayers comp).1.refs

/-- `CompositorSunxi::SelectClientLayers`. -/
def selectSunxi (env : PipeEnv) (flatcon : Option FlatteningController) (comp : FEComposition) :
    FEComposition :=
  selectGeneric env flatcon (sunxiMark env comp)

/-- The compositors `FindAndCreate` chooses from. -/
inductive CompositorKind where
  | generic | client | sunxi
  deriving DecidableEq, Repr

/-- `SelectClientLayers` of each compositor. -/
def selectClientLayers (env : PipeEnv) (flatcon : Option FlatteningController)
    (comp : FEComposition) : CompositorKind → FEComposition
  | .generic => selectGeneric env flatcon comp
  | .client => selectClient comp
  | .sunxi => selectSunxi env flatcon comp

end GloDroid.HwComposer

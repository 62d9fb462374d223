import GloDroid.Base.Descriptors

/-!
# Buffers of the gbm_mesa Backend

A gralloc buffer keeps the descriptors of its planes in `UniqueFd`s, which close them when the
buffer is destroyed. `gbm_mesa_bo_create` works out the arguments of the allocation, lets the
wrapper allocate, with a second attempt if that fails, and stores the descriptor the wrapper
returns.

What the rest of minigbm computes from a format is a parameter (`DrvHelpers`); what GBM and the
kernel answer comes with the call.
-/

namespace GloDroid.Gralloc

open GloDroid.Base

/-! ## Allocation arguments -/

/-- What minigbm knows about formats: `drv_num_planes_from_format`, and the total size computed by
`drv_bo_from_format` from stride, height and format. -/
structure DrvHelpers where
  numPlanes : UInt32 → Nat
  totalSize : UInt32 → UInt32 → UInt32 → UInt64

/-- The use flags the backends test, each mask as a whole. -/
structure UseFlags where
  /-- `BO_USE_SW_MASK` -/
  sw : Bool := false
  /-- `BO_USE_SCANOUT` -/
  scanout : Bool := false
  /-- `BO_USE_CAMERA_READ | BO_USE_CAMERA_WRITE` -/
  camera : Bool := false
  deriving DecidableEq, Repr

def drmFormatR8 : UInt32 := 0x20203852

/-- `drm_to_gbm_image_formats`. The GBM formats have the codes of the DRM formats. -/
def drmToGbmImageFormats : List UInt32 :=
  [drmFormatR8,
    0x38385247, -- GR88
    0x35315241, -- ARGB1555
    0x36314752, -- RGB565
    0x34325258, -- XRGB8888
    0x34325241, -- ARGB8888
    0x34324258, -- XBGR8888
    0x34324241, -- ABGR8888
    0x30335258, -- XRGB2101010
    0x30334258, -- XBGR2101010
    0x30335241, -- ARGB2101010
    0x30334241, -- ABGR2101010
    0x48344258, -- XBGR16161616F
    0x48344241] -- ABGR16161616F

/-- `get_gbm_mesa_format`. -/
def getGbmMesaFormat (drmFormat : UInt32) : UInt32 :=
  if drmToGbmImageFormats.contains drmFormat then drmFormat else 0

/-- `ALIGN` for 32-bit values. -/
def align (a b : UInt32) : UInt32 := (a + (b - 1)) &&& ~~~(b - 1)

/-- `ALIGN` for a 64-bit size and a 32-bit alignment: the mask is complemented in 32 bits. -/
def alignSize (a : UInt64) (b : UInt32) : UInt64 := (a + (b - 1).toUInt64) &&& (~~~(b - 1)).toUInt64

/-- `DIV_ROUND_UP`. -/
def divRoundUp (n d : UInt32) : UInt32 := (n + d - 1) / d

/-- `alloc_args`, without the results. -/
structure AllocArgs where
  width : UInt32
  height : UInt32
  drmFormat : UInt32
  forceLinear : Bool
  needsMapStride : Bool
  useScanout : Bool
  deriving DecidableEq, Repr

/-- The arguments of the first allocation attempt. -/
def allocArgs (drv : DrvHelpers) (width height format : UInt32) (useFlags : UseFlags) : AllocArgs :=
  let args : AllocArgs :=
    { width, height
      drmFormat := if getGbmMesaFormat format != 0 then format else 0
      forceLinear := useFlags.sw
      needsMapStride := useFlags.sw
      useScanout := useFlags.scanout }
  -- the alignment for the RPI4 CSI camera
  let args :=
    if useFlags.camera then { args with useScanout := true, width := align args.width 32 } else args
  let sizeAlign : UInt32 := if useFlags.camera then 4096 else 1
  -- a format GBM does not know is allocated as a 1D buffer
  let args :=
    if args.drmFormat = 0 then
      let totalSize := alignSize (drv.totalSize args.width args.height format) sizeAlign
      { args with
        drmFormat := drmFormatR8, width := totalSize.toUInt32, height := 1, forceLinear := true }
    else args
  -- and a 1D buffer as a 2D texture
  if args.drmFormat = drmFormatR8 ∧ args.height = 1 then
    { args with needsMapStride := false, height := divRoundUp args.width 4096, width := 4096 }
  else args

/-! ## Buffers -/

/-- The `UniqueFd`s of a buffer, one for each plane; `none` is an empty one. -/
structure BoPriv where
  fds : List (Option Nat)
  deriving DecidableEq, Repr

/-- The descriptors of the process, and the live buffers. -/
structure Buffers where
  table : FdTable := {}
  bos : List BoPriv := []
  deriving DecidableEq, Repr

/-- The descriptors in the `UniqueFd`s of a buffer. -/
def BoPriv.stored (priv : BoPriv) : List Nat := priv.fds.filterMap id

/-- The descriptors in live `UniqueFd`s. -/
def Buffers.stored (s : Buffers) : List Nat := s.bos.flatMap BoPriv.stored

/-! ## Creation -/

/-- What GBM answers to an allocation: whether the buffer is created, the descriptor of
`gbm_bo_get_fd` (`none` for an error), and whether the import for the map stride succeeds. -/
structure AllocEnv where
  created : Bool
  fd : Option Nat
  imported : Bool

/-- The result of `gbm_mesa_alloc`, with `out_fd`. -/
inductive AllocResult where
  | failed
  | allocated (outFd : Option Nat)

/-- `gbm_mesa_alloc`. -/
def gbmMesaAlloc (t : FdTable) (args : AllocArgs) (env : AllocEnv) :
    Option (FdTable × AllocResult) :=
  if !env.created then some (t, .failed)
  else
    match t.openFd env.fd with
    | none => none
    | some t =>
      -- returns without closing `out_fd`
      if args.needsMapStride && !env.imported then some (t, .failed)
      else some (t, .allocated env.fd)

/-- What the environment answers to `gbm_mesa_bo_create`. -/
structure GbmMesaEnv where
  driverReady : Bool
  first : AllocEnv
  second : AllocEnv

namespace Buffers

/-- A buffer is handed out with its descriptors. -/
def addBo (s : Buffers) (table : FdTable) (fds : List (Option Nat)) : Buffers :=
  { s with table, bos := { fds } :: s.bos }

/-- `gbm_mesa_bo_create`. Each plane gets a `UniqueFd` made from the same `out_fd`. -/
def gbmMesaBoCreate (s : Buffers) (drv : DrvHelpers) (width height format : UInt32)
    (useFlags : UseFlags) (env : GbmMesaEnv) : Option Buffers :=
  if !env.driverReady then some s
  else
    let args := allocArgs drv width height format useFlags
    -- without this flag the allocation is tried again without scanout
    let scanoutStrong := useFlags.camera
    match gbmMesaAlloc s.table args env.first with
    | none => none
    | some (t, .allocated outFd) =>
      some (s.addBo t (List.replicate (drv.numPlanes format) outFd))
    | some (t, .failed) =>
      if scanoutStrong then some { s with table := t }
      else
        match gbmMesaAlloc t { args with useScanout := false } env.second with
        | none => none
        | some (t, .allocated outFd) =>
          some (s.addBo t (List.replicate (drv.numPlanes format) outFd))
        | some (t, .failed) => some { s with table := t }

end Buffers

end GloDroid.Gralloc

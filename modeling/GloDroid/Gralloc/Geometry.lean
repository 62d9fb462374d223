import GloDroid.Base.RoundUp
import GloDroid.Gralloc.GbmMesa

/-!
# Geometry of Buffers

Both backends lay a buffer out with `drv_bo_from_format`, and ask GBM or a dma-heap for the memory.
gbm_mesa does it in three ways. An image of a format GBM knows has the stride that GBM returns. A
format that GBM does not know is laid out first, and its size is allocated as one row of bytes. One
row of bytes is allocated as rows of 4096.

What minigbm knows of formats is a parameter, as are GBM and the dma-heap.
-/

namespace GloDroid.Gralloc

open GloDroid.Base

/-! ## Formats -/

def drmFormatBGR888 : UInt32 := 0x34324742

/-- `scanout_render_formats`. -/
def scanoutRenderFormats : List UInt32 :=
  [0x34325241, -- ARGB8888
    0x34325258, -- XRGB8888
    0x34324241, -- ABGR8888
    0x34324258, -- XBGR8888
    0x36314752] -- RGB565

/-- `texture_only_formats`. -/
def textureOnlyFormats : List UInt32 :=
  [0x3231564e, -- NV12
    0x3132564e, -- NV21
    0x32315659, -- YVU420
    0x37393939] -- YVU420_ANDROID

/-- The formats of the combinations that `driver_init` adds, the same in both backends. -/
def registeredFormats : List UInt32 :=
  scanoutRenderFormats ++ textureOnlyFormats ++ [drmFormatR8, drmFormatBGR888]

/-- More of what minigbm knows about formats. -/
structure FormatHelpers extends DrvHelpers where
  /-- `drv_bytes_per_pixel_from_format`, for plane 0 -/
  bytesPerPixel : UInt32 → Nat
  /-- The size of the planes other than plane 0, from format, stride and height. -/
  otherPlanes : UInt32 → UInt32 → UInt32 → Nat
  /-- `drv_stride_from_format`, for plane 0 -/
  strideFromFormat : UInt32 → UInt32 → UInt32
  /-- Plane 0 has `stride * height` bytes, and the sizes are added in 32 bits. -/
  totalSize_toNat : ∀ stride height format, (totalSize stride height format).toNat =
    (stride.toNat * height.toNat + otherPlanes format stride height) % UInt32.size
  /-- A layout without rows or columns is empty. -/
  otherPlanes_empty : ∀ format stride height, stride = 0 ∨ height = 0 →
    otherPlanes format stride height = 0
  otherPlanes_image : ∀ format, format ∈ drmToGbmImageFormats ∨ format = drmFormatBGR888 →
    ∀ stride height, otherPlanes format stride height = 0
  bytesPerPixel_r8 : bytesPerPixel drmFormatR8 = 1
  bytesPerPixel_texture : ∀ format ∈ textureOnlyFormats, bytesPerPixel format = 1
  bytesPerPixel_bgr888 : bytesPerPixel drmFormatBGR888 = 3
  le_strideFromFormat : ∀ format width, width.toNat * bytesPerPixel format < UInt32.size →
    width.toNat * bytesPerPixel format ≤ (strideFromFormat format width).toNat

/-- The byte size of a layout. -/
def FormatHelpers.layoutSize (drv : FormatHelpers) (format stride height : UInt32) : Nat :=
  stride.toNat * height.toNat + drv.otherPlanes format stride height

/-! ## Memory -/

/-- GBM: the stride of the image where `gbm_mesa_alloc` succeeds. It refuses empty images, and a row
has room for the pixels. -/
structure Gbm (drv : FormatHelpers) where
  alloc : AllocArgs → Option UInt32
  nonempty : ∀ args stride, alloc args = some stride → args.width ≠ 0 ∧ args.height ≠ 0
  row_le : ∀ args stride, alloc args = some stride →
    args.width.toNat * drv.bytesPerPixel args.drmFormat ≤ stride.toNat

/-- The first attempt of `gbm_mesa_bo_create`, and the second without scanout. -/
def Gbm.attempts {drv : FormatHelpers} (gbm : Gbm drv) (args : AllocArgs) (scanoutStrong : Bool) :
    Option UInt32 :=
  match gbm.alloc args with
  | some outStride => some outStride
  | none => if scanoutStrong then none else gbm.alloc { args with useScanout := false }

/-- The metadata that a creation stores, the height it is laid out for, and the memory it gets. -/
structure BoGeometry where
  /-- `strides[0]` -/
  stride : UInt32
  layoutHeight : UInt32
  /-- `total_size` -/
  totalSize : UInt64
  memory : Nat
  deriving DecidableEq, Repr

/-! ## Creation -/

/-- The width that is allocated: the camera needs whole blocks of 32. -/
def paddedWidth (useFlags : UseFlags) (width : UInt32) : UInt32 :=
  if useFlags.camera then align width 32 else width

/-- `size_align`. -/
def sizeAlign (useFlags : UseFlags) : UInt32 := if useFlags.camera then 4096 else 1

/-- The size of a buffer of a format that GBM does not know. -/
def emulatedSize (drv : DrvHelpers) (width height format : UInt32) (useFlags : UseFlags) : UInt64 :=
  alignSize (drv.totalSize (paddedWidth useFlags width) height format) (sizeAlign useFlags)

/-- The geometry of `gbm_mesa_bo_create`. -/
def gbmMesaBoGeometry (drv : FormatHelpers) (gbm : Gbm drv) (width height format : UInt32)
    (useFlags : UseFlags) : Option BoGeometry :=
  let args := allocArgs drv.toDrvHelpers width height format useFlags
  (gbm.attempts args useFlags.camera).map fun outStride =>
    let memory := outStride.toNat * args.height.toNat
    if getGbmMesaFormat format = 0 then
      -- laid out before the allocation, with the width for a stride
      { stride := paddedWidth useFlags width
        layoutHeight := height
        totalSize := emulatedSize drv.toDrvHelpers width height format useFlags
        memory }
    else
      { stride := outStride
        layoutHeight := args.height
        totalSize := drv.totalSize outStride args.height format
        memory }

/-- The geometry of `dmabuf_bo_create`; `heapAlloc` says for which lengths the heap has memory. -/
def dmabufBoGeometry (drv : FormatHelpers) (heapAlloc : UInt64 → Bool)
    (width height format : UInt32) : Option BoGeometry :=
  let stride := drv.strideFromFormat format width
  let totalSize := drv.totalSize stride height format
  if heapAlloc totalSize then
    some { stride, layoutHeight := height, totalSize, memory := totalSize.toNat }
  else none

/-! ## Machine rounding -/

section Rounding

variable {b : UInt32} {k : Nat}

/-- `ALIGN` rounds up in 32 bits. -/
theorem toNat_align (hb : b.toNat = 2 ^ k) (a : UInt32) :
    (align a b).toNat = roundUp a.toNat b.toNat % UInt32.size := by
  unfold align
  rw [UInt32.toNat_and, UInt32.toNat_add, toNat_sub_one hb, toNat_mask hb, hb]
  exact add_and_mask (exponent_le hb) (Nat.le_refl 32) a.toNat

/-- So does `ALIGN` of a 64-bit size, for the mask has 32 bits. -/
theorem toNat_alignSize (hb : b.toNat = 2 ^ k) (a : UInt64) :
    (alignSize a b).toNat = roundUp a.toNat b.toNat % UInt32.size := by
  unfold alignSize
  rw [UInt64.toNat_and, UInt64.toNat_add, UInt32.toNat_toUInt64, UInt32.toNat_toUInt64,
    toNat_sub_one hb, toNat_mask hb, hb]
  exact add_and_mask (exponent_le hb) (by decide) a.toNat

end Rounding

variable {width height format : UInt32} {useFlags : UseFlags}

theorem sizeAlign_eq (useFlags : UseFlags) : ∃ k, (sizeAlign useFlags).toNat = 2 ^ k := by
  unfold sizeAlign
  split_ifs
  · exact ⟨12, rfl⟩
  · exact ⟨0, rfl⟩

theorem sizeAlign_pos (useFlags : UseFlags) : 0 < (sizeAlign useFlags).toNat := by
  unfold sizeAlign
  split_ifs <;> decide

/-- For a camera the width is rounded up to whole blocks. -/
theorem toNat_paddedWidth_camera (hcamera : useFlags.camera = true)
    (hne : paddedWidth useFlags width ≠ 0) :
    (paddedWidth useFlags width).toNat = roundUp width.toNat 32 := by
  have halign := toNat_align (b := 32) (k := 5) rfl width
  unfold paddedWidth at hne ⊢
  rw [if_pos hcamera] at hne ⊢
  rw [halign]
  apply roundUp_mod_size (b := 32) (k := 5) rfl width.toNat_lt
  intro hzero
  exact hne (UInt32.toNat_inj.mp (halign.trans hzero))

theorem le_paddedWidth (hne : paddedWidth useFlags width ≠ 0) :
    width.toNat ≤ (paddedWidth useFlags width).toNat := by
  by_cases hcamera : useFlags.camera = true
  · rw [toNat_paddedWidth_camera hcamera hne]
    exact le_roundUp (by decide)
  · unfold paddedWidth
    rw [if_neg hcamera]

/-- The size of an emulated format is its layout, rounded up, in 32 bits. -/
theorem toNat_emulatedSize (drv : FormatHelpers) (width height format : UInt32)
    (useFlags : UseFlags) :
    (emulatedSize drv.toDrvHelpers width height format useFlags).toNat =
      roundUp (drv.layoutSize format (paddedWidth useFlags width) height % UInt32.size)
        (sizeAlign useFlags).toNat % UInt32.size := by
  obtain ⟨k, hk⟩ := sizeAlign_eq useFlags
  unfold emulatedSize
  rw [toNat_alignSize hk, drv.totalSize_toNat]
  rfl

/-! ## What is asked of GBM -/

theorem getGbmMesaFormat_ne_zero (h : getGbmMesaFormat format ≠ 0) :
    format ∈ drmToGbmImageFormats ∧ format ≠ 0 := by
  unfold getGbmMesaFormat at h
  split_ifs at h with hmem
  · exact ⟨List.contains_iff_mem.mp hmem, h⟩
  · exact absurd rfl h

/-- A format GBM does not know is asked for as rows of bytes. -/
theorem allocArgs_emulated (drv : DrvHelpers) (hformat : getGbmMesaFormat format = 0) :
    allocArgs drv width height format useFlags =
      { width := 4096
        height := divRoundUp (emulatedSize drv width height format useFlags).toUInt32 4096
        drmFormat := drmFormatR8
        forceLinear := true
        needsMapStride := false
        useScanout := useFlags.camera || useFlags.scanout } := by
  unfold allocArgs emulatedSize paddedWidth sizeAlign
  cases hcamera : useFlags.camera <;> simp [hformat]

/-- So is one row of bytes. -/
theorem allocArgs_oneRow (drv : DrvHelpers) :
    allocArgs drv width 1 drmFormatR8 useFlags =
      { width := 4096
        height := divRoundUp (paddedWidth useFlags width) 4096
        drmFormat := drmFormatR8
        forceLinear := useFlags.sw
        needsMapStride := false
        useScanout := useFlags.camera || useFlags.scanout } := by
  have hformat : getGbmMesaFormat drmFormatR8 = drmFormatR8 := by decide
  have hne : drmFormatR8 ≠ 0 := by decide
  unfold allocArgs paddedWidth
  cases hcamera : useFlags.camera <;> simp [hformat, hne]

/-- Any other image is asked for as it is. -/
theorem allocArgs_image (drv : DrvHelpers) (hformat : getGbmMesaFormat format ≠ 0)
    (hrow : ¬ (format = drmFormatR8 ∧ height = 1)) :
    allocArgs drv width height format useFlags =
      { width := paddedWidth useFlags width
        height
        drmFormat := format
        forceLinear := useFlags.sw
        needsMapStride := useFlags.sw
        useScanout := useFlags.camera || useFlags.scanout } := by
  have hne := (getGbmMesaFormat_ne_zero hformat).2
  unfold allocArgs paddedWidth
  cases hcamera : useFlags.camera <;> simp [hformat, hne, hrow]

/-! ## What is stored -/

section Stored

variable {drv : FormatHelpers} {gbm : Gbm drv} {r : BoGeometry}

/-- Both attempts ask for the same image. -/
theorem Gbm.attempts_spec {args : AllocArgs} {scanoutStrong : Bool} {outStride : UInt32}
    (h : gbm.attempts args scanoutStrong = some outStride) :
    args.width ≠ 0 ∧ args.height ≠ 0 ∧
      args.width.toNat * drv.bytesPerPixel args.drmFormat ≤ outStride.toNat := by
  unfold Gbm.attempts at h
  cases hfirst : gbm.alloc args with
  | some first =>
    rw [hfirst] at h
    obtain rfl := Option.some.inj h
    obtain ⟨hwidth, hheight⟩ := gbm.nonempty args first hfirst
    exact ⟨hwidth, hheight, gbm.row_le args first hfirst⟩
  | none =>
    rw [hfirst] at h
    dsimp only at h
    split_ifs at h
    obtain ⟨hwidth, hheight⟩ := gbm.nonempty _ outStride h
    have hrow := gbm.row_le _ outStride h
    exact ⟨hwidth, hheight, hrow⟩

/-- A row without bytes has no rows of 4096, which is refused. -/
theorem ne_zero_of_divRoundUp {n : UInt32} (hne : divRoundUp n 4096 ≠ 0) : n ≠ 0 := by
  intro hzero
  apply hne
  rw [hzero]
  rfl

/-- Rows of 4096 bytes hold a row of `n`, unless their number wraps to zero. -/
theorem bytes_le_memory {n outStride : UInt32} (hne : divRoundUp n 4096 ≠ 0)
    (hrow : 4096 ≤ outStride.toNat) :
    n.toNat ≤ outStride.toNat * (divRoundUp n 4096).toNat := by
  have hrows : n.toNat ≤ 4096 * (divRoundUp n 4096).toNat := by
    have hpos := toNat_pos hne
    have hlt := n.toNat_lt
    unfold divRoundUp at hpos ⊢
    rw [UInt32.toNat_div, UInt32.toNat_sub, UInt32.toNat_add] at hpos ⊢
    simp only [UInt32.reduceToNat] at hpos ⊢
    omega
  exact hrows.trans (Nat.mul_le_mul_right _ hrow)

/-- A buffer of a format that GBM does not know: its size is that of the layout, rounded up. -/
structure EmulatedGeometry (drv : FormatHelpers) (width height format : UInt32)
    (useFlags : UseFlags) (r : BoGeometry) : Prop where
  stride : r.stride = paddedWidth useFlags width
  layoutHeight : r.layoutHeight = height
  totalSize : r.totalSize.toNat =
    roundUp (drv.layoutSize format r.stride height % UInt32.size) (sizeAlign useFlags).toNat
  lt_size : r.totalSize.toNat < UInt32.size
  ne_zero : r.totalSize.toNat ≠ 0
  le_memory : r.totalSize.toNat ≤ r.memory

/-- An empty layout is refused, and so is a width that wraps to zero. -/
theorem EmulatedGeometry.nonempty (h : EmulatedGeometry drv width height format useFlags r) :
    r.stride ≠ 0 ∧ height ≠ 0 := by
  rw [← not_or]
  intro hempty
  apply h.ne_zero
  have hplane : r.stride.toNat * height.toNat = 0 := by
    obtain hzero | hzero := hempty <;> rw [hzero]
    · exact Nat.zero_mul _
    · exact Nat.mul_zero _
  rw [h.totalSize, FormatHelpers.layoutSize, drv.otherPlanes_empty _ _ _ hempty, hplane]
  exact roundUp_zero _

theorem EmulatedGeometry.paddedWidth_ne_zero
    (h : EmulatedGeometry drv width height format useFlags r) : paddedWidth useFlags width ≠ 0 :=
  h.stride ▸ h.nonempty.1

theorem gbmMesaBoGeometry_emulated (hformat : getGbmMesaFormat format = 0)
    (h : gbmMesaBoGeometry drv gbm width height format useFlags = some r) :
    EmulatedGeometry drv width height format useFlags r := by
  obtain ⟨outStride, hattempts, rfl⟩ := Option.map_eq_some_iff.mp h
  rw [allocArgs_emulated _ hformat] at hattempts ⊢
  rw [if_pos hformat]
  obtain ⟨-, hrows, hrow⟩ := Gbm.attempts_spec hattempts
  rw [drv.bytesPerPixel_r8] at hrow
  dsimp only at hrows
  obtain ⟨k, hk⟩ := sizeAlign_eq useFlags
  have hmod := toNat_emulatedSize drv width height format useFlags
  have hlt : (emulatedSize drv.toDrvHelpers width height format useFlags).toNat < UInt32.size := by
    rw [hmod]
    exact Nat.mod_lt _ (by decide)
  -- no bit is lost where the size becomes a width
  have hbytes : (emulatedSize drv.toDrvHelpers width height format useFlags).toUInt32.toNat =
      (emulatedSize drv.toDrvHelpers width height format useFlags).toNat := by
    rw [UInt64.toNat_toUInt32]
    exact Nat.mod_eq_of_lt hlt
  -- GBM has granted rows, so there are bytes
  have hne : (emulatedSize drv.toDrvHelpers width height format useFlags).toNat ≠ 0 := by
    intro hzero
    exact ne_zero_of_divRoundUp hrows (UInt32.toNat_inj.mp (hbytes.trans hzero))
  exact
    { stride := rfl
      layoutHeight := rfl
      totalSize := by
        rw [hmod] at hne ⊢
        exact roundUp_mod_size hk (Nat.mod_lt _ (by decide)) hne
      lt_size := hlt
      ne_zero := hne
      le_memory := by
        rw [← hbytes]
        exact bytes_le_memory hrows hrow }

/-- A buffer of a format that GBM knows: its size is that of the memory. -/
structure ImageGeometry (drv : FormatHelpers) (width height format : UInt32) (r : BoGeometry) :
    Prop where
  memory : r.memory = drv.layoutSize format r.stride r.layoutHeight
  totalSize : r.totalSize.toNat = r.memory % UInt32.size
  image : ¬ (format = drmFormatR8 ∧ height = 1) → height ≠ 0 ∧ r.layoutHeight = height ∧
    width.toNat * drv.bytesPerPixel format ≤ r.stride.toNat
  oneRow : format = drmFormatR8 ∧ height = 1 → width.toNat ≤ r.memory

theorem gbmMesaBoGeometry_image (hformat : getGbmMesaFormat format ≠ 0)
    (h : gbmMesaBoGeometry drv gbm width height format useFlags = some r) :
    ImageGeometry drv width height format r := by
  have hmem := (getGbmMesaFormat_ne_zero hformat).1
  obtain ⟨outStride, hattempts, rfl⟩ := Option.map_eq_some_iff.mp h
  rw [if_neg hformat]
  have hother := drv.otherPlanes_image format (Or.inl hmem)
  have hmemory : ∀ layoutHeight : UInt32, outStride.toNat * layoutHeight.toNat =
      drv.layoutSize format outStride layoutHeight := by
    intro layoutHeight
    rw [FormatHelpers.layoutSize, hother, Nat.add_zero]
  refine ⟨hmemory _, ?_, ?_, ?_⟩
  · dsimp only
    rw [drv.totalSize_toNat, hother, Nat.add_zero]
  · -- the padded width fits the stride, and the width with it
    intro hrow
    rw [allocArgs_image _ hformat hrow] at hattempts ⊢
    obtain ⟨hwidth, hheight, hle⟩ := Gbm.attempts_spec hattempts
    refine ⟨hheight, rfl, ?_⟩
    exact (Nat.mul_le_mul_right _ (le_paddedWidth hwidth)).trans hle
  · -- the stride is that of 4096 bytes
    intro hrow
    obtain ⟨rfl, rfl⟩ := hrow
    rw [allocArgs_oneRow] at hattempts ⊢
    obtain ⟨-, hrows, hle⟩ := Gbm.attempts_spec hattempts
    rw [drv.bytesPerPixel_r8] at hle
    exact (le_paddedWidth (ne_zero_of_divRoundUp hrows)).trans (bytes_le_memory hrows hle)

/-! ## Geometry and descriptors -/

/-- GBM's answer for the descriptor is one of success where there is a stride. -/
def Gbm.Answers (gbm : Gbm drv) (args : AllocArgs) (env : AllocEnv) : Prop :=
  (gbm.alloc args).isSome = (env.created && !(args.needsMapStride && !env.imported))

theorem Gbm.Answers.result {args : AllocArgs} {env : AllocEnv} {t t' : FdTable}
    {result : AllocResult} (hanswers : gbm.Answers args env)
    (h : gbmMesaAlloc t args env = some (t', result)) :
    (∃ outStride outFd, gbm.alloc args = some outStride ∧ result = .allocated outFd) ∨
      (gbm.alloc args = none ∧ result = .failed) := by
  unfold Gbm.Answers at hanswers
  unfold gbmMesaAlloc at h
  split_ifs at h with hcreated hmap
  · -- no buffer
    obtain ⟨-, rfl⟩ := Prod.mk.inj (Option.some.inj h)
    rw [Bool.not_eq_true'] at hcreated
    rw [hcreated, Bool.false_and] at hanswers
    exact Or.inr ⟨Option.not_isSome_iff_eq_none.mp (Bool.eq_false_iff.mp hanswers), rfl⟩
  · split at h
    · cases h
    · -- a buffer, but no map stride
      obtain ⟨-, rfl⟩ := Prod.mk.inj (Option.some.inj h)
      rw [hmap, Bool.not_true, Bool.and_false] at hanswers
      exact Or.inr ⟨Option.not_isSome_iff_eq_none.mp (Bool.eq_false_iff.mp hanswers), rfl⟩
  · split at h
    · cases h
    · obtain ⟨-, rfl⟩ := Prod.mk.inj (Option.some.inj h)
      rw [Bool.not_eq_true', Bool.not_eq_false] at hcreated
      rw [hcreated, Bool.eq_false_iff.mpr hmap] at hanswers
      obtain ⟨outStride, hstride⟩ := Option.isSome_iff_exists.mp hanswers
      exact Or.inl ⟨outStride, _, hstride, rfl⟩

/-- A creation hands out a buffer exactly where it has a geometry. -/
theorem gbmMesaBoCreate_adds {s s' : Buffers} {env : GbmMesaEnv} (hready : env.driverReady = true)
    (hfirst : gbm.Answers (allocArgs drv.toDrvHelpers width height format useFlags) env.first)
    (hsecond : gbm.Answers
      { allocArgs drv.toDrvHelpers width height format useFlags with useScanout := false }
      env.second)
    (h : s.gbmMesaBoCreate drv.toDrvHelpers width height format useFlags env = some s') :
    s'.bos.length = s.bos.length +
      (gbmMesaBoGeometry drv gbm width height format useFlags).toList.length := by
  have hgeometry : (gbmMesaBoGeometry drv gbm width height format useFlags).toList.length =
      (gbm.attempts (allocArgs drv.toDrvHelpers width height format useFlags)
        useFlags.camera).toList.length := by
    unfold gbmMesaBoGeometry
    rw [Option.toList_map, List.length_map]
  rw [hgeometry]
  -- both sides try the same allocations, in the same order
  unfold Gbm.attempts
  simp only [Buffers.gbmMesaBoCreate, hready, Bool.not_true, Bool.false_eq_true, if_false] at h
  split at h
  case h_1 => cases h
  case h_2 t outFd halloc =>
    obtain ⟨outStride, -, hstride, -⟩ | ⟨-, hresult⟩ := hfirst.result halloc
    · obtain rfl := Option.some.inj h
      rw [hstride]
      rfl
    · cases hresult
  case h_3 t halloc =>
    obtain ⟨_, _, -, hresult⟩ | ⟨hnone, -⟩ := hfirst.result halloc
    · cases hresult
    -- the second attempt is not made for the camera
    rw [hnone]
    dsimp only
    split_ifs at h ⊢ with hcamera
    · obtain rfl := Option.some.inj h
      rfl
    · split at h
      case h_1 => cases h
      case h_2 t' outFd' halloc' =>
        obtain ⟨outStride, -, hstride, -⟩ | ⟨-, hresult⟩ := hsecond.result halloc'
        · obtain rfl := Option.some.inj h
          rw [hstride]
          rfl
        · cases hresult
      case h_3 t' halloc' =>
        obtain ⟨_, _, -, hresult⟩ | ⟨hnone', -⟩ := hsecond.result halloc'
        · cases hresult
        · obtain rfl := Option.some.inj h
          rw [hnone']
          rfl

end Stored

/-! ## An instance -/

def linearOtherPlanes (format stride height : UInt32) : Nat :=
  if format ∈ textureOnlyFormats then
    -- half as many rows, of pairs in NV12 and NV21, and else in two planes
    if format ∈ textureOnlyFormats.take 2 then stride.toNat * ((height.toNat + 1) / 2)
    else 2 * ((stride.toNat + 1) / 2 * ((height.toNat + 1) / 2))
  else 0

def linearBytesPerPixel (format : UInt32) : Nat :=
  if format = drmFormatR8 ∨ format ∈ textureOnlyFormats then 1
  else if format = drmFormatBGR888 then 3
  -- the list is sorted by size
  else if format ∈ drmToGbmImageFormats.take 4 then 2
  else if format ∈ drmToGbmImageFormats.drop 12 then 8
  else 4

theorem not_mem_textureOnlyFormats :
    ∀ format ∈ drmFormatBGR888 :: drmToGbmImageFormats, format ∉ textureOnlyFormats := by
  have hall : (drmFormatBGR888 :: drmToGbmImageFormats).all (· ∉ textureOnlyFormats) = true := by
    decide
  intro format hmem
  exact of_decide_eq_true (List.all_eq_true.mp hall format hmem)

/-- Formats with their rows next to each other. -/
def linearFormats : FormatHelpers where
  numPlanes format :=
    if format ∈ textureOnlyFormats.take 2 then 2 else if format ∈ textureOnlyFormats then 3 else 1
  totalSize stride height format := UInt64.ofNat
    ((stride.toNat * height.toNat + linearOtherPlanes format stride height) % UInt32.size)
  bytesPerPixel := linearBytesPerPixel
  otherPlanes := linearOtherPlanes
  strideFromFormat format width := UInt32.ofNat (width.toNat * linearBytesPerPixel format)
  totalSize_toNat stride height format := by
    apply UInt64.toNat_ofNat_of_lt
    exact (Nat.mod_lt _ (by decide)).trans (by decide)
  otherPlanes_empty format stride height hempty := by
    unfold linearOtherPlanes
    obtain rfl | rfl := hempty <;> simp
  otherPlanes_image format hformat stride height := by
    apply if_neg
    apply not_mem_textureOnlyFormats
    obtain hmem | rfl := hformat
    · exact List.mem_cons_of_mem _ hmem
    · exact List.mem_cons_self
  bytesPerPixel_r8 := rfl
  bytesPerPixel_texture format hmem := if_pos (Or.inr hmem)
  bytesPerPixel_bgr888 := rfl
  le_strideFromFormat format width hlt := Nat.le_of_eq (UInt32.toNat_ofNat_of_lt hlt).symm

/-- A GBM without padding. -/
def linearGbm : Gbm linearFormats where
  alloc args :=
    let row := args.width.toNat * linearBytesPerPixel args.drmFormat
    if args.width ≠ 0 ∧ args.height ≠ 0 ∧ row < UInt32.size then some (UInt32.ofNat row) else none
  nonempty args stride h := by
    dsimp only at h
    split_ifs at h with hargs
    exact ⟨hargs.1, hargs.2.1⟩
  row_le args stride h := by
    dsimp only at h
    split_ifs at h with hargs
    obtain rfl := Option.some.inj h
    exact Nat.le_of_eq (UInt32.toNat_ofNat_of_lt hargs.2.2).symm

end GloDroid.Gralloc

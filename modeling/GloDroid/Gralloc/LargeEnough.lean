import GloDroid.Gralloc.Geometry

/-!
# Buffers Large Enough for their Pixels

A buffer of `width * height` pixels must have the bytes for them, and the memory behind it must have
as many bytes as the buffer. For images of formats GBM knows this comes from the stride that GBM
returns. A format it does not know is laid out with the width in place of the stride, which counts
one byte a pixel: right for plane 0 of the YUV formats, and too few for BGR888.
-/

namespace GloDroid.Gralloc

open GloDroid.Base

/-! ## Backends -/

/-- The backends, with what they allocate from. -/
inductive BufferBackend (drv : FormatHelpers) where
  | gbmMesa (gbm : Gbm drv)
  | dmabuf (heapAlloc : UInt64 → Bool)

namespace BufferBackend

variable {drv : FormatHelpers}

def isGbmMesa : BufferBackend drv → Bool
  | gbmMesa _ => true
  | dmabuf _ => false

/-- `bo_create`. -/
def boCreate (backend : BufferBackend drv) (width height format : UInt32) (useFlags : UseFlags) :
    Option BoGeometry :=
  match backend with
  | gbmMesa gbm => gbmMesaBoGeometry drv gbm width height format useFlags
  | dmabuf heapAlloc => dmabufBoGeometry drv heapAlloc width height format

end BufferBackend

/-- **Large enough**: room for the pixels of plane 0, and memory for all of it. -/
structure LargeEnough (drv : FormatHelpers) (width height format : UInt32) (r : BoGeometry) :
    Prop where
  pixels : width.toNat * height.toNat * drv.bytesPerPixel format ≤ r.totalSize.toNat
  memory : r.totalSize.toNat ≤ r.memory

section Sizes

variable {drv : FormatHelpers} {width height format : UInt32} {useFlags : UseFlags} {r : BoGeometry}

/-- Rows with room for the pixels make a plane with room for the pixels. -/
theorem pixels_le_layoutSize {stride : UInt32}
    (hrow : width.toNat * drv.bytesPerPixel format ≤ stride.toNat) :
    width.toNat * height.toNat * drv.bytesPerPixel format ≤
      drv.layoutSize format stride height := by
  calc width.toNat * height.toNat * drv.bytesPerPixel format
    _ = width.toNat * drv.bytesPerPixel format * height.toNat := Nat.mul_right_comm _ _ _
    _ ≤ stride.toNat * height.toNat := Nat.mul_le_mul_right _ hrow
    _ ≤ drv.layoutSize format stride height := Nat.le_add_right _ _

/-! ## Shape by shape -/

/-- A buffer of a dma-heap is what is laid out. -/
theorem largeEnough_dmabuf {heapAlloc : UInt64 → Bool} (hheight : 0 < height)
    (hbytes : width.toNat * height.toNat * drv.bytesPerPixel format < UInt32.size)
    (hlayout : drv.layoutSize format r.stride r.layoutHeight < UInt32.size)
    (h : dmabufBoGeometry drv heapAlloc width height format = some r) :
    LargeEnough drv width height format r := by
  unfold dmabufBoGeometry at h
  dsimp only at h
  split_ifs at h
  obtain rfl := Option.some.inj h
  refine ⟨?_, Nat.le_refl _⟩
  dsimp only at hlayout ⊢
  have hrow : width.toNat * drv.bytesPerPixel format < UInt32.size := by
    apply Nat.lt_of_le_of_lt _ hbytes
    rw [Nat.mul_right_comm]
    exact Nat.le_mul_of_pos_right _ (UInt32.lt_iff_toNat_lt.mp hheight)
  rw [drv.totalSize_toNat]
  rw [← FormatHelpers.layoutSize, Nat.mod_eq_of_lt hlayout]
  exact pixels_le_layoutSize (drv.le_strideFromFormat format width hrow)

/-- An image has the stride of GBM. -/
theorem ImageGeometry.largeEnough (h : ImageGeometry drv width height format r)
    (hlayout : drv.layoutSize format r.stride r.layoutHeight < UInt32.size) :
    LargeEnough drv width height format r := by
  have htotal : r.totalSize.toNat = r.memory := by
    rw [h.totalSize]
    exact Nat.mod_eq_of_lt (h.memory ▸ hlayout)
  refine ⟨?_, Nat.le_of_eq htotal⟩
  rw [htotal]
  by_cases hrow : format = drmFormatR8 ∧ height = 1
  · -- reshaped to rows of 4096
    obtain ⟨rfl, rfl⟩ := hrow
    rw [drv.bytesPerPixel_r8, Nat.mul_one]
    exact (Nat.mul_one _).symm ▸ h.oneRow ⟨rfl, rfl⟩
  · obtain ⟨-, hlayoutHeight, hle⟩ := h.image hrow
    rw [h.memory, hlayoutHeight]
    exact pixels_le_layoutSize hle

/-- The size of an emulated format is its layout, rounded up for a camera. -/
theorem EmulatedGeometry.totalSize_of_fits
    (h : EmulatedGeometry drv width height format useFlags r)
    (hlayout : drv.layoutSize format r.stride r.layoutHeight < UInt32.size) :
    r.totalSize.toNat =
      roundUp (drv.layoutSize format (paddedWidth useFlags width) height)
        (sizeAlign useFlags).toNat := by
  rw [h.layoutHeight] at hlayout
  rw [h.totalSize, Nat.mod_eq_of_lt hlayout, h.stride]

/-- One byte a pixel is right for the YUV formats. -/
theorem EmulatedGeometry.largeEnough_texture
    (h : EmulatedGeometry drv width height format useFlags r)
    (hlayout : drv.layoutSize format r.stride r.layoutHeight < UInt32.size)
    (hformat : format ∈ textureOnlyFormats) : LargeEnough drv width height format r := by
  refine ⟨?_, h.le_memory⟩
  have hrow : width.toNat * drv.bytesPerPixel format ≤ (paddedWidth useFlags width).toNat := by
    rw [drv.bytesPerPixel_texture format hformat, Nat.mul_one]
    exact le_paddedWidth h.paddedWidth_ne_zero
  rw [h.totalSize_of_fits hlayout]
  exact (pixels_le_layoutSize hrow).trans (le_roundUp (sizeAlign_pos useFlags))

/-- For BGR888 it is too few, but for what the camera's rounding adds. -/
theorem EmulatedGeometry.largeEnough_bgr888_iff
    (h : EmulatedGeometry drv width height drmFormatBGR888 useFlags r)
    (hlayout : drv.layoutSize drmFormatBGR888 r.stride r.layoutHeight < UInt32.size)
    (hwidth : 0 < width) (hheight : 0 < height) :
    LargeEnough drv width height drmFormatBGR888 r ↔ useFlags.camera = true ∧
      3 * (width.toNat * height.toNat) ≤ roundUp (roundUp width.toNat 32 * height.toNat) 4096 := by
  -- the size is that of plane 0, and the memory is never the problem
  have hpixels : LargeEnough drv width height drmFormatBGR888 r ↔
      3 * (width.toNat * height.toNat) ≤
        roundUp ((paddedWidth useFlags width).toNat * height.toNat)
          (sizeAlign useFlags).toNat := by
    have htotal := h.totalSize_of_fits hlayout
    rw [FormatHelpers.layoutSize, drv.otherPlanes_image _ (Or.inr rfl), Nat.add_zero] at htotal
    rw [← htotal, ← drv.bytesPerPixel_bgr888, Nat.mul_comm]
    exact ⟨LargeEnough.pixels, fun hle => ⟨hle, h.le_memory⟩⟩
  rw [hpixels]
  by_cases hcamera : useFlags.camera = true
  · rw [toNat_paddedWidth_camera hcamera h.paddedWidth_ne_zero, sizeAlign, if_pos hcamera]
    exact (and_iff_right hcamera).symm
  · -- nothing is rounded up
    have harea : 0 < width.toNat * height.toNat :=
      Nat.mul_pos (UInt32.lt_iff_toNat_lt.mp hwidth) (UInt32.lt_iff_toNat_lt.mp hheight)
    rw [paddedWidth, sizeAlign, if_neg hcamera, if_neg hcamera, UInt32.toNat_one, roundUp_one]
    constructor
    · intro hle
      omega
    · intro hand
      exact absurd hand.1 hcamera

end Sizes

/-! ## All of them -/

/-- What becomes of the registered formats: images, YUV formats, and BGR888. -/
theorem registeredFormats_cases {format : UInt32} (h : format ∈ registeredFormats) :
    getGbmMesaFormat format ≠ 0 ∧ format ≠ drmFormatBGR888 ∨
      getGbmMesaFormat format = 0 ∧ format ∈ textureOnlyFormats ∧ format ≠ drmFormatBGR888 ∨
      getGbmMesaFormat format = 0 ∧ format = drmFormatBGR888 := by
  have hall : registeredFormats.all (fun format =>
      getGbmMesaFormat format ≠ 0 ∧ format ≠ drmFormatBGR888 ∨
        getGbmMesaFormat format = 0 ∧ format ∈ textureOnlyFormats ∧ format ≠ drmFormatBGR888 ∨
        getGbmMesaFormat format = 0 ∧ format = drmFormatBGR888) = true := by
    decide
  exact of_decide_eq_true (List.all_eq_true.mp hall format h)

/-- **When a buffer is large enough**: in both backends, for every registered format and any flags,
unless gbm_mesa allocates BGR888 without a camera, or the camera's rounding does not make up for the
missing bytes. -/
theorem largeEnough_iff {drv : FormatHelpers} {backend : BufferBackend drv}
    {width height format : UInt32} {useFlags : UseFlags} {r : BoGeometry}
    (hregistered : format ∈ registeredFormats) (hwidth : 0 < width) (hheight : 0 < height)
    (hbytes : width.toNat * height.toNat * drv.bytesPerPixel format < UInt32.size)
    (hlayout : drv.layoutSize format r.stride r.layoutHeight < UInt32.size)
    (hcreate : backend.boCreate width height format useFlags = some r) :
    LargeEnough drv width height format r ↔
      (backend.isGbmMesa = true → format = drmFormatBGR888 → useFlags.camera = true ∧
        3 * (width.toNat * height.toNat) ≤
          roundUp (roundUp width.toNat 32 * height.toNat) 4096) := by
  cases backend with
  | dmabuf heapAlloc =>
    apply iff_of_true (largeEnough_dmabuf hheight hbytes hlayout hcreate)
    exact fun hgbm => absurd hgbm Bool.false_ne_true
  | gbmMesa gbm =>
    obtain ⟨hformat, hne⟩ | ⟨hformat, htexture, hne⟩ | ⟨hformat, rfl⟩ :=
      registeredFormats_cases hregistered
    · apply iff_of_true ((gbmMesaBoGeometry_image hformat hcreate).largeEnough hlayout)
      exact fun _ hbgr => absurd hbgr hne
    · have hemulated := gbmMesaBoGeometry_emulated hformat hcreate
      apply iff_of_true (hemulated.largeEnough_texture hlayout htexture)
      exact fun _ hbgr => absurd hbgr hne
    · have hemulated := gbmMesaBoGeometry_emulated hformat hcreate
      rw [hemulated.largeEnough_bgr888_iff hlayout hwidth hheight]
      exact ⟨fun h _ _ => h, fun h => h rfl rfl⟩

/-- A video frame of 640 by 480 pixels. -/
theorem largeEnough_iff_nv12 :
    ∃ r, (BufferBackend.gbmMesa linearGbm).boCreate 640 480 0x3231564e { sw := true } = some r ∧
      LargeEnough linearFormats 640 480 0x3231564e r := by
  have hcreate : (BufferBackend.gbmMesa linearGbm).boCreate 640 480 0x3231564e { sw := true } =
      some { stride := 640, layoutHeight := 480, totalSize := 460800, memory := 462848 } := by
    decide
  refine ⟨_, hcreate, ?_⟩
  apply (largeEnough_iff (by decide) (by decide) (by decide) (by decide) (by decide) hcreate).mpr
  exact fun _ hbgr => absurd hbgr (by decide)

/-- A third of the pixels of an image of 100 by 100 fits. -/
theorem bgr888_tooSmall :
    ∃ r, (BufferBackend.gbmMesa linearGbm).boCreate 100 100 drmFormatBGR888 { sw := true } =
        some r ∧
      r.totalSize = 10000 ∧ ¬ LargeEnough linearFormats 100 100 drmFormatBGR888 r := by
  refine ⟨{ stride := 100, layoutHeight := 100, totalSize := 10000, memory := 12288 }, by decide,
    rfl, fun h => ?_⟩
  exact absurd h.pixels (by decide)

end GloDroid.Gralloc

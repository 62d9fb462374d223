import GloDroid.Gralloc.Geometry

/-!
# Geometry of Imported Buffers

To be mapped, a buffer is imported by GBM again, with a geometry that `gbm_mesa_bo_import` works out
from the metadata that the creation stored. An image comes back as it was created. What was created
as rows of 4096 bytes comes back as one row, with the stride that was stored.
-/

namespace GloDroid.Gralloc

open GloDroid.Base

/-! ## Import -/

/-- `gbm_import_fd_modifier_data`, for one plane. -/
structure ImportGeometry where
  width : UInt32
  height : UInt32
  stride : UInt32
  drmFormat : UInt32
  deriving DecidableEq, Repr

/-- What `gbm_mesa_bo_import` hands to GBM, of a buffer it needs to map. -/
def gbmMesaBoImport (width height format : UInt32) (useFlags : UseFlags) (r : BoGeometry) :
    Option ImportGeometry :=
  if useFlags.sw then
    if getGbmMesaFormat format = 0 then
      some
        { width := r.totalSize.toUInt32, height := 1, stride := r.stride, drmFormat := drmFormatR8 }
    else some { width, height, stride := r.stride, drmFormat := format }
  else none

/-- The width and height that `gbm_mesa_bo_map` maps. -/
def gbmMesaBoMap (width height format : UInt32) (r : BoGeometry) : UInt32 × UInt32 :=
  if getGbmMesaFormat format = 0 then (r.totalSize.toUInt32, 1) else (width, height)

/-- **A geometry the memory has**: rows do not overlap, and the last one ends within the memory. -/
structure ImportGeometry.Consistent (drv : FormatHelpers) (g : ImportGeometry) (memory : Nat) :
    Prop where
  row : g.width.toNat * drv.bytesPerPixel g.drmFormat ≤ g.stride.toNat
  last : (g.height.toNat - 1) * g.stride.toNat +
    g.width.toNat * drv.bytesPerPixel g.drmFormat ≤ memory

section Import

variable {drv : FormatHelpers} {gbm : Gbm drv} {width height format : UInt32} {useFlags : UseFlags}
  {r : BoGeometry} {g : ImportGeometry}

/-- What is mapped is the whole of what is imported. -/
theorem gbmMesaBoMap_eq (h : gbmMesaBoImport width height format useFlags r = some g) :
    gbmMesaBoMap width height format r = (g.width, g.height) := by
  unfold gbmMesaBoImport at h
  unfold gbmMesaBoMap
  split_ifs at h ⊢ <;> obtain rfl := Option.some.inj h <;> rfl

/-! ## Both ways of importing -/

/-- One row of bytes has to fit the stride, and the memory. -/
theorem consistent_oneRow_iff {stride : UInt32} {memory : Nat} :
    ImportGeometry.Consistent drv { width, height := 1, stride, drmFormat := drmFormatR8 } memory ↔
      width.toNat ≤ stride.toNat ∧ width.toNat ≤ memory := by
  have hbytes : width.toNat * drv.bytesPerPixel drmFormatR8 = width.toNat := by
    rw [drv.bytesPerPixel_r8, Nat.mul_one]
  have hlast : ((1 : UInt32).toNat - 1) * stride.toNat + width.toNat = width.toNat := by
    rw [UInt32.toNat_one, Nat.sub_self, Nat.zero_mul, Nat.zero_add]
  constructor
  · intro h
    have hrow := h.row
    have hmemory := h.last
    dsimp only at hrow hmemory
    rw [hbytes] at hrow hmemory
    exact ⟨hrow, hlast ▸ hmemory⟩
  · intro h
    apply ImportGeometry.Consistent.mk <;> dsimp only <;> rw [hbytes]
    · exact h.1
    · exact hlast.symm ▸ h.2

theorem EmulatedGeometry.consistent_iff (h : EmulatedGeometry drv width height format useFlags r) :
    ImportGeometry.Consistent drv
        { width := r.totalSize.toUInt32, height := 1, stride := r.stride, drmFormat := drmFormatR8 }
        r.memory ↔
      r.totalSize.toNat ≤ r.stride.toNat := by
  have hbytes : r.totalSize.toUInt32.toNat = r.totalSize.toNat := by
    rw [UInt64.toNat_toUInt32]
    exact Nat.mod_eq_of_lt h.lt_size
  rw [consistent_oneRow_iff, hbytes]
  exact and_iff_left h.le_memory

/-- An image comes back as it was, if it was not one row of bytes. -/
theorem ImageGeometry.consistent_iff (h : ImageGeometry drv width height format r) :
    ImportGeometry.Consistent drv { width, height, stride := r.stride, drmFormat := format }
        r.memory ↔
      (format = drmFormatR8 ∧ height = 1 → width.toNat ≤ r.stride.toNat) := by
  by_cases hrow : format = drmFormatR8 ∧ height = 1
  · rw [forall_prop_of_true hrow]
    obtain ⟨rfl, rfl⟩ := hrow
    rw [consistent_oneRow_iff]
    exact and_iff_left (h.oneRow ⟨rfl, rfl⟩)
  · -- the last row may be short, all others have the stride
    obtain ⟨hheight, hlayoutHeight, hle⟩ := h.image hrow
    apply iff_of_true _ fun hrow' => absurd hrow' hrow
    refine ⟨hle, ?_⟩
    have hpos : 1 ≤ height.toNat := toNat_pos hheight
    calc (height.toNat - 1) * r.stride.toNat + width.toNat * drv.bytesPerPixel format
      _ ≤ (height.toNat - 1) * r.stride.toNat + r.stride.toNat := Nat.add_le_add_left hle _
      _ = height.toNat * r.stride.toNat := by rw [← Nat.succ_mul, Nat.succ_eq_add_one,
        Nat.sub_add_cancel hpos]
      _ = r.stride.toNat * r.layoutHeight.toNat := by rw [hlayoutHeight, Nat.mul_comm]
      _ ≤ drv.layoutSize format r.stride r.layoutHeight := Nat.le_add_right _ _
      _ = r.memory := h.memory.symm

/-! ## When the geometry is consistent -/

/-- Among the layouts whose size fits 32 bits, those no longer than a row are one row of one plane,
whole for a camera. -/
theorem EmulatedGeometry.layout_le_row_iff
    (h : EmulatedGeometry drv width height format useFlags r)
    (hlayout : drv.layoutSize format r.stride height < UInt32.size) :
    roundUp (drv.layoutSize format r.stride height % UInt32.size) (sizeAlign useFlags).toNat ≤
        r.stride.toNat ↔
      height = 1 ∧ drv.otherPlanes format r.stride height = 0 ∧
        (sizeAlign useFlags).toNat ∣ r.stride.toNat := by
  have hpos := sizeAlign_pos useFlags
  rw [Nat.mod_eq_of_lt hlayout]
  constructor
  · intro hle
    have hlayout_le := (le_roundUp hpos).trans hle
    have hstride := toNat_pos h.nonempty.1
    have hheight := toNat_pos h.nonempty.2
    unfold FormatHelpers.layoutSize at hlayout_le
    -- a second row, or another plane, would not fit
    have hone : height.toNat = 1 := by
      apply Nat.le_antisymm _ hheight
      apply Nat.le_of_mul_le_mul_left _ hstride
      rw [Nat.mul_one]
      exact (Nat.le_add_right _ _).trans hlayout_le
    rw [hone, Nat.mul_one] at hlayout_le
    have hother : drv.otherPlanes format r.stride height = 0 := by omega
    refine ⟨UInt32.toNat_inj.mp hone, hother, ?_⟩
    rw [FormatHelpers.layoutSize, hone, hother, Nat.mul_one, Nat.add_zero] at hle
    exact (roundUp_eq_self_iff hpos).mp (Nat.le_antisymm hle (le_roundUp hpos))
  · intro hrow
    rw [FormatHelpers.layoutSize, hrow.2.1, hrow.1, UInt32.toNat_one, Nat.mul_one, Nat.add_zero]
    exact Nat.le_of_eq ((roundUp_eq_self_iff hpos).mpr hrow.2.2)

/-- **When a buffer is imported as it was created**: if GBM does not know the format, the padded
layout must be no longer than one of its rows; if it is one row of bytes, GBM must have made the
rows of 4096 bytes as long as that. -/
theorem import_consistent_iff
    (hcreate : gbmMesaBoGeometry drv gbm width height format useFlags = some r)
    (himport : gbmMesaBoImport width height format useFlags r = some g) :
    g.Consistent drv r.memory ↔
      (getGbmMesaFormat format = 0 →
        roundUp (drv.layoutSize format (paddedWidth useFlags width) height % UInt32.size)
          (sizeAlign useFlags).toNat ≤ (paddedWidth useFlags width).toNat) ∧
      (format = drmFormatR8 ∧ height = 1 → width.toNat ≤ r.stride.toNat) := by
  unfold gbmMesaBoImport at himport
  split_ifs at himport with hsw hformat
  · obtain rfl := Option.some.inj himport
    have h := gbmMesaBoGeometry_emulated hformat hcreate
    rw [h.consistent_iff, h.totalSize, h.stride, forall_prop_of_true hformat]
    apply (and_iff_left _).symm
    intro hrow
    rw [hrow.1] at hformat
    exact absurd hformat (by decide)
  · obtain rfl := Option.some.inj himport
    have h := gbmMesaBoGeometry_image hformat hcreate
    rw [h.consistent_iff]
    exact (and_iff_right fun hzero => absurd hzero hformat).symm

end Import

/-- An image of 640 by 480 pixels of four bytes. -/
theorem import_consistent_iff_argb8888 :
    ∃ r g, gbmMesaBoGeometry linearFormats linearGbm 640 480 0x34325241 { sw := true } = some r ∧
      gbmMesaBoImport 640 480 0x34325241 { sw := true } r = some g ∧
      g.Consistent linearFormats r.memory := by
  have hcreate : gbmMesaBoGeometry linearFormats linearGbm 640 480 0x34325241 { sw := true } =
      some { stride := 2560, layoutHeight := 480, totalSize := 1228800, memory := 1228800 } := by
    decide
  refine ⟨_, _, hcreate, rfl, ?_⟩
  apply (import_consistent_iff hcreate rfl).mpr
  exact ⟨fun hformat => absurd hformat (by decide), fun hrow => absurd hrow.1 (by decide)⟩

/-- A video frame comes back as one row of 460800 bytes with a stride of 640, and a row of 8192
bytes with a stride of 4096. -/
theorem reimported_inconsistent :
    (∃ r g, gbmMesaBoGeometry linearFormats linearGbm 640 480 0x3231564e { sw := true } = some r ∧
      gbmMesaBoImport 640 480 0x3231564e { sw := true } r = some g ∧
      g = { width := 460800, height := 1, stride := 640, drmFormat := drmFormatR8 } ∧
      ¬ g.Consistent linearFormats r.memory) ∧
    (∃ r g, gbmMesaBoGeometry linearFormats linearGbm 8192 1 drmFormatR8 { sw := true } = some r ∧
      gbmMesaBoImport 8192 1 drmFormatR8 { sw := true } r = some g ∧
      g = { width := 8192, height := 1, stride := 4096, drmFormat := drmFormatR8 } ∧
      ¬ g.Consistent linearFormats r.memory) := by
  constructor
  · refine ⟨{ stride := 640, layoutHeight := 480, totalSize := 460800, memory := 462848 }, _,
      by decide, rfl, rfl, fun h => ?_⟩
    exact absurd h.row (by decide)
  · refine ⟨{ stride := 4096, layoutHeight := 2, totalSize := 8192, memory := 8192 }, _,
      by decide, rfl, rfl, fun h => ?_⟩
    exact absurd h.row (by decide)

end GloDroid.Gralloc

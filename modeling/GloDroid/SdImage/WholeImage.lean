import GloDroid.SdImage.AddPart

/-!
# Whole Images

`gensdimg.sh` as a whole: it wipes the partition table of the image, adds the partitions of an SD
card or of a deploy card, the last one of an SD card in the largest free part (`fit`), and makes the
table of a Raspberry Pi a hybrid one.

Whatever the files are, a run that ends leaves the partitions of its list, in free sectors of the
image, and each but `userdata` holds the whole blocks of its file (`genImage_partitions`). `dd`
writes the file of `userdata` at the offset behind the other partitions, wherever `sgdisk` has put
it; so it hurts none of them.
-/

namespace GloDroid.SdImage

open GloDroid.Base

/-! ## The script -/

/-- `$PLATFORM`. -/
inductive Platform where
  | sunxi
  | broadcom
  | rockchip
  deriving DecidableEq, Repr

/-- `$TYPE`: `DEPLOY-SD`, `DEPLOY-SD-FOR-EMMC`, or anything else. -/
inductive ImageType where
  | deploySd
  | deploySdForEmmc
  | sd
  deriving DecidableEq, Repr

/-- The contents of a file that is not empty. -/
abbrev FileBytes := { bytes : List UInt8 // 0 < bytes.length }

/-- `dd if=/dev/zero bs=4096`. -/
def zeroBlocks (count : Nat) (h : 0 < count) : FileBytes :=
  ⟨List.replicate (4096 * count) 0, by rw [List.length_replicate]; omega⟩

/-- The files that the script finds in its directory. -/
structure SdFiles where
  bootloaderSd : FileBytes
  bootloaderEmmc : FileBytes
  bootloaderDeployEmmc : FileBytes
  env : FileBytes
  boot : FileBytes
  bootDtbo : FileBytes
  super : FileBytes
  vbmeta : FileBytes

/-- A file that becomes a partition. -/
def FileBytes.part (f : FileBytes) (name : String) : ImageFile := ⟨name, f.1, f.2⟩

/-- `misc.img` and `metadata.img`. -/
def miscImg : FileBytes := zeroBlocks (1024 * 512 / 4096) (by decide)
def metadataImg : FileBytes := zeroBlocks (1024 * 1024 * 16 / 4096) (by decide)

/-- `sgdisk` with `--zap-all`, and `gdisk` in `modify_for_rpi`; no image where they fail. -/
structure DiskTools extends Sgdisk where
  zapAll : DiskImage → Option DiskImage
  hybrid : DiskImage → Option DiskImage

namespace DiskTools

variable (tools : DiskTools)

/-- The calls of `add_part` in `gen_sd` without `fit`. -/
def sdParts (files : SdFiles) : List ImageFile :=
  [files.bootloaderSd.part "bootloader",
    files.env.part "uboot-env",
    files.boot.part "recovery_boot",
    miscImg.part "misc",
    files.boot.part "boot",
    files.bootDtbo.part "dtbo_a",
    metadataImg.part "metadata",
    files.super.part "super",
    files.vbmeta.part "vbmeta"]

/-- The calls of `add_part` in `gen_deploy`. -/
def deployParts (platform : Platform) (emmc : Bool) (files : SdFiles) : List ImageFile :=
  let bootloader :=
    if platform = .rockchip ∧ emmc then files.bootloaderDeployEmmc
    else if emmc then files.bootloaderEmmc
    else files.bootloaderSd
  [bootloader.part "bootloader", files.env.part "uboot-env", files.boot.part "recovery_boot"]

/-- `modify_for_rpi`. -/
def modifyForRpi (s : GenSdImg) : Option GenSdImg :=
  (tools.hybrid s.img).map fun img => { s with img }

/-- `prepare_disk`, on an image that is there or one of zeros, and the variables of the script. -/
def prepareDisk (platform : Platform) (img : DiskImage) : Option GenSdImg :=
  (tools.zapAll img).map fun img => { ptr := partStart (platform == .rockchip), img }

/-- `gen_sd`. -/
def genSd (platform : Platform) (files : SdFiles) (img : DiskImage) : Option GenSdImg := do
  let s ← tools.prepareDisk platform img
  let s ← addParts tools.toSgdisk s (sdParts files)
  let s ← addPart tools.toSgdisk s metadataImg.1 "userdata" true
  if platform = .broadcom then tools.modifyForRpi s else some s

/-- `gen_deploy`. -/
def genDeploy (platform : Platform) (emmc : Bool) (files : SdFiles) (img : DiskImage) :
    Option GenSdImg := do
  let s ← tools.prepareDisk platform img
  let s ← addParts tools.toSgdisk s (deployParts platform emmc files)
  if platform = .broadcom then tools.modifyForRpi s else some s

/-- The choice by `$TYPE`. -/
def genImage (type : ImageType) (platform : Platform) (files : SdFiles) (img : DiskImage) :
    Option GenSdImg :=
  match type with
  | .deploySd => tools.genDeploy platform false files img
  | .deploySdForEmmc => tools.genDeploy platform true files img
  | .sd => tools.genSd platform files img

/-! ## What is relied on -/

/-- The other calls: `--largest-new` enters a partition in free sectors, `--zap-all` leaves an empty
table and a hybrid table has the same partitions; none of them writes to usable sectors. -/
structure Lawful : Prop where
  sgdisk : tools.toSgdisk.Lawful
  fit {number : Nat} {name : String} {img img' : DiskImage} :
    tools.largestNew number name img = some img' →
      ∃ first last, img'.table = img.table ++ [⟨number, first, last, name⟩] ∧
        (firstUsable ≤ first ∧ first ≤ last ∧ last ≤ tools.lastUsable) ∧
        ∀ p ∈ img.table, p.last < first ∨ last < p.first
  fitBytes {number : Nat} {name : String} {img img' : DiskImage} {i : Nat} :
    tools.largestNew number name img = some img' → tools.toSgdisk.Usable i →
      img'.bytes i = img.bytes i
  zapped {img img' : DiskImage} : tools.zapAll img = some img' → img'.table = []
  hybrid_table {img img' : DiskImage} : tools.hybrid img = some img' → img'.table = img.table
  hybrid_bytes {img img' : DiskImage} {i : Nat} :
    tools.hybrid img = some img' → tools.toSgdisk.Usable i → img'.bytes i = img.bytes i

/-- The partitions that the script adds for its files, and the one of the largest free part. -/
def parts (type : ImageType) (platform : Platform) (files : SdFiles) : List ImageFile :=
  match type with
  | .deploySd => deployParts platform false files
  | .deploySdForEmmc => deployParts platform true files
  | .sd => sdParts files

def fitNames : ImageType → List String
  | .deploySd | .deploySdForEmmc => []
  | .sd => ["userdata"]

end DiskTools

/-- The partitions of an image for these files: under their names and numbers, in free sectors of
the image, the first one where the boot ROM looks for it, and all but a last one with the whole
blocks of their files. -/
structure Partitioned (lastUsable start : Nat) (img : DiskImage) (files : List ImageFile)
    (fit : List String) : Prop where
  names : img.table.map Partition.name = files.map ImageFile.name ++ fit
  numbers : img.table.map Partition.number = List.range' 1 (files.length + fit.length)
  first : ∀ p ∈ img.table.head?, 512 * p.first = start
  disjoint : img.table.Pairwise fun p q => p.last < q.first ∨ q.last < p.first
  usable : ∀ p ∈ img.table, firstUsable ≤ p.first ∧ p.first ≤ p.last ∧ p.last ≤ lastUsable
  covers : List.Forall₂ (fun p f => 512 * p.first + f.size ≤ 512 * (p.last + 1))
    (img.table.take files.length) files
  blocks : List.Forall₂
    (fun p f => ∀ (j : Nat) (b : UInt8), j < f.size / 4096 * 4096 → f.bytes[j]? = some b →
      img.bytes (512 * p.first + j) = b)
    (img.table.take files.length) files

/-! ## Adding the partitions -/

/-- The names and numbers that a run of `add_part` enters, and where it leaves the offset. -/
structure PartsEntered (s : GenSdImg) (files : List ImageFile) (s' : GenSdImg) : Prop where
  names : s'.img.table.map Partition.name =
    s.img.table.map Partition.name ++ files.map ImageFile.name
  numbers : s'.img.table.map Partition.number =
    s.img.table.map Partition.number ++ List.range' s.pn files.length
  pn : s'.pn = s.pn + files.length
  le : s.ptr ≤ s'.ptr
  ends : ∀ p ∈ placed s.ptr files, p.1 + p.2.size ≤ s'.ptr
  dvd : 4096 ∣ s.ptr → 4096 ∣ s'.ptr

theorem addPart_pn {sgdisk : Sgdisk} {s s' : GenSdImg} {file : List UInt8} {name : String}
    {fit : Bool} (h : addPart sgdisk s file name fit = some s') : s'.pn = s.pn + 1 := by
  simp only [addPart] at h
  split at h
  · cases h
  · rw [← Option.some.inj h]

theorem addParts_entered {sgdisk : Sgdisk} {s s' : GenSdImg} {files : List ImageFile}
    (hlaw : sgdisk.Lawful) (h : addParts sgdisk s files = some s') : PartsEntered s files s' := by
  induction files generalizing s with
  | nil =>
    obtain rfl := Option.some.inj h
    exact ⟨by simp, by simp, rfl, Nat.le_refl _, by simp [placed, layout], id⟩
  | cons f files ih =>
    simp only [addParts] at h
    split at h
    case h_1 => cases h
    case h_2 s₁ hadd =>
      have hfirst := addPart_added hlaw hadd
      have hpn := addPart_pn hadd
      have hrest := ih h
      -- the offset goes on behind the file, rounded up
      have hstep : s.ptr + f.size ≤ s₁.ptr := hfirst.ptr ▸ le_roundUp align_pos
      have hplaced : placed s.ptr (f :: files) = (s.ptr, f) :: placed s₁.ptr files := by
        rw [hfirst.ptr]
        rfl
      refine ⟨?_, ?_, ?_, ?_, ?_, fun _ => ?_⟩
      · rw [hrest.names, hfirst.table]
        simp
      · rw [hrest.numbers, hfirst.table, hpn]
        simp [List.range'_succ]
      · rw [hrest.pn, hpn, List.length_cons]
        omega
      · exact (Nat.le_add_right _ _).trans (hstep.trans hrest.le)
      · rw [hplaced]
        exact List.forall_mem_cons.mpr ⟨hstep.trans hrest.le, hrest.ends⟩
      · apply hrest.dvd
        rw [hfirst.ptr]
        exact (by decide : 4096 ∣ align).trans (dvd_roundUp _ align)

section Partitioned

variable {sgdisk : Sgdisk} {rockchip : Bool} {bytes : Nat → UInt8} {files : List ImageFile}
  {s : GenSdImg}

/-- An entry of the table is the range of a file at its offset. -/
theorem mem_placed_of_mem_table (hadded : PartsAdded sgdisk (startOf rockchip bytes) files s)
    {p : Partition} (hp : p ∈ s.img.table) :
    ∃ q ∈ placed (partStart rockchip) files, sectorRange q = (p.first, p.last) := by
  have hrange : (p.first, p.last) ∈ (placed (partStart rockchip) files).map sectorRange := by
    rw [← table_ranges hadded]
    exact List.mem_map_of_mem hp
  exact List.mem_map.mp hrange

/-- The first partition starts where the script does. -/
theorem head_table (hadded : PartsAdded sgdisk (startOf rockchip bytes) files s)
    (hfiles : files ≠ []) :
    ∃ p rest, s.img.table = p :: rest ∧ 512 * p.first = partStart rockchip := by
  have hranges := table_ranges hadded
  obtain ⟨f, rest, rfl⟩ := List.exists_cons_of_ne_nil hfiles
  have hplaced : (partStart rockchip, f) ∈ placed (partStart rockchip) (f :: rest) :=
    List.mem_cons_self
  cases htable : s.img.table with
  | nil => simp [htable, placed, layout] at hranges
  | cons p rest' =>
    refine ⟨p, rest', rfl, ?_⟩
    rw [htable, List.map_cons, placed, layout, List.map_cons] at hranges
    have hfirst := congrArg Prod.fst (List.cons.inj hranges).1
    rw [show p.first = (sectorRange (partStart rockchip, f)).1 from hfirst,
      (sectorRange_spec hplaced).1]

/-- The partitions of the files, after others were added and bytes behind them were written. -/
theorem partitioned_of_added (img : DiskImage) (extra : List Partition)
    (hadded : PartsAdded sgdisk (startOf rockchip bytes) files s)
    (hentered : PartsEntered (startOf rockchip bytes) files s) (hfiles : files ≠ [])
    (htable : img.table = s.img.table ++ extra)
    (hbytes : ∀ i, sgdisk.Usable i → i < s.ptr → img.bytes i = s.img.bytes i)
    (hnumbers : extra.map Partition.number = List.range' s.pn extra.length)
    (husable : ∀ p ∈ extra,
      firstUsable ≤ p.first ∧ p.first ≤ p.last ∧ p.last ≤ sgdisk.lastUsable)
    (hextra : extra.Pairwise fun p q => p.last < q.first ∨ q.last < p.first)
    (hfree : ∀ p ∈ s.img.table, ∀ q ∈ extra, p.last < q.first ∨ q.last < p.first) :
    Partitioned sgdisk.lastUsable (partStart rockchip) img files
      (extra.map Partition.name) := by
  have hlength : s.img.table.length = files.length := by
    have hnames := congrArg List.length hentered.names
    simpa [startOf] using hnames
  -- the partitions of the files come first in the table
  have htake : img.table.take files.length = s.img.table := by
    rw [htable, ← hlength, List.take_left']
    rfl
  refine ⟨?_, ?_, ?_, ?_, ?_, ?_, ?_⟩
  · rw [htable, List.map_append, hentered.names]
    simp [startOf]
  · rw [htable, List.map_append, hentered.numbers, hnumbers, hentered.pn, List.length_map]
    simp only [startOf, List.map_nil, List.nil_append]
    rw [← List.range'_append_1]
  · obtain ⟨p, rest, hhead, hstart⟩ := head_table hadded hfiles
    rw [htable, hhead]
    rintro q hq
    obtain rfl := Option.some.inj hq
    exact hstart
  · rw [htable, List.pairwise_append]
    exact ⟨(table_ordered hadded).imp Or.inl, hextra, hfree⟩
  · rw [htable, List.forall_mem_append]
    refine ⟨fun p hp => ?_, husable⟩
    obtain ⟨q, hq, hrange⟩ := mem_placed_of_mem_table hadded hp
    obtain ⟨hfirst, hle, -⟩ := sectorRange_spec hq
    have hlast := hadded.usable q hq
    have hbehind := firstUsable_le_placed hq
    rw [hrange] at hfirst hle hlast
    simp only at hfirst hle hlast
    exact ⟨by omega, hle, hlast⟩
  · rw [htake]
    exact table_covers hadded
  · rw [htake]
    apply (forall₂_table hadded fun r f => ∀ (j : Nat) (b : UInt8), j < f.size / 4096 * 4096 →
      f.bytes[j]? = some b → img.bytes (512 * r.1 + j) = b).mpr
    intro p hp j b hblock hj
    have hsize : j < p.2.size := (List.getElem?_eq_some_iff.mp hj).1
    -- what was written behind the offset is behind the file
    have hend : p.1 + p.2.size ≤ s.ptr := hentered.ends p hp
    rw [(sectorRange_spec hp).1, hbytes _ (usable_of_placed hadded hp hj) (by omega)]
    exact bytes_of_copied hadded hp hj hblock

end Partitioned

/-! ## The runs of the script -/

namespace DiskTools

variable {tools : DiskTools} {platform : Platform} {files : SdFiles} {img : DiskImage}
  {s s' : GenSdImg}

theorem prepareDisk_eq (hlaw : tools.Lawful) (h : tools.prepareDisk platform img = some s) :
    ∃ bytes, s = startOf (platform == .rockchip) bytes := by
  obtain ⟨img', hzap, rfl⟩ := Option.map_eq_some_iff.mp h
  have htable : img' = { bytes := img'.bytes } := by
    cases img' with
    | mk table bytes =>
      obtain rfl : table = [] := hlaw.zapped hzap
      rfl
  exact ⟨img'.bytes, by rw [htable]; rfl⟩

/-- `modify_for_rpi`, if it is called, leaves the partitions and what is in them. -/
theorem modifyForRpi_eq (hlaw : tools.Lawful)
    (h : (if platform = .broadcom then tools.modifyForRpi s else some s) = some s') :
    s'.img.table = s.img.table ∧
      ∀ i, tools.toSgdisk.Usable i → s'.img.bytes i = s.img.bytes i := by
  split_ifs at h
  · obtain ⟨img', hhybrid, rfl⟩ := Option.map_eq_some_iff.mp h
    exact ⟨hlaw.hybrid_table hhybrid, fun i hi => hlaw.hybrid_bytes hhybrid hi⟩
  · obtain rfl := Option.some.inj h
    exact ⟨rfl, fun _ _ => rfl⟩

/-- `gen_deploy`. -/
theorem genDeploy_partitioned {emmc : Bool} (hlaw : tools.Lawful)
    (h : tools.genDeploy platform emmc files img = some s) :
    Partitioned tools.lastUsable (partStart (platform == .rockchip)) s.img
      (deployParts platform emmc files) [] := by
  simp only [genDeploy, Option.bind_eq_bind, Option.bind_eq_some_iff] at h
  obtain ⟨s₀, hprepare, s₁, hparts, hrpi⟩ := h
  obtain ⟨bytes, rfl⟩ := prepareDisk_eq hlaw hprepare
  have hadded := addParts_added hlaw.sgdisk hparts
  have hentered := addParts_entered hlaw.sgdisk hparts
  obtain ⟨htable, hbytes⟩ := modifyForRpi_eq hlaw hrpi
  apply partitioned_of_added s.img [] hadded hentered (List.cons_ne_nil _ _)
  · rw [htable, List.append_nil]
  · exact fun i hi _ => hbytes i hi
  · rfl
  · exact fun p hp => by cases hp
  · exact List.Pairwise.nil
  · exact fun _ _ q hq => by cases hq

theorem dd_before {src : List UInt8} {bs count seek i : Nat} {dst : Nat → UInt8}
    (h : i < seek * bs) : dd src bs count seek dst i = dst i :=
  writeAt_outside (Or.inl h)

/-- `gen_sd`. The file of `userdata` is written behind the other partitions. -/
theorem genSd_partitioned (hlaw : tools.Lawful) (h : tools.genSd platform files img = some s) :
    Partitioned tools.lastUsable (partStart (platform == .rockchip)) s.img (sdParts files)
      ["userdata"] := by
  simp only [genSd, Option.bind_eq_bind, Option.bind_eq_some_iff] at h
  obtain ⟨s₀, hprepare, s₁, hparts, s₂, hfit, hrpi⟩ := h
  obtain ⟨bytes, rfl⟩ := prepareDisk_eq hlaw hprepare
  have hadded := addParts_added hlaw.sgdisk hparts
  have hentered := addParts_entered hlaw.sgdisk hparts
  obtain ⟨htable, hbytes⟩ := modifyForRpi_eq hlaw hrpi
  simp only [addPart, if_true] at hfit
  split at hfit
  case h_1 => cases hfit
  case h_2 img' hlargest =>
    obtain rfl := Option.some.inj hfit
    -- the last partition fills the largest free part
    obtain ⟨first, last, htable', hrange, hfree⟩ := hlaw.fit hlargest
    have hstart : ∀ rockchip : Bool, 4096 ∣ partStart rockchip := by decide
    -- `dd` counts in blocks of 4096 bytes, and the offset is a multiple of that
    have hptr : s₁.ptr / 4096 * 4096 = s₁.ptr := Nat.div_mul_cancel (hentered.dvd (hstart _))
    let userdata : Partition := ⟨s₁.pn, first, last, "userdata"⟩
    apply partitioned_of_added s.img [userdata] hadded hentered (List.cons_ne_nil _ _)
    · exact htable.trans htable'
    · intro i hi hlt
      rw [hbytes i hi]
      have hbefore : i < s₁.ptr / 4096 * 4096 := hlt.trans_eq hptr.symm
      exact (dd_before hbefore).trans (hlaw.fitBytes hlargest hi)
    · simp [userdata]
    · exact List.forall_mem_singleton.mpr hrange
    · exact List.pairwise_singleton _ _
    · intro p hp q hq
      rw [List.mem_singleton.mp hq]
      exact hfree p hp

/-- **What the script makes.** Whatever type and platform an image is for, and whatever is in the
files and was on the image before, a run that ends leaves the partitions of its list, numbered from
1, the first of them where the boot ROM looks for it; they are in free sectors and do not overlap,
each covers its file, and has the whole blocks of it when the script ends. -/
theorem genImage_partitions {type : ImageType} (hlaw : tools.Lawful)
    (h : tools.genImage type platform files img = some s) :
    Partitioned tools.lastUsable (partStart (platform == .rockchip)) s.img
      (parts type platform files) (fitNames type) := by
  cases type with
  | deploySd => exact genDeploy_partitioned hlaw h
  | deploySdForEmmc => exact genDeploy_partitioned hlaw h
  | sd => exact genSd_partitioned hlaw h

/-! ## A card for a Raspberry Pi -/

/-- The tools for an image with this last usable sector; the table stays as it is apart from what
the calls are for. -/
def gptTools (lastUsable : Nat) : DiskTools where
  toSgdisk := gptSgdisk lastUsable
  zapAll img := some { img with table := [] }
  hybrid img := some img

theorem gptTools_lawful (lastUsable : Nat) : (gptTools lastUsable).Lawful where
  sgdisk := gptSgdisk_lawful lastUsable
  fit := by
    intro number name img img' h
    simp only [gptTools, gptSgdisk] at h
    split_ifs at h with hfree
    obtain rfl := Option.some.inj h
    exact ⟨_, lastUsable, rfl, ⟨hfree.1, hfree.2.1, Nat.le_refl _⟩, hfree.2.2.2⟩
  fitBytes h hi := (gptSgdisk_lawful lastUsable).bytes h hi
  zapped h := by rw [← Option.some.inj h]
  hybrid_table h := by rw [← Option.some.inj h]
  hybrid_bytes h _ := by rw [← Option.some.inj h]

/-- The partitions so far end before the offset, and leave a sector. -/
def EndsBefore (lastUsable : Nat) (s : GenSdImg) : Prop :=
  ∀ p ∈ s.img.table, p.last < s.ptr / 512 ∧ p.last < lastUsable

theorem addPart_gptSgdisk {lastUsable : Nat} {f : ImageFile} (hbefore : EndsBefore lastUsable s)
    (hstart : 512 * firstUsable ≤ s.ptr) (hfits : s.ptr + f.size ≤ 512 * lastUsable) :
    ∃ s', addPart (gptSgdisk lastUsable) s f.bytes f.name false = some s' ∧
      EndsBefore lastUsable s' := by
  have hsize : 0 < f.size := f.size_pos
  have hfree : firstUsable ≤ s.ptr / 512 ∧ s.ptr / 512 ≤ (s.ptr + f.size - 1) / 512 ∧
      (s.ptr + f.size - 1) / 512 ≤ lastUsable ∧
      ∀ p ∈ s.img.table, p.last < s.ptr / 512 ∨ (s.ptr + f.size - 1) / 512 < p.first :=
    ⟨by omega, by omega, by omega, fun p hp => .inl (hbefore p hp).1⟩
  have hadd : ∃ s', addPart (gptSgdisk lastUsable) s f.bytes f.name false = some s' := by
    rw [ImageFile.size] at hfree
    simp only [addPart, gptSgdisk, Bool.false_eq_true, if_false, if_pos hfree]
    exact ⟨_, rfl⟩
  obtain ⟨s', hadd⟩ := hadd
  have hadded := addPart_added (gptSgdisk_lawful lastUsable) hadd
  -- the next offset is a sector behind the file
  have hptr := le_roundUp (n := s.ptr + f.size) align_pos
  have hdvd : 512 ∣ roundUp (s.ptr + f.size) align :=
    (by decide : 512 ∣ align).trans (dvd_roundUp _ align)
  refine ⟨s', hadd, fun p hp => ?_⟩
  rw [hadded.table] at hp
  rw [hadded.ptr]
  rcases List.mem_append.mp hp with hp | hp
  · have hlast := hbefore p hp
    omega
  · -- the new partition ends with the file
    obtain rfl := List.mem_singleton.mp hp
    simp only [sectorRange]
    omega

theorem addParts_gptSgdisk {lastUsable : Nat} {parts : List ImageFile}
    (hbefore : EndsBefore lastUsable s) (hstart : 512 * firstUsable ≤ s.ptr)
    (hfits : ∀ p ∈ placed s.ptr parts, p.1 + p.2.size ≤ 512 * lastUsable) :
    ∃ s', addParts (gptSgdisk lastUsable) s parts = some s' ∧ EndsBefore lastUsable s' := by
  induction parts generalizing s with
  | nil => exact ⟨s, rfl, hbefore⟩
  | cons f parts ih =>
    obtain ⟨s₁, hadd, hbefore₁⟩ :=
      addPart_gptSgdisk hbefore hstart (hfits (s.ptr, f) List.mem_cons_self)
    have hptr : s₁.ptr = roundUp (s.ptr + f.size) align :=
      (addPart_added (gptSgdisk_lawful lastUsable) hadd).ptr
    obtain ⟨s', hrest, hbefore'⟩ := ih hbefore₁
      (hstart.trans (hptr ▸ (Nat.le_add_right _ _).trans (le_roundUp align_pos)))
      (fun p hp => hfits p (List.mem_cons_of_mem _ (hptr ▸ hp)))
    exact ⟨s', by rw [addParts, hadd]; exact hrest, hbefore'⟩

/-- The sector behind the last partition. -/
theorem sectorBehind {lastUsable n : Nat} {table : List Partition} (hn : n ≤ lastUsable)
    (hbefore : ∀ p ∈ table, p.last < lastUsable) :
    n ≤ table.foldl (fun n p => max n (p.last + 1)) n ∧
      table.foldl (fun n p => max n (p.last + 1)) n ≤ lastUsable ∧
      ∀ p ∈ table, p.last < table.foldl (fun n p => max n (p.last + 1)) n := by
  induction table generalizing n with
  | nil => exact ⟨le_rfl, hn, fun p hp => by cases hp⟩
  | cons q table ih =>
    obtain ⟨hq, hrest⟩ := List.forall_mem_cons.mp hbefore
    obtain ⟨hle, hlast, hall⟩ := ih (n := max n (q.last + 1)) (Nat.max_le.mpr ⟨hn, hq⟩) hrest
    rw [List.foldl_cons]
    exact ⟨(Nat.le_max_left _ _).trans hle, hlast,
      List.forall_mem_cons.mpr ⟨(Nat.le_max_right _ _).trans hle, hall⟩⟩

/-- **A card that is large enough is made**, whatever the files. -/
theorem genImage_gptTools {lastUsable : Nat} (type : ImageType) (platform : Platform)
    (files : SdFiles) (img : DiskImage)
    (hfits : ∀ p ∈ placed (partStart (platform == .rockchip)) (parts type platform files),
      p.1 + p.2.size ≤ 512 * lastUsable) :
    ∃ s, (gptTools lastUsable).genImage type platform files img = some s := by
  have hstart : 512 * firstUsable ≤ partStart (platform == .rockchip) := by
    cases platform <;> decide
  obtain ⟨s, hparts, hbefore⟩ := addParts_gptSgdisk
    (s := startOf (platform == .rockchip) img.bytes) (fun p hp => by cases hp) hstart hfits
  have hrpi : ∀ s : GenSdImg, (if platform = .broadcom then (gptTools lastUsable).modifyForRpi s
      else some s) = some s := by
    intro s
    split_ifs <;> rfl
  have hprepare : (gptTools lastUsable).prepareDisk platform img =
      some (startOf (platform == .rockchip) img.bytes) := rfl
  cases type with
  | deploySd | deploySdForEmmc =>
    simp only [genImage, genDeploy, Option.bind_eq_bind, Option.bind_eq_some_iff]
    exact ⟨s, _, hprepare, s, hparts, hrpi s⟩
  | sd =>
    -- the sectors up to the last usable one are free for `userdata`
    have hroom : firstUsable ≤ lastUsable := by
      have hfirst := hfits _ List.mem_cons_self
      simp only at hfirst
      omega
    have hfree := sectorBehind hroom fun p hp => (hbefore p hp).2
    have hfit : ∃ s', addPart (gptTools lastUsable).toSgdisk s metadataImg.1 "userdata" true =
        some s' := by
      simp only [addPart, gptTools, gptSgdisk, if_true]
      rw [if_pos ⟨hfree.1, hfree.2.1, le_rfl, fun p hp => .inl (hfree.2.2 p hp)⟩]
      exact ⟨_, rfl⟩
    obtain ⟨s', hfit⟩ := hfit
    simp only [genImage, genSd, Option.bind_eq_bind, Option.bind_eq_some_iff]
    exact ⟨s', _, hprepare, s, hparts, s', hfit, hrpi s'⟩

/-- The same file under all names. -/
def sameFiles (f : FileBytes) : SdFiles := ⟨f, f, f, f, f, f, f, f⟩

/-- A block and a half. -/
def blockAndHalf : FileBytes := ⟨List.replicate 6144 1, by rw [List.length_replicate]; decide⟩

/-- A card of 64 MiB. -/
theorem genImage_partitions_card :
    ∃ s, (gptTools 131038).genImage .sd .broadcom (sameFiles blockAndHalf)
        { bytes := fun _ => 0 } = some s ∧
      Partitioned 131038 (256 * 512) s.img (sdParts (sameFiles blockAndHalf)) ["userdata"] := by
  -- where the partitions end depends on the sizes only
  have hsizes : ∀ f misc metadata : FileBytes, f.1.length = 6144 → misc.1.length = 524288 →
      metadata.1.length = 16777216 →
      ∀ p ∈ placed (256 * 512) [f.part "bootloader", f.part "uboot-env", f.part "recovery_boot",
        misc.part "misc", f.part "boot", f.part "dtbo_a", metadata.part "metadata",
        f.part "super", f.part "vbmeta"], p.1 + p.2.size ≤ 512 * 131038 := by
    intro f misc metadata hf hmisc hmetadata
    simp [placed, layout, FileBytes.part, ImageFile.size, hf, hmisc, hmetadata, roundUp, align,
      Nat.ceilDiv_eq_add_pred_div]
  have hfits := hsizes blockAndHalf miscImg metadataImg List.length_replicate List.length_replicate
    List.length_replicate
  obtain ⟨s, hs⟩ := genImage_gptTools .sd .broadcom (sameFiles blockAndHalf)
    { bytes := fun _ => 0 } hfits
  exact ⟨s, hs, genImage_partitions (gptTools_lawful 131038) hs⟩

end DiskTools

end GloDroid.SdImage

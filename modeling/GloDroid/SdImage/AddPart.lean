import GloDroid.Base.Regions
import Mathlib.Data.List.Forall2

/-!
# The Partitions of an SD Image

`gensdimg.sh` adds the partitions of an image one after the other: `add_part` enters a partition for
the size of a file at the current offset, copies the file there with `dd` and moves the offset
behind it, to a multiple of 1 MiB. The entries are in sectors of 512 bytes, `dd` copies blocks of
4 KiB, and each division rounds down.

The partitions are disjoint and cover their files, and `dd` writes to where they start. But it
copies whole blocks only: what a file has behind its last whole block is not written.

Sizes and offsets are natural numbers; the arithmetic of the shell has 64 bits. `sgdisk` is a
parameter.
-/

namespace GloDroid.SdImage

open GloDroid.Base

/-! ## The image -/

/-- A partition, from its first to its last sector. -/
structure Partition where
  number : Nat
  first : Nat
  last : Nat
  name : String
  deriving DecidableEq, Repr

/-- `$SDIMG`: the partition table, and the bytes of the file. -/
structure DiskImage where
  table : List Partition := []
  bytes : Nat → UInt8

/-- `sgdisk` with `--new` or `--largest-new`, and `--change-name`; no image where it fails. -/
structure Sgdisk where
  /-- The last sector that a partition may have in the image. -/
  lastUsable : Nat
  new (number first last : Nat) (name : String) (img : DiskImage) : Option DiskImage
  largestNew (number : Nat) (name : String) (img : DiskImage) : Option DiskImage

/-- The first sector behind the partition table. -/
def firstUsable : Nat := 34

/-- The byte is in a sector that partitions may have. -/
def Sgdisk.Usable (sgdisk : Sgdisk) (i : Nat) : Prop :=
  512 * firstUsable ≤ i ∧ i < 512 * (sgdisk.lastUsable + 1)

/-- What is relied on: a new partition is entered behind the others and has usable sectors only, and
only the two copies of the partition table are written. -/
structure Sgdisk.Lawful (sgdisk : Sgdisk) : Prop where
  table {number first last : Nat} {name : String} {img img' : DiskImage} :
    sgdisk.new number first last name img = some img' →
      img'.table = img.table ++ [⟨number, first, last, name⟩]
  usable {number first last : Nat} {name : String} {img img' : DiskImage} :
    sgdisk.new number first last name img = some img' → last ≤ sgdisk.lastUsable
  bytes {number first last : Nat} {name : String} {img img' : DiskImage} {i : Nat} :
    sgdisk.new number first last name img = some img' → sgdisk.Usable i →
      img'.bytes i = img.bytes i

/-! ## The script -/

/-- `dd if=src bs=bs count=count seek=seek conv=notrunc`. -/
def dd (src : List UInt8) (bs count seek : Nat) (dst : Nat → UInt8) : Nat → UInt8 :=
  writeAt dst (seek * bs) (src.take (count * bs))

/-- `PART_START`. -/
def partStart (rockchip : Bool) : Nat := if rockchip then 64 * 512 else 256 * 512

/-- `ALIGN`. -/
def align : Nat := 2048 * 512

/-- The variables of the script, with the image. `seeks` records the offsets that `dd` wrote to. -/
structure GenSdImg where
  ptr : Nat
  pn : Nat := 1
  img : DiskImage
  seeks : List Nat := []

/-- `add_part`, with `fit` or without. A failure of `sgdisk` ends the script. -/
def addPart (sgdisk : Sgdisk) (s : GenSdImg) (file : List UInt8) (name : String) (fit : Bool) :
    Option GenSdImg :=
  let size := file.length
  let created :=
    if fit then sgdisk.largestNew s.pn name s.img
    else sgdisk.new s.pn (s.ptr / 512) ((s.ptr + size - 1) / 512) name s.img
  match created with
  | none => none
  | some img =>
    some {
      ptr := (s.ptr + size + align - 1) / align * align
      pn := s.pn + 1
      img := { img with bytes := dd file 4096 (size / 4096) (s.ptr / 4096) img.bytes }
      seeks := s.seeks ++ [s.ptr / 4096 * 4096] }

/-- A file that is not empty, and the name for its partition. -/
structure ImageFile where
  name : String
  bytes : List UInt8
  size_pos : 0 < bytes.length

def ImageFile.size (f : ImageFile) : Nat := f.bytes.length

/-- Calls of `add_part` without `fit`. -/
def addParts (sgdisk : Sgdisk) : GenSdImg → List ImageFile → Option GenSdImg
  | s, [] => some s
  | s, f :: fs =>
    match addPart sgdisk s f.bytes f.name false with
    | none => none
    | some s' => addParts sgdisk s' fs

/-- The script in front of the first partition, with an image that has an empty table. -/
def startOf (rockchip : Bool) (bytes : Nat → UInt8) : GenSdImg :=
  { ptr := partStart rockchip, img := { bytes } }

/-! ## Intact partitions -/

/-- The partitions are in order and do not overlap, each starts where `dd` wrote, is large enough
for its file, and has the bytes of the file from its start on. -/
structure Intact (s : GenSdImg) (files : List ImageFile) : Prop where
  ordered : s.img.table.Pairwise fun p q => p.last < q.first
  sectors : ∀ p ∈ s.img.table, p.first ≤ p.last
  start : s.img.table.map (fun p => 512 * p.first) = s.seeks
  covers : List.Forall₂ (fun p f => 512 * p.first + f.size ≤ 512 * (p.last + 1)) s.img.table files
  bytes : List.Forall₂
    (fun p f => ∀ (j : Nat) (b : UInt8), f.bytes[j]? = some b →
      s.img.bytes (512 * p.first + j) = b)
    s.img.table files

/-- The files at the offsets of their partitions. -/
def placed (start : Nat) (files : List ImageFile) : List (Nat × ImageFile) :=
  layout ImageFile.size align start files

/-- The image had already, behind the last whole block of each file, what the file has there. -/
def TailsThere (start : Nat) (bytes : Nat → UInt8) (files : List ImageFile) : Prop :=
  ∀ p ∈ placed start files, ∀ (j : Nat) (b : UInt8), p.2.size / 4096 * 4096 ≤ j →
    p.2.bytes[j]? = some b → bytes (p.1 + j) = b

/-- The range of sectors of a file that is placed. -/
def sectorRange (p : Nat × ImageFile) : Nat × Nat := (p.1 / 512, (p.1 + p.2.size - 1) / 512)

/-- What `dd` copies of a file that is placed. -/
def copied (p : Nat × ImageFile) : Nat × List UInt8 :=
  (p.1 / 4096 * 4096, p.2.bytes.take (p.2.size / 4096 * 4096))

section Run

variable {sgdisk : Sgdisk} {s s' : GenSdImg} {f : ImageFile} {files : List ImageFile}

/-- What a call does: the partition is entered, and of the sectors that partitions may have, those
that `dd` writes are changed. -/
structure PartAdded (sgdisk : Sgdisk) (s : GenSdImg) (f : ImageFile) (s' : GenSdImg) : Prop where
  ptr : s'.ptr = roundUp (s.ptr + f.size) align
  table : s'.img.table =
    s.img.table ++ [⟨s.pn, (sectorRange (s.ptr, f)).1, (sectorRange (s.ptr, f)).2, f.name⟩]
  seeks : s'.seeks = s.seeks ++ [(copied (s.ptr, f)).1]
  usable : (sectorRange (s.ptr, f)).2 ≤ sgdisk.lastUsable
  bytes : ∀ i, sgdisk.Usable i →
    s'.img.bytes i = writeAt s.img.bytes (copied (s.ptr, f)).1 (copied (s.ptr, f)).2 i

theorem addPart_added (hlaw : sgdisk.Lawful)
    (h : addPart sgdisk s f.bytes f.name false = some s') : PartAdded sgdisk s f s' := by
  simp only [addPart, Bool.false_eq_true, if_false] at h
  split at h
  case h_1 => cases h
  case h_2 img hnew =>
    obtain rfl := Option.some.inj h
    have hsize : f.bytes.length = f.size := rfl
    have htable : img.table = s.img.table ++
        [⟨s.pn, (sectorRange (s.ptr, f)).1, (sectorRange (s.ptr, f)).2, f.name⟩] :=
      hlaw.table hnew
    refine ⟨?_, htable, rfl, hlaw.usable hnew, fun i hi => ?_⟩
    · simp only [hsize]
      rw [roundUp, Nat.ceilDiv_eq_add_pred_div, Nat.mul_comm]
    · exact writeAt_congr (hlaw.bytes hnew hi)

/-- What a run does. -/
structure PartsAdded (sgdisk : Sgdisk) (s : GenSdImg) (files : List ImageFile) (s' : GenSdImg) :
    Prop where
  table : s'.img.table.map (fun p => (p.first, p.last)) =
    s.img.table.map (fun p => (p.first, p.last)) ++ (placed s.ptr files).map sectorRange
  seeks : s'.seeks = s.seeks ++ (placed s.ptr files).map fun p => (copied p).1
  usable : ∀ p ∈ placed s.ptr files, (sectorRange p).2 ≤ sgdisk.lastUsable
  bytes : ∀ i, sgdisk.Usable i →
    s'.img.bytes i = writeAll s.img.bytes ((placed s.ptr files).map copied) i

theorem addParts_added (hlaw : sgdisk.Lawful) (h : addParts sgdisk s files = some s') :
    PartsAdded sgdisk s files s' := by
  induction files generalizing s with
  | nil =>
    obtain rfl := Option.some.inj h
    exact ⟨by simp [placed, layout], by simp [placed, layout], by simp [placed, layout],
      fun _ _ => rfl⟩
  | cons f files ih =>
    simp only [addParts] at h
    split at h
    case h_1 => cases h
    case h_2 s₁ hadd =>
      have hfirst := addPart_added hlaw hadd
      have hrest := ih h
      -- the next partition is placed where the pointer was moved to
      have hplaced : placed s.ptr (f :: files) = (s.ptr, f) :: placed s₁.ptr files := by
        rw [hfirst.ptr]
        rfl
      refine ⟨?_, ?_, ?_, fun i hi => ?_⟩
      · rw [hrest.table, hfirst.table, hplaced]
        simp [sectorRange]
      · rw [hrest.seeks, hfirst.seeks, hplaced]
        simp
      · rw [hplaced]
        exact List.forall_mem_cons.mpr ⟨hfirst.usable, hrest.usable⟩
      · rw [hrest.bytes i hi, hplaced]
        exact writeAll_congr (hfirst.bytes i hi)

end Run

/-! ## Where the partitions are -/

theorem align_pos : 0 < align := by decide

section Placed

variable {rockchip : Bool} {files : List ImageFile} {p : Nat × ImageFile}

/-- Every partition starts at a block of `dd`, and so at a sector. -/
theorem dvd_placed (h : p ∈ placed (partStart rockchip) files) : 4096 ∣ p.1 := by
  have hstart : 4096 ∣ partStart rockchip := by cases rockchip <;> decide
  exact dvd_of_mem_layout hstart (by decide) h

/-- It is behind the partition table. -/
theorem firstUsable_le_placed (h : p ∈ placed (partStart rockchip) files) :
    512 * firstUsable ≤ p.1 := by
  have hstart : 512 * firstUsable ≤ partStart rockchip := by cases rockchip <;> decide
  exact hstart.trans (le_of_mem_layout align_pos h)

theorem copied_fst (h : p ∈ placed (partStart rockchip) files) : (copied p).1 = p.1 :=
  Nat.div_mul_cancel (dvd_placed h)

theorem length_copied : (copied p).2.length = p.2.size / 4096 * 4096 := by
  rw [copied, List.length_take]
  exact Nat.min_eq_left (Nat.div_mul_le_self p.2.size 4096)

/-- In sectors, the partitions are in order. -/
theorem pairwise_sectorRange (rockchip : Bool) (files : List ImageFile) :
    ((placed (partStart rockchip) files).map sectorRange).Pairwise fun r t => r.2 < t.1 := by
  rw [List.pairwise_map]
  apply (pairwise_layout align_pos _ files).imp_of_mem
  intro p q _ hq hend
  have hdvd : 4096 ∣ q.1 := dvd_placed hq
  have hsize : 0 < p.2.size := p.2.size_pos
  simp only [sectorRange]
  omega

/-- The range of a partition has a sector, starts at the offset, and covers the file. -/
theorem sectorRange_spec (h : p ∈ placed (partStart rockchip) files) :
    512 * (sectorRange p).1 = p.1 ∧ (sectorRange p).1 ≤ (sectorRange p).2 ∧
      p.1 + p.2.size ≤ 512 * ((sectorRange p).2 + 1) := by
  have hdvd : 4096 ∣ p.1 := dvd_placed h
  have hsize : 0 < p.2.size := p.2.size_pos
  simp only [sectorRange]
  omega

end Placed

section Intact

variable {sgdisk : Sgdisk} {s : GenSdImg} {rockchip : Bool} {bytes : Nat → UInt8}
  {files : List ImageFile} {p : Nat × ImageFile} {j : Nat} {b : UInt8}

theorem usable_of_placed (hadded : PartsAdded sgdisk (startOf rockchip bytes) files s)
    (hp : p ∈ placed (partStart rockchip) files) (hj : p.2.bytes[j]? = some b) :
    sgdisk.Usable (p.1 + j) := by
  have hsize : j < p.2.size := (List.getElem?_eq_some_iff.mp hj).1
  have hlast := hadded.usable p hp
  have hcovers := (sectorRange_spec hp).2.2
  exact ⟨(firstUsable_le_placed hp).trans (Nat.le_add_right _ _), by omega⟩

/-- What `dd` has copied is in the partition. -/
theorem bytes_of_copied (hadded : PartsAdded sgdisk (startOf rockchip bytes) files s)
    (hp : p ∈ placed (partStart rockchip) files) (hj : p.2.bytes[j]? = some b)
    (hcopied : j < p.2.size / 4096 * 4096) : s.img.bytes (p.1 + j) = b := by
  rw [hadded.bytes _ (usable_of_placed hadded hp hj), ← copied_fst hp]
  have hdisjoint : ((placed (partStart rockchip) files).map copied).Pairwise
      fun v w => v.1 + v.2.length ≤ w.1 := by
    rw [List.pairwise_map]
    apply (pairwise_layout align_pos _ files).imp_of_mem
    intro q r hq hr hend
    have hwhole : q.2.size / 4096 * 4096 ≤ q.2.size := Nat.div_mul_le_self _ _
    rw [copied_fst hq, copied_fst hr, length_copied]
    omega
  apply writeAll_inside hdisjoint (List.mem_map_of_mem hp)
  rw [List.getElem?_take_of_lt hcopied, hj]

/-- Behind the last whole block of the file, the partition has what the image had there. -/
theorem bytes_of_not_copied (hadded : PartsAdded sgdisk (startOf rockchip bytes) files s)
    (hp : p ∈ placed (partStart rockchip) files) (hj : p.2.bytes[j]? = some b)
    (hcopied : p.2.size / 4096 * 4096 ≤ j) : s.img.bytes (p.1 + j) = bytes (p.1 + j) := by
  rw [hadded.bytes _ (usable_of_placed hadded hp hj)]
  apply writeAll_outside
  intro w hw
  obtain ⟨q, hq, rfl⟩ := List.mem_map.mp hw
  have hsize : j < p.2.size := (List.getElem?_eq_some_iff.mp hj).1
  have hwhole : q.2.size / 4096 * 4096 ≤ q.2.size := Nat.div_mul_le_self _ _
  rw [copied_fst hq, length_copied]
  -- the write of the partition itself ends here, those of the others are elsewhere
  rcases layout_disjoint align_pos hp hq with rfl | hbefore | hafter
  · exact .inr (Nat.add_le_add_left hcopied _)
  · exact .inl (by omega)
  · exact .inr (by omega)

/-- The entries of the table. -/
theorem table_ranges (hadded : PartsAdded sgdisk (startOf rockchip bytes) files s) :
    s.img.table.map (fun p => (p.first, p.last)) =
      (placed (partStart rockchip) files).map sectorRange :=
  hadded.table

theorem table_ordered (hadded : PartsAdded sgdisk (startOf rockchip bytes) files s) :
    s.img.table.Pairwise fun p q => p.last < q.first := by
  have hranges := pairwise_sectorRange rockchip files
  rw [← table_ranges hadded, List.pairwise_map] at hranges
  exact hranges

theorem table_sectors (hadded : PartsAdded sgdisk (startOf rockchip bytes) files s) :
    ∀ p ∈ s.img.table, p.first ≤ p.last := by
  intro p hp
  have hrange : (p.first, p.last) ∈ (placed (partStart rockchip) files).map sectorRange := by
    rw [← table_ranges hadded]
    exact List.mem_map_of_mem hp
  obtain ⟨q, hq, hpq⟩ := List.mem_map.mp hrange
  have hle := (sectorRange_spec hq).2.1
  rwa [hpq] at hle

theorem table_start (hadded : PartsAdded sgdisk (startOf rockchip bytes) files s) :
    s.img.table.map (fun p => 512 * p.first) = s.seeks := by
  have hseeks : s.seeks = (placed (partStart rockchip) files).map fun p => (copied p).1 :=
    hadded.seeks
  have hstart : s.img.table.map (fun p => 512 * p.first) =
      (s.img.table.map fun p => (p.first, p.last)).map fun r => 512 * r.1 := by
    rw [List.map_map]
    rfl
  rw [hstart, table_ranges hadded, hseeks, List.map_map]
  apply List.map_congr_left
  intro p hp
  rw [Function.comp_apply, (sectorRange_spec hp).1, copied_fst hp]

/-- The files of the partitions are the files at their offsets. -/
theorem forall₂_table (hadded : PartsAdded sgdisk (startOf rockchip bytes) files s)
    (R : Nat × Nat → ImageFile → Prop) :
    List.Forall₂ (fun p f => R (p.first, p.last) f) s.img.table files ↔
      ∀ p ∈ placed (partStart rockchip) files, R (sectorRange p) p.2 := by
  have hfiles : (placed (partStart rockchip) files).map Prod.snd = files := map_snd_layout
  have hplaced : List.Forall₂ R ((placed (partStart rockchip) files).map sectorRange)
      ((placed (partStart rockchip) files).map Prod.snd) ↔
        ∀ p ∈ placed (partStart rockchip) files, R (sectorRange p) p.2 := by
    rw [List.forall₂_map_left_iff, List.forall₂_map_right_iff, List.forall₂_same]
  rw [hfiles, ← table_ranges hadded, List.forall₂_map_left_iff] at hplaced
  exact hplaced

theorem table_covers (hadded : PartsAdded sgdisk (startOf rockchip bytes) files s) :
    List.Forall₂ (fun p f => 512 * p.first + f.size ≤ 512 * (p.last + 1)) s.img.table files := by
  apply (forall₂_table hadded fun r f => 512 * r.1 + f.size ≤ 512 * (r.2 + 1)).mpr
  intro p hp
  rw [(sectorRange_spec hp).1]
  exact (sectorRange_spec hp).2.2

theorem table_bytes_iff (hadded : PartsAdded sgdisk (startOf rockchip bytes) files s) :
    List.Forall₂ (fun p f => ∀ (j : Nat) (b : UInt8), f.bytes[j]? = some b →
        s.img.bytes (512 * p.first + j) = b) s.img.table files ↔
      TailsThere (partStart rockchip) bytes files := by
  have htable := forall₂_table hadded fun r f => ∀ (j : Nat) (b : UInt8),
    f.bytes[j]? = some b → s.img.bytes (512 * r.1 + j) = b
  rw [htable]
  constructor
  · intro h p hp j b hbehind hj
    rw [← bytes_of_not_copied hadded hp hj hbehind, ← h p hp j b hj, (sectorRange_spec hp).1]
  · intro h p hp j b hj
    rw [(sectorRange_spec hp).1]
    by_cases hcopied : j < p.2.size / 4096 * 4096
    · exact bytes_of_copied hadded hp hj hcopied
    · have hbehind := Nat.le_of_not_lt hcopied
      rw [bytes_of_not_copied hadded hp hj hbehind]
      exact h p hp j b hbehind hj

end Intact

/-- **When the partitions are intact**: they are in order, start where `dd` writes and cover their
files in every run; and they have the bytes of their files exactly if the image had already what is
behind the last whole block of each file. -/
theorem intact_iff_tailsThere {sgdisk : Sgdisk} (hlaw : sgdisk.Lawful) {rockchip : Bool}
    {bytes : Nat → UInt8} {files : List ImageFile} {s : GenSdImg}
    (hrun : addParts sgdisk (startOf rockchip bytes) files = some s) :
    Intact s files ↔ TailsThere (partStart rockchip) bytes files := by
  have hadded := addParts_added hlaw hrun
  rw [← table_bytes_iff hadded]
  exact ⟨fun h => h.bytes, fun h =>
    ⟨table_ordered hadded, table_sectors hadded, table_start hadded, table_covers hadded, h⟩⟩

/-- Files of whole blocks have nothing behind the last one. -/
theorem tailsThere_of_blocks {start : Nat} {bytes : Nat → UInt8} {files : List ImageFile}
    (h : ∀ f ∈ files, 4096 ∣ f.size) : TailsThere start bytes files := by
  intro p hp j b hbehind hj
  have hfile : p.2 ∈ files := by
    have hmem : p.2 ∈ (placed start files).map Prod.snd := List.mem_map_of_mem hp
    rwa [placed, map_snd_layout] at hmem
  rw [Nat.div_mul_cancel (h p.2 hfile)] at hbehind
  exact absurd (List.getElem?_eq_some_iff.mp hj).1 (Nat.not_lt_of_le hbehind)

/-! ## An image of 64 MiB -/

/-- "EFI PART", the mark of a partition table. -/
def signature : List UInt8 := [69, 70, 73, 32, 80, 65, 82, 84]

/-- `sgdisk` on an image with this last usable sector. It enters a partition in free sectors, and
marks the two copies of the table, before and behind the usable sectors. The largest free part is
taken to be the one behind the last partition. -/
def gptSgdisk (lastUsable : Nat) : Sgdisk :=
  let new (number first last : Nat) (name : String) (img : DiskImage) : Option DiskImage :=
    if firstUsable ≤ first ∧ first ≤ last ∧ last ≤ lastUsable ∧
        ∀ p ∈ img.table, p.last < first ∨ last < p.first then
      some {
        table := img.table ++ [⟨number, first, last, name⟩]
        bytes := writeAt (writeAt img.bytes 512 signature) (512 * (lastUsable + 1)) signature }
    else none
  { lastUsable
    new
    largestNew := fun number name img =>
      new number (img.table.foldl (fun n p => max n (p.last + 1)) firstUsable) lastUsable name img }

theorem gptSgdisk_lawful (lastUsable : Nat) : (gptSgdisk lastUsable).Lawful where
  table := by
    intro number first last name img img' h
    simp only [gptSgdisk] at h
    split_ifs at h
    obtain rfl := Option.some.inj h
    rfl
  usable := by
    intro number first last name img img' h
    simp only [gptSgdisk] at h
    split_ifs at h with hfree
    exact hfree.2.2.1
  bytes := by
    intro number first last name img img' i h hi
    simp only [gptSgdisk] at h
    split_ifs at h
    obtain rfl := Option.some.inj h
    obtain ⟨hfirst, hlast⟩ := hi
    -- between the table at the front and its copy at the end
    have hbackup : i < 512 * (lastUsable + 1) := hlast
    have hprimary : 512 + signature.length ≤ i := le_trans (by decide) hfirst
    exact (writeAt_outside (.inl hbackup)).trans (writeAt_outside (.inr hprimary))

/-- A file of one byte. -/
def oneByte : ImageFile := ⟨"env", [1], by decide⟩

theorem intact_iff_tailsThere_twoFiles :
    ∃ s, addParts (gptSgdisk 131038) (startOf true fun _ => 0) [oneByte, oneByte] = some s ∧
      (Intact s [oneByte, oneByte] ↔
        TailsThere (partStart true) (fun _ => 0) [oneByte, oneByte]) := by
  refine ⟨_, rfl, ?_⟩
  exact intact_iff_tailsThere (gptSgdisk_lawful 131038) rfl

/-- The file has less than a block: nothing of it is copied. -/
theorem oneByte_notIntact :
    ∃ s, addParts (gptSgdisk 131038) (startOf false fun _ => 0) [oneByte] = some s ∧
      ¬ Intact s [oneByte] := by
  have hrun : ∃ s, addParts (gptSgdisk 131038) (startOf false fun _ => 0) [oneByte] = some s :=
    ⟨_, rfl⟩
  obtain ⟨s, hs⟩ := hrun
  refine ⟨s, hs, fun hintact => ?_⟩
  have hadded := addParts_added (gptSgdisk_lawful 131038) hs
  have htails := (table_bytes_iff hadded).mp hintact.bytes
  have hzero : (0 : UInt8) = 1 :=
    htails (partStart false, oneByte) List.mem_cons_self 0 1 (Nat.le_refl 0) rfl
  cases hzero

end GloDroid.SdImage

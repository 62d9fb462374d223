import GloDroid.BootScript.Frames

/-!
# The Images in Memory

`bootcmd_block` looks up the partitions of the slot and reads them whole to three addresses, the
boot image first and the overlays last. The addresses are 32 MiB and 48 MiB apart, but the boot
partition may be larger: what of it lies beyond is overwritten by the two others. Overlays of more
than 16 MiB overwrite the beginning of the vendor boot image in turn. `ImagesPlaced` says which
bytes of the storage are in memory when `bootcmd_start` begins, and `boot_imagesPlaced` proves it
for every run that starts the kernel and in which no command of the storage failed.
-/

namespace GloDroid.BootScript

open GloDroid.Base

/-! ## Reads -/

section Reads

variable {addr start size a : Nat} {memory : Nat → Option Nat}

theorem readBlocks_inside (hlow : addr ≤ a) (hhigh : a < addr + mmcBlock * size) :
    BootCommand.readBlocks addr start size memory a = some (mmcBlock * start + (a - addr)) :=
  if_pos ⟨hlow, hhigh⟩

theorem readBlocks_outside (h : a < addr ∨ addr + mmcBlock * size ≤ a) :
    BootCommand.readBlocks addr start size memory a = memory a := by
  apply if_neg
  omega

end Reads

/-! ## The partitions of the slot -/

/-- The commands that find and read the images. The partition `misc` is looked up only to see
whether there are partitions. -/
def imageCommand : BootCommand → Bool
  | .part _ _ v => v ≠ .miscStart
  | .mmcDev _ | .mmcRead _ _ _ => true
  | _ => false

/-- The partition is in the table, and the variables have its start and size. -/
def Found (name : String) (start size : Var) (vars : Var → String) (table : PartTable)
    (part : Nat × Nat) : Prop :=
  table (name ++ vars .slotName) = some part ∧ vars start = hexText part.1 ∧
    vars size = hexText part.2

section Functions

variable {b : Build} {P : (Var → String) → PartTable → (Nat → Option Nat) → Prop}

/-- A command that failed is remembered. -/
theorem any_finish {c : BootCommand} {f : BootCommand → Bool} (hc : f c = true) (s : Boot) :
    (c.finish false s).failed.any f = true := by
  simp [hc]

/-- Nothing is promised of a script that stops. -/
abbrev Ends (P : Boot → Prop) (script : UbootScript) (Q : Boot → Prop) : Prop :=
  Runs P script (fun _ => Q) fun _ _ => True

/-- `part start` and `part size` find the partition, or one of them fails. -/
theorem findPartition_ends {name : String} {start size : Var} (hsize : size ≠ start)
    (hslot : .slotName ≠ start ∧ .slotName ≠ size)
    (hmisc : start ≠ .miscStart ∧ size ≠ .miscStart) :
    Ends (fun _ => True) (findPartition name start size)
      fun s => s.failed.any imageCommand = true ∨
        ∃ part, Found name start size s.vars s.table part := by
  have hcommand : ∀ field v, v ≠ .miscStart →
      imageCommand (.part field [.text name, .var .slotName] v) = true := by
    intro field v hv
    simpa [imageCommand] using hv
  apply Script.Triple.chainCons (M := fun ok s =>
    if ok then ∃ part : Nat × Nat, s.table (name ++ s.vars .slotName) = some part ∧
      s.vars start = hexText part.1
    else s.failed.any imageCommand = true)
  · refine Runs.command (fun _ _ => trivial) fun s _ => ?_
    simp only [BootCommand.effect, BootCommand.runPart, Boot.expand_text, Boot.expand_var,
      Boot.expand_nil, String.append_empty]
    split
    · rename_i first count htable
      split
      · refine ⟨(first, count), ?_, by simp⟩
        simpa [Function.update_of_ne hslot.1] using htable
      · exact any_finish (hcommand _ _ hmisc.1) s
    · exact any_finish (hcommand _ _ hmisc.1) s
  · refine Runs.command (fun _ _ => trivial) fun s hs => ?_
    obtain ⟨part, htable, hstart⟩ := hs
    simp only [BootCommand.effect, BootCommand.runPart, Boot.expand_text, Boot.expand_var,
      Boot.expand_nil, String.append_empty, htable]
    split
    · refine Or.inr ⟨part, ?_, ?_, by simp⟩
      · simpa [Function.update_of_ne hslot.2] using htable
      · simpa [Function.update_of_ne hsize.symm] using hstart
    · exact Or.inl (any_finish (hcommand _ _ hmisc.2) s)
  · exact fun s hs => Or.inl hs

/-- The three partitions of the slot. -/
structure AllFound (vars : Var → String) (table : PartTable) (boot vendorBoot dtbo : Nat × Nat) :
    Prop where
  boot : Found "boot_" .bootStart .bootSize vars table boot
  vendorBoot : Found "vendor_boot_" .vendorBootStart .vendorBootSize vars table vendorBoot
  dtbo : Found "dtbo_" .dtboStart .dtboSize vars table dtbo

theorem Found.kept {name : String} {start size : Var} {part : Nat × Nat} {s s' : Boot}
    (h : Found name start size s.vars s.table part)
    (hkept : Kept [.table, .var .slotName, .var start, .var size] s s') :
    Found name start size s'.vars s'.table part := by
  have htable : s'.table = s.table := hkept .table List.mem_cons_self
  rwa [Found, htable, hkept.var (v := .slotName) (by simp), hkept.var (v := start) (by simp),
    hkept.var (v := size) (by simp)]

/-- The next partition, while the first ones stay found. -/
theorem Ends.andFound {P Q : Boot → Prop} {script : UbootScript} (ps : List Place)
    (hkeeps : Keeps ps script = true) (hP : ∀ s s', Kept ps s s' → P s → P s')
    (h : Ends (fun _ => True) script fun s => s.failed.any imageCommand = true ∨ Q s) :
    Ends (fun s => s.failed.any imageCommand = true ∨ P s) script
      fun s => s.failed.any imageCommand = true ∨ P s ∧ Q s := by
  -- two facts about the same run: nothing was lost, and the next partition was found
  have hkeep := Runs.frameUnless (f := imageCommand) ps hkeeps hP
  have hfind : Ends (fun s => s.failed.any imageCommand = true ∨ P s) script
      fun s => s.failed.any imageCommand = true ∨ Q s :=
    Script.Triple.mono h (fun _ _ => trivial) (fun _ _ h => h) fun _ _ h => h
  refine Script.Triple.mono (hkeep.and hfind) (fun _ hs => hs) (fun _ s hs => ?_)
    fun _ _ _ => trivial
  exact hs.1.elim Or.inl fun hP => hs.2.imp_right fun hQ => ⟨hP, hQ⟩

/-- A partition is found, whichever it is. -/
def FoundAt (name : String) (start size : Var) (s : Boot) : Prop :=
  ∃ part, Found name start size s.vars s.table part

/-- The three partitions are found. -/
def SlotFound (vars : Var → String) (table : PartTable) : Prop :=
  ∃ boot vendorBoot dtbo, AllFound vars table boot vendorBoot dtbo

theorem findPartitions_ends :
    Ends (fun _ => True) findPartitions
      fun s => s.failed.any imageCommand = true ∨ SlotFound s.vars s.table := by
  apply Script.Triple.blockCons (M := fun _ s => s.failed.any imageCommand = true ∨
    FoundAt "boot_" .bootStart .bootSize s)
  · exact findPartition_ends (by decide) (by decide) (by decide)
  intro _
  apply Script.Triple.blockCons (M := fun _ s => s.failed.any imageCommand = true ∨
    FoundAt "boot_" .bootStart .bootSize s ∧
      FoundAt "vendor_boot_" .vendorBootStart .vendorBootSize s)
  · apply Ends.andFound [.table, .var .slotName, .var .bootStart, .var .bootSize] rfl
    · exact fun s s' hkept hs => hs.imp fun part hpart => hpart.kept hkept
    · exact findPartition_ends (by decide) (by decide) (by decide)
  intro _
  have hdtbo := Ends.andFound (Q := FoundAt "dtbo_" .dtboStart .dtboSize)
    (P := fun s => FoundAt "boot_" .bootStart .bootSize s ∧
      FoundAt "vendor_boot_" .vendorBootStart .vendorBootSize s)
    [ .table, .var .slotName, .var .bootStart, .var .bootSize, .var .vendorBootStart,
      .var .vendorBootSize ] rfl
    (fun s s' hkept hs =>
      ⟨hs.1.imp fun part hpart => hpart.kept (hkept.mono (by decide)),
        hs.2.imp fun part hpart => hpart.kept (hkept.mono (by decide))⟩)
    (findPartition_ends (by decide) (by decide) (by decide))
  refine Script.Triple.mono hdtbo (fun _ hs => hs) (fun _ s hs => hs.imp_right ?_) fun _ _ h => h
  rintro ⟨⟨⟨boot, hboot⟩, vendorBoot, hvendorBoot⟩, dtbo, hdtbo⟩
  exact ⟨boot, vendorBoot, dtbo, hboot, hvendorBoot, hdtbo⟩

/-! ## Reading them -/

/-- A read changes the memory, or fails. -/
theorem mmcRead_ends {addr start size : Var} :
    Ends (fun s => s.failed.any imageCommand = true ∨ P s.vars s.table s.memory)
      (.command (.mmcRead [.var addr] [.var start] [.var size]))
      fun s => s.failed.any imageCommand = true ∨ ∃ memory, P s.vars s.table memory ∧
        s.memory = BootCommand.readBlocks (hexNat (s.vars addr)) (hexNat (s.vars start))
          (hexNat (s.vars size)) memory := by
  refine Runs.command (fun _ _ => trivial) fun s hs => ?_
  simp only [BootCommand.effect, BootCommand.runMmcRead, Boot.expand_var, Boot.expand_nil,
    String.append_empty]
  split
  · exact hs.imp_right fun hP => ⟨s.memory, hP, rfl⟩
  · exact Or.inl (any_finish rfl s.touch)

/-- The memory after the first read, and after the second one. -/
def BootRead (vars : Var → String) (table : PartTable) (memory' : Nat → Option Nat) : Prop :=
  ∃ memory, SlotFound vars table ∧
    memory' = BootCommand.readBlocks (hexNat (vars .loadaddr)) (hexNat (vars .bootStart))
      (hexNat (vars .bootSize)) memory

def VendorBootRead (vars : Var → String) (table : PartTable) (memory' : Nat → Option Nat) : Prop :=
  ∃ memory, BootRead vars table memory ∧
    memory' = BootCommand.readBlocks (hexNat (vars .vloadaddr)) (hexNat (vars .vendorBootStart))
      (hexNat (vars .vendorBootSize)) memory

/-- The partitions are found and read, in this order. -/
def AllRead (s : Boot) : Prop :=
  ∃ boot vendorBoot dtbo memory, AllFound s.vars s.table boot vendorBoot dtbo ∧ s.memory =
    BootCommand.readBlocks (hexNat (s.vars .dtboaddr)) dtbo.1 dtbo.2
      (BootCommand.readBlocks (hexNat (s.vars .vloadaddr)) vendorBoot.1 vendorBoot.2
        (BootCommand.readBlocks (hexNat (s.vars .loadaddr)) boot.1 boot.2 memory))

theorem readImages_ends :
    Ends (fun s => s.failed.any imageCommand = true ∨ SlotFound s.vars s.table) readImages
      fun s => s.failed.any imageCommand = true ∨ AllRead s := by
  apply Script.Triple.blockCons (M := fun _ s => s.failed.any imageCommand = true ∨
    BootRead s.vars s.table s.memory)
  · apply Script.Triple.chainCons (M := fun ok s => s.failed.any imageCommand = true ∨
      ok = true ∧ SlotFound s.vars s.table)
    · refine Runs.command (fun _ _ => trivial) fun s hs => ?_
      simp only [BootCommand.effect]
      -- the device is switched first, and a failure of that is remembered
      cases hok : s.answer.ok with
      | true => exact hs.imp_right fun hfound => ⟨rfl, hfound⟩
      | false => exact Or.inl (any_finish rfl s)
    · exact Script.Triple.mono (mmcRead_ends (P := fun vars table _ => SlotFound vars table))
        (fun s hs => hs.imp_right And.right) (fun _ _ h => h) fun _ _ h => h
    · exact fun s hs => Or.inl (hs.resolve_right fun h => absurd h.1 Bool.false_ne_true)
  intro _
  apply Script.Triple.blockCons (M := fun _ s => s.failed.any imageCommand = true ∨
    VendorBootRead s.vars s.table s.memory)
  · exact mmcRead_ends
  intro _
  refine Script.Triple.mono (mmcRead_ends (P := VendorBootRead)) (fun _ hs => hs)
    (fun _ s hs => hs.imp_right ?_) fun _ _ h => h
  rintro ⟨memory₂, ⟨memory₁, ⟨memory, ⟨boot, vendorBoot, dtbo, hfound⟩, h₁⟩, h₂⟩, h₃⟩
  refine ⟨boot, vendorBoot, dtbo, memory, hfound, ?_⟩
  -- the numbers were written as hexadecimal texts and are read back
  rw [h₃, h₂, h₁, hfound.boot.2.1, hfound.boot.2.2, hfound.vendorBoot.2.1, hfound.vendorBoot.2.2,
    hfound.dtbo.2.1, hfound.dtbo.2.2]
  simp only [hexNat_hexText]

/-! ## The addresses -/

/-- The variables have the addresses of the platform. -/
def AddressesSet (b : Build) (s : Boot) : Prop :=
  s.vars .loadaddr = b.platform.addresses.2.1 ∧ s.vars .vloadaddr = b.platform.addresses.2.2.1 ∧
    s.vars .dtboaddr = b.platform.addresses.2.2.2

def addressPlaces : List Place := [.var .loadaddr, .var .vloadaddr, .var .dtboaddr]

theorem AddressesSet.kept {s s' : Boot} (h : AddressesSet b s) (hkept : Kept addressPlaces s s') :
    AddressesSet b s' := by
  rwa [AddressesSet, hkept.var (v := .loadaddr) (by decide),
    hkept.var (v := .vloadaddr) (by decide),
    hkept.var (v := .dtboaddr) (by decide)]

theorem AddressesSet.frame {script : UbootScript} (h : Keeps addressPlaces script = true) :
    Ends (AddressesSet b) script (AddressesSet b) :=
  Runs.frame addressPlaces h (fun _ _ hkept hs => hs.kept hkept) fun _ _ _ => trivial

/-- The addresses stay while something else is established. -/
theorem AddressesSet.and {P Q : Boot → Prop} {script : UbootScript} (h : Ends P script Q)
    (hkeeps : Keeps addressPlaces script = true) :
    Ends (fun s => AddressesSet b s ∧ P s) script (fun s => AddressesSet b s ∧ Q s) := by
  intro s hs
  have hend := (AddressesSet.frame (b := b) hkeeps) s hs.1
  have hend' := h s hs.2
  -- one run, with the two facts about its end
  cases hexec : script.exec BootCommand.run s with
  | status ok s' =>
    rw [hexec] at hend hend'
    exact ⟨hend, hend'⟩
  | stopped why s' => trivial

theorem settings_ends : Ends (fun _ => True) (settings b) (AddressesSet b) := by
  have hany : ∀ s : Boot, True → True := fun _ _ => trivial
  apply Script.Triple.blockCons (M := fun _ _ => True)
  · exact Runs.setText hany fun _ _ => trivial
  intro _
  apply Script.Triple.blockCons (M := fun _ s => s.vars .loadaddr = b.platform.addresses.2.1)
  · exact Runs.setText hany fun s _ => by simp
  intro _
  apply Script.Triple.blockCons (M := fun _ s => s.vars .loadaddr = b.platform.addresses.2.1 ∧
    s.vars .vloadaddr = b.platform.addresses.2.2.1)
  · exact Runs.setText (fun _ _ => trivial) fun s hs => by simpa using hs
  intro _
  apply Script.Triple.blockCons (M := fun _ => AddressesSet b)
  · exact Runs.setText (fun _ _ => trivial) fun s hs => by simpa [AddressesSet] using hs
  intro _
  apply AddressesSet.frame
  obtain ⟨platform, device, mmc0, mmc1⟩ := b
  cases platform <;> rfl

/-! ## Before `bootcmd_start` -/

/-- The script up to `bootcmd_start`. -/
def beforeStart (b : Build) : UbootScript :=
  .block [settings b, bootargsSettings, bootcmdPrepareEnv b, bootcmdBlock b]

/-- The rest of the script. -/
def fromStart (b : Build) : UbootScript := .block [bootcmdStart b, .command .reset]

theorem boot_eq (s : Boot) : boot b s = ((beforeStart b).exec BootCommand.run s).bind
    fun _ s => (fromStart b).exec BootCommand.run s := by
  simp only [boot, bootscript, beforeStart, fromStart, bootcmd, Script.block, Script.exec,
    ScriptEnd.bind_assoc]

theorem beforeStart_ends :
    Ends (fun _ => True) (beforeStart b)
      fun s => AddressesSet b s ∧ (s.failed.any imageCommand = true ∨ AllRead s) := by
  apply Script.Triple.blockCons settings_ends
  intro _
  apply Script.Triple.blockCons (AddressesSet.frame rfl)
  intro _
  apply Script.Triple.blockCons (AddressesSet.frame rfl)
  intro _
  apply Script.Triple.blockCons (M := fun _ => AddressesSet b)
  · apply AddressesSet.frame
    obtain ⟨platform, device, mmc0, mmc1⟩ := b
    cases platform <;> cases device <;> rfl
  intro _
  apply Script.Triple.blockCons (M := fun _ => AddressesSet b)
  · apply AddressesSet.frame
    obtain ⟨platform, device, mmc0, mmc1⟩ := b
    cases platform <;> rfl
  intro _
  apply Script.Triple.blockCons (AddressesSet.frame rfl)
  intro _
  apply Script.Triple.blockCons (M := fun _ s => AddressesSet b s ∧
    (s.failed.any imageCommand = true ∨ SlotFound s.vars s.table))
  · exact Script.Triple.mono (AddressesSet.and findPartitions_ends rfl) (fun _ hs => ⟨hs, trivial⟩)
      (fun _ _ h => h) fun _ _ h => h
  intro _
  exact AddressesSet.and readImages_ends rfl

end Functions

/-! ## What is in memory -/

/-- What of the partitions is in memory, from the address of the boot image on: its first 32 MiB,
the vendor boot image at 48 MiB where the overlays do not reach it, so the whole image if they have
at most 16 MiB, and the overlays at 32 MiB. The rest of a larger boot partition is not, as far as
the two others reach. -/
structure ImagesPlaced (load : Nat) (memory : Nat → Option Nat) (boot vendorBoot dtbo : Nat × Nat) :
    Prop where
  boot : ∀ i < mmcBlock * boot.2, i < 0x2000000 →
    memory (load + i) = some (mmcBlock * boot.1 + i)
  vendorBoot : ∀ i < mmcBlock * vendorBoot.2, mmcBlock * dtbo.2 ≤ 0x1000000 + i →
    memory (load + 0x3000000 + i) = some (mmcBlock * vendorBoot.1 + i)
  dtbo : ∀ i < mmcBlock * dtbo.2, memory (load + 0x2000000 + i) = some (mmcBlock * dtbo.1 + i)

/-- The overlays are read last, so they are whole, and only the vendor boot image may lose its
beginning to them. -/
theorem imagesPlaced_of_read {load : Nat} {boot vendorBoot dtbo : Nat × Nat}
    {memory : Nat → Option Nat} :
    ImagesPlaced load
      (BootCommand.readBlocks (load + 0x2000000) dtbo.1 dtbo.2
        (BootCommand.readBlocks (load + 0x3000000) vendorBoot.1 vendorBoot.2
          (BootCommand.readBlocks load boot.1 boot.2 memory))) boot vendorBoot dtbo := by
  constructor
  · -- the two later reads begin behind the first 32 MiB
    intro i hi hlow
    rw [readBlocks_outside (.inl (by omega)), readBlocks_outside (.inl (by omega)),
      readBlocks_inside (by omega) (by omega), Nat.add_sub_cancel_left]
  · -- the overlays end before this byte
    intro i hi hbehind
    rw [readBlocks_outside (.inr (by omega)), readBlocks_inside (by omega) (by omega),
      Nat.add_sub_cancel_left]
  · intro i hi
    rw [readBlocks_inside (by omega) (by omega), Nat.add_sub_cancel_left]

/-- The distances are the same on all platforms. -/
theorem addresses_distance (platform : Platform) :
    hexNat platform.addresses.2.2.2 = hexNat platform.addresses.2.1 + 0x2000000 ∧
      hexNat platform.addresses.2.2.1 = hexNat platform.addresses.2.1 + 0x3000000 := by
  cases platform with
  | broadcom => decide
  | sunxi => decide
  | rockchip => decide

/-- **The images of the slot are in memory** when `bootcmd_start` begins, in every run that starts
the kernel and in which no command of the storage failed before. -/
theorem boot_imagesPlaced {b : Build} {s s' : Boot} (h : boot b s = .stopped .kernel s') :
    ∃ ok s₁, (beforeStart b).exec BootCommand.run s = .status ok s₁ ∧
      (fromStart b).exec BootCommand.run s₁ = .stopped .kernel s' ∧
      (s₁.failed.any imageCommand = true ∨ ∃ boot vendorBoot dtbo,
        s₁.table ("boot_" ++ s₁.vars .slotName) = some boot ∧
        s₁.table ("vendor_boot_" ++ s₁.vars .slotName) = some vendorBoot ∧
        s₁.table ("dtbo_" ++ s₁.vars .slotName) = some dtbo ∧
        ImagesPlaced (hexNat b.platform.addresses.2.1) s₁.memory boot vendorBoot dtbo) := by
  have hends := beforeStart_ends (b := b) s trivial
  have hkernel :
      Runs (fun _ => True) (beforeStart b) (fun _ _ => True) (AtKernel fun _ => False) := by
    apply Runs.startsNothing
    obtain ⟨platform, device, mmc0, mmc1⟩ := b
    cases platform <;> cases device <;> rfl
  have hstop := hkernel s trivial
  rw [boot_eq] at h
  cases hbefore : (beforeStart b).exec BootCommand.run s with
  | stopped why s₁ =>
    rw [hbefore] at h hstop
    obtain ⟨rfl, rfl⟩ := ScriptEnd.stopped.inj h
    exact (hstop rfl).elim
  | status ok s₁ =>
    rw [hbefore] at h hends
    refine ⟨ok, s₁, rfl, h, hends.2.imp_right ?_⟩
    rintro ⟨boot, vendorBoot, dtbo, memory, hfound, hmemory⟩
    refine ⟨boot, vendorBoot, dtbo, hfound.boot.1, hfound.vendorBoot.1, hfound.dtbo.1, ?_⟩
    obtain ⟨hload, hvload, hdtboaddr⟩ := hends.1
    obtain ⟨hdtbo, hvendor⟩ := addresses_distance b.platform
    rw [hload, hvload, hdtboaddr, hdtbo, hvendor] at hmemory
    rw [hmemory]
    exact imagesPlaced_of_read

/-- The partitions have the sizes of `partitions`. -/
theorem boot_imagesPlaced_slotA :
    ImagesPlaced 0x50008000 ((beforeStart pinephone).exec BootCommand.run slotA).state.memory
      (262400, 131072) (524544, 65536) (655616, 16384) := by
  have hkernel : (boot pinephone slotA).why? = some .kernel := by decide
  obtain ⟨ok, s₁, hbefore, -, hplaced⟩ := boot_imagesPlaced (ScriptEnd.eq_stopped hkernel)
  have hstate : ((beforeStart pinephone).exec BootCommand.run slotA).state = s₁ := by
    rw [hbefore, ScriptEnd.state]
  have hfailed : ((beforeStart pinephone).exec BootCommand.run slotA).state.failed.any
      imageCommand = false := by decide
  have htable : ∀ part ∈ [("boot_", (262400, 131072)), ("vendor_boot_", (524544, 65536)),
        ("dtbo_", (655616, 16384))],
      ((beforeStart pinephone).exec BootCommand.run slotA).state.table
        (part.1 ++ ((beforeStart pinephone).exec BootCommand.run slotA).state.vars .slotName) =
          some part.2 := by decide
  rw [hstate] at hfailed htable ⊢
  rw [hfailed] at hplaced
  obtain ⟨boot, vendorBoot, dtbo, hboot, hvendorBoot, hdtbo, hplaced⟩ :=
    hplaced.resolve_left Bool.false_ne_true
  obtain rfl := Option.some.inj (hboot.symm.trans (htable ("boot_", (262400, 131072)) (by simp)))
  obtain rfl := Option.some.inj
    (hvendorBoot.symm.trans (htable ("vendor_boot_", (524544, 65536)) (by simp)))
  obtain rfl := Option.some.inj (hdtbo.symm.trans (htable ("dtbo_", (655616, 16384)) (by simp)))
  exact hplaced

end GloDroid.BootScript

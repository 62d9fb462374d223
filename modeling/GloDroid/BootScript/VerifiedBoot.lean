import GloDroid.BootScript.Frames

/-!
# What the Kernel Is Started With

The kernel is started in one of two ways: for recovery, unlocked and not verified, or for the slot
that `avb verify` has verified. `KernelArgs` states it with the whole text of `bootargs`, and
`boot_kernelArgs` proves it for every run of the script: each function of the script appends its
part (`Runs` lemmas below), and what runs between them leaves the variables alone.
-/

namespace GloDroid.BootScript

open GloDroid.Base

/-! ## The arguments -/

section Args

variable (vars : Var → String)

def initArgs : String :=
  " init=/init rootwait ro androidboot.boottime=223.708 androidboot.selinux=permissive"

def serialArgs : String :=
  initArgs ++ " androidboot.revision=1.0 androidboot.board_id=0x1234567 androidboot.serialno=" ++
    vars .serial

def firmwareArgs : String := serialArgs vars ++ " firmware_class.path=/vendor/etc/firmware"

/-- The arguments that do not depend on the slot. -/
def settledArgs : String :=
  firmwareArgs vars ++ " " ++ vars .debugBootargs ++ " printk.devkmsg=on"

def deviceArgs : String :=
  settledArgs vars ++ " androidboot.boot_devices=" ++ vars .bootdevicePath

def slotArgs : String := deviceArgs vars ++ " androidboot.slot_suffix=_" ++ vars .slotName

/-- What `bootcmd_block` appends for recovery, or else for the verified slot. -/
def stateArgs : String :=
  if vars .androidrecovery = "true" then " androidboot.verifiedbootstate=orange "
  else " " ++ vars .avbBootargs ++ " "

def normalBootArgs : String :=
  if vars .androidrecovery = "true" then "" else " androidboot.force_normal_boot=1"

def dtboArgs : String :=
  " androidboot.dtbo_idx=" ++ vars .mainFdtIndex ++ "," ++ vars .overlayFdtIndex

/-! Appending to `bootargs` changes none of the texts. -/

variable (text : String)

@[simp] theorem serialArgs_update :
    serialArgs (Function.update vars .bootargs text) = serialArgs vars := by simp [serialArgs]

@[simp] theorem firmwareArgs_update :
    firmwareArgs (Function.update vars .bootargs text) = firmwareArgs vars := by
  simp [firmwareArgs]

@[simp] theorem settledArgs_update :
    settledArgs (Function.update vars .bootargs text) = settledArgs vars := by simp [settledArgs]

@[simp] theorem deviceArgs_update :
    deviceArgs (Function.update vars .bootargs text) = deviceArgs vars := by simp [deviceArgs]

@[simp] theorem slotArgs_update :
    slotArgs (Function.update vars .bootargs text) = slotArgs vars := by simp [slotArgs]

@[simp] theorem stateArgs_update :
    stateArgs (Function.update vars .bootargs text) = stateArgs vars := by simp [stateArgs]

@[simp] theorem normalBootArgs_update :
    normalBootArgs (Function.update vars .bootargs text) = normalBootArgs vars := by
  simp [normalBootArgs]

@[simp] theorem dtboArgs_update :
    dtboArgs (Function.update vars .bootargs text) = dtboArgs vars := by
  unfold dtboArgs
  rw [Function.update_of_ne (by decide), Function.update_of_ne (by decide)]

end Args

/-- The storage that the board has booted from. -/
def HasDevicePath (b : Build) (vars : Var → String) : Prop :=
  vars .bootdevicePath = if vars .mmcBootdev = "1" then b.sysfsMmc1Path else b.sysfsMmc0Path

@[simp] theorem hasDevicePath_update {b : Build} {vars : Var → String} {text : String} :
    HasDevicePath b (Function.update vars .bootargs text) ↔ HasDevicePath b vars := by
  simp [HasDevicePath]

/-- Outside recovery, the slot is verified, and the arguments that `avb verify` gave are known. -/
def SlotVerified (s : Boot) : Prop :=
  s.vars .androidrecovery ≠ "true" →
    s.verified = some ("_" ++ s.vars .slotName, s.vars .avbBootargs)

/-- What the kernel is started with. -/
structure KernelArgs (b : Build) (s : Boot) : Prop where
  devicePath : HasDevicePath b s.vars
  verified : SlotVerified s
  /-- the last argument is missing if a device tree was not found or not applied -/
  bootargs : ∃ overlays ∈ ["", dtboArgs s.vars],
    s.vars .bootargs =
      slotArgs s.vars ++ stateArgs s.vars ++ normalBootArgs s.vars ++ overlays

/-! ## Frames -/

/-- The variables that the arguments are made of, before and after the slot is chosen. -/
def devicePlaces : List Place :=
  [.var .bootargs, .var .bootdevicePath, .var .debugBootargs, .var .mmcBootdev, .var .serial]

def slotPlaces : List Place := .var .slotName :: devicePlaces

/-- All that decides about the arguments. -/
def argPlaces : List Place :=
  .verified :: .var .avbBootargs :: .var .androidrecovery :: slotPlaces

section Functions

variable {b : Build} {P K : Boot → Prop}

/-! ## Functions of the script -/

theorem settings_runs : Runs P (settings b) (fun _ _ => True) (AtKernel K) := by
  refine Script.Triple.mono (Runs.startsNothing ?_) (fun _ _ => trivial) (fun _ _ h => h)
    fun _ _ h => h
  obtain ⟨platform, device, mmc0, mmc1⟩ := b
  cases platform with
  | broadcom => rfl
  | sunxi => rfl
  | rockchip => rfl

theorem bootargsSettings_runs :
    Runs (fun _ => True) bootargsSettings (fun _ s => s.vars .bootargs = settledArgs s.vars)
      (AtKernel K) := by
  -- the lines append to what the ones before have set
  apply Script.Triple.blockCons (M := fun _ s => s.vars .bootargs = initArgs)
  · exact Runs.setText lost_atKernel fun s _ => by simp [initArgs]
  intro _
  apply Script.Triple.blockCons (M := fun _ s => s.vars .bootargs = serialArgs s.vars)
  · refine Runs.extenv lost_atKernel fun s hs => ?_
    simp [hs, serialArgs, String.append_assoc]
  intro _
  apply Script.Triple.blockCons (M := fun _ s => s.vars .bootargs = firmwareArgs s.vars)
  · refine Runs.extenv lost_atKernel fun s hs => ?_
    simp [hs, firmwareArgs]
  intro _
  refine Runs.extenv lost_atKernel fun s hs => ?_
  simp [hs, settledArgs, String.append_assoc]

theorem deviceArgs_kept {s s' : Boot} (h : Kept devicePlaces s s') :
    deviceArgs s'.vars = deviceArgs s.vars := by
  simp only [deviceArgs, settledArgs, firmwareArgs, serialArgs, h.var (v := .serial) (by decide),
    h.var (v := .debugBootargs) (by decide), h.var (v := .bootdevicePath) (by decide)]

theorem hasDevicePath_kept {s s' : Boot} (h : Kept devicePlaces s s')
    (hpath : HasDevicePath b s.vars) : HasDevicePath b s'.vars := by
  rwa [HasDevicePath, h.var (v := .bootdevicePath) (by decide),
    h.var (v := .mmcBootdev) (by decide)]

/-- `bootcmd_prepare_env` -/
theorem bootcmdPrepareEnv_runs :
    Runs (fun s => s.vars .bootargs = settledArgs s.vars) (bootcmdPrepareEnv b)
      (fun _ s => HasDevicePath b s.vars ∧ s.vars .bootargs = deviceArgs s.vars) (AtKernel K) := by
  -- the path of mmc0, unless the script runs from mmc1
  apply Script.Triple.blockCons (M := fun _ s =>
    s.vars .bootdevicePath = b.sysfsMmc0Path ∧ s.vars .bootargs = settledArgs s.vars)
  · refine Runs.setText lost_atKernel fun s hs => ?_
    simpa [settledArgs, firmwareArgs, serialArgs] using hs
  intro _
  apply Script.Triple.blockCons (M := fun _ s =>
    HasDevicePath b s.vars ∧ s.vars .bootargs = settledArgs s.vars)
  · apply Script.Triple.ifThen (M := fun ok s => (ok = true ↔ s.vars .mmcBootdev = "1") ∧
      s.vars .bootdevicePath = b.sysfsMmc0Path ∧ s.vars .bootargs = settledArgs s.vars)
    · refine Runs.testEq lost_atKernel fun s ok hs hok => ?_
      exact ⟨by simpa using hok, hs⟩
    · refine Runs.setText lost_atKernel fun s hs => ?_
      have hdev : s.vars .mmcBootdev = "1" := hs.1.mp rfl
      simpa [HasDevicePath, hdev, settledArgs, firmwareArgs, serialArgs] using hs.2.2
    · intro s hs
      have hdev : s.vars .mmcBootdev ≠ "1" := fun heq => by simpa using hs.1.mpr heq
      refine ⟨?_, hs.2.2⟩
      rw [HasDevicePath, if_neg hdev]
      exact hs.2.1
  intro _
  refine Runs.extenv lost_atKernel fun s hs => ?_
  simpa [hs.2, deviceArgs, String.append_assoc] using hs.1

/-- The arguments up to the storage. -/
def DeviceChosen (b : Build) (s : Boot) : Prop :=
  HasDevicePath b s.vars ∧ s.vars .bootargs = deviceArgs s.vars

theorem DeviceChosen.kept {s s' : Boot} (h : DeviceChosen b s) (hkept : Kept devicePlaces s s') :
    DeviceChosen b s' := by
  refine ⟨hasDevicePath_kept hkept h.1, ?_⟩
  rw [deviceArgs_kept hkept, hkept.var (v := .bootargs) (by decide)]
  exact h.2

/-- The arguments up to the suffix of the slot. -/
def SlotChosen (b : Build) (s : Boot) : Prop :=
  HasDevicePath b s.vars ∧ s.vars .bootargs = slotArgs s.vars

theorem SlotChosen.kept {s s' : Boot} (h : SlotChosen b s)
    (hkept : Kept slotPlaces s s') : SlotChosen b s' := by
  have hdevice := hkept.mono (List.subset_cons_self _ _)
  refine ⟨hasDevicePath_kept hdevice h.1, ?_⟩
  rw [slotArgs, deviceArgs_kept hdevice, hkept.var (v := .slotName) (by decide),
    hkept.var (v := .bootargs) (by decide)]
  exact h.2

/-- `bootcmd_bcb` -/
theorem bootcmdBcb_runs :
    Runs (DeviceChosen b) (bootcmdBcb b) (fun _ => SlotChosen b) (AtKernel K) := by
  apply Script.Triple.blockCons (M := fun _ => DeviceChosen b)
  · refine Runs.frameAt devicePlaces ?_ fun s s' hkept hs => hs.kept hkept
    obtain ⟨platform, device, mmc0, mmc1⟩ := b
    cases platform <;> rfl
  intro _
  -- the suffix is appended between two parts that touch none of it
  apply Script.Triple.blockCons (M := fun _ => SlotChosen b)
  · refine Runs.extenv lost_atKernel fun s hs => ?_
    simpa [SlotChosen, hs.2, slotArgs, String.append_assoc] using hs.1
  intro _
  refine Runs.frameAt slotPlaces ?_ fun s s' hkept hs => hs.kept hkept
  obtain ⟨platform, device, mmc0, mmc1⟩ := b
  cases platform <;> rfl

/-- The arguments up to the state of the device, which is verified outside recovery. -/
structure StateChosen (b : Build) (s : Boot) : Prop where
  devicePath : HasDevicePath b s.vars
  bootargs : s.vars .bootargs = slotArgs s.vars ++ stateArgs s.vars
  verified : SlotVerified s

theorem stateArgs_kept {s s' : Boot} (h : Kept argPlaces s s') :
    slotArgs s'.vars = slotArgs s.vars ∧ stateArgs s'.vars = stateArgs s.vars ∧
      normalBootArgs s'.vars = normalBootArgs s.vars := by
  have hdevice := deviceArgs_kept (h.mono (by decide))
  simp only [slotArgs, hdevice, stateArgs, normalBootArgs, h.var (v := .slotName) (by decide),
    h.var (v := .androidrecovery) (by decide), h.var (v := .avbBootargs) (by decide), and_self]

theorem SlotVerified.kept {s s' : Boot} (h : SlotVerified s) (hkept : Kept argPlaces s s') :
    SlotVerified s' := by
  intro hrecovery
  rw [hkept.var (v := .androidrecovery) (by decide)] at hrecovery
  rw [hkept .verified (by decide), hkept.var (v := .slotName) (by decide),
    hkept.var (v := .avbBootargs) (by decide)]
  exact h hrecovery

theorem StateChosen.kept {s s' : Boot} (h : StateChosen b s) (hkept : Kept argPlaces s s') :
    StateChosen b s' := by
  obtain ⟨hslot, hstate, -⟩ := stateArgs_kept hkept
  refine ⟨hasDevicePath_kept (hkept.mono (by decide)) h.devicePath, ?_, h.verified.kept hkept⟩
  rw [hslot, hstate, hkept.var (v := .bootargs) (by decide)]
  exact h.bootargs

/-- The slot is still to be verified. -/
def ToVerify (b : Build) (s : Boot) : Prop :=
  s.vars .androidrecovery ≠ "true" ∧ SlotChosen b s

theorem ToVerify.kept {s s' : Boot} (h : ToVerify b s)
    (hkept : Kept (.var .androidrecovery :: slotPlaces) s s') : ToVerify b s' := by
  refine ⟨?_, h.2.kept (hkept.mono (List.subset_cons_self _ _))⟩
  rw [hkept.var (v := .androidrecovery) (by decide)]
  exact h.1

/-- `avb_verify` sets the variable of the arguments and succeeds only for the slot. -/
theorem avbVerify_runs :
    Runs (ToVerify b) avbVerify
      (fun ok s => ok = true → ToVerify b s ∧
        s.verified = some ("_" ++ s.vars .slotName, s.vars .avbBootargs))
      (AtKernel K) := by
  apply Script.Triple.blockCons (M := fun _ => ToVerify b)
  · exact Runs.frameAt (.var .androidrecovery :: slotPlaces) rfl
      fun s s' hkept hs => hs.kept hkept
  intro _
  refine Runs.command lost_atKernel fun s hs => ?_
  simp only [BootCommand.effect]
  split
  · -- the suffix is that of the slot, and the text is kept
    intro _
    refine ⟨?_, by simp⟩
    have hset : Kept (.var .androidrecovery :: slotPlaces) s
        (s.set .avbBootargs (s.answer.texts 0)) := fun p hp =>
      Boot.SameAt.set (ne_of_mem_of_not_mem hp (by decide)) _
    have hchosen := hs.kept hset
    exact hchosen
  · exact fun hok => absurd hok Bool.false_ne_true

/-- `bootcmd_avb` goes on only after a verification. -/
theorem bootcmdAvb_runs :
    Runs (ToVerify b) bootcmdAvb (fun _ => StateChosen b) (AtKernel K) := by
  apply Script.Triple.ifElse avbVerify_runs
  · -- the slot was verified, and what is appended are the arguments of the verification
    let Verified (s : Boot) : Prop := ToVerify b s ∧
      s.verified = some ("_" ++ s.vars .slotName, s.vars .avbBootargs)
    apply Script.Triple.blockCons (M := fun _ => Verified)
    · refine Script.Triple.mono (Runs.frameAt (P := Verified) argPlaces rfl ?_) (fun s hs => hs rfl)
        (fun _ _ h => h) fun _ _ h => h
      intro s s' hkept hs
      refine ⟨hs.1.kept (hkept.mono (by decide)), ?_⟩
      rw [hkept .verified (by decide), hkept.var (v := .slotName) (by decide),
        hkept.var (v := .avbBootargs) (by decide)]
      exact hs.2
    intro _
    refine Runs.extenv lost_atKernel fun s hs => ?_
    obtain ⟨⟨hrecovery, hslot⟩, hverified⟩ := hs
    refine ⟨by simpa using hslot.1, ?_, fun _ => by simpa using hverified⟩
    simp [hslot.2, stateArgs, hrecovery, String.append_assoc]
  · -- a failed verification ends in a reset
    apply Script.Triple.blockCons (M := fun _ _ => True)
    · exact Script.Triple.mono (Runs.frameAt (P := fun _ => True) [] rfl fun _ _ _ h => h)
        (fun _ _ => trivial) (fun _ _ h => h) fun _ _ h => h
    intro _
    exact Runs.command lost_atKernel fun s _ => (nofun : AtKernel K .reset s)

/-- The part of `bootcmd_block` that decides whether to verify. -/
theorem verification_runs :
    Runs (SlotChosen b) verification (fun _ => StateChosen b) (AtKernel K) := by
  apply Script.Triple.ifElse
    (M := fun ok s => (ok = true ↔ s.vars .androidrecovery = "true") ∧ SlotChosen b s)
  · exact Runs.testEq lost_atKernel fun s ok hs hok => ⟨by simpa using hok, hs⟩
  · refine Runs.extenv lost_atKernel fun s hs => ?_
    -- recovery starts without a verification
    have hrecovery : s.vars .androidrecovery = "true" := hs.1.mp rfl
    refine ⟨by simpa using hs.2.1, ?_, fun hne => absurd (by simpa using hrecovery) hne⟩
    simp [hs.2.2, stateArgs, hrecovery]
  · refine Script.Triple.mono bootcmdAvb_runs (fun s hs => ?_) (fun _ _ h => h) fun _ _ h => h
    exact ⟨fun heq => by simpa using hs.1.mpr heq, hs.2⟩

/-- The arguments without those of the device trees. -/
structure StartChosen (b : Build) (s : Boot) : Prop where
  devicePath : HasDevicePath b s.vars
  bootargs : s.vars .bootargs = slotArgs s.vars ++ stateArgs s.vars ++ normalBootArgs s.vars
  verified : SlotVerified s

theorem StartChosen.kept {s s' : Boot} (h : StartChosen b s) (hkept : Kept argPlaces s s') :
    StartChosen b s' := by
  obtain ⟨hslot, hstate, hnormal⟩ := stateArgs_kept hkept
  refine ⟨hasDevicePath_kept (hkept.mono (by decide)) h.devicePath, ?_, h.verified.kept hkept⟩
  rw [hslot, hstate, hnormal, hkept.var (v := .bootargs) (by decide)]
  exact h.bootargs

theorem expand_dtboArgs (s : Boot) :
    " androidboot.dtbo_idx=" ++ (s.vars .mainFdtIndex ++ ("," ++ s.vars .overlayFdtIndex)) =
      dtboArgs s.vars := by
  unfold dtboArgs
  simp only [String.append_assoc]

/-- The chain of the device trees appends its argument only at its end. -/
theorem deviceTrees_runs :
    Runs (StartChosen b) (.chain (mainFdt b ++ overlayFdt b ++ [dtboIdx])) (fun _ => KernelArgs b)
      (AtKernel K) := by
  apply Script.Triple.chainLast
  · -- no command of the chain before the last one writes what the arguments are made of
    have hkeeps : ∀ script ∈ mainFdt b ++ overlayFdt b,
        (StartsNothing script && Keeps argPlaces script) = true := by
      obtain ⟨platform, device, mmc0, mmc1⟩ := b
      apply List.all_eq_true.mp
      cases platform <;> cases device <;> rfl
    exact fun script hscript => Runs.frameAt argPlaces (hkeeps script hscript)
      fun s s' hkept hs => hs.kept hkept
  · refine Runs.extenv lost_atKernel fun s hs => ?_
    refine ⟨by simpa using hs.devicePath, by simpa [SlotVerified] using hs.verified,
      dtboArgs s.vars, by simp, ?_⟩
    simp [hs.bootargs, expand_dtboArgs]
  · -- the chain broke off: the argument of the device trees is missing
    intro s hs
    refine ⟨hs.devicePath, hs.verified, "", List.mem_cons_self, ?_⟩
    rw [String.append_empty]
    exact hs.bootargs

/-- `bootcmd_start` -/
theorem bootcmdStart_runs :
    Runs (StateChosen b) (bootcmdStart b) (fun _ _ => True) (AtKernel (KernelArgs b)) := by
  apply Script.Triple.blockCons (M := fun _ => StartChosen b)
  · apply Script.Triple.ifThen
      (M := fun ok s => (ok = true ↔ s.vars .androidrecovery ≠ "true") ∧ StateChosen b s)
    · refine Runs.testNe lost_atKernel fun s ok hs hok => ⟨by simpa using hok, ?_⟩
      exact ⟨hs.devicePath, hs.bootargs, hs.verified⟩
    · refine Runs.extenv lost_atKernel fun s hs => ?_
      have hrecovery : s.vars .androidrecovery ≠ "true" := hs.1.mp rfl
      refine ⟨by simpa using hs.2.devicePath, ?_, by simpa [SlotVerified] using hs.2.verified⟩
      simp [hs.2.bootargs, normalBootArgs, hrecovery]
    · intro s hs
      have hrecovery : s.vars .androidrecovery = "true" := by
        by_contra hne
        simpa using hs.1.mpr hne
      refine ⟨hs.2.devicePath, ?_, hs.2.verified⟩
      rw [normalBootArgs, if_pos hrecovery, String.append_empty]
      exact hs.2.bootargs
  intro _
  -- what follows up to the start of the kernel leaves the arguments
  have hframe : ∀ script : UbootScript, (StartsNothing script && Keeps argPlaces script) = true →
      Runs (StartChosen b) script (fun _ => StartChosen b) (AtKernel (KernelArgs b)) :=
    fun script h => Runs.frameAt argPlaces h fun s s' hkept hs => hs.kept hkept
  apply Script.Triple.blockCons (hframe _ rfl)
  intro _
  apply Script.Triple.blockCons (hframe _ rfl)
  intro _
  apply Script.Triple.blockCons (hframe _ ?_)
  · intro _
    apply Script.Triple.blockCons deviceTrees_runs
    intro _
    refine Runs.command lost_atKernel fun s hs => ?_
    simp only [BootCommand.effect]
    split
    · exact fun _ => hs
    · trivial
  · obtain ⟨platform, device, mmc0, mmc1⟩ := b
    cases platform <;> cases device <;> rfl

/-- `bootcmd_block` -/
theorem bootcmdBlock_runs :
    Runs (DeviceChosen b) (bootcmdBlock b) (fun _ => StateChosen b) (AtKernel K) := by
  apply Script.Triple.blockCons (M := fun _ => DeviceChosen b)
  · refine Runs.frameAt devicePlaces ?_ fun s s' hkept hs => hs.kept hkept
    obtain ⟨platform, device, mmc0, mmc1⟩ := b
    cases platform <;> cases device <;> rfl
  intro _
  apply Script.Triple.blockCons bootcmdBcb_runs
  intro _
  apply Script.Triple.blockCons verification_runs
  intro _
  exact Runs.frameAt argPlaces rfl fun s s' hkept hs => hs.kept hkept

/-- The whole script. -/
theorem bootscript_kernelArgs :
    Runs (fun _ => True) (bootscript b) (fun _ _ => True) (AtKernel (KernelArgs b)) := by
  apply Script.Triple.blockCons settings_runs
  intro _
  apply Script.Triple.blockCons bootargsSettings_runs
  intro _
  apply Script.Triple.blockCons (M := fun _ _ => True)
  · apply Script.Triple.blockCons bootcmdPrepareEnv_runs
    intro _
    exact Script.Triple.blockCons bootcmdBlock_runs fun _ => bootcmdStart_runs
  intro _
  exact Runs.command lost_atKernel fun s _ => (nofun : AtKernel (KernelArgs b) .reset s)

end Functions

/-- **The kernel is started for recovery or for a verified slot**, with the arguments of that case,
in every run of the script. -/
theorem boot_kernelArgs {b : Build} {s s' : Boot} (h : boot b s = .stopped .kernel s') :
    KernelArgs b s' := by
  have hend := bootscript_kernelArgs (b := b) s trivial
  rw [boot] at h
  rw [h] at hend
  exact hend rfl

theorem boot_kernelArgs_slotA :
    (boot pinephone slotA).why? = some .kernel ∧
      KernelArgs pinephone (boot pinephone slotA).state := by
  have hkernel : (boot pinephone slotA).why? = some .kernel := by decide
  exact ⟨hkernel, boot_kernelArgs (ScriptEnd.eq_stopped hkernel)⟩

end GloDroid.BootScript

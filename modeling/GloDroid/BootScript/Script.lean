import GloDroid.BootScript.Commands

/-!
# The Boot Script

`bootscript.cpp`, function by function, for the platforms and devices that its `#ifdef`s know. A
function of the script is a variable with commands as its text, which `run` runs: here it is a
script, and `run` is its occurrence. `EXTENV` and `FEXTENV` both append to a variable.
-/

namespace GloDroid.BootScript

open GloDroid.Base

/-! ## Builds -/

/-- `PRODUCT_BOARD_PLATFORM` -/
inductive Platform where
  | broadcom
  | sunxi
  | rockchip
  deriving DecidableEq, Repr

/-- `PRODUCT_DEVICE`, as far as the script asks for it. -/
inductive Device where
  | pinephone
  | pinephonepro
  | other
  deriving DecidableEq, Repr

/-- The definitions that the script is preprocessed with. -/
structure Build where
  platform : Platform
  device : Device
  /-- `SYSFS_MMC0_PATH` and `SYSFS_MMC1_PATH` -/
  sysfsMmc0Path : String
  sysfsMmc1Path : String
  deriving DecidableEq, Repr

abbrev UbootScript := Script BootCommand

/-- `setenv var "${var}extension"` -/
def extenv (v : Var) (extension : Word) : UbootScript :=
  .command (.setenv v (.var v :: extension))

def setText (v : Var) (text : String) : UbootScript := .command (.setenv v [.text text])

/-! ## Settings -/

/-- The addresses in memory: of the device tree, the boot image, the vendor boot image and the
overlays. -/
def Platform.addresses : Platform → String × String × String × String
  | .broadcom => ("0x1fa00000", "0x10008000", "0x13008000", "0x12008000")
  | .sunxi => ("0x5fa00000", "0x50008000", "0x53008000", "0x52008000")
  | .rockchip => ("0x1fa00000", "0x10008000", "0x13008000", "0x12008000")

/-- The texts that `partitions` is made of. -/
def Platform.partitionTexts (platform : Platform) : List String :=
  [ match platform with
    | .rockchip => ";name=bootloader,start=32K,size=131040K,uuid=${uuid_gpt_bootloader}"
    | _ => ";name=bootloader,start=128K,size=130944K,uuid=${uuid_gpt_bootloader}",
    ";name=uboot-env,size=512K,uuid=${uuid_gpt_reserved}",
    ";name=misc,size=512K,uuid=${uuid_gpt_misc}",
    ";name=boot_a,size=64M,uuid=${uuid_gpt_boot_a}",
    ";name=boot_b,size=64M,uuid=${uuid_gpt_boot_b}",
    ";name=vendor_boot_a,size=32M,uuid=${uuid_gpt_vendor_boot_a}",
    ";name=vendor_boot_b,size=32M,uuid=${uuid_gpt_vendor_boot_b}",
    ";name=dtbo_a,size=8M,uuid=${uuid_gpt_dtbo_a}",
    ";name=dtbo_b,size=8M,uuid=${uuid_gpt_dtbo_b}",
    ";name=vbmeta_a,size=512K,uuid=${uuid_gpt_vbmeta_a}",
    ";name=vbmeta_b,size=512K,uuid=${uuid_gpt_vbmeta_b}",
    ";name=vbmeta_system_a,size=512K,uuid=${uuid_gpt_vbmeta_system_a}",
    ";name=vbmeta_system_b,size=512K,uuid=${uuid_gpt_vbmeta_system_b}",
    ";name=super,size=1800M,uuid=${uuid_gpt_super}",
    ";name=metadata,size=16M,uuid=${uuid_gpt_metadata}",
    ";name=userdata,size=-,uuid=${uuid_gpt_userdata}" ]

/-- The settings before the first function, less those of `bootargs`. -/
def settings (b : Build) : UbootScript :=
  .block
    ([ setText .dtbaddr b.platform.addresses.1,
       setText .loadaddr b.platform.addresses.2.1,
       setText .vloadaddr b.platform.addresses.2.2.1,
       setText .dtboaddr b.platform.addresses.2.2.2,
       setText .mainFdtId "0x100",
       setText .overlayFdtId "0xFFF",
       setText .partitions "uuid_disk=${uuid_gpt_disk}" ] ++
      b.platform.partitionTexts.map fun text => extenv .partitions [.text text])

def bootargsSettings : UbootScript :=
  .block
    [ setText .bootargs
        " init=/init rootwait ro androidboot.boottime=223.708 androidboot.selinux=permissive",
      extenv .bootargs
        [ .text " androidboot.revision=1.0 androidboot.board_id=0x1234567 androidboot.serialno=",
          .var .serial ],
      extenv .bootargs [.text " firmware_class.path=/vendor/etc/firmware"],
      extenv .bootargs [.text " ", .var .debugBootargs, .text " printk.devkmsg=on"] ]

/-! ## Functions -/

def enterFastboot (b : Build) (why : FastbootReason) : UbootScript :=
  .block
    [ setText .fastbootFail "0",
      -- OTG on sunxi requires USB to be initialized
      if b.platform = .sunxi then .command (.call [.text "usb start"]) else .skip,
      .orElse (.command (.fastboot why)) (setText .fastbootFail "1"),
      -- if fastboot fails for this board, fall back to fastbootd
      .ifThen (.command (.testEq [.var .fastbootFail] [.text "1"]))
        (.block
          [ .orElse (.command (.part .start [.text "misc"] .miscStart))
              (.command (.gptWrite [.var .partitions])),
            .chain
              [ .command .bcbLoad,
                .command (.bcbSet bootFastboot),
                .command .bcbStore ] ]) ]

def bootcmdBcb (b : Build) : UbootScript :=
  .block
    [ .orElse (.command (.abSelect [.var .mmcBootdev, .text "#misc"])) (enterFastboot b .noSlot),
      extenv .bootargs [.text " androidboot.slot_suffix=_", .var .slotName],
      .command .bcbLoad,
      -- adb reboot bootloader
      .chain
        [ .command (.bcbTest bootonceBootloader),
          .command .bcbClear,
          .command .bcbStore,
          enterFastboot b .requested ],
      -- adb reboot fastboot
      .chain [.command (.bcbTest bootFastboot), setText .androidrecovery "true"],
      -- adb reboot recovery
      .chain [.command (.bcbTest bootRecovery), setText .androidrecovery "true"] ]

def avbVerify : UbootScript :=
  .block
    [ .command (.call [.text "avb init ", .var .mmcBootdev]),
      .command (.avbVerify [.text "_", .var .slotName]) ]

def bootcmdAvb : UbootScript :=
  .ifElse avbVerify
    (.block
      [ .command (.call [.text "echo AVB verification OK. Continue boot"]),
        extenv .bootargs [.text " ", .var .avbBootargs, .text " "] ])
    (.block
      [ .command (.call [.text "echo AVB verification failed"]),
        .command .reset ])

def bootcmdPrepareEnv (b : Build) : UbootScript :=
  .block
    [ setText .bootdevicePath b.sysfsMmc0Path,
      .ifThen (.command (.testEq [.var .mmcBootdev] [.text "1"]))
        (setText .bootdevicePath b.sysfsMmc1Path),
      extenv .bootargs [.text " androidboot.boot_devices=", .var .bootdevicePath] ]

/-- The device tree that the kernel gets: a compiled one, or that of the bootloader. -/
def mainFdt (b : Build) : List UbootScript :=
  match b.platform with
  | .broadcom => [.command (.fdt [.text "addr ", .var .fdtAddr])]
  | _ =>
    [ .command (.adtimgGet [.var .mainFdtId] .mainFdtIndex),
      .command (.cpB [.var .dtbStart] [.var .dtbaddr] [.var .dtbSize]),
      .command (.fdt [.text "addr ", .var .dtbaddr]) ]

def overlayFdt (b : Build) : List UbootScript :=
  [ .command (.adtimgGet [.var .overlayFdtId] .overlayFdtIndex),
    .command (.cpB [.var .dtbStart] [.var .dtboaddr] [.var .dtbSize]),
    .command (.fdt [.text "resize 8192"]) ] ++
  (if b.device = .pinephonepro then
    [ .command (.fdt [.text "rsvmem add 0x8000000 0x8000000"]),
      .command (.fdt [.text "rsvmem print"]) ]
  else []) ++
  [.command (.fdt [.text "apply ", .var .dtboaddr])]

def dtboIdx : UbootScript :=
  extenv .bootargs
    [.text " androidboot.dtbo_idx=", .var .mainFdtIndex, .text ",", .var .overlayFdtIndex]

/-- The version of the PinePhone decides which of its device trees is used. -/
def pinephoneFdt : UbootScript :=
  .block
    [ setText .mainFdtId "0x11",
      .ifThen
        (.command (.testNe [.var .fdtfile] [.text "allwinner/sun50i-a64-pinephone-1.1.dtb"]))
        (setText .mainFdtId "0x12") ]

def bootcmdStart (b : Build) : UbootScript :=
  .block
    [ .ifThen (.command (.testNe [.var .androidrecovery] [.text "true"]))
        (extenv .bootargs [.text " androidboot.force_normal_boot=1"]),
      .command (.call [.text "abootimg addr ", .var .loadaddr, .text " ", .var .vloadaddr]),
      .command (.call [.text "adtimg addr ", .var .dtboaddr]),
      if b.platform = .sunxi ∧ b.device = .pinephone then pinephoneFdt else .skip,
      .chain (mainFdt b ++ overlayFdt b ++ [dtboIdx]),
      .command (.bootm [.var .loadaddr]) ]

/-- A key may ask for fastboot or for recovery. -/
def volumeKeys (b : Build) : UbootScript :=
  if b.device = .pinephone then
    .block
      [ .ifThen (.command (.testEq [.var .volumeKey] [.text "up"])) (enterFastboot b .volumeKey),
        .ifThen (.command (.testEq [.var .volumeKey] [.text "down"]))
          (setText .androidrecovery "true") ]
  else .skip

/-- Recovery is not verified: the device is unlocked for it. -/
def verification : UbootScript :=
  .ifElse (.command (.testEq [.var .androidrecovery] [.text "true"]))
    (extenv .bootargs [.text " androidboot.verifiedbootstate=orange "]) bootcmdAvb

/-- `part start` and `part size` of a partition of the slot -/
def findPartition (name : String) (start size : Var) : UbootScript :=
  .chain
    [ .command (.part .start [.text name, .var .slotName] start),
      .command (.part .size [.text name, .var .slotName] size) ]

def findPartitions : UbootScript :=
  .block
    [ findPartition "boot_" .bootStart .bootSize,
      findPartition "vendor_boot_" .vendorBootStart .vendorBootSize,
      findPartition "dtbo_" .dtboStart .dtboSize ]

def readImages : UbootScript :=
  .block
    [ .chain
        [ .command (.mmcDev [.var .mmcBootdev]),
          .command (.mmcRead [.var .loadaddr] [.var .bootStart] [.var .bootSize]) ],
      .command (.mmcRead [.var .vloadaddr] [.var .vendorBootStart] [.var .vendorBootSize]),
      .command (.mmcRead [.var .dtboaddr] [.var .dtboStart] [.var .dtboSize]) ]

def bootcmdBlock (b : Build) : UbootScript :=
  .block [volumeKeys b, bootcmdBcb b, verification, findPartitions, readImages]

def bootcmd (b : Build) : UbootScript :=
  .block [bootcmdPrepareEnv b, bootcmdBlock b, bootcmdStart b]

/-- The whole script. -/
def bootscript (b : Build) : UbootScript :=
  .block [settings b, bootargsSettings, bootcmd b, .command .reset]

/-- The script with what the variables, the storage and the memory hold. -/
def boot (b : Build) (s : Boot) : ScriptEnd Boot Stop := (bootscript b).exec BootCommand.run s

/-- A PinePhone with the paths of its platform. -/
def pinephone : Build where
  platform := .sunxi
  device := .pinephone
  sysfsMmc0Path := "soc/1c0f000.mmc"
  sysfsMmc1Path := "soc/1c11000.mmc"

/-- The storage has the partitions of the slot `a`, and every command succeeds. -/
def slotA : Boot where
  vars v := if v = .mmcBootdev then "0" else ""
  table name :=
    if name = "boot_a" then some (262400, 131072)
    else if name = "vendor_boot_a" then some (524544, 65536)
    else if name = "dtbo_a" then some (655616, 16384)
    else none
  answers _ := { texts := fun _ => "a" }

end GloDroid.BootScript

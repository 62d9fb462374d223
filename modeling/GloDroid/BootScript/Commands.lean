import GloDroid.Base.CommandScript
import GloDroid.Base.Hexadecimal

/-!
# Commands of the Boot Script

The U-Boot commands that `bootscript.cpp` uses, on the variables of U-Boot, the bootloader message
in the `misc` partition, the partition table and the memory. What a command answers comes from
outside: the state carries the answers of the run, one for each command, and before any command the
board may lose its power.

The words of a command may contain variables, which are replaced when the command runs; a variable
that is not set is empty.
-/

namespace GloDroid.BootScript

open GloDroid.Base

/-! ## Variables and words -/

/-- The variables of the script, less those that only the text of `partitions` names. -/
inductive Var where
  | androidrecovery
  | avbBootargs
  | bootargs
  | bootdevicePath
  | bootStart | bootSize
  | debugBootargs
  | dtbaddr | loadaddr | vloadaddr | dtboaddr
  | dtbStart | dtbSize
  | dtboStart | dtboSize
  | fastbootFail
  | fdtAddr
  | fdtfile
  | mainFdtId | overlayFdtId
  | mainFdtIndex | overlayFdtIndex
  | miscStart
  | mmcBootdev
  | partitions
  | serial -- `serial#`
  | slotName
  | vendorBootStart | vendorBootSize
  | volumeKey
  deriving DecidableEq, Repr

/-- A part of a word. -/
inductive Piece where
  | text (text : String)
  | var (var : Var)
  deriving DecidableEq, Repr

abbrev Word := List Piece

/-! ## Commands -/

/-- Why `enter_fastboot` is run: the three places differ in nothing else. -/
inductive FastbootReason where
  | volumeKey
  | noSlot
  | requested
  deriving DecidableEq, Repr

/-- What `part` reports of a partition. -/
inductive PartField where
  | start
  | size
  deriving DecidableEq, Repr

inductive BootCommand where
  | setenv (var : Var) (value : Word)
  /-- `test a = b` -/
  | testEq (a b : Word)
  /-- `test a != b` -/
  | testNe (a b : Word)
  /-- a command of which the script uses the status at most -/
  | call (words : Word)
  | fastboot (why : FastbootReason)
  | gptWrite (partitions : Word)
  | bcbLoad
  | bcbSet (command : String)
  | bcbTest (command : String)
  | bcbClear
  | bcbStore
  /-- `ab_select slot_name` -/
  | abSelect (device : Word)
  | avbVerify (suffix : Word)
  /-- `part start mmc` and `part size mmc` -/
  | part (field : PartField) (partition : Word) (var : Var)
  /-- `mmc dev` -/
  | mmcDev (device : Word)
  | mmcRead (addr start size : Word)
  /-- `adtimg get dt` -/
  | adtimgGet (id : Word) (index : Var)
  /-- `cp.b` -/
  | cpB (source target size : Word)
  | fdt (words : Word)
  | bootm (addr : Word)
  | reset
  deriving DecidableEq, Repr

/-! ## State -/

/-- The partitions by their names, with start and size in blocks. -/
abbrev PartTable := String → Option (Nat × Nat)

/-- The answer to a command: its status, the texts of the variables it sets, and what else it may
do. Most commands use few of these. -/
structure Answer where
  /-- the power is lost before the command -/
  powerLost : Bool := false
  ok : Bool := true
  texts : Nat → String := fun _ => ""
  /-- the board restarts after the command -/
  restarts : Bool := false
  /-- a new command in the bootloader message of `misc` -/
  message : Option String := none
  /-- a new partition table -/
  table : Option PartTable := none
  /-- the bytes of the memory that are overwritten -/
  touched : Nat → Bool := fun _ => false

/-- How the script stops. -/
inductive Stop where
  /-- `bootm` -/
  | kernel
  /-- `reset` -/
  | reset
  /-- `fastboot` restarts the board -/
  | fastboot
  | powerLost
  deriving DecidableEq, Repr

structure Boot where
  vars : Var → String := fun _ => ""
  /-- the command in the bootloader message in memory, once loaded -/
  bcb : Option String := none
  /-- the command in the bootloader message of `misc` -/
  misc : String := ""
  table : PartTable := fun _ => none
  /-- the byte of the storage that was read to an address; none if anything else is there -/
  memory : Nat → Option Nat := fun _ => none
  /-- what `avb verify` last verified, and the text that it gave -/
  verified : Option (String × String) := none
  answers : Nat → Answer := fun _ => {}
  /-- the number of the next answer -/
  time : Nat := 0
  /-- the sessions of `fastboot` and whether they succeeded, the last one first -/
  sessions : List (FastbootReason × Bool) := []
  /-- the times that a session left a request for the bootloader -/
  requests : Nat := 0
  /-- the commands that failed, the last one first -/
  failed : List BootCommand := []

namespace Boot

def set (s : Boot) (v : Var) (text : String) : Boot :=
  { s with vars := Function.update s.vars v text }

def expand (s : Boot) (word : Word) : String :=
  word.foldr (fun piece rest =>
    (match piece with
      | .text text => text
      | .var v => s.vars v) ++ rest) ""

def answer (s : Boot) : Answer := s.answers s.time

/-- The bytes that the answer names are overwritten by something else. -/
def touch (s : Boot) : Boot :=
  { s with memory := fun a => if s.answer.touched a then none else s.memory a }

end Boot

/-! ## Effects -/

/-- What Android leaves in the bootloader message for `adb reboot bootloader`, `adb reboot fastboot`
and `adb reboot recovery`. -/
def bootonceBootloader : String := "bootonce-bootloader"
def bootFastboot : String := "boot-fastboot"
def bootRecovery : String := "boot-recovery"

/-- Bytes of a block of the storage. -/
def mmcBlock : Nat := 512

namespace BootCommand

/-- A session of `fastboot` may download to the memory, write the partition table and the `misc`
partition, and restart the board. -/
def runFastboot (why : FastbootReason) (s : Boot) : ScriptEnd Boot Stop :=
  let a := s.answer
  let s :=
    { s.touch with
      sessions := (why, a.ok) :: s.sessions
      misc := a.message.getD s.misc
      table := a.table.getD s.table
      requests := s.requests + if a.message = some bootonceBootloader then 1 else 0 }
  if a.restarts then .stopped .fastboot s else .status a.ok s

/-- The variable is set if the partition is found. -/
def runPart (field : PartField) (partition : String) (v : Var) (s : Boot) : ScriptEnd Boot Stop :=
  match s.table partition with
  | some (start, size) =>
    if s.answer.ok then
      .status true (s.set v (hexText (match field with
        | .start => start
        | .size => size)))
    else .status false s
  | none => .status false s

/-- The memory after a read of blocks to an address. -/
def readBlocks (addr start size : Nat) (memory : Nat → Option Nat) : Nat → Option Nat := fun a =>
  if addr ≤ a ∧ a < addr + mmcBlock * size then some (mmcBlock * start + (a - addr)) else memory a

/-- A read that fails may have written some of the bytes. -/
def runMmcRead (addr start size : Nat) (s : Boot) : ScriptEnd Boot Stop :=
  if s.answer.ok then .status true { s with memory := readBlocks addr start size s.memory }
  else .status false s.touch

/-- A copy of no bytes is an error. -/
def runCpB (source target size : Nat) (s : Boot) : ScriptEnd Boot Stop :=
  if size = 0 then .status false s
  else
    .status true
      { s with
        memory := fun a =>
          if target ≤ a ∧ a < target + size then s.memory (source + (a - target))
          else s.memory a }

/-- What a command does when it is run. -/
def effect : BootCommand → Boot → ScriptEnd Boot Stop
  | setenv v value, s => .status true (s.set v (s.expand value))
  | testEq a b, s => .status (s.expand a = s.expand b) s
  | testNe a b, s => .status (s.expand a ≠ s.expand b) s
  | call _, s | mmcDev _, s => .status s.answer.ok s
  | fastboot why, s => runFastboot why s
  | gptWrite _, s => .status s.answer.ok { s with table := s.answer.table.getD s.table }
  | bcbLoad, s => .status s.answer.ok { s with bcb := if s.answer.ok then some s.misc else none }
  | bcbSet command, s =>
    match s.bcb with
    | some _ => .status true { s with bcb := some command }
    | none => .status false s
  | bcbTest command, s => .status (s.bcb = some command) s
  | bcbClear, s =>
    match s.bcb with
    | some _ => .status true { s with bcb := some "" }
    | none => .status false s
  | bcbStore, s =>
    match s.bcb with
    | some command =>
      if s.answer.ok then .status true { s with misc := command } else .status false s
    | none => .status false s
  | abSelect _, s =>
    if s.answer.ok then .status true (s.set .slotName (s.answer.texts 0)) else .status false s
  | avbVerify suffix, s =>
    if s.answer.ok then
      .status true
        { s.set .avbBootargs (s.answer.texts 0) with
          verified := some (s.expand suffix, s.answer.texts 0) }
    else .status false s
  | part field partition v, s => runPart field (s.expand partition) v s
  | mmcRead addr start size, s =>
    runMmcRead (hexNat (s.expand addr)) (hexNat (s.expand start)) (hexNat (s.expand size)) s
  | adtimgGet _ index, s =>
    if s.answer.ok then
      .status true
        (((s.set .dtbStart (s.answer.texts 0)).set .dtbSize (s.answer.texts 1)).set index
          (s.answer.texts 2))
    else .status false s
  | cpB source target size, s =>
    runCpB (hexNat (s.expand source)) (hexNat (s.expand target)) (hexNat (s.expand size)) s
  | fdt _, s => .status s.answer.ok s.touch
  | bootm _, s => if s.answer.ok then .stopped .kernel s else .status false s
  | reset, s => .stopped .reset s

/-- The answer is used up, and a failure is remembered. -/
def finish (c : BootCommand) (ok : Bool) (s : Boot) : Boot :=
  { s with time := s.time + 1, failed := if ok then s.failed else c :: s.failed }

/-- One command, if the power lasts. -/
def run (c : BootCommand) (s : Boot) : ScriptEnd Boot Stop :=
  if s.answer.powerLost then .stopped .powerLost s
  else (c.effect s).bind fun ok s => .status ok (c.finish ok s)

end BootCommand

end GloDroid.BootScript

import Mathlib.Data.List.Basic
import Mathlib.Tactic.Common

/-!
# USB Functions and their Setup Scripts

A `setCurrentUsbFunctions` call is straight-line code: each of its operations may fail, and the
first failure ends the call with an answer. So a call is given by its script, the list of the
operations it performs if none of them fails. Each function of the source that is called on the
way keeps its name and yields its part of the script.

`setupLinks` and `ffsEndpoints` say what a script is for: the function links it creates, and the
endpoint files its monitor has to wait for.
-/

namespace GloDroid.GadgetHal

/-! ## Functions -/

/-- The answer of a call. -/
inductive Status where
  | success
  | error
  | configurationNotSupported
  deriving DecidableEq, Repr

/-- A mask of `GadgetFunction` bits. -/
abbrev Functions := UInt64

namespace GadgetFunction

def none : Functions := 0
def adb : Functions := 0x1
def accessory : Functions := 0x2
def mtp : Functions := 0x4
def midi : Functions := 0x8
def ptp : Functions := 0x10
def rndis : Functions := 0x20
def audioSource : Functions := 0x40
def ncm : Functions := 0x400

end GadgetFunction

/-- `(functions & function) != 0`. -/
def Functions.has (functions function : Functions) : Bool := functions &&& function != 0

/-! ## Operations -/

/-- An operation of a call. -/
inductive GadgetOp where
  /-- Writes `none` to the UDC file; a failure is only logged. -/
  | pullDown
  | writeFile (path value : String)
  | unlinkFunctions
  /-- Stops and resets the monitor if it is running. -/
  | resetMonitor
  /-- The default branch of `validateAndSetVidPid`. -/
  | notSupported
  | addInotifyFd (path : String)
  | linkFunction (function : String) (index : Nat)
  | addEndPoint (ep : String)
  /-- Writes the controller's name to the UDC file. -/
  | pullUp
  /-- `mCurrentUsbFunctionsApplied = true`. -/
  | setApplied
  | startMonitor
  /-- Answers the callback. -/
  | answer (status : Status)
  /-- Waits for the monitor to pull up and answers the callback. -/
  | answerPullUp
  deriving DecidableEq, Repr

def gadgetPath : String := "/config/usb_gadget/g1/"
def vendorIdPath : String := gadgetPath ++ "idVendor"
def productIdPath : String := gadgetPath ++ "idProduct"
def deviceClassPath : String := gadgetPath ++ "bDeviceClass"
def deviceSubClassPath : String := gadgetPath ++ "bDeviceSubClass"
def deviceProtocolPath : String := gadgetPath ++ "bDeviceProtocol"
def descUsePath : String := gadgetPath ++ "os_desc/use"
def functionsPath : String := gadgetPath ++ "functions/"
def functionPath : String := gadgetPath ++ "configs/b.1/" ++ "function"

/-! ## Scripts -/

/-- `resetGadget`. -/
def resetGadget : List GadgetOp :=
  [.pullDown, .writeFile deviceClassPath "0", .writeFile deviceSubClassPath "0",
    .writeFile deviceProtocolPath "0", .writeFile descUsePath "0", .unlinkFunctions]

/-- `tearDownGadget`. -/
def tearDownGadget : List GadgetOp := resetGadget ++ [.resetMonitor]

/-- `setVidPid`. -/
def setVidPid (vid pid : String) : List GadgetOp :=
  [.writeFile vendorIdPath vid, .writeFile productIdPath pid]

/-- The cases of the switch in `validateAndSetVidPid`: a combination with its ids. -/
def vidPids : List (Functions × String × String) :=
  open GadgetFunction in
  [(mtp, "0x18d1", "0x4ee1"),
    (adb ||| mtp, "0x18d1", "0x4ee2"),
    (rndis, "0x18d1", "0x4ee3"),
    (adb ||| rndis, "0x18d1", "0x4ee4"),
    (ptp, "0x18d1", "0x4ee5"),
    (adb ||| ptp, "0x18d1", "0x4ee6"),
    (adb, "0x18d1", "0x4ee7"),
    (midi, "0x18d1", "0x4ee8"),
    (adb ||| midi, "0x18d1", "0x4ee9"),
    (ncm, "0x18d1", "0x4eeb"),
    (adb ||| ncm, "0x18d1", "0x4eec"),
    (accessory, "0x18d1", "0x2d00"),
    (adb ||| accessory, "0x18d1", "0x2d01"),
    (audioSource, "0x18d1", "0x2d02"),
    (adb ||| audioSource, "0x18d1", "0x2d03"),
    (accessory ||| audioSource, "0x18d1", "0x2d04"),
    (adb ||| accessory ||| audioSource, "0x18d1", "0x2d05")]

/-- `validateAndSetVidPid`: a combination without a case is not supported. -/
def validateAndSetVidPid (functions : Functions) : List GadgetOp :=
  match vidPids.lookup functions with
  | some (vid, pid) => setVidPid vid pid
  | none => [.notSupported]

/-- A function to be linked; for a FunctionFS function also the directory that is watched and the
endpoint files the monitor waits for. -/
structure AddedFunction where
  function : String
  ffs : Option (String × List String) := none

/-- Adding a function at the count it finds. -/
def AddedFunction.script (a : AddedFunction) (functionCount : Nat) : List GadgetOp :=
  match a.ffs with
  | some (directory, endpoints) =>
    [.writeFile descUsePath "1", .addInotifyFd directory, .linkFunction a.function functionCount] ++
      endpoints.map .addEndPoint
  | none => [.linkFunction a.function functionCount]

def mtp : AddedFunction where
  function := "ffs.mtp"
  ffs := some ("/dev/usb-ffs/mtp/",
    ["/dev/usb-ffs/mtp/ep1", "/dev/usb-ffs/mtp/ep2", "/dev/usb-ffs/mtp/ep3"])

def ptp : AddedFunction where
  function := "ffs.ptp"
  ffs := some ("/dev/usb-ffs/ptp/",
    ["/dev/usb-ffs/ptp/ep1", "/dev/usb-ffs/ptp/ep2", "/dev/usb-ffs/ptp/ep3"])

/-- What `addAdb` adds. -/
def adb : AddedFunction where
  function := "ffs.adb"
  ffs := some ("/dev/usb-ffs/adb/", ["/dev/usb-ffs/adb/ep1", "/dev/usb-ffs/adb/ep2"])

/-- The functions added by `addGenericAndroidFunctions`, in its order. `rndisFunction` is the
property `vendor.usb.rndis.config`. -/
def addGenericAndroidFunctions (rndisFunction : String) (functions : Functions) :
    List AddedFunction :=
  (if functions.has GadgetFunction.mtp then [mtp]
    else if functions.has GadgetFunction.ptp then [ptp]
    else []) ++
  (if functions.has GadgetFunction.midi then [{ function := "midi.gs5" }] else []) ++
  (if functions.has GadgetFunction.accessory then [{ function := "accessory.gs2" }] else []) ++
  (if functions.has GadgetFunction.audioSource then [{ function := "audio_source.gs3" }] else []) ++
  (if functions.has GadgetFunction.rndis then
    [{ function := if rndisFunction != "" then rndisFunction else "gsi.rndis" }] else []) ++
  (if functions.has GadgetFunction.ncm then [{ function := "ncm.gs6" }] else [])

/-- All functions `setupFunctions` adds. -/
def addedFunctions (rndisFunction : String) (functions : Functions) : List AddedFunction :=
  addGenericAndroidFunctions rndisFunction functions ++
    (if functions.has GadgetFunction.adb then [adb] else [])

/-- Adding one function after the other; the count goes up by one with each. -/
def addFunctions (functionCount : Nat) : List AddedFunction → List GadgetOp
  | [] => []
  | a :: as => a.script functionCount ++ addFunctions (functionCount + 1) as

/-- Some FunctionFS function was added. -/
def ffsEnabled (functions : Functions) : Bool :=
  functions.has GadgetFunction.mtp || functions.has GadgetFunction.ptp ||
    functions.has GadgetFunction.adb

/-- How `setupFunctions` ends: it pulls up itself, or leaves that to the monitor. -/
def finishSetup (functions : Functions) : List GadgetOp :=
  if !ffsEnabled functions then [.pullUp, .setApplied, .answer .success]
  else [.startMonitor, .answerPullUp]

/-- `setupFunctions`. -/
def setupFunctions (rndisFunction : String) (functions : Functions) : List GadgetOp :=
  addFunctions 0 (addedFunctions rndisFunction functions) ++ finishSetup functions

/-- `setCurrentUsbFunctions`, after the mask is stored and the flag cleared. -/
def callScript (rndisFunction : String) (functions : Functions) : List GadgetOp :=
  tearDownGadget ++
    (if functions = GadgetFunction.none then [.answer .success]
    else validateAndSetVidPid functions ++ setupFunctions rndisFunction functions)

/-! ## What a script does -/

/-- A function link of the gadget configuration: its name and the function it points to. -/
abbrev Link := String × String

/-- The link that `linkFunction` creates. -/
def linkOf (function : String) (index : Nat) : Link :=
  (functionPath ++ toString index, functionsPath ++ function)

namespace GadgetOp

/-- What an operation that succeeds does to the function links. -/
def linkEffect (links : List Link) : GadgetOp → List Link
  | .unlinkFunctions => []
  | .linkFunction function index => links ++ [linkOf function index]
  | _ => links

/-- What an operation that succeeds does to the monitor: whether it runs, and its endpoint list. -/
def endpointEffect (monitor : Bool × List String) : GadgetOp → Bool × List String
  | .resetMonitor => (false, if monitor.1 then [] else monitor.2)
  | .addEndPoint ep => (monitor.1, monitor.2 ++ [ep])
  | .startMonitor => (true, monitor.2)
  | _ => monitor

/-- The operation ends the setup: the flag is set, now or by the monitor. -/
def finishes : GadgetOp → Bool
  | .setApplied | .startMonitor => true
  | _ => false

/-- The operation only talks to the callback. -/
def answers : GadgetOp → Bool
  | .answer _ | .answerPullUp => true
  | _ => false

/-- The operation belongs to the end of a script: it pulls up, ends the setup or answers. -/
def ends : GadgetOp → Bool
  | .pullUp | .setApplied | .startMonitor | .answer _ | .answerPullUp => true
  | _ => false

theorem finishes_of_not_ends {op : GadgetOp} (h : op.ends = false) : op.finishes = false := by
  cases op <;> first | rfl | cases h

end GadgetOp

/-- The links `setupFunctions` creates. -/
def setupLinks (rndisFunction : String) (functions : Functions) : List Link :=
  (setupFunctions rndisFunction functions).foldl GadgetOp.linkEffect []

/-- The endpoint files of the FunctionFS functions: `ep1` to `ep3` of mtp or of ptp, `ep1` and
`ep2` of adb. -/
def ffsEndpoints (functions : Functions) : List String :=
  (if functions.has GadgetFunction.mtp then
      ["/dev/usb-ffs/mtp/ep1", "/dev/usb-ffs/mtp/ep2", "/dev/usb-ffs/mtp/ep3"]
    else if functions.has GadgetFunction.ptp then
      ["/dev/usb-ffs/ptp/ep1", "/dev/usb-ffs/ptp/ep2", "/dev/usb-ffs/ptp/ep3"]
    else []) ++
  (if functions.has GadgetFunction.adb then
    ["/dev/usb-ffs/adb/ep1", "/dev/usb-ffs/adb/ep2"] else [])

/-! ### Adding functions -/

/-- The endpoints an added function brings. -/
def AddedFunction.endpoints (a : AddedFunction) : List String := (a.ffs.map Prod.snd).getD []

theorem foldl_addEndPoint (monitor : Bool × List String) (endpoints : List String) :
    (endpoints.map GadgetOp.addEndPoint).foldl GadgetOp.endpointEffect monitor =
      (monitor.1, monitor.2 ++ endpoints) := by
  induction endpoints generalizing monitor with
  | nil => simp
  | cons ep rest ih =>
    rw [List.map_cons, List.foldl_cons, ih]
    simp [GadgetOp.endpointEffect]

theorem AddedFunction.foldl_script (a : AddedFunction) (functionCount : Nat)
    (monitor : Bool × List String) :
    (a.script functionCount).foldl GadgetOp.endpointEffect monitor =
      (monitor.1, monitor.2 ++ a.endpoints) := by
  -- only a FunctionFS function brings endpoints
  cases hffs : a.ffs with
  | none => simp [script, endpoints, hffs, GadgetOp.endpointEffect]
  | some ffs =>
    obtain ⟨directory, eps⟩ := ffs
    have hrest := foldl_addEndPoint monitor eps
    simpa [script, endpoints, hffs, GadgetOp.endpointEffect] using hrest

/-- Adding functions brings all their endpoints, in order. -/
theorem foldl_addFunctions (as : List AddedFunction) (functionCount : Nat)
    (monitor : Bool × List String) :
    (addFunctions functionCount as).foldl GadgetOp.endpointEffect monitor =
      (monitor.1, monitor.2 ++ as.flatMap AddedFunction.endpoints) := by
  induction as generalizing functionCount monitor with
  | nil => simp [addFunctions]
  | cons a as ih =>
    rw [addFunctions, List.foldl_append, a.foldl_script, ih]
    simp

/-- Adding a function does not end a call. -/
theorem AddedFunction.mem_script {a : AddedFunction} {functionCount : Nat} {op : GadgetOp}
    (h : op ∈ a.script functionCount) : op.ends = false := by
  cases hffs : a.ffs with
  | none =>
    obtain rfl : op = .linkFunction a.function functionCount := by simpa [script, hffs] using h
    rfl
  | some ffs =>
    simp only [script, hffs, List.mem_append, List.mem_map, List.mem_cons, List.not_mem_nil,
      or_false] at h
    rcases h with (rfl | rfl | rfl) | ⟨ep, -, rfl⟩ <;> rfl

theorem mem_addFunctions {as : List AddedFunction} {functionCount : Nat} {op : GadgetOp}
    (h : op ∈ addFunctions functionCount as) : op.ends = false := by
  induction as generalizing functionCount with
  | nil => simp [addFunctions] at h
  | cons a as ih =>
    rcases List.mem_append.mp h with ha | has
    · exact AddedFunction.mem_script ha
    · exact ih has

theorem flatMap_endpoints_addedFunctions (rndisFunction : String) (functions : Functions) :
    (addedFunctions rndisFunction functions).flatMap AddedFunction.endpoints =
      ffsEndpoints functions := by
  -- a function without endpoints adds none, asked for or not
  have hlink (b : Bool) (function : String) :
      (if b then [({ function } : AddedFunction)] else []).flatMap AddedFunction.endpoints =
        [] := by
    cases b <;> rfl
  simp only [addedFunctions, addGenericAndroidFunctions, List.flatMap_append, hlink,
    List.append_nil, ffsEndpoints]
  congr 1 <;> split_ifs <;> rfl

/-! ### Whole scripts -/

/-- The vendor and product ids are set, or the combination is refused. -/
theorem mem_validateAndSetVidPid {functions : Functions} {op : GadgetOp}
    (h : op ∈ validateAndSetVidPid functions) :
    op = .notSupported ∨ ∃ path value, op = .writeFile path value := by
  simp only [validateAndSetVidPid] at h
  split at h
  case h_1 vid pid _ =>
    simp only [setVidPid, List.mem_cons, List.not_mem_nil, or_false] at h
    exact Or.inr (h.elim (fun heq => ⟨_, _, heq⟩) fun heq => ⟨_, _, heq⟩)
  case h_2 => exact Or.inl (by simpa using h)

/-- The operations of a call before its end. -/
def callFront (rndisFunction : String) (functions : Functions) : List GadgetOp :=
  tearDownGadget ++
    (if functions = GadgetFunction.none then []
    else validateAndSetVidPid functions ++
      addFunctions 0 (addedFunctions rndisFunction functions))

/-- The end of a call. -/
def callEnd (functions : Functions) : List GadgetOp :=
  if functions = GadgetFunction.none then [.answer .success] else finishSetup functions

theorem callScript_eq (rndisFunction : String) (functions : Functions) :
    callScript rndisFunction functions =
      callFront rndisFunction functions ++ callEnd functions := by
  unfold callScript callFront callEnd setupFunctions
  split_ifs
  · rw [List.append_nil]
  · rw [List.append_assoc, List.append_assoc]

theorem mem_callFront {rndisFunction : String} {functions : Functions} {op : GadgetOp}
    (h : op ∈ callFront rndisFunction functions) : op.ends = false := by
  have hteardown : ∀ op ∈ tearDownGadget, op.ends = false := by decide
  rcases List.mem_append.mp h with htear | hsetup
  · exact hteardown op htear
  · split_ifs at hsetup
    · cases hsetup
    · rcases List.mem_append.mp hsetup with hids | hadd
      · rcases mem_validateAndSetVidPid hids with rfl | ⟨path, value, rfl⟩ <;> rfl
      · exact mem_addFunctions hadd

/-- The three ends of a call. -/
theorem callEnd_cases (functions : Functions) :
    (functions = GadgetFunction.none ∧ callEnd functions = [.answer .success]) ∨
      (functions ≠ GadgetFunction.none ∧
        (callEnd functions = [.pullUp, .setApplied, .answer .success] ∨
          callEnd functions = [.startMonitor, .answerPullUp])) := by
  unfold callEnd finishSetup
  split_ifs with hnone
  · exact Or.inl ⟨hnone, rfl⟩
  · exact Or.inr ⟨hnone, Or.inl rfl⟩
  · exact Or.inr ⟨hnone, Or.inr rfl⟩

/-- Operations without an effect. -/
theorem foldl_eq_of_noEffect {σ : Type*} {eff : σ → GadgetOp → σ} (ops : List GadgetOp)
    (h : ∀ op ∈ ops, ∀ s, eff s op = s) (s : σ) : ops.foldl eff s = s := by
  induction ops with
  | nil => rfl
  | cons op ops ih =>
    rw [List.foldl_cons, h op List.mem_cons_self]
    exact ih fun op' hop' => h op' (List.mem_cons_of_mem _ hop')

/-- **The links of a call**: whatever was linked before, a call that gets through leaves exactly the
links of its functions. -/
theorem foldl_linkEffect_callScript (rndisFunction : String) (functions : Functions)
    (links : List Link) :
    (callScript rndisFunction functions).foldl GadgetOp.linkEffect links =
      setupLinks rndisFunction functions := by
  -- the teardown removes every link
  have hteardown : tearDownGadget.foldl GadgetOp.linkEffect links = [] := rfl
  rw [callScript, List.foldl_append, hteardown]
  split_ifs with hnone
  · rw [hnone]
    rfl
  · rw [List.foldl_append, foldl_eq_of_noEffect (validateAndSetVidPid functions)]
    · rfl
    · intro op hop links'
      rcases mem_validateAndSetVidPid hop with rfl | ⟨path, value, rfl⟩ <;> rfl

/-- **The endpoints of a call**: what a stopped monitor left in the list stays in front. -/
theorem foldl_endpointEffect_callScript (rndisFunction : String) (functions : Functions)
    (monitor : Bool × List String) :
    ((callScript rndisFunction functions).foldl GadgetOp.endpointEffect monitor).2 =
      (if monitor.1 then [] else monitor.2) ++ ffsEndpoints functions := by
  have hteardown : tearDownGadget.foldl GadgetOp.endpointEffect monitor =
      (false, if monitor.1 then [] else monitor.2) := rfl
  -- the end of the setup appends nothing
  have hfinish (m : Bool × List String) :
      ((finishSetup functions).foldl GadgetOp.endpointEffect m).2 = m.2 := by
    simp only [finishSetup]
    split_ifs <;> rfl
  rw [callScript, List.foldl_append, hteardown]
  by_cases hnone : functions = GadgetFunction.none
  · -- nothing is added for the empty mask
    rw [if_pos hnone, hnone]
    exact (List.append_nil _).symm
  · rw [if_neg hnone, List.foldl_append,
      foldl_eq_of_noEffect (validateAndSetVidPid functions), setupFunctions,
      List.foldl_append, hfinish, foldl_addFunctions, flatMap_endpoints_addedFunctions]
    intro op hop m
    rcases mem_validateAndSetVidPid hop with rfl | ⟨path, value, rfl⟩ <;> rfl

/-- Once the flag is set or the monitor started, the call only answers. -/
theorem pairwise_callScript (rndisFunction : String) (functions : Functions) :
    (callScript rndisFunction functions).Pairwise
      fun op later => op.finishes = true → later.answers = true := by
  rw [callScript_eq]
  -- only the end of a script ends the setup
  have hfront : ∀ op ∈ callFront rndisFunction functions, op.finishes = false :=
    fun op hop => GadgetOp.finishes_of_not_ends (mem_callFront hop)
  refine List.pairwise_append.mpr ⟨?_, ?_, ?_⟩
  · exact List.pairwise_of_forall_mem_list fun op hop _ _ hfin => by simp [hfront op hop] at hfin
  · rcases callEnd_cases functions with ⟨-, hend⟩ | ⟨-, hend | hend⟩ <;> rw [hend] <;> decide
  · exact fun op hop _ _ hfin => by simp [hfront op hop] at hfin

end GloDroid.GadgetHal

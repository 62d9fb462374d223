import GloDroid.Base.Machine
import GloDroid.Base.Ledger
import GloDroid.HwComposer.Layer

/-!
# The Supplier of Buffer Infos

The composer asks a library, YAGI, what a buffer looks like. The client sends commands with the
sizes of its structures, and the supplier answers only if they are the sizes it was compiled with; a
command can be sent to test whether it is supported. `yagi_crosapi` answers with what the gralloc
module says of the buffer. All clients in a process share one gralloc module, with a use count.

The two sides may be compiled from different versions of the header: their sizes are parameters.
-/

namespace GloDroid.HwComposer

open GloDroid.Base

/-! ## Messages -/

/-- The sizes of `yagi_handle_in` and `yagi_get_bi_out_v1` in one of the two sides. -/
structure YagiSizes where
  handleIn : Nat
  getBiOutV1 : Nat
  deriving DecidableEq, Repr

def einval : Int := -22
def enotsup : Int := -95

/-- `Y_BASE` -/
def yBase : UInt32 := 0x59000000

/-- `YAGI_GET_BUFFER_INFO_V1_CMD_ID` -/
def yagiGetBufferInfoV1CmdId : UInt32 := 1 + yBase

/-- `yagi_in_data` -/
structure YagiInData where
  cmdId : UInt32
  structSize : Nat
  testOnly : UInt32 := 0
  deriving DecidableEq, Repr

/-- `yagi_handle_in`. A handle is what gralloc knows of the buffer; `none` is the null pointer. -/
structure YagiHandleIn (H : Type) where
  common : YagiInData
  handle : Option H := none

/-- What both sides keep for each plane in arrays of `YAGI_MAX_PLANES_V1` entries. -/
structure BoPlane where
  pitch : UInt32 := 0
  offset : UInt32 := 0
  primeFd : Int32 := 0
  modifier : UInt64 := 0
  deriving DecidableEq, Repr

/-- `YAGI_MAX_PLANES_V1` -/
def yagiMaxPlanesV1 : Nat := 4

/-- `yagi_get_bi_out_v1` -/
structure YagiGetBiOutV1 where
  structSize : Nat
  width : UInt32 := 0
  height : UInt32 := 0
  drmFormat : UInt32 := 0
  planes : List BoPlane := List.replicate yagiMaxPlanesV1 {}
  numPlanes : Int32 := 0
  yagiFlags : UInt32 := 0
  deriving DecidableEq, Repr

/-- An array entry is written; no result beyond the end. -/
def setPlane (planes : List BoPlane) (i : Nat) (plane : Option BoPlane) : Option (List BoPlane) :=
  match plane with
  | some plane => if i < planes.length then some (planes.set i plane) else none
  | none => none

/-- The loop over the planes: `for (int i = 0; i < num; i++)`. -/
def copyPlanes (source planes : List BoPlane) (num : Nat) : Option (List BoPlane) :=
  (List.range num).foldlM (fun planes i => setPlane planes i source[i]?) planes

/-! ## The supplier -/

/-- `CrosGralloc0BufferInfo` -/
structure CrosGralloc0BufferInfo where
  drmFourcc : UInt32
  numFds : Int32
  fds : Fin 4 → Int32
  modifier : UInt64
  offset : Fin 4 → Int32
  stride : Fin 4 → Int32

/-- What `perform` returns if it fails. -/
abbrev PerformError := { ret : Int // ret ≠ 0 }

/-- What `perform` of the gralloc module answers for a handle. -/
structure GrallocAnswers where
  dimensions : Except PerformError (UInt32 × UInt32)
  format : Except PerformError Int32
  usage : Except PerformError UInt32
  bufferInfo : Except PerformError CrosGralloc0BufferInfo

/-- The arrays of the answer, as the planes of the result. -/
def CrosGralloc0BufferInfo.planes (info : CrosGralloc0BufferInfo) : List BoPlane :=
  (List.finRange 4).map fun i =>
    { pitch := (info.stride i).toUInt32, offset := (info.offset i).toUInt32
      primeFd := info.fds i, modifier := info.modifier }

/-- The result of a command, and the output structure. -/
abbrev YagiAnswer := Int × YagiGetBiOutV1

/-- `yagi_get_bi_v1`; no result if a plane is written beyond the end. -/
def yagiGetBiV1 (handle : Option GrallocAnswers) (out : YagiGetBiOutV1) : Option YagiAnswer :=
  match handle with
  | none => some (einval, out)
  | some gralloc =>
    match gralloc.dimensions with
    | .error ret => some (ret.1, out)
    | .ok (width, height) =>
      match gralloc.format with
      | .error ret => some (ret.1, out)
      | .ok _ =>
        match gralloc.usage with
        | .error ret => some (ret.1, out)
        | .ok _ =>
          match gralloc.bufferInfo with
          | .error ret => some (ret.1, out)
          | .ok info =>
            (copyPlanes info.planes out.planes info.numFds.toNatClampNeg).map fun planes =>
              (0, { out with
                width, height, planes
                drmFormat := info.drmFourcc, numPlanes := info.numFds, yagiFlags := 0 })

/-- `yagi_perform` with pointers that are not null. -/
def yagiPerform (supplier : YagiSizes) (in' : YagiHandleIn GrallocAnswers) (out : YagiGetBiOutV1) :
    Option YagiAnswer :=
  if in'.common.cmdId = yagiGetBufferInfoV1CmdId then
    if in'.common.structSize ≠ supplier.handleIn ∨ out.structSize ≠ supplier.getBiOutV1 then
      some (einval, out)
    else if in'.common.testOnly ≠ 0 then some (0, out)
    else yagiGetBiV1 in'.handle out
  else some (enotsup, out)

/-! ## The client -/

/-- The part of `BufferInfo` that a supplier fills in. -/
structure BoInfo where
  width : UInt32 := 0
  height : UInt32 := 0
  format : UInt32 := 0
  planes : List BoPlane := List.replicate yagiMaxPlanesV1 {}
  deriving DecidableEq, Repr

/-- `BufferInfoYagi::GetBoInfo`; the outer `none` is a plane beyond the end. -/
def getBoInfo (client supplier : YagiSizes) (handle : Option GrallocAnswers) :
    Option (Option BoInfo) :=
  match handle with
  | none => some none
  | some _ =>
    let ybi : YagiGetBiOutV1 := { structSize := client.getBiOutV1 }
    let getBiIn : YagiHandleIn GrallocAnswers :=
      { common := { cmdId := yagiGetBufferInfoV1CmdId, structSize := client.handleIn }, handle }
    match yagiPerform supplier getBiIn ybi with
    | none => none
    | some (ret, ybi) =>
      if ret ≠ 0 then some none
      else
        let bi : BoInfo := { width := ybi.width, height := ybi.height, format := ybi.drmFormat }
        (copyPlanes ybi.planes bi.planes ybi.numPlanes.toNatClampNeg).map fun planes =>
          some { bi with planes }

/-- The test command of `CreateInstance` -/
def probe (client supplier : YagiSizes) : Option YagiAnswer :=
  yagiPerform supplier
    { common :=
        { cmdId := yagiGetBufferInfoV1CmdId, structSize := client.handleIn, testOnly := 1 } }
    { structSize := client.getBiOutV1 }

/-! ## Instances -/

/-- What is held: the library of an instance in `dl_handle_`, its pointer from `yagi_init`, and the
gralloc module. -/
inductive YagiResource where
  | library (instance' : Nat)
  | yagi (instance' : Nat)
  | gralloc
  deriving DecidableEq, Repr

/-- `BufferInfoYagi`; a pointer is modelled by whether it is set. -/
structure BufferInfoYagi where
  dlHandle : Bool := false
  yagiPerformFn : Bool := false
  yagiInitFn : Bool := false
  yagiDestroyFn : Bool := false
  yagi : Bool := false
  deriving DecidableEq, Repr

/-- What the system answers to `yagi_init` and `CreateInstance`. -/
structure YagiEnv where
  /-- the property names a library -/
  libName : Bool := true
  dlopen : Bool := true
  performSym : Bool := true
  initSym : Bool := true
  destroySym : Bool := true
  /-- `hw_get_module` finds a gralloc module -/
  getModule : Bool := true
  /-- that is called `CrOS Gralloc` -/
  crosName : Bool := true
  /-- and has a `perform` -/
  hasPerform : Bool := true
  deriving DecidableEq, Repr

/-- The process: the use count in `cros_gralloc`, and the instances that exist. -/
structure YagiProcess where
  refcount : Nat := 0
  instances : List Nat := []
  /-- the number of the next instance -/
  next : Nat := 0
  ledger : Ledger YagiResource := {}
  deriving DecidableEq, Repr

namespace YagiProcess

def acquire (s : YagiProcess) (r : YagiResource) (on : List YagiResource) : YagiProcess :=
  { s with ledger := s.ledger.acquire r on }

def use (s : YagiProcess) (r : YagiResource) : YagiProcess := { s with ledger := s.ledger.use r }

def release (s : YagiProcess) (r : YagiResource) : YagiProcess :=
  { s with ledger := s.ledger.release r }

/-- The end of `yagi_init`. -/
def retain (s : YagiProcess) (n : Nat) : Bool × YagiProcess :=
  (true, { s with refcount := s.refcount + 1 }.acquire (.yagi n) [.library n, .gralloc])

/-- `yagi_init` for instance `n`. -/
def yagiInit (s : YagiProcess) (n : Nat) (env : YagiEnv) : Bool × YagiProcess :=
  if s.refcount = 0 then
    if !env.getModule then (false, s)
    else
      let s := s.acquire .gralloc []
      if !env.crosName then (false, s.release .gralloc)
      else if !env.hasPerform then (false, s.release .gralloc)
      else s.retain n
  else s.retain n

/-- `yagi_destroy` for instance `n`. -/
def yagiDestroy (s : YagiProcess) (n : Nat) : YagiProcess :=
  if s.refcount = 0 then s
  else
    let s := { s with refcount := s.refcount - 1 }.release (.yagi n)
    if s.refcount = 0 then s.release .gralloc else s

/-- `~BufferInfoYagi`; `yagi_destroy` is code of the library. -/
def destroy (s : YagiProcess) (n : Nat) (big : BufferInfoYagi) : YagiProcess :=
  let s := if big.yagiDestroyFn && big.yagi then (s.use (.library n)).yagiDestroy n else s
  if big.dlHandle then s.release (.library n) else s

/-- The end of `CreateInstance`, with a pointer from `yagi_init`. -/
def testInstance (client supplier : YagiSizes) (s : YagiProcess) (n : Nat) (big : BufferInfoYagi) :
    YagiProcess :=
  match probe client supplier with
  | some (0, _) => { s with instances := n :: s.instances }
  | _ => s.destroy n { big with yagi := true }

/-- `BufferInfoYagi::CreateInstance`. -/
def createInstance (client supplier : YagiSizes) (s : YagiProcess) (env : YagiEnv) : YagiProcess :=
  if !env.libName then s
  else
    let n := s.next
    let s := { s with next := n + 1 }
    let big : BufferInfoYagi := {}
    if !env.dlopen then s.destroy n big
    else
      let s := s.acquire (.library n) []
      let big := { big with dlHandle := true, yagiPerformFn := env.performSym }
      if !big.yagiPerformFn then s.destroy n big
      else
        let big := { big with yagiInitFn := env.initSym }
        if !big.yagiInitFn then s.destroy n big
        else
          let big := { big with yagiDestroyFn := env.destroySym }
          if !big.yagiDestroyFn then s.destroy n big
          else
            match (s.use (.library n)).yagiInit n env with
            | (false, s) => s.destroy n big
            | (true, s) => (s.use (.library n)).testInstance client supplier n big

/-- An instance that was created. -/
def created : BufferInfoYagi where
  dlHandle := true
  yagiPerformFn := true
  yagiInitFn := true
  yagiDestroyFn := true
  yagi := true

end YagiProcess

/-- What the clients in the process do. -/
inductive YagiAction where
  | createInstance (env : YagiEnv)
  | getBoInfo (n : Nat)
  | destroy (n : Nat)
  deriving DecidableEq, Repr

/-- All runs of clients in a process. `yagi_perform` is code of the library that uses the gralloc
module. -/
def yagiMachine (client supplier : YagiSizes) : Machine YagiProcess YagiAction where
  start s := s = {}
  next s
    | .createInstance env => some (s.createInstance client supplier env)
    | .getBoInfo n =>
      if n ∈ s.instances then some (((s.use (.library n)).use (.yagi n)).use .gralloc) else none
    | .destroy n =>
      if n ∈ s.instances then
        some ({ s with instances := s.instances.erase n }.destroy n YagiProcess.created)
      else none

end GloDroid.HwComposer

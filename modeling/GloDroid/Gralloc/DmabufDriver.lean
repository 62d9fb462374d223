import GloDroid.Base.OpenFiles
import GloDroid.Gralloc.Buffers
import GloDroid.Gralloc.GpuProbe

/-!
# The dmabuf-heap Backend

The backend opens its heaps with the first buffer that is created: a system without the uncached or
the CMA heap gets a duplicate of the system heap in its place. A buffer keeps a duplicate of its
dmabuf for each plane, and the inode by which minigbm tells buffers apart.

A run mixes the calls of the backend with callers that open and close descriptors of their own. The
model keeps the file behind each descriptor, so that it can be said what a plane refers to.
-/

namespace GloDroid.Gralloc

open GloDroid.Base

/-! ## Files -/

/-- The files behind descriptors: a heap, a dmabuf with the heap it was allocated from, or another
file. -/
inductive DmabufFile where
  | heap (h : Heap)
  | dmabuf (h : Heap) (id : Nat)
  | other (id : Nat)
  deriving DecidableEq, Repr

/-- `drv_get_inode`. The inode is cut to 32 bits, and zero if `fstat` fails. -/
def drvGetInode (stIno : DmabufFile → UInt64) (t : OpenFiles DmabufFile) (fd : Option Nat) :
    UInt32 :=
  match t.fileOf fd with
  | some f => (stIno f).toUInt32
  | none => 0

/-! ## The driver -/

/-- `DmabufDriver`. -/
structure DmabufDriver where
  systemHeapFd : UniqueFd := none
  systemHeapUncachedFd : UniqueFd := none
  cmaHeapFd : UniqueFd := none
  deriving DecidableEq, Repr

/-- The descriptors of the heaps. -/
def DmabufDriver.stored (d : DmabufDriver) : List Nat :=
  d.cmaHeapFd.toList ++ (d.systemHeapUncachedFd.toList ++ d.systemHeapFd.toList)

/-- The descriptor for a heap. -/
def DmabufDriver.heapFd (d : DmabufDriver) : Heap → UniqueFd
  | .system => d.systemHeapFd
  | .systemUncached => d.systemHeapUncachedFd
  | .cma => d.cmaHeapFd

/-- What `open` answers for the nodes of the heaps, and `dup` in place of a heap. -/
structure DmabufInitEnv where
  openHeap : Heap → Option Nat
  dup : Heap → Option Nat

/-- `DmabufBoPriv` with what the rest of minigbm keeps of the buffer; `imported` tells buffers of
`bo_import` from those of `bo_create`. -/
structure DmabufBo where
  fds : List UniqueFd
  inodes : List UInt32
  useFlags : UseFlags
  imported : Bool
  deriving DecidableEq, Repr

/-- The descriptors in the `UniqueFd`s of a buffer. -/
def DmabufBo.stored (bo : DmabufBo) : List Nat := bo.fds.filterMap id

/-- The backend in a process. -/
structure DmabufState where
  files : OpenFiles DmabufFile := {}
  /-- `drv->priv` -/
  priv : Option DmabufDriver := none
  bos : List DmabufBo := []

namespace DmabufState

/-- The descriptors in live `UniqueFd`s. -/
def stored (s : DmabufState) : List Nat :=
  s.priv.elim [] DmabufDriver.stored ++ s.bos.flatMap DmabufBo.stored

/-- Opens the node of a heap, or duplicates the system heap. -/
def openOrDup (env : DmabufInitEnv) (h : Heap) (system : Nat) (t : OpenFiles DmabufFile) :
    Option (UniqueFd × OpenFiles DmabufFile) :=
  match env.openHeap h with
  | some fd => (t.openFd (some fd) (.heap h)).map fun t' => (some fd, t')
  -- "Falling back to system."
  | none => t.dup (some system) (env.dup h)

/-- `dmabuf_get_or_init_driver`. -/
def dmabufGetOrInitDriver (s : DmabufState) (env : DmabufInitEnv) :
    Option (Option DmabufDriver × DmabufState) :=
  match s.priv with
  | some d => some (some d, s)
  | none =>
    match env.openHeap .system with
    -- "Can't open system heap"
    | none => some (none, s)
    | some system => do
      let t ← s.files.openFd (some system) (.heap .system)
      let (uncached, t) ← openOrDup env .systemUncached system t
      let (cma, t) ← openOrDup env .cma system t
      let d : DmabufDriver :=
        { systemHeapFd := some system, systemHeapUncachedFd := uncached, cmaHeapFd := cma }
      some (some d, { s with files := t, priv := some d })

/-- `dmabuf_driver_close`. Nothing else has the shared pointer, so the driver is destroyed, its last
member first. -/
def dmabufDriverClose (s : DmabufState) : DmabufState :=
  match s.priv with
  | some d => { s with files := s.files.closeAll d.stored, priv := none }
  | none => s

/-! ## Buffers -/

/-- The loop over the planes: `dup` for each of them. -/
def dupPlanes (src answers : Nat → Option Nat) :
    List Nat → OpenFiles DmabufFile → Option (List UniqueFd × OpenFiles DmabufFile)
  | [], t => some ([], t)
  | plane :: planes, t => do
    let (fd, t) ← t.dup (src plane) (answers plane)
    let (fds, t) ← dupPlanes src answers planes t
    some (fd :: fds, t)

/-- What the environment answers to `dmabuf_bo_create`: the descriptor and the identity of the new
dmabuf, or `errno`, and the duplicates for the planes. -/
structure CreateEnv where
  init : DmabufInitEnv
  alloc : Option (Nat × Nat)
  errno : Nat := 0
  dups : Nat → Option Nat

/-- `dmabuf_bo_create`, with its result. -/
def dmabufBoCreate (s : DmabufState) (drv : DrvHelpers) (stIno : DmabufFile → UInt64)
    (format : UInt32) (useFlags : UseFlags) (env : CreateEnv) : Option (Int × DmabufState) := do
  let (d, s) ← s.dmabufGetOrInitDriver env.init
  match d with
  | none => some (einval, s)
  | some d =>
    match s.files.fileOf (d.heapFd (heapOf useFlags)), env.alloc with
    | some (.heap h), some (fd, id) => do
      let t ← s.files.openFd (some fd) (.dmabuf h id)
      let inode := drvGetInode stIno t (some fd)
      let planes := List.range (drv.numPlanes format)
      let (fds, t) ← dupPlanes (fun _ => some fd) env.dups planes t
      let bo : DmabufBo :=
        { fds, inodes := planes.map fun _ => inode, useFlags, imported := false }
      -- `buf_fd` is destroyed
      some (0, { s with files := t.close fd, bos := bo :: s.bos })
    -- "Failed to allocate dmabuf"
    | _, _ => some (-env.errno, s)

/-- `dmabuf_bo_import` in `drv_bo_import`, which takes the inodes from the descriptors of the
caller; `empty` says that the buffer has no private data yet. -/
def dmabufBoImport (s : DmabufState) (drv : DrvHelpers) (stIno : DmabufFile → UInt64)
    (empty : Bool) (format : UInt32) (useFlags : UseFlags) (fds dups : Nat → Option Nat) :
    Option (Int × DmabufState) :=
  if !empty then some (einval, s)
  else do
    let planes := List.range (drv.numPlanes format)
    let (own, t) ← dupPlanes fds dups planes s.files
    let bo : DmabufBo :=
      { fds := own, inodes := planes.map fun plane => drvGetInode stIno t (fds plane), useFlags,
        imported := true }
    some (0, { s with files := t, bos := bo :: s.bos })

/-- `dmabuf_bo_get_plane_fd`, with its result: the duplicate goes to the caller. -/
def dmabufBoGetPlaneFd (s : DmabufState) (bo plane : Nat) (answer : Option Nat) :
    Option (Option Nat × DmabufState) := do
  let priv ← s.bos[bo]?
  let (fd, t) ← s.files.dupForeign (priv.fds[plane]?).join answer
  some (fd, { s with files := t })

/-- `dmabuf_bo_destroy`. -/
def dmabufBoDestroy (s : DmabufState) (bo : Nat) : Option DmabufState := do
  let priv ← s.bos[bo]?
  some { s with files := s.files.closeAll priv.stored, bos := s.bos.eraseIdx bo }

end DmabufState

/-! ## Runs -/

inductive DmabufCall where
  | boCreate (format : UInt32) (useFlags : UseFlags) (env : DmabufState.CreateEnv)
  | boImport (empty : Bool) (format : UInt32) (useFlags : UseFlags) (fds dups : Nat → Option Nat)
  | boGetPlaneFd (bo plane : Nat) (answer : Option Nat)
  | boDestroy (bo : Nat)
  | driverClose
  | callerOpen (fd : Option Nat) (file : DmabufFile)
  | callerClose (fd : Nat)

/-- All runs of calls, with `stIno` the inodes of the files. -/
def dmabufMachine (drv : DrvHelpers) (stIno : DmabufFile → UInt64) :
    Machine DmabufState DmabufCall where
  start s := s = {}
  next s
    | .boCreate format useFlags env =>
      (s.dmabufBoCreate drv stIno format useFlags env).map Prod.snd
    | .boImport empty format useFlags fds dups =>
      (s.dmabufBoImport drv stIno empty format useFlags fds dups).map Prod.snd
    | .boGetPlaneFd bo plane answer => (s.dmabufBoGetPlaneFd bo plane answer).map Prod.snd
    | .boDestroy bo => s.dmabufBoDestroy bo
    | .driverClose => some s.dmabufDriverClose
    | .callerOpen fd file =>
      (s.files.openForeign fd file).map fun files => { s with files }
    | .callerClose fd => (s.files.closeForeign fd).map fun files => { s with files }

end GloDroid.Gralloc

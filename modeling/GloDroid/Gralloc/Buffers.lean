import GloDroid.Base.Machine
import GloDroid.Gralloc.GbmMesa

/-!
# Calls on Gralloc Buffers

The creation of a buffer by the dmabuf-heap backend, and the calls that both backends implement
alike: `bo_import`, `bo_get_plane_fd` and `bo_destroy`. A run mixes them with callers that open and
close descriptors of their own; a process uses one of the two backends, but nothing depends on that.
-/

namespace GloDroid.Gralloc

open GloDroid.Base

/-- The heap a dmabuf is allocated from. -/
inductive Heap where
  | system
  | systemUncached
  | cma
  deriving DecidableEq, Repr

/-- The choice of the heap in `dmabuf_bo_create`. -/
def heapOf (useFlags : UseFlags) : Heap :=
  let heap := Heap.system
  let heap := if !useFlags.sw then .systemUncached else heap
  if useFlags.scanout then .cma else heap

/-- What the environment answers to `dmabuf_bo_create`: the descriptor of `DMA_HEAP_IOCTL_ALLOC` on
the chosen heap, and its duplicate for each plane. `none` stands for an error. -/
structure DmabufEnv where
  driverReady : Bool
  alloc : Heap → Option Nat
  dups : Nat → Option Nat

namespace Buffers

/-- `dmabuf_bo_create`. The `UniqueFd` with the allocated descriptor is closed on return. -/
def dmabufBoCreate (s : Buffers) (drv : DrvHelpers) (format : UInt32) (useFlags : UseFlags)
    (env : DmabufEnv) : Option Buffers :=
  if !env.driverReady then some s
  else
    match env.alloc (heapOf useFlags) with
    | none => some s
    | some fd =>
      match s.table.openFd (some fd) with
      | none => none
      | some t =>
        let fds := (List.range (drv.numPlanes format)).map env.dups
        match t.openAll fds with
        | none => none
        | some t => some (s.addBo (t.close fd) fds)

/-- `bo_import` of both backends; `empty` says that the buffer has no private data yet. The
descriptors of the caller are duplicated. -/
def boImport (s : Buffers) (drv : DrvHelpers) (empty : Bool) (format : UInt32)
    (dups : Nat → Option Nat) : Option Buffers :=
  if !empty then some s
  else
    let fds := (List.range (drv.numPlanes format)).map dups
    match s.table.openAll fds with
    | none => none
    | some t => some (s.addBo t fds)

/-- `bo_get_plane_fd` of both backends, with its result: the duplicate goes to the caller.
Duplicating an empty `UniqueFd` fails. -/
def boGetPlaneFd (s : Buffers) (bo plane : Nat) (dup : Option Nat) :
    Option (Option Nat × Buffers) :=
  match s.bos[bo]? with
  | none => none
  | some priv =>
    let result := if (priv.fds[plane]?).join.isSome then dup else none
    match s.table.openForeign result with
    | none => none
    | some table => some (result, { s with table })

/-- `bo_destroy` of both backends: the `UniqueFd`s are destroyed. -/
def boDestroy (s : Buffers) (bo : Nat) : Option Buffers :=
  match s.bos[bo]? with
  | none => none
  | some priv => some { table := s.table.closeAll priv.stored, bos := s.bos.eraseIdx bo }

end Buffers

/-- A call, with what the environment answers to it. -/
inductive BufferCall where
  | gbmMesaBoCreate (width height format : UInt32) (useFlags : UseFlags) (env : GbmMesaEnv)
  | dmabufBoCreate (format : UInt32) (useFlags : UseFlags) (env : DmabufEnv)
  | boImport (empty : Bool) (format : UInt32) (dups : Nat → Option Nat)
  | boGetPlaneFd (bo plane : Nat) (dup : Option Nat)
  | boDestroy (bo : Nat)
  | callerOpen (fd : Option Nat)
  | callerClose (fd : Nat)

/-- All runs of calls, starting without buffers. -/
def bufferMachine (drv : DrvHelpers) : Machine Buffers BufferCall where
  start s := ∃ foreign, s = { table := { foreign } }
  next s
    | .gbmMesaBoCreate width height format useFlags env =>
      s.gbmMesaBoCreate drv width height format useFlags env
    | .dmabufBoCreate format useFlags env => s.dmabufBoCreate drv format useFlags env
    | .boImport empty format dups => s.boImport drv empty format dups
    | .boGetPlaneFd bo plane dup => (s.boGetPlaneFd bo plane dup).map Prod.snd
    | .boDestroy bo => s.boDestroy bo
    | .callerOpen fd => (s.table.openForeign fd).map fun table => { s with table }
    | .callerClose fd => (s.table.closeForeign fd).map fun table => { s with table }

end GloDroid.Gralloc

import GloDroid.Base.Machine
import GloDroid.Base.Ledger
import GloDroid.Base.SharedOwners
import GloDroid.Gralloc.GpuProbe

/-!
# The Driver of the gbm_mesa Backend

The backend opens its driver with the first call that needs it: it finds the nodes, loads the
library of the wrapper and creates a GBM device on a node. The driver is kept by the minigbm driver,
and by each buffer that was allocated or imported with it; the last of them to go destroys the
device, closes the library, and closes the nodes.

The descriptors of the planes are not part of this model; here, they belong to someone else.
-/

namespace GloDroid.Gralloc

open GloDroid.Base

/-! ## Resources -/

/-- What a driver and its buffers hold: the descriptor in `gbm_node_fd`, the library in `dl_handle`
and the device in `gbm_dev` of a driver, and a `gbm_bo` in the mapper. -/
inductive GbmResource where
  | node (drv : Nat)
  | library (drv : Nat)
  | device (drv : Nat)
  | bo (gbmBo : Nat)
  deriving DecidableEq, Repr

/-- The descriptors of the process and the resources of GBM. -/
structure GbmWorld where
  fds : ProbeFds
  ledger : Ledger GbmResource := {}
  deriving DecidableEq, Repr

namespace GbmWorld

def acquire (w : GbmWorld) (r : GbmResource) (on : List GbmResource) : GbmWorld :=
  { w with ledger := w.ledger.acquire r on }

def use (w : GbmWorld) (r : GbmResource) : GbmWorld := { w with ledger := w.ledger.use r }

def release (w : GbmWorld) (r : GbmResource) : GbmWorld :=
  { w with ledger := w.ledger.release r }

end GbmWorld

/-! ## The driver -/

/-- `GbmMesaDriver`; a pointer is modelled by whether it is set. -/
structure GbmMesaDriver where
  wrapper : Bool := false
  gbmDev : Bool := false
  dlHandle : Bool := false
  gbmNodeFd : UniqueFd := none
  gpuNodeFd : UniqueFd := none
  deriving DecidableEq, Repr

namespace GbmMesaDriver

/-- The descriptors of the nodes. -/
def fds (d : GbmMesaDriver) : List Nat := d.gbmNodeFd.toList ++ d.gpuNodeFd.toList

/-- `~GbmMesaDriver`; `dev_destroy` is code of the library. -/
def destroy (d : GbmMesaDriver) (drv : Nat) (w : GbmWorld) : GbmWorld :=
  let w := if d.gbmDev then (w.use (.library drv)).release (.device drv) else w
  let w := if d.dlHandle then w.release (.library drv) else w
  -- the members follow, the last one first
  let w := { w with fds := d.gpuNodeFd.destroy w.fds }
  let w := if d.gbmNodeFd.isSome then w.release (.node drv) else w
  { w with fds := d.gbmNodeFd.destroy w.fds }

end GbmMesaDriver

/-- What the system answers while a driver is opened. -/
structure InitEnv where
  /-- `glob` for the card nodes and for the render nodes -/
  glob : Bool → Option (List DrmNode)
  /-- `dup` of the descriptor of the GPU -/
  dup : Option Nat := none
  dlopen : Bool := true
  dlsym : Bool := true
  getGbmOps : Bool := true
  devCreate : Bool := true

namespace GbmMesaDriver

/-- The nodes in `gbm_mesa_get_or_init_driver`. A mapper does without a KMS node. -/
def findNodes (mapperSphal : Bool) (env : InitEnv) (f : ProbeFds) :
    Option (GbmMesaDriver × ProbeFds) :=
  match isSeparateDcGpu env.glob none f with
  | none => none
  | some (lookForKms, gpuNodeFd, f) =>
    if lookForKms && !mapperSphal then
      match openDrmDev env.glob true foundKms (none, f) with
      | none => none
      | some (_, gbmNodeFd, f) => some ({ gbmNodeFd, gpuNodeFd }, f)
    else
      -- the duplicate of no descriptor is an error
      let gbmNodeFd := if gpuNodeFd.isSome then env.dup else none
      match f.table.openFd gbmNodeFd with
      | none => none
      | some table =>
        some ({ gbmNodeFd, gpuNodeFd }, { f with table, opened := f.opened ++ gbmNodeFd.toList })

/-- The library and the device in `gbm_mesa_get_or_init_driver`. The result says whether it got to
the end. -/
def load (d : GbmMesaDriver) (drv : Nat) (env : InitEnv) (w : GbmWorld) :
    Bool × GbmMesaDriver × GbmWorld :=
  if d.gbmNodeFd = none then (false, d, w)
  else
    let w := w.acquire (.node drv) []
    if !env.dlopen then (false, d, w)
    else
      let d := { d with dlHandle := true }
      let w := w.acquire (.library drv) []
      if !env.dlsym then (false, d, w)
      else
        let w := w.use (.library drv)
        let d := { d with wrapper := env.getGbmOps }
        if !d.wrapper then (false, d, w)
        else
          let w := w.use (.library drv)
          let d := { d with gbmDev := env.devCreate }
          if !d.gbmDev then (false, d, w)
          else (true, d, w.acquire (.device drv) [.library drv, .node drv])

end GbmMesaDriver

/-! ## Buffers and the backend -/

/-- `GbmMesaBoPriv`: the shared pointer to the driver and the imported buffer. -/
structure GbmMesaBoPriv where
  drv : Option Nat := none
  gbmBo : Option Nat := none
  deriving DecidableEq, Repr

/-- The backend in a process. -/
structure MesaState where
  table : FdTable := {}
  ledger : Ledger GbmResource := {}
  drivers : SharedHeap GbmMesaDriver := {}
  /-- the shared pointer in `drv->priv` -/
  priv : Option Nat := none
  bos : List GbmMesaBoPriv := []
  /-- a null pointer was used, or an assertion failed -/
  crashed : Bool := false
  deriving DecidableEq, Repr

namespace MesaState

def world (s : MesaState) : GbmWorld := { fds := { table := s.table }, ledger := s.ledger }

def withWorld (s : MesaState) (w : GbmWorld) : MesaState :=
  { s with table := w.fds.table, ledger := w.ledger }

section WithWorld

variable (s : MesaState) (w : GbmWorld)

@[simp] theorem withWorld_table : (s.withWorld w).table = w.fds.table := rfl
@[simp] theorem withWorld_drivers : (s.withWorld w).drivers = s.drivers := rfl
@[simp] theorem withWorld_bos : (s.withWorld w).bos = s.bos := rfl
end WithWorld

def crash (s : MesaState) : MesaState := { s with crashed := true }

/-- A shared pointer to the driver is destroyed. -/
def dropDriver (s : MesaState) (drv : Nat) : MesaState :=
  let (dead, drivers) := s.drivers.release drv
  match dead with
  | some d => { s with drivers }.withWorld (d.destroy drv s.world)
  | none => { s with drivers }

/-- `gbm_mesa_get_or_init_driver`, with the shared pointer that it returns. -/
def gbmMesaGetOrInitDriver (s : MesaState) (mapperSphal : Bool) (env : InitEnv) :
    Option (Option Nat × MesaState) :=
  match s.priv with
  | some drv => some (some drv, { s with drivers := s.drivers.copy drv })
  | none =>
    match GbmMesaDriver.findNodes mapperSphal env s.world.fds with
    | none => none
    | some (d, fds) =>
      let drv := s.drivers.next
      match d.load drv env { s.world with fds } with
      | (false, d, w) => some (none, s.withWorld (d.destroy drv w))
      | (true, d, w) =>
        -- the pointer that is returned, and its copy in `drv->priv`
        let drivers := (s.drivers.make d).copy drv
        some (some drv, { s with drivers, priv := some drv }.withWorld w)

/-- `gbm_mesa_driver_close`. -/
def gbmMesaDriverClose (s : MesaState) : MesaState :=
  match s.priv with
  | some drv => { s with priv := none }.dropDriver drv
  | none => s

/-- Code of the library runs on the device of a driver. -/
def useDevice (s : MesaState) (drv : Nat) : MesaState :=
  s.withWorld ((s.world.use (.library drv)).use (.device drv))

/-- The end of `gbm_mesa_bo_create`. -/
def finishCreate (s : MesaState) (drv : Nat) (allocated : Bool) : MesaState :=
  if allocated then
    { s with drivers := s.drivers.copy drv, bos := { drv := some drv } :: s.bos }.dropDriver drv
  else s.dropDriver drv

/-- `gbm_mesa_bo_create` on a buffer without private data. `camera` is `scanout_strong`; `first` and
`second` are the results of the allocation attempts. -/
def gbmMesaBoCreate (s : MesaState) (camera : Bool) (env : InitEnv) (first second : Bool) :
    Option MesaState :=
  match s.gbmMesaGetOrInitDriver false env with
  | none => none
  | some (none, s) => some s
  | some (some drv, s) =>
    let s := s.useDevice drv
    if first || camera then some (s.finishCreate drv first)
    else some ((s.useDevice drv).finishCreate drv second)

/-- `gbm_mesa_bo_import`; `empty` says that the buffer has no private data yet. `imported` is the
result of `gbm_bo_import`, a buffer that the library does not use yet. -/
def gbmMesaBoImport (s : MesaState) (empty sw : Bool) (env : InitEnv) (imported : Option Nat) :
    Option MesaState :=
  if !empty then some s
  else if !sw then some { s with bos := {} :: s.bos }
  else
    match s.gbmMesaGetOrInitDriver true env with
    | none => none
    -- `drv->wrapper`
    | some (none, s) => some s.crash
    | some (some drv, s) =>
      let s := s.useDevice drv
      let bo : GbmMesaBoPriv := { drv := some drv, gbmBo := imported }
      let s' := { s with drivers := s.drivers.copy drv, bos := bo :: s.bos }
      match imported with
      | none => some (s'.dropDriver drv)
      | some gbmBo =>
        if s.ledger.isLive (.bo gbmBo) then none
        else some ((s'.withWorld (s.world.acquire (.bo gbmBo) [.device drv])).dropDriver drv)

/-- `gbm_mesa_bo_destroy`: `~GbmMesaBoPriv`, then its shared pointer. -/
def gbmMesaBoDestroy (s : MesaState) (bo : Nat) : Option MesaState :=
  match s.bos[bo]? with
  | none => none
  | some priv =>
    let s := { s with bos := s.bos.eraseIdx bo }
    match priv.gbmBo, priv.drv with
    | some _, none => some s.crash
    | some gbmBo, some drv =>
      some ((s.withWorld ((s.world.use (.library drv)).release (.bo gbmBo))).dropDriver drv)
    | none, some drv => some (s.dropDriver drv)
    | none, none => some s

/-- `gbm_mesa_bo_map` and `gbm_mesa_bo_unmap`; `asserted` is what the latter asserts of the mapping
beside the buffer. -/
def gbmMesaBoAccess (s : MesaState) (bo : Nat) (env : InitEnv) (asserted : Bool) :
    Option MesaState :=
  match s.bos[bo]? with
  | none => none
  | some priv =>
    match s.gbmMesaGetOrInitDriver true env with
    | none => none
    | some (none, s) => some s.crash
    | some (some drv, s) =>
      match priv.gbmBo, asserted with
      | some gbmBo, true =>
        some ((s.withWorld ((s.world.use (.library drv)).use (.bo gbmBo))).dropDriver drv)
      | _, _ => some s.crash

/-- `gbm_mesa_bo_map`. -/
def gbmMesaBoMap (s : MesaState) (bo : Nat) (env : InitEnv) : Option MesaState :=
  s.gbmMesaBoAccess bo env true

/-- `gbm_mesa_bo_unmap`; `vmaPriv` says that the mapping has private data. -/
def gbmMesaBoUnmap (s : MesaState) (bo : Nat) (env : InitEnv) (vmaPriv : Bool) :
    Option MesaState :=
  s.gbmMesaBoAccess bo env vmaPriv

end MesaState

/-- A call of the backend, with what the system answers to it; or someone else opens or closes a
descriptor. -/
inductive MesaCall where
  | boCreate (camera : Bool) (env : InitEnv) (first second : Bool)
  | boImport (empty sw : Bool) (env : InitEnv) (imported : Option Nat)
  | boDestroy (bo : Nat)
  | boMap (bo : Nat) (env : InitEnv)
  | boUnmap (bo : Nat) (env : InitEnv) (vmaPriv : Bool)
  | driverClose
  | otherOpen (fd : Option Nat)
  | otherClose (fd : Nat)

/-- All runs of calls, until the process crashes. -/
def mesaMachine : Machine MesaState MesaCall where
  start s := ∃ foreign, s = { table := { foreign } }
  next s call :=
    if s.crashed then none
    else
      match call with
      | .boCreate camera env first second => s.gbmMesaBoCreate camera env first second
      | .boImport empty sw env imported => s.gbmMesaBoImport empty sw env imported
      | .boDestroy bo => s.gbmMesaBoDestroy bo
      | .boMap bo env => s.gbmMesaBoMap bo env
      | .boUnmap bo env vmaPriv => s.gbmMesaBoUnmap bo env vmaPriv
      | .driverClose => some s.gbmMesaDriverClose
      | .otherOpen fd => (s.table.openForeign fd).map fun table => { s with table }
      | .otherClose fd => (s.table.closeForeign fd).map fun table => { s with table }

end GloDroid.Gralloc

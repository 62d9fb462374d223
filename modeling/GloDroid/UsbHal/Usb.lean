import GloDroid.Base.LockScript
import GloDroid.Base.Machine

/-!
# The USB HAL's Threads

Binder threads, any number of them, and the uevent worker, as interleaved steps over `mLock`,
`mRoleSwitchLock`, `mPartnerLock`, the partner's condition variable, the signal `SIGUSR1` and
`pthread_join`.

A binder call is the list of its operations on these (`BinderCall.script`); what it reads, writes
and tells the callback in between takes no part in the synchronisation and is left out. The worker
is a state machine, `work` with `uevent_event` and `queryVersionHelper`. Uevents arrive at any time.
-/

namespace GloDroid.UsbHal

open GloDroid.Base

/-! ## Binder calls -/

inductive Mutex where
  | mLock
  | mRoleSwitchLock
  | mPartnerLock
  deriving DecidableEq, Repr

/-- An operation of a binder thread. -/
inductive BinderOp where
  | lock (m : Mutex)
  | unlock (m : Mutex)
  /-- Locks `mLock` and decides what the new callback (set or null) asks for. -/
  | setCallback (inCallback : Bool)
  /-- `pthread_kill(mPoll, SIGUSR1)` -/
  | killWorker
  /-- `pthread_join(mPoll)` -/
  | joinWorker
  /-- Clears `destroyThread` and creates the worker. -/
  | startWorker
  /-- `mPartnerUp = false` -/
  | partnerDown
  /-- `pthread_cond_timedwait` on `mPartnerCV`: releases `mPartnerLock`. -/
  | waitPartner
  /-- The end of that wait: takes `mPartnerLock` again. -/
  | wakePartner
  deriving DecidableEq, Repr

/-- What `switchRole` finds: a known role kind, the mode among them, whether the node opens, and
whether it can be written. -/
structure RoleNode where
  known : Bool
  isMode : Bool
  opened : Bool
  written : Bool
  deriving DecidableEq, Repr

inductive BinderCall where
  | enableUsbData
  | enableUsbDataWhileDocked
  | resetUsbPort
  | limitPowerTransfer
  | enableContaminantPresenceDetection
  | queryPortStatus
  | setCallback (inCallback : Bool)
  | switchRole (node : RoleNode)
  deriving DecidableEq, Repr

/-- Telling the callback, under `mLock`. -/
def notifyCallback : List BinderOp := [.lock .mLock, .unlock .mLock]

/-- `queryVersionHelper`, in a binder thread. -/
def queryVersionHelper : List BinderOp := [.lock .mLock, .unlock .mLock]

/-- `switchMode`. The wait is repeated until the partner is up or the time is over. -/
def switchMode (node : RoleNode) : List BinderOp :=
  if node.opened then
    [.lock .mPartnerLock, .partnerDown] ++ (if node.written then [.waitPartner] else []) ++
      [.unlock .mPartnerLock]
  else []

/-- `switchRole`. -/
def switchRole (node : RoleNode) : List BinderOp :=
  if !node.known then []
  else
    [.lock .mRoleSwitchLock] ++ (if node.isMode then switchMode node else []) ++
      notifyCallback ++ [.unlock .mRoleSwitchLock]

/-- The operations of a call. -/
def BinderCall.script : BinderCall → List BinderOp
  | .enableUsbData | .enableContaminantPresenceDetection => notifyCallback ++ queryVersionHelper
  | .enableUsbDataWhileDocked | .resetUsbPort | .limitPowerTransfer => notifyCallback
  | .queryPortStatus => queryVersionHelper ++ notifyCallback
  | .setCallback inCallback => [.setCallback inCallback]
  | .switchRole node => UsbHal.switchRole node

/-! ## State -/

inductive Thread where
  | binder (i : Nat)
  | worker
  deriving DecidableEq, Repr

/-- A line of a uevent message, as `uevent_event` tells them apart. -/
inductive UeventLine where
  /-- It matches `(add)(.*)(-partner)`. -/
  | partnerAdd
  /-- It starts with `DEVTYPE=typec_`. -/
  | typec
  | other
  deriving DecidableEq, Repr

/-- Where the worker is. -/
inductive WorkerPc where
  /-- There is no worker, or it has returned. -/
  | exited
  /-- Before the loop: opens its sockets. -/
  | starting
  /-- At the check of `destroyThread`. -/
  | check
  /-- Between the check and `epoll_wait`. -/
  | beforeEpoll
  /-- In `epoll_wait`. -/
  | epoll
  /-- In `uevent_event`, with these lines left. -/
  | lines (rest : List UeventLine)
  | lockPartner (rest : List UeventLine)
  | unlockPartner (rest : List UeventLine)
  /-- In `queryVersionHelper`, at `pthread_mutex_lock`. -/
  | lockMLock
  | unlockMLock
  /-- At `pthread_mutex_trylock` of `mRoleSwitchLock`. -/
  | tryRoleSwitch
  | unlockRoleSwitch
  deriving DecidableEq, Repr

/-- `Usb` with its threads and the global flag. -/
structure Usb where
  owner : Mutex → Option Thread := fun _ => none
  /-- What each binder thread still has to do. -/
  threads : Nat → List BinderOp := fun _ => []
  mCallback : Bool := false
  mPartnerUp : Bool := false
  worker : WorkerPc := .exited
  /-- `SIGUSR1` is pending for the worker. -/
  signalPending : Bool := false
  destroyThread : Bool := false
  /-- The messages waiting in the worker's socket. -/
  uevents : List (List UeventLine) := []

namespace Usb

def setOwner (s : Usb) (m : Mutex) (t : Option Thread) : Usb :=
  { s with owner := Function.update s.owner m t }

/-- Thread `i` goes on with `script`. -/
def goOn (s : Usb) (i : Nat) (script : List BinderOp) : Usb :=
  { s with threads := Function.update s.threads i script }

/-! ## Steps of the binder threads -/

/-- A thread that is idle begins a call. -/
def beginCall (s : Usb) (i : Nat) (call : BinderCall) : Option Usb :=
  if s.threads i = [] then some (s.goOn i call.script) else none

/-- What `setCallback` has to do for the new callback. -/
def callbackChange (s : Usb) (inCallback : Bool) : List BinderOp :=
  if s.mCallback == inCallback then []
  else if !inCallback then [.killWorker]
  else [.startWorker]

/-- What the environment answers: whether the thread can be created, and whether the wait timed
out. -/
structure OpEnv where
  ok : Bool := true
  timedOut : Bool := false

/-- An operation of thread `i`, before `rest`. -/
def execute (s : Usb) (i : Nat) (env : OpEnv) (rest : List BinderOp) : BinderOp → Option Usb
  | .lock m =>
    if s.owner m = none then some ((s.setOwner m (some (.binder i))).goOn i rest) else none
  | .unlock m => some ((s.setOwner m none).goOn i rest)
  | .setCallback inCallback =>
    if s.owner .mLock = none then
      let change := s.callbackChange inCallback
      some (({ s with mCallback := inCallback }.setOwner .mLock (some (.binder i))).goOn i
        (change ++ BinderOp.unlock .mLock :: rest))
    else none
  | .killWorker =>
    -- a worker that has returned cannot be signalled, and is not joined
    if s.worker = .exited then some (s.goOn i rest)
    else some ({ s with signalPending := true }.goOn i (.joinWorker :: rest))
  | .joinWorker => if s.worker = .exited then some (s.goOn i rest) else none
  | .startWorker =>
    if env.ok then
      some ({ s with destroyThread := false, signalPending := false, worker := .starting }.goOn i
        rest)
    else some ({ s with destroyThread := false, mCallback := false }.goOn i rest)
  | .partnerDown => some ({ s with mPartnerUp := false }.goOn i rest)
  | .waitPartner => some ((s.setOwner .mPartnerLock none).goOn i (.wakePartner :: rest))
  | .wakePartner =>
    if s.owner .mPartnerLock = none then
      some ((s.setOwner .mPartnerLock (some (.binder i))).goOn i
        (if env.timedOut || s.mPartnerUp then rest else .waitPartner :: rest))
    else none

/-- The next operation of thread `i`. -/
def perform (s : Usb) (i : Nat) (env : OpEnv) : Option Usb :=
  match s.threads i with
  | [] => none
  | op :: rest => s.execute i env rest op

/-! ## Steps of the worker -/

/-- The worker's next step; `ok` says whether its sockets open and `epoll_wait` works. -/
def workerStep (s : Usb) (ok : Bool) : Option Usb :=
  match s.worker with
  | .exited => none
  | .starting =>
    -- a new socket has no messages yet
    some (if ok then { s with worker := .check, uevents := [] } else { s with worker := .exited })
  | .check => some { s with worker := if s.destroyThread then .exited else .beforeEpoll }
  | .beforeEpoll => some { s with worker := .epoll }
  | .epoll =>
    if !ok then some { s with worker := .exited }
    else
      match s.uevents with
      | [] => none
      | msg :: uevents => some { s with worker := .lines msg, uevents }
  | .lines [] => some { s with worker := .check }
  | .lines (.partnerAdd :: rest) => some { s with worker := .lockPartner rest }
  | .lines (.typec :: _) => some { s with worker := .lockMLock }
  | .lines (.other :: rest) => some { s with worker := .lines rest }
  | .lockPartner rest =>
    if s.owner .mPartnerLock = none then
      some ({ s with worker := .unlockPartner rest, mPartnerUp := true }.setOwner .mPartnerLock
        (some .worker))
    else none
  | .unlockPartner rest => some ({ s with worker := .lines rest }.setOwner .mPartnerLock none)
  | .lockMLock =>
    if s.owner .mLock = none then
      some ({ s with worker := .unlockMLock }.setOwner .mLock (some .worker))
    else none
  | .unlockMLock => some ({ s with worker := .tryRoleSwitch }.setOwner .mLock none)
  | .tryRoleSwitch =>
    if s.owner .mRoleSwitchLock = none then
      some ({ s with worker := .unlockRoleSwitch }.setOwner .mRoleSwitchLock (some .worker))
    else some { s with worker := .check }
  | .unlockRoleSwitch => some ({ s with worker := .check }.setOwner .mRoleSwitchLock none)

/-- `sighandler` runs in the worker; `epoll_wait` is interrupted. -/
def sighandler (s : Usb) : Option Usb :=
  if s.signalPending = true ∧ s.worker ≠ .exited then
    some { s with
      signalPending := false
      destroyThread := true
      worker := if s.worker = .epoll then .check else s.worker }
  else none

end Usb

/-! ## Interleavings -/

inductive UsbStep where
  | beginCall (i : Nat) (call : BinderCall)
  | perform (i : Nat) (env : Usb.OpEnv)
  | worker (ok : Bool)
  | sighandler
  | uevent (msg : List UeventLine)

/-- All interleavings of binder calls, the worker and uevents. -/
def usbMachine : Machine Usb UsbStep where
  start s := s = {}
  next s
    | .beginCall i call => s.beginCall i call
    | .perform i env => s.perform i env
    | .worker ok => s.workerStep ok
    | .sighandler => s.sighandler
    | .uevent msg => some { s with uevents := s.uevents ++ [msg] }

theorem usbMachine_start : usbMachine.start {} := rfl

/-! ## What a step does -/

/-- The mutex the worker holds at a place. -/
def WorkerPc.held : WorkerPc → Option Mutex
  | .unlockPartner _ => some .mPartnerLock
  | .unlockMLock => some .mLock
  | .unlockRoleSwitch => some .mRoleSwitchLock
  | _ => none

namespace Usb

variable {s s' : Usb}

/-- The state after an operation of thread `i`, before `rest`. -/
inductive ExecutesTo (s : Usb) (i : Nat) (rest : List BinderOp) : BinderOp → Usb → Prop where
  | lock (m : Mutex) (hfree : s.owner m = none) : ExecutesTo s i rest (.lock m)
      ((s.setOwner m (some (.binder i))).goOn i rest)
  | unlock (m : Mutex) : ExecutesTo s i rest (.unlock m) ((s.setOwner m none).goOn i rest)
  | setCallback (inCallback : Bool) (hfree : s.owner .mLock = none) :
      ExecutesTo s i rest (.setCallback inCallback)
        (({ s with mCallback := inCallback }.setOwner .mLock (some (.binder i))).goOn i
          (s.callbackChange inCallback ++ BinderOp.unlock .mLock :: rest))
  | notSignalled (hexited : s.worker = .exited) :
      ExecutesTo s i rest .killWorker (s.goOn i rest)
  | signalled (hrunning : s.worker ≠ .exited) : ExecutesTo s i rest .killWorker
      ({ s with signalPending := true }.goOn i (.joinWorker :: rest))
  | joined (hexited : s.worker = .exited) : ExecutesTo s i rest .joinWorker (s.goOn i rest)
  | started : ExecutesTo s i rest .startWorker
      ({ s with destroyThread := false, signalPending := false, worker := .starting }.goOn i rest)
  | notStarted : ExecutesTo s i rest .startWorker
      ({ s with destroyThread := false, mCallback := false }.goOn i rest)
  | partnerDown : ExecutesTo s i rest .partnerDown ({ s with mPartnerUp := false }.goOn i rest)
  | waitPartner : ExecutesTo s i rest .waitPartner
      ((s.setOwner .mPartnerLock none).goOn i (.wakePartner :: rest))
  | waited (hfree : s.owner .mPartnerLock = none) : ExecutesTo s i rest .wakePartner
      ((s.setOwner .mPartnerLock (some (.binder i))).goOn i rest)
  | waitsAgain (hfree : s.owner .mPartnerLock = none) : ExecutesTo s i rest .wakePartner
      ((s.setOwner .mPartnerLock (some (.binder i))).goOn i (.waitPartner :: rest))

theorem executesTo_of_execute {i : Nat} {env : OpEnv} {op : BinderOp} {rest : List BinderOp}
    (h : s.execute i env rest op = some s') : s.ExecutesTo i rest op s' := by
  cases op with
  | lock m =>
    simp only [execute] at h
    split_ifs at h with hfree
    exact Option.some.inj h ▸ .lock m hfree
  | unlock m => exact Option.some.inj h ▸ .unlock m
  | setCallback inCallback =>
    simp only [execute] at h
    split_ifs at h with hfree
    exact Option.some.inj h ▸ .setCallback inCallback hfree
  | killWorker =>
    simp only [execute] at h
    split_ifs at h with hexited
    · exact Option.some.inj h ▸ .notSignalled hexited
    · exact Option.some.inj h ▸ .signalled hexited
  | joinWorker =>
    simp only [execute] at h
    split_ifs at h with hexited
    exact Option.some.inj h ▸ .joined hexited
  | startWorker =>
    simp only [execute] at h
    split_ifs at h
    · exact Option.some.inj h ▸ .started
    · exact Option.some.inj h ▸ .notStarted
  | partnerDown => exact Option.some.inj h ▸ .partnerDown
  | waitPartner => exact Option.some.inj h ▸ .waitPartner
  | wakePartner =>
    simp only [execute] at h
    split_ifs at h with hfree hover
    · exact Option.some.inj h ▸ .waited hfree
    · exact Option.some.inj h ▸ .waitsAgain hfree

/-- The next operation of a thread, and the state after it. -/
theorem perform_eq {i : Nat} {env : OpEnv} (h : s.perform i env = some s') :
    ∃ op rest, s.threads i = op :: rest ∧ s.ExecutesTo i rest op s' := by
  simp only [perform] at h
  split at h
  case h_1 => cases h
  case h_2 op rest hscript => exact ⟨op, rest, hscript, executesTo_of_execute h⟩

/-- The worker's step touches no mutex, acquires a free one or releases the one it holds. -/
inductive OwnerMoved (s s' : Usb) : Prop where
  | neutral (howner : s'.owner = s.owner) (hheld : s'.worker.held = none)
  | acquired (m : Mutex) (hfree : s.owner m = none)
    (howner : s'.owner = Function.update s.owner m (some .worker)) (hheld : s'.worker.held = some m)
  | released (m : Mutex) (hbefore : s.worker.held = some m)
    (howner : s'.owner = Function.update s.owner m none) (hheld : s'.worker.held = none)

/-- **A step of the worker**: what it leaves alone, what it does to the mutexes, and where it comes
from when it wants `mLock` or gets near `epoll_wait`. -/
structure WorkerMoved (s s' : Usb) : Prop where
  threads : s'.threads = s.threads
  signalPending : s'.signalPending = s.signalPending
  destroyThread : s'.destroyThread = s.destroyThread
  running : s.worker ≠ .exited
  owner : s.OwnerMoved s'
  wantsLock : s'.worker = .lockMLock → ∃ rest, s.worker = .lines (.typec :: rest)
  checked : s'.worker = .beforeEpoll → s.destroyThread = false
  waits : s'.worker = .epoll → s.worker = .beforeEpoll ∧ s'.uevents = s.uevents

theorem workerStep_moved {ok : Bool} (h : s.workerStep ok = some s') : s.WorkerMoved s' := by
  cases hpc : s.worker with
  | exited => simp [workerStep, hpc] at h
  | starting =>
    simp only [workerStep, hpc, Option.some.injEq] at h
    subst h
    split_ifs <;> exact ⟨rfl, rfl, rfl, by simp [hpc], .neutral rfl rfl, by simp, by simp, by simp⟩
  | check =>
    simp only [workerStep, hpc, Option.some.injEq] at h
    subst h
    split_ifs with hflag
    · exact ⟨rfl, rfl, rfl, by simp [hpc], .neutral rfl rfl, by simp, by simp, by simp⟩
    · -- it goes on to `epoll_wait` with the flag clear
      exact ⟨rfl, rfl, rfl, by simp [hpc], .neutral rfl rfl, by simp, fun _ => by simpa using hflag,
        by simp⟩
  | beforeEpoll =>
    simp only [workerStep, hpc, Option.some.injEq] at h
    subst h
    exact ⟨rfl, rfl, rfl, by simp [hpc], .neutral rfl rfl, by simp, by simp, fun _ => ⟨hpc, rfl⟩⟩
  | epoll =>
    simp only [workerStep, hpc] at h
    split_ifs at h
    · obtain rfl := Option.some.inj h
      exact ⟨rfl, rfl, rfl, by simp [hpc], .neutral rfl rfl, by simp, by simp, by simp⟩
    · split at h
      case h_1 => cases h
      case h_2 =>
        obtain rfl := Option.some.inj h
        exact ⟨rfl, rfl, rfl, by simp [hpc], .neutral rfl rfl, by simp, by simp, by simp⟩
  | lines rest =>
    rcases rest with _ | ⟨line, rest⟩
    · simp only [workerStep, hpc, Option.some.injEq] at h
      subst h
      exact ⟨rfl, rfl, rfl, by simp [hpc], .neutral rfl rfl, by simp, by simp, by simp⟩
    · cases line with
      | partnerAdd | other =>
        simp only [workerStep, hpc, Option.some.injEq] at h
        subst h
        exact ⟨rfl, rfl, rfl, by simp [hpc], .neutral rfl rfl, by simp, by simp, by simp⟩
      | typec =>
        simp only [workerStep, hpc, Option.some.injEq] at h
        subst h
        exact ⟨rfl, rfl, rfl, by simp [hpc], .neutral rfl rfl, fun _ => ⟨rest, hpc⟩, by simp,
          by simp⟩
  | lockPartner rest | lockMLock =>
    simp only [workerStep, hpc] at h
    split_ifs at h with hfree
    obtain rfl := Option.some.inj h
    exact ⟨rfl, rfl, rfl, by simp [hpc], .acquired _ hfree rfl rfl, by simp [setOwner],
      by simp [setOwner], by simp [setOwner]⟩
  | tryRoleSwitch =>
    simp only [workerStep, hpc] at h
    split_ifs at h with hfree <;> obtain rfl := Option.some.inj h
    · exact ⟨rfl, rfl, rfl, by simp [hpc], .acquired _ hfree rfl rfl, by simp [setOwner],
        by simp [setOwner], by simp [setOwner]⟩
    · -- the lock is taken, the port is left alone
      exact ⟨rfl, rfl, rfl, by simp [hpc], .neutral rfl rfl, by simp, by simp, by simp⟩
  | unlockPartner rest | unlockMLock | unlockRoleSwitch =>
    simp only [workerStep, hpc, Option.some.injEq] at h
    subst h
    exact ⟨rfl, rfl, rfl, by simp [hpc], .released _ (by rw [hpc]; rfl) rfl rfl,
      by simp [setOwner], by simp [setOwner], by simp [setOwner]⟩

end Usb

end GloDroid.UsbHal

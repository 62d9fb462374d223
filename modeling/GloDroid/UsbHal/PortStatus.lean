import GloDroid.Base.TracedVector
import GloDroid.UsbHal.Typec

/-!
# Port Status

`getPortStatusHelper` fills a vector with the status of every port, and
`queryMoistureDetectionStatus` adds to each what is known of contamination, which is nothing. The
index that the loop over the ports advances starts at −1.

Without `/sys/class/typec` one fake port is described instead. Its log line uses the index of the
loop that did not run, so that elements at −1 are read. All other accesses are in range, however the
ports are ordered and wherever a role cannot be read.

What the role nodes of a connected port contain comes with the call (`RoleReads`). The index is an
`int`: a vector whose indices it cannot hold does not fit in the memory.
-/

namespace GloDroid.UsbHal

open GloDroid.Base

/-! ## Status of a port -/

inductive PortPowerRole where
  | none | source | sink
  deriving DecidableEq, Repr

inductive PortDataRole where
  | none | host | device
  deriving DecidableEq, Repr

inductive PortMode where
  | none | ufp | dfp | drp | audioAccessory | debugAccessory
  deriving DecidableEq, Repr

inductive UsbDataStatus where
  | unknown | enabled
  deriving DecidableEq, Repr

inductive ContaminantProtectionMode where
  | none | forceSink | forceSource | forceDisable
  deriving DecidableEq, Repr

inductive ContaminantProtectionStatus where
  | none | forceSink | forceSource | forceDisable
  deriving DecidableEq, Repr

inductive ContaminantDetectionStatus where
  | notSupported | disabled | notDetected | detected
  deriving DecidableEq, Repr

/-- `PortStatus`, with the fields the functions set. -/
structure PortStatus where
  portName : List Char := []
  currentDataRole : PortDataRole := .none
  currentPowerRole : PortPowerRole := .none
  currentMode : PortMode := .none
  canChangeMode : Bool := false
  canChangeDataRole : Bool := false
  canChangePowerRole : Bool := false
  supportedModes : List PortMode := []
  usbDataStatus : List UsbDataStatus := []
  supportedContaminantProtectionModes : List ContaminantProtectionMode := []
  supportsEnableContaminantPresenceProtection : Bool := false
  contaminantProtectionStatus : ContaminantProtectionStatus := .none
  supportsEnableContaminantPresenceDetection : Bool := false
  contaminantDetectionStatus : ContaminantDetectionStatus := .notSupported
  deriving DecidableEq, Repr

/-! ## Reading the roles -/

/-- What the nodes of a connected port say: its roles, `none` when one cannot be read or is not
recognized, and what `canSwitchRoleHelper` answers each time it is asked. -/
structure RoleReads where
  powerRole : Option PortPowerRole := some .none
  dataRole : Option PortDataRole := some .none
  mode : Option PortMode := some .none
  switchDataRole : Bool := false
  switchPowerRole : Bool := false

/-- `getCurrentRoleHelper`: without partner the role is NONE, whatever the node says. -/
def getCurrentRoleHelper {ρ : Type} (noRole : ρ) (connected : Bool) (read : Option ρ) : Option ρ :=
  if !connected then some noRole else read

/-- The body of the loop over the ports: the vector afterwards, and whether the loop goes on. -/
def fillPort (v : TracedVector PortStatus) (i : Int) (port : Σ _ : List Char, Bool)
    (reads : RoleReads) : TracedVector PortStatus × Bool :=
  let connected := port.2
  let v := v.modify i fun p => { p with portName := port.1 }
  match getCurrentRoleHelper .none connected reads.powerRole with
  | none => (v, false)
  | some role =>
    let v := v.modify i fun p => { p with currentPowerRole := role }
    match getCurrentRoleHelper .none connected reads.dataRole with
    | none => (v, false)
    | some role =>
      let v := v.modify i fun p => { p with currentDataRole := role }
      match getCurrentRoleHelper .none connected reads.mode with
      | none => (v, false)
      | some role =>
        let v := v.modify i fun p => { p with currentMode := role }
        let v := v.modify i fun p => { p with canChangeMode := true }
        let v := v.modify i fun p =>
          { p with canChangeDataRole := if connected then reads.switchDataRole else false }
        let v := v.modify i fun p =>
          { p with canChangePowerRole := if connected then reads.switchPowerRole else false }
        let v := v.modify i fun p => { p with supportedModes := p.supportedModes ++ [.drp] }
        let v := v.modify i fun p => { p with usbDataStatus := p.usbDataStatus ++ [.enabled] }
        -- the log line
        (((v.read i).read i).read i, true)

/-- The loop over the ports, with the index before the next one. -/
def portLoop (reads : List Char → RoleReads) :
    TracedVector PortStatus → Int → List (Σ _ : List Char, Bool) → TracedVector PortStatus × Bool
  | v, _, [] => (v, true)
  | v, i, port :: rest =>
    let r := fillPort v (i + 1) port (reads port.1)
    if r.2 then portLoop reads r.1 (i + 1) rest else r

/-- The order in which a loop runs over a hash map: any, as long as it meets every entry once. -/
structure HashOrder where
  toList : PortNames → List (Σ _ : List Char, Bool)
  enumerates : ∀ names, (toList names : Multiset (Σ _ : List Char, Bool)) = names.entries

/-- The status of the fake port. -/
def fakePort (v : TracedVector PortStatus) : TracedVector PortStatus :=
  let v := v.modify 0 fun p => { p with portName := ['p', 'o', 'r', 't'] }
  let v := v.modify 0 fun p => { p with canChangeMode := false }
  let v := v.modify 0 fun p => { p with canChangeDataRole := false }
  let v := v.modify 0 fun p => { p with canChangePowerRole := false }
  let v := v.modify 0 fun p => { p with currentPowerRole := .sink }
  let v := v.modify 0 fun p => { p with currentDataRole := .device }
  let v := v.modify 0 fun p => { p with currentMode := .drp }
  let v := v.modify 0 fun p => { p with supportedModes := p.supportedModes ++ [.drp] }
  v.modify 0 fun p => { p with usbDataStatus := p.usbDataStatus ++ [.enabled] }

/-- `getPortStatusHelper`. -/
def getPortStatusHelper (order : HashOrder) (listing : Option (List Dirent))
    (reads : List Char → RoleReads) (v : TracedVector PortStatus) :
    TracedVector PortStatus × Status :=
  let i : Int := -1
  match getTypeCPortNamesHelper listing ∅ with
  | (names, .success) =>
    match portLoop reads (v.resize names.entries.card {}) i (order.toList names) with
    | (v, true) => (v, .success)
    | (v, false) => (v, .error)
  | (_, .error) =>
    let v := fakePort (v.resize 1 {})
    -- the log line
    (((v.read i).read i).read i, .success)

/-- The body of the loop of `queryMoistureDetectionStatus`. -/
def fillMoisture (v : TracedVector PortStatus) (i : Nat) : TracedVector PortStatus :=
  let v := v.modify i fun p => { p with
    supportedContaminantProtectionModes := p.supportedContaminantProtectionModes ++ [.none] }
  let v := v.modify i fun p => { p with contaminantProtectionStatus := .none }
  let v := v.modify i fun p => { p with contaminantDetectionStatus := .notSupported }
  let v := v.modify i fun p => { p with supportsEnableContaminantPresenceDetection := false }
  v.modify i fun p => { p with supportsEnableContaminantPresenceProtection := false }

/-- `queryMoistureDetectionStatus`. -/
def queryMoistureDetectionStatus (v : TracedVector PortStatus) : TracedVector PortStatus × Status :=
  ((List.range v.size).foldl fillMoisture v, .success)

/-- The two queries of `queryVersionHelper`, on a vector with any contents. -/
def queriedPorts (order : HashOrder) (listing : Option (List Dirent))
    (reads : List Char → RoleReads) (current : List PortStatus) : TracedVector PortStatus :=
  (queryMoistureDetectionStatus (getPortStatusHelper order listing reads { elems := current }).1).1

/-! ## Bounds -/

section
variable {v : TracedVector PortStatus} {n : Nat}

/-- One port is described with accesses to its own element. -/
theorem fillPort_within {i : Int} (h : v.Within n) (hi : 0 ≤ i) (hlt : i < n)
    (port : Σ _ : List Char, Bool) (reads : RoleReads) : (fillPort v i port reads).1.Within n := by
  have hmodify : ∀ {v : TracedVector PortStatus} (f : PortStatus → PortStatus), v.Within n →
      (v.modify i f).Within n :=
    fun f hv => hv.modify hi hlt f
  unfold fillPort
  dsimp only
  have hname := hmodify (fun p => { p with portName := port.1 }) h
  split
  · exact hname
  case h_2 power _ =>
    have hpower := hmodify (fun p => { p with currentPowerRole := power }) hname
    split
    · exact hpower
    case h_2 data _ =>
      have hdata := hmodify (fun p => { p with currentDataRole := data }) hpower
      split
      · exact hdata
      case h_2 mode _ =>
        have hmode := hmodify (fun p => { p with currentMode := mode }) hdata
        exact (((hmodify _ (hmodify _ (hmodify _ (hmodify _ (hmodify _ hmode))))).read hi hlt).read
          hi hlt).read hi hlt

/-- The loop has an element left for every port to come. -/
theorem portLoop_within (reads : List Char → RoleReads) {ports : List (Σ _ : List Char, Bool)}
    {i : Int} (h : v.Within n) (hi : -1 ≤ i) (hlt : i + ports.length < n) :
    (portLoop reads v i ports).1.Within n := by
  induction ports generalizing v i with
  | nil => exact h
  | cons port rest ih =>
    rw [List.length_cons, Int.natCast_succ] at hlt
    have hport := fillPort_within (i := i + 1) h (by omega) (by omega) port (reads port.1)
    unfold portLoop
    dsimp only
    split_ifs
    · exact ih hport (by omega) (by omega)
    · exact hport

theorem queryMoistureDetectionStatus_within (h : v.Within n) :
    (queryMoistureDetectionStatus v).1.Within n := by
  apply h.foldl
  intro v hv i hi
  have hlt : (i : Int) < n := by
    have := List.mem_range.mp hi
    rw [h.size_eq] at this
    omega
  have hnonneg : (0 : Int) ≤ i := Int.natCast_nonneg i
  unfold fillMoisture
  exact ((((hv.modify hnonneg hlt _).modify hnonneg hlt _).modify hnonneg hlt _).modify hnonneg
    hlt _).modify hnonneg hlt _

/-- The second query does not undo an access. -/
theorem extends_queryMoistureDetectionStatus (v : TracedVector PortStatus) :
    v.Extends (queryMoistureDetectionStatus v).1 := by
  apply TracedVector.extends_foldl
  intro v i
  unfold fillMoisture
  iterate 4 apply (TracedVector.extends_modify _ _ _).trans
  exact TracedVector.extends_modify _ _ _

end

/-- **When the queries stay in range**: for any entries, any order of the ports and any answers of
the role nodes, exactly if `/sys/class/typec` can be opened. -/
theorem queriedPorts_inRange_iff (order : HashOrder) (listing : Option (List Dirent))
    (reads : List Char → RoleReads) (current : List PortStatus) :
    (∀ a ∈ (queriedPorts order listing reads current).accesses, a.InRange) ↔ listing.isSome := by
  cases listing with
  | some entries =>
    apply iff_of_true _ rfl
    set names := entries.foldl addEntry (∅ : PortNames) with hnames
    have hlength : (order.toList names).length = names.entries.card := by
      rw [← order.enumerates names, Multiset.coe_card]
    have hstart := TracedVector.within_resize (v := { elems := current })
      (fun a ha => absurd ha List.not_mem_nil) names.entries.card ({} : PortStatus)
    have hloop : (portLoop reads _ (-1) (order.toList names)).1.Within names.entries.card :=
      portLoop_within reads hstart le_rfl (by omega)
    have hports : (getPortStatusHelper order (some entries) reads { elems := current }).1.Within
        names.entries.card := by
      unfold getPortStatusHelper getTypeCPortNamesHelper
      dsimp only
      rw [← hnames]
      split <;> rename_i hr <;> rw [hr] at hloop <;> exact hloop
    exact (queryMoistureDetectionStatus_within hports).inRange
  | none =>
    apply iff_of_false _ Bool.false_ne_true
    intro hall
    -- the log line of the fake port
    obtain ⟨a, ha, hindex⟩ : ∃ a ∈ (getPortStatusHelper order none reads
        { elems := current }).1.accesses, a.index = -1 :=
      ⟨_, List.mem_cons_self, rfl⟩
    have hquery := (extends_queryMoistureDetectionStatus _).subset ha
    have hrange := (hall a hquery).1
    omega

/-- Some order of the entries. -/
noncomputable def HashOrder.arbitrary : HashOrder where
  toList names := names.entries.toList
  enumerates names := names.entries.coe_toList

/-- On a board without Type-C class devices, the element at −1 is read. -/
theorem queriedPorts_outOfRange :
    ∃ a ∈ (queriedPorts .arbitrary none (fun _ => {}) []).accesses, a = ⟨-1, 1⟩ ∧ ¬ a.InRange :=
  ⟨⟨-1, 1⟩, by decide, rfl, by decide⟩

end GloDroid.UsbHal

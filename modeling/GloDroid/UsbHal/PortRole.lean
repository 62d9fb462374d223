import GloDroid.UsbHal.PortStatus

/-!
# Reading a Role of a Port

`getCurrentRoleHelper` is passed a union that says by its tag which role of a port is asked for, and
leaves the role that the nodes of the port tell in it. The same words are looked for whatever the
tag: `host` and `device` are taken for a data role or a mode, and `source` and `sink` always make
the union a power role. The tag is lost where a node has a word of another kind of role.

The contents of the nodes are arbitrary. `Trim` is a parameter.
-/

namespace GloDroid.UsbHal

/-! ## The union -/

/-- `PortRole::Tag`. -/
inductive PortRoleTag where
  | powerRole | dataRole | mode
  deriving DecidableEq, Repr

/-- The roles of a kind. -/
abbrev PortRoleTag.Role : PortRoleTag → Type
  | .powerRole => PortPowerRole
  | .dataRole => PortDataRole
  | .mode => PortMode

/-- NONE of this kind. -/
def PortRoleTag.noRole : (tag : PortRoleTag) → tag.Role
  | .powerRole => PortPowerRole.none
  | .dataRole => PortDataRole.none
  | .mode => PortMode.none

/-- `PortRole`. -/
inductive PortRole where
  | powerRole (role : PortPowerRole)
  | dataRole (role : PortDataRole)
  | mode (role : PortMode)
  deriving DecidableEq, Repr

namespace PortRole

/-- `getTag`. -/
def tag : PortRole → PortRoleTag
  | .powerRole _ => .powerRole
  | .dataRole _ => .dataRole
  | .mode _ => .mode

/-- `set`. -/
def set : (tag : PortRoleTag) → tag.Role → PortRole
  | .powerRole, role => .powerRole role
  | .dataRole, role => .dataRole role
  | .mode, role => .mode role

/-- `get`, which is valid for the tag of the union only. -/
def get : (tag : PortRoleTag) → PortRole → Option tag.Role
  | .powerRole, .powerRole role => some role
  | .dataRole, .dataRole role => some role
  | .mode, .mode role => some role
  | _, _ => none

@[simp] theorem tag_powerRole (role : PortPowerRole) : (powerRole role).tag = .powerRole := rfl
@[simp] theorem tag_dataRole (role : PortDataRole) : (dataRole role).tag = .dataRole := rfl
@[simp] theorem tag_mode (role : PortMode) : (mode role).tag = .mode := rfl

@[simp] theorem tag_set (tag : PortRoleTag) (role : tag.Role) : (set tag role).tag = tag := by
  cases tag <;> rfl

theorem isSome_get_iff {tag : PortRoleTag} {role : PortRole} :
    (role.get tag).isSome ↔ role.tag = tag := by
  cases tag <;> cases role <;> simp [get, PortRole.tag]

theorem get_eq_some_iff {tag : PortRoleTag} {role : PortRole} {value : tag.Role} :
    role.get tag = some value ↔ role = set tag value := by
  cases tag <;> cases role <;> simp [get, set]

end PortRole

/-! ## The nodes -/

/-- `ReadFileToString`: the contents of a file, none where it cannot be read. -/
abbrev SysfsNodes := List Char → Option (List Char)

def kTypecPath : List Char := "/sys/class/typec/".toList
def kDataRoleNode : List Char := "/data_role".toList
def kPowerRoleNode : List Char := "/power_role".toList

/-- `Status` of the interface, as far as the helper uses it. -/
inductive RoleStatus where
  | success | error | unrecognizedRole
  deriving DecidableEq, Repr

/-- `extractRole`. The length is computed in `size_t`. -/
def extractRole (roleName : List Char) : List Char :=
  match roleName.idxOf? '[', roleName.idxOf? ']' with
  | some first, some last =>
    (roleName.drop (first + 1)).take (last.toUInt64 - first.toUInt64 - 1).toNat
  | _, _ => roleName

section Helper

variable (trim : List Char → List Char) (nodes : SysfsNodes) (portName : List Char)

/-- The node with the accessory mode of the partner. -/
def accessoryNode : List Char := kTypecPath ++ portName ++ "-partner/accessory_mode".toList

/-- `getAccessoryConnected`. -/
def getAccessoryConnected : RoleStatus × List Char :=
  match nodes (accessoryNode portName) with
  | none => (.error, [])
  | some accessory => (.success, trim accessory)

/-- The node that is read for a kind of role. -/
def roleNode : PortRoleTag → List Char
  | .powerRole => kTypecPath ++ portName ++ kPowerRoleNode
  | .dataRole => kTypecPath ++ portName ++ kDataRoleNode
  | .mode => kTypecPath ++ portName ++ kDataRoleNode

/-- The chain of comparisons on the word of the node. -/
def setRole (roleName : List Char) (currentRole : PortRole) : RoleStatus × PortRole :=
  if roleName = "source".toList then (.success, .powerRole .source)
  else if roleName = "sink".toList then (.success, .powerRole .sink)
  else if roleName = "host".toList then
    (.success, if currentRole.tag = .dataRole then .dataRole .host else .mode .dfp)
  else if roleName = "device".toList then
    (.success, if currentRole.tag = .dataRole then .dataRole .device else .mode .ufp)
  else if roleName ≠ "none".toList then (.unrecognizedRole, currentRole)
  else (.success, currentRole)

/-- `getCurrentRoleHelper`, from reading the role node on. -/
def readRole (currentRole : PortRole) : RoleStatus × PortRole :=
  match nodes (roleNode portName currentRole.tag) with
  | none => (.error, currentRole)
  | some roleName => setRole (extractRole (trim roleName)) currentRole

/-- `getCurrentRoleHelper`: the status, and the role it leaves. Its error for a tag that does not
exist has no counterpart. -/
def PortRole.getCurrentRoleHelper (connected : Bool) (currentRole : PortRole) :
    RoleStatus × PortRole :=
  let currentRole := PortRole.set currentRole.tag currentRole.tag.noRole
  if !connected then (.success, currentRole)
  else if currentRole.tag = .mode then
    match getAccessoryConnected trim nodes portName with
    | (.success, accessory) =>
      if accessory = "analog_audio".toList then (.success, .mode .audioAccessory)
      else if accessory = "debug".toList then (.success, .mode .debugAccessory)
      else readRole trim nodes portName currentRole
    | (_, _) => (.error, currentRole)
  else readRole trim nodes portName currentRole

end Helper

/-! ## Words of another kind -/

/-- The words that leave a role of another kind when this kind is asked for. -/
def PortRoleTag.foreignWords : PortRoleTag → List (List Char)
  | .powerRole => ["host".toList, "device".toList]
  | .dataRole => ["source".toList, "sink".toList]
  | .mode => ["source".toList, "sink".toList]

/-- After a success the union has this tag. -/
def KeepsTag (tag : PortRoleTag) (result : RoleStatus × PortRole) : Prop :=
  result.1 = .success → result.2.tag = tag

theorem keepsTag_error {tag : PortRoleTag} {role : PortRole} : KeepsTag tag (.error, role) := by
  intro h
  cases h

/-- The words of a power role are foreign to every other kind. -/
theorem power_not_foreign_iff {tag : PortRoleTag} {word : List Char}
    (hword : word = "source".toList ∨ word = "sink".toList) :
    word ∉ tag.foreignWords ↔ tag = .powerRole := by
  rcases hword with rfl | rfl <;> cases tag <;> decide

/-- Those of a data role are foreign to the power role only. -/
theorem data_not_foreign_iff {tag : PortRoleTag} {word : List Char}
    (hword : word = "host".toList ∨ word = "device".toList) :
    word ∉ tag.foreignWords ↔ tag ≠ .powerRole := by
  rcases hword with rfl | rfl <;> cases tag <;> decide

theorem not_foreign_of_ne {tag : PortRoleTag} {word : List Char} (hsource : word ≠ "source".toList)
    (hsink : word ≠ "sink".toList) (hhost : word ≠ "host".toList)
    (hdevice : word ≠ "device".toList) : word ∉ tag.foreignWords := by
  have hpair : ∀ a b : List Char, word ≠ a → word ≠ b → word ∉ [a, b] := by
    intro a b ha hb
    simp [ha, hb]
  cases tag with
  | powerRole => exact hpair _ _ hhost hdevice
  | dataRole | mode => exact hpair _ _ hsource hsink

/-- A word keeps the tag unless it is foreign to it. -/
theorem setRole_keepsTag_iff (roleName : List Char) (role : PortRole) :
    KeepsTag role.tag (setRole roleName role) ↔ roleName ∉ role.tag.foreignWords := by
  unfold setRole KeepsTag
  split_ifs with hsource hsink hhost hdata hdevice hdata' hnone
  · simp [power_not_foreign_iff (.inl hsource), eq_comm]
  · simp [power_not_foreign_iff (.inr hsink), eq_comm]
  · simp [data_not_foreign_iff (.inl hhost), hdata]
  · rw [data_not_foreign_iff (.inl hhost)]
    cases role <;> simp at hdata ⊢
  · simp [data_not_foreign_iff (.inr hdevice), hdata']
  · rw [data_not_foreign_iff (.inr hdevice)]
    cases role <;> simp at hdata' ⊢
  · simp [not_foreign_of_ne hsource hsink hhost hdevice]
  · simp [not_foreign_of_ne hsource hsink hhost hdevice]

section Helper

variable (trim : List Char → List Char) (nodes : SysfsNodes) (portName : List Char)

theorem readRole_keepsTag_iff (role : PortRole) :
    KeepsTag role.tag (readRole trim nodes portName role) ↔
      ∀ text, nodes (roleNode portName role.tag) = some text →
        extractRole (trim text) ∉ role.tag.foreignWords := by
  unfold readRole
  cases hnode : nodes (roleNode portName role.tag) with
  | none => simp [keepsTag_error]
  | some text => simp [setRole_keepsTag_iff]

/-- The helper gets as far as the role node: there is a partner, and for the mode, its accessory
mode can be read and is not one that settles the mode. -/
def ReadsRoleNode (connected : Bool) (tag : PortRoleTag) : Prop :=
  connected = true ∧ (tag = .mode → ∃ accessory, nodes (accessoryNode portName) = some accessory ∧
    trim accessory ≠ "analog_audio".toList ∧ trim accessory ≠ "debug".toList)

/-- The role node has no word of another kind, if it is read at all. -/
def WordFits (connected : Bool) (tag : PortRoleTag) : Prop :=
  ReadsRoleNode trim nodes portName connected tag →
    ∀ text, nodes (roleNode portName tag) = some text →
      extractRole (trim text) ∉ tag.foreignWords

variable {trim nodes portName}

theorem getCurrentRoleHelper_of_reads {connected : Bool} {role : PortRole}
    (hreads : ReadsRoleNode trim nodes portName connected role.tag) :
    PortRole.getCurrentRoleHelper trim nodes portName connected role =
      readRole trim nodes portName (PortRole.set role.tag role.tag.noRole) := by
  obtain ⟨rfl, haccessory⟩ := hreads
  simp only [PortRole.getCurrentRoleHelper, PortRole.tag_set, Bool.not_true, Bool.false_eq_true,
    if_false]
  split_ifs with hmode
  · obtain ⟨accessory, hnode, haudio, hdebug⟩ := haccessory hmode
    simp only [getAccessoryConnected, hnode, if_neg haudio, if_neg hdebug]
  · rfl

/-- Short of the role node, the tag is kept. -/
theorem getCurrentRoleHelper_of_not_reads {connected : Bool} {role : PortRole}
    (hreads : ¬ ReadsRoleNode trim nodes portName connected role.tag) :
    KeepsTag role.tag (PortRole.getCurrentRoleHelper trim nodes portName connected role) := by
  simp only [PortRole.getCurrentRoleHelper, PortRole.tag_set]
  split_ifs with hconnected hmode
  · exact fun _ => PortRole.tag_set _ _
  · rw [hmode]
    cases hnode : nodes (accessoryNode portName) with
    | none =>
      simp only [getAccessoryConnected, hnode]
      exact keepsTag_error
    | some accessory =>
      simp only [getAccessoryConnected, hnode]
      split_ifs with haudio hdebug
      · exact fun _ => rfl
      · exact fun _ => rfl
      · exact absurd ⟨by simpa using hconnected, fun _ => ⟨accessory, hnode, haudio, hdebug⟩⟩ hreads
  · exact absurd ⟨by simpa using hconnected, fun h => absurd h hmode⟩ hreads

/-- The tag is kept unless the role node has a word of another kind. -/
theorem keepsTag_iff (connected : Bool) (role : PortRole) :
    KeepsTag role.tag (PortRole.getCurrentRoleHelper trim nodes portName connected role) ↔
      WordFits trim nodes portName connected role.tag := by
  unfold WordFits
  by_cases hreads : ReadsRoleNode trim nodes portName connected role.tag
  · have hread := readRole_keepsTag_iff trim nodes portName
      (PortRole.set role.tag role.tag.noRole)
    rw [PortRole.tag_set] at hread
    simp only [getCurrentRoleHelper_of_reads hreads, hread, hreads, true_imp_iff]
  · simp only [getCurrentRoleHelper_of_not_reads hreads, hreads, false_imp_iff]

/-- **When the kind of role is kept**: exactly if the role node, where it is read, has no word of
another kind. Then the `get` of the caller is valid. -/
theorem getCurrentRoleHelper_keepsTag_iff (connected : Bool) (role : PortRole) :
    (∀ role', PortRole.getCurrentRoleHelper trim nodes portName connected role = (.success, role') →
      role'.tag = role.tag ∧ (role'.get role.tag).isSome) ↔
    WordFits trim nodes portName connected role.tag := by
  simp only [← keepsTag_iff, PortRole.isSome_get_iff, and_self]
  constructor
  · intro h hsuccess
    exact h _ (Prod.ext hsuccess rfl)
  · intro h role' hrole
    rw [hrole] at h
    exact h rfl

end Helper

/-- `isspace`. -/
def isspace (c : Char) : Bool := c.toNat = 32 || 9 ≤ c.toNat && c.toNat ≤ 13

/-- `Trim`: without the blanks at both ends. -/
def trimBlanks (s : List Char) : List Char :=
  ((s.dropWhile isspace).reverse.dropWhile isspace).reverse

/-- A port whose data role node has the words of a power role. -/
def sourceNodes : SysfsNodes := fun filename =>
  if filename = roleNode "port0".toList .dataRole then some "[source] sink\n".toList else none

/-- Asked for the data role, the helper leaves a power role, and reports a success. -/
theorem getCurrentRoleHelper_losesTag :
    PortRole.getCurrentRoleHelper trimBlanks sourceNodes "port0".toList true (.dataRole .none) =
        (.success, .powerRole .source) ∧
      ¬ ∀ (nodes : SysfsNodes) (portName : List Char) (connected : Bool) (role role' : PortRole),
        PortRole.getCurrentRoleHelper trimBlanks nodes portName connected role =
          (.success, role') → role'.tag = role.tag := by
  have hrun : PortRole.getCurrentRoleHelper trimBlanks sourceNodes "port0".toList true
      (.dataRole .none) = (.success, .powerRole .source) := by decide
  refine ⟨hrun, fun h => ?_⟩
  cases h _ _ _ _ _ hrun

/-! ## The status of a port -/

section Reads

variable (trim : List Char → List Char) (nodes : SysfsNodes) (portName : List Char)

/-- What a connected port has for a kind of role, as the status of the port takes it. -/
def roleRead (tag : PortRoleTag) : Option tag.Role :=
  match PortRole.getCurrentRoleHelper trim nodes portName true (.set tag tag.noRole) with
  | (.success, role) => role.get tag
  | (_, _) => none

variable {trim nodes portName}

theorem getCurrentRoleHelper_not_connected (tag : PortRoleTag) :
    PortRole.getCurrentRoleHelper trim nodes portName false (.set tag tag.noRole) =
      (.success, .set tag tag.noRole) := by
  cases tag <;> rfl

/-- The status of a port gets the role that the helper leaves. -/
theorem getCurrentRoleHelper_eq_some_iff {connected : Bool} {tag : PortRoleTag} {value : tag.Role} :
    getCurrentRoleHelper tag.noRole connected (roleRead trim nodes portName tag) = some value ↔
      PortRole.getCurrentRoleHelper trim nodes portName connected (.set tag tag.noRole) =
        (.success, .set tag value) := by
  cases connected with
  | false =>
    have hvalue : tag.noRole = value ↔ PortRole.set tag tag.noRole = PortRole.set tag value := by
      rw [← PortRole.get_eq_some_iff, PortRole.get_eq_some_iff.mpr rfl, Option.some.injEq]
    simp [getCurrentRoleHelper_not_connected, getCurrentRoleHelper, hvalue]
  | true =>
    simp only [getCurrentRoleHelper, Bool.not_true, Bool.false_eq_true, if_false, roleRead]
    split
    case h_1 role hrole => simp [hrole, PortRole.get_eq_some_iff]
    case h_2 status _ hfailed hrole =>
      constructor
      · intro h
        cases h
      · intro h
        exact absurd (congrArg Prod.fst (hrole.symm.trans h)) hfailed

/-- If no word is of another kind, it gets one exactly if the helper succeeds. -/
theorem isSome_getCurrentRoleHelper_iff {connected : Bool} {tag : PortRoleTag}
    (hfits : WordFits trim nodes portName connected tag) :
    (getCurrentRoleHelper tag.noRole connected (roleRead trim nodes portName tag)).isSome ↔
      (PortRole.getCurrentRoleHelper trim nodes portName connected (.set tag tag.noRole)).1 =
        .success := by
  have hkeeps := (keepsTag_iff connected (.set tag tag.noRole)).mpr
    (by rwa [PortRole.tag_set])
  rw [Option.isSome_iff_exists]
  constructor
  · intro ⟨value, hvalue⟩
    rw [getCurrentRoleHelper_eq_some_iff.mp hvalue]
  · intro hsuccess
    have htag := hkeeps hsuccess
    rw [PortRole.tag_set, ← PortRole.isSome_get_iff] at htag
    obtain ⟨value, hvalue⟩ := Option.isSome_iff_exists.mp htag
    refine ⟨value, getCurrentRoleHelper_eq_some_iff.mpr ?_⟩
    exact Prod.ext hsuccess (PortRole.get_eq_some_iff.mp hvalue)

end Reads

end GloDroid.UsbHal

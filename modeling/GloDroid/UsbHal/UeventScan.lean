import GloDroid.Base.CString
import GloDroid.UsbHal.Usb

/-!
# Scanning a Uevent

`uevent_event` receives a message of the kernel into a buffer on the stack, puts two NULs behind it
and walks over the strings in it. Of the buffer, the message with the two NULs may be read; what is
behind them was never written.

The lines that `Usb.lean` hands to the worker are what the scan makes of the strings.
-/

namespace GloDroid.UsbHal

open GloDroid.Base

/-! ## The scan -/

def ueventMsgLen : Nat := 2048

/-- The bytes of a text. -/
def bytes (text : String) : List UInt8 := text.toList.map fun c => c.toNat.toUInt8

/-- `regex_match` with `(add)(.*)(-partner)`: the dot stands for no end of a line. -/
def regexMatch (s : List UInt8) : Bool :=
  (bytes "add").isPrefixOf s && (bytes "-partner").isSuffixOf s && 11 ≤ s.length &&
    ((s.drop 3).take (s.length - 11)).all fun c => c ≠ 10 && c ≠ 13

/-- `"DEVTYPE=typec_"`. -/
def devtypeTypec : List UInt8 := bytes "DEVTYPE=typec_"

/-- The loops of `uevent_event`, from `cp` on: the strings that are examined, and what they are
taken for. -/
def scanMessage (msg : List UInt8) : Nat → Nat → Except Fault (List (List UInt8 × UeventLine))
  | 0, _ => .error .outOfFuel
  | fuel + 1, cp => do
    let c ← byteAt msg cp
    if c = 0 then return []
    -- `regex_match` reads the string to its end first
    let s ← readString msg fuel cp
    if regexMatch s then
      let cp ← skipString msg fuel cp
      let rest ← scanMessage msg fuel cp
      return (s, .partnerAdd) :: rest
    let typec ← startsWith msg devtypeTypec cp
    if typec then return [(s, .typec)]
    let cp ← skipString msg fuel cp
    let rest ← scanMessage msg fuel cp
    return (s, .other) :: rest

/-- `uevent_event`, with what `uevent_kernel_multicast_recv` has received, nothing for an error. -/
def ueventEvent (fuel : Nat) (received : List UInt8) :
    Except Fault (List (List UInt8 × UeventLine)) :=
  if received.length = 0 then return []
  -- overflow, discarded
  else if received.length ≥ ueventMsgLen then return []
  else scanMessage (received ++ [0, 0]) fuel 0

/-! ## What is examined -/

/-- What a string is taken for. -/
def classify (s : List UInt8) : UeventLine :=
  if regexMatch s then .partnerAdd else if devtypeTypec <+: s then .typec else .other

/-- The elements up to the first one with the property, and that one. -/
def takeThrough {α : Type} (p : α → Bool) : List α → List α
  | [] => []
  | a :: as => if p a then [a] else a :: takeThrough p as

/-- The strings of a message up to the first empty one. -/
def messageStrings (received : List UInt8) : List (List UInt8) :=
  (received.splitOn 0).takeWhile (· ≠ [])

/-- Of these, the ones up to the first that names a Type-C device. -/
def examinedStrings (received : List UInt8) : List (List UInt8) :=
  takeThrough (classify · = .typec) (messageStrings received)

theorem length_bytes_add : (bytes "add").length = 3 := by decide

theorem length_bytes_partner : (bytes "-partner").length = 8 := by decide

/-- What the dot stands for, between the two ends. -/
theorem middle_eq (mid : List UInt8) :
    ((bytes "add" ++ mid ++ bytes "-partner").drop 3).take
      ((bytes "add" ++ mid ++ bytes "-partner").length - 11) = mid := by
  have hlen : (bytes "add" ++ mid ++ bytes "-partner").length - 11 = mid.length := by
    simp only [List.length_append, length_bytes_add, length_bytes_partner]
    omega
  rw [hlen, List.append_assoc, ← length_bytes_add, List.drop_left, List.take_left]

/-- The test says what the regular expression does. -/
theorem regexMatch_iff {s : List UInt8} :
    regexMatch s ↔ ∃ mid, s = bytes "add" ++ mid ++ bytes "-partner" ∧
      ∀ c ∈ mid, c ≠ 10 ∧ c ≠ 13 := by
  have hadd := length_bytes_add
  have hpartner := length_bytes_partner
  simp only [regexMatch, Bool.and_eq_true, List.isPrefixOf_iff_prefix, List.isSuffixOf_iff_suffix,
    decide_eq_true_eq, List.all_eq_true]
  constructor
  · intro ⟨⟨⟨⟨after, hafter⟩, before, hbefore⟩, hlen⟩, hmid⟩
    refine ⟨(s.drop 3).take (s.length - 11), ?_, hmid⟩
    have hdrop : s.drop 3 = after := by
      rw [← hafter, ← hadd, List.drop_left]
    have hlast : after.drop (s.length - 11) = bytes "-partner" := by
      -- the ends do not overlap, so the second one lies behind the first
      have hdrop' : s.drop (s.length - 8) = bytes "-partner" := by
        conv_lhs => rw [← hbefore]
        apply List.drop_left'
        rw [List.length_append, hpartner, Nat.add_sub_cancel]
      rw [← hdrop', ← hdrop, List.drop_drop]
      congr 1
      omega
    rw [hdrop, List.append_assoc, ← hlast, List.take_append_drop, hafter]
  · intro ⟨mid, hs, hmid⟩
    subst hs
    refine ⟨⟨⟨?_, ?_⟩, ?_⟩, ?_⟩
    · rw [List.append_assoc]
      exact List.prefix_append _ _
    · exact List.suffix_append _ _
    · simp only [List.length_append, hadd, hpartner]
      omega
    · rw [middle_eq]
      exact hmid

section Scan

variable {msg s rest : List UInt8} {cp fuel : Nat}

theorem scanMessage_stop (h : msg.drop cp = 0 :: rest) :
    scanMessage msg (fuel + 1) cp = .ok [] := by
  simp [scanMessage, byteAt_of_drop h]

/-- A string that is not empty is examined, and then those behind it, unless it names a Type-C
device. -/
theorem scanMessage_string (h : StringAt msg cp s rest) (hs : s ≠ []) (hfuel : s.length < fuel) :
    scanMessage msg (fuel + 1) cp =
      if classify s = .typec then .ok [(s, .typec)]
      else (scanMessage msg fuel (cp + s.length + 1)).map ((s, classify s) :: ·) := by
  have hread := readString_eq h hfuel
  have hskip := skipString_eq h hfuel
  have htypec : startsWith msg devtypeTypec cp = .ok (devtypeTypec.isPrefixOf s) :=
    startsWith_eq h (by decide)
  obtain ⟨c, s, rfl⟩ := List.exists_cons_of_ne_nil hs
  by_cases hpartner : regexMatch (c :: s)
  · simp only [scanMessage, h.byteAt, ok_bind, h.ne_zero, if_false, hread, hpartner, if_true, hskip,
      classify]
    rfl
  · by_cases hdev : devtypeTypec <+: c :: s
    · simp [scanMessage, h.byteAt, h.ne_zero, hread, hpartner, htypec, hdev, classify]
    · simp only [scanMessage, h.byteAt, ok_bind, h.ne_zero, if_false, hread, hpartner, hskip,
        classify, htypec, hdev, List.isPrefixOf_iff_prefix, Bool.false_eq_true]
      rfl

theorem examinedStrings_nil : examinedStrings [] = [] := by
  simp [examinedStrings, messageStrings, takeThrough]

theorem examinedStrings_empty (received : List UInt8) : examinedStrings (0 :: received) = [] := by
  have hsplit : (0 :: received).splitOn 0 = [] :: received.splitOn 0 :=
    List.splitOn_append_cons_self_of_not_mem List.not_mem_nil received
  simp [examinedStrings, messageStrings, hsplit, takeThrough]

theorem examinedStrings_last (hs : 0 ∉ s) (hne : s ≠ []) : examinedStrings s = [s] := by
  simp [examinedStrings, messageStrings, List.splitOn_eq_singleton hs, hne, takeThrough]

theorem examinedStrings_cons (hs : 0 ∉ s) (hne : s ≠ []) (received : List UInt8) :
    examinedStrings (s ++ 0 :: received) =
      if classify s = .typec then [s] else s :: examinedStrings received := by
  have hstrings : messageStrings (s ++ 0 :: received) = s :: messageStrings received := by
    simp [messageStrings, List.splitOn_append_cons_self_of_not_mem hs, hne]
  by_cases htypec : classify s = .typec <;> simp [examinedStrings, hstrings, takeThrough, htypec]

/-- From a place in front of the rest of the message, exactly its strings are examined. -/
theorem scanMessage_eq {received : List UInt8} (h : msg.drop cp = received ++ [0, 0])
    (hfuel : received.length + 2 ≤ fuel) :
    scanMessage msg fuel cp = .ok ((examinedStrings received).map fun s => (s, classify s)) := by
  obtain ⟨fuel, rfl⟩ : ∃ m, fuel = m + 1 := ⟨fuel - 1, by omega⟩
  induction received using strings_induction generalizing cp fuel with
  | last s hs =>
    -- the first sentinel ends the string, the second one the loop
    by_cases hne : s = []
    · subst hne
      rw [scanMessage_stop h, examinedStrings_nil, List.map_nil]
    · have hat : StringAt msg cp s [0] := ⟨h, hs⟩
      obtain ⟨fuel, rfl⟩ : ∃ m, fuel = m + 1 := ⟨fuel - 1, by omega⟩
      rw [scanMessage_string hat hne (by omega), scanMessage_stop hat.drop_next,
        examinedStrings_last hs hne]
      by_cases htypec : classify s = .typec
      · simp [htypec]
      · simp [htypec, Except.map]
  | cons s rest hs ih =>
    by_cases hne : s = []
    · subst hne
      have hstop : msg.drop cp = 0 :: (rest ++ [0, 0]) := h
      rw [scanMessage_stop hstop, List.nil_append, examinedStrings_empty, List.map_nil]
    · have hat : StringAt msg cp s (rest ++ [0, 0]) := ⟨by simpa using h, hs⟩
      rw [List.length_append, List.length_cons] at hfuel
      obtain ⟨fuel, rfl⟩ : ∃ m, fuel = m + 1 := ⟨fuel - 1, by omega⟩
      rw [scanMessage_string hat hne (by omega), ih hat.drop_next fuel (by omega),
        examinedStrings_cons hs hne]
      by_cases htypec : classify s = .typec
      · simp [htypec]
      · simp [htypec, Except.map]

end Scan

/-- **The scan stays in the message and its two NULs, ends, and examines exactly the strings** up to
the first empty one, or up to the first that names a Type-C device. A read behind the second NUL
would be a fault, and so would a loop that does not end. -/
theorem ueventEvent_examines {received : List UInt8} (hpos : 0 < received.length)
    (hlt : received.length < ueventMsgLen) {fuel : Nat} (hfuel : received.length + 2 ≤ fuel) :
    ueventEvent fuel received =
      .ok ((examinedStrings received).map fun s => (s, classify s)) := by
  rw [ueventEvent, if_neg (Nat.ne_of_gt hpos), if_neg (Nat.not_le_of_lt hlt)]
  exact scanMessage_eq rfl hfuel

/-- A partner is added; what comes after the device type is not looked at. -/
def partnerMessage : List UInt8 :=
  bytes "add@/port0-partner" ++ 0 :: (bytes "DEVTYPE=typec_partner" ++ 0 :: bytes "SEQNUM=7")

theorem ueventEvent_examines_partnerMessage :
    (0 < partnerMessage.length ∧ partnerMessage.length < ueventMsgLen) ∧
      examinedStrings partnerMessage =
        [bytes "add@/port0-partner", bytes "DEVTYPE=typec_partner"] ∧
      ueventEvent 60 partnerMessage =
        .ok ((examinedStrings partnerMessage).map fun s => (s, classify s)) := by
  have hlen : 0 < partnerMessage.length ∧ partnerMessage.length < ueventMsgLen := by decide
  exact ⟨hlen, by decide, ueventEvent_examines hlen.1 hlen.2 (by decide)⟩

/-! ## The worker's lines -/

/-- The uevent that a message is for the worker. -/
def messageLines (received : List UInt8) : List UeventLine :=
  (messageStrings received).map classify

theorem takeThrough_map {α β : Type} (p : β → Bool) (f : α → β) (as : List α) :
    takeThrough p (as.map f) = (takeThrough (p ∘ f) as).map f := by
  induction as with
  | nil => rfl
  | cons a as ih =>
    by_cases ha : p (f a) <;> simp [takeThrough, ha, ih]

/-- The scan takes the strings for the lines of that uevent, up to the one at which the worker
leaves the loop. -/
theorem ueventEvent_lines {received : List UInt8} (hpos : 0 < received.length)
    (hlt : received.length < ueventMsgLen) {fuel : Nat} (hfuel : received.length + 2 ≤ fuel) :
    (ueventEvent fuel received).map (List.map Prod.snd) =
      .ok (takeThrough (· = .typec) (messageLines received)) := by
  rw [ueventEvent, if_neg (Nat.ne_of_gt hpos), if_neg (Nat.not_le_of_lt hlt),
    scanMessage_eq rfl hfuel, messageLines, takeThrough_map]
  simp [Except.map, examinedStrings, Function.comp_def]

end GloDroid.UsbHal

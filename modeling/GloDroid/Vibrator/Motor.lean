import GloDroid.Base.History
import GloDroid.Vibrator.Vibrator

/-!
# The Motor

What the driver does with the effects of `FFDevice`: an effect that is played drives the motor for
its length in milliseconds, and one of length 0 until it is removed. The calls of `FFDevice` are
taken one after the other, each at one time in microseconds; `OffStops` is about calls that overlap.

`vibrate` removes the last effect, so the motor is driven by the last call alone (`driven_iff`), for
as long as the length says that is left of the duration in 16 bits.
-/

namespace GloDroid.Vibrator

open GloDroid.Base

/-! ## The driver -/

/-- `FF_MAX_EFFECTS`; the driver numbers its effects below it. -/
def FF_MAX_EFFECTS : Nat := 96

/-- An effect in the driver. -/
structure LoadedEffect where
  id : Int
  /-- `replay.length`, in milliseconds. -/
  length : UInt16
  /-- When it was played, in microseconds. -/
  started : Option Nat
  /-- Which of the calls has uploaded it. -/
  call : Nat
  deriving DecidableEq, Repr

/-- The effect drives the motor: for its length, or with length 0 without an end. -/
def LoadedEffect.playsAt (e : LoadedEffect) (t : Nat) : Bool :=
  match e.started with
  | none => false
  | some start => start ≤ t && (e.length = 0 || t < start + 1000 * e.length.toNat)

theorem LoadedEffect.playsAt_iff {e : LoadedEffect} {start t : Nat} (h : e.started = some start) :
    e.playsAt t = true ↔ start ≤ t ∧ (e.length = 0 ∨ t < start + 1000 * e.length.toNat) := by
  simp [playsAt, h]

/-- The device with what the driver has loaded for it. -/
structure Motor where
  device : FFDevice := {}
  loaded : List LoadedEffect := []
  /-- The number of calls so far. -/
  calls : Nat := 0
  deriving DecidableEq, Repr

namespace Motor

/-- One operation, which the driver answers with `id`. -/
def act (m : Motor) (time : Nat) (id : Int) (op : ThreadOp) : Motor :=
  { m with
    device := (m.device.run (some id) op).1
    loaded :=
      match op with
      | .remove => m.loaded.filter fun e => e.id ≠ m.device.lastEffectId
      | .upload length => { id, length, started := none, call := m.calls } :: m.loaded
      -- the event names the effect by its code
      | .play code =>
        m.loaded.map fun e =>
          if e.id = (code.toNat : Int) then { e with started := some time } else e
      | _ => m.loaded }

/-- An operation with those that take its place. -/
def perform (m : Motor) (time : Nat) (id : Int) (op : ThreadOp) : Motor :=
  (m.device.run (some id) op).2.foldl (fun m op => m.act time id op) (m.act time id op)

end Motor

/-! ## Calls of the device -/

/-- A call of `FFDevice`. -/
inductive DeviceOp where
  | vibrate (durationMs : Int32)
  | off
  deriving DecidableEq, Repr

/-- The operations of a call. -/
def DeviceOp.ops : DeviceOp → List ThreadOp
  | vibrate durationMs => Vibrator.vibrate durationMs
  | off => [.off]

/-- A call with its time in microseconds. -/
structure DeviceCall where
  time : Nat
  op : DeviceOp
  /-- The number the driver gives a new effect. -/
  id : Fin FF_MAX_EFFECTS
  /-- Whether the request in question makes the call. -/
  own : Bool
  deriving DecidableEq, Repr

/-- A call of the device. -/
def Motor.call (m : Motor) (c : DeviceCall) : Motor :=
  { c.op.ops.foldl (fun m op => m.perform c.time c.id op) m with calls := m.calls + 1 }

/-- The motor at a time. -/
def motorAt (history : List DeviceCall) (t : Nat) : Motor :=
  (upTo DeviceCall.time t history).foldl Motor.call {}

/-- The effect of the `i`th call drives the motor at a time. -/
def drivenBy (history : List DeviceCall) (i t : Nat) : Bool :=
  (motorAt history t).loaded.any fun e => e.call = i && e.playsAt t

/-! ## The last call -/

/-- The effect that a call leaves behind, where `i` calls came before. -/
def DeviceCall.effect (c : DeviceCall) (i : Nat) : Option LoadedEffect :=
  match c.op with
  | .vibrate durationMs => some {
      id := c.id
      length := durationMs.toUInt32.toUInt16
      started := some c.time
      call := i }
  | .off => none

namespace Motor

/-- One effect is loaded at most, and the device knows it. -/
def Holds (m : Motor) : Option LoadedEffect → Prop
  | none => m.loaded = [] ∧ m.device.lastEffectId = -1
  | some e => m.loaded = [e] ∧ m.device.lastEffectId = e.id ∧ e.id ≠ -1

/-- The code of the play event is the number of the effect. -/
theorem toNat_playCode (id : Fin FF_MAX_EFFECTS) :
    ((Int32.ofInt id).toUInt32.toUInt16.toNat : Int) = id := by
  revert id
  decide

/-- `FFDevice::off` leaves nothing loaded. -/
theorem perform_off {m : Motor} {o : Option LoadedEffect} (hm : m.Holds o) (time : Nat) (id : Int) :
    (m.perform time id .off).Holds none ∧ (m.perform time id .off).calls = m.calls := by
  cases o with
  | none => simp [perform, act, FFDevice.run, Holds, hm.1, hm.2]
  | some e =>
    obtain ⟨hloaded, hlast, hid⟩ := hm
    simp [perform, act, FFDevice.run, Holds, hloaded, hlast, hid]

/-- After `EVIOCSFF` and the play event, the new effect plays. -/
theorem perform_upload {m : Motor} (hm : m.Holds none) (time : Nat) (id : Fin FF_MAX_EFFECTS)
    (length : UInt16) :
    (m.perform time id (.upload length)).Holds
      (some { id := id, length, started := some time, call := m.calls }) := by
  have hcode := toNat_playCode id
  refine ⟨?_, ?_, ?_⟩
  · -- the play event finds the effect that was just loaded
    simp only [perform, act, FFDevice.run, hm.1, List.foldl_cons, List.foldl_nil, List.map_cons,
      List.map_nil, hcode, if_true]
  · rfl
  · have hnonneg : (0 : Int) ≤ (id : Nat) := Int.natCast_nonneg _
    dsimp only
    omega

/-- After a call, its effect is the only one. -/
theorem holds_call {m : Motor} {o : Option LoadedEffect} (hm : m.Holds o) (c : DeviceCall) :
    (m.call c).Holds (c.effect m.calls) := by
  obtain ⟨hoff, hcalls⟩ := perform_off hm c.time c.id
  unfold call DeviceCall.effect
  cases c.op with
  | off => exact hoff
  | vibrate durationMs =>
    have hupload := perform_upload hoff c.time c.id durationMs.toUInt32.toUInt16
    rw [hcalls] at hupload
    exact hupload

theorem calls_foldl (m : Motor) (calls : List DeviceCall) :
    (calls.foldl call m).calls = m.calls + calls.length := by
  induction calls generalizing m with
  | nil => rfl
  | cons c calls ih =>
    calc ((c :: calls).foldl call m).calls
      _ = (m.call c).calls + calls.length := ih (m.call c)
      _ = m.calls + (c :: calls).length := by
        rw [List.length_cons]
        exact Nat.succ_add_eq_add_succ m.calls calls.length

theorem exists_holds_foldl {m : Motor} {o : Option LoadedEffect} (hm : m.Holds o)
    (calls : List DeviceCall) : ∃ o, (calls.foldl call m).Holds o := by
  induction calls generalizing m o with
  | nil => exact ⟨o, hm⟩
  | cons c calls ih => exact ih (holds_call hm c)

/-- After any calls, the effect of the last one is the only one. -/
theorem holds_foldl (calls : List DeviceCall) (c : DeviceCall) :
    ((calls ++ [c]).foldl call {}).Holds (c.effect calls.length) := by
  have hstart : Holds {} none := ⟨rfl, rfl⟩
  obtain ⟨o, hbefore⟩ := exists_holds_foldl hstart calls
  have hlast := holds_call hbefore c
  rw [calls_foldl, Nat.zero_add] at hlast
  rw [List.foldl_append]
  exact hlast

/-- What is loaded was uploaded by the last call. -/
theorem call_of_mem_loaded {calls : List DeviceCall} {e : LoadedEffect}
    (he : e ∈ (calls.foldl call {}).loaded) : e.call + 1 = calls.length := by
  rcases List.eq_nil_or_concat calls with rfl | ⟨before, c, rfl⟩
  · exact absurd he List.not_mem_nil
  · rw [List.concat_eq_append] at he ⊢
    have hlast := holds_foldl before c
    cases heffect : c.effect before.length with
    | none =>
      rw [heffect] at hlast
      exact absurd (hlast.1 ▸ he) List.not_mem_nil
    | some e' =>
      rw [heffect] at hlast
      obtain rfl := List.mem_singleton.mp (hlast.1 ▸ he)
      have hcall : e.call = before.length := by
        unfold DeviceCall.effect at heffect
        split at heffect
        · exact Option.some.inj heffect ▸ rfl
        · cases heffect
      rw [hcall, List.length_append, List.length_singleton]

end Motor

section Driven

variable {before after : List DeviceCall} {c : DeviceCall}

/-- Before its time, and once another call was made, the effect of a call does not drive. -/
theorem drivenBy_eq_false {history : List DeviceCall} {i t : Nat}
    (h : (upTo DeviceCall.time t history).length ≠ i + 1) : drivenBy history i t = false := by
  apply List.any_eq_false.mpr
  intro e he
  have hcall := Motor.call_of_mem_loaded he
  simp only [Bool.and_eq_true, decide_eq_true_eq, not_and]
  intro hi
  omega

/-- **Driven by the last call**: the effect of a call drives the motor from its time on, until the
next call, and if its length is not 0, for its length at most. -/
theorem driven_iff {durationMs : Int32}
    (h : Chronological DeviceCall.time (before ++ c :: after)) (hop : c.op = .vibrate durationMs)
    (t : Nat) :
    drivenBy (before ++ c :: after) before.length t = true ↔
      c.time ≤ t ∧ (∀ c' ∈ after, t < c'.time) ∧
        (durationMs.toUInt32.toUInt16 = 0 ∨
          t < c.time + 1000 * durationMs.toUInt32.toUInt16.toNat) := by
  rcases Nat.lt_or_ge t c.time with hlt | hle
  · have hfalse : drivenBy (before ++ c :: after) before.length t = false := by
      apply drivenBy_eq_false
      rw [upTo_of_lt h hlt]
      exact ne_of_lt (Nat.lt_succ_of_le (List.length_filter_le _ _))
    simp [hfalse, Nat.not_le.mpr hlt]
  · by_cases hlast : ∀ c' ∈ after, t < c'.time
    · -- no call has replaced the effect
      have hloaded : (motorAt (before ++ c :: after) t).loaded =
          (c.effect before.length).toList := by
        have hholds := Motor.holds_foldl before c
        unfold motorAt
        rw [upTo_of_le h hle, upTo_eq_nil_iff.mpr hlast]
        rw [DeviceCall.effect, hop] at hholds ⊢
        exact hholds.1
      rw [drivenBy, hloaded, DeviceCall.effect, hop]
      simp only [Option.toList_some, List.any_cons, List.any_nil, Bool.or_false, decide_true,
        Bool.true_and]
      rw [LoadedEffect.playsAt_iff rfl]
      exact ⟨fun hplays => ⟨hplays.1, hlast, hplays.2⟩, fun hplays => ⟨hplays.1, hplays.2.2⟩⟩
    · have hfalse : drivenBy (before ++ c :: after) before.length t = false := by
        apply drivenBy_eq_false
        have hmore : 0 < (upTo DeviceCall.time t after).length := by
          rw [List.length_pos_iff]
          exact mt upTo_eq_nil_iff.mp hlast
        rw [upTo_of_le h hle, List.length_append, List.length_cons]
        omega
      simp [hfalse, hlast]

end Driven

end GloDroid.Vibrator

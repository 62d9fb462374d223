import GloDroid.Base.ExactArithmetic
import GloDroid.Vibrator.Vibrator
import Mathlib.Algebra.BigOperators.Group.List.Basic
import Mathlib.Algebra.Ring.Int.Defs

/-!
# Timing of the Vibrator

`on`, `compose` and `composePwle` sleep for a time the caller gives in milliseconds. The number of
microseconds is computed in `int`, or in `uint32_t` for the total of an envelope, and converted to
the unsigned argument of `usleep`.

What is checked of the times differs: the active segments of an envelope have a lower and an upper
bound, its braking segments and the delays of a composition only an upper one, and the time of `on`
has none. With negative times, and with times of `on` above 2147483 ms, the arithmetic overflows or
wraps; in all other calls that are answered with ok it is exact.

The text that `composePwle` builds of an envelope is not kept by it, and is left out.
-/

namespace GloDroid.Vibrator

open GloDroid.Base

/-! ## Envelopes -/

def kComposePwleSizeMax : Nat := 127
def COMPOSE_PWLE_PRIMITIVE_DURATION_MAX_MS : Int32 := 16383
def PWLE_LEVEL_MIN : ℚ := 0
/-- The `float` closest to 0.98256. -/
def PWLE_LEVEL_MAX : ℚ := 16484621 / 16777216
def PWLE_FREQUENCY_MIN_HZ : ℚ := 140
def PWLE_FREQUENCY_MAX_HZ : ℚ := 160

/-- `Braking::CLAB`. -/
def brakingCLAB : Int32 := 1

/-- `x < lo || x > hi`, where an infinity is a number like any other beyond the bounds. -/
def Scale.outside (lo hi : ℚ) : Scale → Bool
  | .number value => value < lo || value > hi
  | .nan => false

/-- `ActivePwle`. -/
structure ActivePwle where
  startAmplitude : Scale
  startFrequency : Scale
  endAmplitude : Scale
  endFrequency : Scale
  duration : Int32
  deriving DecidableEq, Repr

/-- `BrakingPwle`. -/
structure BrakingPwle where
  braking : Int32
  duration : Int32
  deriving DecidableEq, Repr

inductive PrimitivePwle where
  | active (active : ActivePwle)
  | braking (braking : BrakingPwle)
  deriving DecidableEq, Repr

def PrimitivePwle.duration : PrimitivePwle → Int32
  | active a => a.duration
  | braking b => b.duration

/-- The checks of `composePwle` on one segment. -/
def PrimitivePwle.illegal : PrimitivePwle → Bool
  | active a =>
    a.duration < 0 || a.duration > COMPOSE_PWLE_PRIMITIVE_DURATION_MAX_MS ||
      a.startAmplitude.outside PWLE_LEVEL_MIN PWLE_LEVEL_MAX ||
      a.endAmplitude.outside PWLE_LEVEL_MIN PWLE_LEVEL_MAX ||
      a.startFrequency.outside PWLE_FREQUENCY_MIN_HZ PWLE_FREQUENCY_MAX_HZ ||
      a.endFrequency.outside PWLE_FREQUENCY_MIN_HZ PWLE_FREQUENCY_MAX_HZ
  | braking b =>
    b.braking > brakingCLAB || b.duration > COMPOSE_PWLE_PRIMITIVE_DURATION_MAX_MS

/-- The loop of `composePwle`: `totalDuration`, none where it returns with an error. -/
def pwleLoop : UInt32 → List PrimitivePwle → Option UInt32
  | totalDuration, [] => some totalDuration
  | totalDuration, e :: rest =>
    if e.illegal then none else pwleLoop (totalDuration + e.duration.toUInt32) rest

/-- `Vibrator::composePwle`. -/
def composePwle (composite : List PrimitivePwle) (callback : Bool) : List CallOp :=
  if composite.length = 0 ∨ composite.length > kComposePwleSizeMax then [.answer .illegalArgument]
  else
    match pwleLoop 0 composite with
    | none => [.answer .illegalArgument]
    | some totalDuration =>
      [.spawn (.usleep (totalDuration * 1000) :: if callback then [.onComplete] else []),
        .answer .ok]

/-! ## Times -/

/-- The calls with times. -/
inductive TimedCall where
  | on (timeoutMs : Int32) (callback : Bool)
  | compose (composite : List CompositeEffect) (callback : Bool)
  | composePwle (composite : List PrimitivePwle) (callback : Bool)

namespace TimedCall

/-- The operations of a call. -/
def ops : TimedCall → List CallOp
  | on timeoutMs callback => Vibrator.on timeoutMs callback
  | compose composite callback => Vibrator.compose composite callback
  | composePwle composite callback => Vibrator.composePwle composite callback

end TimedCall

/-- The argument of `usleep`. -/
def ThreadOp.slept : ThreadOp → Option UInt32
  | usleep us => some us
  | _ => none

/-- The arguments of `usleep`, in the call and in the threads it starts. -/
def sleeps (ops : List CallOp) : List UInt32 :=
  ops.flatMap fun
    | .own op => op.slept.toList
    | .spawn thread => thread.filterMap ThreadOp.slept
    | .answer _ => []

/-- The duration `compose` sleeps for after it has triggered an effect. -/
def primitiveMs (e : CompositeEffect) : Int32 := (getPrimitiveDuration e.primitive).getD 0

/-- The arithmetic of `ms * 1000` as an argument of `usleep`. -/
def millisArithmetic (ms : Int32) : List Operation := [.mulInt32 ms 1000, .toUInt32 (ms * 1000)]

/-- The arithmetic of the loop of `composePwle`, and of its thread. -/
def pwleArithmetic : UInt32 → List PrimitivePwle → List Operation
  | totalDuration, [] => [.mulUInt32 totalDuration 1000]
  | totalDuration, e :: rest =>
    .toUInt32 e.duration :: .addUInt32 totalDuration e.duration.toUInt32 ::
      pwleArithmetic (totalDuration + e.duration.toUInt32) rest

namespace TimedCall

/-- The arithmetic on times in a call that is answered with ok. -/
def arithmetic : TimedCall → List Operation
  | on timeoutMs callback => if callback then millisArithmetic timeoutMs else []
  | compose composite _ => composite.flatMap fun e =>
    (if e.delayMs ≠ 0 then millisArithmetic e.delayMs else []) ++ millisArithmetic (primitiveMs e)
  | composePwle composite _ => pwleArithmetic 0 composite

/-- The milliseconds that the call asks to sleep for. -/
def requested : TimedCall → List Int
  | on timeoutMs callback => if callback then [timeoutMs.toInt] else []
  | compose composite _ => composite.flatMap fun e =>
    (if e.delayMs ≠ 0 then [e.delayMs.toInt] else []) ++ [(primitiveMs e).toInt]
  | composePwle composite _ => [(composite.map fun e => e.duration.toInt).sum]

/-- **Exact timing**: no operation overflows, converts a negative number or wraps, and every sleep
is as long as asked for. -/
def TimingExact (c : TimedCall) : Prop :=
  (∀ op ∈ c.arithmetic, op.Exact) ∧
    (sleeps c.ops).map (fun us => (us.toNat : Int)) = c.requested.map (1000 * ·)

/-- What the call would have to check of its times, besides what it does. -/
def TimesInRange : TimedCall → Prop
  | on timeoutMs callback => callback = true → 0 ≤ timeoutMs.toInt ∧ timeoutMs.toInt ≤ 2147483
  | compose composite _ => ∀ e ∈ composite, 0 ≤ e.delayMs.toInt
  | composePwle composite _ => ∀ b, PrimitivePwle.braking b ∈ composite → 0 ≤ b.duration.toInt

end TimedCall

/-! ## Milliseconds in `int` -/

theorem millisArithmetic_exact_iff (ms : Int32) :
    (∀ op ∈ millisArithmetic ms, op.Exact) ↔ 0 ≤ ms.toInt ∧ ms.toInt ≤ 2147483 := by
  have hthousand : (1000 : Int32).toInt = 1000 := by decide
  simp only [millisArithmetic, List.forall_mem_cons]
  constructor
  · rintro ⟨hmul, hconv, -⟩
    have hproduct := hmul.toInt_mul
    rw [Operation.exact_mulInt32_iff] at hmul
    simp only [Operation.Exact, hthousand] at hmul hconv hproduct
    omega
  · rintro ⟨hnonneg, hle⟩
    have hmul : (Operation.mulInt32 ms 1000).Exact := by
      rw [Operation.exact_mulInt32_iff, hthousand]
      omega
    have hconv : (Operation.toUInt32 (ms * 1000)).Exact := by
      simp only [Operation.Exact, hmul.toInt_mul, hthousand]
      omega
    exact ⟨hmul, hconv, fun op hop => absurd hop List.not_mem_nil⟩

/-- Exact arithmetic on milliseconds gives the microseconds. -/
theorem toNat_millis_of_exact {ms : Int32} (h : ∀ op ∈ millisArithmetic ms, op.Exact) :
    ((ms * 1000).toUInt32.toNat : Int) = 1000 * ms.toInt := by
  simp only [millisArithmetic, List.forall_mem_cons] at h
  rw [h.2.1.toNat_toUInt32, h.1.toInt_mul, mul_comm]
  rfl

/-! ## Compositions -/

/-- The primitives a composition may have are short. -/
theorem primitiveMs_exact (e : CompositeEffect) :
    ∀ op ∈ millisArithmetic (primitiveMs e), op.Exact := by
  rw [millisArithmetic_exact_iff]
  unfold primitiveMs getPrimitiveDuration
  split_ifs <;> decide

/-- An effect is not refused with ok. -/
theorem composeError_ne_ok (composite : List CompositeEffect) :
    composeError composite ≠ some .ok := by
  intro h
  unfold composeError at h
  split_ifs at h
  · cases h
  · obtain ⟨e, -, he⟩ := List.exists_of_findSome?_eq_some h
    unfold effectError at he
    split_ifs at he <;> cases he

theorem composeError_of_ok {composite : List CompositeEffect} {callback : Bool}
    (hok : .answer .ok ∈ compose composite callback) : composeError composite = none := by
  unfold compose at hok
  cases herror : composeError composite with
  | none => rfl
  | some status =>
    rw [herror] at hok
    have hstatus := CallOp.answer.inj (List.mem_singleton.mp hok)
    rw [← hstatus] at herror
    exact absurd herror (composeError_ne_ok composite)

/-- What an accepted composition does. -/
theorem compose_of_ok {composite : List CompositeEffect} {callback : Bool}
    (hok : .answer .ok ∈ compose composite callback) :
    compose composite callback = [.spawn (composeThread composite callback), .answer .ok] := by
  unfold compose
  rw [composeError_of_ok hok]

theorem effectError_of_ok {composite : List CompositeEffect} {callback : Bool}
    (hok : .answer .ok ∈ compose composite callback) {e : CompositeEffect} (he : e ∈ composite) :
    effectError e = none := by
  have hfind := composeError_of_ok hok
  unfold composeError at hfind
  split_ifs at hfind
  exact List.findSome?_eq_none_iff.mp hfind e he

/-- What `compose` has checked of the delays. -/
theorem delayMs_of_ok {composite : List CompositeEffect} {callback : Bool}
    (hok : .answer .ok ∈ compose composite callback) {e : CompositeEffect} (he : e ∈ composite) :
    e.delayMs.toInt ≤ 1000 := by
  have heffect := effectError_of_ok hok he
  unfold effectError at heffect
  split_ifs at heffect with hdelay
  exact Int32.le_iff_toInt_le.mp (Int32.not_lt.mp hdelay)

/-- The sleeps of the thread that `compose` starts. -/
theorem sleeps_composeThread (composite : List CompositeEffect) (callback : Bool) :
    (composeThread composite callback).filterMap ThreadOp.slept =
      composite.flatMap fun e =>
        (if e.delayMs ≠ 0 then [(e.delayMs * 1000).toUInt32] else []) ++
          [(primitiveMs e * 1000).toUInt32] := by
  have heffect : ∀ e : CompositeEffect, (compositeOps e).filterMap ThreadOp.slept =
      (if e.delayMs ≠ 0 then [(e.delayMs * 1000).toUInt32] else []) ++
        [(primitiveMs e * 1000).toUInt32] := by
    intro e
    unfold compositeOps
    dsimp only
    split_ifs <;> rfl
  have hcallback :
      (if callback then [ThreadOp.onComplete] else []).filterMap ThreadOp.slept = [] := by
    split_ifs <;> rfl
  unfold composeThread
  rw [List.filterMap_append, hcallback, List.append_nil, List.filterMap_flatMap]
  exact congrArg composite.flatMap (funext heffect)

/-! ## Envelopes with exact totals -/

theorem PrimitivePwle.duration_le {e : PrimitivePwle} (h : e.illegal = false) :
    e.duration.toInt ≤ 16383 := by
  cases e with
  | active a =>
    simp only [illegal, Bool.or_eq_false_iff, decide_eq_false_iff_not] at h
    exact Int32.le_iff_toInt_le.mp (Int32.not_lt.mp h.1.1.1.1.2)
  | braking b =>
    simp only [illegal, Bool.or_eq_false_iff, decide_eq_false_iff_not] at h
    exact Int32.le_iff_toInt_le.mp (Int32.not_lt.mp h.2)

/-- Of an active segment the lower bound is checked too. -/
theorem PrimitivePwle.active_duration_nonneg {a : ActivePwle} (h : (active a).illegal = false) :
    0 ≤ a.duration.toInt := by
  simp only [illegal, Bool.or_eq_false_iff, decide_eq_false_iff_not] at h
  exact Int32.le_iff_toInt_le.mp (Int32.not_lt.mp h.1.1.1.1.1)

theorem pwleLoop_cons {total total' : UInt32} {e : PrimitivePwle} {rest : List PrimitivePwle}
    (h : pwleLoop total (e :: rest) = some total') :
    e.illegal = false ∧ pwleLoop (total + e.duration.toUInt32) rest = some total' := by
  unfold pwleLoop at h
  split_ifs at h with hlegal
  exact ⟨Bool.eq_false_iff.mpr hlegal, h⟩

/-- The loop has checked every segment. -/
theorem pwleLoop_legal {total total' : UInt32} {composite : List PrimitivePwle}
    (h : pwleLoop total composite = some total') : ∀ e ∈ composite, e.illegal = false := by
  induction composite generalizing total with
  | nil => exact fun e he => absurd he List.not_mem_nil
  | cons e rest ih =>
    obtain ⟨hlegal, hrest⟩ := pwleLoop_cons h
    exact List.forall_mem_cons.mpr ⟨hlegal, ih hrest⟩

/-- Without negative durations, the bounds on the segments leave room for the total. -/
theorem pwleArithmetic_exact {total total' : UInt32} {composite : List PrimitivePwle}
    (h : pwleLoop total composite = some total')
    (hnonneg : ∀ e ∈ composite, 0 ≤ e.duration.toInt)
    (hroom : total.toNat + 16383 * composite.length ≤ 16383 * 127) :
    ∀ op ∈ pwleArithmetic total composite, op.Exact := by
  induction composite generalizing total with
  | nil =>
    have hthousand : (1000 : UInt32).toNat = 1000 := by decide
    have hmul : (Operation.mulUInt32 total 1000).Exact := by
      rw [Operation.exact_mulUInt32_iff, hthousand]
      rw [List.length_nil] at hroom
      omega
    exact List.forall_mem_singleton.mpr hmul
  | cons e rest ih =>
    obtain ⟨hlegal, hrest⟩ := pwleLoop_cons h
    have hle := PrimitivePwle.duration_le hlegal
    rw [List.length_cons] at hroom
    have hconv : (Operation.toUInt32 e.duration).Exact := hnonneg e List.mem_cons_self
    have hvalue := hconv.toNat_toUInt32
    -- the segment uses up its share of the room
    have hadd : (Operation.addUInt32 total e.duration.toUInt32).Exact := by
      rw [Operation.exact_addUInt32_iff]
      omega
    have htail := ih hrest (fun e' he' => hnonneg e' (List.mem_cons_of_mem _ he')) (by
      rw [hadd.toNat_add]
      omega)
    exact List.forall_mem_cons.mpr ⟨hconv, List.forall_mem_cons.mpr ⟨hadd, htail⟩⟩

/-- With exact arithmetic the total is the sum of the durations. -/
theorem toNat_pwleLoop {total total' : UInt32} {composite : List PrimitivePwle}
    (h : pwleLoop total composite = some total')
    (hexact : ∀ op ∈ pwleArithmetic total composite, op.Exact) :
    ((total' * 1000).toNat : Int) =
      1000 * (total.toNat + (composite.map fun e => e.duration.toInt).sum) := by
  induction composite generalizing total with
  | nil =>
    obtain rfl := Option.some.inj h
    have hmul := List.forall_mem_singleton.mp hexact
    rw [hmul.toNat_mul, Nat.mul_comm]
    simp
  | cons e rest ih =>
    obtain ⟨hconv, hadd, htail⟩ := (List.forall_mem_cons.trans
      (and_congr_right fun _ => List.forall_mem_cons)).mp hexact
    rw [ih (pwleLoop_cons h).2 htail, hadd.toNat_add, List.map_cons, List.sum_cons, Int.natCast_add,
      hconv.toNat_toUInt32, add_assoc]

/-- Every duration is converted. -/
theorem toUInt32_mem_pwleArithmetic {e : PrimitivePwle} {composite : List PrimitivePwle}
    (he : e ∈ composite) (total : UInt32) :
    Operation.toUInt32 e.duration ∈ pwleArithmetic total composite := by
  induction composite generalizing total with
  | nil => exact absurd he List.not_mem_nil
  | cons e' rest ih =>
    rcases List.mem_cons.mp he with rfl | he
    · exact List.mem_cons_self
    · exact List.mem_cons_of_mem _ (List.mem_cons_of_mem _ (ih he _))

/-- What `composePwle` does when it answers with ok. -/
theorem composePwle_ok {composite : List PrimitivePwle} {callback : Bool}
    (hok : .answer .ok ∈ composePwle composite callback) :
    composite.length ≤ 127 ∧ ∃ total, pwleLoop 0 composite = some total ∧
      sleeps (composePwle composite callback) = [total * 1000] := by
  unfold composePwle at hok ⊢
  by_cases hsize : composite.length = 0 ∨ composite.length > kComposePwleSizeMax
  · rw [if_pos hsize] at hok
    simp at hok
  · rw [if_neg hsize] at hok ⊢
    refine ⟨not_lt.mp fun hlong => hsize (Or.inr hlong), ?_⟩
    cases hloop : pwleLoop 0 composite with
    | none =>
      rw [hloop] at hok
      simp at hok
    | some total =>
      refine ⟨total, rfl, ?_⟩
      cases callback <;> rfl

/-! ## When the timing is exact -/

namespace TimedCall

theorem timingExact_on (timeoutMs : Int32) (callback : Bool) :
    (on timeoutMs callback).TimingExact ↔ (on timeoutMs callback).TimesInRange := by
  cases callback with
  | false =>
    apply iff_of_true
    · exact ⟨fun op hop => absurd hop List.not_mem_nil, rfl⟩
    · exact fun h => absurd h Bool.false_ne_true
  | true =>
    show ((∀ op ∈ millisArithmetic timeoutMs, op.Exact) ∧ _) ↔ (true = true → _)
    rw [imp_iff_right rfl, ← millisArithmetic_exact_iff]
    apply and_iff_left_of_imp
    intro hexact
    exact congrArg (fun us => [us]) (toNat_millis_of_exact hexact)

theorem timingExact_compose {composite : List CompositeEffect} {callback : Bool}
    (hok : .answer .ok ∈ (compose composite callback).ops) :
    (compose composite callback).TimingExact ↔ (compose composite callback).TimesInRange := by
  have heffect : ∀ e ∈ composite, (∀ op ∈ (if e.delayMs ≠ 0 then millisArithmetic e.delayMs
      else []) ++ millisArithmetic (primitiveMs e), op.Exact) ↔ 0 ≤ e.delayMs.toInt := by
    intro e he
    rw [List.forall_mem_append, and_iff_left (primitiveMs_exact e)]
    split_ifs with hzero
    · rw [millisArithmetic_exact_iff]
      have := delayMs_of_ok hok he
      omega
    · rw [not_not.mp hzero]
      exact iff_of_true (fun op hop => absurd hop List.not_mem_nil) (by decide)
  -- only the delays can be out of range, and of these the upper bound was checked
  have harithmetic : (∀ op ∈ (compose composite callback).arithmetic, op.Exact) ↔
      (compose composite callback).TimesInRange :=
    List.forall_mem_flatMap.trans (forall₂_congr heffect)
  unfold TimingExact
  rw [harithmetic]
  apply and_iff_left_of_imp
  intro hrange
  have hsleeps : sleeps (compose composite callback).ops =
      (composeThread composite callback).filterMap ThreadOp.slept := by
    show sleeps (Vibrator.compose composite callback) = _
    rw [compose_of_ok hok]
    exact List.append_nil _
  rw [hsleeps, sleeps_composeThread]
  unfold requested
  rw [List.map_flatMap, List.map_flatMap]
  apply List.flatMap_congr
  intro e he
  have hprimitive := toNat_millis_of_exact (primitiveMs_exact e)
  split_ifs with hzero
  · have hexact : ∀ op ∈ millisArithmetic e.delayMs, op.Exact := by
      rw [millisArithmetic_exact_iff]
      have := delayMs_of_ok hok he
      have := hrange e he
      omega
    exact congrArg₂ (fun a b => [a, b]) (toNat_millis_of_exact hexact) hprimitive
  · exact congrArg (fun a => [a]) hprimitive

theorem timingExact_composePwle {composite : List PrimitivePwle} {callback : Bool}
    (hok : .answer .ok ∈ (composePwle composite callback).ops) :
    (composePwle composite callback).TimingExact ↔
      (composePwle composite callback).TimesInRange := by
  obtain ⟨hlength, total, hloop, hsleeps⟩ := composePwle_ok hok
  constructor
  · rintro ⟨hexact, -⟩ b hb
    exact hexact _ (toUInt32_mem_pwleArithmetic hb 0)
  · intro hrange
    have hlegal := pwleLoop_legal hloop
    have hnonneg : ∀ e ∈ composite, 0 ≤ e.duration.toInt := by
      intro e he
      cases e with
      | active a => exact PrimitivePwle.active_duration_nonneg (hlegal _ he)
      | braking b => exact hrange b he
    have hexact : ∀ op ∈ pwleArithmetic 0 composite, op.Exact := by
      apply pwleArithmetic_exact hloop hnonneg
      show 0 + _ ≤ _
      omega
    refine ⟨hexact, ?_⟩
    show (sleeps (Vibrator.composePwle composite callback)).map _ = _
    rw [hsleeps]
    exact congrArg (fun us => [us]) (by simpa using toNat_pwleLoop hloop hexact)

/-- **When the timing is exact**: of the calls that are answered with ok, exactly those whose times
are in range, which means not negative, and for `on` with a callback at most 2147483 ms. -/
theorem timingExact_iff {c : TimedCall} (hok : .answer .ok ∈ c.ops) :
    c.TimingExact ↔ c.TimesInRange := by
  cases c with
  | on timeoutMs callback => exact timingExact_on timeoutMs callback
  | compose composite callback => exact timingExact_compose hok
  | composePwle composite callback => exact timingExact_composePwle hok

/-- A pulse that rises for a second, brakes and ends. -/
def pulseEnvelope : List PrimitivePwle :=
  [.active
      { startAmplitude := .number 0, startFrequency := .number 150, endAmplitude := .number (1 / 2)
        endFrequency := .number 150, duration := 1000 },
    .braking { braking := 1, duration := 16383 },
    .active
      { startAmplitude := .number (1 / 4), startFrequency := .number 150, endAmplitude := .number 0
        endFrequency := .number 140, duration := 250 }]

/-- The thread sleeps for the sum of the three durations. -/
theorem timingExact_iff_pulse :
    (composePwle pulseEnvelope true).TimingExact ∧
      sleeps (composePwle pulseEnvelope true).ops = [17633000] := by
  refine ⟨(timingExact_iff (by decide +kernel)).mpr ?_, by decide +kernel⟩
  intro b hb
  have hbraking : b = { braking := 1, duration := 16383 } := by simpa [pulseEnvelope] using hb
  rw [hbraking]
  decide

/-- A braking segment of −1 ms lets `composePwle` sleep for more than an hour; a negative delay and
a negative timeout are accepted as well. -/
theorem timingExact_negative :
    (.answer .ok ∈ (composePwle [.braking { braking := 0, duration := -1 }] false).ops ∧
        sleeps (composePwle [.braking { braking := 0, duration := -1 }] false).ops =
          [4294966296] ∧
        ¬ (composePwle [.braking { braking := 0, duration := -1 }] false).TimingExact) ∧
      (.answer .ok ∈
          (compose [{ delayMs := -1, primitive := .click, scale := .number 1 }] false).ops ∧
        ¬ (compose [{ delayMs := -1, primitive := .click, scale := .number 1 }]
          false).TimingExact) ∧
      .answer .ok ∈ (on (-1) true).ops ∧ ¬ (on (-1) true).TimingExact := by
  refine ⟨⟨by decide, by decide, fun h => ?_⟩, ⟨by decide, fun h => ?_⟩, by decide, fun h => ?_⟩
  · have hconv := h.1 (.toUInt32 (-1)) List.mem_cons_self
    exact absurd hconv (by decide)
  · have hconv := h.1 (.toUInt32 (-1 * 1000)) (List.mem_cons_of_mem _ List.mem_cons_self)
    exact absurd hconv (by decide)
  · have hconv := h.1 (.toUInt32 (-1 * 1000)) (List.mem_cons_of_mem _ List.mem_cons_self)
    exact absurd hconv (by decide)

end TimedCall

end GloDroid.Vibrator

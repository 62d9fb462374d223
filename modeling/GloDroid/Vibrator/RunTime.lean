import GloDroid.Vibrator.Motor
import GloDroid.Vibrator.Timing

/-!
# How Long the Motor Runs

`on` and `compose` tell `FFDevice::vibrate` a duration in `int`, and sleep for the same duration
before they notify the callback. The driver is told the duration in 16 bits, where 0 means without
an end. So a duration of 0, which is that of a NOOP primitive, never ends, and one above 65535 ms is
cut short or never ends either. For all others the motor runs as long as asked, whatever else calls
the device in the meantime (`runsAsAsked_iff`).
-/

namespace GloDroid.Vibrator

open GloDroid.Base

/-! ## Requests -/

/-- The calls with a duration for the motor. -/
inductive Request where
  | on (timeoutMs : Int32) (callback : Bool)
  | compose (composite : List CompositeEffect) (callback : Bool)
  deriving DecidableEq, Repr

/-- What a request does, with the calls of the device as they are. -/
inductive RequestOp where
  | vibrate (durationMs : Int32)
  | usleep (us : UInt32)
  | onComplete
  deriving DecidableEq, Repr

/-- The operations that are performed. -/
def RequestOp.ops : RequestOp → List ThreadOp
  | vibrate durationMs => Vibrator.vibrate durationMs
  | usleep us => [.usleep us]
  | onComplete => [.onComplete]

/-- The operations performed in a call, and in the thread it starts. -/
def CallOp.performed : CallOp → List ThreadOp
  | .own op => [op]
  | .spawn thread => thread
  | .answer _ => []

namespace Request

/-- The operations of a request. -/
def ops : Request → List CallOp
  | on timeoutMs callback => Vibrator.on timeoutMs callback
  | compose composite callback => Vibrator.compose composite callback

/-- An effect of a composition. -/
def effectScript (e : CompositeEffect) : List RequestOp :=
  (if e.delayMs ≠ 0 then [.usleep (e.delayMs * 1000).toUInt32] else []) ++
    [.vibrate (primitiveMs e), .usleep (primitiveMs e * 1000).toUInt32]

/-- What an accepted request does, one after the other. -/
def script : Request → List RequestOp
  | on timeoutMs callback =>
    .vibrate timeoutMs ::
      if callback then [.usleep (timeoutMs * 1000).toUInt32, .onComplete] else []
  | compose composite callback =>
    composite.flatMap effectScript ++ if callback then [.onComplete] else []

/-- The driver can be told all durations of the request. -/
def FitsDriver : Request → Prop
  | on timeoutMs _ => 1 ≤ timeoutMs.toInt ∧ timeoutMs.toInt ≤ 65535
  | compose composite _ => ∀ e ∈ composite, e.primitive ≠ .noop

instance : (r : Request) → Decidable r.FitsDriver
  | on timeoutMs _ => inferInstanceAs (Decidable (1 ≤ timeoutMs.toInt ∧ _))
  | compose composite _ => inferInstanceAs (Decidable (∀ e ∈ composite, e.primitive ≠ .noop))

variable {r : Request}

/-- The script is what the request does. -/
theorem performed_eq_script (hok : .answer .ok ∈ r.ops) :
    r.ops.flatMap CallOp.performed = r.script.flatMap RequestOp.ops := by
  cases r with
  | on timeoutMs callback => cases callback <;> rfl
  | compose composite callback =>
    have heffect : ∀ e : CompositeEffect, (effectScript e).flatMap RequestOp.ops =
        compositeOps e := by
      intro e
      unfold effectScript compositeOps
      dsimp only
      split_ifs <;> rfl
    have hcallback :
        (if callback then [RequestOp.onComplete] else []).flatMap RequestOp.ops =
          if callback then [ThreadOp.onComplete] else [] := by
      cases callback <;> rfl
    have hscript : (script (compose composite callback)).flatMap RequestOp.ops =
        composeThread composite callback := by
      unfold script composeThread
      rw [List.flatMap_append, hcallback, List.flatMap_assoc, funext heffect]
    have hops : (compose composite callback).ops =
        [.spawn (composeThread composite callback), .answer .ok] := compose_of_ok hok
    rw [hscript, hops]
    exact List.append_nil _

/-- The primitives of an accepted composition are supported. -/
theorem supported_of_ok {composite : List CompositeEffect} {callback : Bool}
    (hok : .answer .ok ∈ (compose composite callback).ops) {e : CompositeEffect}
    (he : e ∈ composite) : e.primitive ∈ getSupportedPrimitives := by
  have heffect := effectError_of_ok hok he
  unfold effectError at heffect
  split_ifs at heffect with _ _ hsupported
  exact hsupported

/-- The duration of NOOP is 0, and that of the others is not. -/
theorem primitiveMs_fits_iff {e : CompositeEffect} (h : e.primitive ∈ getSupportedPrimitives) :
    1 ≤ (primitiveMs e).toInt ∧ (primitiveMs e).toInt ≤ 65535 ↔ e.primitive ≠ .noop := by
  unfold primitiveMs getPrimitiveDuration
  rw [if_neg (not_not.mpr h)]
  by_cases hnoop : e.primitive = .noop
  · rw [if_neg (not_not.mpr hnoop)]
    simp [hnoop]
  · rw [if_pos hnoop]
    exact iff_of_true (by decide) hnoop

theorem vibrate_mem_script_compose {composite : List CompositeEffect} {callback : Bool}
    {durationMs : Int32} :
    .vibrate durationMs ∈ (compose composite callback).script ↔
      ∃ e ∈ composite, primitiveMs e = durationMs := by
  have heffect : ∀ e, .vibrate durationMs ∈ effectScript e ↔ primitiveMs e = durationMs := by
    intro e
    unfold effectScript
    split_ifs <;> simp [eq_comm]
  unfold script
  simp only [List.mem_append, List.mem_flatMap, heffect]
  cases callback <;> simp

/-- An accepted request fits the driver if each of its durations is from 1 to 65535 ms. -/
theorem fitsDriver_iff (hok : .answer .ok ∈ r.ops) :
    r.FitsDriver ↔
      ∀ durationMs, .vibrate durationMs ∈ r.script →
        1 ≤ durationMs.toInt ∧ durationMs.toInt ≤ 65535 := by
  cases r with
  | on timeoutMs callback =>
    have hmem : ∀ durationMs, .vibrate durationMs ∈ (on timeoutMs callback).script ↔
        durationMs = timeoutMs := by
      intro durationMs
      unfold script
      cases callback <;> simp
    simp only [hmem, forall_eq]
    exact Iff.rfl
  | compose composite callback =>
    simp only [vibrate_mem_script_compose, forall_exists_index, and_imp, forall_apply_eq_imp_iff₂]
    apply forall₂_congr
    intro e he
    exact (primitiveMs_fits_iff (supported_of_ok hok he)).symm

/-- Every duration is slept for before the callback is notified, which comes last. -/
def Awaited : List RequestOp → Prop
  | [] => True
  | .vibrate durationMs :: rest =>
    (.onComplete ∈ rest → ∃ rest', rest = .usleep (durationMs * 1000).toUInt32 :: rest') ∧
      Awaited rest
  | .usleep _ :: rest => Awaited rest
  | .onComplete :: rest => rest = []

theorem script_compose_cons (e : CompositeEffect) (composite : List CompositeEffect)
    (callback : Bool) : (compose (e :: composite) callback).script =
      effectScript e ++ (compose composite callback).script :=
  List.append_assoc _ _ _

theorem awaited_script (r : Request) : Awaited r.script := by
  cases r with
  | on timeoutMs callback => cases callback <;> simp [script, Awaited]
  | compose composite callback =>
    induction composite with
    | nil => cases callback <;> simp [script, Awaited]
    | cons e rest ih =>
      rw [script_compose_cons]
      unfold effectScript
      split_ifs <;> simpa [Awaited] using ih

end Request

/-! ## Executions -/

/-- The operations are performed one after the other, the first not before `t`: the calls of the
device with their times, and the time when `onComplete` is due. Anything may take longer than it
has to. -/
inductive Timed : Nat → List RequestOp → List DeviceCall → Option Nat → Prop where
  | done (t : Nat) : Timed t [] [] none
  | vibrate {t : Nat} {durationMs : Int32} {rest : List RequestOp} {c : DeviceCall}
      {calls : List DeviceCall} {due : Option Nat} (hle : t ≤ c.time)
      (hop : c.op = .vibrate durationMs) (hrest : Timed c.time rest calls due) :
      Timed t (.vibrate durationMs :: rest) (c :: calls) due
  | usleep {t t' : Nat} {us : UInt32} {rest : List RequestOp} {calls : List DeviceCall}
      {due : Option Nat} (hle : t + us.toNat ≤ t') (hrest : Timed t' rest calls due) :
      Timed t (.usleep us :: rest) calls due
  | onComplete {t t' : Nat} {rest : List RequestOp} {calls : List DeviceCall} {due : Option Nat}
      (hle : t ≤ t') (hrest : Timed t' rest calls due) :
      Timed t (.onComplete :: rest) calls (some t')

/-- A request is executed, with any other calls of the device before, between and after its own. -/
structure Execution (r : Request) where
  history : List DeviceCall
  start : Nat
  due : Option Nat
  chronological : Chronological DeviceCall.time history
  own : Timed start r.script (history.filter DeviceCall.own) due

/-- The motor was asked to run at `t`: for the duration, until another call replaces it. -/
def Asked (c : DeviceCall) (durationMs : Int32) (after : List DeviceCall) (t : Nat) : Prop :=
  c.time ≤ t ∧ (t : Int) < c.time + 1000 * durationMs.toInt ∧ ∀ c' ∈ after, t < c'.time

/-- **The motor runs as long as asked**: each `vibrate` of the request drives it exactly while it
was asked to, and no more when `onComplete` is due. -/
def Execution.RunsAsAsked {r : Request} (x : Execution r) : Prop :=
  ∀ before c after durationMs, x.history = before ++ c :: after → c.own = true →
    c.op = .vibrate durationMs →
      (∀ t, drivenBy x.history before.length t = true ↔ Asked c durationMs after t) ∧
        ∀ t, x.due = some t → drivenBy x.history before.length t = false

/-! ## Durations from 1 to 65535 ms -/

section Fits

variable {t : Nat} {ops : List RequestOp} {calls : List DeviceCall} {due : Option Nat}

/-- `onComplete` is due after the start. -/
theorem Timed.le_due (h : Timed t ops calls due) {u : Nat} (hdue : due = some u) : t ≤ u := by
  induction h with
  | done t => cases hdue
  | vibrate hle hop hrest ih => exact le_trans hle (ih hdue)
  | usleep hle hrest ih => exact le_trans (Nat.le_of_add_right_le hle) (ih hdue)
  | onComplete hle hrest ih => exact Option.some.inj hdue ▸ hle

theorem Timed.onComplete_mem (h : Timed t ops calls due) {u : Nat} (hdue : due = some u) :
    .onComplete ∈ ops := by
  induction h with
  | done t => cases hdue
  | vibrate hle hop hrest ih => exact List.mem_cons_of_mem _ (ih hdue)
  | usleep hle hrest ih => exact List.mem_cons_of_mem _ (ih hdue)
  | onComplete hle hrest ih => exact List.mem_cons_self

/-- The calls of a request are its `vibrate`s, and `onComplete` is due after the sleep for each. -/
theorem Timed.sleep_le_due (h : Timed t ops calls due) (hawaited : Request.Awaited ops)
    {c : DeviceCall} (hc : c ∈ calls) :
    ∃ durationMs, .vibrate durationMs ∈ ops ∧ c.op = .vibrate durationMs ∧
      ∀ u, due = some u → c.time + (durationMs * 1000).toUInt32.toNat ≤ u := by
  induction h with
  | done t => exact absurd hc List.not_mem_nil
  | @vibrate t durationMs rest c' calls due hle hop hrest ih =>
    rcases List.mem_cons.mp hc with rfl | hc
    · refine ⟨durationMs, List.mem_cons_self, hop, fun u hdue => ?_⟩
      -- the sleep is the next operation
      obtain ⟨rest', rfl⟩ := hawaited.1 (hrest.onComplete_mem hdue)
      cases hrest with
      | usleep hle' hrest' => exact le_trans hle' (hrest'.le_due hdue)
    · obtain ⟨d, hmem, hd⟩ := ih hawaited.2 hc
      exact ⟨d, List.mem_cons_of_mem _ hmem, hd⟩
  | usleep hle hrest ih =>
    obtain ⟨d, hmem, hd⟩ := ih hawaited hc
    exact ⟨d, List.mem_cons_of_mem _ hmem, hd⟩
  | onComplete hle hrest ih =>
    obtain rfl : _ = [] := hawaited
    cases hrest
    exact absurd hc List.not_mem_nil

/-- 16 bits hold the duration up to a multiple of 65536. -/
theorem toNat_narrowed (durationMs : Int32) :
    (durationMs.toUInt32.toUInt16.toNat : Int) = durationMs.toInt % 65536 := by
  have hnat : durationMs.toUInt32.toUInt16.toNat = durationMs.toUInt32.toNat % 65536 :=
    UInt32.toNat_toUInt16 _
  have hint : durationMs.toInt =
      if 2 * durationMs.toUInt32.toNat < 2 ^ 32 then (durationMs.toUInt32.toNat : Int)
      else durationMs.toUInt32.toNat - (2 ^ 32 : Nat) :=
    BitVec.toInt_eq_toNat_cond durationMs.toBitVec
  split_ifs at hint <;> omega

/-- From 1 to 65535 ms the length is the duration. -/
theorem length_iff_of_fits {durationMs : Int32}
    (hfits : 1 ≤ durationMs.toInt ∧ durationMs.toInt ≤ 65535) (start t : Nat) :
    (durationMs.toUInt32.toUInt16 = 0 ∨
        t < start + 1000 * durationMs.toUInt32.toUInt16.toNat) ↔
      (t : Int) < start + 1000 * durationMs.toInt := by
  have hlength : (durationMs.toUInt32.toUInt16.toNat : Int) = durationMs.toInt := by
    rw [toNat_narrowed]
    omega
  have hzero : durationMs.toUInt32.toUInt16 ≠ 0 := by
    intro h
    have hnat : durationMs.toUInt32.toUInt16.toNat = 0 := congrArg UInt16.toNat h
    omega
  rw [or_iff_right hzero]
  omega

/-- With all durations from 1 to 65535 ms, the motor runs as long as asked. -/
theorem runsAsAsked_of_fits {r : Request}
    (hfits : ∀ durationMs, .vibrate durationMs ∈ r.script →
      1 ≤ durationMs.toInt ∧ durationMs.toInt ≤ 65535) (x : Execution r) : x.RunsAsAsked := by
  intro before c after durationMs hhistory hown hop
  have hc : c ∈ x.history.filter DeviceCall.own := by
    rw [hhistory]
    exact List.mem_filter.mpr ⟨List.mem_append_right _ List.mem_cons_self, hown⟩
  obtain ⟨d, hmem, hd, hdue⟩ := x.own.sleep_le_due r.awaited_script hc
  obtain rfl := DeviceOp.vibrate.inj (hop.symm.trans hd)
  have hduration := hfits durationMs hmem
  have hchronological := x.chronological
  rw [hhistory] at hchronological ⊢
  have hdriven : ∀ t, drivenBy (before ++ c :: after) before.length t = true ↔
      Asked c durationMs after t := by
    intro t
    rw [driven_iff hchronological hop t, length_iff_of_fits hduration]
    exact and_congr_right fun _ => and_comm
  refine ⟨hdriven, fun u hu => ?_⟩
  -- the callback waits for the same time
  have hmicros : ((durationMs * 1000).toUInt32.toNat : Int) = 1000 * durationMs.toInt := by
    apply toNat_millis_of_exact
    exact (millisArithmetic_exact_iff durationMs).mpr (by omega)
  have hafter := hdue u hu
  apply Bool.eq_false_iff.mpr
  intro htrue
  have hasked := ((hdriven u).mp htrue).2.1
  omega

end Fits

/-! ## Other durations -/

section Spaced

/-- Longer than any duration, and than any sleep. -/
def longPause : Nat := 1000 * 2 ^ 32

/-- The calls when nothing else calls the device, and every operation takes very long. -/
def spaced (t : Nat) : List RequestOp → List DeviceCall
  | [] => []
  | .vibrate durationMs :: rest =>
    { time := t, op := .vibrate durationMs, id := ⟨0, by decide⟩, own := true } ::
      spaced (t + longPause) rest
  | _ :: rest => spaced (t + longPause) rest

theorem le_time_of_mem_spaced {t : Nat} {ops : List RequestOp} {c : DeviceCall}
    (hc : c ∈ spaced t ops) : t ≤ c.time ∧ c.own = true := by
  induction ops generalizing t with
  | nil => exact absurd hc List.not_mem_nil
  | cons op rest ih =>
    have hrest : c ∈ spaced (t + longPause) rest → t ≤ c.time ∧ c.own = true := by
      intro hc
      obtain ⟨hle, hown⟩ := ih hc
      exact ⟨Nat.le_of_add_right_le hle, hown⟩
    cases op with
    | vibrate durationMs =>
      rcases List.mem_cons.mp hc with rfl | hc
      · exact ⟨le_refl t, rfl⟩
      · exact hrest hc
    | usleep us => exact hrest hc
    | onComplete => exact hrest hc

theorem chronological_spaced (t : Nat) (ops : List RequestOp) :
    Chronological DeviceCall.time (spaced t ops) := by
  induction ops generalizing t with
  | nil => exact List.Pairwise.nil
  | cons op rest ih =>
    cases op with
    | vibrate durationMs =>
      apply List.pairwise_cons.mpr
      refine ⟨fun c hc => ?_, ih (t + longPause)⟩
      exact Nat.le_of_add_right_le (le_time_of_mem_spaced hc).1
    | usleep us => exact ih (t + longPause)
    | onComplete => exact ih (t + longPause)

/-- The operations may also start earlier. -/
theorem Timed.of_le {t t' : Nat} {ops : List RequestOp} {calls : List DeviceCall}
    {due : Option Nat} (h : Timed t ops calls due) (hle : t' ≤ t) : Timed t' ops calls due := by
  cases h with
  | done => exact .done t'
  | vibrate hle' hop hrest => exact .vibrate (le_trans hle hle') hop hrest
  | usleep hle' hrest => exact .usleep (le_trans (Nat.add_le_add_right hle _) hle') hrest
  | onComplete hle' hrest => exact .onComplete (le_trans hle hle') hrest

theorem timed_spaced (t : Nat) (ops : List RequestOp) : ∃ due, Timed t ops (spaced t ops) due := by
  induction ops generalizing t with
  | nil => exact ⟨none, .done t⟩
  | cons op rest ih =>
    obtain ⟨due, hrest⟩ := ih (t + longPause)
    cases op with
    | vibrate durationMs =>
      exact ⟨due, .vibrate (le_refl t) rfl (hrest.of_le (Nat.le_add_right t longPause))⟩
    | usleep us =>
      have hle : us.toNat ≤ longPause := le_of_lt (lt_trans us.toNat_lt (by decide))
      exact ⟨due, .usleep (Nat.add_le_add_left hle t) hrest⟩
    | onComplete => exact ⟨some _, .onComplete (Nat.le_add_right t longPause) hrest⟩

/-- Each `vibrate` is among the calls, long before the next one. -/
theorem exists_of_vibrate_mem {t : Nat} {ops : List RequestOp} {durationMs : Int32}
    (h : .vibrate durationMs ∈ ops) :
    ∃ before c after, spaced t ops = before ++ c :: after ∧ c.op = .vibrate durationMs ∧
      ∀ c' ∈ after, c.time + longPause ≤ c'.time := by
  induction ops generalizing t with
  | nil => exact absurd h List.not_mem_nil
  | cons op rest ih =>
    cases op with
    | vibrate d =>
      rcases List.mem_cons.mp h with heq | h
      · obtain rfl := RequestOp.vibrate.inj heq
        exact ⟨[], _, _, rfl, rfl, fun c' hc' => (le_time_of_mem_spaced hc').1⟩
      · obtain ⟨before, c, after, heq, hc⟩ := ih h
        exact ⟨_ :: before, c, after, congrArg (List.cons _) heq, hc⟩
    | usleep us => exact ih (List.mem_of_ne_of_mem (by simp) h)
    | onComplete => exact ih (List.mem_of_ne_of_mem (by simp) h)

/-- In the spaced execution nothing replaces an effect until after its duration. What the driver is
told then has to agree with what is asked, at every time until then. -/
theorem length_iff_of_runsAsAsked {r : Request} (h : ∀ x : Execution r, x.RunsAsAsked)
    {durationMs : Int32} (hmem : .vibrate durationMs ∈ r.script) :
    ∃ start, ∀ t, start ≤ t → t < start + longPause →
      ((durationMs.toUInt32.toUInt16 = 0 ∨
          t < start + 1000 * durationMs.toUInt32.toUInt16.toNat) ↔
        (t : Int) < start + 1000 * durationMs.toInt) := by
  obtain ⟨due, htimed⟩ := timed_spaced 0 r.script
  have hown : ∀ c ∈ spaced 0 r.script, c.own = true := fun c hc => (le_time_of_mem_spaced hc).2
  have hchronological := chronological_spaced 0 r.script
  -- nothing else calls the device, so all calls are the request's
  rw [← List.filter_eq_self.mpr hown] at htimed
  obtain ⟨before, c, after, heq, hop, hpause⟩ := exists_of_vibrate_mem hmem
  have hc : c.own = true := by
    apply hown
    rw [heq]
    exact List.mem_append_right _ List.mem_cons_self
  refine ⟨c.time, fun t hle hlt => ?_⟩
  have hlast : ∀ c' ∈ after, t < c'.time := fun c' hc' => lt_of_lt_of_le hlt (hpause c' hc')
  have hasked := (h ⟨_, 0, due, hchronological, htimed⟩ before c after durationMs heq hc hop).1 t
  rw [heq] at hchronological
  dsimp only at hasked
  rw [heq, driven_iff hchronological hop t, Asked] at hasked
  constructor
  · exact fun hshort => (hasked.mp ⟨hle, hlast, hshort⟩).2.1
  · exact fun hlong => (hasked.mpr ⟨hle, hlong, hlast⟩).2.2

/-- The length and the duration agree only if the duration is from 1 to 65535 ms. -/
theorem fits_of_length_iff {start : Nat} {durationMs : Int32}
    (hlength : ∀ t, start ≤ t → t < start + longPause →
      ((durationMs.toUInt32.toUInt16 = 0 ∨
          t < start + 1000 * durationMs.toUInt32.toUInt16.toNat) ↔
        (t : Int) < start + 1000 * durationMs.toInt)) :
    1 ≤ durationMs.toInt ∧ durationMs.toInt ≤ 65535 := by
  have hpause : longPause = 4294967296000 := rfl
  have hlow : 1 ≤ durationMs.toInt := by
    -- at the start the motor runs whatever the length is
    have hplays : durationMs.toUInt32.toUInt16 = 0 ∨
        start < start + 1000 * durationMs.toUInt32.toUInt16.toNat := by
      rcases Nat.eq_zero_or_pos durationMs.toUInt32.toUInt16.toNat with hzero | hpos
      · exact .inl (UInt16.toNat_inj.mp hzero)
      · exact .inr (by omega)
    have hstart := (hlength start (le_refl start) (by omega)).mp hplays
    omega
  refine ⟨hlow, ?_⟩
  by_contra hhigh
  have hlt : durationMs.toInt < 2 ^ 31 := Int32.toInt_lt durationMs
  by_cases hzero : durationMs.toUInt32.toUInt16 = 0
  · -- the effect has no end
    have hend := (hlength (start + 1000 * durationMs.toInt.toNat) (by omega) (by omega)).mp
      (.inl hzero)
    omega
  · -- the effect ends too early
    have hnarrow : durationMs.toUInt32.toUInt16.toNat < 65536 := UInt16.toNat_lt _
    have hend := (hlength (start + 1000 * durationMs.toUInt32.toUInt16.toNat) (by omega)
      (by omega)).mpr (by omega)
    exact absurd (hend.resolve_left hzero) (lt_irrefl _)

/-- If the motor runs as long as asked in every execution, every duration is from 1 to 65535 ms. -/
theorem fits_of_runsAsAsked {r : Request} (h : ∀ x : Execution r, x.RunsAsAsked)
    {durationMs : Int32} (hmem : .vibrate durationMs ∈ r.script) :
    1 ≤ durationMs.toInt ∧ durationMs.toInt ≤ 65535 := by
  obtain ⟨start, hlength⟩ := length_iff_of_runsAsAsked h hmem
  exact fits_of_length_iff hlength

end Spaced

/-! ## The result -/

/-- The motor runs as long as asked in every execution of an accepted request exactly if the driver
can be told all its durations: `on` for 1 to 65535 ms, a composition without NOOP. -/
theorem runsAsAsked_iff {r : Request} (hok : .answer .ok ∈ r.ops) :
    (∀ x : Execution r, x.RunsAsAsked) ↔ r.FitsDriver := by
  rw [Request.fitsDriver_iff hok]
  constructor
  · intro h durationMs hmem
    exact fits_of_runsAsAsked h hmem
  · intro hfits x
    exact runsAsAsked_of_fits hfits x

theorem runsAsAsked_iff_oneSecond :
    (Request.on 1000 true).FitsDriver ∧ ∀ x : Execution (.on 1000 true), x.RunsAsAsked :=
  ⟨by decide, (runsAsAsked_iff (by decide)).mpr (by decide)⟩

/-- `on(0)`, with nothing else. -/
def foreverOn : Execution (.on 0 true) where
  history := [{ time := 0, op := .vibrate 0, id := ⟨0, by decide⟩, own := true }]
  start := 0
  due := some 0
  chronological := List.pairwise_singleton _ _
  own := .vibrate (le_refl 0) rfl (.usleep (le_refl 0) (.onComplete (le_refl 0) (.done 0)))

/-- `on(0)` lets the motor run without an end, and so does a NOOP; after `on(65636)` it stops early,
at 100 ms. All are accepted. -/
theorem foreverOn_driven :
    .answer .ok ∈ (Request.on 0 true).ops ∧ foreverOn.due = some 0 ∧
      (∀ t, drivenBy foreverOn.history 0 t = true) ∧ ¬ foreverOn.RunsAsAsked ∧
      .answer .ok ∈ (Request.compose [⟨0, .noop, .number 1⟩] true).ops ∧
      (¬ ∀ x : Execution (.compose [⟨0, .noop, .number 1⟩] true), x.RunsAsAsked) ∧
      .answer .ok ∈ (Request.on 65636 true).ops ∧
      ¬ ∀ x : Execution (.on 65636 true), x.RunsAsAsked := by
  have hforever : ∀ t, drivenBy foreverOn.history 0 t = true := by
    intro t
    have hchronological : Chronological DeviceCall.time ([] ++ _ :: []) := foreverOn.chronological
    apply (driven_iff hchronological rfl t).mpr
    exact ⟨Nat.zero_le t, fun c hc => absurd hc List.not_mem_nil, .inl rfl⟩
  refine ⟨by decide, rfl, hforever, ?_, by decide, ?_, by decide, ?_⟩
  · intro h
    have hdue := (h [] _ [] 0 rfl rfl rfl).2 0 rfl
    exact absurd (hforever 0) (Bool.eq_false_iff.mp hdue)
  · intro h
    have hnoop := fits_of_runsAsAsked h (List.mem_append_left _ List.mem_cons_self)
    exact absurd hnoop.1 (by decide)
  · intro h
    have hlong := fits_of_runsAsAsked h List.mem_cons_self
    exact absurd hlong.2 (by decide)

end GloDroid.Vibrator

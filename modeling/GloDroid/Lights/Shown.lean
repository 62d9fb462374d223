import GloDroid.Lights.Lights
import Mathlib.Tactic.IntervalCases

/-!
# What the LEDs Show

What a user asks for and sees is stated without bits, vectors and texts: a backlight has a level, an
LED is lit or not, and a call asks some of them for a value (`LightsCall.asks`).

- `colorByte_eq`, `rgbToBrightness_ne_zero_iff`, `convertBrightness_eq`: the arithmetic of the code.
- `setLightState_led`, `setLightState_other`: one call writes what it asks for, and nothing else.
- `lights_show`: after any run, each file reads as what the last call asked of it that could write
  it. The notifications and the attention light share one LED, so either puts out what the other
  one lit.
-/

namespace GloDroid.Lights

open GloDroid.Base

/-! ## What is asked for -/

inductive Led where
  | lcd | red | green | blue
  deriving DecidableEq, Repr

def Led.file : Led → String
  | .lcd => lcdFile
  | .red => redLedFile
  | .green => greenLedFile
  | .blue => blueLedFile

theorem Led.file_injective : Function.Injective Led.file := by
  intro led led' h
  cases led <;> cases led' <;> first | rfl | exact absurd h (by decide)

/-- The byte of a colour that starts at this bit. -/
def byteOf (color : BitVec 32) (shift : Nat) : Nat := color.toNat / 2 ^ shift % 256

/-- The level of a panel with this maximum at a brightness of 0 to 255, in whole percents. -/
def level (m brightness : Nat) : Nat := m * (brightness * 100 / 255) / 100

/-- The colour is not so dark that the indicator stays off. -/
def Visible (color : BitVec 32) : Prop :=
  4 ≤ byteOf color 16 ∨ 2 ≤ byteOf color 8 ∨ 9 ≤ byteOf color 0

instance (color : BitVec 32) : Decidable (Visible color) := inferInstanceAs (Decidable (_ ∨ _))

/-- An LED that is lit or not. -/
def lit (p : Prop) [Decidable p] : Nat := if p then 1 else 0

/-- What a call asks of an LED: the light of each id, and the colour. -/
def LightsCall.value (m : Nat) (call : LightsCall) (led : Led) : Option Nat :=
  match call.id with
  | 0 => if led = .lcd then some (level m (byteOf call.color 0)) else none
  | 3 =>
    if led = .red then some (lit (128 < byteOf call.color 16))
    else if led = .green then some (lit (128 < byteOf call.color 8))
    else none
  | 4 | 5 => if led = .blue then some (lit (Visible call.color)) else none
  | _ => none

/-- What a call asks of an LED whose file it can write. -/
def LightsCall.asks (m : Nat) (call : LightsCall) (led : Led) : Option Nat :=
  if call.written led.file then call.value m led else none

/-- The last thing that was asked of an LED. -/
def asked (m : Nat) (calls : List LightsCall) (led : Led) : Option Nat :=
  (calls.filterMap fun call => call.asks m led).getLast?

/-- The highest value of an LED. -/
def Led.most (m : Nat) : Led → Nat
  | .lcd => m
  | _ => 1

/-! ## Levels -/

variable {m : Nat}

theorem percent_le {brightness : Nat} (h : brightness < 256) : brightness * 100 / 255 ≤ 100 := by
  omega

theorem level_le {brightness : Nat} (h : brightness < 256) : level m brightness ≤ m := by
  rw [level]
  apply Nat.div_le_of_le_mul
  rw [Nat.mul_comm 100]
  exact Nat.mul_le_mul_left m (percent_le h)

/-! ## The arithmetic of the code -/

theorem byteOf_lt (color : BitVec 32) (shift : Nat) : byteOf color shift < 256 :=
  Nat.mod_lt _ (by decide)

/-- The low byte as an `int`. -/
theorem toInt_and_255 (color : BitVec 32) :
    (color &&& 0xFF#32).toInt = (color.toNat % 256 : Nat) := by
  have hbyte : (color &&& 0xFF#32).toNat = color.toNat % 256 := by
    rw [BitVec.toNat_and]
    exact Nat.and_two_pow_sub_one_eq_mod color.toNat 8
  rw [BitVec.toInt_eq_toNat_of_lt (by omega), hbyte]

/-- The arithmetic shift brings in copies of the sign, which the mask drops. -/
theorem colorByte_eq (color : BitVec 32) {shift : Nat} (hshift : shift ≤ 24) :
    colorByte color shift = byteOf color shift := by
  have hmask : color.sshiftRight shift &&& 0xFF#32 = (color >>> shift) &&& 0xFF#32 := by
    ext i hi
    have hbit : (0xFF#32)[i] = decide (i < 8) := by
      rw [BitVec.getElem_eq_testBit_toNat]
      exact Nat.testBit_two_pow_sub_one 8 i
    rw [BitVec.getElem_and, BitVec.getElem_and, hbit]
    by_cases hbyte : i < 8
    · have hin : shift + i < 32 := by omega
      simp [BitVec.getElem_sshiftRight, hin]
    · simp [hbyte]
  rw [colorByte, hmask, toInt_and_255, BitVec.toNat_ushiftRight, Nat.shiftRight_eq_div_pow, byteOf]

theorem scaled_eq (color : BitVec 32) {shift : Nat} (hshift : shift ≤ 24) (weight : Nat) :
    ((colorByte color shift * weight).tdiv 255).toNat = byteOf color shift * weight / 255 := by
  rw [colorByte_eq color hshift]
  norm_cast

theorem rgbToBrightness_ne_zero_iff (color : BitVec 32) :
    rgbToBrightness color ≠ 0 ↔ Visible color := by
  have hr := scaled_eq color (show 16 ≤ 24 by decide) 77
  have hg := scaled_eq color (show 8 ≤ 24 by decide) 150
  have hb := scaled_eq color (show 0 ≤ 24 by decide) 29
  simp only [Nat.cast_ofNat] at hr hg hb
  simp only [rgbToBrightness, hr, hg, hb, ne_eq, Nat.or_eq_zero_iff, Nat.shiftLeft_eq_zero_iff,
    Visible]
  omega

theorem convertBrightness_eq (hmax : m * 100 < 2 ^ 31) (color : BitVec 32) :
    convertBrightness m color = level m (byteOf color 0) := by
  have hbyte : byteOf color 0 = color.toNat % 256 := by
    rw [byteOf, Nat.pow_zero, Nat.div_one]
  -- the two subtractions of unsigned numbers undo each other
  have hshift : BitVec.ofInt 32 (0xFF#32 - 0x00#32).toInt - (0xFF#32 - (color &&& 0xFF#32)) =
      color &&& 0xFF#32 := by
    rw [show BitVec.ofInt 32 (0xFF#32 - 0x00#32).toInt = 0xFF#32 by decide]
    generalize color &&& 0xFF#32 = byte
    bv_omega
  have hpercent : ((byteOf color 0 : Int) * 100).tdiv 255 =
      (byteOf color 0 * 100 / 255 : Nat) := by norm_cast
  -- the product stays within an `int`
  have hproduct : m * (byteOf color 0 * 100 / 255) ≤ m * 100 :=
    Nat.mul_le_mul_left m (percent_le (byteOf_lt color 0))
  have hmod : ((m : Int) * (byteOf color 0 * 100 / 255 : Nat)).bmod (2 ^ 32) =
      (m * (byteOf color 0 * 100 / 255) : Nat) := by
    rw [← Nat.cast_mul]
    apply Int.bmod_eq_of_le_mul_two <;> omega
  have hlevel := level_le (m := m) (byteOf_lt color 0)
  simp only [convertBrightness, hshift, toInt_and_255, ← hbyte]
  rw [show (0xFF#32 - 0x00#32).toInt = 255 from rfl, hpercent, hmod]
  have hdiv : ((m * (byteOf color 0 * 100 / 255) : Nat) : Int).tdiv 100 =
      (level m (byteOf color 0) : Nat) := (Int.ofNat_tdiv _ 100).symm
  rw [hdiv, if_neg]
  omega

/-! ## Texts -/

/-- The buffer takes every `int`. -/
theorem sysText_fits {value : Nat} (h : value < 10 ^ 10) : (sysText value).length < 16 := by
  have hlength : (decimalText value).length ≤ 10 + 1 :=
    length_decimalText_le (by decide) (by rwa [Int.natAbs_natCast])
  rw [sysText, String.length_append]
  exact Nat.lt_of_le_of_lt (Nat.add_le_add_right hlength 1) (by decide)

theorem sysWriteInt_eq {value : Nat} (h : value < 10 ^ 10) (content : String) (written : Bool) :
    sysWriteInt content written value = if written then sysText value else content := by
  rw [sysWriteInt, if_neg (Nat.not_le.mpr (sysText_fits h))]

theorem atoi_sysText (value : Int) : atoi (sysText value) = value :=
  atoi_decimalText value (by simp [NoDigitNext])

/-- What the kernel writes is read back. -/
theorem sysfsReadInt_sysText {value : Nat} (h : value < 10 ^ 10) (before : Int) :
    sysfsReadInt before (some (sysText value)) = value := by
  have hall : (sysText value).toList.take 16 = (sysText value).toList :=
    List.take_of_length_le (Nat.le_of_lt (sysText_fits h))
  rw [sysfsReadInt, hall, String.ofList_toList, atoi_sysText]

/-! ## One call -/

theorem lit_le (p : Prop) [Decidable p] : lit p ≤ 1 := by
  rw [lit]
  split <;> decide

/-- The lights of the object and the panel's maximum, which no call changes. -/
structure LightsState.Fitted (m : Nat) (s : LightsState) : Prop where
  lights : s.availableLights = (LightsState.create s.files none).availableLights
  maximum : s.sysMaxBrightness = m

theorem LightsState.writeLed_file (s : LightsState) (written : String → Bool) {value : Nat}
    (hvalue : value < 10 ^ 10) (led led' : Led) :
    (s.writeLed written led.file value).files led'.file =
      if led' = led ∧ written led'.file then sysText value else s.files led'.file := by
  simp only [writeLed, Function.update_apply, sysWriteInt_eq hvalue, Led.file_injective.eq_iff]
  by_cases heq : led' = led
  · simp [heq]
  · simp [heq]

variable {call : LightsCall} {s : LightsState}

/-- The light that the code finds for an id. -/
theorem LightsState.Fitted.typeOf (h : s.Fitted m) (id : Int) :
    s.availableLights[id.toNat]?.map HwLight.type =
      [LightType.backlight, .keyboard, .buttons, .battery, .notifications, .attention, .bluetooth,
        .wifi][id.toNat]? := by
  rw [h.lights, ← List.getElem?_map]
  rfl

theorem LightsState.Fitted.length (h : s.Fitted m) : s.availableLights.length = 8 := by
  rw [h.lights]
  rfl

/-- What one call does to the object: the ids of the four lights, and the others. -/
theorem LightsState.Fitted.setLightState_eq (h : s.Fitted m) (hmax : m * 100 < 2 ^ 31)
    (call : LightsCall) :
    (s.setLightState call.id call.color call.written).2 =
      match call.id with
      | 0 => s.writeLed call.written Led.lcd.file (level m (byteOf call.color 0))
      | 3 =>
        (s.writeLed call.written Led.red.file (lit (128 < byteOf call.color 16))).writeLed
          call.written Led.green.file (lit (128 < byteOf call.color 8))
      | 4 | 5 => s.writeLed call.written Led.blue.file (lit (Visible call.color))
      | _ => s := by
  obtain ⟨id, color, written⟩ := call
  have hred : colorByte color 16 > 128 ↔ 128 < byteOf color 16 := by
    rw [colorByte_eq color (by decide)]
    omega
  have hgreen : colorByte color 8 > 128 ↔ 128 < byteOf color 8 := by
    rw [colorByte_eq color (by decide)]
    omega
  by_cases hid : 0 ≤ id ∧ id < 8
  · have hknown : 0 ≤ id ∧ id < s.availableLights.length := by rwa [h.length]
    simp only [setLightState, if_pos hknown, h.typeOf id, hred, hgreen, h.maximum,
      rgbToBrightness_ne_zero_iff, convertBrightness_eq hmax]
    obtain ⟨hlow, hhigh⟩ := hid
    -- one case for each light
    interval_cases id <;> simp [lit, Led.file]
  · have hunknown : ¬ (0 ≤ id ∧ id < s.availableLights.length) := by rwa [h.length]
    simp only [setLightState, if_neg hunknown]
    split <;> first | rfl | omega

/-- The step lemma: each LED gets what the call asks of it. -/
theorem LightsState.Fitted.setLightState_led (h : s.Fitted m) (hmax : m * 100 < 2 ^ 31)
    (call : LightsCall) (led : Led) :
    (s.setLightState call.id call.color call.written).2.files led.file =
      match call.asks m led with
      | some value => sysText value
      | none => s.files led.file := by
  have hlevel := level_le (m := m) (byteOf_lt call.color 0)
  have hsmall : level m (byteOf call.color 0) < 10 ^ 10 := by omega
  have hlit (p : Prop) [Decidable p] : lit p < 10 ^ 10 :=
    Nat.lt_of_le_of_lt (lit_le p) (by decide)
  have hwrite (led' : Led) {value : Nat} (hvalue : value < 10 ^ 10) (s : LightsState) :=
    s.writeLed_file call.written hvalue led' led
  rw [h.setLightState_eq hmax, LightsCall.asks, LightsCall.value]
  cases hwritten : call.written led.file with
  | false =>
    -- a file that cannot be written stays as it is, whatever is asked of it
    split <;> simp [hwrite _ hsmall, hwrite _ (hlit _), hwritten]
  | true =>
    split
    · -- the backlight
      rw [hwrite .lcd hsmall, hwritten]
      cases led <;> rfl
    · -- the battery: the second write leaves the red LED alone
      rw [hwrite .green (hlit _), hwrite .red (hlit _), hwritten]
      cases led <;> rfl
    · rw [hwrite .blue (hlit _), hwritten]
      cases led <;> rfl
    · rw [hwrite .blue (hlit _), hwritten]
      cases led <;> rfl
    · rfl

theorem LightsState.writeLed_other (s : LightsState) (written : String → Bool) (led : Led)
    (color : Int) {path : String} (h : path ≠ led.file) :
    (s.writeLed written led.file color).files path = s.files path :=
  Function.update_of_ne h _ _

/-- The files of other things stay as they are. -/
theorem LightsState.Fitted.setLightState_other (h : s.Fitted m) (hmax : m * 100 < 2 ^ 31)
    (call : LightsCall) {path : String} (hpath : ∀ led : Led, path ≠ led.file) :
    (s.setLightState call.id call.color call.written).2.files path = s.files path := by
  have hother (led : Led) (color : Int) (s : LightsState) :=
    s.writeLed_other call.written led color (hpath led)
  rw [h.setLightState_eq hmax]
  split <;> simp only [hother]

theorem LightsState.Fitted.next (h : s.Fitted m) (hmax : m * 100 < 2 ^ 31)
    (call : LightsCall) :
    (s.setLightState call.id call.color call.written).2.Fitted m := by
  rw [h.setLightState_eq hmax]
  split <;> exact ⟨h.lights, h.maximum⟩

/-- A light that `getLights` returns can be set under its id, and no other id is accepted. -/
theorem LightsState.Fitted.accepted_iff (h : s.Fitted m) (call : LightsCall) :
    (s.setLightState call.id call.color call.written).1 = true ↔
      ∃ light ∈ s.availableLights, (light.id : Int) = call.id := by
  have hanswer : (s.setLightState call.id call.color call.written).1 = true ↔
      0 ≤ call.id ∧ call.id < 8 := by
    rw [LightsState.setLightState, h.length]
    split
    · rename_i hid
      split <;> exact iff_of_true rfl hid
    · rename_i hid
      exact iff_of_false Bool.false_ne_true hid
  have hids : s.availableLights.map HwLight.id = List.range 8 := by
    rw [h.lights]
    rfl
  rw [hanswer]
  constructor
  · rintro ⟨hlow, hhigh⟩
    have hmem : call.id.toNat ∈ s.availableLights.map HwLight.id := by
      rw [hids, List.mem_range]
      omega
    obtain ⟨light, hlight, hid⟩ := List.mem_map.mp hmem
    exact ⟨light, hlight, by omega⟩
  · rintro ⟨light, hlight, hid⟩
    have hmem : light.id ∈ s.availableLights.map HwLight.id := List.mem_map_of_mem hlight
    rw [hids, List.mem_range] at hmem
    omega

/-! ## Runs -/

theorem asked_cons (call : LightsCall) (calls : List LightsCall) (led : Led) :
    asked m (call :: calls) led = (asked m calls led).or (call.asks m led) := by
  rw [asked, List.filterMap_cons]
  cases call.asks m led with
  | none => simp [asked]
  | some value =>
    rw [List.getLast?_cons, asked]
    cases (calls.filterMap fun call => call.asks m led).getLast? <;> rfl

variable {s₀ : LightsState} {calls : List LightsCall} {maxBrightness : Option String}

/-- The run lemma, on the calls from the first one on. -/
theorem LightsState.Fitted.run (h : s₀.Fitted m) (hmax : m * 100 < 2 ^ 31)
    (hrun : (lightsMachine maxBrightness).Run s₀ calls s) :
    s.Fitted m ∧
    (∀ led, s.files led.file =
      match asked m calls led with
      | some value => sysText value
      | none => s₀.files led.file) ∧
    ∀ path, (∀ led : Led, path ≠ led.file) → s.files path = s₀.files path := by
  induction hrun with
  | nil s => exact ⟨h, fun _ => rfl, fun _ _ => rfl⟩
  | @cons s₀ s₁ s call calls hnext _ ih =>
    obtain rfl := Option.some.inj hnext
    obtain ⟨hfitted, hleds, hothers⟩ := ih (h.next hmax call)
    refine ⟨hfitted, fun led => ?_, fun path hpath => ?_⟩
    · rw [hleds, asked_cons, h.setLightState_led hmax]
      cases asked m calls led <;> rfl
    · rw [hothers path hpath, h.setLightState_other hmax call hpath]

theorem LightsCall.asks_le {call : LightsCall} {led : Led} {value : Nat}
    (h : call.asks m led = some value) : value ≤ led.most m := by
  have hlevel := level_le (m := m) (byteOf_lt call.color 0)
  have hvalue : call.value m led = some value := (Option.ite_none_right_eq_some.mp h).2
  rw [LightsCall.value] at hvalue
  cases led <;> split at hvalue <;> simp [Led.most] at hvalue ⊢ <;>
    first | exact hvalue ▸ lit_le _ | exact hvalue ▸ hlevel

theorem asked_le {led : Led} {value : Nat} (h : asked m calls led = some value) :
    value ≤ led.most m := by
  have hmem := List.mem_of_getLast? h
  obtain ⟨call, -, hasks⟩ := List.mem_filterMap.mp hmem
  exact call.asks_le hasks

/-- **The LEDs show the last requests.** Whatever is asked for in whatever order, and whichever
files cannot be written: each LED's file reads as the value that the last call asked of it that
could write it, which is at most the LED's highest one, or is as it was found if there was none. No
other file changes, and a call is accepted exactly for the ids of the lights. -/
theorem lights_show (hread : sysfsReadInt 0 maxBrightness = m) (hmax : m * 100 < 2 ^ 31)
    (hstart : (lightsMachine maxBrightness).start s₀)
    (hrun : (lightsMachine maxBrightness).Run s₀ calls s) :
    (∀ led,
      match asked m calls led with
      | some value => atoi (s.files led.file) = value ∧ value ≤ led.most m
      | none => s.files led.file = s₀.files led.file) ∧
    (∀ path, (∀ led : Led, path ≠ led.file) → s.files path = s₀.files path) ∧
    ∀ call : LightsCall, (s.setLightState call.id call.color call.written).1 = true ↔
      ∃ light ∈ s.availableLights, (light.id : Int) = call.id := by
  obtain ⟨files, rfl⟩ := hstart
  have hfitted : (LightsState.create files maxBrightness).Fitted m := ⟨rfl, hread⟩
  obtain ⟨hfitted', hleds, hothers⟩ := hfitted.run hmax hrun
  refine ⟨fun led => ?_, hothers, hfitted'.accepted_iff⟩
  have hled := hleds led
  cases hasked : asked m calls led with
  | none => simpa only [hasked] using hled
  | some value =>
    simp only [hasked] at hled
    exact ⟨by rw [hled, atoi_sysText], asked_le hasked⟩

/-- A panel at about half its brightness, a notification, the end of an attention request, and a
full brightness that could not be written. -/
def eveningCalls : List LightsCall :=
  [{ id := 0, color := 0xFF808080#32, written := fun _ => true },
    { id := 4, color := 0xFFFFFFFF#32, written := fun _ => true },
    { id := 5, color := 0xFF000000#32, written := fun _ => true },
    { id := 0, color := 0xFFFFFFFF#32, written := fun _ => false }]

def eveningLights : LightsState :=
  ((lightsMachine (some (sysText 1023))).exec
    (LightsState.create (fun _ => sysText 0) (some (sysText 1023))) eveningCalls).get rfl

/-- The notification is dark, although only the attention light was put out. -/
theorem lights_show_evening :
    (atoi (eveningLights.files lcdFile) = 511 ∧ 511 ≤ 1023) ∧
      atoi (eveningLights.files blueLedFile) = 0 ∧ 0 ≤ 1 := by
  have hrun : (lightsMachine (some (sysText 1023))).Run
      (LightsState.create (fun _ => sysText 0) (some (sysText 1023))) eveningCalls eveningLights :=
    Machine.run_of_exec rfl
  have hread : sysfsReadInt 0 (some (sysText 1023)) = (1023 : Nat) :=
    sysfsReadInt_sysText (by decide) 0
  have hshow := (lights_show hread (by decide) ⟨_, rfl⟩ hrun).1
  exact ⟨hshow .lcd, hshow .blue⟩

end GloDroid.Lights

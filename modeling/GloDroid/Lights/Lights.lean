import GloDroid.Base.Decimal
import GloDroid.Base.Machine
import Mathlib.Data.Int.Init
import Mathlib.Logic.Function.Basic

/-!
# The Lights HAL

`Lights` writes a number to the brightness file of an LED for each request. It has eight lights, of
which four are backed by files: the backlight, and three LEDs that the battery, the notifications
and the attention light share.

- `main` registers the service, then reads the panel's maximum into `SYS_MAX_BRIGHTNESS`, then
  serves the calls one after the other: the thread pool has no thread but the main one, so no call
  is served before the maximum is read.
- `setLightState` looks the light up by its id and writes what its type asks for; a file that cannot
  be opened or written is passed over.

A colour is an `int` of the form `0xAARRGGBB`, here its 32 bits; files hold their text.
-/

namespace GloDroid.Lights

open GloDroid.Base

/-! ## Files -/

def redLedFile : String := "/sys/class/leds/red:indicator/brightness"
def blueLedFile : String := "/sys/class/leds/blue:indicator/brightness"
def greenLedFile : String := "/sys/class/leds/green:indicator/brightness"
def lcdFile : String := "/sys/class/backlight/backlight/brightness"
def maxBrightnessFile : String := "/sys/class/backlight/backlight/max_brightness"

/-- The text of a number in sysfs. -/
def sysText (value : Int) : String := decimalText value ++ "\n"

/-- `sys_write_int`, on a file with this content; `written` says whether `write` succeeds. -/
def sysWriteInt (content : String) (written : Bool) (value : Int) : String :=
  -- a text that does not fit into the buffer is not written
  if 16 ≤ (sysText value).length then content
  else if written then sysText value
  else content

/-- `sysfs_read_int`, where `content` is what `open` and `read` give: nothing if the file cannot be
opened, an empty text if it cannot be read. -/
def sysfsReadInt (value : Int) : Option String → Int
  | none => value
  | some content => atoi (String.ofList (content.toList.take 16))

/-! ## Colours -/

/-- `(color >> shift) & 0xFF` -/
def colorByte (color : BitVec 32) (shift : Nat) : Int := (color.sshiftRight shift &&& 0xFF#32).toInt

def rgbToBrightness (color : BitVec 32) : Nat :=
  let r := (colorByte color 16 * 77).tdiv 255
  let g := (colorByte color 8 * 150).tdiv 255
  let b := (colorByte color 0 * 29).tdiv 255
  (r.toNat <<< 16) ||| (g.toNat <<< 8) ||| b.toNat

/-- The product with the maximum is one of `int`. -/
def convertBrightness (sysMaxBrightness : Int) (currentBrightness : BitVec 32) : Int :=
  let maxBrightness := 0xFF#32
  let minBrightness := 0x00#32
  let maxShift := (maxBrightness - minBrightness).toInt
  let shift := (BitVec.ofInt 32 maxShift - (maxBrightness - (currentBrightness &&& 0xFF#32))).toInt
  let percent := (shift * 100).tdiv maxShift
  let calculated := ((sysMaxBrightness * percent).bmod (2 ^ 32)).tdiv 100
  if calculated > sysMaxBrightness then sysMaxBrightness else calculated

/-! ## Lights -/

/-- The types that the HAL has a light of. -/
inductive LightType where
  | backlight | keyboard | buttons | battery | notifications | attention | bluetooth | wifi
  deriving DecidableEq, Repr

structure HwLight where
  id : Nat
  type : LightType
  ordinal : Int
  deriving DecidableEq, Repr

def addLight (availableLights : List HwLight) (type : LightType) (ordinal : Int) : List HwLight :=
  availableLights ++ [{ id := availableLights.length, type, ordinal }]

/-- The object, the global maximum and the files. -/
structure LightsState where
  availableLights : List HwLight
  sysMaxBrightness : Int
  files : String → String

namespace LightsState

/-- The constructor of `Lights` and `main` up to its loop, on the files as the process finds
them. -/
def create (files : String → String) (maxBrightness : Option String) : LightsState where
  availableLights :=
    [.backlight, .keyboard, .buttons, .battery, .notifications, .attention, .bluetooth, .wifi].foldl
      (fun lights type => addLight lights type 0) []
  sysMaxBrightness := sysfsReadInt 0 maxBrightness
  files

/-- `writeLed`, where `written` says which files can be opened and written. -/
def writeLed (s : LightsState) (written : String → Bool) (path : String) (color : Int) :
    LightsState :=
  { s with files := Function.update s.files path (sysWriteInt (s.files path) (written path) color) }

/-- `setLightState`, with its answer: the call fails for an id that no light has, else never. -/
def setLightState (s : LightsState) (id : Int) (color : BitVec 32) (written : String → Bool) :
    Bool × LightsState :=
  if 0 ≤ id ∧ id < s.availableLights.length then
    match s.availableLights[id.toNat]?.map HwLight.type with
    | some .battery =>
      let s' := s.writeLed written redLedFile (if colorByte color 16 > 128 then 1 else 0)
      (true, s'.writeLed written greenLedFile (if colorByte color 8 > 128 then 1 else 0))
    | some .attention | some .notifications =>
      (true, s.writeLed written blueLedFile (if rgbToBrightness color ≠ 0 then 1 else 0))
    | some .backlight =>
      (true, s.writeLed written lcdFile (convertBrightness s.sysMaxBrightness color))
    | _ => (true, s)
  else (false, s)

end LightsState

/-- A call of `setLightState`, and which files can be written during it. -/
structure LightsCall where
  id : Int
  color : BitVec 32
  written : String → Bool

/-- The service. The panel's maximum is what `main` reads. -/
def lightsMachine (maxBrightness : Option String) : Machine LightsState LightsCall where
  start s := ∃ files, s = LightsState.create files maxBrightness
  next s call := some (s.setLightState call.id call.color call.written).2

end GloDroid.Lights

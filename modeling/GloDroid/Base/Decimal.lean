import Mathlib.Algebra.Ring.Nat
import Mathlib.Tactic.Common

/-!
# Decimal Texts

An integer as `printf` writes it with `%d`, and its reading by `atoi`: white space, a sign, and the
digits up to the first character that is none. `atoi_decimalText` is the round trip, for any text
behind the number that does not go on with a digit, and `length_decimalText_le` says how long the
text of a number of so many digits is.
-/

namespace GloDroid.Base

def decimalChars : Int → List Char
  | .ofNat n => Nat.toDigits 10 n
  | .negSucc n => '-' :: Nat.toDigits 10 (n + 1)

/-- `%d` -/
def decimalText (n : Int) : String := String.ofList (decimalChars n)

/-- `isspace`: the blank and the five characters from the tabulator on. -/
def isSpace (c : Char) : Bool := c.toNat = 32 || (9 ≤ c.toNat && c.toNat ≤ 13)

/-- The number in front, which is 0 if there is no digit. -/
def leadingNat (cs : List Char) : Nat := Nat.ofDigitChars 10 (cs.takeWhile Char.isDigit) 0

def signedNumber : List Char → Int
  | '-' :: cs => -(leadingNat cs : Int)
  | '+' :: cs => leadingNat cs
  | cs => leadingNat cs

def atoi (s : String) : Int := signedNumber (s.toList.dropWhile isSpace)

/-! ## Round trip -/

/-- The text goes on with something else than a digit, or ends. -/
def NoDigitNext (cs : List Char) : Prop := ∀ c ∈ cs.head?, c.isDigit = false

theorem isDigit_of_mem_toDigits {n : Nat} {c : Char} (h : c ∈ Nat.toDigits 10 n) : c.isDigit :=
  Nat.isDigit_of_mem_toDigits (by decide) (by decide) h

theorem leadingNat_toDigits {n : Nat} {rest : List Char} (hrest : NoDigitNext rest) :
    leadingNat (Nat.toDigits 10 n ++ rest) = n := by
  have hdigits : ∀ c ∈ Nat.toDigits 10 n, c.isDigit := fun c => isDigit_of_mem_toDigits
  have hstop : rest.takeWhile Char.isDigit = [] := by
    cases rest with
    | nil => rfl
    | cons c rest => simp [hrest c rfl]
  rw [leadingNat, List.takeWhile_append_of_pos hdigits, hstop, List.append_nil,
    Nat.ofDigitChars_toDigits (by decide) (by decide)]

/-- A digit is neither white space nor a sign. -/
theorem digit_plain {c : Char} (h : c.isDigit) : isSpace c = false ∧ c ≠ '-' ∧ c ≠ '+' := by
  simp only [Char.isDigit, Bool.and_eq_true, decide_eq_true_eq, ge_iff_le, UInt32.le_iff_toNat_le]
    at h
  refine ⟨?_, ?_, ?_⟩
  · simp only [isSpace, Char.toNat, Bool.or_eq_false_iff, Bool.and_eq_false_iff,
      decide_eq_false_iff_not]
    have hlow : 48 ≤ c.val.toNat := h.1
    omega
  · rintro rfl
    exact absurd h.1 (by decide)
  · rintro rfl
    exact absurd h.1 (by decide)

theorem signedNumber_toDigits {n : Nat} {rest : List Char} (hrest : NoDigitNext rest) :
    signedNumber ((Nat.toDigits 10 n ++ rest).dropWhile isSpace) = n := by
  obtain ⟨c, cs, hdigits⟩ := List.exists_cons_of_ne_nil (Nat.toDigits_ne_nil (n := n) (b := 10))
  have hdigit : c.isDigit := isDigit_of_mem_toDigits (hdigits ▸ List.mem_cons_self)
  obtain ⟨hspace, hminus, hplus⟩ := digit_plain hdigit
  have hvalue := leadingNat_toDigits (n := n) hrest
  rw [hdigits, List.cons_append] at hvalue ⊢
  rw [List.dropWhile_cons_of_neg (by simp [hspace]), signedNumber]
  · exact congrArg Nat.cast hvalue
  · rintro cs' heq
    exact hminus (List.cons.inj heq).1
  · rintro cs' heq
    exact hplus (List.cons.inj heq).1

/-- **Reading a number that was written** gives the number. -/
theorem atoi_decimalText (n : Int) {rest : String} (hrest : NoDigitNext rest.toList) :
    atoi (decimalText n ++ rest) = n := by
  rw [atoi, decimalText, String.toList_append, String.toList_ofList]
  cases n with
  | ofNat n => exact signedNumber_toDigits hrest
  | negSucc n =>
    rw [decimalChars, List.cons_append, List.dropWhile_cons_of_neg (by decide), signedNumber,
      leadingNat_toDigits hrest]
    rfl

/-! ## Length -/

/-- A number of at most `k` digits, and its sign. -/
theorem length_decimalText_le {n : Int} {k : Nat} (hk : 0 < k) (h : n.natAbs < 10 ^ k) :
    (decimalText n).length ≤ k + 1 := by
  rw [decimalText, String.length_ofList]
  cases n with
  | ofNat n => exact Nat.le_succ_of_le ((Nat.length_toDigits_le_iff (by decide) hk).mpr h)
  | negSucc n =>
    exact Nat.succ_le_succ ((Nat.length_toDigits_le_iff (by decide) hk).mpr h)

end GloDroid.Base

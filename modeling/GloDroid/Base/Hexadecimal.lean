import Mathlib.Data.Nat.Basic
import Mathlib.Tactic.IntervalCases

/-!
# Hexadecimal Texts

A number as a text in base 16, and the reading of such a text as a shell or a boot loader reads it:
an optional `0x`, then the digits up to the first character that is none. `hexNat_hexText` is the
round trip.
-/

namespace GloDroid.Base

/-- `%lx` -/
def hexText (n : Nat) : String := String.ofList (Nat.toDigits 16 n)

def hexDigit? (c : Char) : Option Nat :=
  if c.isDigit then some (c.toNat - '0'.toNat)
  else if 'a' ≤ c ∧ c ≤ 'f' then some (c.toNat - 'a'.toNat + 10)
  else if 'A' ≤ c ∧ c ≤ 'F' then some (c.toNat - 'A'.toNat + 10)
  else none

/-- The digits up to the first character that is none, after the number `n`. -/
def hexDigits (n : Nat) : List Char → Nat
  | [] => n
  | c :: cs =>
    match hexDigit? c with
    | some d => hexDigits (16 * n + d) cs
    | none => n

def hexChars : List Char → Nat
  | '0' :: 'x' :: cs => hexDigits 0 cs
  | '0' :: 'X' :: cs => hexDigits 0 cs
  | cs => hexDigits 0 cs

/-- The number that a text starts with, which is 0 if there is none. -/
def hexNat (s : String) : Nat := hexChars s.toList

/-! ## Round trip -/

theorem hexDigit?_digitChar {d : Nat} (h : d < 16) : hexDigit? d.digitChar = some d := by
  interval_cases d <;> rfl

/-- Digits before the last one. -/
theorem hexDigits_append {cs : List Char} {n : Nat} (hcs : ∀ c ∈ cs, (hexDigit? c).isSome)
    (rest : List Char) : hexDigits n (cs ++ rest) = hexDigits (hexDigits n cs) rest := by
  induction cs generalizing n with
  | nil => rfl
  | cons c cs ih =>
    obtain ⟨d, hd⟩ := Option.isSome_iff_exists.mp (hcs c List.mem_cons_self)
    simp only [List.cons_append, hexDigits, hd]
    exact ih fun c' hc' => hcs c' (List.mem_cons_of_mem c hc')

theorem isSome_of_mem_toDigits {n : Nat} : ∀ c ∈ Nat.toDigits 16 n, (hexDigit? c).isSome := by
  induction n using Nat.strongRecOn with
  | ind n ih =>
    intro c hc
    by_cases hlt : n < 16
    · rw [Nat.toDigits_of_lt_base hlt, List.mem_singleton] at hc
      rw [hc, hexDigit?_digitChar hlt, Option.isSome_some]
    · rw [Nat.toDigits_of_base_le (by omega) (by omega), List.mem_append,
        List.mem_singleton] at hc
      rcases hc with hc | hc
      · exact ih (n / 16) (by omega) c hc
      · rw [hc, hexDigit?_digitChar (Nat.mod_lt n (by omega)), Option.isSome_some]

theorem hexDigits_toDigits (n : Nat) : hexDigits 0 (Nat.toDigits 16 n) = n := by
  induction n using Nat.strongRecOn with
  | ind n ih =>
    by_cases hlt : n < 16
    · rw [Nat.toDigits_of_lt_base hlt]
      simp [hexDigits, hexDigit?_digitChar hlt]
    · rw [Nat.toDigits_of_base_le (by omega) (by omega),
        hexDigits_append isSome_of_mem_toDigits, ih (n / 16) (by omega)]
      simp only [hexDigits, hexDigit?_digitChar (Nat.mod_lt n (show 0 < 16 by omega))]
      exact Nat.div_add_mod n 16

/-- A text of digits only has no prefix. -/
theorem hexChars_of_digits {cs : List Char} (h : ∀ c ∈ cs, (hexDigit? c).isSome) :
    hexChars cs = hexDigits 0 cs := by
  unfold hexChars
  split
  · simpa [hexDigit?] using h 'x' (by simp)
  · simpa [hexDigit?] using h 'X' (by simp)
  · rfl

/-- **Reading a number that was written** gives the number. -/
@[simp] theorem hexNat_hexText (n : Nat) : hexNat (hexText n) = n := by
  rw [hexNat, hexText, String.toList_ofList, hexChars_of_digits isSome_of_mem_toDigits]
  exact hexDigits_toDigits n

end GloDroid.Base

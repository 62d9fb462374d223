import Mathlib.Data.List.Basic
import Mathlib.Tactic.Common

/-!
# Strings in a Buffer

Programs that walk over NUL-terminated strings with a pointer. The buffer is the part of the memory
that may be read; a read behind its end is a fault, and so is a loop that runs out of fuel. What
such a loop does is said in terms of the string that is at the pointer (`StringAt`).
-/

namespace GloDroid.Base

/-- What a read or a loop may end in. -/
inductive Fault where
  | outOfBounds (index : Nat)
  | outOfFuel
  deriving DecidableEq, Repr

@[simp] theorem ok_bind {α β : Type} (a : α) (f : α → Except Fault β) :
    (Except.ok a >>= f) = f a := rfl

@[simp] theorem pure_eq_ok {α : Type} (a : α) : (pure a : Except Fault α) = .ok a := rfl

/-- `mem[cp]`. -/
def byteAt (mem : List UInt8) (cp : Nat) : Except Fault UInt8 :=
  match mem[cp]? with
  | some c => .ok c
  | none => .error (.outOfBounds cp)

/-- The string at `cp`, read up to its NUL. -/
def readString (mem : List UInt8) : Nat → Nat → Except Fault (List UInt8)
  | 0, _ => .error .outOfFuel
  | fuel + 1, cp => do
    let c ← byteAt mem cp
    if c = 0 then return []
    let s ← readString mem fuel (cp + 1)
    return c :: s

/-- `while (*cp++)`: the pointer after the loop. -/
def skipString (mem : List UInt8) : Nat → Nat → Except Fault Nat
  | 0, _ => .error .outOfFuel
  | fuel + 1, cp => do
    let c ← byteAt mem cp
    if c = 0 then return cp + 1
    skipString mem fuel (cp + 1)

/-- `!strncmp(cp, text, strlen(text))`. -/
def startsWith (mem : List UInt8) : List UInt8 → Nat → Except Fault Bool
  | [], _ => return true
  | t :: text, cp => do
    let c ← byteAt mem cp
    if c ≠ t then return false
    startsWith mem text (cp + 1)

/-- At `cp` there is the string `s` with its NUL, and `rest` comes after it. -/
structure StringAt (mem : List UInt8) (cp : Nat) (s rest : List UInt8) : Prop where
  drop_eq : mem.drop cp = s ++ 0 :: rest
  not_mem : 0 ∉ s

section StringAt

variable {mem s rest text : List UInt8} {cp fuel : Nat} {c : UInt8}

theorem byteAt_of_drop (h : mem.drop cp = c :: rest) : byteAt mem cp = .ok c := by
  have hget : mem[cp]? = some c := by
    rw [← List.head?_drop, h]
    rfl
  rw [byteAt, hget]

theorem StringAt.byteAt (h : StringAt mem cp (c :: s) rest) : byteAt mem cp = .ok c :=
  byteAt_of_drop h.drop_eq

theorem StringAt.byteAt_nil (h : StringAt mem cp [] rest) : Base.byteAt mem cp = .ok 0 :=
  byteAt_of_drop h.drop_eq

theorem StringAt.ne_zero (h : StringAt mem cp (c :: s) rest) : c ≠ 0 :=
  fun hzero => h.not_mem (hzero ▸ List.mem_cons_self)

theorem StringAt.tail (h : StringAt mem cp (c :: s) rest) : StringAt mem (cp + 1) s rest := by
  refine ⟨?_, fun hmem => h.not_mem (List.mem_cons_of_mem c hmem)⟩
  rw [← List.drop_drop, h.drop_eq]
  rfl

/-- What is behind the string. -/
theorem StringAt.drop_next (h : StringAt mem cp s rest) : mem.drop (cp + s.length + 1) = rest := by
  rw [Nat.add_assoc, ← List.drop_drop, h.drop_eq]
  simp

theorem readString_eq (h : StringAt mem cp s rest) (hfuel : s.length < fuel) :
    readString mem fuel cp = .ok s := by
  induction s generalizing cp fuel with
  | nil =>
    cases fuel with
    | zero => exact absurd hfuel (Nat.not_lt_zero _)
    | succ fuel => simp [readString, h.byteAt_nil]
  | cons c s ih =>
    cases fuel with
    | zero => exact absurd hfuel (Nat.not_lt_zero _)
    | succ fuel =>
      have htail := ih h.tail (Nat.lt_of_succ_lt_succ hfuel)
      simp [readString, h.byteAt, h.ne_zero, htail]

theorem skipString_eq (h : StringAt mem cp s rest) (hfuel : s.length < fuel) :
    skipString mem fuel cp = .ok (cp + s.length + 1) := by
  induction s generalizing cp fuel with
  | nil =>
    cases fuel with
    | zero => exact absurd hfuel (Nat.not_lt_zero _)
    | succ fuel => simp [skipString, h.byteAt_nil]
  | cons c s ih =>
    cases fuel with
    | zero => exact absurd hfuel (Nat.not_lt_zero _)
    | succ fuel =>
      have htail := ih h.tail (Nat.lt_of_succ_lt_succ hfuel)
      simp [skipString, h.byteAt, h.ne_zero, htail, Nat.add_right_comm cp 1, Nat.add_assoc]

/-- A text without NUL is compared within the string: what follows it is not read. -/
theorem startsWith_eq (h : StringAt mem cp s rest) (htext : 0 ∉ text) :
    startsWith mem text cp = .ok (text.isPrefixOf s) := by
  induction text generalizing cp s with
  | nil => simp [startsWith]
  | cons t text ih =>
    rw [List.mem_cons, not_or] at htext
    cases s with
    | nil => simp [startsWith, h.byteAt_nil, htext.1]
    | cons c s =>
      by_cases hct : c = t
      · subst hct
        simp [startsWith, h.byteAt, ih h.tail htext.2]
      · simp [startsWith, h.byteAt, hct, List.isPrefixOf, Ne.symm hct]

end StringAt

/-- A list is a string, or a string with its NUL in front of another list. -/
@[elab_as_elim]
theorem strings_induction {motive : List UInt8 → Prop} (last : ∀ s, 0 ∉ s → motive s)
    (cons : ∀ s rest, 0 ∉ s → motive rest → motive (s ++ 0 :: rest)) (l : List UInt8) :
    motive l := by
  induction hlen : l.length using Nat.strongRecOn generalizing l with
  | ind n ih =>
    by_cases hzero : 0 ∈ l
    · obtain ⟨s, rest, rfl, hs⟩ := List.eq_append_cons_of_mem hzero
      apply cons s rest hs
      apply ih rest.length _ rest rfl
      rw [← hlen, List.length_append, List.length_cons]
      omega
    · exact last l hzero

end GloDroid.Base

import Mathlib.Data.List.Basic
import Mathlib.Order.WellFounded
import Mathlib.Tactic.Common

/-!
# Searching a Tree Level by Level

A search that looks at the labels of all edges of a node before it descends along any of them, and
stops at the first hit. The nodes need not be data: `edges` may be what a call returns. The search
takes fuel; `Acc` for the relation of a node to its parent says that the tree is finite in depth,
and with enough fuel the search then ends with a label below the node, if there is one to be found.
-/

namespace GloDroid.Base

section LevelSearch

variable {α β : Type*} {edges : α → List (β × α)} {hit : β → Prop} [DecidablePred hit]

/-- `b` is the label of an edge somewhere below the node. -/
inductive Below (edges : α → List (β × α)) : α → β → Prop where
  | edge {a c : α} {b : β} : (b, c) ∈ edges a → Below edges a b
  | deeper {a c : α} {b d : β} : (b, c) ∈ edges a → Below edges c d → Below edges a d

/-- `c` is a child of `a`. -/
def IsChild (edges : α → List (β × α)) (c a : α) : Prop := ∃ b, (b, c) ∈ edges a

/-- The first answer other than `some none`, which says that nothing was found. -/
def firstFound (f : α → Option (Option β)) : List α → Option (Option β)
  | [] => some none
  | a :: as =>
    match f a with
    | some none => firstFound f as
    | some (some b) => some (some b)
    | none => none

/-- The search: no answer if the fuel runs out. -/
def levelSearch (edges : α → List (β × α)) (hit : β → Prop) [DecidablePred hit] :
    Nat → α → Option (Option β)
  | 0, _ => none
  | fuel + 1, a =>
    match (edges a).find? (fun e => hit e.1) with
    | some e => some (some e.1)
    | none => firstFound (levelSearch edges hit fuel) ((edges a).map Prod.snd)

/-! ## The children, one after the other -/

theorem firstFound_found {f : α → Option (Option β)} {as : List α} {b : β}
    (h : firstFound f as = some (some b)) : ∃ a ∈ as, f a = some (some b) := by
  induction as with
  | nil => cases h
  | cons a as ih =>
    simp only [firstFound] at h
    split at h
    case h_1 =>
      obtain ⟨a', hmem, hfound⟩ := ih h
      exact ⟨a', List.mem_cons_of_mem a hmem, hfound⟩
    case h_2 hfirst => exact ⟨a, List.mem_cons_self, hfirst.trans h⟩
    case h_3 => cases h

theorem firstFound_nothing {f : α → Option (Option β)} {as : List α}
    (h : firstFound f as = some none) : ∀ a ∈ as, f a = some none := by
  induction as with
  | nil => simp
  | cons a as ih =>
    simp only [firstFound] at h
    split at h
    case h_1 hfirst =>
      intro a' hmem
      rcases List.mem_cons.mp hmem with rfl | hmem
      · exact hfirst
      · exact ih h a' hmem
    case h_2 => cases h
    case h_3 => cases h

theorem firstFound_mono {f g : α → Option (Option β)} {as : List α} {r : Option β}
    (hle : ∀ a ∈ as, ∀ r, f a = some r → g a = some r) (h : firstFound f as = some r) :
    firstFound g as = some r := by
  induction as with
  | nil => exact h
  | cons a as ih =>
    simp only [firstFound] at h ⊢
    split at h
    case h_1 hfirst =>
      rw [hle a List.mem_cons_self _ hfirst]
      exact ih (fun a' hmem => hle a' (List.mem_cons_of_mem a hmem)) h
    case h_2 hfirst =>
      rw [hle a List.mem_cons_self _ hfirst]
      exact h
    case h_3 => cases h

theorem firstFound_ends {f : α → Option (Option β)} {as : List α}
    (h : ∀ a ∈ as, ∃ r, f a = some r) : ∃ r, firstFound f as = some r := by
  induction as with
  | nil => exact ⟨none, rfl⟩
  | cons a as ih =>
    obtain ⟨r, hr⟩ := h a List.mem_cons_self
    simp only [firstFound, hr]
    cases r with
    | none => exact ih fun a' hmem => h a' (List.mem_cons_of_mem a hmem)
    | some b => exact ⟨some b, rfl⟩

/-! ## The search -/

/-- More fuel does not change the answer. -/
theorem levelSearch_mono {n m : Nat} {a : α} {r : Option β}
    (h : levelSearch edges hit n a = some r) (hle : n ≤ m) :
    levelSearch edges hit m a = some r := by
  induction n generalizing m a r with
  | zero => cases h
  | succ n ih =>
    obtain ⟨m, rfl⟩ := Nat.exists_eq_add_of_lt hle
    simp only [levelSearch] at h ⊢
    split at h
    case h_1 => exact h
    case h_2 =>
      apply firstFound_mono _ h
      intro a' _ r' hr'
      exact ih hr' (Nat.le_add_right n m)

/-- What is found is a hit below the node. -/
theorem levelSearch_sound {n : Nat} {a : α} {b : β}
    (h : levelSearch edges hit n a = some (some b)) : Below edges a b ∧ hit b := by
  induction n generalizing a with
  | zero => cases h
  | succ n ih =>
    simp only [levelSearch] at h
    split at h
    case h_1 e hfind =>
      obtain rfl : e.1 = b := Option.some.inj (Option.some.inj h)
      have hhit : hit e.1 := by simpa using List.find?_some hfind
      exact ⟨Below.edge (List.mem_of_find?_eq_some hfind), hhit⟩
    case h_2 =>
      obtain ⟨c, hc, hfound⟩ := firstFound_found h
      obtain ⟨e, he, rfl⟩ := List.mem_map.mp hc
      obtain ⟨hbelow, hhit⟩ := ih hfound
      exact ⟨Below.deeper he hbelow, hhit⟩

/-- If nothing is found, there is no hit below the node. -/
theorem levelSearch_complete {n : Nat} {a : α} {b : β}
    (h : levelSearch edges hit n a = some none) (hbelow : Below edges a b) : ¬ hit b := by
  induction hbelow generalizing n with
  | edge he =>
    cases n with
    | zero => cases h
    | succ n =>
      simp only [levelSearch] at h
      split at h
      case h_1 => cases h
      case h_2 hfind => simpa using List.find?_eq_none.mp hfind _ he
  | deeper he _ ih =>
    cases n with
    | zero => cases h
    | succ n =>
      simp only [levelSearch] at h
      split at h
      case h_1 => cases h
      case h_2 => exact ih (firstFound_nothing h _ (List.mem_map_of_mem he))

/-- One amount of fuel is enough for all nodes of a list. -/
theorem levelSearch_ends_all {as : List α}
    (h : ∀ a ∈ as, ∃ n r, levelSearch edges hit n a = some r) :
    ∃ n, ∀ a ∈ as, ∃ r, levelSearch edges hit n a = some r := by
  induction as with
  | nil => exact ⟨0, by simp⟩
  | cons a as ih =>
    obtain ⟨n, r, hr⟩ := h a List.mem_cons_self
    obtain ⟨m, hm⟩ := ih fun a' hmem => h a' (List.mem_cons_of_mem a hmem)
    refine ⟨max n m, fun a' hmem => ?_⟩
    rcases List.mem_cons.mp hmem with rfl | hmem
    · exact ⟨r, levelSearch_mono hr (Nat.le_max_left n m)⟩
    · obtain ⟨r', hr'⟩ := hm a' hmem
      exact ⟨r', levelSearch_mono hr' (Nat.le_max_right n m)⟩

/-- On a tree of finite depth the search ends. -/
theorem levelSearch_ends {a : α} (hacc : Acc (IsChild edges) a) :
    ∃ n r, levelSearch edges hit n a = some r := by
  induction hacc with
  | intro a _ ih =>
    have hchildren : ∀ c ∈ (edges a).map Prod.snd, ∃ n r, levelSearch edges hit n c = some r := by
      intro c hc
      obtain ⟨e, he, rfl⟩ := List.mem_map.mp hc
      exact ih e.2 ⟨e.1, he⟩
    obtain ⟨n, hn⟩ := levelSearch_ends_all hchildren
    obtain ⟨r, hr⟩ := firstFound_ends hn
    cases hfind : (edges a).find? (fun e => hit e.1) with
    | some e => exact ⟨n + 1, some e.1, by simp [levelSearch, hfind]⟩
    | none => exact ⟨n + 1, r, by simp [levelSearch, hfind, hr]⟩

/-- **The search is sound and complete**: with enough fuel it ends with a hit below the node, or
with none if there is none. -/
theorem levelSearch_finds (hit : β → Prop) [DecidablePred hit] {a : α}
    (hacc : Acc (IsChild edges) a) :
    ∃ r : Option β, (∃ n, ∀ m, n ≤ m → levelSearch edges hit m a = some r) ∧
      (r.isSome ↔ ∃ b, Below edges a b ∧ hit b) ∧ ∀ b, r = some b → Below edges a b ∧ hit b := by
  obtain ⟨n, r, hr⟩ : ∃ n r, levelSearch edges hit n a = some r := levelSearch_ends hacc
  have hfound : ∀ b, r = some b → Below edges a b ∧ hit b := by
    intro b hb
    exact levelSearch_sound (hb ▸ hr)
  refine ⟨r, ⟨n, fun m hle => levelSearch_mono hr hle⟩, ⟨fun hsome => ?_, ?_⟩, hfound⟩
  · obtain ⟨b, hb⟩ := Option.isSome_iff_exists.mp hsome
    exact ⟨b, hfound b hb⟩
  · intro ⟨b, hbelow, hhit⟩
    cases r with
    | some _ => rfl
    | none => exact absurd hhit (levelSearch_complete hr hbelow)

end LevelSearch

end GloDroid.Base

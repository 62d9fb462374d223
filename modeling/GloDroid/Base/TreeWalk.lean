import Mathlib.Data.List.Nodup
import Mathlib.Order.WellFounded
import Mathlib.Tactic.Common

/-!
# Walking a Tree with a Visitor

A walk that goes through the items of a node in their order, calls a visitor on the leaves and
descends into the nodes as it meets them. The nodes need not be data: `items` may be what a call
returns. The walk takes fuel for the depth and passes the visitor's state along.

`Visits` says without fuel in which order leaves are met. Every walk that ends has visited such a
list of leaves; on a tree of finite depth it ends with enough fuel; the leaves of the list are those
below the node, and each of them is met once if different items have different leaves below them.
-/

namespace GloDroid.Base

section TreeWalk

variable {α β σ : Type*}

/-- One item after the other; `walk` descends into a node. -/
def visitItems (visit : β → σ → σ) (walk : α → σ → Option σ) : List (β ⊕ α) → σ → Option σ
  | [], s => some s
  | .inl b :: rest, s => visitItems visit walk rest (visit b s)
  | .inr c :: rest, s =>
    match walk c s with
    | some s' => visitItems visit walk rest s'
    | none => none

/-- The walk: no answer if the fuel runs out. -/
def treeWalk (items : α → List (β ⊕ α)) (visit : β → σ → σ) : Nat → α → σ → Option σ
  | 0, _, _ => none
  | fuel + 1, a, s => visitItems visit (treeWalk items visit fuel) (items a) s

variable {items : α → List (β ⊕ α)}

/-- The leaf is somewhere below the node. -/
inductive LeafBelow (items : α → List (β ⊕ α)) : α → β → Prop where
  | leaf {a : α} {b : β} : .inl b ∈ items a → LeafBelow items a b
  | deeper {a c : α} {b : β} : .inr c ∈ items a → LeafBelow items c b → LeafBelow items a b

/-- The leaf is an item, or below it. -/
def Under (items : α → List (β ⊕ α)) : β ⊕ α → β → Prop
  | .inl b', b => b' = b
  | .inr c, b => LeafBelow items c b

/-- The leaves that are met on the way through the items, in their order. -/
inductive Visits (items : α → List (β ⊕ α)) : List (β ⊕ α) → List β → Prop where
  | nil : Visits items [] []
  | leaf {b : β} {rest : List (β ⊕ α)} {bs : List β} :
      Visits items rest bs → Visits items (.inl b :: rest) (b :: bs)
  | node {c : α} {rest : List (β ⊕ α)} {cs bs : List β} :
      Visits items (items c) cs → Visits items rest bs → Visits items (.inr c :: rest) (cs ++ bs)

/-- The items of a node have no leaf in common. -/
def Separated (items : α → List (β ⊕ α)) : Prop :=
  ∀ a, (items a).Pairwise fun i j => ∀ b, Under items i b → ¬ Under items j b

theorem leafBelow_iff {a : α} {b : β} :
    LeafBelow items a b ↔ ∃ i ∈ items a, Under items i b := by
  constructor
  · intro h
    cases h with
    | leaf hmem => exact ⟨.inl b, hmem, rfl⟩
    | deeper hmem hbelow => exact ⟨_, hmem, hbelow⟩
  · rintro ⟨i, hmem, hunder⟩
    cases i with
    | inl b' =>
      obtain rfl : b' = b := hunder
      exact .leaf hmem
    | inr c => exact .deeper hmem hunder

/-! ## The leaves that are met -/

namespace Visits

variable {is : List (β ⊕ α)} {bs : List β}

/-- They are the leaves below the items. -/
theorem mem_iff (h : Visits items is bs) {b : β} : b ∈ bs ↔ ∃ i ∈ is, Under items i b := by
  induction h with
  | nil => simp
  | leaf _ ih => simp [ih, Under, eq_comm]
  | node _ _ ihc ih =>
    rw [List.mem_append, ihc, ih, ← leafBelow_iff]
    simp [Under]

/-- No leaf is met twice. -/
theorem nodup (h : Visits items is bs) (hsep : Separated items)
    (his : is.Pairwise fun i j => ∀ b, Under items i b → ¬ Under items j b) : bs.Nodup := by
  induction h with
  | nil => exact .nil
  | leaf hrest ih =>
    obtain ⟨hfirst, his⟩ := List.pairwise_cons.mp his
    refine List.nodup_cons.mpr ⟨?_, ih his⟩
    intro hmem
    obtain ⟨j, hj, hunder⟩ := hrest.mem_iff.mp hmem
    exact hfirst j hj _ rfl hunder
  | node hc hrest ihc ih =>
    obtain ⟨hfirst, his⟩ := List.pairwise_cons.mp his
    refine List.Nodup.append (ihc (hsep _)) (ih his) ?_
    intro b hmemc hmem
    -- the leaf is below the node, so it is below none of the items after it
    obtain ⟨j, hj, hunder⟩ := hrest.mem_iff.mp hmem
    exact hfirst j hj b (leafBelow_iff.mpr (hc.mem_iff.mp hmemc)) hunder

/-- With enough fuel the walk calls the visitor on these leaves. -/
theorem visitItems_eq (h : Visits items is bs) (visit : β → σ → σ) :
    ∃ n, ∀ m, n ≤ m → ∀ s, visitItems visit (treeWalk items visit m) is s =
      some (bs.foldl (fun s b => visit b s) s) := by
  induction h with
  | nil => exact ⟨0, fun _ _ _ => rfl⟩
  | leaf _ ih =>
    obtain ⟨n, hn⟩ := ih
    exact ⟨n, fun m hle s => hn m hle _⟩
  | node _ _ ihc ih =>
    obtain ⟨nc, hnc⟩ := ihc
    obtain ⟨n, hn⟩ := ih
    refine ⟨max (nc + 1) n, fun m hle s => ?_⟩
    obtain ⟨k, rfl⟩ : ∃ k, m = k + 1 := Nat.exists_eq_add_one_of_ne_zero (by omega)
    have hwalk := hnc k (by omega) s
    simp only [visitItems, treeWalk, hwalk, List.foldl_append]
    exact hn (k + 1) (by omega) _

end Visits

/-- On a tree of finite depth there is such a list. -/
theorem exists_visits {a : α} (hacc : Acc (fun c a => .inr c ∈ items a) a) :
    ∃ bs, Visits items (items a) bs := by
  induction hacc with
  | intro a _ ih =>
    have hitems : ∀ is ⊆ items a, ∃ bs, Visits items is bs := by
      intro is hsub
      induction is with
      | nil => exact ⟨[], .nil⟩
      | cons i is ihis =>
        obtain ⟨bs, hbs⟩ := ihis fun j hj => hsub (List.mem_cons_of_mem i hj)
        cases i with
        | inl b => exact ⟨b :: bs, .leaf hbs⟩
        | inr c =>
          obtain ⟨cs, hcs⟩ := ih c (hsub List.mem_cons_self)
          exact ⟨cs ++ bs, .node hcs hbs⟩
    exact hitems (items a) (List.Subset.refl _)

/-! ## The walk -/

/-- A walk that ends has called the visitor on the leaves below the node, one after the other. -/
theorem treeWalk_visits {visit : β → σ → σ} {fuel : Nat} {a : α} {s s' : σ}
    (h : treeWalk items visit fuel a s = some s') :
    ∃ bs, Visits items (items a) bs ∧ s' = bs.foldl (fun s b => visit b s) s := by
  induction fuel generalizing a s s' with
  | zero => cases h
  | succ fuel ih =>
    have hitems : ∀ is s, visitItems visit (treeWalk items visit fuel) is s = some s' →
        ∃ bs, Visits items is bs ∧ s' = bs.foldl (fun s b => visit b s) s := by
      intro is
      induction is with
      | nil => exact fun s h => ⟨[], .nil, (Option.some.inj h).symm⟩
      | cons i is ihis =>
        intro s h
        cases i with
        | inl b =>
          obtain ⟨bs, hbs, rfl⟩ := ihis _ h
          exact ⟨b :: bs, .leaf hbs, rfl⟩
        | inr c =>
          simp only [visitItems] at h
          split at h
          case h_1 t hwalk =>
            obtain ⟨cs, hcs, rfl⟩ := ih hwalk
            obtain ⟨bs, hbs, rfl⟩ := ihis _ h
            exact ⟨cs ++ bs, .node hcs hbs, List.foldl_append.symm⟩
          case h_2 => cases h
    exact hitems (items a) s h

/-- **The walk ends** on a tree of finite depth, with enough fuel, and more fuel does not change
what it has met. -/
theorem treeWalk_ends {a : α} (hacc : Acc (fun c a => .inr c ∈ items a) a) (visit : β → σ → σ) :
    ∃ (bs : List β) (n : Nat), ∀ m, n ≤ m → ∀ s,
      treeWalk items visit m a s = some (bs.foldl (fun s b => visit b s) s) := by
  obtain ⟨bs, hbs⟩ := exists_visits hacc
  obtain ⟨n, hn⟩ := hbs.visitItems_eq visit
  refine ⟨bs, n + 1, fun m hle s => ?_⟩
  obtain ⟨k, rfl⟩ : ∃ k, m = k + 1 := Nat.exists_eq_add_one_of_ne_zero (by omega)
  exact hn k (by omega) s

/-- The leaves that a walk has met are those below the node. -/
theorem mem_visits {a : α} {bs : List β} (h : Visits items (items a) bs) {b : β} :
    b ∈ bs ↔ LeafBelow items a b :=
  h.mem_iff.trans leafBelow_iff.symm

/-- **No leaf is met twice** if different items have different leaves below them. -/
theorem nodup_visits (hsep : Separated items) {a : α} {bs : List β}
    (h : Visits items (items a) bs) : bs.Nodup :=
  h.nodup hsep (hsep a)

end TreeWalk

end GloDroid.Base

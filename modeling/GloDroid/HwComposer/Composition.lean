import GloDroid.Base.OrderedMap
import GloDroid.Base.MultiMap
import GloDroid.HwComposer.Layer

/-!
# Frontend Compositions in Z-order

`FEComposition`: the layers of a display by key and the client target `client_output`. The
compositor works on a multimap from z-position to layer pointers; `LayerRef` is such a pointer and
`FEComposition.deref` the layer it points to.

`GetOrderedLayers` fills that multimap in key order, so layers come in ascending `(zpos, key)`
order, and reports the range from the first to the last client layer as list positions.
-/

namespace GloDroid.HwComposer

open GloDroid.Base

/-- A `std::shared_ptr<FELayer>` as the compositor holds them. -/
inductive LayerRef where
  | feLayer (key : Nat)
  | clientOutput
  deriving DecidableEq, Repr

/-- `FEComposition`. -/
structure FEComposition where
  feLayers : OrderedMap Nat HwcLayer
  clientOutput : HwcLayer

/-- `OrderedLayers`. -/
abbrev OrderedLayers := MultiMap Nat LayerRef

/-- The layers in z-order. -/
def OrderedLayers.refs (layers : OrderedLayers) : List LayerRef := layers.entries.map Prod.snd

namespace FEComposition

/-- The layer behind a pointer. -/
def deref (comp : FEComposition) : LayerRef → HwcLayer
  | .feLayer k => (comp.feLayers.find? k).getD {}
  | .clientOutput => comp.clientOutput

/-- Write through a pointer. -/
def modify (comp : FEComposition) (r : LayerRef) (f : HwcLayer → HwcLayer) : FEComposition :=
  match r with
  | .feLayer k => { comp with feLayers := comp.feLayers.modify k f }
  | .clientOutput => { comp with clientOutput := f comp.clientOutput }

/-- The layer behind a pointer is composed by the client. -/
def isClient (comp : FEComposition) (r : LayerRef) : Bool := (comp.deref r).useClient

end FEComposition

/-- The range of list positions from the first to the last client layer, `(-1, 0)` if there is
none: `client_start` and `client_size`. -/
structure ClientRange where
  start : Int := -1
  size : Nat := 0
  deriving DecidableEq, Repr

/-- The loop of `GetOrderedLayers` over the ordered layers, from position `i`. -/
def scanClientRange (isClient : LayerRef → Bool) : Nat → ClientRange → List LayerRef → ClientRange
  | _, range, [] => range
  | i, range, r :: rest =>
    let range :=
      if isClient r then
        let start := if range.start < 0 then (i : Int) else range.start
        -- the range takes in the scanout layers since its start
        { start := start, size := (i - start).toNat + 1 }
      else range
    scanClientRange isClient (i + 1) range rest

/-- The multimap `GetOrderedLayers` returns. -/
def orderedLayers (comp : FEComposition) : OrderedLayers :=
  MultiMap.ofList (comp.feLayers.entries.map fun e => (e.2.zpos, LayerRef.feLayer e.1))

/-- `GetOrderedLayers`. -/
def getOrderedLayers (comp : FEComposition) : OrderedLayers × ClientRange :=
  (orderedLayers comp, scanClientRange comp.isClient 0 {} (orderedLayers comp).refs)

/-! ## Writing through a pointer -/

theorem FEComposition.deref_feLayer_of_mem {comp : FEComposition} {k : Nat} {l : HwcLayer}
    (h : (k, l) ∈ comp.feLayers.entries) : comp.deref (.feLayer k) = l := by
  simp [FEComposition.deref, OrderedMap.find?_eq_some_iff.mpr h]

/-- The pointer leads somewhere: to the client target or to an existing layer. -/
def FEComposition.Valid (comp : FEComposition) : LayerRef → Prop
  | .feLayer k => ∃ l, comp.feLayers.find? k = some l
  | .clientOutput => True

theorem FEComposition.deref_modify_self {comp : FEComposition} {r : LayerRef}
    (hr : comp.Valid r) (f : HwcLayer → HwcLayer) :
    (comp.modify r f).deref r = f (comp.deref r) := by
  cases r with
  | clientOutput => rfl
  | feLayer k =>
    obtain ⟨l, hl⟩ := hr
    simp [FEComposition.modify, FEComposition.deref, OrderedMap.find?_modify, hl]

theorem FEComposition.deref_modify_of_ne {comp : FEComposition} {r r' : LayerRef} (h : r' ≠ r)
    (f : HwcLayer → HwcLayer) : (comp.modify r f).deref r' = comp.deref r' := by
  cases r with
  | clientOutput =>
    cases r' with
    | clientOutput => exact absurd rfl h
    | feLayer k => rfl
  | feLayer k =>
    cases r' with
    | clientOutput => rfl
    | feLayer k' =>
      -- different pointers are different keys
      have hne : k' ≠ k := fun heq => h (congrArg LayerRef.feLayer heq)
      simp [FEComposition.modify, FEComposition.deref, OrderedMap.find?_modify, hne]

/-- A write is not seen through the pointers of a list without the one written through. -/
theorem FEComposition.deref_modify_of_mem {comp : FEComposition} {r : LayerRef}
    {rest : List LayerRef} (hnot : r ∉ rest) (f : HwcLayer → HwcLayer) :
    ∀ r' ∈ rest, (comp.modify r f).deref r' = comp.deref r' := by
  intro r' hr'
  apply FEComposition.deref_modify_of_ne
  rintro rfl
  exact hnot hr'

/-- The keys a composition iterates over. -/
def FEComposition.keys (comp : FEComposition) : List Nat := comp.feLayers.entries.map Prod.fst

@[simp] theorem FEComposition.keys_modify (comp : FEComposition) (r : LayerRef)
    (f : HwcLayer → HwcLayer) : (comp.modify r f).keys = comp.keys := by
  cases r <;> simp [FEComposition.keys, FEComposition.modify, OrderedMap.modify]

theorem FEComposition.mem_keys_iff {comp : FEComposition} {k : Nat} :
    k ∈ comp.keys ↔ ∃ l, comp.feLayers.find? k = some l := by
  simp [FEComposition.keys, OrderedMap.find?_eq_some_iff]

theorem FEComposition.valid_feLayer_iff {comp : FEComposition} {k : Nat} :
    comp.Valid (.feLayer k) ↔ k ∈ comp.keys :=
  FEComposition.mem_keys_iff.symm

theorem FEComposition.Valid.modify {comp : FEComposition} {r : LayerRef} (h : comp.Valid r)
    (r' : LayerRef) (f : HwcLayer → HwcLayer) : (comp.modify r' f).Valid r := by
  cases r with
  | clientOutput => trivial
  | feLayer k =>
    rw [FEComposition.valid_feLayer_iff] at h ⊢
    rwa [FEComposition.keys_modify]

/-! ## Rewriting the layers of a composition -/

/-- `comp'` has the keys of `comp`, and behind every pointer a layer related by `R`. -/
structure FEComposition.Rel (R : HwcLayer → HwcLayer → Prop) (comp comp' : FEComposition) :
    Prop where
  keys : comp'.keys = comp.keys
  layer : ∀ r, R (comp.deref r) (comp'.deref r)

namespace FEComposition.Rel

variable {R : HwcLayer → HwcLayer → Prop} {comp comp' comp'' : FEComposition}

theorem refl (hrefl : ∀ l, R l l) (comp : FEComposition) : Rel R comp comp :=
  ⟨rfl, fun _ => hrefl _⟩

theorem trans (htrans : ∀ l l' l'', R l l' → R l' l'' → R l l'')
    (h : Rel R comp comp') (h' : Rel R comp' comp'') : Rel R comp comp'' :=
  ⟨h'.keys.trans h.keys, fun r => htrans _ _ _ (h.layer r) (h'.layer r)⟩

theorem mono {S : HwcLayer → HwcLayer → Prop} (hRS : ∀ l l', R l l' → S l l')
    (h : Rel R comp comp') : Rel S comp comp' :=
  ⟨h.keys, fun r => hRS _ _ (h.layer r)⟩

/-- Writing one layer relates the compositions when it relates the layer. -/
theorem modify (hrefl : ∀ l, R l l) {r : LayerRef} {f : HwcLayer → HwcLayer}
    (hf : R (comp.deref r) (f (comp.deref r))) : Rel R comp (comp.modify r f) := by
  refine ⟨keys_modify comp r f, fun r' => ?_⟩
  by_cases hr : r' = r
  · subst hr
    by_cases hvalid : comp.Valid r'
    · rw [deref_modify_self hvalid]
      exact hf
    · -- a dangling pointer is not written through
      cases r' with
      | clientOutput => exact absurd trivial hvalid
      | feLayer k =>
        have hnone : comp.feLayers.find? k = none := by
          cases hfind : comp.feLayers.find? k with
          | none => rfl
          | some l => exact absurd ⟨l, hfind⟩ hvalid
        simp [FEComposition.modify, FEComposition.deref, OrderedMap.find?_modify, hnone, hrefl]
  · rw [deref_modify_of_ne hr]
    exact hrefl _

end FEComposition.Rel

/-! ## The z-order -/

/-- `(zpos, key)` ascends from one layer to another. -/
def FEComposition.ZBelow (comp : FEComposition) (k k' : Nat) : Prop :=
  (comp.deref (.feLayer k)).zpos < (comp.deref (.feLayer k')).zpos ∨
    ((comp.deref (.feLayer k)).zpos = (comp.deref (.feLayer k')).zpos ∧ k < k')

theorem FEComposition.ZBelow.asymm {comp : FEComposition} {k k' : Nat} (h : comp.ZBelow k k') :
    ¬ comp.ZBelow k' k := by
  unfold FEComposition.ZBelow at *
  omega

/-- Two compositions with the same keys and z-positions have the same ordered layers. -/
theorem orderedLayers_congr {comp comp' : FEComposition} (hkeys : comp'.keys = comp.keys)
    (hz : ∀ k, (comp'.deref (.feLayer k)).zpos = (comp.deref (.feLayer k)).zpos) :
    orderedLayers comp' = orderedLayers comp := by
  have key : ∀ c : FEComposition,
      c.feLayers.entries.map (fun e => (e.2.zpos, LayerRef.feLayer e.1)) =
        c.keys.map fun k => ((c.deref (.feLayer k)).zpos, LayerRef.feLayer k) := by
    intro c
    rw [FEComposition.keys, List.map_map]
    refine List.map_congr_left fun e he => ?_
    simp [FEComposition.deref_feLayer_of_mem he]
  unfold orderedLayers
  rw [key, key, hkeys]
  congr 1
  exact List.map_congr_left fun k _ => by rw [hz]

/-- The ordered layers are exactly the layers of the composition. -/
theorem mem_refs_iff {comp : FEComposition} {r : LayerRef} :
    r ∈ (orderedLayers comp).refs ↔ ∃ k ∈ comp.keys, r = .feLayer k := by
  simp only [OrderedLayers.refs, List.mem_map, orderedLayers, MultiMap.mem_ofList_iff,
    FEComposition.keys]
  constructor
  · rintro ⟨_, ⟨e, he, rfl⟩, rfl⟩
    exact ⟨e.1, ⟨e, he, rfl⟩, rfl⟩
  · rintro ⟨_, ⟨e, he, rfl⟩, rfl⟩
    exact ⟨_, ⟨e, he, rfl⟩, rfl⟩

/-- Each entry of the ordered layers is keyed by the z-position of its layer. -/
theorem zpos_of_mem_entries {comp : FEComposition} {e : Nat × LayerRef}
    (he : e ∈ (orderedLayers comp).entries) : e.1 = (comp.deref e.2).zpos := by
  obtain ⟨e', he', rfl⟩ := List.mem_map.mp (MultiMap.mem_ofList_iff.mp he)
  simp [FEComposition.deref_feLayer_of_mem he']

/-- The order of two pointers in the z-ordered list: `(zpos, key)` ascends. -/
def RefBelow (comp : FEComposition) : LayerRef → LayerRef → Prop
  | .feLayer k, .feLayer k' => comp.ZBelow k k'
  | _, _ => False

theorem RefBelow.asymm {comp : FEComposition} {r r' : LayerRef} (h : RefBelow comp r r') :
    ¬ RefBelow comp r' r := by
  -- only layers are ordered
  cases r with
  | feLayer k =>
    cases r' with
    | feLayer k' => exact FEComposition.ZBelow.asymm h
    | clientOutput => exact fun h' => h'
  | clientOutput => exact h.elim

/-- **Z-order**: the ordered layers ascend in `(zpos, key)`. -/
theorem refs_pairwise (comp : FEComposition) :
    (orderedLayers comp).refs.Pairwise (RefBelow comp) := by
  -- among equal z-positions the multimap keeps the ascending key order it was filled in
  let byKey : LayerRef → LayerRef → Prop
    | .feLayer k, .feLayer k' => k < k'
    | _, _ => False
  have hstable : (orderedLayers comp).entries.Pairwise (MultiMap.StableLt byKey) := by
    apply MultiMap.stable_ofList
    exact List.pairwise_map.mpr (comp.feLayers.sorted.imp fun h => h)
  refine List.pairwise_map.mpr (hstable.imp_of_mem ?_)
  intro e e' he he' hlt
  have hz := zpos_of_mem_entries he
  have hz' := zpos_of_mem_entries he'
  obtain ⟨k, -, hk⟩ := mem_refs_iff.mp (List.mem_map_of_mem he : e.2 ∈ (orderedLayers comp).refs)
  obtain ⟨k', -, hk'⟩ :=
    mem_refs_iff.mp (List.mem_map_of_mem he' : e'.2 ∈ (orderedLayers comp).refs)
  rw [hk] at hz ⊢
  rw [hk'] at hz' ⊢
  rcases hlt with hlt | ⟨heq, hkey⟩
  · exact Or.inl (by omega)
  · refine Or.inr ⟨by omega, ?_⟩
    rw [hk, hk'] at hkey
    exact hkey

theorem nodup_refs (comp : FEComposition) : (orderedLayers comp).refs.Nodup :=
  (refs_pairwise comp).imp fun {r r'} h heq => by
    subst heq
    exact h.asymm h

end GloDroid.HwComposer

import GloDroid.HwComposer.DisplayRuns

/-!
# Scanout Layers between Client Layers

One client target stands for all client layers of a frame, which reorders nothing only if no
scanout layer lies between two client layers. `ValidateDisplay` selects the client layers so;
`PresentDisplay` never looks at the order again, while layers may be created or moved, and changed
client layers go back to a plane, between the two calls.

The layers that stay unmarked as changed keep the order of the last `ValidateDisplay`
(`SettledInOrder`). So a committed frame is interleaved exactly when a layer that changed since
takes part, and without validation exactly when a changed layer lies between two reused ones.
-/

namespace GloDroid.HwComposer

open GloDroid.Base

/-! ## Order among the layers of a composition -/

/-- Three layers of a composition in ascending `(zpos, key)` order. -/
structure FEComposition.Between (comp : FEComposition) (a x b : Nat) : Prop where
  first_mem : a ∈ comp.keys
  mid_mem : x ∈ comp.keys
  last_mem : b ∈ comp.keys
  first_below : comp.ZBelow a x
  below_last : comp.ZBelow x b

/-- Some scanout layer lies strictly between two client layers. -/
def FEComposition.Interleaved (comp : FEComposition) : Prop :=
  ∃ a x b, comp.Between a x b ∧ comp.isClient (.feLayer a) = true ∧
    comp.isClient (.feLayer x) = false ∧ comp.isClient (.feLayer b) = true

/-- The order only depends on keys and z-positions. -/
theorem FEComposition.Between.congr {comp comp' : FEComposition} {a x b : Nat}
    (hkeys : ∀ k, k = a ∨ k = x ∨ k = b → k ∈ comp.keys → k ∈ comp'.keys)
    (hz : ∀ k, k = a ∨ k = x ∨ k = b →
      (comp'.deref (.feLayer k)).zpos = (comp.deref (.feLayer k)).zpos)
    (h : comp.Between a x b) : comp'.Between a x b := by
  have ha := hz a (Or.inl rfl)
  have hx := hz x (Or.inr (Or.inl rfl))
  have hb := hz b (Or.inr (Or.inr rfl))
  refine ⟨hkeys a (Or.inl rfl) h.first_mem, hkeys x (Or.inr (Or.inl rfl)) h.mid_mem,
    hkeys b (Or.inr (Or.inr rfl)) h.last_mem, ?_, ?_⟩
  · have hbelow := h.first_below
    unfold FEComposition.ZBelow at hbelow ⊢
    rwa [ha, hx]
  · have hbelow := h.below_last
    unfold FEComposition.ZBelow at hbelow ⊢
    rwa [hx, hb]

/-- Nothing is interleaved with a contiguous run of client layers. -/
theorem not_interleaved_of_contiguous {comp : FEComposition}
    (h : ContiguousIn (fun r => comp.isClient r = true) (orderedLayers comp).refs) :
    ¬ comp.Interleaved := by
  rintro ⟨a, x, b, hbetween, ha, hx, hb⟩
  have hmem : ∀ k ∈ comp.keys, LayerRef.feLayer k ∈ (orderedLayers comp).refs :=
    fun k hk => mem_refs_iff.mpr ⟨k, hk, rfl⟩
  have hclient := h.between (fun _ _ => RefBelow.asymm) (refs_pairwise comp)
    (hmem a hbetween.first_mem) (hmem x hbetween.mid_mem) (hmem b hbetween.last_mem)
    hbetween.first_below hbetween.below_last ha hb
  rw [hx] at hclient
  cases hclient

/-! ## The order of the layers that did not change -/

/-- Among the layers not marked as changed no scanout layer lies between two client layers. -/
def SettledInOrder (d : HwcDisplay) : Prop :=
  ∀ a x b, d.Between a x b → d.isChanged a = false → d.isChanged x = false →
    d.isChanged b = false → d.isClient (.feLayer a) = true → d.isClient (.feLayer b) = true →
      d.isClient (.feLayer x) = true

theorem settledInOrder_validate (d : HwcDisplay) (env : DisplayEnv) (n : Nat) :
    SettledInOrder (d.validateDisplay env n).1 := by
  intro a x b hbetween _ _ _ ha hb
  by_contra hx
  exact not_interleaved_of_contiguous (d.validateDisplay_contiguous env n)
    ⟨a, x, b, hbetween, ha, by simpa using hx, hb⟩

/-- An unmarked layer after a call other than `ValidateDisplay` was there, unmarked, with the same
client flag and z-position. -/
theorem DisplayCall.next_unchanged {d d' : HwcDisplay} {call : DisplayCall}
    (hnext : call.next d = some d') (hcall : ∀ env n, call ≠ .validateDisplay env n)
    {k : Nat} (hk : k ∈ d'.keys) (hpi : d'.isChanged k = false) :
    k ∈ d.keys ∧ d.isChanged k = false ∧ d'.isClient (.feLayer k) = d.isClient (.feLayer k) ∧
      (d'.deref (.feLayer k)).zpos = (d.deref (.feLayer k)).zpos := by
  have hmem := FEComposition.mem_entries_iff_deref.mpr ⟨hk, rfl⟩
  rcases DisplayCall.next_layer hnext hcall hmem with ⟨hchanged, -⟩ | ⟨l, hl, hcarried⟩
  · rw [FEComposition.isChanged, hchanged] at hpi
    cases hpi
  · obtain ⟨hk₀, rfl⟩ := FEComposition.mem_entries_iff_deref.mp hl
    obtain ⟨hpi₀, huse, hz⟩ := hcarried.unchanged hpi
    exact ⟨hk₀, hpi₀, huse, hz⟩

/-- **Every call keeps the unchanged layers in order.** -/
theorem settledInOrder_next {d d' : HwcDisplay} {call : DisplayCall} (h : SettledInOrder d)
    (hnext : call.next d = some d') : SettledInOrder d' := by
  by_cases hcall : ∃ env n, call = .validateDisplay env n
  · obtain ⟨env, n, rfl⟩ := hcall
    rw [← Option.some.inj hnext]
    exact settledInOrder_validate d env n
  · have hcall : ∀ env n, call ≠ .validateDisplay env n :=
      fun env n heq => hcall ⟨env, n, heq⟩
    intro a x b hbetween ha hx hb hclienta hclientb
    obtain ⟨hka, hpa, hca, hza⟩ := DisplayCall.next_unchanged hnext hcall hbetween.first_mem ha
    obtain ⟨hkx, hpx, hcx, hzx⟩ := DisplayCall.next_unchanged hnext hcall hbetween.mid_mem hx
    obtain ⟨hkb, hpb, hcb, hzb⟩ := DisplayCall.next_unchanged hnext hcall hbetween.last_mem hb
    -- unchanged layers have the order they had
    have hbefore : d.Between a x b := by
      refine hbetween.congr (fun k hk _ => ?_) fun k hk => ?_
      · rcases hk with rfl | rfl | rfl <;> assumption
      · rcases hk with rfl | rfl | rfl <;> exact Eq.symm ‹_›
    rw [hcx]
    exact h a x b hbefore hpa hpx hpb (hca ▸ hclienta) (hcb ▸ hclientb)

theorem settledInOrder_reachable {d : HwcDisplay} (h : displayMachine.Reachable d) :
    SettledInOrder d := by
  refine h.invariant SettledInOrder (fun s hs a x b hbetween => ?_) fun s call s' hinv _ hnext =>
    settledInOrder_next hinv hnext
  have hnone : s.keys = [] := by
    rw [FEComposition.keys, hs.no_layers]
    rfl
  have ha := hbetween.first_mem
  rw [hnone] at ha
  cases ha

/-! ## Committed frames -/

/-- A changed layer breaks into the client layers of the next frame. In a validated frame it is one
of a scanout layer and two client layers around it; in a frame that was not validated it lies
between two unchanged client layers. -/
def HwcDisplay.BrokenInto (d : HwcDisplay) : Prop :=
  if d.frameValidated then
    ∃ a x b, d.Between a x b ∧ d.isClient (.feLayer a) = true ∧ d.isClient (.feLayer x) = false ∧
      d.isClient (.feLayer b) = true ∧
      (d.isChanged a = true ∨ d.isChanged x = true ∨ d.isChanged b = true)
  else
    ∃ a x b, d.Between a x b ∧ d.isChanged x = true ∧
      (d.isClient (.feLayer a) = true ∧ d.isChanged a = false) ∧
      (d.isClient (.feLayer b) = true ∧ d.isChanged b = false)

/-- The frame is interleaved in terms of the display before the call. -/
theorem HwcDisplay.presentDisplay_interleaved {d : HwcDisplay} {env : DisplayEnv}
    (h : (d.presentDisplay env).error = .none) :
    (d.presentDisplay env).display.Interleaved ↔
      ∃ a x b, d.Between a x b ∧ d.keptClient a = true ∧ d.keptClient x = false ∧
        d.keptClient b = true := by
  obtain ⟨hkeys, hlayers⟩ := presentDisplay_committed h
  -- presenting moves no layer, so the order can be read off before the call
  have hforth : ∀ {a x b}, (d.presentDisplay env).display.Between a x b → d.Between a x b :=
    fun hb => hb.congr (fun k _ hk => hkeys ▸ hk) fun k _ => (hlayers k).2.symm
  have hback : ∀ {a x b}, d.Between a x b → (d.presentDisplay env).display.Between a x b :=
    fun hb => hb.congr (fun k _ hk => hkeys.symm ▸ hk) fun k _ => (hlayers k).2
  simp only [FEComposition.Interleaved, hlayers]
  exact exists_congr fun a => exists_congr fun x => exists_congr fun b =>
    and_congr_left fun _ => ⟨hforth, hback⟩

/-- **When client layers are interleaved with scanout layers**: in every run, a frame that
`PresentDisplay` commits has no scanout layer strictly between two client layers if and only if no
layer changed since the last `ValidateDisplay` breaks into its client layers. -/
theorem presentDisplay_not_interleaved_iff {d : HwcDisplay} (hreach : displayMachine.Reachable d)
    (env : DisplayEnv) (hcommit : (d.presentDisplay env).error = .none) :
    ¬ (d.presentDisplay env).display.Interleaved ↔ ¬ d.BrokenInto := by
  have hsettled := settledInOrder_reachable hreach
  rw [HwcDisplay.presentDisplay_interleaved hcommit, not_iff_not]
  unfold HwcDisplay.BrokenInto HwcDisplay.keptClient
  by_cases hvalidated : d.frameValidated = true
  · rw [if_pos hvalidated]
    simp only [hvalidated, Bool.true_or, Bool.and_true]
    constructor
    · rintro ⟨a, x, b, hbetween, ha, hx, hb⟩
      refine ⟨a, x, b, hbetween, ha, hx, hb, ?_⟩
      -- were all three unchanged, they would still be in order
      by_contra hnone
      simp only [not_or, Bool.not_eq_true] at hnone
      have hxc := hsettled a x b hbetween hnone.1 hnone.2.1 hnone.2.2 ha hb
      rw [hx] at hxc
      cases hxc
    · rintro ⟨a, x, b, hbetween, ha, hx, hb, -⟩
      exact ⟨a, x, b, hbetween, ha, hx, hb⟩
  · rw [if_neg hvalidated]
    rw [Bool.not_eq_true] at hvalidated
    simp only [hvalidated, Bool.false_or, Bool.and_eq_true, Bool.not_eq_true',
      Bool.and_eq_false_iff]
    constructor
    · rintro ⟨a, x, b, hbetween, ha, hx, hb⟩
      refine ⟨a, x, b, hbetween, ?_, ha, hb⟩
      rcases hx with hx | hx
      · -- a scanout layer that is unchanged would be out of order
        by_contra hunchanged
        rw [Bool.not_eq_true] at hunchanged
        have hxc := hsettled a x b hbetween ha.2 hunchanged hb.2 ha.1 hb.1
        rw [hx] at hxc
        cases hxc
      · simpa using hx
    · rintro ⟨a, x, b, hbetween, hx, ha, hb⟩
      exact ⟨a, x, b, hbetween, ha, Or.inr (by simpa using hx), hb⟩

/-- Three device layers at z-positions 0, 1 and 2 on two planes: the lower two are composed by the
client, the third is scanned out. -/
def stackCalls : List DisplayCall :=
  [.createLayer {}, .createLayer {}, .createLayer {}, .callLayer 0 (.compositionType 2),
    .callLayer 1 (.compositionType 2), .callLayer 2 (.compositionType 2),
    .callLayer 0 (.buffer (some 1) (-1)), .callLayer 1 (.buffer (some 2) (-1)),
    .callLayer 2 (.buffer (some 3) (-1)), .callLayer 1 (.zOrder 1), .callLayer 2 (.zOrder 2),
    .setClientTarget { PipeEnv.accepting 2 with } (some 4) (-1) 0,
    .validateDisplay { PipeEnv.accepting 2 with } 0,
    .presentDisplay { PipeEnv.accepting 2 with }]

/-- The display after those calls. -/
def stackDisplay : HwcDisplay := (displayMachine.exec (.blank .generic) stackCalls).get (by decide)

/-- The same with the third layer moved to z-position 0, between the two client layers. -/
def shuffledDisplay : HwcDisplay :=
  (displayMachine.exec (.blank .generic) (stackCalls ++ [.callLayer 2 (.zOrder 0)])).get
    (by decide)

/-- The next frame of the unmoved layers is not interleaved. -/
theorem presentDisplay_not_interleaved_iff_stack :
    ¬ (stackDisplay.presentDisplay { PipeEnv.accepting 2 with }).display.Interleaved ↔
      ¬ stackDisplay.BrokenInto :=
  presentDisplay_not_interleaved_iff
    (Machine.reachable_of_exec (HwcDisplay.fresh_blank .generic) _) _ (by decide)

/-- Presented without validation, the moved layer is scanned out between the two client layers. -/
theorem shuffledDisplay_interleaves :
    displayMachine.Reachable shuffledDisplay ∧ shuffledDisplay.frameValidated = false ∧
      (shuffledDisplay.presentDisplay { PipeEnv.accepting 2 with }).error = .none ∧
      (shuffledDisplay.presentDisplay { PipeEnv.accepting 2 with }).display.Interleaved :=
  ⟨Machine.reachable_of_exec (HwcDisplay.fresh_blank .generic) _, by decide, by decide,
    0, 2, 1, ⟨by decide, by decide, by decide, Or.inr (by decide), Or.inl (by decide)⟩,
    by decide, by decide, by decide⟩

end GloDroid.HwComposer

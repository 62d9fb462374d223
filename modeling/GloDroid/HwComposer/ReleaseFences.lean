import GloDroid.HwComposer.DisplayRuns

/-!
# Release Fences

A buffer that was scanned out in one frame is in use until the next frame replaces it, so its layer
needs the present fence of the next frame as a release fence. `GetReleaseFences` lists the layers
that are scanned out now; the flag that remembered the layers of the prior frame was removed.

A layer scanned out before is hence listed exactly when it is not composed by the client in the
newer frame, which is decided by its flags before `PresentDisplay`.
-/

namespace GloDroid.HwComposer

open GloDroid.Base

/-! ## The fence loop -/

/-- With large enough arrays the loop lists every scanout layer with the fence. -/
theorem releaseFencesLoop_some (f capacity : Nat) (es : List (Nat × HwcLayer))
    (out : List (Nat × Nat)) (h : out.length + es.length ≤ capacity) :
    HwcDisplay.releaseFencesLoop (some f) capacity es out =
      some (out ++ (es.filter fun e => !e.2.useClient).map fun e => (e.1, f)) := by
  induction es generalizing out with
  | nil => simp [HwcDisplay.releaseFencesLoop]
  | cons e rest ih =>
    obtain ⟨k, l⟩ := e
    rw [List.length_cons] at h
    unfold HwcDisplay.releaseFencesLoop
    dsimp only
    -- a client layer takes no place in the arrays
    by_cases huse : l.useClient = true
    · rw [if_pos huse, ih out (by omega), List.filter_cons_of_neg (by simp [huse])]
    · rw [if_neg huse, if_neg (by omega), ih _ (by rw [List.length_append]; simp; omega),
        List.filter_cons_of_pos (by simp [huse]), List.map_cons, List.append_assoc]
      rfl

/-- **Who gets a release fence**: with large enough arrays, exactly the scanout layers. -/
theorem HwcDisplay.mem_getReleaseFences {d : HwcDisplay} {f capacity k : Nat}
    (hfence : d.presentFence = some f) (hcapacity : d.keys.length ≤ capacity) (hk : k ∈ d.keys) :
    (∃ released, d.getReleaseFences capacity = some released ∧ (k, f) ∈ released) ↔
      d.isClient (.feLayer k) = false := by
  have hlength : d.keys.length = d.feLayers.entries.length := List.length_map _
  unfold getReleaseFences
  rw [hfence, releaseFencesLoop_some f capacity _ [] (by simpa [← hlength] using hcapacity)]
  constructor
  · rintro ⟨released, heq, hmem⟩
    obtain rfl := Option.some.inj heq
    simp only [List.nil_append, List.mem_map, List.mem_filter, Bool.not_eq_true'] at hmem
    obtain ⟨⟨k', l⟩, ⟨hl, huse⟩, hpair⟩ := hmem
    obtain ⟨rfl, -⟩ := Prod.mk.inj hpair
    rw [FEComposition.isClient, FEComposition.deref_feLayer_of_mem hl]
    exact huse
  · intro huse
    refine ⟨_, rfl, ?_⟩
    simp only [List.nil_append, List.mem_map, List.mem_filter, Bool.not_eq_true']
    exact ⟨(k, d.deref (.feLayer k)),
      ⟨FEComposition.mem_entries_iff_deref.mpr ⟨hk, rfl⟩, huse⟩, rfl⟩

/-! ## Layers that exist throughout -/

/-- A layer only goes away when it is destroyed. -/
theorem DisplayCall.next_keys {d d' : HwcDisplay} {call : DisplayCall}
    (hnext : call.next d = some d') {k : Nat} (hcall : call ≠ .destroyLayer k) (hk : k ∈ d.keys) :
    k ∈ d'.keys := by
  cases call with
  | createLayer color =>
    obtain rfl := Option.some.inj hnext
    -- an existing key is not overwritten
    obtain ⟨l, hl⟩ := FEComposition.mem_keys_iff.mp hk
    refine FEComposition.mem_keys_iff.mpr ⟨l, ?_⟩
    simp only [HwcDisplay.createLayer, OrderedMap.find?_emplace]
    split_ifs with heq
    · rw [← heq, hl]
      rfl
    · exact hl
  | destroyLayer k₀ =>
    obtain rfl := Option.some.inj hnext
    obtain ⟨l, hl⟩ := FEComposition.mem_keys_iff.mp hk
    have hne : k ≠ k₀ := fun heq => hcall (heq ▸ rfl)
    refine FEComposition.mem_keys_iff.mpr ⟨l, ?_⟩
    simp only [HwcDisplay.destroyLayer, OrderedMap.find?_erase, if_neg hne, hl]
  | callLayer layer call =>
    obtain rfl := Option.some.inj hnext
    have hkeys : (d.callLayer layer call).keys = d.keys := OrderedMap.keys_mapVals _ _
    exact hkeys.symm ▸ hk
  | acceptDisplayChanges =>
    obtain rfl := Option.some.inj hnext
    have hkeys : d.acceptDisplayChanges.keys = d.keys := OrderedMap.keys_mapVals _ _
    exact hkeys.symm ▸ hk
  | setClientTarget env target fence dataspace =>
    obtain rfl := Option.some.inj hnext
    obtain ⟨output, heq⟩ := d.setClientTarget_eq env target fence dataspace
    rw [heq]
    exact hk
  | validateDisplay env n =>
    obtain rfl := Option.some.inj hnext
    exact (d.keys_validateDisplay env n).symm ▸ hk
  | presentDisplay env =>
    rw [← DisplayCall.next_presentDisplay hnext]
    exact (d.keys_presentDisplay env).symm ▸ hk
  | stageMode mode =>
    obtain rfl := Option.some.inj hnext
    exact hk
  | flatteningThread now =>
    obtain rfl := Option.some.inj hnext
    exact hk

/-- The layers recorded as scanned out exist. -/
theorem scannedOut_exists {t : Tracked} (h : trackedMachine.Reachable t) :
    ∀ k ∈ t.scannedOut, k ∈ t.display.keys := by
  refine h.invariant (fun t => ∀ k ∈ t.scannedOut, k ∈ t.display.keys) ?_ ?_
  · rintro t ⟨-, -, -, hnone⟩ k hk
    rw [hnone] at hk
    cases hk
  · intro t call t' hinv _ hnext
    obtain ⟨d', hdisplay, rfl⟩ := trackedMachine_next hnext
    intro k hk
    rw [Tracked.display_observe]
    cases call with
    | destroyLayer k₀ =>
      simp only [Tracked.observe, List.mem_filter, decide_eq_true_eq] at hk
      have hcall : DisplayCall.destroyLayer k₀ ≠ .destroyLayer k :=
        fun heq => hk.2 (DisplayCall.destroyLayer.inj heq).symm
      exact DisplayCall.next_keys hdisplay hcall (hinv k hk.1)
    | presentDisplay env =>
      simp only [Tracked.observe] at hk
      split_ifs at hk
      · obtain ⟨⟨k', l⟩, hmem, rfl⟩ := List.mem_map.mp hk
        exact (FEComposition.mem_entries_iff_deref.mp (List.mem_filter.mp hmem).1).1
      · exact DisplayCall.next_keys hdisplay (by simp) (hinv k hk)
    | createLayer | callLayer | acceptDisplayChanges | setClientTarget | stageMode
    | validateDisplay | flatteningThread =>
      exact DisplayCall.next_keys hdisplay (by simp) (hinv k hk)

/-- **When a scanned-out buffer is released with a fence**: in every run, a layer that was scanned
out in one successful `PresentDisplay` and exists ever since is listed with the present fence of the
next one if and only if it does not go into the newer frame as a client layer. -/
theorem scannedOut_released_iff {t : Tracked} (hreach : trackedMachine.Reachable t) {k : Nat}
    (hscanned : k ∈ t.scannedOut) (env : DisplayEnv) {f capacity : Nat}
    (hsuccess : (t.display.presentDisplay env).error = .none)
    (hfence : (t.display.presentDisplay env).display.presentFence = some f)
    (hcapacity : (t.display.presentDisplay env).display.keys.length ≤ capacity) :
    (∃ released, (t.display.presentDisplay env).display.getReleaseFences capacity =
        some released ∧ (k, f) ∈ released) ↔
      t.display.keptClient k = false := by
  obtain ⟨hkeys, hlayers⟩ := HwcDisplay.presentDisplay_committed hsuccess
  have hk : k ∈ (t.display.presentDisplay env).display.keys :=
    hkeys.symm ▸ scannedOut_exists hreach k hscanned
  rw [HwcDisplay.mem_getReleaseFences hfence hcapacity hk, (hlayers k).1]

/-- One device layer, validated and presented by direct scanout. -/
def scanoutCalls : List DisplayCall :=
  [.createLayer {}, .callLayer 0 (.compositionType 2), .callLayer 0 (.buffer (some 1) (-1)),
    .validateDisplay { PipeEnv.accepting 2 with } 0, .presentDisplay { PipeEnv.accepting 2 with }]

/-- The same, and then the layer is requested as client and validated again. -/
def toClientCalls : List DisplayCall :=
  scanoutCalls ++ [.callLayer 0 (.compositionType 1),
    .setClientTarget { PipeEnv.accepting 2 with } (some 2) (-1) 0,
    .validateDisplay { PipeEnv.accepting 2 with } 0]

/-- The display after the scanout frame. -/
def scanoutTracked : Tracked :=
  (trackedMachine.exec { display := .blank .generic } scanoutCalls).get (by decide)

/-- The display with the layer validated as client after the scanout frame. -/
def toClientTracked : Tracked :=
  (trackedMachine.exec { display := .blank .generic } toClientCalls).get (by decide)

/-- A second scanout frame releases the buffer of the first with a fence. -/
theorem scannedOut_released_iff_again :
    (∃ released, (scanoutTracked.display.presentDisplay
          { PipeEnv.accepting 2 with }).display.getReleaseFences 1 = some released ∧
        (0, 7) ∈ released) ↔
      scanoutTracked.display.keptClient 0 = false :=
  scannedOut_released_iff (Machine.reachable_of_exec (trackedMachine_start_blank .generic) _)
    (by decide) { PipeEnv.accepting 2 with } (by decide) (by decide) (by decide)

/-- The buffer scanned out before the client frame is not listed for release. -/
theorem toClientTracked_unreleased :
    trackedMachine.Reachable toClientTracked ∧ 0 ∈ toClientTracked.scannedOut ∧
      (toClientTracked.display.presentDisplay { PipeEnv.accepting 2 with }).error = .none ∧
      (toClientTracked.display.presentDisplay
        { PipeEnv.accepting 2 with }).display.presentFence = some 7 ∧
      (toClientTracked.display.presentDisplay
        { PipeEnv.accepting 2 with }).display.getReleaseFences 1 = some [] :=
  ⟨Machine.reachable_of_exec (trackedMachine_start_blank .generic) _, by decide, by decide,
    by decide, by decide⟩

end GloDroid.HwComposer

import Mathlib.Data.List.Perm.Subperm
import GloDroid.HwComposer.DisplayRuns

/-!
# Presenting without Validation

A frame presented without `ValidateDisplay` may reuse the client buffer of the last validated one.
`TryPresentDisplayInt` decides this by counting: the client layers not marked as changed have to
be as many as the last validation left to the client.

The invariant `ReuseInv` makes the count conclusive. Client flags are only ever set by
`ValidateDisplay`, so the layers counted are among those validated as client, and equal numbers
mean equal sets; and a layer that is not marked as changed has not been disturbed since.
-/

namespace GloDroid.HwComposer

open GloDroid.Base

/-! ## Keys with a property -/

namespace HwcDisplay

theorem mem_keysWith {d : HwcDisplay} {p : HwcLayer → Bool} {k : Nat} :
    k ∈ d.keysWith p ↔ ∃ l, (k, l) ∈ d.feLayers.entries ∧ p l = true := by
  simp [keysWith]

theorem length_keysWith (d : HwcDisplay) (p : HwcLayer → Bool) :
    (d.keysWith p).length = d.feLayers.entries.countP fun e => p e.2 := by
  rw [keysWith, List.length_map, List.countP_eq_length_filter]

theorem nodup_keysWith (d : HwcDisplay) (p : HwcLayer → Bool) : (d.keysWith p).Nodup :=
  d.feLayers.nodup_keys.sublist (List.filter_sublist.map Prod.fst)

end HwcDisplay

/-! ## The invariant -/

/-- What every run keeps about the layers a later frame may reuse. -/
structure ReuseInv (t : Tracked) : Prop where
  clients : ∀ k l, (k, l) ∈ t.display.feLayers.entries → l.useClient = true →
    k ∈ t.validatedClients
  count : t.validatedClients.length = t.display.clientLayersCount
  nodup : t.validatedClients.Nodup
  undisturbed : ∀ k l, (k, l) ∈ t.display.feLayers.entries → l.piChanged = false →
    k ∉ t.disturbed

theorem reuseInv_start {t : Tracked} (h : trackedMachine.start t) : ReuseInv t := by
  obtain ⟨hfresh, hclients, hdisturbed, -⟩ := h
  have hnone : t.display.feLayers.entries = [] := by
    rw [hfresh.no_layers]
    rfl
  refine ⟨fun k l hl => ?_, ?_, ?_, fun k l hl => ?_⟩
  · rw [hnone] at hl
    cases hl
  · rw [hclients, hfresh.no_client_layers]
    rfl
  · rw [hclients]
    exact List.nodup_nil
  · rw [hnone] at hl
    cases hl

/-- A layer a setter leaves unmarked has not been disturbed by it. -/
theorem not_disturbs_of_unchanged {d : HwcDisplay} {k : Nat} {l : HwcLayer} {call : LayerCall}
    (hl : (k, l) ∈ d.feLayers.entries) (hpi : (call.run l).piChanged = false) :
    d.disturbs k call = false := by
  obtain ⟨-, happ, hbuffer⟩ := LayerCall.run_of_unchanged hpi
  unfold HwcDisplay.disturbs
  rw [OrderedMap.find?_eq_some_iff.mpr hl]
  simp [happ, hbuffer]

/-- A step other than `ValidateDisplay` disturbs no layer that is still unmarked afterwards. -/
theorem Tracked.observe_disturbed {t : Tracked} {d' : HwcDisplay} {call : DisplayCall}
    (hnext : call.next t.display = some d') (hcall : ∀ env n, call ≠ .validateDisplay env n)
    {k : Nat} {l' : HwcLayer} (hl' : (k, l') ∈ d'.feLayers.entries) (hpi : l'.piChanged = false)
    (hold : k ∉ t.disturbed) : k ∉ (t.observe d' call).disturbed := by
  cases call with
  | validateDisplay env n => exact absurd rfl (hcall env n)
  | destroyLayer k₀ =>
    obtain rfl := Option.some.inj hnext
    have hne : k ≠ k₀ := (OrderedMap.mem_erase_iff.mp hl').2
    simp only [Tracked.observe, List.mem_cons, not_or]
    exact ⟨hne, hold⟩
  | callLayer k₀ call =>
    obtain rfl := Option.some.inj hnext
    obtain ⟨l, hl, rfl⟩ := mem_mapVals hl'
    simp only [Tracked.observe]
    split_ifs with hdisturbs
    · rw [List.mem_cons, not_or]
      refine ⟨fun heq => ?_, hold⟩
      rw [if_pos heq] at hpi
      subst heq
      rw [not_disturbs_of_unchanged hl hpi] at hdisturbs
      cases hdisturbs
    · exact hold
  | createLayer | acceptDisplayChanges | setClientTarget | stageMode | presentDisplay
  | flatteningThread => exact hold

theorem Tracked.observe_validatedClients (t : Tracked) (d' : HwcDisplay) {call : DisplayCall}
    (hcall : ∀ env n, call ≠ .validateDisplay env n) :
    (t.observe d' call).validatedClients = t.validatedClients := by
  cases call with
  | validateDisplay env n => exact absurd rfl (hcall env n)
  | createLayer | destroyLayer | callLayer | acceptDisplayChanges | setClientTarget | stageMode
  | presentDisplay | flatteningThread => rfl

/-- `ValidateDisplay` establishes the invariant whatever was before. -/
theorem reuseInv_validate (t : Tracked) (env : DisplayEnv) (n : Nat) :
    ReuseInv (t.observe (t.display.validateDisplay env n).1 (.validateDisplay env n)) := by
  set d' := (t.display.validateDisplay env n).1
  show ReuseInv { t with
    display := d'
    validatedClients := d'.keysWith fun l => l.validatedType = .client
    disturbed := [] }
  refine ⟨fun k l hl hc => ?_, ?_, ?_, fun k l hl _ => List.not_mem_nil⟩
  · -- after validation flag and type agree
    have hvalidated := (HwcDisplay.validateDisplay_layer (n := n) hl).2.mp hc
    show k ∈ d'.keysWith fun l => l.validatedType = .client
    exact HwcDisplay.mem_keysWith.mpr ⟨l, hl, decide_eq_true hvalidated⟩
  · exact d'.length_keysWith fun l => l.validatedType = .client
  · exact d'.nodup_keysWith fun l => l.validatedType = .client

/-- **Every step keeps the invariant.** -/
theorem reuseInv_step {t t' : Tracked} {call : DisplayCall} (hinv : ReuseInv t)
    (hnext : trackedMachine.next t call = some t') : ReuseInv t' := by
  obtain ⟨d', hdisplay, rfl⟩ := trackedMachine_next hnext
  by_cases hcall : ∃ env n, call = .validateDisplay env n
  · obtain ⟨env, n, rfl⟩ := hcall
    rw [← Option.some.inj hdisplay]
    exact reuseInv_validate t env n
  · -- any other call leaves the types as they were validated, or disturbs the layer
    have hcall : ∀ env n, call ≠ .validateDisplay env n :=
      fun env n heq => hcall ⟨env, n, heq⟩
    have hclients := Tracked.observe_validatedClients t d' hcall
    refine ⟨fun k l hl hc => ?_, ?_, ?_, fun k l hl hpi => ?_⟩
    · rw [Tracked.display_observe] at hl
      rw [hclients]
      rcases DisplayCall.next_layer hdisplay hcall hl with ⟨-, hnot⟩ | ⟨l₀, hl₀, hcarried⟩
      · rw [hnot] at hc
        cases hc
      · exact hinv.clients k l₀ hl₀ (hcarried.useClient hc)
    · rw [hclients, Tracked.display_observe,
        (DisplayCall.next_sameSetup hdisplay hcall).clientLayersCount, hinv.count]
    · rw [hclients]
      exact hinv.nodup
    · rw [Tracked.display_observe] at hl
      apply Tracked.observe_disturbed hdisplay hcall hl hpi
      rcases DisplayCall.next_layer hdisplay hcall hl with ⟨hchanged, -⟩ | ⟨l₀, hl₀, hcarried⟩
      · rw [hchanged] at hpi
        cases hpi
      · exact hinv.undisturbed k l₀ hl₀ (hcarried.unchanged hpi).1

theorem reuseInv_reachable {t : Tracked} (h : trackedMachine.Reachable t) : ReuseInv t :=
  h.invariant ReuseInv (fun _ hstart => reuseInv_start hstart)
    fun _ _ _ hinv _ hnext => reuseInv_step hinv hnext

/-! ## Equal counts mean equal sets -/

/-- As many reused layers as client layers are validated: the reused layers are those. -/
theorem ReuseInv.reused_iff {t : Tracked} (hinv : ReuseInv t)
    (hcount : (t.display.feLayers.entries.countP fun e => e.2.reused) =
      t.display.clientLayersCount) (k : Nat) :
    k ∈ t.display.keysWith HwcLayer.reused ↔ k ∈ t.validatedClients := by
  -- a flag that is set was set by the last validation
  have hsubset : t.display.keysWith HwcLayer.reused ⊆ t.validatedClients := by
    intro k hk
    obtain ⟨l, hl, hreused⟩ := HwcDisplay.mem_keysWith.mp hk
    rw [HwcLayer.reused, Bool.and_eq_true] at hreused
    exact hinv.clients k l hl hreused.1
  -- a part of the validated clients that is as large as all of them
  have hsubperm := (t.display.nodup_keysWith HwcLayer.reused).subperm hsubset
  have hlength : t.validatedClients.length ≤ (t.display.keysWith HwcLayer.reused).length := by
    rw [HwcDisplay.length_keysWith, hcount, hinv.count]
  exact (hsubperm.perm_of_length_le hlength).mem_iff

/-- A checked frame that was not validated: its client layers are the reused ones. -/
theorem mem_client_checked {d : HwcDisplay} (hfast : d.frameValidated = false)
    (hpassed : d.checked.2 = true) (k : Nat) :
    d.checked.1.isClient (.feLayer k) = true ↔ k ∈ d.keysWith HwcLayer.reused := by
  have hlayers : d.checked.1.feLayers = d.feLayers.mapVals fun _ l => l.retry := by
    unfold HwcDisplay.checked HwcDisplay.checkFrame at hpassed ⊢
    rw [hfast] at hpassed ⊢
    exact (HwcDisplay.skipValidate_passed hpassed).1
  rw [HwcDisplay.mem_keysWith, FEComposition.isClient]
  simp only [FEComposition.deref, hlayers, OrderedMap.find?_mapVals]
  constructor
  · intro hc
    cases hfind : d.feLayers.find? k with
    | none => simp [hfind] at hc
    | some l =>
      refine ⟨l, OrderedMap.find?_eq_some_iff.mp hfind, ?_⟩
      simpa [hfind, HwcLayer.useClient_retry] using hc
  · rintro ⟨l, hl, hreused⟩
    simpa [OrderedMap.find?_eq_some_iff.mpr hl, HwcLayer.useClient_retry] using hreused

/-- **Skip-validate never shows a stale client buffer**: in every run, when `PresentDisplay` is
entered without a validated frame and gets as far as `PresentComposition` while some layer is a
client layer, the client layers are exactly those validated as client at the last
`ValidateDisplay`, all of them still exist, and none has been destroyed, given a buffer or changed
in appearance by a setter since. -/
theorem skipValidate_reuses_validated {t : Tracked} (hreach : trackedMachine.Reachable t)
    (hfast : t.display.frameValidated = false) (env : DisplayEnv) {d : HwcDisplay}
    {r : PresentResult} (hcomposed : (t.display.presentDisplay env).composed = some (d, r))
    (hclient : ∃ k, d.isClient (.feLayer k) = true) :
    (∀ k, d.isClient (.feLayer k) = true ↔ k ∈ t.validatedClients) ∧
      ∀ k ∈ t.validatedClients, k ∈ d.keys ∧ k ∉ t.disturbed := by
  have hinv := reuseInv_reachable hreach
  obtain ⟨hpassed, rfl⟩ : t.display.checked.2 = true ∧ d = t.display.checked.1 := by
    rcases HwcDisplay.presentDisplay_cases t.display env with ⟨-, -, -, hnone⟩ | ⟨hok, -, hsome, -⟩
    · rw [hnone] at hcomposed
      cases hcomposed
    · rw [hsome] at hcomposed
      exact ⟨hok, (Prod.mk.inj (Option.some.inj hcomposed)).1.symm⟩
  have hchecked := mem_client_checked hfast hpassed
  -- some layer is reused, so the counts agree
  have hsome : 0 < t.display.feLayers.entries.countP fun e => e.2.reused := by
    obtain ⟨k, hk⟩ := hclient
    rw [← HwcDisplay.length_keysWith]
    exact List.length_pos_of_mem ((hchecked k).mp hk)
  have hcount : (t.display.feLayers.entries.countP fun e => e.2.reused) =
      t.display.clientLayersCount := by
    have hskip := hpassed
    unfold HwcDisplay.checked HwcDisplay.checkFrame at hskip
    rw [hfast] at hskip
    rcases (HwcDisplay.skipValidate_passed hskip).2 with hzero | heq
    · exact absurd hzero hsome.ne'
    · exact heq
  have hreused := hinv.reused_iff hcount
  refine ⟨fun k => (hchecked k).trans (hreused k), fun k hk => ?_⟩
  obtain ⟨l, hl, hflags⟩ := HwcDisplay.mem_keysWith.mp ((hreused k).mpr hk)
  rw [HwcLayer.reused, Bool.and_eq_true, Bool.not_eq_true'] at hflags
  refine ⟨?_, hinv.undisturbed k l hl hflags.2⟩
  rw [HwcDisplay.keys_checked]
  exact (FEComposition.mem_entries_iff_deref.mp hl).1

/-- Two device layers on one plane: validation gives both to the client, which then presents. -/
def reuseCalls : List DisplayCall :=
  [.createLayer {}, .createLayer {}, .callLayer 0 (.compositionType 2),
    .callLayer 1 (.compositionType 2), .callLayer 0 (.buffer (some 1) (-1)),
    .callLayer 1 (.buffer (some 2) (-1)), .callLayer 1 (.zOrder 1),
    .validateDisplay { PipeEnv.accepting 1 with } 0,
    .setClientTarget { PipeEnv.accepting 1 with } (some 3) (-1) 0,
    .presentDisplay { PipeEnv.accepting 1 with }]

/-- The display after those calls. -/
def reuseTracked : Tracked :=
  (trackedMachine.exec { display := .blank .generic } reuseCalls).get (by decide)

/-- The next frame, presented without validation, reuses the client buffer for both layers. -/
theorem skipValidate_reuses_validated_both :
    (∀ k, reuseTracked.display.checked.1.isClient (.feLayer k) = true ↔
        k ∈ reuseTracked.validatedClients) ∧
      ∀ k ∈ reuseTracked.validatedClients,
        k ∈ reuseTracked.display.checked.1.keys ∧ k ∉ reuseTracked.disturbed :=
  skipValidate_reuses_validated
    (Machine.reachable_of_exec (trackedMachine_start_blank .generic) _) (by decide)
    { PipeEnv.accepting 1 with }
    (r := (reuseTracked.display.checked.1.commitFrame { PipeEnv.accepting 1 with } false).2)
    rfl ⟨0, by decide⟩

end GloDroid.HwComposer

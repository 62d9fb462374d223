import GloDroid.HwComposer.SkipValidate
import GloDroid.HwComposer.Interleaving
import GloDroid.HwComposer.ReleaseFences

/-!
# Flatten Requests

A flatten request asks for a frame that the client composes alone. The timer thread raises it,
`SelectClientLayers` tests it inside `ValidateDisplay`, and `NewFrame` clears it once a frame has
been committed. A call touches the flattening controller at most once, so a thread iteration
inside a call is one right before or right after it.

The clearing does not look at the frame: `PresentDisplay` without validation never passes the test,
and the timer may fire between the two calls of a validated frame. What decides whether the frame
serves the request are the layers the last `ValidateDisplay` left to the client.
-/

namespace GloDroid.HwComposer

open GloDroid.Base

/-! ## The test in `SelectClientLayers` -/

/-- A pending request gives every layer to the client, whichever compositor is used. -/
theorem selectClientLayers_flatten {flatcon : Option FlatteningController}
    (hpending : flatcon.any (·.shouldFlatten) = true) (env : PipeEnv) {comp : FEComposition}
    (kind : CompositorKind) {k : Nat} (hk : k ∈ comp.keys) :
    (selectClientLayers env flatcon comp kind).isClient (.feLayer k) = true := by
  have hgeneric : ∀ comp : FEComposition, k ∈ comp.keys →
      (selectGeneric env flatcon comp).isClient (.feLayer k) = true := by
    intro comp hk
    have hmark : selectGeneric env flatcon comp =
        markClient (orderedLayers comp) comp 0 (orderedLayers comp).refs.length := by
      unfold selectGeneric
      dsimp only
      rw [if_pos hpending]
      rfl
    obtain ⟨i, hi, heq⟩ := List.mem_iff_getElem.mp (mem_refs_iff.mpr ⟨k, hk, rfl⟩)
    rw [hmark, ← heq, isClient_markClient hi]
    exact Or.inr ⟨Nat.zero_le i, by omega⟩
  cases kind with
  | generic => exact hgeneric comp hk
  | client => exact isClient_selectClient hk
  | sunxi => exact hgeneric _ ((sunxiMark_rel env comp).keys ▸ hk)

/-! ## The call of `NewFrame` -/

/-- A real commit that succeeded goes on to the flattening controller. -/
theorem presentComposition_flatcon {env : PipeEnv} {flatcon : Option FlatteningController}
    {comp : FEComposition} {args : AtomicCommitArgs}
    (h : (presentComposition env flatcon comp args).ret = 0) (hreal : args.testOnly = false) :
    (presentComposition env flatcon comp args).flatcon =
      flatcon.map (flatconAfterCommit env (presentedLayers comp).refs.length) := by
  unfold presentComposition at h ⊢
  simp only [hreal, Bool.false_eq_true, if_false] at h ⊢
  -- every other way out returns an error
  split_ifs at h ⊢ with hempty
  · cases h
  · split at h
    · cases h
    · split_ifs at h ⊢ with hplan hret
      · exact absurd h hret
      · rfl
      · cases h

namespace HwcDisplay

/-- `ValidateDisplay` with a pending request leaves every layer to the client. -/
theorem validateDisplay_flatten {d : HwcDisplay} (hpending : d.flatcon.any (·.shouldFlatten) = true)
    (env : DisplayEnv) (n : Nat) {k : Nat} (hk : k ∈ d.keys) :
    (d.validateDisplay env n).1.isClient (.feLayer k) = true := by
  have hrequest : d.requestClient.keys = d.keys := OrderedMap.keys_mapVals _ _
  rw [(d.validateDisplay_deref env n k).1]
  exact selectClientLayers_flatten hpending env.toPipeEnv d.kind (hrequest.symm ▸ hk)

/-! ## Taking a request -/

/-- `PresentDisplay` commits a frame of more than one layer and calls `NewFrame`. -/
def callsNewFrame (d : HwcDisplay) (env : DisplayEnv) : Bool :=
  match (d.presentDisplay env).composed with
  | some (c, r) =>
    decide (r.ret = 0) &&
      decide (1 <
        (presentedLayers (c.applyStagedMode env.monotonicNow).1.toFEComposition).refs.length)
  | none => false

/-- The `NewFrame` of this `PresentDisplay` clears a pending request. -/
def takesRequest (d : HwcDisplay) (env : DisplayEnv) : Bool :=
  d.flatcon.any (·.shouldFlatten) && d.callsNewFrame env

/-- Every layer is composed by the client. -/
def allClient (d : HwcDisplay) : Bool := d.feLayers.entries.all fun e => e.2.useClient

theorem allClient_iff {d : HwcDisplay} :
    d.allClient = true ↔ ∀ k ∈ d.keys, d.isClient (.feLayer k) = true := by
  unfold allClient
  rw [List.all_eq_true]
  constructor
  · intro h k hk
    exact h (k, d.deref (.feLayer k)) (FEComposition.mem_entries_iff_deref.mpr ⟨hk, rfl⟩)
  · rintro h ⟨k, l⟩ hl
    obtain ⟨hk, rfl⟩ := FEComposition.mem_entries_iff_deref.mp hl
    exact h k hk

theorem flatcon_checked (d : HwcDisplay) : d.checked.1.flatcon = d.flatcon := by
  unfold checked checkFrame
  split_ifs <;> rfl

/-- A committed frame tells the flattening controller how many layers it has. -/
theorem commitFrame_flatcon {d : HwcDisplay} {env : DisplayEnv} {validated : Bool}
    (h : (d.commitFrame env validated).2.ret = 0) :
    (d.commitFrame env validated).1.flatcon =
      d.flatcon.map (flatconAfterCommit env.toPipeEnv
        (presentedLayers (d.applyStagedMode env.monotonicNow).1.toFEComposition).refs.length) := by
  have hstaged : (d.applyStagedMode env.monotonicNow).1.flatcon = d.flatcon := by
    unfold applyStagedMode
    split
    · split_ifs <;> rfl
    · rfl
  have hresult : (d.commitFrame env validated).1.flatcon =
      (d.commitFrame env validated).2.flatcon := by
    unfold commitFrame
    dsimp only
    split_ifs <;> rfl
  have hcompose : (d.commitFrame env validated).2 = presentComposition env.toPipeEnv
      (d.applyStagedMode env.monotonicNow).1.flatcon
      (d.applyStagedMode env.monotonicNow).1.toFEComposition
      { allowFail := !validated, displayMode := (d.applyStagedMode env.monotonicNow).2 } := by
    unfold commitFrame
    dsimp only
    split_ifs <;> rfl
  rw [hresult]
  rw [hcompose] at h ⊢
  rw [presentComposition_flatcon h rfl, hstaged]

/-- A frame that takes a request is committed. -/
theorem takesRequest_error {d : HwcDisplay} {env : DisplayEnv} (h : d.takesRequest env = true) :
    (d.presentDisplay env).error = .none := by
  rw [takesRequest, Bool.and_eq_true, callsNewFrame] at h
  rcases d.presentDisplay_cases env with ⟨-, -, -, hcomposed⟩ | ⟨-, -, hcomposed, herror⟩
  · rw [hcomposed] at h
    cases h.2
  · rw [hcomposed] at h
    simp only [Bool.and_eq_true, decide_eq_true_eq] at h
    exact herror.mpr h.2.1

/-- A request that was taken is gone. -/
theorem takesRequest_cleared {d : HwcDisplay} {env : DisplayEnv} (h : d.takesRequest env = true) :
    (d.presentDisplay env).display.flatcon.any (·.shouldFlatten) = false := by
  rw [takesRequest, Bool.and_eq_true, callsNewFrame] at h
  obtain ⟨hpending, hcalls⟩ := h
  rcases d.presentDisplay_cases env with ⟨-, -, -, hcomposed⟩ | ⟨-, hdisplay, hcomposed, -⟩
  · rw [hcomposed] at hcalls
    cases hcalls
  · rw [hcomposed] at hcalls
    simp only [Bool.and_eq_true, decide_eq_true_eq] at hcalls
    obtain ⟨hret, hlayers⟩ := hcalls
    rw [hdisplay, commitFrame_flatcon hret, flatcon_checked]
    cases hfc : d.flatcon with
    | none => rfl
    | some fc =>
      -- the request was pending, so `NewFrame` takes its first branch
      have hflatten : fc.flattenNextFrame = true := by
        rw [hfc] at hpending
        exact hpending
      have hmany : ¬ (presentedLayers (d.checked.1.applyStagedMode
          env.monotonicNow).1.toFEComposition).refs.length ≤ 1 := by omega
      simp [flatconAfterCommit, hmany, FlatteningController.newFrame, hflatten,
        FlatteningController.shouldFlatten]

end HwcDisplay

/-! ## Tracked runs -/

/-- A display together with what has been observed of its run: the layers that the last
`ValidateDisplay` left to the client and that exist ever since, and whether a request was taken by
a frame with a layer on a plane. -/
structure FlattenTracked where
  display : HwcDisplay
  leftToClient : List Nat := []
  dropped : Bool := false

/-- The observations after a call that takes the display from `t.display` to `d'`. -/
def FlattenTracked.observe (t : FlattenTracked) (d' : HwcDisplay) : DisplayCall → FlattenTracked
  | .destroyLayer k => { t with display := d', leftToClient := t.leftToClient.filter (· ≠ k) }
  | .validateDisplay _ _ => { t with display := d', leftToClient := d'.keysWith (·.useClient) }
  | .presentDisplay env =>
    { t with
      display := d'
      dropped := t.dropped || (t.display.takesRequest env && !d'.allClient) }
  | _ => { t with display := d' }

theorem FlattenTracked.display_observe (t : FlattenTracked) (d' : HwcDisplay)
    (call : DisplayCall) : (t.observe d' call).display = d' := by
  cases call <;> rfl

/-- The display with the observations of its run. -/
def flattenMachine : Machine FlattenTracked DisplayCall where
  start t := t.display.Fresh ∧ t.leftToClient = [] ∧ t.dropped = false
  next t call := (call.next t.display).map fun d' => t.observe d' call

/-- Observing restricts nothing. -/
theorem flattenMachine_observes :
    flattenMachine.Observes displayMachine FlattenTracked.display where
  start d := by
    constructor
    · exact fun hd => ⟨{ display := d }, ⟨hd, rfl, rfl⟩, rfl⟩
    · rintro ⟨t, ht, rfl⟩
      exact ht.1
  next t call := by
    simp only [flattenMachine, Option.map_map, Function.comp_def, FlattenTracked.display_observe,
      Option.map_id']
    rfl

theorem flattenMachine_next {t t' : FlattenTracked} {call : DisplayCall}
    (h : flattenMachine.next t call = some t') :
    ∃ d', call.next t.display = some d' ∧ t' = t.observe d' call := by
  obtain ⟨d', hd', heq⟩ := Option.map_eq_some_iff.mp h
  exact ⟨d', hd', heq.symm⟩

/-! ## The layers left to the client -/

/-- The layer may still go into the next frame with the flag the last `ValidateDisplay` gave it. -/
def HwcDisplay.flagStands (d : HwcDisplay) (k : Nat) : Prop :=
  d.frameValidated = true ∨ d.isChanged k = false

/-- The layers left to the client exist, and a flag that stands is theirs. -/
structure LeftToClientInv (t : FlattenTracked) : Prop where
  exist : ∀ k ∈ t.leftToClient, k ∈ t.display.keys
  flags : ∀ k ∈ t.display.keys, t.display.flagStands k →
    (t.display.isClient (.feLayer k) = true ↔ k ∈ t.leftToClient)

theorem leftToClientInv_start {t : FlattenTracked} (h : flattenMachine.start t) :
    LeftToClientInv t := by
  obtain ⟨hfresh, hnone, -⟩ := h
  have hkeys : t.display.keys = [] := by
    rw [FEComposition.keys, hfresh.no_layers]
    rfl
  refine ⟨fun k hk => ?_, fun k hk => ?_⟩
  · rw [hnone] at hk
    cases hk
  · rw [hkeys] at hk
    cases hk

theorem leftToClientInv_validate (t : FlattenTracked) (env : DisplayEnv) (n : Nat) :
    LeftToClientInv (t.observe (t.display.validateDisplay env n).1 (.validateDisplay env n)) := by
  have hmem : ∀ k, k ∈ (t.display.validateDisplay env n).1.keysWith (·.useClient) ↔
      k ∈ (t.display.validateDisplay env n).1.keys ∧
        (t.display.validateDisplay env n).1.isClient (.feLayer k) = true := by
    intro k
    rw [HwcDisplay.mem_keysWith]
    constructor
    · rintro ⟨l, hl, hc⟩
      obtain ⟨hk, rfl⟩ := FEComposition.mem_entries_iff_deref.mp hl
      exact ⟨hk, hc⟩
    · rintro ⟨hk, hc⟩
      exact ⟨_, FEComposition.mem_entries_iff_deref.mpr ⟨hk, rfl⟩, hc⟩
  exact ⟨fun k hk => ((hmem k).mp hk).1, fun k hk _ => ⟨fun hc => (hmem k).mpr ⟨hk, hc⟩,
    fun hk => ((hmem k).mp hk).2⟩⟩

/-- Only `ValidateDisplay` leaves layers to the client, and only a destroyed one is taken away. -/
theorem FlattenTracked.mem_leftToClient_observe (t : FlattenTracked) (d' : HwcDisplay)
    {call : DisplayCall} (hcall : ∀ env n, call ≠ .validateDisplay env n) (k : Nat) :
    k ∈ (t.observe d' call).leftToClient ↔ k ∈ t.leftToClient ∧ call ≠ .destroyLayer k := by
  cases call with
  | validateDisplay env n => exact absurd rfl (hcall env n)
  | destroyLayer k₀ =>
    simp only [FlattenTracked.observe, List.mem_filter, decide_eq_true_eq, ne_eq,
      DisplayCall.destroyLayer.injEq]
    exact and_congr_right fun _ => ne_comm
  | createLayer | callLayer | acceptDisplayChanges | setClientTarget | stageMode | presentDisplay
  | flatteningThread => simp [FlattenTracked.observe]

/-- A layer that is there after a call was not destroyed by it. -/
theorem DisplayCall.ne_destroyLayer {d d' : HwcDisplay} {call : DisplayCall}
    (hnext : call.next d = some d') {k : Nat} (hk : k ∈ d'.keys) : call ≠ .destroyLayer k := by
  rintro rfl
  obtain rfl := Option.some.inj hnext
  obtain ⟨l, hl⟩ := FEComposition.mem_keys_iff.mp hk
  exact (OrderedMap.mem_erase_iff.mp (OrderedMap.find?_eq_some_iff.mp hl)).2 rfl

/-- The setters leave the client flag alone and never unmark a layer. -/
theorem setterRel_flag : HwcLayer.SetterRel fun l l' =>
    l'.useClient = l.useClient ∧ (l'.piChanged = false → l.piChanged = false) where
  refl _ := ⟨rfl, id⟩
  run l c := ⟨LayerCall.run_useClient l c, fun hpi => (LayerCall.run_of_unchanged hpi).1⟩
  accept _ := ⟨rfl, id⟩

/-- A flag that stands after a call other than `ValidateDisplay` stood before, or the layer is new
and no client layer. -/
theorem DisplayCall.next_flagStands {d d' : HwcDisplay} {call : DisplayCall}
    (hnext : call.next d = some d') (hcall : ∀ env n, call ≠ .validateDisplay env n)
    {k : Nat} (hk : k ∈ d'.keys) (hstands : d'.flagStands k) :
    (k ∉ d.keys ∧ d'.isClient (.feLayer k) = false) ∨
      (k ∈ d.keys ∧ d.flagStands k ∧ d'.isClient (.feLayer k) = d.isClient (.feLayer k)) := by
  by_cases hkeeps : call.keepsFrame = true
  · have hmem := FEComposition.mem_entries_iff_deref.mpr ⟨hk, rfl⟩
    rcases DisplayCall.next_layer_of_setter setterRel_flag hnext hkeeps hmem with
      ⟨hnew, -, hclient⟩ | ⟨l, hl, hclient, hpi⟩
    · exact Or.inl ⟨hnew, hclient⟩
    · obtain ⟨hk₀, rfl⟩ := FEComposition.mem_entries_iff_deref.mp hl
      refine Or.inr ⟨hk₀, ?_, hclient⟩
      rw [HwcDisplay.flagStands, DisplayCall.next_frameValidated hnext hkeeps] at hstands
      exact hstands.imp id hpi
  · -- after `PresentDisplay` only the flags of unchanged layers stand
    have hused : d'.frameValidated = false := by
      cases call with
      | validateDisplay env n => exact absurd rfl (hcall env n)
      | presentDisplay env =>
        rw [← DisplayCall.next_presentDisplay hnext]
        exact (d.sameSetup_presentDisplay env).2
      | createLayer | destroyLayer | callLayer | acceptDisplayChanges | setClientTarget
      | stageMode | flatteningThread => exact absurd rfl hkeeps
    have hpi : d'.isChanged k = false := hstands.resolve_left (by simp [hused])
    obtain ⟨hk₀, hpi₀, hclient, -⟩ := DisplayCall.next_unchanged hnext hcall hk hpi
    exact Or.inr ⟨hk₀, Or.inr hpi₀, hclient⟩

/-- **Every step keeps the layers left to the client.** -/
theorem leftToClientInv_step {t t' : FlattenTracked} {call : DisplayCall}
    (hinv : LeftToClientInv t) (hnext : flattenMachine.next t call = some t') :
    LeftToClientInv t' := by
  obtain ⟨d', hdisplay, rfl⟩ := flattenMachine_next hnext
  by_cases hcall : ∃ env n, call = .validateDisplay env n
  · obtain ⟨env, n, rfl⟩ := hcall
    rw [← Option.some.inj hdisplay]
    exact leftToClientInv_validate t env n
  · have hcall : ∀ env n, call ≠ .validateDisplay env n :=
      fun env n heq => hcall ⟨env, n, heq⟩
    refine ⟨fun k hk => ?_, fun k hk hstands => ?_⟩
    · rw [FlattenTracked.mem_leftToClient_observe t d' hcall] at hk
      rw [FlattenTracked.display_observe]
      exact DisplayCall.next_keys hdisplay hk.2 (hinv.exist k hk.1)
    · rw [FlattenTracked.display_observe] at hk hstands ⊢
      have hleft : k ∈ (t.observe d' call).leftToClient ↔ k ∈ t.leftToClient := by
        rw [FlattenTracked.mem_leftToClient_observe t d' hcall]
        exact and_iff_left (DisplayCall.ne_destroyLayer hdisplay hk)
      rw [hleft]
      rcases DisplayCall.next_flagStands hdisplay hcall hk hstands with
        ⟨hnew, hclient⟩ | ⟨hk₀, hstands₀, hclient⟩
      · rw [hclient]
        exact iff_of_false (by decide) fun hleft => hnew (hinv.exist k hleft)
      · rw [hclient]
        exact hinv.flags k hk₀ hstands₀

/-! ## Requests that are served -/

/-- A request is taken only by a frame of layers that the last `ValidateDisplay` left to the client
and that, unless the frame is validated, did not change since. -/
def RequestTested (t : FlattenTracked) : DisplayCall → Prop
  | .presentDisplay env => t.display.takesRequest env = true →
    ∀ k ∈ t.display.keys, k ∈ t.leftToClient ∧ t.display.flagStands k
  | _ => True

instance (d : HwcDisplay) (k : Nat) : Decidable (d.flagStands k) :=
  inferInstanceAs (Decidable (_ ∨ _))

instance (t : FlattenTracked) (call : DisplayCall) : Decidable (RequestTested t call) :=
  match call with
  | .presentDisplay _ => inferInstanceAs (Decidable (_ → _))
  | .createLayer _ | .destroyLayer _ | .callLayer _ _ | .acceptDisplayChanges
  | .setClientTarget _ _ _ _ | .stageMode _ | .validateDisplay _ _ | .flatteningThread _ =>
    inferInstanceAs (Decidable True)

/-- The frame that takes a request is all client exactly when its layers were left to the client
and their flags stand. -/
theorem takesRequest_allClient_iff {t : FlattenTracked} (hinv : LeftToClientInv t)
    {env : DisplayEnv} (htakes : t.display.takesRequest env = true) :
    (t.display.presentDisplay env).display.allClient = true ↔
      ∀ k ∈ t.display.keys, k ∈ t.leftToClient ∧ t.display.flagStands k := by
  obtain ⟨hkeys, hlayers⟩ :=
    HwcDisplay.presentDisplay_committed (HwcDisplay.takesRequest_error htakes)
  rw [HwcDisplay.allClient_iff, hkeys]
  refine forall₂_congr fun k hk => ?_
  have hkept : t.display.keptClient k = true ↔
      t.display.isClient (.feLayer k) = true ∧ t.display.flagStands k := by
    simp [HwcDisplay.keptClient, HwcDisplay.flagStands]
  rw [(hlayers k).1, hkept]
  exact and_congr_left fun hstands => hinv.flags k hk hstands

/-- A step drops a request exactly when it takes one untested. -/
theorem dropped_step_iff {t t' : FlattenTracked} {call : DisplayCall} (hinv : LeftToClientInv t)
    (hkept : t.dropped = false) (hnext : flattenMachine.next t call = some t') :
    t'.dropped = false ↔ RequestTested t call := by
  obtain ⟨d', hdisplay, rfl⟩ := flattenMachine_next hnext
  cases call with
  | presentDisplay env =>
    obtain rfl := DisplayCall.next_presentDisplay hdisplay
    have hdropped : (t.observe (t.display.presentDisplay env).display
        (.presentDisplay env)).dropped = false ↔
        (t.display.takesRequest env = true →
          (t.display.presentDisplay env).display.allClient = true) := by
      simp [FlattenTracked.observe, hkept]
    rw [hdropped]
    exact forall_congr' fun htakes => takesRequest_allClient_iff hinv htakes
  | createLayer | destroyLayer | callLayer | acceptDisplayChanges | setClientTarget | stageMode
  | validateDisplay | flatteningThread =>
    exact iff_of_true hkept trivial

/-- A `ValidateDisplay` that finds the request pending leaves every layer to the client. -/
theorem validateDisplay_leftToClient {t t' : FlattenTracked} {env : DisplayEnv} {n : Nat}
    (hpending : t.display.flatcon.any (·.shouldFlatten) = true)
    (hnext : flattenMachine.next t (.validateDisplay env n) = some t') :
    ∀ k ∈ t'.display.keys, k ∈ t'.leftToClient := by
  obtain ⟨d', hdisplay, rfl⟩ := flattenMachine_next hnext
  obtain rfl := Option.some.inj hdisplay
  intro k hk
  have hk₀ : k ∈ t.display.keys := (t.display.keys_validateDisplay env n) ▸ hk
  have hclient := HwcDisplay.validateDisplay_flatten hpending env n hk₀
  exact ((leftToClientInv_validate t env n).flags k hk (Or.inl rfl)).mp hclient

/-- **When a flatten request is served**: as long as every request is taken by layers that the last
`ValidateDisplay` left to the client, no request is dropped; and the first step that takes one
otherwise drops it. -/
theorem flattenRequest_served {t : FlattenTracked}
    (h : flattenMachine.ReachableVia RequestTested t) :
    t.dropped = false ∧ ∀ {call t'}, flattenMachine.next t call = some t' →
      (t'.dropped = false ↔ RequestTested t call) := by
  have hserved : t.dropped = false ∧ LeftToClientInv t := by
    refine h.invariant (fun t => t.dropped = false ∧ LeftToClientInv t) ?_ ?_
    · exact fun t hstart => ⟨hstart.2.2, leftToClientInv_start hstart⟩
    · rintro t call t' ⟨hkept, hinv⟩ htested hnext
      exact ⟨(dropped_step_iff hinv hkept hnext).mpr htested, leftToClientInv_step hinv hnext⟩
  exact ⟨hserved.1, dropped_step_iff hserved.2 hserved.1⟩

/-- Two device layers, scanned out on two planes, and the timeout that follows. -/
def timeoutCalls : List DisplayCall :=
  [.createLayer {}, .createLayer {}, .callLayer 0 (.compositionType 2),
    .callLayer 1 (.compositionType 2), .callLayer 0 (.buffer (some 1) (-1)),
    .callLayer 1 (.buffer (some 2) (-1)),
    .setClientTarget { PipeEnv.accepting 2 with } (some 3) (-1) 0,
    .validateDisplay { PipeEnv.accepting 2 with } 0,
    .presentDisplay { PipeEnv.accepting 2 with }, .flatteningThread 1000000000]

/-- A fresh display with a flattening controller. -/
def flattenStart : FlattenTracked :=
  { display := { HwcDisplay.blank .generic with flatcon := some {} } }

theorem flattenMachine_start : flattenMachine.start flattenStart :=
  ⟨⟨rfl, rfl, rfl, rfl, rfl⟩, rfl, rfl⟩

/-- The display with the request pending. -/
def timeoutTracked : FlattenTracked :=
  (flattenMachine.exec flattenStart timeoutCalls).get (by decide)

/-- The request is tested by the next `ValidateDisplay` and taken by its frame. -/
def testedTracked : FlattenTracked :=
  ((flattenMachine.restrict RequestTested).exec flattenStart
    (timeoutCalls ++ [.validateDisplay { PipeEnv.accepting 2 with } 0,
      .presentDisplay { PipeEnv.accepting 2 with }])).get (by decide)

/-- A tested request is not dropped. -/
theorem flattenRequest_served_tested : testedTracked.dropped = false ∧
    ∀ {call t'}, flattenMachine.next testedTracked call = some t' →
      (t'.dropped = false ↔ RequestTested testedTracked call) :=
  flattenRequest_served (Machine.reachableVia_of_exec flattenMachine_start _)

/-- Presented once more without validation, the two layers take the request and stay on their
planes. -/
theorem timeoutTracked_drops :
    flattenMachine.Reachable timeoutTracked ∧
      timeoutTracked.display.takesRequest { PipeEnv.accepting 2 with } = true ∧
      (timeoutTracked.display.presentDisplay { PipeEnv.accepting 2 with }).display.allClient =
        false :=
  ⟨Machine.reachable_of_exec flattenMachine_start _, by decide, by decide⟩

end GloDroid.HwComposer

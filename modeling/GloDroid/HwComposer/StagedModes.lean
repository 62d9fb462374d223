import GloDroid.HwComposer.DisplayRuns

/-!
# Staged Modes and Failed Presents

`TryPresentDisplayInt` switches to a staged mode whose time has come before it calls
`PresentComposition`: it stores the staged configuration as the active one and gives the client
target the new display frame. When the commit then fails, `staged_mode_` is kept for the next
attempt, but neither store is taken back: the framework is told a configuration that is not on the
screen, and the next attempt reads its vsync period as that of the mode before.

A failed present leaves the mode state alone exactly when it fails before that switch, in the
skip-validate check (`checked_failed_iff`), or when the switch stores what is there already.
-/

namespace GloDroid.HwComposer

open GloDroid.Base

/-! ## Frames the check rejects -/

/-- Setting the client flag does not make a layer fit for a plane. -/
theorem HwcLayer.canScanout_retry (rules : ScanoutRules) (l : HwcLayer) :
    l.retry.canScanout rules = l.canScanout rules := by
  unfold HwcLayer.retry
  split_ifs <;> rfl

theorem HwcLayer.displayFrame_setLayerDisplayFrame (l : HwcLayer) (frame : IRect) :
    (l.setLayerDisplayFrame frame).layerData.pi.displayFrame = frame := by
  unfold HwcLayer.setLayerDisplayFrame HwcLayer.setIfChanged
  split_ifs with hsame
  · exact hsame
  · rfl

namespace HwcDisplay

/-- The loop is left at the first layer that cannot be scanned out. -/
theorem skipValidateLoop_none_iff {rules : ScanoutRules} {n : Nat} {es : List (Nat × HwcLayer)} :
    (loopEntries (fun reuse _ l => skipValidateLayer rules reuse l) n es).2 = none ↔
      ∃ e ∈ es, e.2.canScanout rules = false := by
  induction es generalizing n with
  | nil => simp [loopEntries]
  | cons e rest ih =>
    obtain ⟨k, l⟩ := e
    have hbody := skipValidateLayer_eq rules n l
    rw [HwcLayer.canScanout_retry] at hbody
    by_cases hscan : l.canScanout rules = true
    · rw [if_pos hscan] at hbody
      rw [loopEntries_cons_some hbody, List.exists_mem_cons_iff, or_iff_right (by simp [hscan])]
      exact ih
    · rw [if_neg hscan] at hbody
      rw [loopEntries_cons_none hbody]
      exact iff_of_true rfl ⟨_, List.mem_cons_self, Bool.eq_false_of_not_eq_true hscan⟩

/-- The skip-validate check has reason to reject the frame: it was not validated, and some layer
cannot be scanned out, or some client layers could be reused but not all. -/
def RejectsFrame (d : HwcDisplay) : Prop :=
  d.frameValidated = false ∧
    ((∃ e ∈ d.feLayers.entries, e.2.canScanout d.rules = false) ∨
      (d.feLayers.entries.countP (fun e => e.2.reused) ≠ 0 ∧
        d.feLayers.entries.countP (fun e => e.2.reused) ≠ d.clientLayersCount))

instance (d : HwcDisplay) : Decidable d.RejectsFrame :=
  inferInstanceAs (Decidable (_ ∧ _))

theorem checked_failed_iff (d : HwcDisplay) : d.checked.2 = false ↔ d.RejectsFrame := by
  unfold checked checkFrame RejectsFrame
  by_cases hvalidated : d.frameValidated = true
  · simp [hvalidated]
  · rw [if_neg hvalidated, and_iff_right (Bool.eq_false_of_not_eq_true hvalidated)]
    unfold skipValidate OrderedMap.loop
    dsimp only
    cases hloop : (loopEntries (fun reuse _ l => skipValidateLayer d.rules reuse l) 0
        d.feLayers.entries).2 with
    | none => exact iff_of_true rfl (Or.inl (skipValidateLoop_none_iff.mp hloop))
    | some m =>
      have hall : ¬ ∃ e ∈ d.feLayers.entries, e.2.canScanout d.rules = false := by
        rw [← skipValidateLoop_none_iff (n := 0), hloop]
        exact Option.some_ne_none m
      obtain ⟨-, hcount⟩ := skipValidateLoop_some hloop
      rw [or_iff_right hall, ← Nat.zero_add (d.feLayers.entries.countP _), ← hcount]
      simp [Nat.pos_iff_ne_zero]

/-! ## The mode state -/

/-- The mode state is the same: active configuration, staged mode and display frame of the client
target. -/
structure SameModeState (d d' : HwcDisplay) : Prop where
  activeConfigId : d'.activeConfigId = d.activeConfigId
  stagedMode : d'.stagedMode = d.stagedMode
  displayFrame : d'.clientOutput.layerData.pi.displayFrame =
    d.clientOutput.layerData.pi.displayFrame

/-- The check does not touch the mode state. -/
theorem sameModeState_checked (d : HwcDisplay) : d.SameModeState d.checked.1 := by
  unfold checked checkFrame
  split_ifs <;> exact ⟨rfl, rfl, rfl⟩

/-- What a failed commit leaves of the mode state: the staged mode, already in effect. -/
theorem commitFrame_failed {d : HwcDisplay} {env : DisplayEnv} {validated : Bool} {m : StagedMode}
    (hstaged : d.stagedMode = some m) (hdue : m.changeTime ≤ env.monotonicNow)
    (hret : (d.commitFrame env validated).2.ret ≠ 0) :
    (d.commitFrame env validated).1.activeConfigId = m.configId ∧
      (d.commitFrame env validated).1.stagedMode = some m ∧
      (d.commitFrame env validated).1.clientOutput.layerData.pi.displayFrame =
        ⟨0, m.vdisplay, 0, m.hdisplay⟩ := by
  have happly : d.applyStagedMode env.monotonicNow =
      ({ d with
          clientOutput := d.clientOutput.setLayerDisplayFrame ⟨0, m.vdisplay, 0, m.hdisplay⟩
          activeConfigId := m.configId },
        some m.mode) := by
    unfold applyStagedMode
    rw [hstaged]
    exact if_pos hdue
  unfold commitFrame at hret ⊢
  rw [happly] at hret ⊢
  dsimp only at hret ⊢
  set r := presentComposition env.toPipeEnv d.flatcon
    { d.toFEComposition with
      clientOutput := d.clientOutput.setLayerDisplayFrame ⟨0, m.vdisplay, 0, m.hdisplay⟩ }
    { allowFail := !validated, displayMode := some m.mode }
  have hr : r.ret ≠ 0 := by
    intro hzero
    rw [if_neg (not_not.mpr hzero)] at hret
    exact hret hzero
  rw [if_pos hr]
  refine ⟨rfl, hstaged, ?_⟩
  -- importing the client target leaves its presentation alone
  have himported := (presentComposition_rel env.toPipeEnv d.flatcon
    { d.toFEComposition with
      clientOutput := d.clientOutput.setLayerDisplayFrame ⟨0, m.vdisplay, 0, m.hdisplay⟩ }
    { allowFail := !validated, displayMode := some m.mode }).layer .clientOutput
  have hframe := congrArg PresentInfo.displayFrame himported.pi
  exact hframe.trans (HwcLayer.displayFrame_setLayerDisplayFrame _ _)

/-- **When a failed present leaves the mode state alone**: with a staged mode whose time has come,
for every display and every way the call can fail, exactly if the frame is rejected by the check or
the staged mode and configuration are already those of the display. -/
theorem presentDisplay_keepsModeState_iff {d : HwcDisplay} {env : DisplayEnv} {m : StagedMode}
    (hstaged : d.stagedMode = some m) (hdue : m.changeTime ≤ env.monotonicNow)
    (hfailed : (d.presentDisplay env).error = .notValidated ∨
      (d.presentDisplay env).error = .badLayer) :
    d.SameModeState (d.presentDisplay env).display ↔
      d.RejectsFrame ∨
        (m.configId = d.activeConfigId ∧
          d.clientOutput.layerData.pi.displayFrame = ⟨0, m.vdisplay, 0, m.hdisplay⟩) := by
  have herror : (d.presentDisplay env).error ≠ .none := by
    rcases hfailed with h | h <;> rw [h] <;> decide
  have hsame := d.sameModeState_checked
  rcases d.presentDisplay_cases env with ⟨hrejected, hdisplay, -, -⟩ | ⟨hpassed, hdisplay, -, hret⟩
  · -- the call fails before the switch
    rw [hdisplay]
    exact iff_of_true hsame (Or.inl (d.checked_failed_iff.mp hrejected))
  · have hnot : ¬ d.RejectsFrame := by
      rw [← checked_failed_iff, hpassed]
      decide
    obtain ⟨hconfig, hstaged', hframe⟩ := commitFrame_failed (hsame.stagedMode.trans hstaged) hdue
      (fun h => herror (hret.mpr h))
    rw [or_iff_right hnot, hdisplay]
    constructor
    · rintro ⟨hactive, -, hdisplayFrame⟩
      exact ⟨hconfig.symm.trans hactive, hdisplayFrame.symm.trans hframe⟩
    · rintro ⟨hactive, hdisplayFrame⟩
      exact ⟨hconfig.trans hactive, hstaged'.trans hstaged.symm, hframe.trans hdisplayFrame.symm⟩

/-- A full-HD mode, due at once. -/
def fullHdMode : StagedMode where
  mode := 1
  hdisplay := 1920
  vdisplay := 1080
  configId := 1
  changeTime := 0

/-- A device layer with a buffer, validated after the mode was staged. -/
def stagedDisplay : HwcDisplay :=
  (displayMachine.exec (HwcDisplay.blank .generic)
    [.createLayer {}, .callLayer 0 (.compositionType 2), .callLayer 0 (.buffer (some 1) (-1)),
      .stageMode fullHdMode, .validateDisplay { PipeEnv.accepting 2 with } 0]).get (by decide)

/-- The pipeline rejects the commit. -/
def rejectingEnv : DisplayEnv :=
  { PipeEnv.accepting 2 with commit := fun _ _ => { ret := negEINVAL } }

theorem presentDisplay_keepsModeState_iff_staged :
    (∃ l, stagedDisplay.feLayers.entries = [(0, l)] ∧ l.canScanout stagedDisplay.rules = true) ∧
    (stagedDisplay.SameModeState (stagedDisplay.presentDisplay rejectingEnv).display ↔
      stagedDisplay.RejectsFrame ∨
        (fullHdMode.configId = stagedDisplay.activeConfigId ∧
          stagedDisplay.clientOutput.layerData.pi.displayFrame =
            ⟨0, fullHdMode.vdisplay, 0, fullHdMode.hdisplay⟩)) :=
  ⟨⟨_, rfl, by decide⟩,
    presentDisplay_keepsModeState_iff (m := fullHdMode) rfl (by decide) (Or.inr (by decide))⟩

/-- The commit is rejected, and the active configuration is the staged one. -/
theorem presentDisplay_switches :
    displayMachine.Reachable stagedDisplay ∧ stagedDisplay.stagedMode = some fullHdMode ∧
      fullHdMode.changeTime ≤ rejectingEnv.monotonicNow ∧
      (stagedDisplay.presentDisplay rejectingEnv).error = .badLayer ∧
      ¬ stagedDisplay.SameModeState (stagedDisplay.presentDisplay rejectingEnv).display := by
  refine ⟨Machine.reachable_of_exec (fresh_blank .generic) _, rfl, by decide, by decide,
    fun h => ?_⟩
  exact absurd h.activeConfigId (by decide)

end HwcDisplay

end GloDroid.HwComposer

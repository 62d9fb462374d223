import GloDroid.Power.Power
import Mathlib.Algebra.Order.Ring.Int
import Mathlib.Data.List.Chain

/-!
# The Union of all Boosts

What the HAL is for: the devices are boosted while the last `setMode` for `LAUNCH` enabled it or
while one of the timed boosts has not ended. The HAL keeps a flag and the latest end instead of the
calls, and writes the files only where the boost goes on or off.

After each evaluation the files show what the calls so far ask for, no call makes a timed boost end
earlier, and the worker boosts and stops boosting alternately (`boost_union`).
-/

namespace GloDroid.Power

open GloDroid.Base

/-! ## What the calls ask for -/

/-- The last `setMode` for `LAUNCH` has enabled it. -/
def LaunchOn : List (Int × PowerCall) → Prop
  | [] => False
  | (_, .setMode .launch enabled) :: _ => enabled = true
  | _ :: rest => LaunchOn rest

/-- `d'`: a duration that is not positive stands for 100 ms. -/
def boostMs (durationMs : Int32) : Int := if 0 < durationMs.toInt then durationMs.toInt else 100

/-- A timed boost made at `s` is still on at `t`, in nanoseconds. -/
def TimedBoost (calls : List (Int × PowerCall)) (t : Int) : Prop :=
  ∃ s type durationMs, (s, .setBoost type durationMs) ∈ calls ∧
    (type = .interaction ∨ type = .displayUpdateImminent) ∧ t < s + boostMs durationMs * 1000000

/-- The calls ask for a boost at `t`. -/
def BoostAsked (calls : List (Int × PowerCall)) (t : Int) : Prop :=
  LaunchOn calls ∨ TimedBoost calls t

theorem timedBoost_cons (s t : Int) (call : PowerCall) (calls : List (Int × PowerCall)) :
    TimedBoost ((s, call) :: calls) t ↔ TimedBoost [(s, call)] t ∨ TimedBoost calls t := by
  constructor
  · rintro ⟨u, type, durationMs, hmem, htype, ht⟩
    rcases List.mem_cons.mp hmem with heq | hmem
    · exact .inl ⟨u, type, durationMs, by simp [heq], htype, ht⟩
    · exact .inr ⟨u, type, durationMs, hmem, htype, ht⟩
  · rintro (⟨u, type, durationMs, hmem, htype, ht⟩ | ⟨u, type, durationMs, hmem, htype, ht⟩)
    · exact ⟨u, type, durationMs, by simp [List.mem_singleton.mp hmem], htype, ht⟩
    · exact ⟨u, type, durationMs, List.mem_cons_of_mem _ hmem, htype, ht⟩

/-! ## The files -/

/-- The lower file of an accepted device was last written for this state of the boost. -/
def DevFreq.Shows (df : DevFreq) (boosted : Bool) : Prop :=
  df.minFreq.valid = true ∧
    df.minFreq.lastValue = if boosted then df.maxFreq.initialValue else df.minFreq.initialValue

theorem shows_boost {df : DevFreq} (h : df.minFreq.valid = true) (en : Bool) :
    (df.boost true en).Shows en := by
  simp [DevFreq.Shows, DevFreq.boost, SysfsIntFile.write, h]

theorem shows_device {f : FoundFile} (h : f.device.valid = true) : f.device.Shows false := by
  simp only [FoundFile.device, DevFreq.ofFiles] at h ⊢
  split_ifs at h ⊢ with hvalid
  · -- the constructor has written the initial value
    obtain ⟨hmin, -⟩ : _ ∧ _ := by simpa using hvalid
    cases hwritten : f.written with
    | false => simp [SysfsIntFile.write, hmin, hwritten] at h
    | true => simp [DevFreq.Shows, SysfsIntFile.write, hmin]

theorem shows_boostAll {boosterList : List DevFreq} {boosted : Bool}
    (h : ∀ df ∈ boosterList, df.Shows boosted) (en : Bool) :
    ∀ df ∈ GloDroidPower.boostAll boosterList (fun _ => true) en, df.Shows en := by
  intro df hdf
  simp only [GloDroidPower.boostAll, List.mem_mapIdx] at hdf
  obtain ⟨i, hi, rfl⟩ := hdf
  exact shows_boost (h _ (List.getElem_mem hi)).1 en

/-! ## The invariant -/

/-- What the HAL keeps agrees with the calls so far. -/
structure KeepsUnion (r : PowerRun) : Prop where
  exit : r.gdPower.loop.shared.exit = false
  clock : 0 ≤ r.gdPower.clock
  modes : .launch ∈ r.power.modeEnabled ↔ LaunchOn r.calls
  boostEn : r.gdPower.loop.shared.boostEn = true ↔ LaunchOn r.calls
  boostEnd : ∀ t, 0 ≤ t → (t < r.gdPower.loop.shared.boostEnd ↔ TimedBoost r.calls t)
  shows : ∀ df ∈ r.gdPower.boosterList, df.Shows r.gdPower.boosted
  alternates : r.boosts.IsChain (· ≠ ·)
  last : r.gdPower.boosted = r.boosts.head?.getD false

variable {r r' : PowerRun} {now : Int}

theorem keepsUnion_start (h : runMachine.start r) : KeepsUnion r := by
  obtain ⟨files, now, hnow, rfl⟩ := h
  refine ⟨rfl, hnow, by simp [LaunchOn], by simp [LaunchOn, GloDroidPower.create, WaitLoop.init],
    ?_, ?_, .nil, rfl⟩
  · -- the default time point is in the past
    intro t ht
    simpa [TimedBoost, GloDroidPower.create, WaitLoop.init] using ht
  · intro df hdf
    obtain ⟨hmem, hvalid⟩ := List.mem_filter.mp hdf
    obtain ⟨f, -, rfl⟩ := List.mem_map.mp hmem
    exact shows_device hvalid

/-- `BoostFor` keeps the later end. -/
theorem boostFor_eq (s : GloDroidPower) (now timeoutMs : Int) :
    (s.boostFor now timeoutMs).loop.shared = { s.loop.shared with
        boostEnd := max s.loop.shared.boostEnd (GloDroidPower.requestedEnd now timeoutMs) } ∧
      (s.boostFor now timeoutMs).boosterList = s.boosterList ∧
      (s.boostFor now timeoutMs).boosted = s.boosted ∧
      (s.boostFor now timeoutMs).clock = now := by
  by_cases hlater : s.loop.shared.boostEnd < GloDroidPower.requestedEnd now timeoutMs
  · rw [GloDroidPower.boostFor_later hlater, max_eq_right hlater.le]
    exact ⟨rfl, rfl, rfl, rfl⟩
  · rw [GloDroidPower.boostFor_earlier hlater, max_eq_left (not_lt.mp hlater)]
    exact ⟨rfl, rfl, rfl, rfl⟩

/-- The mode set after `setMode`. -/
theorem launch_mem_setMode (p : PowerHal) (now : Int) (type : Mode) (enabled : Bool) :
    .launch ∈ (p.setMode now type enabled).modeEnabled ↔
      if type = .launch then enabled = true else .launch ∈ p.modeEnabled := by
  cases enabled <;> by_cases htype : type = .launch <;>
    simp [PowerHal.setMode, htype, eq_comm]

theorem launchOn_setMode (now : Int) (type : Mode) (enabled : Bool)
    (calls : List (Int × PowerCall)) :
    LaunchOn ((now, .setMode type enabled) :: calls) ↔
      if type = .launch then enabled = true else LaunchOn calls := by
  cases type <;> simp [LaunchOn]

/-- A call that is neither a `setBoost` of the two kinds leaves the timed boosts alone. -/
theorem timedBoost_setMode (s t : Int) (type : Mode) (enabled : Bool)
    (calls : List (Int × PowerCall)) :
    TimedBoost ((s, .setMode type enabled) :: calls) t ↔ TimedBoost calls t := by
  rw [timedBoost_cons]
  simp [TimedBoost]

theorem timedBoost_setBoost (s t : Int) (type : Boost) (durationMs : Int32)
    (calls : List (Int × PowerCall)) :
    TimedBoost ((s, .setBoost type durationMs) :: calls) t ↔
      (type = .interaction ∨ type = .displayUpdateImminent) ∧
        t < s + boostMs durationMs * 1000000 ∨ TimedBoost calls t := by
  rw [timedBoost_cons]
  simp [TimedBoost]

theorem requestedEnd_eq (now : Int) (durationMs : Int32) :
    GloDroidPower.requestedEnd now durationMs.toInt = now + boostMs durationMs * 1000000 := by
  simp only [GloDroidPower.requestedEnd, boostMs]
  split_ifs with hle hlt hlt
  · omega
  · rfl
  · rfl
  · omega

theorem keepsUnion_setMode (hr : KeepsUnion r) (hnow : r.gdPower.clock ≤ now) (type : Mode)
    (enabled : Bool) :
    KeepsUnion { r with
      power := r.power.setMode now type enabled
      calls := (now, .setMode type enabled) :: r.calls } := by
  have hmodes : .launch ∈ (r.power.setMode now type enabled).modeEnabled ↔
      LaunchOn ((now, .setMode type enabled) :: r.calls) := by
    rw [launch_mem_setMode, launchOn_setMode, hr.modes]
  refine ⟨hr.exit, hr.clock.trans hnow, hmodes, ?_, ?_, hr.shows, hr.alternates, hr.last⟩
  · -- the flag is whether the mode is in the set
    rw [← hmodes]
    exact List.contains_iff_mem
  · intro t ht
    rw [timedBoost_setMode]
    exact hr.boostEnd t ht

theorem keepsUnion_setBoost (hr : KeepsUnion r) (hnow : r.gdPower.clock ≤ now) (type : Boost)
    (durationMs : Int32) :
    KeepsUnion { r with
      power := r.power.setBoost now type durationMs
      calls := (now, .setBoost type durationMs) :: r.calls } := by
  simp only [PowerHal.setBoost]
  split_ifs with htype
  · obtain ⟨hshared, hlist, hboosted, hclock⟩ := boostFor_eq r.gdPower now durationMs.toInt
    have hen := congrArg BoostShared.boostEn hshared
    have hend := congrArg BoostShared.boostEnd hshared
    refine ⟨(congrArg BoostShared.exit hshared).trans hr.exit, ?_, hr.modes, ?_, ?_, ?_,
      hr.alternates, hboosted.trans hr.last⟩
    · exact (hr.clock.trans hnow).trans hclock.ge
    · exact (iff_of_eq (congrArg (· = true) hen)).trans hr.boostEn
    · -- the later one of two ends is after `t` if one of them is
      intro t ht
      refine (iff_of_eq (congrArg (t < ·) hend)).trans ?_
      rw [timedBoost_setBoost, lt_max_iff, hr.boostEnd t ht, requestedEnd_eq, or_comm]
      simp only [htype.symm, true_and]
    · intro df hdf
      have hshows := hr.shows df (hlist ▸ hdf)
      rwa [← hboosted] at hshows
  · -- other boosts are ignored
    refine ⟨hr.exit, hr.clock, hr.modes, hr.boostEn, ?_, hr.shows, hr.alternates, hr.last⟩
    intro t ht
    rw [or_comm] at htype
    rw [timedBoost_setBoost, hr.boostEnd t ht]
    simp only [htype, false_and, false_or]

/-! ## Evaluations -/

/-- What an evaluation leaves. -/
theorem wake_next (hexit : r.gdPower.loop.shared.exit = false)
    (h : runMachine.next r (now, .wake) = some r') :
    r.gdPower.clock ≤ now ∧ r'.gdPower.clock = now ∧ r'.calls = r.calls ∧
      r'.power.modeEnabled = r.power.modeEnabled ∧
      r'.gdPower.loop.shared = r.gdPower.loop.shared ∧
      r'.gdPower.boosted = r.gdPower.loop.shared.boostActive now ∧
      r'.gdPower.boosterList =
        (r.gdPower.evaluateBoost now fun _ => true).2.boosterList ∧
      r'.boosts = (r.gdPower.evaluateBoost now fun _ => true).1.toList ++ r.boosts := by
  simp only [runMachine, PowerRun.next] at h
  split_ifs at h with hclock
  obtain ⟨⟨call, s⟩, hwake, rfl⟩ := Option.map_eq_some_iff.mp h
  obtain ⟨loop, hloop, ⟨hexit', -⟩ | ⟨-, rfl, rfl⟩⟩ := GloDroidPower.wake_eq hwake
  · rw [hexit] at hexit'
    cases hexit'
  · refine ⟨hclock, rfl, rfl, rfl, (WaitLoop.settled_evaluate hloop).2.2, ?_, rfl, rfl⟩
    exact (r.gdPower.evaluateBoost_holds now _).boosted

theorem keepsUnion_wake (hr : KeepsUnion r) (h : runMachine.next r (now, .wake) = some r') :
    KeepsUnion r' := by
  obtain ⟨hnow, hclock, hcalls, hmodes, hshared, hboosted, hlist, hboosts⟩ :=
    wake_next hr.exit h
  have hkeeps : (∀ df ∈ r'.gdPower.boosterList, df.Shows r'.gdPower.boosted) ∧
      r'.boosts.IsChain (· ≠ ·) ∧ r'.gdPower.boosted = r'.boosts.head?.getD false := by
    rcases r.gdPower.evaluateBoost_cases now fun _ => true with
      ⟨hsame, hnone, hkept⟩ | ⟨hchange, hcall, hwritten⟩
    · -- the files stay as they are
      rw [hlist, hboosts, hboosted, hnone, hkept, hsame]
      exact ⟨hr.shows, hr.alternates, hr.last⟩
    · rw [hlist, hboosts, hboosted, hcall, hwritten]
      refine ⟨shows_boostAll hr.shows _, ?_, rfl⟩
      apply List.IsChain.cons hr.alternates
      intro last hlast
      rw [hr.last, Option.mem_def.mp hlast] at hchange
      exact hchange
  obtain ⟨hshows, halternates, hlast⟩ := hkeeps
  refine ⟨?_, ?_, ?_, ?_, ?_, hshows, halternates, hlast⟩
  · exact (congrArg BoostShared.exit hshared).trans hr.exit
  · exact (hr.clock.trans hnow).trans hclock.ge
  · rw [hmodes, hcalls]
    exact hr.modes
  · rw [hshared, hcalls]
    exact hr.boostEn
  · rw [hshared, hcalls]
    exact hr.boostEnd

theorem keepsUnion_next {step : Int × RunStep} (hr : KeepsUnion r)
    (h : runMachine.next r step = some r') : KeepsUnion r' := by
  obtain ⟨now, step⟩ := step
  cases step with
  | call call =>
    simp only [runMachine, PowerRun.next] at h
    split_ifs at h with hnow
    obtain rfl := Option.some.inj h
    cases call with
    | setMode type enabled => exact keepsUnion_setMode hr hnow type enabled
    | setBoost type durationMs => exact keepsUnion_setBoost hr hnow type durationMs
  | lockAndWait =>
    simp only [runMachine, PowerRun.next] at h
    split_ifs at h with hnow
    obtain ⟨s, hwait, rfl⟩ := Option.map_eq_some_iff.mp h
    obtain ⟨loop, hloop, rfl⟩ := GloDroidPower.lockAndWait_eq hwait
    obtain ⟨-, rfl⟩ := WaitLoop.startWait_eq hloop
    exact ⟨hr.exit, hr.clock.trans hnow, hr.modes, hr.boostEn, hr.boostEnd, hr.shows,
      hr.alternates, hr.last⟩
  | wake => exact keepsUnion_wake hr h

theorem keepsUnion_of_reachable (h : runMachine.Reachable r) : KeepsUnion r := by
  apply h.invariant
  · exact fun r hstart => keepsUnion_start hstart
  · exact fun r step r' hr _ hnext => keepsUnion_next hr hnext

/-! ## The boost -/

/-- What is asked for is what the worker evaluates. -/
theorem KeepsUnion.boostActive (hr : KeepsUnion r) {t : Int} (ht : 0 ≤ t) :
    r.gdPower.loop.shared.boostActive t = true ↔ BoostAsked r.calls t := by
  simp only [BoostShared.boostActive, Bool.or_eq_true, decide_eq_true_eq, gt_iff_lt,
    hr.boostEnd t ht, hr.boostEn]
  exact or_comm

/-- No step makes a timed boost end earlier. -/
theorem boostEnd_le {step : Int × RunStep} (h : runMachine.next r step = some r') :
    r.gdPower.loop.shared.boostEnd ≤ r'.gdPower.loop.shared.boostEnd := by
  obtain ⟨now, step⟩ := step
  simp only [runMachine, PowerRun.next] at h
  split_ifs at h
  cases step with
  | call call =>
    obtain rfl := Option.some.inj h
    cases call with
    | setMode type enabled => exact le_rfl
    | setBoost type durationMs =>
      simp only [PowerRun.gdPower, PowerCall.apply, PowerHal.setBoost]
      split_ifs
      · rw [(boostFor_eq r.power.gdPower now durationMs.toInt).1]
        exact le_max_left _ _
      · exact le_rfl
  | lockAndWait =>
    obtain ⟨s, hwait, rfl⟩ := Option.map_eq_some_iff.mp h
    obtain ⟨loop, hloop, rfl⟩ := GloDroidPower.lockAndWait_eq hwait
    obtain ⟨-, rfl⟩ := WaitLoop.startWait_eq hloop
    exact le_rfl
  | wake =>
    obtain ⟨⟨call, s⟩, hwake, rfl⟩ := Option.map_eq_some_iff.mp h
    obtain ⟨loop, hloop, ⟨-, -, rfl⟩ | ⟨-, -, rfl⟩⟩ := GloDroidPower.wake_eq hwake <;>
      exact (congrArg BoostShared.boostEnd (WaitLoop.settled_evaluate hloop).2.2).ge

/-- **The boost is the union of all requests.** After an evaluation at `t`, the `min_freq` file of
every device in use was last written with the initial value of its `max_freq` file if the calls ask
for a boost at `t`, and with its own one otherwise. No step makes a timed boost end earlier, and the
worker never writes the files twice in a row for the same state of the boost. -/
theorem boost_union (h : runMachine.Reachable r) :
    (∀ t r', runMachine.next r (t, .wake) = some r' → ∀ df ∈ r'.gdPower.boosterList,
      (BoostAsked r'.calls t → df.minFreq.lastValue = df.maxFreq.initialValue) ∧
      (¬ BoostAsked r'.calls t → df.minFreq.lastValue = df.minFreq.initialValue)) ∧
    (∀ step r', runMachine.next r step = some r' →
      r.gdPower.loop.shared.boostEnd ≤ r'.gdPower.loop.shared.boostEnd) ∧
    r.boosts.IsChain (· ≠ ·) := by
  have hr := keepsUnion_of_reachable h
  refine ⟨?_, fun step r' => boostEnd_le, hr.alternates⟩
  intro t r' hwake df hdf
  obtain ⟨hnow, -, hcalls, -, -, hboosted, -, -⟩ := wake_next hr.exit hwake
  obtain ⟨-, hshows⟩ := (keepsUnion_wake hr hwake).shows df hdf
  have hasked := hr.boostActive (hr.clock.trans hnow)
  rw [hcalls, ← hasked]
  rw [hboosted] at hshows
  constructor
  · intro hactive
    rw [hshows, if_pos hactive]
  · intro hidle
    rw [hshows, if_neg hidle]

/-- The frequency file of a CPU. -/
def policy0 : FoundFile :=
  { path := "/sys/devices/system/cpu/cpufreq/policy0/"
    minFreq := some 480000
    maxFreq := some 1152000
    written := true }

/-- The HAL with this CPU. -/
def oneCpu : PowerRun := { power := { gdPower := .create ([policy0].map FoundFile.device) 5 } }

theorem oneCpu_start : runMachine.start oneCpu := ⟨[policy0], 5, by decide, rfl⟩

/-- A launch, with touches of 50 and of 20 ms on the way, after which the worker waits. -/
def launchedCpu : PowerRun :=
  (runMachine.exec oneCpu
    [(6, .lockAndWait), (7, .call (.setMode .launch true)), (8, .wake), (9, .lockAndWait),
     (10, .call (.setBoost .interaction 50)), (11, .call (.setBoost .interaction 20)),
     (12, .call (.setMode .launch false))]).get (by decide)

theorem boost_union_launchedCpu :
    launchedCpu.boosts = [true] ∧
    (∀ t r', runMachine.next launchedCpu (t, .wake) = some r' → ∀ df ∈ r'.gdPower.boosterList,
      (BoostAsked r'.calls t → df.minFreq.lastValue = df.maxFreq.initialValue) ∧
      (¬ BoostAsked r'.calls t → df.minFreq.lastValue = df.minFreq.initialValue)) ∧
    (∀ step r', runMachine.next launchedCpu step = some r' →
      launchedCpu.gdPower.loop.shared.boostEnd ≤ r'.gdPower.loop.shared.boostEnd) ∧
    launchedCpu.boosts.IsChain (· ≠ ·) :=
  ⟨by decide, boost_union (Machine.reachable_of_exec oneCpu_start _)⟩

end GloDroid.Power

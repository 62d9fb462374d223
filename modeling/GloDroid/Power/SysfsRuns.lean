import GloDroid.Power.BoostUnion
import GloDroid.Power.SysfsSearch

/-!
# What the HAL does to Sysfs

The files under any run, from the search of the constructor on. The object keeps the value it has
written last to each file and the values it has found at first; nothing else of sysfs is read again.

Whatever fails, each file holds what it held when the HAL was started, but for the `min_freq` file
of a device, which may hold what the `max_freq` file of the device held (`sysfs_kept`). If the
writes succeed, sysfs is as the calls ask for it after each evaluation: with the lower frequencies
raised as long as a boost is asked for, and else as it was found (`sysfs_follows_calls`).
-/

namespace GloDroid.Power

open GloDroid.Base
open GloDroid.Vibrator (FileSystem)

/-! ## The writes -/

/-- What `Boost` does to the lower file. -/
def DevFreq.boostTo (df : DevFreq) (written en : Bool) (contents : Contents) : Contents :=
  df.minFreq.writeTo written
    (if en then df.maxFreq.initialValue else df.minFreq.initialValue) contents

/-- What `BoostAll` does to the files. -/
def boostAllTo (en : Bool) : List DevFreq → (Nat → Bool) → Contents → Contents
  | [], _, contents => contents
  | df :: rest, written, contents =>
    boostAllTo en rest (fun i => written (i + 1)) (df.boostTo (written 0) en contents)

/-- What the worker that wakes up at `now` does to the files. -/
def GloDroidPower.wakeTo (s : GloDroidPower) (now : Int) (written : Nat → Bool)
    (contents : Contents) : Contents :=
  -- it returns before it looks at the boost
  if s.loop.shared.exit then contents
  else
    match (s.evaluateBoost now written).1 with
    | some en => boostAllTo en s.boosterList written contents
    | none => contents

/-! ## The runs -/

section Machines

variable (fs : FileSystem) (written : String → Bool) (contents : Contents)

/-- The object after its constructor, under any steps; any write may fail. -/
def sysfsMachine : Machine SysfsPower (Int × PowerStep) where
  start s := ∃ fuel now, 0 ≤ now ∧ construct fs written contents fuel now = some s
  next s step := (PowerStep.next s.power step).map fun power =>
    { power
      contents :=
        match step.2 with
        | .wake written => s.power.wakeTo step.1 written s.contents
        | _ => s.contents }

/-- The HAL with its calls so far, and the files. -/
structure SysfsHal where
  run : PowerRun
  contents : Contents

/-- The HAL under any calls, with the writes of the worker succeeding. -/
def halMachine : Machine SysfsHal (Int × RunStep) where
  start h := ∃ fuel now s, 0 ≤ now ∧ construct fs written contents fuel now = some s ∧
    h = { run := { power := { gdPower := s.power } }, contents := s.contents }
  next h step := (PowerRun.next h.run step).map fun run =>
    { run
      contents :=
        match step.2 with
        | .wake => h.run.gdPower.wakeTo step.1 (fun _ => true) h.contents
        | _ => h.contents }

end Machines

/-! ## The files of the devices -/

/-- The device has found these values, and has last written one of them. -/
structure DevFreq.Kept (df : DevFreq) (start : Contents) : Prop where
  valid : df.minFreq.valid = true
  low : start df.minFreq.fileName = some df.minFreq.initialValue
  high : start df.maxFreq.fileName = some df.maxFreq.initialValue
  last : df.minFreq.lastValue = df.minFreq.initialValue ∨
    df.minFreq.lastValue = df.maxFreq.initialValue

/-- The files hold what the devices have written last, and else what they held at first. -/
structure FilesKept (start contents : Contents) (boosterList : List DevFreq) : Prop where
  nodup : (boosterList.map fun df => df.minFreq.fileName).Nodup
  kept : ∀ df ∈ boosterList, df.Kept start
  shown : ∀ df ∈ boosterList, contents df.minFreq.fileName = some df.minFreq.lastValue
  others : ∀ name, (∀ df ∈ boosterList, df.minFreq.fileName ≠ name) → contents name = start name

variable {start contents : Contents} {df : DevFreq} {boosterList : List DevFreq}

section Write

variable {f : SysfsIntFile} (written : Bool) (value : Int)

theorem fileName_write (f : SysfsIntFile) : (f.write written value).2.fileName = f.fileName := by
  simp only [SysfsIntFile.write]
  split_ifs <;> rfl

/-- Another file stays as it is. -/
theorem writeTo_other {name : String} (h : f.fileName ≠ name) (contents : Contents) :
    f.writeTo written value contents name = contents name := by
  simp only [SysfsIntFile.writeTo]
  split_ifs
  · exact Function.update_of_ne h.symm _ _
  · rfl

/-- The file holds what was written last. -/
theorem writeTo_shown (h : contents f.fileName = some f.lastValue) :
    f.writeTo written value contents f.fileName = some (f.write written value).2.lastValue := by
  obtain ⟨fileName, initialValue, lastValue, valid⟩ := f
  cases valid <;> cases written <;> simp [SysfsIntFile.writeTo, SysfsIntFile.write, h]

end Write

theorem DevFreq.Kept.boost (h : df.Kept start) (written en : Bool) :
    (df.boost written en).Kept start := by
  obtain ⟨hvalid, hlow, hhigh, hlast⟩ := h
  cases written with
  | false =>
    -- a write that fails leaves the last value
    have hsame : df.boost false en = df := by simp [DevFreq.boost, SysfsIntFile.write]
    rw [hsame]
    exact ⟨hvalid, hlow, hhigh, hlast⟩
  | true =>
    have hwritten : df.boost true en = { df with minFreq := { df.minFreq with
        lastValue := if en then df.maxFreq.initialValue else df.minFreq.initialValue } } := by
      simp [DevFreq.boost, SysfsIntFile.write, hvalid]
    rw [hwritten]
    refine ⟨hvalid, hlow, hhigh, ?_⟩
    cases en
    · exact .inl rfl
    · exact .inr rfl

theorem boostAll_cons (rest : List DevFreq) (written : Nat → Bool) (en : Bool) :
    GloDroidPower.boostAll (df :: rest) written en =
      df.boost (written 0) en :: GloDroidPower.boostAll rest (fun i => written (i + 1)) en :=
  List.mapIdx_cons

theorem fileNames_boostAll (boosterList : List DevFreq) (written : Nat → Bool) (en : Bool) :
    (GloDroidPower.boostAll boosterList written en).map (fun df => df.minFreq.fileName) =
      boosterList.map fun df => df.minFreq.fileName := by
  induction boosterList generalizing written with
  | nil => rfl
  | cons df rest ih =>
    rw [boostAll_cons, List.map_cons, List.map_cons, ih]
    exact congrArg (· :: _) (fileName_write _ _ _)

theorem boostAllTo_other {name : String} (h : name ∉ boosterList.map fun df => df.minFreq.fileName)
    (en : Bool) (written : Nat → Bool) (contents : Contents) :
    boostAllTo en boosterList written contents name = contents name := by
  induction boosterList generalizing written contents with
  | nil => rfl
  | cons df rest ih =>
    obtain ⟨hfirst, hrest⟩ : name ≠ df.minFreq.fileName ∧
        name ∉ rest.map fun df => df.minFreq.fileName := by simpa using h
    rw [boostAllTo, ih hrest]
    exact writeTo_other _ _ hfirst.symm contents

theorem boostAllTo_shown (hnodup : (boosterList.map fun df => df.minFreq.fileName).Nodup)
    (h : ∀ df ∈ boosterList, contents df.minFreq.fileName = some df.minFreq.lastValue)
    (en : Bool) (written : Nat → Bool) :
    ∀ df ∈ GloDroidPower.boostAll boosterList written en,
      boostAllTo en boosterList written contents df.minFreq.fileName =
        some df.minFreq.lastValue := by
  induction boosterList generalizing written contents with
  | nil => simp [GloDroidPower.boostAll]
  | cons df rest ih =>
    obtain ⟨hfirst, hrest⟩ := List.nodup_cons.mp hnodup
    obtain ⟨hdf, hshown⟩ := List.forall_mem_cons.mp h
    rw [boostAll_cons]
    refine List.forall_mem_cons.mpr ⟨?_, ih hrest ?_ _⟩
    · -- no device behind it writes to the file of the first one
      have hname : (df.boost (written 0) en).minFreq.fileName = df.minFreq.fileName :=
        fileName_write _ _ _
      rw [hname, boostAllTo, boostAllTo_other hfirst]
      exact writeTo_shown _ _ hdf
    · intro df' hdf'
      have hother : df.minFreq.fileName ≠ df'.minFreq.fileName :=
        fun heq => hfirst (List.mem_map.mpr ⟨df', hdf', heq.symm⟩)
      exact (writeTo_other _ _ hother contents).trans (hshown df' hdf')

/-- `BoostAll` keeps the files, whichever writes succeed. -/
theorem FilesKept.boostAll (h : FilesKept start contents boosterList) (written : Nat → Bool)
    (en : Bool) :
    FilesKept start (boostAllTo en boosterList written contents)
      (GloDroidPower.boostAll boosterList written en) := by
  obtain ⟨hnodup, hkept, hshown, hothers⟩ := h
  refine ⟨?_, ?_, boostAllTo_shown hnodup hshown en written, ?_⟩
  · rw [fileNames_boostAll]
    exact hnodup
  · intro df hdf
    -- a device of the new list is one of the old list, boosted
    simp only [GloDroidPower.boostAll, List.mem_mapIdx] at hdf
    obtain ⟨i, hi, rfl⟩ := hdf
    exact (hkept _ (List.getElem_mem hi)).boost _ _
  · intro name hname
    have hnot : name ∉ boosterList.map fun df => df.minFreq.fileName := by
      rw [← fileNames_boostAll boosterList written en]
      simpa using hname
    rw [boostAllTo_other hnot]
    apply hothers
    simpa using hnot

/-- An evaluation keeps the files. -/
theorem FilesKept.evaluate {s : GloDroidPower} (h : FilesKept start contents s.boosterList)
    (hexit : s.loop.shared.exit = false) (now : Int) (written : Nat → Bool) :
    FilesKept start (s.wakeTo now written contents)
      (s.evaluateBoost now written).2.boosterList := by
  rw [GloDroidPower.wakeTo, if_neg (by simp [hexit])]
  -- the files are written only if the boost goes on or off
  rcases s.evaluateBoost_cases now written with ⟨-, hnone, hkept⟩ | ⟨-, hcall, hwritten⟩
  · rw [hnone, hkept]
    exact h
  · rw [hcall, hwritten]
    exact h.boostAll written _

/-- The worker keeps the files when it wakes up. -/
theorem FilesKept.wake {s s' : GloDroidPower} (h : FilesKept start contents s.boosterList)
    {call : Option Bool} {now : Int} {written : Nat → Bool}
    (hwake : s.wake now written = some (call, s')) :
    FilesKept start (s.wakeTo now written contents) s'.boosterList := by
  obtain ⟨loop, -, ⟨hexit, -, rfl⟩ | ⟨hexit, -, rfl⟩⟩ := GloDroidPower.wake_eq hwake
  · rw [GloDroidPower.wakeTo, if_pos hexit]
    exact h
  · exact h.evaluate hexit now written

/-- The constructor leaves sysfs as it was, and its devices have found what is there. -/
theorem filesKept_construct {fs : FileSystem} {written : String → Bool} {fuel : Nat} {now : Int}
    {s : SysfsPower} (hnamed : WellNamed fs)
    (h : construct fs written start fuel now = some s) :
    FilesKept start s.contents s.power.boosterList := by
  obtain ⟨-, -, -, hcontents, -⟩ := construct_eq hnamed h
  obtain ⟨hnodup, hdevices⟩ := construct_boosters hnamed h
  -- the constructor has written each lower file once, with its own value
  have hkept : ∀ df ∈ s.power.boosterList, df.Kept start ∧
      df.minFreq.lastValue = df.minFreq.initialValue := by
    intro df hdf
    obtain ⟨scaling, low, high, -, hlow, hhigh, -, rfl⟩ := (hdevices df).mp hdf
    exact ⟨⟨rfl, hlow, hhigh, .inl rfl⟩, rfl⟩
  refine ⟨hnodup, fun df hdf => (hkept df hdf).1, ?_, fun name _ => congrFun hcontents name⟩
  intro df hdf
  rw [hcontents, (hkept df hdf).2]
  exact (hkept df hdf).1.low

/-! ## Whatever fails -/

section Runs

variable {fs : FileSystem} {written : String → Bool}

theorem filesKept_next {s s' : SysfsPower} {step : Int × PowerStep}
    (h : FilesKept start s.contents s.power.boosterList)
    (hnext : (sysfsMachine fs written start).next s step = some s') :
    FilesKept start s'.contents s'.power.boosterList := by
  obtain ⟨now, step⟩ := step
  obtain ⟨power, hpower, rfl⟩ := Option.map_eq_some_iff.mp hnext
  obtain ⟨-, happly⟩ := PowerStep.next_eq hpower
  cases step with
  | boostFor timeoutMs =>
    obtain rfl := Option.some.inj happly
    rw [(boostFor_eq s.power now timeoutMs).2.1]
    exact h
  | boostEn en =>
    obtain rfl := Option.some.inj happly
    exact h
  | requestExit =>
    obtain rfl := Option.some.inj happly
    exact h
  | lockAndWait =>
    obtain ⟨loop, -, rfl⟩ := GloDroidPower.lockAndWait_eq happly
    exact h
  | wake written =>
    obtain ⟨⟨call, power⟩, hwake, rfl⟩ := Option.map_eq_some_iff.mp happly
    exact h.wake hwake

theorem filesKept_of_reachable (hnamed : WellNamed fs) {s : SysfsPower}
    (h : (sysfsMachine fs written start).Reachable s) :
    FilesKept start s.contents s.power.boosterList := by
  apply h.invariant fun s => FilesKept start s.contents s.power.boosterList
  · rintro s ⟨fuel, now, -, hs⟩
    exact filesKept_construct hnamed hs
  · exact fun s step s' hs _ hnext => filesKept_next hs hnext

/-- **The HAL changes no file but those of its devices**: whichever writes fail, each file holds
what it held at first, or it is the `min_freq` file of a device and holds what the `max_freq` file
of the device held. -/
theorem sysfs_kept (hnamed : WellNamed fs) {s : SysfsPower}
    (h : (sysfsMachine fs written start).Reachable s) (name : String) :
    s.contents name = start name ∨
      ∃ df ∈ s.power.boosterList, df.minFreq.fileName = name ∧
        s.contents name = start df.maxFreq.fileName := by
  have hkept := filesKept_of_reachable hnamed h
  by_cases hname : ∃ df ∈ s.power.boosterList, df.minFreq.fileName = name
  · obtain ⟨df, hdf, rfl⟩ := hname
    have hdevice := hkept.kept df hdf
    rw [hkept.shown df hdf]
    rcases hdevice.last with hlow | hhigh
    · left
      rw [hlow, hdevice.low]
    · right
      exact ⟨df, hdf, rfl, by rw [hhigh, hdevice.high]⟩
  · left
    apply hkept.others
    intro df hdf heq
    exact hname ⟨df, hdf, heq⟩

/-- The processor after a launch, when its frequency has been raised. -/
def raisedGpu : SysfsPower :=
  ((sysfsMachine gpuTree (fun _ => true) gpuContents).exec
    ((construct gpuTree (fun _ => true) gpuContents 3 5).get (by decide))
    [(6, .lockAndWait), (7, .boostEn true), (8, .wake fun _ => true)]).get (by decide)

theorem sysfs_kept_raised :
    raisedGpu.contents "/sys/devices/platform/gpu/min_freq" = some 480 ∧
    ∀ name, raisedGpu.contents name = gpuContents name ∨
      ∃ df ∈ raisedGpu.power.boosterList, df.minFreq.fileName = name ∧
        raisedGpu.contents name = gpuContents df.maxFreq.fileName := by
  have hstart : (sysfsMachine gpuTree (fun _ => true) gpuContents).start
      ((construct gpuTree (fun _ => true) gpuContents 3 5).get (by decide)) :=
    ⟨3, 5, by decide, (Option.some_get _).symm⟩
  exact ⟨by decide, sysfs_kept wellNamed_gpuTree (Machine.reachable_of_exec hstart _)⟩

/-! ## What the calls ask for -/

theorem filesKept_halNext {h h' : SysfsHal} {step : Int × RunStep}
    (hkept : FilesKept start h.contents h.run.gdPower.boosterList)
    (hnext : (halMachine fs written start).next h step = some h') :
    FilesKept start h'.contents h'.run.gdPower.boosterList := by
  obtain ⟨now, step⟩ := step
  obtain ⟨run, hrun, rfl⟩ := Option.map_eq_some_iff.mp hnext
  simp only [PowerRun.next] at hrun
  split_ifs at hrun
  cases step with
  | call call =>
    obtain rfl := Option.some.inj hrun
    cases call with
    | setMode type enabled => exact hkept
    | setBoost type durationMs =>
      have hlist : (h.run.power.setBoost now type durationMs).gdPower.boosterList =
          h.run.gdPower.boosterList := by
        simp only [PowerHal.setBoost]
        split_ifs
        · exact (boostFor_eq h.run.gdPower now durationMs.toInt).2.1
        · rfl
      exact hlist ▸ hkept
  | lockAndWait =>
    obtain ⟨s, hwait, rfl⟩ := Option.map_eq_some_iff.mp hrun
    obtain ⟨loop, -, rfl⟩ := GloDroidPower.lockAndWait_eq hwait
    exact hkept
  | wake =>
    obtain ⟨s, hwake, rfl⟩ := Option.map_eq_some_iff.mp hrun
    exact hkept.wake hwake

/-- The HAL over the files runs as the HAL does, with the devices that its search has found. -/
theorem halMachine_run (hnamed : WellNamed fs) {h : SysfsHal}
    (hreach : (halMachine fs written start).Reachable h) :
    runMachine.Reachable h.run ∧ FilesKept start h.contents h.run.gdPower.boosterList := by
  apply hreach.invariant fun h =>
    runMachine.Reachable h.run ∧ FilesKept start h.contents h.run.gdPower.boosterList
  · rintro h ⟨fuel, now, s, hnow, hs, rfl⟩
    -- the object that was constructed is one that the calls may start from
    obtain ⟨files, -, -, -, hpower⟩ := construct_eq hnamed hs
    refine ⟨.start ⟨files.map (foundFile written start), now, hnow, ?_⟩,
      filesKept_construct hnamed hs⟩
    rw [hpower]
  · rintro h step h' ⟨hrun, hkept⟩ - hnext
    obtain ⟨run, hstep, heq⟩ := Option.map_eq_some_iff.mp hnext
    refine ⟨hrun.step trivial (a := step) ?_, filesKept_halNext hkept hnext⟩
    rw [← heq]
    exact hstep

/-- **Sysfs follows the calls.** After an evaluation at `t`, if the calls so far ask for a boost at
`t`, the `min_freq` file of each device holds what its `max_freq` file held at first, and every
other file what it held at first; if they do not, all of sysfs is as it was found. -/
theorem sysfs_follows_calls (hnamed : WellNamed fs) {h h' : SysfsHal}
    (hreach : (halMachine fs written start).Reachable h) {t : Int}
    (hwake : (halMachine fs written start).next h (t, .wake) = some h') :
    (BoostAsked h'.run.calls t →
      (∀ df ∈ h'.run.gdPower.boosterList,
        h'.contents df.minFreq.fileName = start df.maxFreq.fileName) ∧
      ∀ name, (∀ df ∈ h'.run.gdPower.boosterList, df.minFreq.fileName ≠ name) →
        h'.contents name = start name) ∧
    (¬ BoostAsked h'.run.calls t → h'.contents = start) := by
  obtain ⟨hrun, -⟩ := halMachine_run hnamed hreach
  obtain ⟨-, hkept⟩ := halMachine_run hnamed (hreach.step trivial hwake)
  obtain ⟨run, hstep, heq⟩ := Option.map_eq_some_iff.mp hwake
  have hunion := keepsUnion_of_reachable hrun
  have hnext : runMachine.next h.run (t, .wake) = some h'.run := by
    rw [← heq]
    exact hstep
  obtain ⟨hnow, -, hcalls, -, -, hboosted, -, -⟩ := wake_next hunion.exit hnext
  -- what the worker evaluates is whether the calls ask for a boost at its time
  have hasked := hunion.boostActive (hunion.clock.trans hnow)
  rw [← hboosted, ← hcalls] at hasked
  -- the files show the last writes, which are those of this state of the boost
  have hshows : ∀ df ∈ h'.run.gdPower.boosterList, h'.contents df.minFreq.fileName =
      if h'.run.gdPower.boosted then start df.maxFreq.fileName
      else start df.minFreq.fileName := by
    intro df hdf
    obtain ⟨-, hlast⟩ := (keepsUnion_wake hunion hnext).shows df hdf
    rw [hkept.shown df hdf, hlast, (hkept.kept df hdf).high, (hkept.kept df hdf).low]
    split_ifs <;> rfl
  constructor
  · intro hask
    refine ⟨fun df hdf => ?_, hkept.others⟩
    rw [hshows df hdf, if_pos (hasked.mpr hask)]
  · intro hnot
    funext name
    by_cases hname : ∃ df ∈ h'.run.gdPower.boosterList, df.minFreq.fileName = name
    · obtain ⟨df, hdf, rfl⟩ := hname
      rw [hshows df hdf, if_neg (fun hon => hnot (hasked.mp hon))]
    · apply hkept.others
      intro df hdf heq
      exact hname ⟨df, hdf, heq⟩

end Runs

/-- The HAL that has found the processor. -/
def gpuHal : SysfsHal :=
  let s := (construct gpuTree (fun _ => true) gpuContents 3 5).get (by decide)
  { run := { power := { gdPower := s.power } }, contents := s.contents }

/-- The same when a launch has begun, and the worker waits. -/
def launchedGpu : SysfsHal :=
  ((halMachine gpuTree (fun _ => true) gpuContents).exec gpuHal
    [(6, .lockAndWait), (7, .call (.setMode .launch true))]).get (by decide)

/-- The worker raises the frequency. -/
def boostedGpu : SysfsHal :=
  ((halMachine gpuTree (fun _ => true) gpuContents).next launchedGpu (8, .wake)).get (by decide)

theorem sysfs_follows_calls_boosted :
    (∀ df ∈ boostedGpu.run.gdPower.boosterList,
      boostedGpu.contents df.minFreq.fileName = gpuContents df.maxFreq.fileName) ∧
    ∀ name, (∀ df ∈ boostedGpu.run.gdPower.boosterList, df.minFreq.fileName ≠ name) →
      boostedGpu.contents name = gpuContents name := by
  have hstart : (halMachine gpuTree (fun _ => true) gpuContents).start gpuHal :=
    ⟨3, 5, _, by decide, (Option.some_get _).symm, rfl⟩
  have hwake : (halMachine gpuTree (fun _ => true) gpuContents).next launchedGpu (8, .wake) =
      some boostedGpu := (Option.some_get _).symm
  have hasked : BoostAsked boostedGpu.run.calls 8 := .inl rfl
  exact (sysfs_follows_calls wellNamed_gpuTree (Machine.reachable_of_exec hstart _) hwake).1 hasked

end GloDroid.Power

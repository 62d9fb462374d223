import Mathlib.Algebra.Order.BigOperators.Group.List
import Mathlib.Data.Int.ConditionallyCompleteOrder
import Mathlib.Data.List.MinMax
import GloDroid.HwComposer.Selection

/-!
# The Cheapest Client Window

When there are more layers than planes, `ExtendClientRange` grows the client range by a search over
windows. This module says which windows it looks at and which one it takes:

- the windows examined are all windows of the missing size that lie in the list and contain the
  client range (`mem_examinedWindows_iff`);
- the cost it computes for each of them is the exact one, no `uint32_t` sum wraps
  (`calcPixOps_eq_windowCost`);
- it takes the first of the cheapest (`searchWindows_argmin`).
-/

namespace GloDroid.HwComposer

open GloDroid.Base

/-! ## The windows examined -/

/-- `extra_client`: the layers for which planes are missing. -/
def extraClient (usablePlanes n : Nat) (range : ClientRange) : Int :=
  n - range.size - availPlanes usablePlanes n

theorem ClientRange.eq_of_fields {w w' : ClientRange} (hstart : w.start = w'.start)
    (hsize : w.size = w'.size) : w = w' := by
  cases w
  cases w'
  exact congrArg₂ ClientRange.mk hstart hsize

/-- `steps` windows of `size` layers, from `start` on. -/
def windowsFrom (start : Int) (size : Nat) (steps : Int) : List ClientRange :=
  (List.range (toSizeT steps)).map fun i : Nat => { start := start + i, size := size }

/-- The windows `ExtendClientRange` passes to `CalcPixOps`, in order. -/
def examinedWindows (usablePlanes n : Nat) (range : ClientRange) : List ClientRange :=
  let extra := extraClient usablePlanes n range
  if range.size ≠ 0 then
    let prepend := min range.start extra
    let append := min ((n : Int) - (range.start + range.size)) extra
    let start := range.start - prepend
    let size := range.size + extra.toNat
    windowsFrom start size (1 + min (min append prepend) ((n : Int) - (start + size)))
  else windowsFrom 0 extra.toNat (1 + n - extra)

/-- A window that will do: it has the size that frees the missing planes, lies in the list and
contains the client range, if there is one. -/
structure Admissible (usablePlanes n : Nat) (range w : ClientRange) : Prop where
  size_eq : (w.size : Int) = n - usablePlanes + 1
  start_nonneg : 0 ≤ w.start
  end_le : w.start + w.size ≤ n
  contains : range.size ≠ 0 → w.start ≤ range.start ∧
    range.start + range.size ≤ w.start + w.size

theorem mem_windowsFrom_iff {start steps : Int} {size : Nat} (hsteps : 0 ≤ steps)
    (w : ClientRange) :
    w ∈ windowsFrom start size steps ↔
      w.size = size ∧ start ≤ w.start ∧ w.start < start + steps := by
  unfold windowsFrom
  rw [toSizeT_of_nonneg hsteps, List.mem_map]
  constructor
  · rintro ⟨i, hi, rfl⟩
    rw [List.mem_range] at hi
    exact ⟨rfl, by dsimp only; omega, by dsimp only; omega⟩
  · rintro ⟨rfl, hlow, hhigh⟩
    refine ⟨(w.start - start).toNat, List.mem_range.mpr (by omega), ?_⟩
    have hstart : start + ((w.start - start).toNat : Int) = w.start := by omega
    rw [hstart]

theorem windowsFrom_ne_nil (start : Int) (size : Nat) {steps : Int} (hsteps : 1 ≤ steps) :
    windowsFrom start size steps ≠ [] := by
  apply List.ne_nil_of_mem (a := { start := start, size := size })
  rw [mem_windowsFrom_iff (by omega)]
  exact ⟨rfl, le_rfl, by dsimp only; omega⟩

/-- The windows are examined from the lowest start up. -/
theorem windowsFrom_ascending (start : Int) (size : Nat) (steps : Int) :
    (windowsFrom start size steps).Pairwise fun w w' => w.start < w'.start := by
  refine List.pairwise_map.mpr (List.pairwise_lt_range.imp fun h => ?_)
  dsimp only
  omega

/-- A range that has to grow has more layers than planes around it. -/
theorem extraClient_of_grow {usablePlanes n : Nat} {range : ClientRange}
    (hgrow : 0 < extraClient usablePlanes n range) :
    extraClient usablePlanes n range = n - range.size - (usablePlanes - 1) := by
  unfold extraClient at hgrow ⊢
  obtain ⟨_, h⟩ | ⟨_, h⟩ := availPlanes_cases usablePlanes n <;> omega

/-- **The windows examined are the admissible ones**, for a range inside the list that has to
grow. -/
theorem mem_examinedWindows_iff {usablePlanes n : Nat} {range : ClientRange}
    (hplanes : 1 ≤ usablePlanes) (hrange : range.Within n)
    (hgrow : 0 < extraClient usablePlanes n range) (w : ClientRange) :
    w ∈ examinedWindows usablePlanes n range ↔ Admissible usablePlanes n range w := by
  have hmissing := extraClient_of_grow hgrow
  unfold examinedWindows
  dsimp only
  by_cases hsize : range.size ≠ 0
  · rw [if_pos hsize]
    obtain ⟨-, hzero⟩ | ⟨hpos, -, hfit⟩ := hrange
    · exact absurd hzero hsize
    rw [mem_windowsFrom_iff (by omega)]
    constructor
    · rintro ⟨hw, hlow, hhigh⟩
      exact ⟨by omega, by omega, by omega, fun _ => by omega⟩
    · rintro ⟨hw, hlow, hhigh, hcontains⟩
      obtain ⟨hbelow, habove⟩ := hcontains hsize
      exact ⟨by omega, by omega, by omega⟩
  · rw [if_neg hsize, mem_windowsFrom_iff (by omega)]
    constructor
    · rintro ⟨hw, hlow, hhigh⟩
      exact ⟨by omega, by omega, by omega, fun h => absurd h hsize⟩
    · rintro ⟨hw, hlow, hhigh, -⟩
      exact ⟨by omega, by omega, by omega⟩

theorem examinedWindows_ne_nil {usablePlanes n : Nat} {range : ClientRange}
    (hplanes : 1 ≤ usablePlanes) (hrange : range.Within n)
    (hgrow : 0 < extraClient usablePlanes n range) : examinedWindows usablePlanes n range ≠ [] := by
  have hmissing := extraClient_of_grow hgrow
  unfold examinedWindows
  dsimp only
  split_ifs with hsize
  · obtain ⟨-, hzero⟩ | ⟨hpos, -, hfit⟩ := hrange
    · exact absurd hzero hsize
    · apply windowsFrom_ne_nil
      omega
  · apply windowsFrom_ne_nil
    omega

theorem examinedWindows_ascending (usablePlanes n : Nat) (range : ClientRange) :
    (examinedWindows usablePlanes n range).Pairwise fun w w' => w.start < w'.start := by
  unfold examinedWindows
  dsimp only
  split_ifs <;> apply windowsFrom_ascending

/-! ## The exact cost -/

/-- The layers in a window. -/
def windowLayers (layers : OrderedLayers) (w : ClientRange) : List LayerRef :=
  (layers.refs.drop w.start.toNat).take w.size

/-- The pixels the client draws for a window: none when no layer of it has changed, else the area
of all its display frames. -/
def windowCost (comp : FEComposition) (layers : OrderedLayers) (w : ClientRange) : Int :=
  if ∀ r ∈ windowLayers layers w, (comp.deref r).piChanged = false then 0
  else ((windowLayers layers w).map fun r => (comp.deref r).layerData.pi.displayFrame.area).sum

section PixOps

variable {comp : FEComposition} {first size : Nat}

theorem pixOpsLoop_append (i : Nat) (acc : Int × Bool) (refs refs' : List LayerRef) :
    pixOpsLoop comp first size i acc (refs ++ refs') =
      pixOpsLoop comp first size (i + refs.length) (pixOpsLoop comp first size i acc refs)
        refs' := by
  induction refs generalizing i acc with
  | nil => rfl
  | cons r rest ih =>
    rw [List.cons_append, pixOpsLoop, pixOpsLoop, ih, List.length_cons, Nat.add_assoc,
      Nat.add_comm 1]

/-- Layers outside the window cost nothing. -/
theorem pixOpsLoop_outside {i : Nat} (acc : Int × Bool) {refs : List LayerRef}
    (h : ∀ j < refs.length, ¬ InWindow first size (i + j)) :
    pixOpsLoop comp first size i acc refs = acc := by
  induction refs generalizing i with
  | nil => rfl
  | cons r rest ih =>
    have hhead : ¬ InWindow first size i := by simpa using h 0 (Nat.succ_pos _)
    rw [pixOpsLoop, if_neg hhead]
    apply ih
    intro j hj
    have hnext := h (j + 1) (by simpa using hj)
    rwa [Nat.add_comm j, ← Nat.add_assoc] at hnext

/-- Layers inside the window add up, modulo the width of the sum. -/
theorem pixOpsLoop_inside {i : Nat} {acc : Int × Bool} {refs : List LayerRef}
    (hacc : acc.1 % 2 ^ 32 = acc.1) (h : ∀ j < refs.length, InWindow first size (i + j)) :
    pixOpsLoop comp first size i acc refs =
      ((acc.1 + (refs.map fun r => (comp.deref r).layerData.pi.displayFrame.area).sum) % 2 ^ 32,
        acc.2 && refs.all fun r => !(comp.deref r).piChanged) := by
  induction refs generalizing i acc with
  | nil =>
    rw [List.map_nil, List.sum_nil, add_zero, hacc, List.all_nil, Bool.and_true]
    rfl
  | cons r rest ih =>
    have hhead : InWindow first size i := by simpa using h 0 (Nat.succ_pos _)
    rw [pixOpsLoop, if_pos hhead, ih (Int.emod_emod_of_dvd _ dvd_rfl)]
    · rw [List.map_cons, List.sum_cons, List.all_cons, Bool.and_assoc, Int.emod_add_emod,
        Int.add_assoc]
    · intro j hj
      have hnext := h (j + 1) (by simpa using hj)
      rwa [Nat.add_comm j, ← Nat.add_assoc] at hnext

/-- The loop sums up the run of layers in the window and looks for a changed one among them. -/
theorem pixOpsLoop_split {below run above : List LayerRef} (hbelow : below.length = first)
    (hrun : run.length = size) :
    pixOpsLoop comp first size 0 (0, true) (below ++ run ++ above) =
      ((run.map fun r => (comp.deref r).layerData.pi.displayFrame.area).sum % 2 ^ 32,
        run.all fun r => !(comp.deref r).piChanged) := by
  have houtside : pixOpsLoop comp first size 0 (0, true) below = (0, true) := by
    apply pixOpsLoop_outside
    intro j hj
    unfold InWindow
    omega
  have hinside : ∀ j < run.length, InWindow first size (0 + below.length + j) := by
    intro j hj
    unfold InWindow
    omega
  rw [pixOpsLoop_append, pixOpsLoop_append, houtside, pixOpsLoop_inside (by decide) hinside,
    pixOpsLoop_outside]
  · simp
  · intro j hj
    rw [List.length_append]
    unfold InWindow
    omega

end PixOps

/-- What `CalcPixOps` computes for a window in the list: the cost, with the sum cut to 32 bits. -/
theorem calcPixOps_of_window {comp : FEComposition} {layers : OrderedLayers} {w : ClientRange}
    (hstart : 0 ≤ w.start) (hend : w.start + w.size ≤ layers.refs.length) :
    calcPixOps comp layers (toSizeT w.start) w.size true =
      if ∀ r ∈ windowLayers layers w, (comp.deref r).piChanged = false then 0
      else ((windowLayers layers w).map fun r =>
        (comp.deref r).layerData.pi.displayFrame.area).sum % 2 ^ 32 := by
  have hbelow : (layers.refs.take w.start.toNat).length = w.start.toNat := by
    rw [List.length_take]
    omega
  have hrun : ((layers.refs.drop w.start.toNat).take w.size).length = w.size := by
    rw [List.length_take, List.length_drop]
    omega
  have hloop : pixOpsLoop comp w.start.toNat w.size 0 (0, true) layers.refs =
      (((windowLayers layers w).map fun r =>
          (comp.deref r).layerData.pi.displayFrame.area).sum % 2 ^ 32,
        (windowLayers layers w).all fun r => !(comp.deref r).piChanged) := by
    conv_lhs => rw [window_split layers.refs w.start.toNat w.size]
    exact pixOpsLoop_split hbelow hrun
  unfold calcPixOps
  rw [toSizeT_of_nonneg hstart, hloop]
  simp

/-- The area of a window is at most that of all layers. -/
theorem windowArea_le_totalArea {comp : FEComposition} (hframes : comp.FramesWellFormed)
    (w : ClientRange) :
    0 ≤ ((windowLayers (orderedLayers comp) w).map fun r =>
        (comp.deref r).layerData.pi.displayFrame.area).sum ∧
      ((windowLayers (orderedLayers comp) w).map fun r =>
        (comp.deref r).layerData.pi.displayFrame.area).sum ≤ comp.totalArea := by
  have hsublist : (windowLayers (orderedLayers comp) w).Sublist (orderedLayers comp).refs :=
    (List.take_sublist _ _).trans (List.drop_sublist _ _)
  have hnonneg : ∀ a ∈ (orderedLayers comp).refs.map fun r =>
      (comp.deref r).layerData.pi.displayFrame.area, 0 ≤ a := by
    intro a ha
    obtain ⟨r, hr, rfl⟩ := List.mem_map.mp ha
    exact area_nonneg hframes hr
  constructor
  · apply List.sum_nonneg
    exact fun a ha => hnonneg a ((hsublist.map _).subset ha)
  · rw [← sum_area_refs]
    exact (hsublist.map _).sum_le_sum hnonneg

/-- **The cost is exact**: with well-formed frames of a total area below `UINT32_MAX` the sum of no
window wraps. -/
theorem calcPixOps_eq_windowCost {comp : FEComposition} {w : ClientRange}
    (hframes : comp.FramesWellFormed) (harea : comp.totalArea < uint32Max) (hstart : 0 ≤ w.start)
    (hend : w.start + w.size ≤ (orderedLayers comp).refs.length) :
    calcPixOps comp (orderedLayers comp) (toSizeT w.start) w.size true =
      windowCost comp (orderedLayers comp) w := by
  obtain ⟨hnonneg, hle⟩ := windowArea_le_totalArea hframes w
  rw [calcPixOps_of_window hstart hend, windowCost]
  split_ifs
  · rfl
  · apply Int.emod_eq_of_lt hnonneg
    unfold uint32Max at harea
    omega

/-! ## The search -/

/-- The search loop of `ExtendClientRange`, with the cost `CalcPixOps` computes for each window. -/
def searchWindows (comp : FEComposition) (layers : OrderedLayers) (clientStart : Int)
    (windows : List ClientRange) : Int :=
  (windows.foldl
    (fun (best : Int × Int) w =>
      let po := calcPixOps comp layers (toSizeT w.start) w.size true
      if po < best.1 then (po, w.start) else best)
    (uint32Max, clientStart)).2

theorem searchWindows_windowsFrom (comp : FEComposition) (layers : OrderedLayers)
    (clientStart start : Int) (size : Nat) (steps : Int) :
    searchWindows comp layers clientStart (windowsFrom start size steps) =
      (pickWindow comp layers clientStart start size steps).start := by
  unfold searchWindows windowsFrom pickWindow cheapestStart
  rw [List.foldl_map]

/-- A range that has to grow takes the start the search over the examined windows ends with. -/
theorem extendClientRange_eq_search {usablePlanes : Nat} (comp : FEComposition)
    {layers : OrderedLayers} {range : ClientRange}
    (hgrow : 0 < extraClient usablePlanes layers.refs.length range) :
    (extendClientRange usablePlanes comp layers range).start =
        searchWindows comp layers range.start
          (examinedWindows usablePlanes layers.refs.length range) ∧
      (extendClientRange usablePlanes comp layers range).size =
        range.size + (extraClient usablePlanes layers.refs.length range).toNat := by
  unfold extendClientRange examinedWindows
  unfold extraClient at hgrow ⊢
  dsimp only
  rw [if_pos hgrow]
  split_ifs with hsize
  · rw [searchWindows_windowsFrom]
    exact ⟨rfl, rfl⟩
  · rw [searchWindows_windowsFrom, pickWindow_size]
    refine ⟨rfl, ?_⟩
    omega

/-- From a window on, the search ends with the first of the least cost among it and those that
follow. -/
theorem foldl_search_argAux (cost : ClientRange → Int) (w : ClientRange) (rest : List ClientRange) :
    ∃ m, rest.foldl (List.argAux fun b c => cost b < cost c) (some w) = some m ∧
      rest.foldl (fun (best : Int × Int) w => if cost w < best.1 then (cost w, w.start) else best)
        (cost w, w.start) = (cost m, m.start) := by
  induction rest generalizing w with
  | nil => exact ⟨w, rfl, rfl⟩
  | cons w' rest ih =>
    rw [List.foldl_cons, List.foldl_cons]
    by_cases hlt : cost w' < cost w
    · obtain ⟨m, harg, hfold⟩ := ih w'
      refine ⟨m, ?_, ?_⟩
      · simpa [List.argAux, hlt] using harg
      · simpa [hlt] using hfold
    · obtain ⟨m, harg, hfold⟩ := ih w
      refine ⟨m, ?_, ?_⟩
      · simpa [List.argAux, hlt] using harg
      · simpa [hlt] using hfold

/-- **The search ends with the first cheapest window**, when there is one and each costs less than
the initial value. -/
theorem searchWindows_argmin {comp : FEComposition} {layers : OrderedLayers} (clientStart : Int)
    {windows : List ClientRange} (hne : windows ≠ [])
    (hcost : ∀ w ∈ windows, calcPixOps comp layers (toSizeT w.start) w.size true < uint32Max) :
    ∃ m, windows.argmin (fun w => calcPixOps comp layers (toSizeT w.start) w.size true) = some m ∧
      searchWindows comp layers clientStart windows = m.start := by
  obtain ⟨w, rest, rfl⟩ := List.exists_cons_of_ne_nil hne
  obtain ⟨m, harg, hfold⟩ := foldl_search_argAux
    (fun w => calcPixOps comp layers (toSizeT w.start) w.size true) w rest
  refine ⟨m, harg, ?_⟩
  unfold searchWindows
  rw [List.foldl_cons, if_pos (hcost w List.mem_cons_self), hfold]

/-- In a list of windows with ascending starts the first of two is the lower one. -/
theorem start_le_of_idxOf_le {windows : List ClientRange}
    (hasc : windows.Pairwise fun w w' => w.start < w'.start) {m w : ClientRange}
    (hm : m ∈ windows) (hw : w ∈ windows) (h : windows.idxOf m ≤ windows.idxOf w) :
    m.start ≤ w.start := by
  rcases h.lt_or_eq with hlt | heq
  · have hlow := List.pairwise_iff_getElem.mp hasc _ _ (List.idxOf_lt_length_of_mem hm)
      (List.idxOf_lt_length_of_mem hw) hlt
    rw [List.getElem_idxOf, List.getElem_idxOf] at hlow
    exact hlow.le
  · rw [(List.idxOf_inj hm).mp heq]

/-- **The client range grows to the cheapest admissible window**: with at least one plane and
well-formed frames of a total area below `UINT32_MAX`, for any layers, the windows examined are
all windows of the missing size around the client range, the cost computed for each is the exact
one, and the window taken costs least, the lowest of those that cost the same. -/
theorem extendClientRange_cheapest {usablePlanes : Nat} (comp : FEComposition)
    (hplanes : 1 ≤ usablePlanes) (hframes : comp.FramesWellFormed)
    (harea : comp.totalArea < 2 ^ 32 - 1)
    (hgrow : 0 < extraClient usablePlanes (orderedLayers comp).refs.length
      (getOrderedLayers comp).2) :
    let layers := orderedLayers comp
    let range := (getOrderedLayers comp).2
    let examined := examinedWindows usablePlanes layers.refs.length range
    let selected := extendClientRange usablePlanes comp layers range
    (∀ w, w ∈ examined ↔ Admissible usablePlanes layers.refs.length range w) ∧
      (∀ w ∈ examined, calcPixOps comp layers (toSizeT w.start) w.size true =
        windowCost comp layers w) ∧
      selected.start = searchWindows comp layers range.start examined ∧
      selected ∈ examined ∧
      ∀ w ∈ examined, windowCost comp layers selected < windowCost comp layers w ∨
        (windowCost comp layers selected = windowCost comp layers w ∧
          selected.start ≤ w.start) := by
  intro layers range examined selected
  have hwithin : range.Within layers.refs.length := (getOrderedLayers_range comp).1
  have hadmissible := mem_examinedWindows_iff hplanes hwithin hgrow
  have hexact : ∀ w ∈ examined, calcPixOps comp layers (toSizeT w.start) w.size true =
      windowCost comp layers w := by
    intro w hw
    obtain ⟨-, hstart, hend, -⟩ := (hadmissible w).mp hw
    exact calcPixOps_eq_windowCost hframes harea hstart hend
  obtain ⟨m, hargmin, hsearch⟩ := searchWindows_argmin range.start
    (examinedWindows_ne_nil hplanes hwithin hgrow)
    fun w _ => calcPixOps_lt hframes harea (toSizeT w.start) w.size true
  obtain ⟨hm, hleast, hfirst⟩ := List.argmin_eq_some_iff.mp hargmin
  obtain ⟨hstart, hsize⟩ := extendClientRange_eq_search comp hgrow
  -- the range taken is the first cheapest window
  have hselected : selected = m := by
    have hmsize : (m.size : Int) = (orderedLayers comp).refs.length - usablePlanes + 1 :=
      ((hadmissible m).mp hm).size_eq
    have hmissing := extraClient_of_grow hgrow
    show extendClientRange usablePlanes comp layers range = m
    apply ClientRange.eq_of_fields (hstart.trans hsearch)
    rw [hsize]
    omega
  rw [hselected]
  refine ⟨hadmissible, hexact, hselected ▸ hstart, hm, fun w hw => ?_⟩
  have hle := hleast w hw
  rw [hexact m hm, hexact w hw] at hle
  rcases hle.lt_or_eq with hlt | heq
  · exact Or.inl hlt
  · refine Or.inr ⟨heq, start_le_of_idxOf_le (examinedWindows_ascending _ _ _) hm hw ?_⟩
    apply hfirst w hw
    rw [hexact m hm, hexact w hw]
    exact heq.ge

/-- Three layers on two planes: the two small windows cost the same and the lower one is taken. -/
theorem extendClientRange_cheapest_threeLayers :
    extendClientRange 2 threeLayers (orderedLayers threeLayers) (getOrderedLayers threeLayers).2 ∈
      examinedWindows 2 3 (getOrderedLayers threeLayers).2 :=
  (extendClientRange_cheapest threeLayers (by decide) (by decide) (by decide)
    (by decide)).2.2.2.1

end GloDroid.HwComposer

import GloDroid.GadgetHal.Gadget

/-!
# Restarts of the Endpoint Owner

The monitor thread against the endpoint files themselves. `startMonitorFd` does not read what an
inotify event says: for each event it looks whether the files are there, one `access` after the
other, while their owner goes away and comes back. An absence that begins and ends between two
looks leaves `writeUdc` clear, and so does one that ends between the write to the UDC file and the
clearing of the flag. These are the only ways to miss a restart (`pulledUp_after_restart`).

The sleeps only delay the next step. The time of the disconnect decides about one of them and is
left out. `UsbGadget` has the same thread with the whole look as one step; `monitor_simulated`
connects the two.
-/

namespace GloDroid.GadgetHal

open GloDroid.Base

/-! ## The monitor thread and its files -/

/-- Where `startMonitorFd` is. -/
inductive EndpointPhase where
  /-- In the loop over the endpoint list, at the start or for an event, before the rest of it. -/
  | check (atStart : Bool) (rest : List String)
  /-- All files were there: it sleeps and then writes the UDC file. -/
  | pullUp
  /-- The UDC file is written: it takes `mLock` and reports. -/
  | report
  /-- Before the next event of the buffer; in `epoll_wait` when there is none. -/
  | nextEvent
  | exited
  deriving DecidableEq, Repr

/-- The monitor thread, the files it looks at, and what has been observed of its writes: whether the
UDC file was written since some endpoint was last absent, and whether the last attempt failed. -/
structure EndpointMonitor where
  /-- The files that can be accessed. -/
  present : String → Bool
  /-- The inotify events that are queued, and those read into `buf`. -/
  queue : Nat
  buf : Nat := 0
  phase : EndpointPhase
  writeUdc : Bool := true
  stopMonitor : Bool := false
  pulledUp : Bool := false
  writeFailed : Bool := false

/-- What happens to the files, and the steps of the thread. -/
inductive EndpointStep where
  | disappear (file : String)
  | appear (file : String)
  /-- Another event in the watched directories. -/
  | otherEvent
  /-- `reset` writes `mEventFd`. -/
  | signal
  /-- The next `access`, or the end of the loop over the list. -/
  | access
  | writeUdc (ok : Bool)
  | report
  /-- `read` from `mInotifyFd` returns that many events. -/
  | readEvents (n : Nat)
  | nextEvent
  /-- The event of `mEventFd` is read. -/
  | readEventFd
  deriving DecidableEq, Repr

namespace EndpointMonitor

/-- All endpoint files are there. -/
def allPresent (s : EndpointMonitor) (endpoints : List String) : Bool := endpoints.all s.present

/-- A file comes or goes; inotify queues an event. -/
def setPresent (s : EndpointMonitor) (file : String) (there : Bool) : EndpointMonitor :=
  { s with
    present := fun f => if f = file then there else s.present f
    queue := s.queue + 1 }

/-- A step of the loop that looks for the endpoint files. -/
def access (s : EndpointMonitor) : Option EndpointMonitor :=
  match s.phase with
  | .check atStart [] =>
    some { s with phase := if atStart || s.writeUdc then .pullUp else .nextEvent }
  | .check atStart (ep :: rest) =>
    if s.present ep then some { s with phase := .check atStart rest }
    -- "endpoints not up"
    else some { s with writeUdc := s.writeUdc || !atStart, phase := .nextEvent }
  | _ => none

/-- A step. -/
def next (endpoints : List String) (s : EndpointMonitor) : EndpointStep → Option EndpointMonitor
  | .disappear file =>
    if s.present file then
      some { s.setPresent file false with pulledUp := s.pulledUp && !endpoints.contains file }
    else none
  | .appear file => if s.present file then none else some (s.setPresent file true)
  | .otherEvent => some { s with queue := s.queue + 1 }
  | .signal => some { s with stopMonitor := true }
  | .access => s.access
  | .writeUdc ok =>
    if s.phase = .pullUp then
      some (if ok then
          { s with phase := .report, pulledUp := s.allPresent endpoints, writeFailed := false }
        else { s with phase := .nextEvent, writeFailed := true })
    else none
  | .report =>
    if s.phase = .report then some { s with writeUdc := false, phase := .nextEvent } else none
  | .readEvents n =>
    if s.phase = .nextEvent ∧ s.buf = 0 ∧ 0 < n ∧ n ≤ s.queue then
      some { s with queue := s.queue - n, buf := n }
    else none
  | .nextEvent =>
    if s.phase = .nextEvent ∧ 0 < s.buf then
      some { s with buf := s.buf - 1, phase := .check false endpoints }
    else none
  | .readEventFd =>
    if s.phase = .nextEvent ∧ s.buf = 0 ∧ s.stopMonitor = true then
      some { s with stopMonitor := false, phase := .exited }
    else none

/-- In `epoll_wait` with no event left. -/
def drained (s : EndpointMonitor) : Bool :=
  s.phase = .nextEvent && s.buf = 0 && s.queue = 0

end EndpointMonitor

/-- The thread from its start on, with any files and any events already queued. -/
def endpointMachine (endpoints : List String) : Machine EndpointMonitor EndpointStep where
  start s := ∃ present queue, s = { present, queue, phase := .check true endpoints }
  next := EndpointMonitor.next endpoints

namespace EndpointMonitor

/-- What a step does, branch by branch. -/
inductive StepsTo (endpoints : List String) (s : EndpointMonitor) :
    EndpointStep → EndpointMonitor → Prop where
  | disappear (file : String) : StepsTo endpoints s (.disappear file)
      { s.setPresent file false with pulledUp := s.pulledUp && !endpoints.contains file }
  | appear (file : String) : StepsTo endpoints s (.appear file) (s.setPresent file true)
  | otherEvent : StepsTo endpoints s .otherEvent { s with queue := s.queue + 1 }
  | signal : StepsTo endpoints s .signal { s with stopMonitor := true }
  /-- All files were there, and the UDC file is to be written. -/
  | passed (atStart : Bool) (hphase : s.phase = .check atStart [])
      (hwrite : (atStart || s.writeUdc) = true) :
      StepsTo endpoints s .access { s with phase := .pullUp }
  /-- All files were there, as before. -/
  | unchanged (hphase : s.phase = .check false []) (hclear : s.writeUdc = false) :
      StepsTo endpoints s .access { s with phase := .nextEvent }
  | found {atStart : Bool} {ep : String} {rest : List String}
      (hphase : s.phase = .check atStart (ep :: rest)) :
      StepsTo endpoints s .access { s with phase := .check atStart rest }
  | absent {atStart : Bool} {ep : String} {rest : List String}
      (hphase : s.phase = .check atStart (ep :: rest)) (habsent : s.present ep = false) :
      StepsTo endpoints s .access
        { s with writeUdc := s.writeUdc || !atStart, phase := .nextEvent }
  | written (hphase : s.phase = .pullUp) : StepsTo endpoints s (.writeUdc true)
      { s with phase := .report, pulledUp := s.allPresent endpoints, writeFailed := false }
  | notWritten (hphase : s.phase = .pullUp) : StepsTo endpoints s (.writeUdc false)
      { s with phase := .nextEvent, writeFailed := true }
  | report (hphase : s.phase = .report) :
      StepsTo endpoints s .report { s with writeUdc := false, phase := .nextEvent }
  | readEvents (n : Nat) (hphase : s.phase = .nextEvent) (hn : 0 < n ∧ n ≤ s.queue) :
      StepsTo endpoints s (.readEvents n) { s with queue := s.queue - n, buf := n }
  | nextEvent (hphase : s.phase = .nextEvent) : StepsTo endpoints s .nextEvent
      { s with buf := s.buf - 1, phase := .check false endpoints }
  | readEventFd (hphase : s.phase = .nextEvent) (hstop : s.stopMonitor = true) :
      StepsTo endpoints s .readEventFd { s with stopMonitor := false, phase := .exited }

theorem stepsTo_of_next {endpoints : List String} {s s' : EndpointMonitor} {step : EndpointStep}
    (h : (endpointMachine endpoints).next s step = some s') : StepsTo endpoints s step s' := by
  cases step with
  | access =>
    simp only [endpointMachine, next, access] at h
    split at h
    case h_1 atStart hphase =>
      obtain rfl := Option.some.inj h
      split_ifs with hwrite
      · exact .passed atStart hphase hwrite
      · simp only [Bool.not_eq_true, Bool.or_eq_false_iff] at hwrite
        exact .unchanged (hwrite.1 ▸ hphase) hwrite.2
    case h_2 atStart ep rest hphase =>
      split_ifs at h with hpresent
      · exact Option.some.inj h ▸ .found hphase
      · exact Option.some.inj h ▸ .absent hphase (by simpa using hpresent)
    case h_3 => cases h
  | writeUdc ok =>
    simp only [endpointMachine, next] at h
    split_ifs at h with hphase hok
    · obtain rfl := hok
      exact Option.some.inj h ▸ .written hphase
    · obtain rfl : ok = false := by simpa using hok
      exact Option.some.inj h ▸ .notWritten hphase
  | disappear file =>
    simp only [endpointMachine, next] at h
    split_ifs at h
    exact Option.some.inj h ▸ .disappear file
  | appear file =>
    simp only [endpointMachine, next] at h
    split_ifs at h
    exact Option.some.inj h ▸ .appear file
  | otherEvent => exact Option.some.inj h ▸ .otherEvent
  | signal => exact Option.some.inj h ▸ .signal
  | report =>
    simp only [endpointMachine, next] at h
    split_ifs at h with hphase
    exact Option.some.inj h ▸ .report hphase
  | readEvents n =>
    simp only [endpointMachine, next] at h
    split_ifs at h with hphase
    exact Option.some.inj h ▸ .readEvents n hphase.1 hphase.2.2
  | nextEvent =>
    simp only [endpointMachine, next] at h
    split_ifs at h with hphase
    exact Option.some.inj h ▸ .nextEvent hphase.1
  | readEventFd =>
    simp only [endpointMachine, next] at h
    split_ifs at h with hphase
    exact Option.some.inj h ▸ .readEventFd hphase.1 hphase.2.2

end EndpointMonitor

/-! ## The thread of `UsbGadget` -/

/-- The phase in the model that takes a whole look as one step. -/
def EndpointPhase.coarse : EndpointPhase → MonitorPhase
  | .check true _ => .starting
  | .check false _ => .polling
  | .pullUp => .pullUp
  | .report => .report
  | .nextEvent => .polling
  | .exited => .exited

namespace EndpointMonitor

/-- The gadget has this monitor thread. -/
structure RunsIn (endpoints : List String) (s : EndpointMonitor) (g : UsbGadget) : Prop where
  endpointList : g.endpointList = endpoints
  monitor : g.monitor = s.phase.coarse
  writeUdc : g.writeUdc = s.writeUdc
  stopMonitor : g.stopMonitor = s.stopMonitor
  /-- The loop looks at endpoints only. -/
  check : ∀ atStart rest, s.phase = .check atStart rest → ∀ ep ∈ rest, ep ∈ endpoints

/-- A look that finds all files, where a write follows. -/
theorem coarse_look_passed {s : EndpointMonitor} {g : UsbGadget} {atStart : Bool}
    {rest : List String} {controller : String} (hmonitor : g.monitor = s.phase.coarse)
    (hphase : s.phase = .check atStart rest) (hwrite : (atStart || g.writeUdc) = true) :
    g.monitorStep controller (.access fun _ => true) = some { g with monitor := .pullUp } := by
  rw [hphase] at hmonitor
  cases atStart with
  | true => simp [UsbGadget.monitorStep, show g.monitor = .starting from hmonitor]
  | false =>
    have hset : g.writeUdc = true := hwrite
    simp [UsbGadget.monitorStep, show g.monitor = .polling from hmonitor, hset]

/-- A look that misses an endpoint. -/
theorem coarse_look_failed {s : EndpointMonitor} {g : UsbGadget} {atStart : Bool}
    {rest : List String} {ep controller : String} (hmonitor : g.monitor = s.phase.coarse)
    (hphase : s.phase = .check atStart rest) (hep : ep ∈ g.endpointList) :
    g.monitorStep controller (.access fun f => f ≠ ep) =
      some { g with monitor := .polling, writeUdc := g.writeUdc || !atStart } := by
  have habsent : (g.endpointList.all fun f => decide (f ≠ ep)) = false :=
    List.all_eq_false.mpr ⟨ep, hep, by simp⟩
  rw [hphase] at hmonitor
  cases atStart with
  | true =>
    have hstarting : g.monitor = .starting := hmonitor
    simp only [UsbGadget.monitorStep, hstarting, habsent]
    simp
  | false =>
    have hpolling : g.monitor = .polling := hmonitor
    cases hflag : g.writeUdc with
    | true =>
      simp only [UsbGadget.monitorStep, hpolling, habsent, hflag]
      show some g = some { g with monitor := .polling, writeUdc := true }
      rw [← hpolling, ← hflag]
    | false =>
      simp only [UsbGadget.monitorStep, hpolling, habsent, hflag]
      rfl

/-- **The look as one step**: every step of the thread, and every change of the files, is a step of
the gadget's monitor or none. -/
theorem monitor_simulated {endpoints : List String} {s s' : EndpointMonitor} {step : EndpointStep}
    {g : UsbGadget} (h : RunsIn endpoints s g) (hstep : step ≠ .signal)
    (hnext : (endpointMachine endpoints).next s step = some s') (controller : String) :
    RunsIn endpoints s' g ∨
      ∃ coarse g', g.monitorStep controller coarse = some g' ∧ RunsIn endpoints s' g' := by
  obtain ⟨hlist, hmonitor, hflag, hstop, hcheck⟩ := h
  cases stepsTo_of_next hnext with
  | signal => exact absurd rfl hstep
  | disappear | appear | otherEvent | readEvents =>
    exact Or.inl ⟨hlist, hmonitor, hflag, hstop, hcheck⟩
  | passed atStart hphase hwrite =>
    -- the gadget's monitor looks at all endpoints at once, when the last one was found
    refine Or.inr ⟨.access fun _ => true, { g with monitor := .pullUp }, ?_, ?_⟩
    · exact coarse_look_passed hmonitor hphase (hflag ▸ hwrite)
    · exact ⟨hlist, rfl, hflag, hstop, by simp⟩
  | unchanged hphase _ =>
    refine Or.inl ⟨hlist, ?_, hflag, hstop, by simp⟩
    rw [hmonitor, hphase]
    rfl
  | @found atStart ep rest hphase =>
    refine Or.inl ⟨hlist, ?_, hflag, hstop, ?_⟩
    · rw [hmonitor, hphase]
      cases atStart <;> rfl
    · rintro b rest' hp
      obtain ⟨-, rfl⟩ := EndpointPhase.check.inj hp
      exact fun ep' hep' => hcheck atStart _ hphase ep' (List.mem_cons_of_mem _ hep')
  | @absent atStart ep rest hphase _ =>
    -- one that is missing ends the look, whatever the others are
    have hep : ep ∈ g.endpointList := hlist ▸ hcheck atStart _ hphase ep List.mem_cons_self
    refine Or.inr ⟨.access fun f => f ≠ ep,
      { g with monitor := .polling, writeUdc := g.writeUdc || !atStart }, ?_, ?_⟩
    · exact coarse_look_failed hmonitor hphase hep
    · refine ⟨hlist, rfl, ?_, hstop, by simp⟩
      show (g.writeUdc || !atStart) = (s.writeUdc || !atStart)
      rw [hflag]
  | written hphase =>
    refine Or.inr ⟨.writeUdc true, { g with udc := controller, monitor := .report }, ?_, ?_⟩
    · simp [UsbGadget.monitorStep, hmonitor, hphase, EndpointPhase.coarse]
    · exact ⟨hlist, rfl, hflag, hstop, by simp⟩
  | notWritten hphase =>
    refine Or.inr ⟨.writeUdc false, { g with monitor := .polling }, ?_, ?_⟩
    · simp [UsbGadget.monitorStep, hmonitor, hphase, EndpointPhase.coarse]
    · exact ⟨hlist, rfl, hflag, hstop, by simp⟩
  | report hphase =>
    have hreport : g.monitor = .report := by rw [hmonitor, hphase]; rfl
    refine Or.inr ⟨.report, _, if_pos hreport, ?_⟩
    exact ⟨hlist, rfl, rfl, hstop, by simp⟩
  | nextEvent hphase =>
    refine Or.inl ⟨hlist, ?_, hflag, hstop, ?_⟩
    · rw [hmonitor, hphase]
      rfl
    · rintro atStart rest hp
      obtain ⟨-, rfl⟩ := EndpointPhase.check.inj hp
      exact fun ep hep => hep
  | readEventFd hphase hstopped =>
    refine Or.inr ⟨.readEvent, { g with stopMonitor := false, monitor := .exited }, ?_, ?_⟩
    · simp [UsbGadget.monitorStep, hmonitor, hphase, EndpointPhase.coarse, hstop, hstopped]
    · exact ⟨hlist, rfl, hflag, rfl, by simp⟩

/-! ## Absences that are noticed -/

/-- With this file back, no endpoint is absent any more. -/
def completes (s : EndpointMonitor) (endpoints : List String) (file : String) : Bool :=
  !s.allPresent endpoints && (s.setPresent file true).allPresent endpoints

/-- An absence ends only after the thread has noticed it: `writeUdc` is set, and the thread is not
about to clear it. -/
def AbsenceNoticed (endpoints : List String) (s : EndpointMonitor) : EndpointStep → Prop
  | .appear file => s.completes endpoints file = true → s.phase ≠ .exited →
    s.writeUdc = true ∧ s.phase ≠ .report
  | _ => True

instance (endpoints : List String) (s : EndpointMonitor) (step : EndpointStep) :
    Decidable (AbsenceNoticed endpoints s step) :=
  match step with
  | .appear _ => inferInstanceAs (Decidable (_ → _))
  | .disappear _ | .otherEvent | .signal | .access | .writeUdc _ | .report | .readEvents _
  | .nextEvent | .readEventFd => inferInstanceAs (Decidable True)

/-- The thread looks at the files, or is going to: the next write comes after the present moment. -/
def Looking (s : EndpointMonitor) : Prop :=
  s.writeUdc = true ∧ s.phase ≠ .report ∧ (s.phase = .nextEvent → 0 < s.queue + s.buf)

/-- The UDC file was written since the last absence, or will be unless a write fails. -/
def Served (endpoints : List String) (s : EndpointMonitor) : Prop :=
  s.allPresent endpoints = true → s.phase ≠ .exited →
    s.pulledUp = true ∨ s.writeFailed = true ∨ s.Looking

/-- What holds in every run. -/
structure MonitorInv (endpoints : List String) (s : EndpointMonitor) : Prop where
  pulledUp : s.pulledUp = true → s.allPresent endpoints = true
  writeFailed : s.writeFailed = true → s.writeUdc = true ∧ s.phase ≠ .report
  /-- The flag is set wherever a write may follow. -/
  writeUdc : (s.phase = .pullUp ∨ ∃ rest, s.phase = .check true rest) → s.writeUdc = true
  /-- The loop looks at endpoints only. -/
  check : ∀ atStart rest, s.phase = .check atStart rest → ∀ ep ∈ rest, ep ∈ endpoints

theorem setPresent_allPresent_of_false {s : EndpointMonitor} {endpoints : List String}
    {file : String} (hmem : file ∈ endpoints) :
    (s.setPresent file false).allPresent endpoints = false := by
  rw [allPresent, List.all_eq_false]
  exact ⟨file, hmem, by simp [setPresent]⟩

/-- Files that are no endpoints do not matter. -/
theorem setPresent_allPresent_of_not_mem {s : EndpointMonitor} {endpoints : List String}
    {file : String} {there : Bool} (hmem : file ∉ endpoints) :
    (s.setPresent file there).allPresent endpoints = s.allPresent endpoints := by
  unfold allPresent
  rw [Bool.eq_iff_iff, List.all_eq_true, List.all_eq_true]
  refine forall₂_congr fun ep hep => ?_
  have hne : ep ≠ file := fun heq => hmem (heq ▸ hep)
  simp [setPresent, hne]

/-- A file that comes back makes nothing absent. -/
theorem setPresent_allPresent_of_true {s : EndpointMonitor} {endpoints : List String}
    {file : String} (h : s.allPresent endpoints = true) :
    (s.setPresent file true).allPresent endpoints = true := by
  rw [allPresent, List.all_eq_true] at h ⊢
  intro ep hep
  simp only [setPresent]
  split_ifs
  · rfl
  · exact h ep hep

variable {endpoints : List String} {s s' : EndpointMonitor} {step : EndpointStep}

theorem monitorInv_start (h : (endpointMachine endpoints).start s) : MonitorInv endpoints s := by
  obtain ⟨present, queue, rfl⟩ := h
  refine ⟨nofun, nofun, fun _ => rfl, ?_⟩
  rintro atStart rest hphase
  obtain ⟨-, rfl⟩ := EndpointPhase.check.inj hphase
  exact fun ep hep => hep

/-- Where a look is followed by a write, the flag is set, also at the start. -/
theorem MonitorInv.writeUdc_of_passed (h : MonitorInv endpoints s) {atStart : Bool}
    (hphase : s.phase = .check atStart []) (hwrite : (atStart || s.writeUdc) = true) :
    s.writeUdc = true := by
  rcases Bool.or_eq_true_iff.mp hwrite with rfl | hset
  · exact h.writeUdc (Or.inr ⟨[], hphase⟩)
  · exact hset

/-- **Every step keeps the invariant.** -/
theorem MonitorInv.next (h : MonitorInv endpoints s)
    (hnext : (endpointMachine endpoints).next s step = some s') : MonitorInv endpoints s' := by
  have hpassed := @h.writeUdc_of_passed
  obtain ⟨hpulled, hfailed, hflag, hcheck⟩ := h
  cases stepsTo_of_next hnext with
  | disappear file =>
    refine ⟨fun hp => ?_, hfailed, hflag, hcheck⟩
    -- the file is no endpoint
    simp only [Bool.and_eq_true, Bool.not_eq_true', List.contains_eq_mem,
      decide_eq_false_iff_not] at hp
    exact (setPresent_allPresent_of_not_mem hp.2).trans (hpulled hp.1)
  | appear file =>
    exact ⟨fun hp => setPresent_allPresent_of_true (hpulled hp), hfailed, hflag, hcheck⟩
  | otherEvent | signal | readEvents => exact ⟨hpulled, hfailed, hflag, hcheck⟩
  | passed atStart hphase hwrite =>
    exact ⟨hpulled, fun hf => ⟨(hfailed hf).1, by simp⟩, fun _ => hpassed hphase hwrite, by simp⟩
  | unchanged =>
    exact ⟨hpulled, fun hf => ⟨(hfailed hf).1, by simp⟩, by simp, by simp⟩
  | @found atStart ep rest hphase =>
    refine ⟨hpulled, fun hf => ⟨(hfailed hf).1, by simp⟩, ?_, ?_⟩
    · rintro (hp | ⟨rest', hp⟩)
      · cases hp
      · obtain ⟨rfl, -⟩ := EndpointPhase.check.inj hp
        exact hflag (Or.inr ⟨_, hphase⟩)
    · rintro b rest' hp
      obtain ⟨-, rfl⟩ := EndpointPhase.check.inj hp
      exact fun ep' hep' => hcheck atStart _ hphase ep' (List.mem_cons_of_mem _ hep')
  | absent =>
    exact ⟨hpulled, fun hf => ⟨by simp [(hfailed hf).1], by simp⟩, by simp, by simp⟩
  | written hphase => exact ⟨id, nofun, by simp, by simp⟩
  | notWritten hphase =>
    exact ⟨hpulled, fun _ => ⟨hflag (Or.inl hphase), by simp⟩, by simp, by simp⟩
  | report hphase =>
    exact ⟨hpulled, fun hf => absurd hphase (hfailed hf).2, by simp, by simp⟩
  | nextEvent hphase =>
    refine ⟨hpulled, fun hf => ⟨(hfailed hf).1, by simp⟩, by simp, ?_⟩
    rintro b rest hp
    obtain ⟨-, rfl⟩ := EndpointPhase.check.inj hp
    exact fun ep hep => hep
  | readEventFd =>
    exact ⟨hpulled, fun hf => ⟨(hfailed hf).1, by simp⟩, by simp, by simp⟩

/-- An event that arrives keeps the thread looking. -/
theorem Looking.queue (h : s.Looking) {present : String → Bool} {pulledUp : Bool} :
    Looking { s with present, pulledUp, queue := s.queue + 1 } :=
  ⟨h.1, h.2.1, fun _ => by show 0 < s.queue + 1 + s.buf; omega⟩

/-- **Every absence that is noticed is served.** -/
theorem Served.next (h : Served endpoints s) (hinv : MonitorInv endpoints s)
    (hok : AbsenceNoticed endpoints s step)
    (hnext : (endpointMachine endpoints).next s step = some s') : Served endpoints s' := by
  intro hall hrunning
  cases stepsTo_of_next hnext with
  | disappear file =>
    by_cases hmem : file ∈ endpoints
    · -- an endpoint is absent now
      have habsent := setPresent_allPresent_of_false (s := s) hmem
      rw [show (s.setPresent file false).allPresent endpoints = true from hall] at habsent
      cases habsent
    · have hall₀ : s.allPresent endpoints = true :=
        (setPresent_allPresent_of_not_mem hmem).symm.trans hall
      rcases h hall₀ hrunning with hp | hf | hlook
      · exact Or.inl (by simp [hp, hmem])
      · exact Or.inr (Or.inl hf)
      · exact Or.inr (Or.inr hlook.queue)
  | appear file =>
    cases hall₀ : s.allPresent endpoints with
    | true => exact (h hall₀ hrunning).imp id (Or.imp id fun hlook => hlook.queue)
    | false =>
      -- the last absence ends here, with the thread still to look at its event
      obtain ⟨hflag, hphase⟩ := hok (by simp [completes, hall₀, hall]) hrunning
      refine Or.inr (Or.inr ⟨hflag, hphase, fun _ => ?_⟩)
      show 0 < s.queue + 1 + s.buf
      omega
  | otherEvent => exact (h hall hrunning).imp id (Or.imp id fun hlook => hlook.queue)
  | signal => exact h hall hrunning
  | passed _ hphase =>
    refine (h hall (by simp [hphase])).imp id (Or.imp id ?_)
    exact fun hlook => ⟨hlook.1, by simp, by simp⟩
  | unchanged hphase hclear =>
    refine (h hall (by simp [hphase])).imp id (Or.imp id ?_)
    -- a thread that is going to write does not find the flag clear
    rintro ⟨hset, -, -⟩
    rw [hclear] at hset
    cases hset
  | found hphase =>
    refine (h hall (by simp [hphase])).imp id (Or.imp id ?_)
    exact fun hlook => ⟨hlook.1, by simp, by simp⟩
  | absent hphase habsent =>
    have hep := hinv.check _ _ hphase _ List.mem_cons_self
    have hpresent := List.all_eq_true.mp hall _ hep
    exact absurd hpresent (by simp [habsent])
  | written => exact Or.inl hall
  | notWritten => exact Or.inr (Or.inl rfl)
  | report hphase =>
    rcases h hall (by simp [hphase]) with hp | hf | hlook
    · exact Or.inl hp
    · exact Or.inr (Or.inl hf)
    · exact absurd hphase hlook.2.1
  | readEvents n hphase hn =>
    refine (h hall hrunning).imp id (Or.imp id fun hlook => ⟨hlook.1, hlook.2.1, fun _ => ?_⟩)
    show 0 < s.queue - n + n
    omega
  | nextEvent hphase =>
    refine (h hall (by simp [hphase])).imp id (Or.imp id fun hlook => ⟨hlook.1, ?_⟩)
    exact ⟨by simp, by simp⟩
  | readEventFd => exact absurd rfl hrunning

/-! ## Absences that are missed -/

/-- All endpoints are back, nothing was written since, and the thread is not going to look. -/
structure Missed (endpoints : List String) (s : EndpointMonitor) : Prop where
  allPresent : s.allPresent endpoints = true
  notPulledUp : s.pulledUp = false
  notFailed : s.writeFailed = false
  idle : s.phase ≠ .exited → s.writeUdc = false ∨ s.phase = .report

/-- An absence that ends unnoticed is missed. -/
theorem missed_of_not_noticed {file : String} (hinv : MonitorInv endpoints s)
    (hbad : ¬ AbsenceNoticed endpoints s (.appear file))
    (hnext : (endpointMachine endpoints).next s (.appear file) = some s') :
    Missed endpoints s' := by
  simp only [AbsenceNoticed, Classical.not_imp, not_and_or, not_not] at hbad
  obtain ⟨hcompletes, -, hidle⟩ := hbad
  simp only [completes, Bool.and_eq_true, Bool.not_eq_true'] at hcompletes
  obtain ⟨habsent, hall⟩ := hcompletes
  cases stepsTo_of_next hnext
  refine ⟨hall, ?_, ?_, fun _ => hidle.imp_left (Bool.not_eq_true _).mp⟩
  · -- nothing written counts while an endpoint is absent
    cases hp : s.pulledUp with
    | false => exact hp
    | true =>
      rw [hinv.pulledUp hp] at habsent
      cases habsent
  · cases hf : s.writeFailed with
    | false => exact hf
    | true =>
      obtain ⟨hset, hphase⟩ := hinv.writeFailed hf
      exact absurd hidle (by simp [hset, hphase])

/-- A missed restart stays missed as long as no endpoint goes away again. -/
theorem Missed.next (h : Missed endpoints s) (hinv : MonitorInv endpoints s)
    (hstep : ∀ ep ∈ endpoints, step ≠ .disappear ep)
    (hnext : (endpointMachine endpoints).next s step = some s') : Missed endpoints s' := by
  obtain ⟨hall, hpulled, hfailed, hidle⟩ := h
  -- in the loop the flag is clear
  have hclear (hexited : s.phase ≠ .exited) (hreport : s.phase ≠ .report) :
      s.writeUdc = false := (hidle hexited).resolve_right hreport
  cases stepsTo_of_next hnext with
  | disappear file =>
    have hmem : file ∉ endpoints := fun hmem => hstep file hmem rfl
    refine ⟨?_, by simp [hpulled], hfailed, hidle⟩
    exact (setPresent_allPresent_of_not_mem hmem).trans hall
  | appear file => exact ⟨setPresent_allPresent_of_true hall, hpulled, hfailed, hidle⟩
  | otherEvent | signal => exact ⟨hall, hpulled, hfailed, hidle⟩
  | passed atStart hphase hwrite =>
    have hset := hinv.writeUdc_of_passed hphase hwrite
    rw [hclear (by simp [hphase]) (by simp [hphase])] at hset
    cases hset
  | unchanged _ hflag => exact ⟨hall, hpulled, hfailed, fun _ => Or.inl hflag⟩
  | absent hphase habsent =>
    have hep := hinv.check _ _ hphase _ List.mem_cons_self
    have hpresent := List.all_eq_true.mp hall _ hep
    exact absurd hpresent (by simp [habsent])
  | written hphase | notWritten hphase =>
    have hset := hinv.writeUdc (Or.inl hphase)
    rw [hclear (by simp [hphase]) (by simp [hphase])] at hset
    cases hset
  | report => exact ⟨hall, hpulled, hfailed, fun _ => Or.inl rfl⟩
  | found hphase | readEvents n hphase hn | nextEvent hphase | readEventFd hphase hstop =>
    have hflag := hclear (by simp [hphase]) (by simp [hphase])
    exact ⟨hall, hpulled, hfailed, fun _ => Or.inl hflag⟩

/-! ## Runs -/

theorem monitorInv_of_reachable (h : (endpointMachine endpoints).Reachable s) :
    MonitorInv endpoints s :=
  h.invariant (MonitorInv endpoints) (fun _ => monitorInv_start)
    fun _ _ _ hinv _ hnext => hinv.next hnext

theorem served_of_noticed
    (h : (endpointMachine endpoints).ReachableVia (AbsenceNoticed endpoints) s) :
    Served endpoints s := by
  induction h with
  | start hstart =>
    obtain ⟨present, queue, rfl⟩ := hstart
    exact fun _ _ => Or.inr (Or.inr ⟨rfl, by simp, by simp⟩)
  | step hs hok hnext ih => exact ih.next (monitorInv_of_reachable hs.reachable) hok hnext

theorem Missed.run {steps : List EndpointStep} (h : Missed endpoints s)
    (hinv : MonitorInv endpoints s) (hrun : (endpointMachine endpoints).Run s steps s')
    (hsteps : ∀ step ∈ steps, ∀ ep ∈ endpoints, step ≠ .disappear ep) : Missed endpoints s' :=
  (hrun.invariant (P := fun s => Missed endpoints s ∧ MonitorInv endpoints s)
    (fun _ _ _ hok hs hnext => ⟨hs.1.next hs.2 hok hnext, hs.2.next hnext⟩) hsteps ⟨h, hinv⟩).1

/-- **When the gadget is pulled up after a restart**: in a run in which every absence is noticed
before it ends, a monitor that is back in `epoll_wait` with nothing queued and all endpoints there
has written the UDC file since the last absence, or failed to. The first absence that ends unnoticed
stays without a write until an endpoint goes away again. -/
theorem pulledUp_after_restart
    (h : (endpointMachine endpoints).ReachableVia (AbsenceNoticed endpoints) s) :
    (s.drained = true → s.allPresent endpoints = true →
      s.pulledUp = true ∨ s.writeFailed = true) ∧
    ∀ {file : String} {s₁ s₂ : EndpointMonitor} {steps : List EndpointStep},
      (endpointMachine endpoints).next s (.appear file) = some s₁ →
      ¬ AbsenceNoticed endpoints s (.appear file) →
      (endpointMachine endpoints).Run s₁ steps s₂ →
      (∀ step ∈ steps, ∀ ep ∈ endpoints, step ≠ .disappear ep) →
      s₂.allPresent endpoints = true ∧ s₂.pulledUp = false ∧ s₂.writeFailed = false := by
  have hinv := monitorInv_of_reachable h.reachable
  refine ⟨fun hdrained hall => ?_, fun hnext hbad hrun hsteps => ?_⟩
  · simp only [drained, Bool.and_eq_true, decide_eq_true_eq] at hdrained
    obtain ⟨⟨hphase, hbuf⟩, hqueue⟩ := hdrained
    rcases served_of_noticed h hall (by simp [hphase]) with hp | hf | hlook
    · exact Or.inl hp
    · exact Or.inr hf
    · have hleft := hlook.2.2 hphase
      omega
  · have hmissed := (missed_of_not_noticed hinv hbad hnext).run (hinv.next hnext) hrun hsteps
    exact ⟨hmissed.allPresent, hmissed.notPulledUp, hmissed.notFailed⟩

/-- The endpoints of adb. -/
def adbEndpoints : List String := ["/dev/usb-ffs/adb/ep1", "/dev/usb-ffs/adb/ep2"]

/-- The monitor starts with the endpoints there and pulls up. -/
def pullUpSteps : List EndpointStep :=
  [.access, .access, .access, .writeUdc true, .report]

/-- The monitor looks at the endpoints for an event. -/
def lookSteps : List EndpointStep := [.nextEvent, .access, .access, .access]

def startedMonitor : EndpointMonitor where
  present := fun file => adbEndpoints.contains file
  queue := 0
  phase := .check true adbEndpoints

/-- An endpoint goes away, the monitor notices, and it comes back. -/
def restartedMonitor : EndpointMonitor :=
  (((endpointMachine adbEndpoints).restrict (AbsenceNoticed adbEndpoints)).exec startedMonitor
    (pullUpSteps ++ [.disappear "/dev/usb-ffs/adb/ep1", .readEvents 1, .nextEvent, .access,
      .appear "/dev/usb-ffs/adb/ep1", .readEvents 1] ++ lookSteps ++ [.writeUdc true, .report])).get
    (by decide)

/-- An endpoint goes away and comes back before the monitor looks. -/
def missedMonitor : EndpointMonitor :=
  ((endpointMachine adbEndpoints).exec startedMonitor
    (pullUpSteps ++ [.disappear "/dev/usb-ffs/adb/ep1", .appear "/dev/usb-ffs/adb/ep1",
      .readEvents 2] ++ lookSteps ++ lookSteps)).get (by decide)

theorem startedMonitor_start : (endpointMachine adbEndpoints).start startedMonitor :=
  ⟨_, _, rfl⟩

/-- The restart that was noticed has been served. -/
theorem pulledUp_after_restart_noticed :
    restartedMonitor.pulledUp = true ∨ restartedMonitor.writeFailed = true :=
  (pulledUp_after_restart (Machine.reachableVia_of_exec startedMonitor_start _)).1
    (show restartedMonitor.drained = true by decide)
    (show restartedMonitor.allPresent adbEndpoints = true by decide)

/-- The restart between two looks has not. -/
theorem missedMonitor_not_pulledUp :
    (endpointMachine adbEndpoints).Reachable missedMonitor ∧ missedMonitor.drained = true ∧
      missedMonitor.allPresent adbEndpoints = true ∧ missedMonitor.pulledUp = false ∧
      missedMonitor.writeFailed = false :=
  ⟨Machine.reachable_of_exec startedMonitor_start _, by decide, by decide, by decide, by decide⟩

end EndpointMonitor

end GloDroid.GadgetHal

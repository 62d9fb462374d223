import GloDroid.Base.Machine
import GloDroid.BootScript.Frames

/-!
# Requests for the Bootloader

`adb reboot bootloader` leaves a request in the bootloader message of `misc`, and so may a session
of `fastboot`. The script takes the request out of `misc` before it starts the session, so a request
is served at most once: over any number of boots, wherever they lose power and whatever fails
(`served_le_requests`).
-/

namespace GloDroid.BootScript

open GloDroid.Base

/-! ## At most one session for each request -/

/-- The sessions that a request asked for. -/
def requestedSessions (sessions : List (FastbootReason × Bool)) : Nat :=
  sessions.countP fun session => session.1 = .requested

/-- The request that waits in `misc`. -/
def pending (misc : String) : Nat := if misc = bootonceBootloader then 1 else 0

/-- The sessions and the request that waits are covered by the requests, `n` of them before. -/
def Balanced (n : Nat) (s : Boot) : Prop :=
  requestedSessions s.sessions + pending s.misc ≤ n + s.requests

/-- The message in memory, if it is stored, brings no request back. -/
def Settled (n : Nat) (s : Boot) : Prop := Balanced n s ∧ s.bcb ≠ some bootonceBootloader

/-- One more session is covered, if it is a requested one. -/
def Admits (n : Nat) (why : FastbootReason) (s : Boot) : Prop :=
  requestedSessions s.sessions + (if why = .requested then 1 else 0) + pending s.misc ≤
      n + s.requests ∧
    s.bcb ≠ some bootonceBootloader

section Sessions

variable {b : Build} {n : Nat} {why : FastbootReason}

theorem Balanced.kept {s s' : Boot} (h : Balanced n s) (hkept : Kept [.message] s s') :
    Balanced n s' := by
  obtain ⟨-, hmisc, hsessions, hrequests, -⟩ := hkept .message List.mem_cons_self
  rwa [Balanced, hmisc, hsessions, hrequests]

theorem Settled.kept {s s' : Boot} (h : Settled n s) (hkept : Kept [.message] s s') :
    Settled n s' := by
  refine ⟨h.1.kept hkept, ?_⟩
  rw [(hkept .message List.mem_cons_self).1]
  exact h.2

theorem Admits.kept {s s' : Boot} (h : Admits n why s) (hkept : Kept [.message] s s') :
    Admits n why s' := by
  obtain ⟨hbcb, hmisc, hsessions, hrequests, -⟩ := hkept .message List.mem_cons_self
  rwa [Admits, hbcb, hmisc, hsessions, hrequests]

theorem Admits.balanced {s : Boot} (h : Admits n why s) : Balanced n s := by
  have hcover := h.1
  unfold Balanced
  omega

theorem Settled.admits {s : Boot} (h : Settled n s) (hwhy : why ≠ .requested) :
    Admits n why s := by
  refine ⟨?_, h.2⟩
  rw [if_neg hwhy]
  exact h.1

/-- Storing a message that is no request. -/
theorem Balanced.store {s : Boot} (h : Balanced n s) {command : String}
    (hcommand : command ≠ bootonceBootloader) : Balanced n { s with misc := command } := by
  have hpending : pending command = 0 := if_neg hcommand
  have hcover : requestedSessions s.sessions + pending s.misc ≤ n + s.requests := h
  show requestedSessions s.sessions + pending command ≤ n + s.requests
  omega

/-- A session counts if it was requested, and so does the request that it leaves. -/
theorem Admits.runFastboot {s : Boot} (h : Admits n why s) :
    (BootCommand.runFastboot why s).All
      (fun ok s' => Settled n ((BootCommand.fastboot why).finish ok s')) (fun _ => Balanced n) := by
  have hsession : requestedSessions ((why, s.answer.ok) :: s.sessions) =
      requestedSessions s.sessions + if why = .requested then 1 else 0 := by
    simp [requestedSessions, List.countP_cons]
  have hbalanced : requestedSessions ((why, s.answer.ok) :: s.sessions) +
      pending (s.answer.message.getD s.misc) ≤
        n + (s.requests + if s.answer.message = some bootonceBootloader then 1 else 0) := by
    have hcover := h.1
    rw [hsession]
    -- a host may leave a message during the session
    cases s.answer.message with
    | none =>
      simp only [Option.getD_none, reduceCtorEq, if_false]
      omega
    | some message =>
      have hpending : pending message =
          if some message = some bootonceBootloader then 1 else 0 := by simp [pending]
      rw [Option.getD_some, hpending]
      omega
  simp only [BootCommand.runFastboot]
  split
  · exact hbalanced
  · exact ⟨hbalanced, h.2⟩

/-- Falling back stores another message. -/
theorem fallback_runs :
    Runs (Settled n)
      (.chain [.command .bcbLoad, .command (.bcbSet bootFastboot), .command .bcbStore])
      (fun _ => Settled n) (fun _ => Balanced n) := by
  have hother : bootFastboot ≠ bootonceBootloader := by decide
  -- whichever command fails, the message in memory is no request afterwards
  apply Script.Triple.chainCons
    (M := fun ok s => Balanced n s ∧ (ok = false → s.bcb = none))
  · refine Runs.command (fun s hs => hs.1) fun s hs => ⟨hs.1, fun hok => ?_⟩
    simp [hok]
  · apply Script.Triple.chainCons
      (M := fun ok s => Balanced n s ∧ if ok then s.bcb = some bootFastboot else s.bcb = none)
    · refine Runs.command (fun s hs => hs.1) fun s hs => ?_
      simp only [BootCommand.effect]
      split
      · exact ⟨hs.1, rfl⟩
      · rename_i hnone
        exact ⟨hs.1, hnone⟩
    · refine Runs.command (fun s hs => hs.1) fun s hs => ?_
      have hbcb : s.bcb = some bootFastboot := hs.2
      simp only [BootCommand.effect, hbcb]
      split
      · refine ⟨hs.1.store hother, ?_⟩
        simpa [hbcb] using hother
      · refine ⟨hs.1, ?_⟩
        simpa [hbcb] using hother
    · intro s hs
      have hbcb : s.bcb = none := hs.2
      exact ⟨hs.1, by simp [hbcb]⟩
  · exact fun s hs => ⟨hs.1, by simp [hs.2 rfl]⟩

/-- Only commands of the bootloader message and sessions matter. -/
theorem Settled.frame {script : UbootScript} (h : Keeps [.message] script = true) :
    Runs (Settled n) script (fun _ => Settled n) (fun _ => Balanced n) :=
  Runs.frame [.message] h (fun _ _ hkept hs => hs.kept hkept) fun _ _ hs => hs.1

/-- `enter_fastboot` -/
theorem enterFastboot_runs :
    Runs (Admits n why) (enterFastboot b why) (fun _ => Settled n) (fun _ => Balanced n) := by
  -- the commands before the session do not touch the message
  have hbefore : ∀ script : UbootScript, Keeps [.message] script = true →
      Runs (Admits n why) script (fun _ => Admits n why) (fun _ => Balanced n) := fun script h =>
    Runs.frame [.message] h (fun _ _ hkept hs => hs.kept hkept) fun _ _ hs => hs.balanced
  apply Script.Triple.blockCons (hbefore _ rfl)
  intro _
  apply Script.Triple.blockCons (hbefore _ ?_)
  · intro _
    apply Script.Triple.blockCons (M := fun _ => Settled n)
    · apply Script.Triple.orElse (M := fun _ => Settled n)
      · exact Runs.command (fun s hs => hs.balanced) fun s hs => hs.runFastboot
      · exact Settled.frame rfl
      · exact fun s hs => hs
    intro _
    apply Script.Triple.ifThen (Settled.frame rfl)
    · apply Script.Triple.blockCons (Settled.frame rfl)
      exact fun _ => fallback_runs
    · exact fun s hs => hs
  · obtain ⟨platform, device, mmc0, mmc1⟩ := b
    cases platform <;> rfl

/-- The request is taken out of `misc` before the session. -/
theorem request_runs :
    Runs
      (fun s => Balanced n s ∧ (s.bcb = some bootonceBootloader → s.misc = bootonceBootloader))
      (.chain [.command (.bcbTest bootonceBootloader), .command .bcbClear, .command .bcbStore,
        enterFastboot b .requested])
      (fun _ => Settled n) (fun _ => Balanced n) := by
  have hempty : "" ≠ bootonceBootloader := by decide
  apply Script.Triple.chainCons (M := fun ok s => Balanced n s ∧
    if ok then s.misc = bootonceBootloader else s.bcb ≠ some bootonceBootloader)
  · refine Runs.command (fun s hs => hs.1) fun s hs => ⟨hs.1, ?_⟩
    by_cases hbcb : s.bcb = some bootonceBootloader
    · simpa [hbcb] using hs.2 hbcb
    · simp [hbcb]
  · apply Script.Triple.chainCons (M := fun ok s => Balanced n s ∧
      s.misc = bootonceBootloader ∧ s.bcb = if ok then some "" else none)
    · refine Runs.command (fun s hs => hs.1) fun s hs => ?_
      have hmisc : s.misc = bootonceBootloader := hs.2
      simp only [BootCommand.effect]
      split
      · exact ⟨hs.1, hmisc, rfl⟩
      · rename_i hnone
        exact ⟨hs.1, hmisc, hnone⟩
    · apply Script.Triple.chainCons
        (M := fun ok s => if ok then Admits n .requested s else Settled n s)
      · refine Runs.command (fun s hs => hs.1) fun s hs => ?_
        obtain ⟨hbalanced, hmisc, hbcb⟩ := hs
        rw [if_pos rfl] at hbcb
        simp only [BootCommand.effect, hbcb]
        split
        · -- the request is gone, so the session is covered by what it was counted for
          refine ⟨?_, by simpa [hbcb] using hempty⟩
          have hcover : requestedSessions s.sessions + pending s.misc ≤ n + s.requests := hbalanced
          have hone : pending s.misc = 1 := by simp [pending, hmisc]
          have hzero : pending "" = 0 := if_neg hempty
          simp only [BootCommand.finish_sessions, BootCommand.finish_misc,
            BootCommand.finish_requests, if_pos]
          omega
        · exact ⟨hbalanced, by simpa [hbcb] using hempty⟩
      · exact enterFastboot_runs
      · exact fun s hs => hs
    · exact fun s hs => ⟨hs.1, by simp [hs.2.2]⟩
  · exact fun s hs => hs

/-- `bootcmd_bcb` -/
theorem bootcmdBcb_balanced :
    Runs (Settled n) (bootcmdBcb b) (fun _ => Settled n) (fun _ => Balanced n) := by
  apply Script.Triple.blockCons (M := fun _ => Settled n)
  · apply Script.Triple.orElse (Settled.frame rfl)
    · exact Script.Triple.mono enterFastboot_runs (fun s hs => hs.admits nofun) (fun _ _ h => h)
        fun _ _ h => h
    · exact fun s hs => hs
  intro _
  apply Script.Triple.blockCons (Settled.frame rfl)
  intro _
  apply Script.Triple.blockCons (M := fun _ s =>
    Balanced n s ∧ (s.bcb = some bootonceBootloader → s.misc = bootonceBootloader))
  · -- what `bcb load` reads is what is stored
    refine Runs.command (fun s hs => hs.1) fun s hs => ⟨hs.1, fun hbcb => ?_⟩
    by_cases hok : s.answer.ok = true
    · simpa [hok] using hbcb
    · simp [hok] at hbcb
  intro _
  apply Script.Triple.blockCons request_runs
  exact fun _ => Settled.frame rfl

theorem volumeKeys_balanced :
    Runs (Settled n) (volumeKeys b) (fun _ => Settled n) (fun _ => Balanced n) := by
  unfold volumeKeys
  split
  · apply Script.Triple.blockCons (M := fun _ => Settled n)
    · apply Script.Triple.ifThen (Settled.frame rfl)
      · exact Script.Triple.mono enterFastboot_runs (fun s hs => hs.admits nofun) (fun _ _ h => h)
          fun _ _ h => h
      · exact fun s hs => hs
    exact fun _ => Settled.frame rfl
  · exact Settled.frame rfl

theorem bootcmd_balanced :
    Runs (Settled n) (bootcmd b) (fun _ => Settled n) (fun _ => Balanced n) := by
  apply Script.Triple.blockCons (Settled.frame rfl)
  intro _
  apply Script.Triple.blockCons (M := fun _ => Settled n)
  · apply Script.Triple.blockCons volumeKeys_balanced
    intro _
    apply Script.Triple.blockCons bootcmdBcb_balanced
    exact fun _ => Settled.frame rfl
  intro _
  apply Settled.frame
  obtain ⟨platform, device, mmc0, mmc1⟩ := b
  cases platform <;> cases device <;> rfl

/-- The whole script. -/
theorem bootscript_balanced :
    Runs (Settled n) (bootscript b) (fun _ => Settled n) (fun _ => Balanced n) := by
  apply Script.Triple.blockCons (Settled.frame ?_)
  · intro _
    apply Script.Triple.blockCons (Settled.frame rfl)
    intro _
    apply Script.Triple.blockCons bootcmd_balanced
    exact fun _ => Settled.frame rfl
  · obtain ⟨platform, device, mmc0, mmc1⟩ := b
    cases platform <;> rfl

end Sessions

/-! ## Boots -/

/-- What lasts from one boot to the next, with what was counted so far. -/
structure Board where
  misc : String
  /-- the sessions that a request asked for -/
  served : Nat
  /-- the requests that were left -/
  requests : Nat
  deriving DecidableEq, Repr

inductive BoardEvent where
  /-- the board is powered, with these variables, answers and storage -/
  | boot (power : Boot)
  /-- Android leaves a command in the bootloader message -/
  | message (command : String)

/-- Boots and reboots, in any order. A request is counted when it is left in `misc`. -/
def boardMachine (b : Build) : Machine Board BoardEvent where
  start board := board.served = 0 ∧ board.requests = pending board.misc
  next board
    | .boot power =>
      let s := (boot b
        { power with misc := board.misc, bcb := none, sessions := [], requests := 0 }).state
      some
        { misc := s.misc
          served := board.served + requestedSessions s.sessions
          requests := board.requests + s.requests }
    | .message command =>
      some { board with misc := command, requests := board.requests + pending command }

/-- **A request for the bootloader is served at most once**, over all boots: the sessions that were
asked for, with the request that still waits, are no more than the requests. -/
theorem served_le_requests {b : Build} {board : Board} (h : (boardMachine b).Reachable board) :
    board.served + pending board.misc ≤ board.requests := by
  refine h.invariant (fun board => board.served + pending board.misc ≤ board.requests) ?_ ?_
  · intro board hboard
    rw [hboard.1, hboard.2, Nat.zero_add]
  · intro board event board' hboard _ hnext
    cases event with
    | message command =>
      obtain rfl := Option.some.inj hnext
      show board.served + pending command ≤ board.requests + pending command
      omega
    | boot power =>
      obtain rfl := Option.some.inj hnext
      -- the boot starts with the request that waits, and with nothing in memory
      have hsettled : Settled (pending board.misc)
          { power with misc := board.misc, bcb := none, sessions := [], requests := 0 } := by
        refine ⟨?_, nofun⟩
        simp [Balanced, requestedSessions]
      have hend := bootscript_balanced (b := b) _ hsettled
      have hbalanced : Balanced (pending board.misc) (boot b
          { power with misc := board.misc, bcb := none, sessions := [], requests := 0 }).state := by
        rw [boot]
        cases hrun : (bootscript b).exec BootCommand.run
          { power with misc := board.misc, bcb := none, sessions := [], requests := 0 } with
        | status ok s =>
          rw [hrun] at hend
          exact hend.1
        | stopped why s =>
          rw [hrun] at hend
          exact hend
      unfold Balanced at hbalanced
      simp only
      omega

/-- A boot of the slot `a` that loses its power before a command. -/
def losesPowerAt (n : Nat) : Boot :=
  { slotA with answers := fun m => { slotA.answers m with powerLost := m = n } }

/-- A request that the second boot serves. -/
theorem served_le_requests_once :
    (boardMachine pinephone).exec ⟨"", 0, 0⟩
        [.message bootonceBootloader, .boot (losesPowerAt 20), .boot slotA] = some ⟨"", 1, 1⟩ ∧
      1 + pending "" ≤ 1 := by
  have hexec : (boardMachine pinephone).exec ⟨"", 0, 0⟩
      [.message bootonceBootloader, .boot (losesPowerAt 20), .boot slotA] = some ⟨"", 1, 1⟩ := by
    decide
  have hstart : (boardMachine pinephone).start ⟨"", 0, 0⟩ := ⟨rfl, by decide⟩
  have hreachable := (Machine.run_iff_exec.mpr hexec).reachable (.start hstart)
  exact ⟨hexec, served_le_requests hreachable⟩

end GloDroid.BootScript

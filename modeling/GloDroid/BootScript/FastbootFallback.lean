import GloDroid.BootScript.VerifiedBoot

/-!
# Falling Back to Fastbootd

Where `fastboot` fails for a board, `enter_fastboot` leaves a request for fastbootd in the
bootloader message, and the rest of the script finds it: the same boot starts recovery. This holds
wherever the session was started, unless the bootloader message could not be loaded or stored
(`boot_recovers`).
-/

namespace GloDroid.BootScript

open GloDroid.Base

/-- The last session of `fastboot` failed. -/
def Boot.lastFailed (s : Boot) : Bool := s.sessions.head?.any fun session => !session.2

/-- The request for fastbootd waits in `misc`, or was lost with a failure. -/
def FallbackStored (s : Boot) : Prop :=
  s.lastFailed = true → s.messageFailed = true ∨ s.misc = bootFastboot

/-- It is also the message in memory. -/
def FallbackLoaded (s : Boot) : Prop :=
  s.lastFailed = true →
    s.messageFailed = true ∨ (s.misc = bootFastboot ∧ s.bcb = some bootFastboot)

/-- The script goes on to recovery. -/
def Recovers (s : Boot) : Prop :=
  s.lastFailed = true → s.messageFailed = true ∨ s.vars .androidrecovery = "true"

section Functions

variable {b : Build} {why : FastbootReason} {script : UbootScript}

/-! ## Frames -/

theorem lastFailed_kept {s s' : Boot} (hkept : s.SameAt s' .message) :
    s'.lastFailed = s.lastFailed := by
  rw [Boot.lastFailed, hkept.2.2.1, Boot.lastFailed]

theorem FallbackStored.kept {s s' : Boot} (h : FallbackStored s) (hkept : Kept [.message] s s') :
    FallbackStored s' := by
  have hsame := hkept .message List.mem_cons_self
  intro hlast
  rw [lastFailed_kept hsame] at hlast
  rw [hsame.2.1, hsame.2.2.2.2]
  exact h hlast

theorem FallbackLoaded.kept {s s' : Boot} (h : FallbackLoaded s) (hkept : Kept [.message] s s') :
    FallbackLoaded s' := by
  have hsame := hkept .message List.mem_cons_self
  intro hlast
  rw [lastFailed_kept hsame] at hlast
  rw [hsame.1, hsame.2.1, hsame.2.2.2.2]
  exact h hlast

theorem Recovers.kept {s s' : Boot} (h : Recovers s)
    (hkept : Kept [.message, .var .androidrecovery] s s') : Recovers s' := by
  have hsame := hkept .message List.mem_cons_self
  intro hlast
  rw [lastFailed_kept hsame] at hlast
  rw [hkept.var (v := .androidrecovery) (by decide), hsame.2.2.2.2]
  exact h hlast

theorem FallbackLoaded.stored {s : Boot} (h : FallbackLoaded s) : FallbackStored s :=
  fun hlast => (h hlast).imp_right And.left

theorem FallbackStored.frame (h : (StartsNothing script && Keeps [.message] script) = true) :
    Runs FallbackStored script (fun _ => FallbackStored) (AtKernel Recovers) :=
  Runs.frameAt [.message] h fun _ _ hkept hs => hs.kept hkept

theorem FallbackLoaded.frame (h : (StartsNothing script && Keeps [.message] script) = true) :
    Runs FallbackLoaded script (fun _ => FallbackLoaded) (AtKernel Recovers) :=
  Runs.frameAt [.message] h fun _ _ hkept hs => hs.kept hkept

/-- The script may start the kernel here. -/
theorem Recovers.frame (h : Keeps [.message, .var .androidrecovery] script = true) :
    Runs Recovers script (fun _ => Recovers) (AtKernel Recovers) :=
  Runs.frame [.message, .var .androidrecovery] h (fun _ _ hkept hs => hs.kept hkept)
    fun _ _ hs _ => hs

/-! ## The fallback -/

/-- A failure of a command of the bootloader message is remembered. -/
theorem messageFailed_finish {c : BootCommand} (s : Boot)
    (hc : c = .bcbLoad ∨ (∃ command, c = .bcbSet command) ∨ c = .bcbClear ∨ c = .bcbStore) :
    (c.finish false s).messageFailed = true := by
  rcases hc with rfl | ⟨command, rfl⟩ | rfl | rfl <;> rfl

theorem fallback_stores :
    Runs (fun _ => True)
      (.chain [.command .bcbLoad, .command (.bcbSet bootFastboot), .command .bcbStore])
      (fun _ => FallbackLoaded) (AtKernel Recovers) := by
  -- a chain that breaks off leaves the failure of a command of the message
  apply Script.Triple.chainCons (M := fun ok s => ok = true ∨ s.messageFailed = true)
  · refine Runs.command lost_atKernel fun s _ => ?_
    cases hok : s.answer.ok with
    | true =>
      simp only [BootCommand.effect, hok]
      exact Or.inl rfl
    | false =>
      simp only [BootCommand.effect, hok]
      exact Or.inr (messageFailed_finish _ (.inl rfl))
  · apply Script.Triple.chainCons
      (M := fun ok s => s.messageFailed = true ∨ ok = true ∧ s.bcb = some bootFastboot)
    · refine Runs.command lost_atKernel fun s _ => ?_
      simp only [BootCommand.effect]
      split
      · exact Or.inr ⟨rfl, rfl⟩
      · exact Or.inl (messageFailed_finish _ (.inr (.inl ⟨_, rfl⟩)))
    · refine Runs.command lost_atKernel fun s hs => ?_
      simp only [BootCommand.effect]
      split
      · rename_i command hbcb
        split
        · intro _
          refine hs.imp id fun hset => ?_
          have hcommand : command = bootFastboot := by simpa [hbcb] using hset.2
          exact ⟨hcommand, hset.2⟩
        · exact fun _ => Or.inl (messageFailed_finish _ (.inr (.inr (.inr rfl))))
      · exact fun _ => Or.inl (messageFailed_finish _ (.inr (.inr (.inr rfl))))
    · intro s hs _
      exact hs.imp id fun hset => absurd hset.1 Bool.false_ne_true
  · intro s hs _
    exact Or.inl (hs.resolve_left Bool.false_ne_true)

/-- The variable tells whether the session failed. -/
def FailNoted (s : Boot) : Prop := s.lastFailed = true → s.vars .fastbootFail = "1"

/-- `enter_fastboot` leaves the request where the session fails. -/
theorem enterFastboot_stores :
    Runs (fun _ => True) (enterFastboot b why) (fun _ => FallbackLoaded) (AtKernel Recovers) := by
  have hany : ∀ script : UbootScript, StartsNothing script = true →
      Runs (fun _ => True) script (fun _ _ => True) (AtKernel Recovers) := fun script h =>
    Runs.startsNothing h
  apply Script.Triple.blockCons (hany _ rfl)
  intro _
  apply Script.Triple.blockCons (hany _ ?_)
  · intro _
    apply Script.Triple.blockCons (M := fun _ => FailNoted)
    · apply Script.Triple.orElse (M := fun ok s => ok = true → s.lastFailed = false)
      · -- a session that succeeds is the last one, and did not fail
        refine Runs.command lost_atKernel fun s _ => ?_
        simp only [BootCommand.effect, BootCommand.runFastboot]
        split
        · exact fun hstop => Stop.noConfusion hstop
        · intro hok
          simpa [Boot.lastFailed] using hok
      · exact Runs.setText lost_atKernel fun s _ _ => by simp
      · intro s hs hlast
        rw [hs rfl] at hlast
        cases hlast
    intro _
    -- the fallback is passed over only if the session did not fail
    apply Script.Triple.ifThen (M := fun ok s => ok = true ∨ s.lastFailed = false)
    · refine Runs.testEq lost_atKernel fun s ok hs hok => ?_
      cases hlast : s.lastFailed with
      | true => exact Or.inl (hok.mpr (by simpa using hs hlast))
      | false => exact Or.inr hlast
    · apply Script.Triple.blockCons (M := fun _ _ => True)
      · exact Script.Triple.mono (hany _ rfl) (fun _ _ => trivial) (fun _ _ h => h) fun _ _ h => h
      exact fun _ => fallback_stores
    · intro s hs hlast
      rw [hs.resolve_left Bool.false_ne_true] at hlast
      cases hlast
  · obtain ⟨platform, device, mmc0, mmc1⟩ := b
    cases platform <;> rfl

/-! ## The request is found -/

/-- A boot that was asked for fastboot stores the request again if the session fails. -/
theorem request_stores :
    Runs FallbackLoaded
      (.chain [.command (.bcbTest bootonceBootloader), .command .bcbClear, .command .bcbStore,
        enterFastboot b .requested])
      (fun _ => FallbackLoaded) (AtKernel Recovers) := by
  have hother : bootFastboot ≠ bootonceBootloader := by decide
  -- with another message in memory, no failed session relies on it
  apply Script.Triple.chainCons (M := fun ok s =>
    if ok then s.lastFailed = true → s.messageFailed = true else FallbackLoaded s)
  · refine Runs.bcbTest lost_atKernel fun s s' ok hs hsame hok => ?_
    cases ok with
    | true =>
      have hbcb : s.bcb = some bootonceBootloader := hok.mp rfl
      intro hlast
      rw [lastFailed_kept hsame] at hlast
      rw [hsame.2.2.2.2]
      refine (hs hlast).resolve_right fun hloaded => hother ?_
      rw [hbcb] at hloaded
      exact (Option.some.inj hloaded.2).symm
    | false => exact hs.kept fun p hp => List.mem_singleton.mp hp ▸ hsame
  · apply Script.Triple.chainCons (M := fun _ s => s.lastFailed = true → s.messageFailed = true)
    · refine Runs.command lost_atKernel fun s hs => ?_
      simp only [BootCommand.effect]
      split
      · exact hs
      · exact fun _ => messageFailed_finish _ (.inr (.inr (.inl rfl)))
    · apply Script.Triple.chainCons (M := fun _ s => s.lastFailed = true → s.messageFailed = true)
      · refine Runs.command lost_atKernel fun s hs => ?_
        have hstored : s.lastFailed = true →
            (BootCommand.finish .bcbStore false s).messageFailed = true :=
          fun _ => messageFailed_finish _ (.inr (.inr (.inr rfl)))
        simp only [BootCommand.effect]
        split
        · split
          · exact hs
          · exact hstored
        · exact hstored
      · exact Script.Triple.mono enterFastboot_stores (fun _ _ => trivial) (fun _ _ h => h)
          fun _ _ h => h
      · exact fun s hs hlast => Or.inl (hs hlast)
    · exact fun s hs hlast => Or.inl (hs hlast)
  · exact fun s hs => hs

/-- `bootcmd_bcb` finds the request. -/
theorem bootcmdBcb_recovers :
    Runs FallbackStored (bootcmdBcb b) (fun _ => Recovers) (AtKernel Recovers) := by
  apply Script.Triple.blockCons (M := fun _ => FallbackStored)
  · apply Script.Triple.orElse (FallbackStored.frame rfl)
    · exact Script.Triple.mono enterFastboot_stores (fun _ _ => trivial) (fun _ _ h => h.stored)
        fun _ _ h => h
    · exact fun s hs => hs
  intro _
  apply Script.Triple.blockCons (FallbackStored.frame rfl)
  intro _
  apply Script.Triple.blockCons (M := fun _ => FallbackLoaded)
  · refine Runs.command lost_atKernel fun s hs => ?_
    cases hok : s.answer.ok with
    | true =>
      simp only [BootCommand.effect, hok]
      intro hlast
      exact (hs hlast).imp_right fun hmisc => ⟨hmisc, congrArg some hmisc⟩
    | false =>
      simp only [BootCommand.effect, hok]
      exact fun _ => Or.inl (messageFailed_finish _ (.inl rfl))
  intro _
  apply Script.Triple.blockCons request_stores
  intro _
  apply Script.Triple.blockCons (M := fun _ => Recovers)
  · apply Script.Triple.chainCons
      (M := fun ok s => ok = false → s.lastFailed = true → s.messageFailed = true)
    · -- the test finds the message of the fallback, if the message could be loaded
      refine Runs.bcbTest lost_atKernel fun s s' ok hs hsame hok hfalse hlast => ?_
      rw [lastFailed_kept hsame] at hlast
      rw [hsame.2.2.2.2]
      refine (hs hlast).resolve_right fun hloaded => ?_
      rw [hok.mpr hloaded.2] at hfalse
      cases hfalse
    · exact Runs.setText lost_atKernel fun s _ _ => Or.inr (by simp)
    · exact fun s hs hlast => Or.inl (hs rfl hlast)
  intro _
  apply Script.Triple.chainCons (M := fun _ => Recovers) (Recovers.frame rfl)
  · exact Runs.setText lost_atKernel fun s _ _ => Or.inr (by simp)
  · exact fun s hs => hs

/-- `bootcmd` -/
theorem bootcmd_recovers :
    Runs FallbackStored (bootcmd b) (fun _ => Recovers) (AtKernel Recovers) := by
  apply Script.Triple.blockCons (FallbackStored.frame rfl)
  intro _
  apply Script.Triple.blockCons (M := fun _ => Recovers)
  · apply Script.Triple.blockCons (M := fun _ => FallbackStored)
    · unfold volumeKeys
      split
      · apply Script.Triple.blockCons (M := fun _ => FallbackStored)
        · apply Script.Triple.ifThen (FallbackStored.frame rfl)
          · exact Script.Triple.mono enterFastboot_stores (fun _ _ => trivial)
              (fun _ _ h => h.stored) fun _ _ h => h
          · exact fun s hs => hs
        exact fun _ => FallbackStored.frame rfl
      · exact FallbackStored.frame rfl
    intro _
    apply Script.Triple.blockCons bootcmdBcb_recovers
    exact fun _ => Recovers.frame rfl
  intro _
  apply Recovers.frame
  obtain ⟨platform, device, mmc0, mmc1⟩ := b
  cases platform <;> cases device <;> rfl

theorem bootscript_recovers :
    Runs FallbackStored (bootscript b) (fun _ => Recovers) (AtKernel Recovers) := by
  apply Script.Triple.blockCons (FallbackStored.frame ?_)
  · intro _
    apply Script.Triple.blockCons (FallbackStored.frame rfl)
    intro _
    apply Script.Triple.blockCons bootcmd_recovers
    exact fun _ => Recovers.frame rfl
  · obtain ⟨platform, device, mmc0, mmc1⟩ := b
    cases platform <;> rfl

end Functions

/-- **A failed session of fastboot ends in recovery**: if the kernel is started, the last session
failed and no command of the bootloader message did, the kernel is started for fastbootd. -/
theorem boot_recovers {b : Build} {s s' : Boot} (hsessions : s.sessions = [])
    (h : boot b s = .stopped .kernel s') (hlast : s'.lastFailed = true)
    (hmessage : s'.messageFailed = false) :
    s'.vars .androidrecovery = "true" ∧
      ∃ overlays ∈ ["", dtboArgs s'.vars], s'.vars .bootargs =
        slotArgs s'.vars ++ " androidboot.verifiedbootstate=orange " ++ overlays := by
  have hstored : FallbackStored s := by
    intro hlast
    simp [Boot.lastFailed, hsessions] at hlast
  have hend := ((bootscript_recovers (b := b)).and (Script.Triple.mono bootscript_kernelArgs
    (fun _ _ => trivial) (fun _ _ h => h) fun _ _ h => h)) s hstored
  rw [boot] at h
  rw [h] at hend
  have hrecovery : s'.vars .androidrecovery = "true" := by
    refine (hend.1 rfl hlast).resolve_left fun hfailed => ?_
    rw [hmessage] at hfailed
    cases hfailed
  obtain ⟨overlays, hmem, hargs⟩ := (hend.2 rfl).bootargs
  refine ⟨hrecovery, overlays, hmem, ?_⟩
  rwa [stateArgs, if_pos hrecovery, normalBootArgs, if_pos hrecovery, String.append_empty] at hargs

/-- The board of the slot `a`, where the volume key asks for fastboot and `fastboot` fails. -/
def fastbootFails : Boot :=
  { slotA with
    vars := fun v => if v = .volumeKey then "up" else slotA.vars v
    answers := fun n => { slotA.answers n with ok := n ≠ 33 } }

theorem boot_recovers_volumeKey :
    (boot pinephone fastbootFails).state.sessions = [(.volumeKey, false)] ∧
      (boot pinephone fastbootFails).state.vars .androidrecovery = "true" ∧
      ∃ overlays ∈ ["", dtboArgs (boot pinephone fastbootFails).state.vars],
        (boot pinephone fastbootFails).state.vars .bootargs =
          slotArgs (boot pinephone fastbootFails).state.vars ++
            " androidboot.verifiedbootstate=orange " ++ overlays := by
  have hkernel : (boot pinephone fastbootFails).why? = some .kernel := by decide
  exact ⟨by decide, boot_recovers rfl (ScriptEnd.eq_stopped hkernel) (by decide) (by decide)⟩

end GloDroid.BootScript

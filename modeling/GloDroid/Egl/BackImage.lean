import GloDroid.Egl.Surface

/-!
# The Back Image

An image stays in its slot after its buffer was enqueued, and is found again by the address of the
buffer. Nothing keeps the native buffer alive meanwhile, so another buffer may have come to this
address.

Outside the shared buffer mode `droid_image_get_buffers` returns the image of the buffer dequeued
for the current frame as long as no slot knows the address of a dequeued buffer with the image of
another one, and the first buffer dequeued against this is drawn through the image of the other
(`backImage_current`).
-/

namespace GloDroid.Egl

open GloDroid.Base

/-- Steps outside the shared buffer mode. -/
def EglStep.outsideShared : EglStep → Bool
  | .swapBuffers env => !env.sharedAfter
  | .displaySharedBuffer _ _ => false
  | _ => true

namespace EglSurface

variable {s s' : EglSurface}

/-! ## The condition -/

/-- The buffer that a step dequeues, if any. -/
def dequeuedBy (s : EglSurface) : EglStep → Option NativeBuffer
  | .getBuffers env _ _ _ => s.dequeues env
  | .swapBuffers env =>
    if env.remainsShared || env.switchFails then none else s.enqueueBuffer.dequeues env.toDequeueEnv
  | _ => none

/-- A slot with the address of the buffer has no image of another buffer. -/
def KnowsAddress (s : EglSurface) (b : NativeBuffer) : Prop :=
  ∀ c ∈ s.colorBuffers, c.buffer = some b.address →
    ∀ image ∈ c.driImage, image.source = some b.id

instance (s : EglSurface) (b : NativeBuffer) : Decidable (s.KnowsAddress b) :=
  inferInstanceAs (Decidable (∀ c ∈ s.colorBuffers, c.buffer = some b.address →
    ∀ image ∈ c.driImage, image.source = some b.id))

/-- A step outside the shared buffer mode that does not dequeue a buffer at the address of another
one whose image is still in a slot. -/
def FreshAddress (s : EglSurface) (step : EglStep) : Prop :=
  step.outsideShared = true ∧ ∀ b ∈ s.dequeuedBy step, s.KnowsAddress b

instance (s : EglSurface) (step : EglStep) : Decidable (s.FreshAddress step) :=
  inferInstanceAs (Decidable (step.outsideShared = true ∧
    ∀ b ∈ s.dequeuedBy step, s.KnowsAddress b))

/-- The back image that `droid_image_get_buffers` returns, if any, is the one of the buffer that is
dequeued afterwards. -/
def ReturnsCurrent (r : EglSurface × Int × DriImageList) : Prop :=
  ∀ image ∈ r.2.2.back, ∃ b ∈ r.1.dequeued, image.source = some b.id

/-! ## The slots -/

/-- The slots are filled in order, with different addresses, and only filled ones have an image.
The image of the back slot is the one of the dequeued buffer. -/
structure Current (s : EglSurface) : Prop where
  mode : s.inSharedBufferMode = false
  slots : s.isWindow = true → s.colorBuffers ≠ []
  filled : (s.colorBuffers.map ColorBuffer.buffer).Pairwise fun x y => y ≠ none → x ≠ none ∧ x ≠ y
  empty : ∀ c ∈ s.colorBuffers, c.buffer = none → c.driImage = none
  back : ∀ image ∈ s.backImage, ∃ b ∈ s.dequeued, image.source = some b.id

/-- Another slot in the place of one. -/
theorem forall_mem_replace {P : ColorBuffer → Prop} {pre post : List ColorBuffer}
    {c c' : ColorBuffer} (h : ∀ d ∈ pre ++ c :: post, P d) (hc : P c') :
    ∀ d ∈ pre ++ c' :: post, P d := by
  simp only [List.forall_mem_append, List.forall_mem_cons] at h ⊢
  exact ⟨h.1, hc, h.2.2⟩

theorem current_takeSlot (hs : s.Current) (hwindow : s.isWindow = true) {b : NativeBuffer}
    (hknows : s.KnowsAddress b) : (s.takeSlot b).Current := by
  rcases takeSlot_cases s b with ⟨pre, c, post, hslots, hpre, hc, htake⟩ | ⟨-, htake⟩
  · have hmem : c ∈ s.colorBuffers := by simp [hslots]
    rw [htake]
    refine ⟨hs.mode, by simp, ?_, ?_, ?_⟩
    · have hfilled := hs.filled
      simp only [hslots, List.map_append, List.map_cons, List.pairwise_append,
        List.pairwise_cons, List.forall_mem_cons, List.forall_mem_map] at hfilled ⊢
      obtain ⟨hbefore, ⟨hafter, hrest⟩, hacross⟩ := hfilled
      refine ⟨hbefore, ⟨?_, hrest⟩, ?_⟩
      · -- the slots after a free one are free, those after the address hold others
        intro d hd hdbuffer
        obtain ⟨hcbuffer, hne⟩ := hafter d hd hdbuffer
        rw [hc.resolve_left hcbuffer] at hne
        exact ⟨by simp, hne⟩
      · intro d hd
        exact ⟨fun _ => hpre d hd, (hacross d hd).2⟩
    · have hempty := hs.empty
      rw [hslots] at hempty
      exact forall_mem_replace hempty (by simp)
    · intro image himage
      refine ⟨b, rfl, ?_⟩
      rw [backImage_of_split rfl rfl] at himage
      rcases hc with hfree | haddress
      · rw [hs.empty c hmem hfree] at himage
        cases himage
      · exact hknows c hmem haddress image himage
  · -- after the reset there is one address and no image
    rw [htake]
    cases hcs : s.colorBuffers with
    | nil => exact absurd hcs (hs.slots hwindow)
    | cons c rest =>
      refine ⟨hs.mode, ?_, ?_, ?_, ?_⟩
      · simp [resetSlots]
      · simp [resetSlots, List.pairwise_replicate]
      · intro d hd _
        simp only [resetSlots, List.mem_cons, List.mem_map] at hd
        rcases hd with rfl | ⟨_, _, rfl⟩ <;> rfl
      · simp [backImage, resetSlots]

theorem current_importBack (hs : s.Current) {pre post : List ColorBuffer} {c : ColorBuffer}
    (hslots : s.colorBuffers = pre ++ c :: post) (hback : s.back = some pre.length)
    {b : NativeBuffer} (hbuffer : c.buffer = some b.address) (hdequeued : s.dequeued = some b)
    (imports : Bool) : (s.importBack b imports).1.Current := by
  rcases importBack_cases hslots hback b imports with hsame | ⟨-, himport⟩
  · rwa [hsame]
  · rw [himport]
    refine ⟨hs.mode, by simp, ?_, ?_, ?_⟩
    · simpa [hslots] using hs.filled
    · have hempty := hs.empty
      rw [hslots] at hempty
      exact forall_mem_replace hempty (by simp [hbuffer])
    · intro image himage
      rw [backImage_of_split rfl (by exact hback)] at himage
      obtain rfl := Option.some.inj himage
      exact ⟨b, hdequeued, rfl⟩

theorem current_updateBuffers (hs : s.Current) {env : DequeueEnv}
    (hknows : ∀ b ∈ s.dequeues env, s.KnowsAddress b) : (s.updateBuffers env).1.Current := by
  obtain ⟨width, height, lost, ⟨-, hsame⟩ | ⟨b, hwindow, hb, hdequeue⟩⟩ := updateBuffers_cases s env
  · rw [hsame]
    exact ⟨hs.mode, hs.slots, hs.filled, hs.empty, hs.back⟩
  · obtain ⟨pre, c, post, hslots, hback, hbuffer⟩ := takeSlot_split (hs.slots hwindow) b
    have ht := current_importBack (current_takeSlot hs hwindow (hknows b hb)) hslots hback hbuffer
      (takeSlot_dequeued s b) env.imports
    rw [hdequeue]
    exact ⟨ht.mode, ht.slots, ht.filled, ht.empty, ht.back⟩

theorem current_getBuffers (hs : s.Current) {env : DequeueEnv}
    (hknows : ∀ b ∈ s.dequeues env, s.KnowsAddress b) (wantsFront wantsBack creates : Bool) :
    (s.getBuffers env wantsFront wantsBack creates).1.Current := by
  have ht := current_updateBuffers hs hknows
  rcases getBuffers_cases s env wantsFront wantsBack creates with hsame | ⟨-, -, hfront⟩
  · rwa [hsame]
  · rw [hfront]
    exact ⟨ht.mode, ht.slots, ht.filled, ht.empty, ht.back⟩

theorem current_enqueueBuffer (hs : s.Current) : s.enqueueBuffer.Current :=
  ⟨hs.mode, hs.slots, hs.filled, hs.empty, by simp [backImage, enqueueBuffer]⟩

/-- What a swap dequeues, it dequeues without a back buffer. -/
theorem dequeuedBy_swapBuffers {t : EglSurface} {env : SwapEnv}
    (hgoes : (env.remainsShared || env.switchFails) = false) (ht : t = s ∨ t = s.enqueueBuffer)
    (hback : t.backBuffer = none) :
    s.dequeuedBy (.swapBuffers env) =
      { t with inSharedBufferMode := env.sharedAfter }.dequeues env.toDequeueEnv := by
  have hback' : { t with inSharedBufferMode := env.sharedAfter }.backBuffer = none := hback
  have henqueue : s.enqueueBuffer.backBuffer = none := rfl
  simp only [dequeuedBy, hgoes, dequeues, hback', henqueue]
  rcases ht with rfl | rfl <;> simp [enqueueBuffer]

theorem knowsAddress_swapped {t : EglSurface} (ht : t = s ∨ t = s.enqueueBuffer)
    {inSharedBufferMode : Bool} {b : NativeBuffer} :
    { t with inSharedBufferMode }.KnowsAddress b ↔ s.KnowsAddress b := by
  rcases ht with rfl | rfl <;> rfl

theorem current_swapped {t : EglSurface} (hs : s.Current) {env : SwapEnv}
    (hmode : (EglStep.swapBuffers env).outsideShared = true) (ht : t = s ∨ t = s.enqueueBuffer) :
    { t with inSharedBufferMode := env.sharedAfter }.Current := by
  have hmode : env.sharedAfter = false := by simpa [EglStep.outsideShared] using hmode
  have ht : t.Current := by
    rcases ht with rfl | rfl
    · exact hs
    · exact current_enqueueBuffer hs
  exact ⟨hmode, ht.slots, ht.filled, ht.empty, ht.back⟩

theorem current_swapBuffers (hs : s.Current) {env : SwapEnv}
    (hfresh : s.FreshAddress (.swapBuffers env)) : (s.swapBuffers env).Current := by
  obtain ⟨hmode, hknows⟩ := hfresh
  have henqueue := current_enqueueBuffer hs
  rcases swapBuffers_cases s env with ⟨-, hsame | hqueued⟩ | ⟨hgoes, t, ht, hback, hnext⟩
  · rwa [hsame]
  · rwa [hqueued]
  · rw [hnext]
    apply current_updateBuffers (current_swapped hs hmode ht)
    rw [← dequeuedBy_swapBuffers hgoes ht hback]
    intro b hb
    exact (knowsAddress_swapped ht).mpr (hknows b hb)

theorem current_destroySurface (hs : s.Current) : s.destroySurface.Current := by
  refine ⟨hs.mode, ?_, ?_, by simp [destroySurface], ?_⟩
  · simpa [destroySurface] using hs.slots
  · simpa [destroySurface, Function.comp_def] using hs.filled
  · -- no image is left in the slots
    intro image himage
    obtain ⟨i, -, himage⟩ := Option.bind_eq_some_iff.mp himage
    obtain ⟨c, hc, himage⟩ := Option.bind_eq_some_iff.mp himage
    simp only [destroySurface, List.getElem?_map] at hc
    obtain ⟨d, -, rfl⟩ := Option.map_eq_some_iff.mp hc
    cases himage

/-- A step that keeps to the condition keeps the image of the dequeued buffer in the back slot. -/
theorem current_next {step : EglStep} (hs : s.Current) (hfresh : s.FreshAddress step)
    (hnext : eglMachine.next s step = some s') : s'.Current := by
  have h := apply_of_next hnext
  cases step with
  | getBuffers env wantsFront wantsBack creates =>
    obtain rfl := Option.some.inj h
    exact current_getBuffers hs hfresh.2 wantsFront wantsBack creates
  | swapBuffers env =>
    obtain rfl := Option.some.inj h
    exact current_swapBuffers hs hfresh
  | displaySharedBuffer queued buffer =>
    -- not outside the shared buffer mode
    cases hfresh.1
  | destroySurface =>
    obtain rfl := Option.some.inj h
    exact current_destroySurface hs
  | allocate address width height =>
    simp only [apply] at h
    split_ifs at h
    obtain rfl := Option.some.inj h
    exact ⟨hs.mode, hs.slots, hs.filled, hs.empty, hs.back⟩
  | free b =>
    simp only [apply] at h
    split_ifs at h
    obtain rfl := Option.some.inj h
    exact ⟨hs.mode, hs.slots, hs.filled, hs.empty, hs.back⟩

theorem current_of_reachable (h : eglMachine.ReachableVia FreshAddress s) : s.Current := by
  apply h.invariant
  · rintro s ⟨slots, width, height, rfl | rfl⟩
    · refine ⟨rfl, by simp, ?_, ?_, by simp [backImage]⟩
      · simp [List.pairwise_replicate]
      · simp
    · exact ⟨rfl, by simp, by simp, by simp, by simp [backImage]⟩
  · intro s step s' hs hfresh hnext
    exact current_next hs hfresh hnext

/-! ## Stale images -/

/-- The back slot holds an image of another buffer than the dequeued one. -/
structure Stale (s : EglSurface) : Prop where
  window : s.isWindow = true
  backBuffer : s.backBuffer.isSome
  image : ∃ image ∈ s.backImage, ∀ b ∈ s.dequeued, image.source ≠ some b.id

/-- In slots that are filled in order, the first one that is free or holds the address is the only
one that can hold it. -/
theorem eq_of_filled {pre post : List ColorBuffer} {c d : ColorBuffer} {address : Nat}
    (hfilled : ((pre ++ c :: post).map ColorBuffer.buffer).Pairwise fun x y =>
      y ≠ none → x ≠ none ∧ x ≠ y)
    (hpre : ∀ e ∈ pre, e.buffer ≠ none ∧ e.buffer ≠ some address)
    (hc : c.buffer = none ∨ c.buffer = some address)
    (hd : d ∈ pre ++ c :: post) (haddress : d.buffer = some address) : d = c := by
  simp only [List.map_append, List.map_cons, List.pairwise_append, List.pairwise_cons,
    List.forall_mem_map] at hfilled
  rw [List.mem_append, List.mem_cons] at hd
  rcases hd with hd | rfl | hd
  · exact absurd haddress (hpre d hd).2
  · rfl
  · -- behind a free slot there is no address, and behind the address only others
    have hbehind := hfilled.2.1.1 d hd (by simp [haddress])
    rw [haddress] at hbehind
    exact absurd hc (not_or.mpr hbehind)

theorem stale_updateBuffers (hs : s.Current) {env : DequeueEnv} {b : NativeBuffer}
    (hb : s.dequeues env = some b) (hknows : ¬ s.KnowsAddress b) :
    (s.updateBuffers env).1.Stale := by
  obtain ⟨width, height, lost, ⟨hnone, -⟩ | ⟨b', hwindow, hb', hdequeue⟩⟩ :=
    updateBuffers_cases s env
  · rw [hb] at hnone
    cases hnone
  · obtain rfl : b = b' := Option.some.inj (hb.symm.trans hb')
    simp only [KnowsAddress, not_forall] at hknows
    obtain ⟨d, hd, haddress, image, himage, hsource⟩ := hknows
    rcases takeSlot_cases s b with ⟨pre, c, post, hslots, hpre, hc, htake⟩ | ⟨hall, -⟩
    · -- the slot with the other image is the one that is found
      have hfilled := hs.filled
      rw [hslots] at hfilled hd
      obtain rfl := eq_of_filled hfilled hpre hc hd haddress
      have htaken : (s.takeSlot b).colorBuffers =
          pre ++ { d with buffer := some b.address } :: post := by rw [htake]
      have hback : (s.takeSlot b).back = some pre.length := by rw [htake]
      have himport : ((s.takeSlot b).importBack b env.imports).1 = s.takeSlot b := by
        apply (importBack_cases htaken hback b env.imports).resolve_right
        rintro ⟨hnone, -⟩
        rw [show d.driImage = none from hnone] at himage
        cases himage
      rw [hdequeue, himport, htake]
      refine ⟨hwindow, ?_, image, ?_, ?_⟩
      · rw [backBuffer_of_split rfl rfl]
        rfl
      · rw [backImage_of_split rfl rfl]
        exact himage
      · intro b' hb'
        obtain rfl := Option.some.inj hb'
        exact hsource
    · exact absurd haddress (hall d hd).2

/-- A step that dequeues against the condition leaves a stale image. -/
theorem stale_next (hs : s.Current) {step : EglStep} (hmode : step.outsideShared = true)
    (hstale : ¬ s.FreshAddress step) (hnext : eglMachine.next s step = some s') : s'.Stale := by
  have h := apply_of_next hnext
  simp only [FreshAddress, hmode, true_and, not_forall] at hstale
  obtain ⟨b, hb, hknows⟩ := hstale
  cases step with
  | getBuffers env wantsFront wantsBack creates =>
    obtain rfl := Option.some.inj h
    have ht := stale_updateBuffers hs hb hknows
    rcases getBuffers_cases s env wantsFront wantsBack creates with hsame | ⟨-, hpbuffer, -⟩
    · rwa [hsame]
    · rw [ht.window] at hpbuffer
      cases hpbuffer
  | swapBuffers env =>
    obtain rfl := Option.some.inj h
    rcases swapBuffers_cases s env with ⟨hstays, -⟩ | ⟨hgoes, t, ht, hback, hqueued⟩
    · simp [dequeuedBy, hstays] at hb
    · rw [dequeuedBy_swapBuffers hgoes ht hback] at hb
      rw [hqueued]
      apply stale_updateBuffers (current_swapped hs hmode ht) hb
      rwa [knowsAddress_swapped ht]
  | displaySharedBuffer queued buffer => cases hmode
  | destroySurface => cases hb
  | allocate address width height => cases hb
  | free buffer => cases hb

/-- The stale image is returned for the next frame. -/
theorem Stale.getBuffers (hs : s.Stale) {env : DequeueEnv} (hearly : env.returnsEarly = false)
    (creates : Bool) : ¬ ReturnsCurrent (s.getBuffers env false true creates) := by
  obtain ⟨image, himage, hsource⟩ := hs.image
  obtain ⟨width, height, hsize⟩ := updateSize_eq s
  have hupdate : s.updateBuffers env = ({ s with width, height }, 0) := by
    simp [updateBuffers, hearly, hs.window, hs.backBuffer, hsize]
  have hback : s.back.isNone = false := by
    cases hnone : s.back with
    | none => simp [backImage, hnone] at himage
    | some i => rfl
  have hgot : (s.getBuffers env false true creates).1 = { s with width, height } ∧
      (s.getBuffers env false true creates).2.2.back = s.backImage := by
    cases hmode : s.inSharedBufferMode <;>
      simp [EglSurface.getBuffers, hupdate, getBack, hback, hmode, backImage]
  intro hcurrent
  simp only [ReturnsCurrent, hgot.1, hgot.2] at hcurrent
  obtain ⟨b, hb, hsame⟩ := hcurrent image himage
  exact hsource b hb hsame

/-! ## What is drawn -/

/-- The driver gets the image in the back slot. -/
theorem getBuffers_back (s : EglSurface) (env : DequeueEnv) (wantsFront wantsBack creates : Bool) :
    ∀ image ∈ (s.getBuffers env wantsFront wantsBack creates).2.2.back,
      image ∈ (s.getBuffers env wantsFront wantsBack creates).1.backImage := by
  -- the end of the function reads the slot, whatever it does with the front image
  have hget (t : EglSurface) (images : DriImageList) (hnone : images.back = none) :
      ∀ image ∈ (t.getBack wantsBack images).2.back, image ∈ t.backImage := by
    intro image himage
    simp only [getBack] at himage
    split_ifs at himage
    · simp [hnone] at himage
    · exact himage
    · simp [hnone] at himage
  simp only [getBuffers]
  split_ifs
  · simp
  · simp
  · exact fun image himage => himage
  · simp
  · exact hget _ _ rfl
  · exact hget _ _ rfl

/-- Outside the shared buffer mode, as long as no buffer was dequeued at the address of another one
whose image is still in a slot, `droid_image_get_buffers` returns the image of the buffer dequeued
for the current frame. The first step that does dequeue such a buffer makes the next call return the
image of the other one. -/
theorem backImage_current (h : eglMachine.ReachableVia FreshAddress s) :
    (∀ env wantsFront wantsBack creates,
      s.FreshAddress (.getBuffers env wantsFront wantsBack creates) →
        ReturnsCurrent (s.getBuffers env wantsFront wantsBack creates)) ∧
    ∀ step s', step.outsideShared = true → ¬ s.FreshAddress step →
      eglMachine.next s step = some s' → ∀ env creates, env.returnsEarly = false →
        ¬ ReturnsCurrent (s'.getBuffers env false true creates) := by
  have hs := current_of_reachable h
  constructor
  · intro env wantsFront wantsBack creates hfresh image himage
    have ht := current_getBuffers hs hfresh.2 wantsFront wantsBack creates
    exact ht.back image (getBuffers_back s env wantsFront wantsBack creates image himage)
  · intro step s' hmode hstale hnext env creates hearly
    exact (stale_next hs hmode hstale hnext).getBuffers hearly creates

/-- Two frames are drawn with one buffer. -/
def drawnTwice : EglSurface :=
  ((eglMachine.restrict FreshAddress).exec twoSlots
    [.allocate 16 640 480,
     .getBuffers { buffer := some ⟨0, 16, 640, 480⟩ } false true true,
     .swapBuffers { buffer := some ⟨0, 16, 640, 480⟩ }]).get (by decide)

theorem backImage_current_drawnTwice :
    drawnTwice.dequeued = some ⟨0, 16, 640, 480⟩ ∧
    (∀ env wantsFront wantsBack creates,
      drawnTwice.FreshAddress (.getBuffers env wantsFront wantsBack creates) →
        ReturnsCurrent (drawnTwice.getBuffers env wantsFront wantsBack creates)) ∧
    ∀ step s', step.outsideShared = true → ¬ drawnTwice.FreshAddress step →
      eglMachine.next drawnTwice step = some s' → ∀ env creates, env.returnsEarly = false →
        ¬ ReturnsCurrent (s'.getBuffers env false true creates) :=
  ⟨rfl, backImage_current (Machine.reachableVia_of_exec twoSlots_start _)⟩

/-- Two frames are drawn, each with its own buffer. Then the window is resized: it frees the first
buffer, and the one it allocates comes to the same address and is dequeued by the next swap. -/
def resizedWindow : EglSurface :=
  (eglMachine.exec twoSlots
    [.allocate 16 640 480,
     .getBuffers { buffer := some ⟨0, 16, 640, 480⟩ } false true true,
     .allocate 32 640 480,
     .swapBuffers { buffer := some ⟨1, 32, 640, 480⟩ },
     .free ⟨0, 16, 640, 480⟩,
     .allocate 16 1280 720,
     .swapBuffers { buffer := some ⟨2, 16, 1280, 720⟩ }]).get (by decide)

/-- The next frame is drawn into the image of the freed buffer, on a surface of the new size. -/
theorem resizedWindow_stale :
    eglMachine.Reachable resizedWindow ∧
    resizedWindow.inSharedBufferMode = false ∧ resizedWindow.lost = false ∧
    resizedWindow.dequeued = some ⟨2, 16, 1280, 720⟩ ∧
    (resizedWindow.getBuffers { buffer := none } false true true).1.dequeued =
      some ⟨2, 16, 1280, 720⟩ ∧
    (resizedWindow.getBuffers { buffer := none } false true true).2 =
      (1, { back := some ⟨0, some 0⟩ }) :=
  ⟨Machine.reachable_of_exec twoSlots_start _, rfl, rfl, rfl, rfl, rfl⟩

end EglSurface

end GloDroid.Egl

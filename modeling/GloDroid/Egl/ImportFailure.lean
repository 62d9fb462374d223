import GloDroid.Egl.Surface

/-!
# Failed Imports

`update_buffers` fails where `droid_window_dequeue_buffer` returns false. But for an image that
cannot be imported it returns −1, which is no false value: `update_buffers` returns 0, the surface
is not marked as lost, and its back slot has a buffer and no image. As long as this slot is the back
slot, later calls find its buffer and return 0 too.

Where no import fails, a back slot has its image in every run (`supplied_of_importsSucceed`), and
the assertion of `droid_image_get_buffers` on the shared buffer holds (`Supplied.sharedAssertion`).
-/

namespace GloDroid.Egl

open GloDroid.Base

namespace EglSurface

variable {s s' : EglSurface} {env : DequeueEnv} {b : NativeBuffer}

/-! ## The condition -/

/-- `update_buffers` dequeues a buffer for a slot without an image, and the image cannot be
created. -/
def ImportFails (s : EglSurface) (env : DequeueEnv) : Prop :=
  ∃ b, s.dequeues env = some b ∧ (s.takeSlot b).backImage = none ∧ env.imports = false

instance (s : EglSurface) (env : DequeueEnv) : Decidable (s.ImportFails env) :=
  decidable_of_iff ((s.dequeues env).any fun b => (s.takeSlot b).backImage.isNone && !env.imports)
    (by simp [ImportFails, Option.any_eq_true])

/-- The assertion of `droid_image_get_buffers` on `back->dri_image`, where it gets that far. -/
def SharedAssertion (s : EglSurface) (env : DequeueEnv) : Prop :=
  0 ≤ (s.updateBuffers env).2 → (s.updateBuffers env).1.inSharedBufferMode = true →
    (s.updateBuffers env).1.back.isSome → (s.updateBuffers env).1.backImage.isSome

/-- A success of `update_buffers` leaves a back slot with a buffer and an image, a failed import is
a failure that marks the surface, and the assertion holds. -/
structure FailureReported (s : EglSurface) (env : DequeueEnv) : Prop where
  success : (s.updateBuffers env).2 = 0 →
    (s.updateBuffers env).1.backBuffer.isSome ∧ (s.updateBuffers env).1.backImage.isSome
  failure : s.ImportFails env →
    (s.updateBuffers env).2 = -1 ∧ (s.updateBuffers env).1.lost = true
  assertion : s.SharedAssertion env

/-- A window surface has slots, a pbuffer surface has none. -/
def HasSlots (s : EglSurface) : Prop := s.isWindow = true ↔ s.colorBuffers ≠ []

/-- The function returns early, or it is a window surface whose back slot has an image, if it has a
buffer already, and for which no import fails. -/
def ImagePresent (s : EglSurface) (env : DequeueEnv) : Prop :=
  env.returnsEarly = true ∨
    s.isWindow = true ∧ (s.backBuffer.isSome → s.backImage.isSome) ∧ ¬ s.ImportFails env

/-! ## What a call leaves -/

@[simp] theorem backBuffer_updateSize (s : EglSurface) :
    s.updateSize.backBuffer = s.backBuffer := by
  obtain ⟨width, height, h⟩ := updateSize_eq s
  rw [h]
  rfl

@[simp] theorem backImage_updateSize (s : EglSurface) : s.updateSize.backImage = s.backImage := by
  obtain ⟨width, height, h⟩ := updateSize_eq s
  rw [h]
  rfl

theorem updateBuffers_early (hearly : env.returnsEarly = true) :
    s.updateBuffers env = (s, -1) := by
  simp [updateBuffers, hearly]

theorem updateBuffers_pbuffer (hearly : env.returnsEarly = false) (hwindow : s.isWindow = false) :
    s.updateBuffers env = (s, 0) := by
  simp [updateBuffers, hearly, hwindow]

theorem updateBuffers_kept (hearly : env.returnsEarly = false) (hwindow : s.isWindow = true)
    (hback : s.backBuffer.isSome) : s.updateBuffers env = (s.updateSize, 0) := by
  simp [updateBuffers, hearly, hwindow, hback]

theorem updateBuffers_noBuffer (hearly : env.returnsEarly = false) (hwindow : s.isWindow = true)
    (hback : ¬ s.backBuffer.isSome) (hbuffer : env.buffer = none) :
    s.updateBuffers env = ({ s with lost := true }, -1) := by
  simp [updateBuffers, hearly, hwindow, hback, dequeueBuffer, hbuffer]

theorem dequeues_eq_some_iff :
    s.dequeues env = some b ↔
      env.returnsEarly = false ∧ s.isWindow = true ∧ s.backBuffer = none ∧ env.buffer = some b := by
  unfold dequeues
  cases env.returnsEarly <;> cases s.isWindow <;> cases s.backBuffer <;> simp

/-- A failed import is taken for a success. -/
theorem updateBuffers_dequeued (hb : s.dequeues env = some b) :
    s.updateBuffers env = (((s.takeSlot b).importBack b env.imports).1.updateSize, 0) := by
  obtain ⟨hearly, hwindow, hback, hbuffer⟩ := dequeues_eq_some_iff.mp hb
  have hdequeue : (s.dequeueBuffer env).2 ≠ 0 := by simp [dequeueBuffer_eq_zero, hbuffer]
  simp only [updateBuffers, hearly, hwindow, hback, Bool.false_eq_true, Bool.not_true, if_false,
    Option.isSome_none, if_neg hdequeue]
  simp only [dequeueBuffer, hbuffer]

/-- After an import the back slot has the buffer, and it has an image unless that could not be
created. -/
theorem importBack_takeSlot (hslots : s.colorBuffers ≠ []) (b : NativeBuffer) (imports : Bool) :
    ((s.takeSlot b).importBack b imports).1.backBuffer = some b.address ∧
      (((s.takeSlot b).importBack b imports).1.backImage.isSome ↔
        (s.takeSlot b).backImage.isSome ∨ imports = true) := by
  obtain ⟨pre, c, post, hsplit, hback, hbuffer⟩ := takeSlot_split hslots b
  have hkept := (backBuffer_of_split hsplit hback).trans hbuffer
  unfold importBack
  split_ifs with hsome himports
  · exact ⟨hkept, by simp [hsome]⟩
  · simp [backBuffer, backImage, hback, hsplit, modify_split, hbuffer, himports]
  · exact ⟨hkept, by simp [himports]⟩

/-- A dequeued buffer is in the back slot, which has an image unless the import fails. -/
theorem updateBuffers_of_dequeues (hslots : s.colorBuffers ≠ []) (hb : s.dequeues env = some b) :
    (s.updateBuffers env).2 = 0 ∧ (s.updateBuffers env).1.backBuffer.isSome ∧
      ((s.updateBuffers env).1.backImage.isSome ↔ ¬ s.ImportFails env) := by
  obtain ⟨hbuffer, himage⟩ := importBack_takeSlot hslots b env.imports
  have hfails : s.ImportFails env ↔ (s.takeSlot b).backImage = none ∧ env.imports = false := by
    simp [ImportFails, hb]
  rw [updateBuffers_dequeued hb, hfails]
  refine ⟨rfl, by simp [hbuffer], ?_⟩
  rw [backImage_updateSize, himage]
  simp [Option.isSome_iff_ne_none, or_iff_not_imp_left]

theorem not_importFails_of_dequeues (h : s.dequeues env = none) : ¬ s.ImportFails env := by
  simp [ImportFails, h]

section Cases

variable (hearly : env.returnsEarly = false)
include hearly

theorem imagePresent_iff :
    s.ImagePresent env ↔
      s.isWindow = true ∧ (s.backBuffer.isSome → s.backImage.isSome) ∧ ¬ s.ImportFails env := by
  simp [ImagePresent, hearly]

/-- A pbuffer surface gets a success without a back slot. -/
theorem failureReported_pbuffer (hslots : s.HasSlots) (hwindow : s.isWindow = false) :
    s.FailureReported env ↔ s.ImagePresent env := by
  have hempty : s.colorBuffers = [] := by
    by_contra hne
    exact absurd (hslots.mpr hne) (by simp [hwindow])
  have hback : s.backBuffer = none := by simp [backBuffer, hempty]
  have hupdate := updateBuffers_pbuffer hearly hwindow
  refine iff_of_false (fun h => ?_) (by simp [imagePresent_iff hearly, hwindow])
  have hsuccess := (h.success (by rw [hupdate])).1
  simp [hupdate, hback] at hsuccess

/-- A buffer that is in the back slot already is taken as it is. -/
theorem failureReported_kept (hwindow : s.isWindow = true) (hback : s.backBuffer.isSome) :
    s.FailureReported env ↔ s.ImagePresent env := by
  have hfails : ¬ s.ImportFails env :=
    not_importFails_of_dequeues (by simp [dequeues, hback])
  have hupdate := updateBuffers_kept hearly hwindow hback
  have hpresent : s.ImagePresent env ↔ s.backImage.isSome := by
    simp [imagePresent_iff hearly, hwindow, hback, hfails]
  rw [hpresent]
  constructor
  · intro h
    simpa [hupdate] using (h.success (by rw [hupdate])).2
  · intro himage
    refine ⟨?_, fun h => absurd h hfails, ?_⟩
    · simp [hupdate, hback, himage]
    · simp [SharedAssertion, hupdate, himage]

theorem failureReported_noBuffer (hwindow : s.isWindow = true) (hback : ¬ s.backBuffer.isSome)
    (hbuffer : env.buffer = none) : s.FailureReported env ↔ s.ImagePresent env := by
  have hfails : ¬ s.ImportFails env :=
    not_importFails_of_dequeues (by simp [dequeues, hbuffer])
  have hupdate := updateBuffers_noBuffer hearly hwindow hback hbuffer
  have hpresent : s.ImagePresent env := by
    simp [imagePresent_iff hearly, hwindow, hback, hfails]
  refine iff_of_true ⟨?_, fun h => absurd h hfails, ?_⟩ hpresent
  · simp [hupdate]
  · simp [SharedAssertion, hupdate]

theorem failureReported_dequeued (hslots : s.HasSlots) (hb : s.dequeues env = some b) :
    s.FailureReported env ↔ s.ImagePresent env := by
  obtain ⟨-, hwindow, hback, -⟩ := dequeues_eq_some_iff.mp hb
  obtain ⟨hsuccess, hbuffer, himage⟩ := updateBuffers_of_dequeues (hslots.mp hwindow) hb
  have hpresent : s.ImagePresent env ↔ ¬ s.ImportFails env := by
    simp [imagePresent_iff hearly, hwindow, hback]
  rw [hpresent, ← himage]
  constructor
  · intro h
    exact (h.success hsuccess).2
  · intro h
    exact ⟨fun _ => ⟨hbuffer, h⟩, fun hfails => absurd hfails (himage.mp h), fun _ _ _ => h⟩

end Cases

/-- The cases together. -/
theorem failureReported_iff (hslots : s.HasSlots) :
    s.FailureReported env ↔ s.ImagePresent env := by
  cases hearly : env.returnsEarly with
  | true =>
    have hnone : s.dequeues env = none := by simp [dequeues, hearly]
    have hupdate : s.updateBuffers env = (s, -1) := updateBuffers_early hearly
    refine iff_of_true ⟨?_, ?_, ?_⟩ (.inl hearly)
    · simp [hupdate]
    · exact fun hfails => absurd hfails (not_importFails_of_dequeues hnone)
    · simp [SharedAssertion, hupdate]
  | false =>
    cases hwindow : s.isWindow with
    | false => exact failureReported_pbuffer hearly hslots hwindow
    | true =>
      by_cases hback : s.backBuffer.isSome
      · exact failureReported_kept hearly hwindow hback
      · cases hbuffer : env.buffer with
        | none => exact failureReported_noBuffer hearly hwindow hback hbuffer
        | some b =>
          have hb : s.dequeues env = some b :=
            dequeues_eq_some_iff.mpr ⟨hearly, hwindow, by simpa using hback, hbuffer⟩
          exact failureReported_dequeued hearly hslots hb

/-! ## Runs -/

/-- A back slot has a buffer and an image. -/
structure Supplied (s : EglSurface) : Prop where
  slots : s.HasSlots
  back : s.back.isSome → s.backBuffer.isSome ∧ s.backImage.isSome

/-- No import fails in the step. -/
def StepImports (s : EglSurface) : EglStep → Prop
  | .getBuffers env _ _ _ => ¬ s.ImportFails env
  | .swapBuffers env =>
    (env.remainsShared || env.switchFails) = false → ¬ s.enqueueBuffer.ImportFails env.toDequeueEnv
  | _ => True

instance (s : EglSurface) (step : EglStep) : Decidable (s.StepImports step) :=
  match step with
  | .getBuffers _ _ _ _ => inferInstanceAs (Decidable (¬ _))
  | .swapBuffers _ => inferInstanceAs (Decidable (_ → _))
  | .displaySharedBuffer _ _ | .destroySurface | .allocate _ _ _ | .free _ => isTrue trivial

/-- A surface with the same slots in which no buffer is in the back slot either. -/
theorem importFails_congr {t : EglSurface} (hwindow : t.isWindow = s.isWindow)
    (hslots : t.colorBuffers = s.colorBuffers) (ht : t.backBuffer = none)
    (hs : s.backBuffer = none) : t.ImportFails env ↔ s.ImportFails env := by
  have himage : ∀ b, (t.takeSlot b).backImage = (s.takeSlot b).backImage := by
    intro b
    simp only [takeSlot, hslots]
    split <;> rfl
  simp only [ImportFails, dequeues, hwindow, ht, hs, himage]

theorem supplied_start (hs : eglMachine.start s) : s.Supplied := by
  obtain ⟨slots, width, height, rfl | rfl⟩ := hs
  · exact ⟨by simp [HasSlots], by simp⟩
  · exact ⟨by simp [HasSlots], by simp⟩

theorem hasSlots_updateBuffers (hslots : s.HasSlots) : (s.updateBuffers env).1.HasSlots := by
  obtain ⟨width, height, lost, ⟨-, hsame⟩ | ⟨b, hwindow, -, hdequeue⟩⟩ := updateBuffers_cases s env
  · rw [hsame]
    exact hslots
  · obtain ⟨pre, c, post, hsplit, hback, -⟩ := takeSlot_split (hslots.mp hwindow) b
    have htake : (s.takeSlot b).isWindow = true := by
      rcases takeSlot_cases s b with ⟨_, _, _, -, -, -, htake⟩ | ⟨-, htake⟩
      · simp [htake, hwindow]
      · simp [htake, hwindow]
    rw [hdequeue]
    rcases importBack_cases hsplit hback b env.imports with hsame | ⟨-, himport⟩
    · simp [HasSlots, hsame, hsplit, htake]
    · simp [HasSlots, himport, htake]

theorem Supplied.updateBuffers (hs : s.Supplied) (hfails : ¬ s.ImportFails env) :
    (s.updateBuffers env).1.Supplied := by
  refine ⟨hasSlots_updateBuffers hs.slots, ?_⟩
  cases hb : s.dequeues env with
  | some b =>
    obtain ⟨-, hwindow, -, -⟩ := dequeues_eq_some_iff.mp hb
    obtain ⟨-, hbuffer, himage⟩ := updateBuffers_of_dequeues (hs.slots.mp hwindow) hb
    exact fun _ => ⟨hbuffer, himage.mpr hfails⟩
  | none =>
    obtain ⟨width, height, lost, ⟨-, hsame⟩ | ⟨b, -, hsome, -⟩⟩ := updateBuffers_cases s env
    · rw [hsame]
      exact hs.back
    · rw [hb] at hsome
      cases hsome

theorem Supplied.enqueueBuffer (hs : s.Supplied) : s.enqueueBuffer.Supplied :=
  ⟨hs.slots, fun h => by cases h⟩

theorem Supplied.setMode (hs : s.Supplied) (shared : Bool) :
    Supplied { s with inSharedBufferMode := shared } :=
  ⟨hs.slots, hs.back⟩

theorem Supplied.getBuffers (hs : s.Supplied) {wantsFront wantsBack creates : Bool}
    (hfails : ¬ s.ImportFails env) :
    (s.getBuffers env wantsFront wantsBack creates).1.Supplied := by
  have hupdate := hs.updateBuffers hfails
  rcases getBuffers_cases s env wantsFront wantsBack creates with hsame | ⟨-, -, hfront⟩
  · rwa [hsame]
  · rw [hfront]
    exact ⟨hupdate.slots, hupdate.back⟩

theorem Supplied.swapBuffers (hs : s.Supplied) {env : SwapEnv}
    (himports : s.StepImports (.swapBuffers env)) : (s.swapBuffers env).Supplied := by
  rcases swapBuffers_cases s env with ⟨-, hsame | hsame⟩ | ⟨hgoes, t, ht, hnone, hswap⟩
  · rwa [hsame]
  · rw [hsame]
    exact hs.enqueueBuffer
  · rw [hswap]
    have ht' : t.Supplied ∧ t.isWindow = s.isWindow ∧ t.colorBuffers = s.colorBuffers := by
      rcases ht with rfl | rfl
      · exact ⟨hs, rfl, rfl⟩
      · exact ⟨hs.enqueueBuffer, rfl, rfl⟩
    obtain ⟨hsupplied, hwindow, hslots⟩ := ht'
    have hcongr : s.enqueueBuffer.ImportFails env.toDequeueEnv ↔
        ImportFails { t with inSharedBufferMode := env.sharedAfter } env.toDequeueEnv :=
      importFails_congr hwindow.symm hslots.symm rfl hnone
    apply (hsupplied.setMode env.sharedAfter).updateBuffers
    exact fun hfails => himports hgoes (hcongr.mpr hfails)

theorem Supplied.displaySharedBuffer (hs : s.Supplied) {queued : Bool}
    {buffer : Option NativeBuffer} (h : s.displaySharedBuffer queued buffer = some s') :
    s'.Supplied := by
  simp only [EglSurface.displaySharedBuffer] at h
  cases hback : s.back with
  | none => simp [hback] at h
  | some i =>
    simp only [hback] at h
    split_ifs at h
    · exact Option.some.inj h ▸ hs
    · exact Option.some.inj h ▸ hs
    · cases buffer with
      | none =>
        obtain rfl := Option.some.inj h
        exact ⟨hs.slots, fun hsome => by cases hsome⟩
      | some b =>
        obtain rfl := Option.some.inj h
        refine ⟨by simpa [HasSlots] using hs.slots, fun _ => ?_⟩
        -- the slot gets another buffer and keeps its image
        have hsupplied := hs.back (by simp [hback])
        simp only [backBuffer, backImage, hback, Option.bind_some] at hsupplied ⊢
        cases hslot : s.colorBuffers[i]? with
        | none => simp [hslot] at hsupplied
        | some c => simpa [hslot] using hsupplied.2

/-- A step without a failed import keeps the back slot supplied, until the surface is destroyed. -/
theorem Supplied.next {step : EglStep} (hs : s.Supplied) (himports : s.StepImports step)
    (hnext : eglMachine.next s step = some s') (hgone : s'.gone = false) : s'.Supplied := by
  have happly := apply_of_next hnext
  cases step with
  | getBuffers env wantsFront wantsBack creates =>
    obtain rfl := Option.some.inj happly
    exact hs.getBuffers himports
  | swapBuffers env =>
    obtain rfl := Option.some.inj happly
    exact hs.swapBuffers himports
  | displaySharedBuffer queued buffer => exact hs.displaySharedBuffer happly
  | destroySurface =>
    obtain rfl := Option.some.inj happly
    cases hgone
  | allocate address width height =>
    simp only [apply] at happly
    split_ifs at happly
    obtain rfl := Option.some.inj happly
    exact ⟨hs.slots, hs.back⟩
  | free b =>
    simp only [apply] at happly
    split_ifs at happly
    obtain rfl := Option.some.inj happly
    exact ⟨hs.slots, hs.back⟩

theorem gone_of_next {step : EglStep} (hnext : eglMachine.next s step = some s') :
    s.gone = false := by
  simp only [eglMachine] at hnext
  split_ifs at hnext with hgone
  simpa using hgone

theorem supplied_of_importsSucceed (h : eglMachine.ReachableVia StepImports s) :
    s.gone = false → s.Supplied := by
  apply h.invariant fun s => s.gone = false → s.Supplied
  · exact fun _ hstart _ => supplied_start hstart
  · exact fun _ _ _ hs himports hnext => (hs (gone_of_next hnext)).next himports hnext

theorem Supplied.sharedAssertion (hs : s.Supplied) (hfails : ¬ s.ImportFails env) :
    s.SharedAssertion env :=
  fun _ _ hback => ((hs.updateBuffers hfails).back hback).2

/-- A supplied window surface meets the condition. -/
theorem Supplied.imagePresent (hs : s.Supplied) (hwindow : s.isWindow = true)
    (hfails : ¬ s.ImportFails env) : s.ImagePresent env := by
  refine .inr ⟨hwindow, fun hbuffer => (hs.back ?_).2, hfails⟩
  cases hback : s.back with
  | none => simp [backBuffer, hback] at hbuffer
  | some i => rfl

/-- **When a failed import is reported**: exactly where none fails, and no slot is used that an
earlier failure has left without an image. In a run without failed imports no such slot is left, and
the assertion on the shared buffer holds. -/
theorem importFailure_reported_iff (s : EglSurface) (env : DequeueEnv) :
    (s.HasSlots → (s.FailureReported env ↔ s.ImagePresent env)) ∧
    (eglMachine.ReachableVia StepImports s → s.gone = false → ¬ s.ImportFails env →
      s.SharedAssertion env ∧ (s.isWindow = true → s.FailureReported env)) := by
  refine ⟨fun hslots => failureReported_iff hslots, fun h hgone hfails => ?_⟩
  have hs := supplied_of_importsSucceed h hgone
  refine ⟨hs.sharedAssertion hfails, fun hwindow => ?_⟩
  exact (failureReported_iff hs.slots).mpr (hs.imagePresent hwindow hfails)

/-- A window surface after its first frame, whose image was imported. The swap has enqueued the
buffer and failed to set the buffer mode, so no buffer is dequeued. -/
def enqueuedFrame : EglSurface :=
  ((eglMachine.restrict StepImports).exec twoSlots
    [.allocate 4096 640 480,
     .getBuffers { buffer := some ⟨0, 4096, 640, 480⟩ } false true true,
     .allocate 8192 640 480,
     .swapBuffers { buffer := none, switchFails := true }]).get (by decide)

theorem enqueuedFrame_hasSlots : enqueuedFrame.HasSlots :=
  iff_of_true rfl (by decide)

/-- The next frame dequeues the second buffer, and its image is created. -/
def secondImport : DequeueEnv := { buffer := some ⟨1, 8192, 640, 480⟩ }

theorem importFailure_reported_iff_enqueuedFrame :
    enqueuedFrame.dequeues secondImport = some ⟨1, 8192, 640, 480⟩ ∧
    (enqueuedFrame.updateBuffers secondImport).2 = 0 ∧
    (enqueuedFrame.updateBuffers secondImport).1.backImage = some ⟨1, some 1⟩ ∧
    (enqueuedFrame.FailureReported secondImport ↔ enqueuedFrame.ImagePresent secondImport) ∧
    enqueuedFrame.SharedAssertion secondImport ∧
    (enqueuedFrame.isWindow = true → enqueuedFrame.FailureReported secondImport) :=
  ⟨rfl, rfl, rfl, (importFailure_reported_iff enqueuedFrame _).1 enqueuedFrame_hasSlots,
    (importFailure_reported_iff enqueuedFrame _).2
      (Machine.reachableVia_of_exec twoSlots_start _) rfl (by decide)⟩

/-- A window surface in front of its first frame, with the buffer of its window. -/
def allocatedSlot : EglSurface :=
  { isWindow := true, colorBuffers := [{}], width := 640, height := 480, allocated := 1
    window := [⟨0, 4096, 640, 480⟩] }

theorem allocatedSlot_reachable : eglMachine.Reachable allocatedSlot :=
  .step (a := .allocate 4096 640 480) (.start ⟨0, 640, 480, .inl rfl⟩) trivial rfl

/-- The import of its buffer fails. -/
def failedImport : DequeueEnv := { buffer := some ⟨0, 4096, 640, 480⟩, imports := false }

/-- The same surface after the first swap, into the shared buffer mode, with a failed import. -/
def imagelessShared : EglSurface :=
  { allocatedSlot with
    colorBuffers := [{ buffer := some 4096 }], back := some 0, inSharedBufferMode := true
    dequeued := some ⟨0, 4096, 640, 480⟩ }

/-- The failed import is a success, and the assertion fails in the next frame. -/
theorem importFailure_unreported :
    (eglMachine.Reachable allocatedSlot ∧ allocatedSlot.ImportFails failedImport ∧
      (allocatedSlot.updateBuffers failedImport).2 = 0 ∧
      (allocatedSlot.updateBuffers failedImport).1.lost = false ∧
      ¬ allocatedSlot.FailureReported failedImport) ∧
    eglMachine.Reachable imagelessShared ∧
      ¬ imagelessShared.SharedAssertion { buffer := none } := by
  have hswapped : eglMachine.Reachable imagelessShared :=
    .step (a := .swapBuffers { toDequeueEnv := failedImport, sharedAfter := true })
      allocatedSlot_reachable trivial rfl
  refine ⟨⟨allocatedSlot_reachable, ⟨_, rfl, rfl, rfl⟩, rfl, rfl, fun h => ?_⟩, hswapped,
    fun h => ?_⟩
  · cases (h.success rfl).2
  · cases h (by decide) rfl rfl

end EglSurface

end GloDroid.Egl

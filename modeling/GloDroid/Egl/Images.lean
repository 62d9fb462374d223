import GloDroid.Egl.Surface
import Mathlib.Data.List.Nodup

/-!
# The Images of a Surface

Who destroys an image depends on where it is kept: an image imported for a slot is destroyed when
all slots are reset or with the surface, and the image of a pbuffer is kept in `dri_image_pbuffer`,
which nobody destroys.

At any time every image created for a surface is in exactly one place: a slot, `dri_image_pbuffer`,
or among the destroyed ones. So `droid_destroy_surface` leaves nothing behind exactly when
`dri_image_pbuffer` is null (`destroySurface_exact`).
-/

namespace GloDroid.Egl

open GloDroid.Base

namespace EglSurface

variable {s s' : EglSurface}

/-! ## Where the images are -/

/-- The numbers of the images in the slots. -/
def slotIds (cs : List ColorBuffer) : List Nat := (slotImages cs).map DriImage.id

/-- The numbers of all images, wherever they are. -/
def imageIds (s : EglSurface) : List Nat :=
  s.destroyed ++ slotIds s.colorBuffers ++ s.driImagePbuffer.toList.map DriImage.id

@[simp] theorem slotIds_append (pre post : List ColorBuffer) :
    slotIds (pre ++ post) = slotIds pre ++ slotIds post := by
  simp [slotIds, slotImages]

@[simp] theorem slotIds_cons (c : ColorBuffer) (cs : List ColorBuffer) :
    slotIds (c :: cs) = c.driImage.toList.map DriImage.id ++ slotIds cs := by
  cases h : c.driImage <;> simp [slotIds, slotImages, h]

@[simp] theorem slotIds_resetSlots (address : Nat) (cs : List ColorBuffer) :
    slotIds (resetSlots address cs) = [] := by
  cases cs with
  | nil => rfl
  | cons c rest => simp [resetSlots, slotIds, slotImages]

/-- The slots without their images. -/
theorem slotIds_map_none (cs : List ColorBuffer) :
    slotIds (cs.map fun c => { c with driImage := none }) = [] := by
  simp [slotIds, slotImages]

/-- Every image created so far is in exactly one place; a window surface has slots, and no image of
a pbuffer. -/
structure Accounted (s : EglSurface) : Prop where
  images : s.imageIds.Perm (List.range s.created)
  slots : s.isWindow = true → s.colorBuffers ≠ []
  pbuffer : s.isWindow = true → s.driImagePbuffer = none

/-- One more image. -/
theorem perm_range_succ {ids ids' : List Nat} {created : Nat}
    (h : ids.Perm (List.range created)) (h' : ids'.Perm (created :: ids)) :
    ids'.Perm (List.range (created + 1)) := by
  rw [List.range_succ]
  have hcons : ids'.Perm (created :: List.range created) := h'.trans (h.cons created)
  exact hcons.trans (List.perm_append_singleton created _).symm

theorem accounted_takeSlot (hs : s.Accounted) (b : NativeBuffer) : (s.takeSlot b).Accounted := by
  rcases takeSlot_cases s b with ⟨pre, c, post, hslots, -, -, htake⟩ | ⟨-, htake⟩
  · -- only the address in the slot changes
    rw [htake]
    refine ⟨?_, by simp, hs.pbuffer⟩
    simpa [imageIds, hslots] using hs.images
  · rw [htake]
    refine ⟨?_, ?_, hs.pbuffer⟩
    · -- the images of the slots are destroyed
      apply List.Perm.trans _ hs.images
      simp only [imageIds, slotIds_resetSlots, List.append_nil]
      exact List.Perm.append_right _ List.perm_append_comm
    · intro hwindow hreset
      have hslots := hs.slots hwindow
      cases hcs : s.colorBuffers with
      | nil => exact hslots hcs
      | cons c rest => simp [hcs, resetSlots] at hreset

theorem accounted_importBack (hs : s.Accounted) {pre post : List ColorBuffer} {c : ColorBuffer}
    (hslots : s.colorBuffers = pre ++ c :: post) (hback : s.back = some pre.length)
    (b : NativeBuffer) (imports : Bool) : (s.importBack b imports).1.Accounted := by
  rcases importBack_cases hslots hback b imports with hsame | ⟨hnone, himport⟩
  · rwa [hsame]
  · rw [himport]
    refine ⟨perm_range_succ hs.images ?_, by simp, hs.pbuffer⟩
    -- the new image stands in the middle of the slots
    simp only [imageIds, hslots, slotIds_append, slotIds_cons, hnone, Option.toList_some,
      Option.toList_none, List.map_cons, List.map_nil, List.nil_append, List.append_assoc,
      List.cons_append]
    rw [← List.append_assoc, ← List.append_assoc s.destroyed]
    exact List.perm_middle

theorem accounted_updateBuffers (hs : s.Accounted) (env : DequeueEnv) :
    (s.updateBuffers env).1.Accounted := by
  obtain ⟨width, height, lost, ⟨-, hsame⟩ | ⟨b, hwindow, -, hdequeue⟩⟩ := updateBuffers_cases s env
  · rw [hsame]
    exact ⟨hs.images, hs.slots, hs.pbuffer⟩
  · obtain ⟨pre, c, post, hslots, hback, -⟩ := takeSlot_split (hs.slots hwindow) b
    have ht := accounted_importBack (accounted_takeSlot hs b) hslots hback b env.imports
    rw [hdequeue]
    exact ⟨ht.images, ht.slots, ht.pbuffer⟩

theorem accounted_getBuffers (hs : s.Accounted) (env : DequeueEnv)
    (wantsFront wantsBack creates : Bool) :
    (s.getBuffers env wantsFront wantsBack creates).1.Accounted := by
  have ht := accounted_updateBuffers hs env
  rcases getBuffers_cases s env wantsFront wantsBack creates with
    hsame | ⟨hnone, hpbuffer, hfront⟩
  · rwa [hsame]
  · rw [hfront]
    refine ⟨perm_range_succ ht.images ?_, ht.slots, by simp [hpbuffer]⟩
    simp only [imageIds, hnone, Option.toList_some, Option.toList_none, List.map_cons,
      List.map_nil, List.append_nil]
    exact List.perm_append_singleton _ _

theorem accounted_swapBuffers (hs : s.Accounted) (env : SwapEnv) :
    (s.swapBuffers env).Accounted := by
  have henqueue : s.enqueueBuffer.Accounted := ⟨hs.images, hs.slots, hs.pbuffer⟩
  rcases swapBuffers_cases s env with ⟨-, hsame | hqueued⟩ | ⟨-, t, ht, -, hnext⟩
  · rwa [hsame]
  · rwa [hqueued]
  · have ht : t.Accounted := by rcases ht with rfl | rfl <;> assumption
    rw [hnext]
    apply accounted_updateBuffers
    exact ⟨ht.images, ht.slots, ht.pbuffer⟩

theorem slotIds_modify_buffer (cs : List ColorBuffer) (i address : Nat) :
    slotIds (cs.modify i fun c => { c with buffer := some address }) = slotIds cs := by
  induction cs generalizing i with
  | nil => simp
  | cons c rest ih => cases i <;> simp [ih]

theorem accounted_displaySharedBuffer (hs : s.Accounted) {queued : Bool}
    {buffer : Option NativeBuffer} (h : s.displaySharedBuffer queued buffer = some s') :
    s'.Accounted := by
  unfold displaySharedBuffer at h
  cases hback : s.back with
  | none => simp [hback] at h
  | some i =>
    simp only [hback] at h
    split_ifs at h
    · obtain rfl := Option.some.inj h
      exact hs
    · obtain rfl := Option.some.inj h
      exact hs
    · cases buffer with
      | none =>
        obtain rfl := Option.some.inj h
        exact ⟨hs.images, hs.slots, hs.pbuffer⟩
      | some b =>
        -- the slot takes another address and keeps its image
        obtain rfl := Option.some.inj h
        refine ⟨?_, ?_, hs.pbuffer⟩
        · simpa only [imageIds, slotIds_modify_buffer] using hs.images
        · simpa using hs.slots

theorem accounted_destroySurface (hs : s.Accounted) : s.destroySurface.Accounted := by
  refine ⟨?_, ?_, hs.pbuffer⟩
  · apply List.Perm.trans _ hs.images
    simp only [imageIds, destroySurface, slotIds_map_none, List.append_nil]
    exact List.Perm.append_right _ List.perm_append_comm
  · simpa [destroySurface] using hs.slots

/-- Each step keeps every image in one place. -/
theorem accounted_next {step : EglStep} (hs : s.Accounted)
    (hnext : eglMachine.next s step = some s') : s'.Accounted := by
  have h := apply_of_next hnext
  cases step with
  | getBuffers env wantsFront wantsBack creates =>
    obtain rfl := Option.some.inj h
    exact accounted_getBuffers hs env wantsFront wantsBack creates
  | swapBuffers env =>
    obtain rfl := Option.some.inj h
    exact accounted_swapBuffers hs env
  | displaySharedBuffer queued buffer => exact accounted_displaySharedBuffer hs h
  | destroySurface =>
    obtain rfl := Option.some.inj h
    exact accounted_destroySurface hs
  | allocate address width height =>
    simp only [apply] at h
    split_ifs at h
    obtain rfl := Option.some.inj h
    exact ⟨hs.images, hs.slots, hs.pbuffer⟩
  | free b =>
    simp only [apply] at h
    split_ifs at h
    obtain rfl := Option.some.inj h
    exact ⟨hs.images, hs.slots, hs.pbuffer⟩

/-- Every image created for a surface is in exactly one place, at any time. -/
theorem accounted_of_reachable (h : eglMachine.Reachable s) : s.Accounted := by
  apply h.invariant
  · rintro s ⟨slots, width, height, rfl | rfl⟩
    · refine ⟨?_, by simp, by simp⟩
      simp [imageIds, slotIds, slotImages]
    · exact ⟨.refl _, by simp, by simp⟩
  · intro s step s' hs _ hnext
    exact accounted_next hs hnext

/-! ## The teardown -/

/-- No image is destroyed twice. -/
theorem Accounted.count_le_one (hs : s.Accounted) (image : Nat) : s.destroyed.count image ≤ 1 := by
  have hnodup : s.imageIds.Nodup := hs.images.nodup_iff.mpr List.nodup_range
  have hsub : s.destroyed.Sublist s.imageIds := by
    rw [imageIds, List.append_assoc]
    exact List.sublist_append_left _ _
  exact List.nodup_iff_count_le_one.mp (hnodup.sublist hsub) image

theorem Accounted.count_imageIds (hs : s.Accounted) {image : Nat} (h : image < s.created) :
    s.imageIds.count image = 1 := by
  rw [hs.images.count_eq]
  exact List.count_eq_one_of_mem List.nodup_range (List.mem_range.mpr h)

theorem imageIds_destroySurface (s : EglSurface) :
    s.destroySurface.imageIds =
      s.destroySurface.destroyed ++ s.driImagePbuffer.toList.map DriImage.id := by
  simp only [imageIds, destroySurface, slotIds_map_none, List.append_nil]

/-- When `droid_destroy_surface` returns, every image created for the surface was destroyed exactly
once if and only if `dri_image_pbuffer` was null. That is so for every window surface, and no image
of any surface is destroyed twice. -/
theorem destroySurface_exact (h : eglMachine.Reachable s)
    (hnext : eglMachine.next s .destroySurface = some s') :
    ((∀ image < s'.created, s'.destroyed.count image = 1) ↔ s.driImagePbuffer = none) ∧
    (∀ image, s'.destroyed.count image ≤ 1) ∧
    (s.isWindow = true → s.driImagePbuffer = none) := by
  have hs := accounted_of_reachable h
  obtain rfl := Option.some.inj (apply_of_next hnext)
  have ht := accounted_destroySurface hs
  refine ⟨⟨?_, ?_⟩, ht.count_le_one, hs.pbuffer⟩
  · intro hexact
    cases hpbuffer : s.driImagePbuffer with
    | none => rfl
    | some image =>
      -- the image of the pbuffer is still there, so it cannot be among the destroyed ones as well
      have hids := imageIds_destroySurface s
      rw [hpbuffer] at hids
      have hmem : image.id ∈ s.destroySurface.imageIds := by simp [hids]
      have hlt : image.id < s.destroySurface.created :=
        List.mem_range.mp (ht.images.subset hmem)
      have hcount := ht.count_imageIds hlt
      have hdestroyed := hexact image.id hlt
      simp [hids, hdestroyed] at hcount
  · intro hnone image hlt
    have hcount := ht.count_imageIds hlt
    rw [imageIds_destroySurface, hnone] at hcount
    simpa using hcount

/-- A window surface with one slot. -/
def oneSlot : EglSurface := { isWindow := true, colorBuffers := [{}], width := 640, height := 480 }

theorem oneSlot_start : eglMachine.start oneSlot := ⟨0, 640, 480, .inl rfl⟩

/-- The surface has drawn a frame and dequeued another buffer for the next one, for which the slot
was reset. -/
def twoFrames : EglSurface :=
  (eglMachine.exec oneSlot
    [.allocate 16 640 480,
     .getBuffers { buffer := some ⟨0, 16, 640, 480⟩ } false true true,
     .allocate 32 640 480,
     .swapBuffers { buffer := some ⟨1, 32, 640, 480⟩ }]).get (by decide)

theorem destroySurface_exact_twoFrames :
    twoFrames.destroySurface.created = 2 ∧
    ((∀ image < twoFrames.destroySurface.created,
        twoFrames.destroySurface.destroyed.count image = 1) ↔ twoFrames.driImagePbuffer = none) ∧
    (∀ image, twoFrames.destroySurface.destroyed.count image ≤ 1) ∧
    (twoFrames.isWindow = true → twoFrames.driImagePbuffer = none) :=
  ⟨rfl, destroySurface_exact (Machine.reachable_of_exec oneSlot_start _) rfl⟩

/-- A pbuffer surface. -/
def pbuffer : EglSurface := { isWindow := false, colorBuffers := [], width := 64, height := 64 }

theorem pbuffer_start : eglMachine.start pbuffer := ⟨0, 64, 64, .inr rfl⟩

/-- The pbuffer surface after its front image was created. -/
def drawnPbuffer : EglSurface :=
  (eglMachine.exec pbuffer [.getBuffers { buffer := none } true false true]).get (by decide)

/-- The front image of a pbuffer surface is not destroyed with the surface. -/
theorem drawnPbuffer_leaks :
    eglMachine.Reachable drawnPbuffer ∧
    eglMachine.next drawnPbuffer .destroySurface = some drawnPbuffer.destroySurface ∧
    ¬ ∀ image < drawnPbuffer.destroySurface.created,
      drawnPbuffer.destroySurface.destroyed.count image = 1 :=
  ⟨Machine.reachable_of_exec pbuffer_start _, rfl, by decide⟩

end EglSurface

end GloDroid.Egl

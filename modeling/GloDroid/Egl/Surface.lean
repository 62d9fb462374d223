import GloDroid.Base.Machine

/-!
# EGL Surfaces on Android

The surfaces of `platform_android.c` with the imported images kept in the slots of
`color_buffers`: dequeueing and enqueueing of native buffers, the buffers handed to the driver, the
swap, the shared buffer mode and the teardown of a surface.

A native buffer has an identity besides its address: the window may free a buffer and allocate
another one at the same address, while a slot only keeps the address. An image is recorded with
its number and with the buffer it was imported from.

The patches do not show the beginning of `update_buffers` and of `droid_swap_buffers` nor the switch
of the buffer mode; whether these return early, and which mode is active after a swap, comes with
the step. A pbuffer surface has no window and never gets past the beginning of `update_buffers`.
Fences and the ages of the slots, which decide about no image, are left out.
-/

namespace GloDroid.Egl

open GloDroid.Base

/-! ## State -/

/-- `ANativeWindowBuffer`, with the number of its allocation. -/
structure NativeBuffer where
  id : Nat
  address : Nat
  width : Int
  height : Int
  deriving DecidableEq, Repr

/-- `__DRIimage`: the number of its creation, and the buffer it was imported from. -/
structure DriImage where
  id : Nat
  source : Option Nat
  deriving DecidableEq, Repr

/-- An element of `color_buffers`. -/
structure ColorBuffer where
  buffer : Option Nat := none
  driImage : Option DriImage := none
  deriving DecidableEq, Repr

/-- `dri2_egl_surface`, with the native window behind it and the images created and destroyed for
it. -/
structure EglSurface where
  /-- `Type`: a window surface, else a pbuffer surface. -/
  isWindow : Bool
  colorBuffers : List ColorBuffer
  /-- The slot `back` points to. -/
  back : Option Nat := none
  driImagePbuffer : Option DriImage := none
  width : Int
  height : Int
  lost : Bool := false
  /-- `_eglSurfaceInSharedBufferMode`. -/
  inSharedBufferMode : Bool := false
  /-- How many buffers the window has allocated, those it owns, and the one that is dequeued for
  the current frame. -/
  allocated : Nat := 0
  window : List NativeBuffer := []
  dequeued : Option NativeBuffer := none
  /-- How many images were created, and the numbers passed to `destroyImage`. -/
  created : Nat := 0
  destroyed : List Nat := []
  /-- `droid_destroy_surface` has returned. -/
  gone : Bool := false
  deriving DecidableEq, Repr

namespace EglSurface

/-- `back->buffer`. -/
def backBuffer (s : EglSurface) : Option Nat :=
  s.back.bind fun i => s.colorBuffers[i]?.bind (·.buffer)

/-- `back->dri_image`. -/
def backImage (s : EglSurface) : Option DriImage :=
  s.back.bind fun i => s.colorBuffers[i]?.bind (·.driImage)

/-! ## Dequeueing -/

/-- The loop of `droid_window_dequeue_buffer` over the slots: the slots afterwards and the one that
is found. -/
def findSlot (address : Nat) : List ColorBuffer → List ColorBuffer × Option Nat
  | [] => ([], none)
  | c :: rest =>
    let c := if c.buffer.isNone then { c with buffer := some address } else c
    if c.buffer = some address then (c :: rest, some 0)
    else
      let r := findSlot address rest
      (c :: r.1, r.2.map (· + 1))

/-- The images in the slots. -/
def slotImages (cs : List ColorBuffer) : List DriImage := cs.filterMap (·.driImage)

/-- The slots when "all the buffers were recreated": every slot is cleared, and the first one
takes the buffer. -/
def resetSlots (address : Nat) : List ColorBuffer → List ColorBuffer
  | [] => []
  | _ :: rest => { buffer := some address } :: rest.map fun _ => {}

/-- What lies outside during an attempt to dequeue: an early return before it, the answer of
`ANativeWindow_dequeueBuffer`, and whether the import succeeds. -/
structure DequeueEnv where
  returnsEarly : Bool := false
  buffer : Option NativeBuffer
  imports : Bool := true
  deriving DecidableEq, Repr

/-- The slot that becomes `back` for a dequeued buffer. -/
def takeSlot (s : EglSurface) (b : NativeBuffer) : EglSurface :=
  match findSlot b.address s.colorBuffers with
  | (cs, some i) => { s with colorBuffers := cs, back := some i, dequeued := some b }
  | (_, none) =>
    { s with
      colorBuffers := resetSlots b.address s.colorBuffers
      back := some 0
      dequeued := some b
      destroyed := (slotImages s.colorBuffers).map DriImage.id ++ s.destroyed }

/-- `droid_create_image_from_native_buffer` for `back`, where it has no image yet; the value is the
one returned to the caller. -/
def importBack (s : EglSurface) (b : NativeBuffer) (imports : Bool) : EglSurface × Int :=
  if s.backImage.isSome then (s, 1)
  else if imports then
    ({ s with
        colorBuffers := s.colorBuffers.modify (s.back.getD 0) fun c =>
          { c with driImage := some { id := s.created, source := some b.id } }
        created := s.created + 1 }, 1)
  -- "failed to create DRI image from FD"; the caller takes any value but 0 for a success
  else (s, -1)

/-- `droid_window_dequeue_buffer`. -/
def dequeueBuffer (s : EglSurface) (env : DequeueEnv) : EglSurface × Int :=
  match env.buffer with
  | none => (s, 0)
  | some b => (s.takeSlot b).importBack b env.imports

/-- `droid_window_enqueue_buffer`. -/
def enqueueBuffer (s : EglSurface) : EglSurface := { s with back := none, dequeued := none }

/-- The size of the dequeued buffer becomes the size of the surface. -/
def updateSize (s : EglSurface) : EglSurface :=
  match s.dequeued with
  | some b => { s with width := b.width, height := b.height }
  | none => s

/-- `update_buffers`. -/
def updateBuffers (s : EglSurface) (env : DequeueEnv) : EglSurface × Int :=
  if env.returnsEarly then (s, -1)
  else if !s.isWindow then (s, 0)
  else if s.backBuffer.isSome then (s.updateSize, 0)
  else
    let r := s.dequeueBuffer env
    -- "Could not dequeue buffer from native window"
    if r.2 = 0 then ({ r.1 with lost := true }, -1) else (r.1.updateSize, 0)

/-! ## The buffers of the driver -/

/-- `__DRIimageList`. -/
structure DriImageList where
  front : Option DriImage := none
  back : Option DriImage := none
  /-- `__DRI_IMAGE_BUFFER_SHARED` is set. -/
  shared : Bool := false
  deriving DecidableEq, Repr

/-- `get_front_bo`; `creates` says whether `createImage` succeeds. -/
def getFrontBo (s : EglSurface) (creates : Bool) : EglSurface × Int :=
  if s.driImagePbuffer.isSome then (s, 0)
  -- "DRI driver requested unsupported front buffer for window surface"
  else if s.isWindow then (s, 0)
  else if creates then
    ({ s with
        driImagePbuffer := some { id := s.created, source := none }
        created := s.created + 1 }, 0)
  else (s, -1)

/-- The end of `droid_image_get_buffers`, for `__DRI_IMAGE_BUFFER_BACK`. -/
def getBack (s : EglSurface) (wantsBack : Bool) (images : DriImageList) : Int × DriImageList :=
  if wantsBack then
    if s.back.isNone then (0, images) else (1, { images with back := s.backImage })
  else (1, images)

/-- `droid_image_get_buffers`: the surface, the returned value and the images. -/
def getBuffers (s : EglSurface) (env : DequeueEnv) (wantsFront wantsBack creates : Bool) :
    EglSurface × Int × DriImageList :=
  let r := s.updateBuffers env
  if r.2 < 0 then (r.1, 0, {})
  else if r.1.inSharedBufferMode then
    if r.1.back.isNone then (r.1, 0, {}) else (r.1, 1, { back := r.1.backImage, shared := true })
  else if wantsFront then
    let f := r.1.getFrontBo creates
    if f.2 < 0 then (f.1, 0, {})
    else (f.1, f.1.getBack wantsBack { front := f.1.driImagePbuffer })
  else (r.1, r.1.getBack wantsBack {})

/-! ## Swap, shared buffer mode, teardown -/

/-- What lies outside during a swap: it may stay in the shared buffer mode and return at once, or
fail to switch the mode. -/
structure SwapEnv extends DequeueEnv where
  remainsShared : Bool := false
  switchFails : Bool := false
  sharedAfter : Bool := false
  deriving DecidableEq, Repr

/-- `droid_swap_buffers`. The buffer for the next frame is dequeued at the end. -/
def swapBuffers (s : EglSurface) (env : SwapEnv) : EglSurface :=
  if env.remainsShared then s
  else
    let s := if s.backBuffer.isSome then s.enqueueBuffer else s
    if env.switchFails then s
    else ({ s with inSharedBufferMode := env.sharedAfter }.updateBuffers env.toDequeueEnv).1

/-- `droid_display_shared_buffer`; `queued` says whether `ANativeWindow_queueBuffer` succeeds, and
`buffer` is the answer of `ANativeWindow_dequeueBuffer`. Without `back` a null pointer is
dereferenced. -/
def displaySharedBuffer (s : EglSurface) (queued : Bool) (buffer : Option NativeBuffer) :
    Option EglSurface :=
  match s.back with
  | none => none
  | some i =>
    if !s.inSharedBufferMode then some s
    else if !queued then some s
    else
      match buffer with
      -- "Tear down the surface because it no longer has a back buffer."
      | none => some { s with lost := true, back := none, dequeued := none }
      | some b =>
        some { s with
          colorBuffers := s.colorBuffers.modify i fun c => { c with buffer := some b.address }
          dequeued := some b }

/-- `droid_destroy_surface`: a dequeued buffer is cancelled and the images of the slots are
destroyed. -/
def destroySurface (s : EglSurface) : EglSurface :=
  { s with
    dequeued := if s.isWindow && s.backBuffer.isSome then none else s.dequeued
    colorBuffers := s.colorBuffers.map fun c => { c with driImage := none }
    destroyed := (slotImages s.colorBuffers).map DriImage.id ++ s.destroyed
    gone := true }

end EglSurface

/-! ## Runs -/

/-- The calls on a surface, and what its window does. -/
inductive EglStep where
  | getBuffers (env : EglSurface.DequeueEnv) (wantsFront wantsBack creates : Bool)
  | swapBuffers (env : EglSurface.SwapEnv)
  | displaySharedBuffer (queued : Bool) (buffer : Option NativeBuffer)
  | destroySurface
  /-- The window allocates a buffer, or frees one it no longer uses. -/
  | allocate (address : Nat) (width height : Int)
  | free (buffer : NativeBuffer)
  deriving DecidableEq, Repr

/-- The buffer the window hands out in a step, if any. -/
def EglStep.handsOut : EglStep → Option NativeBuffer
  | .getBuffers env _ _ _ => env.buffer
  | .swapBuffers env => env.buffer
  | .displaySharedBuffer _ buffer => buffer
  | _ => none

namespace EglSurface

/-- The effect of a step on the surface. -/
def apply (s : EglSurface) : EglStep → Option EglSurface
  | .getBuffers env wantsFront wantsBack creates =>
    some (s.getBuffers env wantsFront wantsBack creates).1
  | .swapBuffers env => some (s.swapBuffers env)
  | .displaySharedBuffer queued buffer => s.displaySharedBuffer queued buffer
  | .destroySurface => some s.destroySurface
  | .allocate address width height =>
    -- buffers owned at the same time have distinct addresses
    if s.window.all fun b => b.address ≠ address then
      some { s with
        window := { id := s.allocated, address, width, height } :: s.window
        allocated := s.allocated + 1 }
    else none
  | .free b =>
    if s.dequeued ≠ some b then some { s with window := s.window.filter (· ≠ b) } else none

end EglSurface

/-- A surface from its creation on. A window surface has a slot for each buffer its window may hand
out, so at least one; a pbuffer surface has neither. The window hands out buffers that it owns. -/
def eglMachine : Machine EglSurface EglStep where
  start s := ∃ slots width height,
    s = { isWindow := true, colorBuffers := List.replicate (slots + 1) {}, width, height } ∨
    s = { isWindow := false, colorBuffers := [], width, height }
  next s step :=
    if s.gone then none
    else if step.handsOut.all fun b => s.window.contains b then s.apply step
    else none

namespace EglSurface

/-- A window surface with two slots. -/
def twoSlots : EglSurface :=
  { isWindow := true, colorBuffers := [{}, {}], width := 640, height := 480 }

theorem twoSlots_start : eglMachine.start twoSlots := ⟨1, 640, 480, .inl rfl⟩

variable {s s' : EglSurface}

theorem apply_of_next {step : EglStep} (h : eglMachine.next s step = some s') :
    s.apply step = some s' := by
  simp only [eglMachine] at h
  split_ifs at h
  exact h

/-! ## What the functions do to the slots -/

/-- The loop takes the first slot that is free or holds the address. Where all slots hold other
addresses, it leaves them alone. -/
theorem findSlot_cases (address : Nat) (cs : List ColorBuffer) :
    (∃ pre c post, cs = pre ++ c :: post ∧
      (∀ d ∈ pre, d.buffer ≠ none ∧ d.buffer ≠ some address) ∧
      (c.buffer = none ∨ c.buffer = some address) ∧
      findSlot address cs =
        (pre ++ { c with buffer := some address } :: post, some pre.length)) ∨
    (∀ d ∈ cs, d.buffer ≠ none ∧ d.buffer ≠ some address) ∧ findSlot address cs = (cs, none) := by
  induction cs with
  | nil => exact .inr ⟨by simp, rfl⟩
  | cons c rest ih =>
    by_cases hnone : c.buffer = none
    · -- a free slot takes the address
      refine .inl ⟨[], c, rest, rfl, by simp, .inl hnone, ?_⟩
      simp [findSlot, hnone]
    by_cases haddress : c.buffer = some address
    · have hsame : { c with buffer := some address } = c := by rw [← haddress]
      refine .inl ⟨[], c, rest, rfl, by simp, .inr haddress, ?_⟩
      simp [findSlot, haddress, hsame]
    have hskip : findSlot address (c :: rest) =
        (c :: (findSlot address rest).1, (findSlot address rest).2.map (· + 1)) := by
      have hsome : ¬ c.buffer.isNone := by simpa using hnone
      simp only [findSlot, if_neg hsome, if_neg haddress]
    rw [hskip]
    rcases ih with ⟨pre, d, post, rfl, hpre, hd, hfound⟩ | ⟨hall, hfound⟩
    · refine .inl ⟨c :: pre, d, post, rfl, ?_, hd, by simp [hfound]⟩
      exact List.forall_mem_cons.mpr ⟨⟨hnone, haddress⟩, hpre⟩
    · exact .inr ⟨List.forall_mem_cons.mpr ⟨⟨hnone, haddress⟩, hall⟩, by simp [hfound]⟩

theorem takeSlot_cases (s : EglSurface) (b : NativeBuffer) :
    (∃ pre c post, s.colorBuffers = pre ++ c :: post ∧
      (∀ d ∈ pre, d.buffer ≠ none ∧ d.buffer ≠ some b.address) ∧
      (c.buffer = none ∨ c.buffer = some b.address) ∧
      s.takeSlot b = { s with
        colorBuffers := pre ++ { c with buffer := some b.address } :: post
        back := some pre.length
        dequeued := some b }) ∨
    (∀ d ∈ s.colorBuffers, d.buffer ≠ none ∧ d.buffer ≠ some b.address) ∧
      s.takeSlot b = { s with
        colorBuffers := resetSlots b.address s.colorBuffers
        back := some 0
        dequeued := some b
        destroyed := (slotImages s.colorBuffers).map DriImage.id ++ s.destroyed } := by
  rcases findSlot_cases b.address s.colorBuffers with
    ⟨pre, c, post, hslots, hpre, hc, hfound⟩ | ⟨hall, hfound⟩
  · exact .inl ⟨pre, c, post, hslots, hpre, hc, by simp [takeSlot, hfound]⟩
  · exact .inr ⟨hall, by simp [takeSlot, hfound]⟩

/-- The slot that is taken is `back` afterwards, and holds the address of the buffer. -/
theorem takeSlot_split (hslots : s.colorBuffers ≠ []) (b : NativeBuffer) :
    ∃ pre c post, (s.takeSlot b).colorBuffers = pre ++ c :: post ∧
      (s.takeSlot b).back = some pre.length ∧ c.buffer = some b.address := by
  rcases takeSlot_cases s b with ⟨pre, c, post, -, -, -, htake⟩ | ⟨-, htake⟩
  · exact ⟨pre, _, post, by rw [htake], by rw [htake], rfl⟩
  · cases hcs : s.colorBuffers with
    | nil => exact absurd hcs hslots
    | cons c rest => exact ⟨[], _, _, by rw [htake, hcs]; rfl, by rw [htake]; rfl, rfl⟩

theorem takeSlot_dequeued (s : EglSurface) (b : NativeBuffer) :
    (s.takeSlot b).dequeued = some b := by
  rcases takeSlot_cases s b with ⟨pre, c, post, -, -, -, htake⟩ | ⟨-, htake⟩ <;> rw [htake]

theorem modify_split (pre post : List ColorBuffer) (c : ColorBuffer)
    (f : ColorBuffer → ColorBuffer) :
    (pre ++ c :: post).modify pre.length f = pre ++ f c :: post := by
  rw [List.modify_eq_take_cons_drop (by simp)]
  simp

theorem backImage_of_split {pre post : List ColorBuffer} {c : ColorBuffer}
    (hslots : s.colorBuffers = pre ++ c :: post) (hback : s.back = some pre.length) :
    s.backImage = c.driImage := by
  simp [backImage, hback, hslots]

theorem backBuffer_of_split {pre post : List ColorBuffer} {c : ColorBuffer}
    (hslots : s.colorBuffers = pre ++ c :: post) (hback : s.back = some pre.length) :
    s.backBuffer = c.buffer := by
  simp [backBuffer, hback, hslots]

/-- An import is made for a slot without an image, and its image goes into that slot. -/
theorem importBack_cases {pre post : List ColorBuffer} {c : ColorBuffer}
    (hslots : s.colorBuffers = pre ++ c :: post) (hback : s.back = some pre.length)
    (b : NativeBuffer) (imports : Bool) :
    (s.importBack b imports).1 = s ∨
    c.driImage = none ∧ (s.importBack b imports).1 = { s with
      colorBuffers :=
        pre ++ { c with driImage := some { id := s.created, source := some b.id } } :: post
      created := s.created + 1 } := by
  simp only [importBack, backImage_of_split hslots hback]
  by_cases hc : c.driImage.isSome
  · exact .inl (by rw [if_pos hc])
  cases imports with
  | false => exact .inl (by simp [hc])
  | true =>
    refine .inr ⟨by simpa using hc, ?_⟩
    simp [hc, hback, hslots, modify_split]

theorem updateSize_eq (s : EglSurface) :
    ∃ width height, s.updateSize = { s with width, height } := by
  unfold updateSize
  split
  · exact ⟨_, _, rfl⟩
  · exact ⟨s.width, s.height, rfl⟩

/-- Only a window without a buffer makes a dequeue fail. -/
theorem dequeueBuffer_eq_zero (s : EglSurface) (env : DequeueEnv) :
    (s.dequeueBuffer env).2 = 0 ↔ env.buffer = none := by
  unfold dequeueBuffer
  cases env.buffer with
  | none => simp
  | some b =>
    simp only [importBack]
    split_ifs <;> simp

/-- The buffer that `update_buffers` dequeues, if it does. -/
def dequeues (s : EglSurface) (env : DequeueEnv) : Option NativeBuffer :=
  if env.returnsEarly || !s.isWindow || s.backBuffer.isSome then none else env.buffer

/-- `update_buffers` dequeues for a window surface without a back buffer, and changes the size and
`Lost` besides. -/
theorem updateBuffers_cases (s : EglSurface) (env : DequeueEnv) :
    ∃ width height lost,
      s.dequeues env = none ∧ (s.updateBuffers env).1 = { s with width, height, lost } ∨
      ∃ b, s.isWindow = true ∧ s.dequeues env = some b ∧ (s.updateBuffers env).1 =
        { ((s.takeSlot b).importBack b env.imports).1 with width, height, lost } := by
  simp only [updateBuffers, dequeueBuffer_eq_zero]
  split_ifs with hearly hwindow hback hbuffer
  · exact ⟨s.width, s.height, s.lost, .inl ⟨by simp [dequeues, hearly], rfl⟩⟩
  · have hnone : s.dequeues env = none := by simp [dequeues, hwindow]
    exact ⟨s.width, s.height, s.lost, .inl ⟨hnone, rfl⟩⟩
  · obtain ⟨width, height, h⟩ := updateSize_eq s
    exact ⟨width, height, s.lost, .inl ⟨by simp [dequeues, hback], h⟩⟩
  · have hnone : s.dequeues env = none := by simp [dequeues, hbuffer]
    exact ⟨s.width, s.height, true, .inl ⟨hnone, by simp [dequeueBuffer, hbuffer]⟩⟩
  · obtain ⟨b, hb⟩ := Option.ne_none_iff_exists'.mp hbuffer
    obtain ⟨width, height, h⟩ := updateSize_eq (s.dequeueBuffer env).1
    refine ⟨width, height, (s.dequeueBuffer env).1.lost, .inr ⟨b, ?_, ?_, ?_⟩⟩
    · simpa using hwindow
    · simp [dequeues, hearly, hwindow, hback, hb]
    · rw [h]
      simp only [dequeueBuffer, hb]

/-- `droid_image_get_buffers` creates at most the front image of a pbuffer. -/
theorem getBuffers_cases (s : EglSurface) (env : DequeueEnv) (wantsFront wantsBack creates : Bool) :
    (s.getBuffers env wantsFront wantsBack creates).1 = (s.updateBuffers env).1 ∨
    (s.updateBuffers env).1.driImagePbuffer = none ∧ (s.updateBuffers env).1.isWindow = false ∧
      (s.getBuffers env wantsFront wantsBack creates).1 = { (s.updateBuffers env).1 with
        driImagePbuffer := some { id := (s.updateBuffers env).1.created, source := none }
        created := (s.updateBuffers env).1.created + 1 } := by
  simp only [getBuffers]
  -- the surface changes after `update_buffers` only in `get_front_bo`
  have hfront : ((s.updateBuffers env).1.getFrontBo creates).1 = (s.updateBuffers env).1 ∨
      (s.updateBuffers env).1.driImagePbuffer = none ∧ (s.updateBuffers env).1.isWindow = false ∧
        ((s.updateBuffers env).1.getFrontBo creates).1 = { (s.updateBuffers env).1 with
          driImagePbuffer := some { id := (s.updateBuffers env).1.created, source := none }
          created := (s.updateBuffers env).1.created + 1 } := by
    unfold getFrontBo
    split_ifs with himage hwindow
    · exact .inl rfl
    · exact .inl rfl
    · exact .inr ⟨by simpa using himage, by simpa using hwindow, rfl⟩
    · exact .inl rfl
  split_ifs
  · exact .inl rfl
  · exact .inl rfl
  · exact .inl rfl
  · exact hfront
  · exact hfront
  · exact .inl rfl

/-- A swap gives the back buffer to the window; where it goes on, it dequeues the next one. -/
theorem swapBuffers_cases (s : EglSurface) (env : SwapEnv) :
    (env.remainsShared || env.switchFails) = true ∧
      (s.swapBuffers env = s ∨ s.swapBuffers env = s.enqueueBuffer) ∨
    (env.remainsShared || env.switchFails) = false ∧ ∃ t,
      (t = s ∨ t = s.enqueueBuffer) ∧ t.backBuffer = none ∧ s.swapBuffers env =
        ({ t with inSharedBufferMode := env.sharedAfter }.updateBuffers env.toDequeueEnv).1 := by
  simp only [swapBuffers]
  split_ifs with hremains hswitch hback hback
  · exact .inl ⟨by simp [hremains], .inl rfl⟩
  · exact .inl ⟨by simp [hswitch], .inr rfl⟩
  · exact .inl ⟨by simp [hswitch], .inl rfl⟩
  all_goals
    have hgoes : (env.remainsShared || env.switchFails) = false := by simp [hremains, hswitch]
  · exact .inr ⟨hgoes, s.enqueueBuffer, .inr rfl, rfl, rfl⟩
  · exact .inr ⟨hgoes, s, .inl rfl, by simpa using hback, rfl⟩

end EglSurface

end GloDroid.Egl

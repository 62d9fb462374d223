import GloDroid.HwComposer.Compositor
import GloDroid.HwComposer.DrmFbImporter

/-!
# Relaxed Requirements for the Most Bottom Plane

A plane without a format with alpha can still show the most bottom layer:
`BottomLayerFormatResolutionTable_` names the format without alpha that is used in its place.
`IsValidForLayer` consults the table when a frame is planned and `AtomicSetState` when it is
programmed, where the framebuffer for the other format is created on demand.

That creation can fail, and `GetFbIdForFormat` then returns the id zero, which is programmed like
any other: the call succeeds and the plane shows nothing. Everywhere else the two functions agree.

Outside the patches, and hence parameters of the model: what a plane requires of rotation and alpha
(`presentable`), and which properties can be set (`PlaneAnswers`).
-/

namespace GloDroid.HwComposer

open GloDroid.Base

/-! ## Formats -/

/-- `fourcc_code` of `drm_fourcc.h`. -/
def fourccCode (a b c d : Char) : Nat :=
  a.toNat ||| b.toNat <<< 8 ||| c.toNat <<< 16 ||| d.toNat <<< 24

def DRM_FORMAT_ABGR8888 : Nat := fourccCode 'A' 'B' '2' '4'
def DRM_FORMAT_XBGR8888 : Nat := fourccCode 'X' 'B' '2' '4'
def DRM_FORMAT_ARGB8888 : Nat := fourccCode 'A' 'R' '2' '4'
def DRM_FORMAT_XRGB8888 : Nat := fourccCode 'X' 'R' '2' '4'
def DRM_FORMAT_RGBA8888 : Nat := fourccCode 'R' 'A' '2' '4'
def DRM_FORMAT_RGBX8888 : Nat := fourccCode 'R' 'X' '2' '4'
def DRM_FORMAT_BGRA8888 : Nat := fourccCode 'B' 'A' '2' '4'
def DRM_FORMAT_BGRX8888 : Nat := fourccCode 'B' 'X' '2' '4'

/-! ## Planes -/

/-- `DrmPlane`: `formats_`, the keys of `blending_enum_map_` and the table of substitutes. -/
structure DrmPlane where
  formats : List Nat := []
  blendingEnumMap : List BufferBlendMode := []
  presentable : PresentInfo → Bool := fun _ => true
  bottomLayerFormatResolutionTable : OrderedMap Nat Nat := OrderedMap.empty

namespace DrmPlane

/-- `IsFormatSupported`. -/
def isFormatSupported (p : DrmPlane) (format : Nat) : Bool := p.formats.contains format

/-- `AddToFormatResolutionTable`. -/
def addToFormatResolutionTable (p : DrmPlane) (originalFourcc resolvedFourcc : Nat) : DrmPlane :=
  if !p.isFormatSupported originalFourcc then
    { p with
      bottomLayerFormatResolutionTable :=
        p.bottomLayerFormatResolutionTable.emplace originalFourcc resolvedFourcc }
  else p

/-- `Init`, once formats and properties are read: the table of a plane. -/
def init (p : DrmPlane) : DrmPlane :=
  (((p.addToFormatResolutionTable DRM_FORMAT_ABGR8888 DRM_FORMAT_XBGR8888)
    |>.addToFormatResolutionTable DRM_FORMAT_ARGB8888 DRM_FORMAT_XRGB8888)
    |>.addToFormatResolutionTable DRM_FORMAT_RGBA8888 DRM_FORMAT_RGBX8888)
    |>.addToFormatResolutionTable DRM_FORMAT_BGRA8888 DRM_FORMAT_BGRX8888

/-- The format the most bottom layer is shown in instead of its own. -/
def substitute? (p : DrmPlane) (format : Nat) (mostBottom : Bool) : Option Nat :=
  if mostBottom then p.bottomLayerFormatResolutionTable.find? format else none

/-- `IsValidForLayer`. -/
def isValidForLayer (p : DrmPlane) (layer : LayerData) (mostBottom : Bool) : Bool :=
  match layer.bi with
  | none => false
  | some bi =>
    if !p.presentable layer.pi then false
    else if !p.blendingEnumMap.contains bi.blendMode && !mostBottom then false
    else p.isFormatSupported ((p.substitute? bi.format mostBottom).getD bi.format)

end DrmPlane

/-! ## Programming -/

/-- What a call of `AtomicSetState` finds: whether the position and fence properties can be set,
whether those from the framebuffer on can, and the answer to `AddFB2`. -/
structure PlaneAnswers where
  placed : Bool := true
  shown : Bool := true
  addFb : Option Nat := none

/-- `AtomicSetState`: the framebuffers afterwards, the value returned and, if the request is
complete, the framebuffer it shows. -/
structure PlaneState where
  framebuffers : Framebuffers
  ret : Int
  fbId : Option Nat := none

namespace DrmPlane

/-- The framebuffer `AtomicSetState` shows: that of the buffer, or the one in the format shown
instead. -/
def framebufferFor (p : DrmPlane) (s : Framebuffers) (i : Nat) (h : DrmFbIdHandle) (format : Nat)
    (mostBottom : Bool) (addFb : Option Nat) : Option (Framebuffers × Nat) :=
  match p.substitute? format mostBottom with
  | none => some (s, h.fbId)
  | some resolved => s.getFbIdForFormat i h resolved addFb

/-- `AtomicSetState`. The layer's framebuffer is the handle in one of the slots; a call with a
handle that does not exist is not enabled. -/
def atomicSetState (p : DrmPlane) (s : Framebuffers) (layer : LayerData) (mostBottom : Bool)
    (env : PlaneAnswers) : Option PlaneState :=
  match layer.fb, layer.bi with
  | some i, some bi =>
    match s.handles[i]? with
    | some (some h) =>
      if env.placed then
        (p.framebufferFor s i h bi.format mostBottom env.addFb).map fun (s, fbId) =>
          if env.shown then { framebuffers := s, ret := 0, fbId := some fbId }
          else { framebuffers := s, ret := negEINVAL }
      else some { framebuffers := s, ret := negEINVAL }
    | _ => none
  | _, _ => some { framebuffers := s, ret := negEINVAL }

section
variable {p : DrmPlane} {s : Framebuffers} {layer : LayerData} {bi : BufferInfo} {i : Nat}
  {h : DrmFbIdHandle} {mostBottom : Bool} {env : PlaneAnswers} {r : PlaneState}

/-- **What `AtomicSetState` does** with a layer that has a buffer and a live handle. -/
theorem atomicSetState_cases (hbi : layer.bi = some bi) (hfb : layer.fb = some i)
    (hi : s.handles[i]? = some (some h)) (hset : p.atomicSetState s layer mostBottom env = some r) :
    (env.placed = false ∧ r = { framebuffers := s, ret := negEINVAL }) ∨
      (env.placed = true ∧ ∃ s' id,
        p.framebufferFor s i h bi.format mostBottom env.addFb = some (s', id) ∧
        r = if env.shown then { framebuffers := s', ret := 0, fbId := some id }
          else { framebuffers := s', ret := negEINVAL }) := by
  unfold atomicSetState at hset
  simp only [hbi, hfb, hi] at hset
  by_cases hplaced : env.placed = true
  · rw [if_pos hplaced] at hset
    obtain ⟨⟨s', id⟩, hget, rfl⟩ := Option.map_eq_some_iff.mp hset
    exact Or.inr ⟨hplaced, s', id, hget, rfl⟩
  · rw [if_neg hplaced] at hset
    exact Or.inl ⟨Bool.eq_false_of_not_eq_true hplaced, (Option.some.inj hset).symm⟩

/-- Asking for the framebuffer is a step of the account, or none. -/
theorem reachable_framebufferFor {s' : Framebuffers} {format id : Nat} {answer : Option Nat}
    (hs : fbMachine.Reachable s) (hi : s.handles[i]? = some (some h))
    (hget : p.framebufferFor s i h format mostBottom answer = some (s', id)) :
    fbMachine.Reachable s' := by
  unfold framebufferFor at hget
  split at hget
  case h_1 =>
    obtain ⟨rfl, -⟩ := Prod.mk.inj (Option.some.inj hget)
    exact hs
  case h_2 resolved hsubst =>
    apply hs.step (a := .getFbIdForFormat i resolved answer) trivial
    simp only [fbMachine, FbAction.next, hi]
    exact Option.map_eq_some_iff.mpr ⟨_, hget, rfl⟩

theorem reachable_atomicSetState (hs : fbMachine.Reachable s) (hbi : layer.bi = some bi)
    (hfb : layer.fb = some i) (hi : s.handles[i]? = some (some h))
    (hset : p.atomicSetState s layer mostBottom env = some r) :
    fbMachine.Reachable r.framebuffers := by
  rcases atomicSetState_cases hbi hfb hi hset with ⟨-, rfl⟩ | ⟨-, s', id, hget, rfl⟩
  · exact hs
  · have hs' := reachable_framebufferFor hs hi hget
    split_ifs <;> exact hs'

end

end DrmPlane

/-! ## Planning and programming agree -/

/-- What programming a plane owes: an error, or a framebuffer that exists and has a format the plane
supports. -/
def PlaneState.Sound (r : PlaneState) (p : DrmPlane) : Prop :=
  r.ret ≠ 0 ∨ ∃ id, r.fbId = some id ∧ id ≠ 0 ∧ id ∈ r.framebuffers.stored ∧
    r.framebuffers.fourcc id ∈ p.formats

/-- Every framebuffer created was removed once, or is kept by one handle that will remove it. -/
def Framebuffers.RemovedOnce (s : Framebuffers) : Prop :=
  s.created.Perm (s.removed ++ s.stored) ∧ s.stored.Nodup

theorem Framebuffers.Balanced.removedOnce {s : Framebuffers} (hs : s.Balanced) : s.RemovedOnce :=
  ⟨hs.balance, hs.owned.perm.nodup_iff.mpr hs.owned.nodup⟩

/-- **What `GetFbIdForFormat` returns**: a framebuffer of the format asked for, or zero if there was
none and it could not be created. -/
theorem Framebuffers.Balanced.getFbIdForFormat_result {s s' : Framebuffers} {i : Nat}
    {h : DrmFbIdHandle} {format id : Nat} {answer : Option Nat} (hs : s.Balanced)
    (hi : s.handles[i]? = some (some h))
    (hget : s.getFbIdForFormat i h format answer = some (s', id)) :
    (h.fbIdResolvedFormat.find? format = none ∧ answer = none ∧ id = 0) ∨
      (¬ (h.fbIdResolvedFormat.find? format = none ∧ answer = none) ∧
        id ≠ 0 ∧ id ∈ s'.stored ∧ s'.fourcc id = format) := by
  have hmem : some h ∈ s.handles := List.mem_of_getElem? hi
  have hreg := hs.registered h hmem
  unfold Framebuffers.getFbIdForFormat at hget
  cases hfind : h.fbIdResolvedFormat.find? format with
  | some cached =>
    -- it was created before, and is stored with its handle
    rw [hfind] at hget
    obtain ⟨rfl, rfl⟩ := Prod.mk.inj (Option.some.inj hget)
    have hentry := OrderedMap.find?_eq_some_iff.mp hfind
    have hid : cached ∈ h.ids :=
      List.mem_cons_of_mem _ (List.mem_map_of_mem (f := Prod.snd) hentry)
    exact Or.inr ⟨fun hnone => Option.some_ne_none _ hnone.1, hreg.nonzero _ hid,
      Framebuffers.mem_stored hmem hid, hreg.resolved _ _ hentry⟩
  | none =>
    rw [hfind] at hget
    cases answer with
    | none =>
      obtain ⟨rfl, rfl⟩ := Prod.mk.inj (Option.some.inj hget)
      exact Or.inl ⟨rfl, rfl, rfl⟩
    | some new =>
      obtain ⟨s₁, hadd, heq⟩ := Option.map_eq_some_iff.mp hget
      obtain ⟨rfl, rfl⟩ := Prod.mk.inj heq
      obtain ⟨hzero, -, hhandles, -, -, hformat, -⟩ := hs.addFb hadd
      refine Or.inr ⟨fun hnone => Option.some_ne_none _ hnone.2, hzero, ?_, hformat⟩
      -- the handle is put back with the new framebuffer in its map
      apply Framebuffers.mem_stored (h := { h with
        fbIdResolvedFormat := h.fbIdResolvedFormat.emplace format new })
      · show some _ ∈ s₁.handles.set i _
        rw [hhandles]
        exact List.mem_set (List.getElem?_eq_some_iff.mp hi).1 _
      · apply List.mem_cons_of_mem
        rw [((OrderedMap.emplace_perm hfind new).map Prod.snd).mem_iff]
        exact List.mem_cons_self

namespace DrmPlane

/-- All properties can be set, but the framebuffer in the format shown instead does not exist yet
and cannot be created. -/
def SubstituteFails (p : DrmPlane) (h : DrmFbIdHandle) (mostBottom : Bool) (env : PlaneAnswers) :
    Prop :=
  env.placed = true ∧ env.shown = true ∧ env.addFb = none ∧
    ∃ format, p.substitute? h.bo.format mostBottom = some format ∧
      h.fbIdResolvedFormat.find? format = none

section
variable {p : DrmPlane} {s : Framebuffers} {layer : LayerData} {bi : BufferInfo} {i : Nat}
  {h : DrmFbIdHandle} {mostBottom : Bool} {env : PlaneAnswers} {r : PlaneState}

theorem isValidForLayer_supported (hbi : layer.bi = some bi)
    (hvalid : p.isValidForLayer layer mostBottom = true) :
    (p.substitute? bi.format mostBottom).getD bi.format ∈ p.formats := by
  unfold isValidForLayer at hvalid
  rw [hbi] at hvalid
  dsimp only at hvalid
  split_ifs at hvalid
  exact List.contains_iff_mem.mp hvalid

/-- **Planning and programming agree unless a framebuffer is missing**: after any sequence of
actions, for a layer that the plane accepts and whose framebuffer was imported in the layer's
format, programming returns an error or shows a framebuffer in a format of the plane, exactly if it
does not have to create the framebuffer shown instead in vain. The account of framebuffers is kept
in any case. -/
theorem atomicSetState_sound_iff (hs : fbMachine.Reachable s) (hbi : layer.bi = some bi)
    (hfb : layer.fb = some i) (hi : s.handles[i]? = some (some h))
    (himport : h.bo.format = bi.format)
    (hvalid : p.isValidForLayer layer mostBottom = true)
    (hset : p.atomicSetState s layer mostBottom env = some r) :
    r.framebuffers.RemovedOnce ∧ (r.Sound p ↔ ¬ p.SubstituteFails h mostBottom env) := by
  have hbalanced := Framebuffers.balanced_of_reachable hs
  have hr := reachable_atomicSetState hs hbi hfb hi hset
  refine ⟨(Framebuffers.balanced_of_reachable hr).removedOnce, ?_⟩
  have hsupported := isValidForLayer_supported hbi hvalid
  rw [← himport] at hsupported
  have hinval : negEINVAL ≠ 0 := by decide
  rcases atomicSetState_cases hbi hfb hi hset with ⟨hplaced, rfl⟩ | ⟨hplaced, s', id, hget, rfl⟩
  · apply iff_of_true
    · exact Or.inl hinval
    · exact fun hfails => Bool.false_ne_true (hplaced.symm.trans hfails.1)
  by_cases hshown : env.shown = true
  case neg =>
    rw [if_neg hshown]
    apply iff_of_true
    · exact Or.inl hinval
    · exact fun hfails => hshown hfails.2.1
  rw [if_pos hshown]
  unfold framebufferFor at hget
  rw [← himport] at hget
  cases hsubst : p.substitute? h.bo.format mostBottom with
  | none =>
    -- the framebuffer of the buffer itself
    rw [hsubst] at hget hsupported
    obtain ⟨rfl, rfl⟩ := Prod.mk.inj (Option.some.inj hget)
    have hmem : some h ∈ s.handles := List.mem_of_getElem? hi
    have hreg := hbalanced.registered h hmem
    apply iff_of_true
    · refine Or.inr ⟨_, rfl, hreg.nonzero _ List.mem_cons_self,
        Framebuffers.mem_stored hmem List.mem_cons_self, ?_⟩
      show s.fourcc h.fbId ∈ p.formats
      rw [hreg.own]
      exact hsupported
    · rintro ⟨-, -, -, format, hformat, -⟩
      rw [hsubst] at hformat
      exact Option.some_ne_none _ hformat.symm
  | some resolved =>
    rw [hsubst] at hget hsupported
    rcases hbalanced.getFbIdForFormat_result hi hget with
      ⟨huncached, hanswer, rfl⟩ | ⟨hcreated, hzero, hstored, hformat⟩
    · apply iff_of_false
      · rintro (hret | ⟨id, hid, hzero, -⟩)
        · exact hret rfl
        · exact hzero (Option.some.inj hid).symm
      · exact not_not.mpr ⟨hplaced, hshown, hanswer, resolved, hsubst, huncached⟩
    · apply iff_of_true
      · refine Or.inr ⟨id, rfl, hzero, hstored, ?_⟩
        show s'.fourcc id ∈ p.formats
        rw [hformat]
        exact hsupported
      · rintro ⟨-, -, hanswer, format, hsame, huncached⟩
        obtain rfl := Option.some.inj (hsubst.symm.trans hsame)
        exact hcreated ⟨huncached, hanswer⟩

end

/-- A plane that supports XBGR8888 only, as the bottom plane of sun4i does. -/
def viPlane : DrmPlane := DrmPlane.init { formats := [DRM_FORMAT_XBGR8888] }

/-- A buffer with alpha, and the layer that shows it with the framebuffer in the first slot. The
frontend's blend mode has replaced that of the buffer. -/
def alphaBuffer : BufferInfo := { width := 8, height := 8, format := DRM_FORMAT_ABGR8888 }

def alphaLayer : LayerData :=
  { bi := some (HwcLayer.overrideBufferInfo { blendMode := .preMult } alphaBuffer), fb := some 0 }

/-- The framebuffers once the buffer is imported. -/
def alphaImported : Framebuffers :=
  { table := { held := [1] }
    fourcc := Function.update (fun _ => 0) 1 DRM_FORMAT_ABGR8888
    handles := [some { bo := alphaBuffer, fbId := 1 }]
    created := [1] }

theorem reachable_alphaImported : fbMachine.Reachable alphaImported :=
  .step (s := {}) (a := .createInstance alphaBuffer true (some 1)) (.start ⟨[], rfl⟩) trivial rfl

theorem atomicSetState_sound_iff_alphaLayer :
    ∃ r, viPlane.atomicSetState alphaImported alphaLayer true { addFb := some 2 } = some r ∧
      r.framebuffers.RemovedOnce ∧ r.Sound viPlane := by
  have hvalid : viPlane.isValidForLayer alphaLayer true = true := by decide
  have hbi : alphaLayer.bi =
      some (HwcLayer.overrideBufferInfo { blendMode := .preMult } alphaBuffer) := rfl
  obtain ⟨hremoved, hiff⟩ := atomicSetState_sound_iff reachable_alphaImported hbi rfl rfl rfl
    hvalid (rfl : viPlane.atomicSetState alphaImported alphaLayer true { addFb := some 2 } = _)
  refine ⟨_, rfl, hremoved, hiff.mpr ?_⟩
  rintro ⟨-, -, hanswer, -⟩
  exact Option.some_ne_none _ hanswer

/-- The second framebuffer cannot be created, and the plane is programmed with none. -/
theorem atomicSetState_programsZero :
    fbMachine.Reachable alphaImported ∧ viPlane.isValidForLayer alphaLayer true = true ∧
      ∃ r, viPlane.atomicSetState alphaImported alphaLayer true {} = some r ∧ r.ret = 0 ∧
        r.fbId = some 0 ∧ ¬ r.Sound viPlane := by
  refine ⟨reachable_alphaImported, by decide, _, rfl, rfl, rfl, ?_⟩
  rintro (hret | ⟨id, hid, hzero, -⟩)
  · exact hret rfl
  · exact hzero (Option.some.inj hid).symm

end DrmPlane

end GloDroid.HwComposer

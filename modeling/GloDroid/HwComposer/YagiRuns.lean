import GloDroid.HwComposer.Yagi

/-!
# Clients of the Buffer Info Supplier

In every run, whatever fails while instances are created, the gralloc module is there exactly as
long as an instance is, no library is closed under an instance, and nothing is left behind
(`yagiBalance`). A client whose instance could be created gets of each buffer just what the
gralloc module says of it: the test command rules out that the two sides disagree
(`getBoInfo_of_created`).
-/

namespace GloDroid.HwComposer

open GloDroid.Base

namespace YagiProcess

/-! ## What is held -/

/-- The libraries `libs` are open, and the pointers `owners` were handed out. -/
def heldEntries (libs owners : List Nat) : Set (YagiResource × List YagiResource)
  | (.library n, on) => n ∈ libs ∧ on = []
  | (.yagi n, on) => n ∈ owners ∧ on = [.library n, .gralloc]
  | (.gralloc, on) => owners ≠ [] ∧ on = []

section Entries

variable {libs owners : List Nat} {n : Nat} {on : List YagiResource}

@[simp] theorem mem_heldEntries_library :
    (.library n, on) ∈ heldEntries libs owners ↔ n ∈ libs ∧ on = [] := Iff.rfl

@[simp] theorem mem_heldEntries_yagi :
    (.yagi n, on) ∈ heldEntries libs owners ↔ n ∈ owners ∧ on = [.library n, .gralloc] := Iff.rfl

@[simp] theorem mem_heldEntries_gralloc :
    (.gralloc, on) ∈ heldEntries libs owners ↔ owners ≠ [] ∧ on = [] := Iff.rfl

end Entries

/-- The use count is the number of pointers that were handed out, and what is held belongs to them
and to the libraries. -/
structure Held (libs owners : List Nat) (s : YagiProcess) : Prop where
  records : s.ledger.Records (heldEntries libs owners)
  refcount : s.refcount = owners.length
  nodup : owners.Nodup

variable {s s' : YagiProcess} {libs owners : List Nat} {n : Nat}

theorem Held.openLibrary (h : s.Held libs owners) (hn : n ∉ libs) :
    (s.acquire (.library n) []).Held (n :: libs) owners := by
  refine ⟨(h.records.acquire (by simp [hn]) (by simp)).congr ?_, h.refcount, h.nodup⟩
  rintro ⟨r, on⟩
  cases r with
  | library m =>
    simp only [mem_heldEntries_library, List.mem_cons, Set.mem_insert_iff, Prod.mk.injEq,
      YagiResource.library.injEq]
    tauto
  | yagi m => simp
  | gralloc => simp

theorem Held.closeLibrary (h : s.Held (n :: libs) owners) (hn : n ∉ libs) (hown : n ∉ owners) :
    (s.release (.library n)).Held libs owners := by
  have hmem : (.library n, []) ∈ heldEntries (n :: libs) owners := by simp
  refine ⟨(h.records.release hmem ?_).congr ?_, h.refcount, h.nodup⟩
  · -- the pointers of others stand on their own libraries
    rintro ⟨r, on⟩ he
    cases r with
    | library m => simp [he.2]
    | yagi m =>
      obtain ⟨hm, rfl⟩ := he
      have hne : n ≠ m := fun heq => hown (heq ▸ hm)
      simp [hne]
    | gralloc => simp [he.2]
  · rintro ⟨r, on⟩
    cases r with
    | library m =>
      have hne : m ∈ libs → m ≠ n := fun hm heq => hn (heq ▸ hm)
      simp only [mem_heldEntries_library, Set.mem_ofPred_eq, List.mem_cons, ne_eq,
        YagiResource.library.injEq]
      tauto
    | yagi m => simp
    | gralloc => simp

theorem Held.useLibrary (h : s.Held libs owners) (hn : n ∈ libs) :
    (s.use (.library n)).Held libs owners :=
  ⟨h.records.use (mem_heldEntries_library.mpr ⟨hn, rfl⟩), h.refcount, h.nodup⟩

/-! ## The use count -/

/-- The module is closed when nobody has a pointer. -/
theorem records_unload {l : Ledger YagiResource}
    (h : l.Records (insert (.gralloc, []) (heldEntries libs []))) :
    (l.release .gralloc).Records (heldEntries libs []) := by
  refine (h.release (Or.inl rfl) ?_).congr ?_
  · rintro ⟨r, on⟩ (he | he)
    · simp [(Prod.mk.inj he).2]
    · cases r with
      | library m => simp [he.2]
      | yagi m => simp at he
      | gralloc => simp [he.2]
  · rintro ⟨r, on⟩
    cases r <;> simp

/-- The module is held while somebody has a pointer. -/
theorem mem_insert_gralloc_iff (hne : owners ≠ []) (e : YagiResource × List YagiResource) :
    e ∈ insert (.gralloc, []) (heldEntries libs owners) ↔ e ∈ heldEntries libs owners :=
  ⟨fun he => he.elim (fun heq => heq ▸ ⟨hne, rfl⟩) id, Or.inr⟩

/-- A pointer is handed out while the module is loaded. -/
theorem held_retain (hcount : s.refcount = owners.length) (hnodup : owners.Nodup)
    (hgralloc : s.ledger.Records (insert (.gralloc, []) (heldEntries libs owners)))
    (hn : n ∈ libs) (hown : n ∉ owners) : (s.retain n).2.Held libs (n :: owners) := by
  -- the pointer stands on the library of the client and on the module
  have hon : ∀ r ∈ [YagiResource.library n, .gralloc],
      ∃ on, (r, on) ∈ insert (.gralloc, []) (heldEntries libs owners) := by
    intro r hr
    rcases List.mem_cons.mp hr with rfl | hr
    · exact ⟨[], Or.inr (mem_heldEntries_library.mpr ⟨hn, rfl⟩)⟩
    · obtain rfl := List.mem_singleton.mp hr
      exact ⟨[], Or.inl rfl⟩
  have hfresh : ∀ on, (YagiResource.yagi n, on) ∉
      insert (.gralloc, []) (heldEntries libs owners) := by simp [hown]
  refine ⟨(hgralloc.acquire hfresh hon).congr ?_, ?_, List.nodup_cons.mpr ⟨hown, hnodup⟩⟩
  · rintro ⟨r, on⟩
    cases r with
    | library m => simp
    | yagi m =>
      simp only [mem_heldEntries_yagi, List.mem_cons, Set.mem_insert_iff, Prod.mk.injEq,
        YagiResource.yagi.injEq, reduceCtorEq, false_and, false_or]
      constructor
      · rintro ⟨rfl | hm, rfl⟩
        · exact Or.inl ⟨rfl, rfl⟩
        · exact Or.inr ⟨hm, rfl⟩
      · rintro (⟨rfl, rfl⟩ | ⟨hm, rfl⟩)
        · exact ⟨Or.inl rfl, rfl⟩
        · exact ⟨Or.inr hm, rfl⟩
    | gralloc => simp
  · show s.refcount + 1 = owners.length + 1
    rw [hcount]

/-- The module is loaded with the first pointer, or not at all. -/
theorem Held.yagiInit {env : YagiEnv} {ok : Bool} (h : s.Held libs owners) (hn : n ∈ libs)
    (hown : n ∉ owners) (hinit : s.yagiInit n env = (ok, s')) :
    s'.Held libs (if ok then n :: owners else owners) ∧ s'.instances = s.instances ∧
      s'.next = s.next := by
  unfold YagiProcess.yagiInit at hinit
  by_cases hzero : s.refcount = 0
  · -- nobody has a pointer
    have hnil : owners = [] := List.length_eq_zero_iff.mp (h.refcount.symm.trans hzero)
    have hloaded : (s.acquire .gralloc []).ledger.Records
        (insert (.gralloc, []) (heldEntries libs owners)) :=
      h.records.acquire (by simp [hnil]) (by simp)
    -- an attempt that fails behind the loading closes the module again
    have hclosed : ((s.acquire .gralloc []).release .gralloc).Held libs owners := by
      subst hnil
      exact ⟨records_unload hloaded, h.refcount, h.nodup⟩
    rw [if_pos hzero] at hinit
    split_ifs at hinit with hmodule hname hperform
    · obtain ⟨rfl, rfl⟩ := Prod.mk.inj hinit
      exact ⟨h, rfl, rfl⟩
    · obtain ⟨rfl, rfl⟩ := Prod.mk.inj hinit
      exact ⟨hclosed, rfl, rfl⟩
    · obtain ⟨rfl, rfl⟩ := Prod.mk.inj hinit
      exact ⟨hclosed, rfl, rfl⟩
    · obtain ⟨rfl, rfl⟩ := Prod.mk.inj hinit
      exact ⟨held_retain h.refcount h.nodup hloaded hn hown, rfl, rfl⟩
  · rw [if_neg hzero] at hinit
    obtain ⟨rfl, rfl⟩ := Prod.mk.inj hinit
    -- somebody has a pointer, so the module is loaded
    have hne : owners ≠ [] := by
      rintro rfl
      exact hzero h.refcount
    have hgralloc := h.records.congr (mem_insert_gralloc_iff hne)
    exact ⟨held_retain h.refcount h.nodup hgralloc hn hown, rfl, rfl⟩

/-- A pointer is given back, and the module with the last one. -/
theorem Held.yagiDestroy (h : s.Held libs (n :: owners)) : (s.yagiDestroy n).Held libs owners := by
  have hpos : s.refcount ≠ 0 := by
    rw [h.refcount]
    exact Nat.succ_ne_zero _
  have hnodup := List.nodup_cons.mp h.nodup
  have hcount : s.refcount - 1 = owners.length := by
    rw [h.refcount]
    rfl
  have hmem : (.yagi n, [.library n, .gralloc]) ∈ heldEntries libs (n :: owners) := by simp
  have hfree : ∀ e ∈ heldEntries libs (n :: owners), YagiResource.yagi n ∉ e.2 := by
    rintro ⟨r, on⟩ he
    cases r with
    | library m => simp [he.2]
    | yagi m => simp [he.2]
    | gralloc => simp [he.2]
  -- the pointer is gone, the module is not yet
  have hrelease : (s.ledger.release (.yagi n)).Records
      (insert (.gralloc, []) (heldEntries libs owners)) := by
    refine (h.records.release hmem hfree).congr ?_
    rintro ⟨r, on⟩
    cases r with
    | library m => simp
    | yagi m =>
      have hne : m ∈ owners → m ≠ n := fun hm heq => hnodup.1 (heq ▸ hm)
      simp only [Set.mem_insert_iff, Prod.mk.injEq, reduceCtorEq, false_and, mem_heldEntries_yagi,
        false_or, Set.mem_ofPred_eq, List.mem_cons, ne_eq, YagiResource.yagi.injEq]
      tauto
    | gralloc => simp
  rw [YagiProcess.yagiDestroy, if_neg hpos]
  dsimp only
  split_ifs with hlast
  · -- it was the last pointer
    obtain rfl : owners = [] := List.length_eq_zero_iff.mp (hcount.symm.trans hlast)
    exact ⟨records_unload hrelease, hcount, hnodup.2⟩
  · have hne : owners ≠ [] := by
      rintro rfl
      exact hlast hcount
    exact ⟨hrelease.congr fun e => (mem_insert_gralloc_iff hne e).symm, hcount, hnodup.2⟩

/-! ## Instances -/

/-- Every instance that exists was created, and holds its library and a pointer. -/
structure Balanced (s : YagiProcess) : Prop where
  held : s.Held s.instances s.instances
  fresh : ∀ n ∈ s.instances, n < s.next

/-- The destructor of an instance that has a pointer. -/
theorem Held.destroyUsed {big : BufferInfoYagi} (h : s.Held (n :: libs) (n :: owners))
    (hn : n ∉ libs) (hown : n ∉ owners) (hdl : big.dlHandle = true)
    (hfn : big.yagiDestroyFn = true) (hyagi : big.yagi = true) :
    (s.destroy n big).Held libs owners := by
  simp only [destroy, hyagi, hfn, hdl, Bool.and_self, if_true]
  have huse := h.useLibrary List.mem_cons_self
  exact huse.yagiDestroy.closeLibrary hn hown

/-- The destructor of an instance that did not get a pointer. -/
theorem Held.destroyUnused {big : BufferInfoYagi} (h : s.Held (n :: libs) owners) (hn : n ∉ libs)
    (hown : n ∉ owners) (hdl : big.dlHandle = true) (hyagi : big.yagi = false) :
    (s.destroy n big).Held libs owners := by
  simp only [destroy, hyagi, hdl, Bool.and_false, Bool.false_eq_true, if_false, if_true]
  exact h.closeLibrary hn hown

@[simp] theorem yagiDestroy_instances : (s.yagiDestroy n).instances = s.instances := by
  simp only [YagiProcess.yagiDestroy]
  split_ifs <;> rfl

@[simp] theorem yagiDestroy_next : (s.yagiDestroy n).next = s.next := by
  simp only [YagiProcess.yagiDestroy]
  split_ifs <;> rfl

@[simp] theorem destroy_instances {big : BufferInfoYagi} :
    (s.destroy n big).instances = s.instances := by
  simp only [destroy]
  split_ifs <;> simp [use, release]

@[simp] theorem destroy_next {big : BufferInfoYagi} : (s.destroy n big).next = s.next := by
  simp only [destroy]
  split_ifs <;> simp [use, release]

/-- An attempt that leaves things as they were. -/
theorem Balanced.of_held (h : s.Balanced) (hheld : s'.Held s.instances s.instances)
    (hinst : s'.instances = s.instances) (hnext : s.next ≤ s'.next) : s'.Balanced :=
  ⟨by rwa [hinst], fun m hm => Nat.lt_of_lt_of_le (h.fresh m (hinst ▸ hm)) hnext⟩

/-- **An instance is created**, or the attempt leaves nothing behind. -/
theorem Balanced.createInstance {client supplier : YagiSizes} {env : YagiEnv} (h : s.Balanced) :
    (s.createInstance client supplier env).Balanced := by
  -- the instance gets a number that no other has
  have hn : s.next ∉ s.instances := fun hmem => Nat.lt_irrefl _ (h.fresh _ hmem)
  have hstart : ({ s with next := s.next + 1 } : YagiProcess).Held s.instances s.instances :=
    ⟨h.held.records, h.held.refcount, h.held.nodup⟩
  have hopen := hstart.openLibrary hn
  unfold YagiProcess.createInstance
  split_ifs with hname hdl
  · exact h
  · exact h.of_held hstart (by simp [destroy]) (by simp [destroy])
  dsimp only
  split_ifs with hperform hsym hdestroy
  · exact h.of_held (hopen.destroyUnused hn hn rfl rfl) (by simp [acquire]) (by simp [acquire])
  · exact h.of_held (hopen.destroyUnused hn hn rfl rfl) (by simp [acquire]) (by simp [acquire])
  · exact h.of_held (hopen.destroyUnused hn hn rfl rfl) (by simp [acquire]) (by simp [acquire])
  -- all symbols are there
  have huse := hopen.useLibrary List.mem_cons_self
  split
  case h_1 s₁ hinit =>
    obtain ⟨h₁, hinst, hnext⟩ := huse.yagiInit List.mem_cons_self hn hinit
    refine h.of_held (h₁.destroyUnused hn hn rfl rfl) ?_ ?_
    · simp [hinst, acquire, use]
    · simp [hnext, acquire, use]
  case h_2 s₁ hinit =>
    obtain ⟨h₁, hinst, hnext⟩ := huse.yagiInit List.mem_cons_self hn hinit
    have h₂ := h₁.useLibrary List.mem_cons_self
    unfold testInstance
    split
    · -- the instance keeps what it holds
      have hheld : s₁.instances = s.instances := hinst
      refine ⟨?_, fun m hm => ?_⟩
      · simp only [use, hheld]
        exact ⟨h₂.records, h₂.refcount, h₂.nodup⟩
      · have hlast : s₁.next = s.next + 1 := hnext
        show m < s₁.next
        rw [hlast]
        rcases List.mem_cons.mp hm with rfl | hm
        · exact Nat.lt_succ_self _
        · exact Nat.lt_succ_of_lt (h.fresh m (hheld ▸ hm))
    · -- the test has failed, and the destructor gives everything back
      have hfn : env.destroySym = true := by simpa using hdestroy
      refine h.of_held (h₂.destroyUsed hn hn rfl hfn rfl) ?_ ?_
      · simp [hinst, acquire, use]
      · simp [hnext, acquire, use]

/-- An instance is destroyed. -/
theorem Balanced.destroy (h : s.Balanced) (hn : n ∈ s.instances) :
    ({ s with instances := s.instances.erase n }.destroy n created).Balanced := by
  -- what the instance holds is put in front
  have hperm := List.perm_cons_erase hn
  have hnot : n ∉ s.instances.erase n := h.held.nodup.not_mem_erase
  have hstart : ({ s with instances := s.instances.erase n } : YagiProcess).Held
      (n :: s.instances.erase n) (n :: s.instances.erase n) := by
    refine ⟨h.held.records.congr ?_, h.held.refcount.trans hperm.length_eq,
      hperm.nodup_iff.mp h.held.nodup⟩
    rintro ⟨r, on⟩
    cases r with
    | library m => exact and_congr_left' hperm.mem_iff.symm
    | yagi m => exact and_congr_left' hperm.mem_iff.symm
    | gralloc => simp [List.ne_nil_of_mem hn]
  have hheld : (YagiProcess.destroy _ n created).Held (s.instances.erase n)
      (s.instances.erase n) := hstart.destroyUsed hnot hnot rfl rfl rfl
  refine ⟨by simpa using hheld, fun m hm => ?_⟩
  rw [destroy_instances] at hm
  rw [destroy_next]
  exact h.fresh m (List.mem_of_mem_erase hm)

/-- The step lemma. -/
theorem Balanced.next {client supplier : YagiSizes} {action : YagiAction} (h : s.Balanced)
    (hnext : (yagiMachine client supplier).next s action = some s') : s'.Balanced := by
  cases action with
  | createInstance env =>
    obtain rfl := Option.some.inj hnext
    exact h.createInstance
  | getBoInfo n =>
    simp only [yagiMachine] at hnext
    split_ifs at hnext with hn
    obtain rfl := Option.some.inj hnext
    -- the call goes through the library, the pointer and the module
    have huse := h.held.records.use (mem_heldEntries_library.mpr ⟨hn, rfl⟩)
    have huse := huse.use (mem_heldEntries_yagi.mpr ⟨hn, rfl⟩)
    have huse := huse.use (mem_heldEntries_gralloc.mpr ⟨List.ne_nil_of_mem hn, rfl⟩)
    exact ⟨⟨huse, h.held.refcount, h.held.nodup⟩, h.fresh⟩
  | destroy n =>
    simp only [yagiMachine] at hnext
    split_ifs at hnext with hn
    obtain rfl := Option.some.inj hnext
    exact h.destroy hn

theorem balanced_of_reachable {client supplier : YagiSizes}
    (h : (yagiMachine client supplier).Reachable s) : s.Balanced := by
  refine h.invariant Balanced ?_ fun s action s' hs _ hnext => hs.next hnext
  rintro s rfl
  refine ⟨⟨Ledger.records_empty.congr ?_, rfl, List.nodup_nil⟩, by simp⟩
  rintro ⟨r, on⟩
  cases r <;> simp

/-- Nothing is misused; each instance has its library and its pointer, the use count is the number
of instances, and the gralloc module is loaded while there is one. -/
structure YagiBalance (s : YagiProcess) : Prop where
  noMisuse : s.ledger.misused = []
  refcount : s.refcount = s.instances.length
  library : ∀ n, s.ledger.isLive (.library n) = true ↔ n ∈ s.instances
  yagi : ∀ n, s.ledger.isLive (.yagi n) = true ↔ n ∈ s.instances
  gralloc : s.ledger.isLive .gralloc = true ↔ s.instances ≠ []
  released : s.instances = [] → s.ledger.live = []

/-- **The gralloc module is shared and released** in every run of the clients of a process, whatever
fails while instances are created. -/
theorem yagiBalance {client supplier : YagiSizes} {s : YagiProcess}
    (h : (yagiMachine client supplier).Reachable s) : YagiBalance s := by
  have hbalanced := balanced_of_reachable h
  have hrecords := hbalanced.held.records
  refine ⟨hrecords.noMisuse, hbalanced.held.refcount, fun n => ?_, fun n => ?_, ?_, fun hnil => ?_⟩
  · rw [hrecords.isLive_iff]
    simp
  · rw [hrecords.isLive_iff]
    simp
  · rw [hrecords.isLive_iff]
    simp
  · rw [hnil] at hrecords
    refine List.eq_nil_iff_forall_not_mem.mpr fun e he => ?_
    obtain ⟨r, on⟩ := e
    have hmem := (hrecords.live _).mp he
    cases r <;> simp at hmem

theorem yagiInit_instances {env : YagiEnv} {ok : Bool} (h : s.yagiInit n env = (ok, s')) :
    s'.instances = s.instances := by
  unfold YagiProcess.yagiInit at h
  split_ifs at h <;> (obtain ⟨-, rfl⟩ := Prod.mk.inj h; rfl)

/-- The test command succeeds if the two sides have the same sizes. -/
theorem sizes_of_probe {client supplier : YagiSizes} {out : YagiGetBiOutV1}
    (h : probe client supplier = some (0, out)) : client = supplier := by
  simp only [probe, yagiPerform, if_true] at h
  by_cases hsizes : client.handleIn ≠ supplier.handleIn ∨ client.getBiOutV1 ≠ supplier.getBiOutV1
  · rw [if_pos hsizes] at h
    obtain ⟨hret, -⟩ := Prod.mk.inj (Option.some.inj h)
    cases hret
  · obtain ⟨hin, hout⟩ := not_or.mp hsizes
    cases client
    cases supplier
    exact congrArg₂ YagiSizes.mk (not_not.mp hin) (not_not.mp hout)

theorem sizes_of_testInstance {client supplier : YagiSizes} {big : BufferInfoYagi}
    (hadded : (s.testInstance client supplier n big).instances ≠ s.instances) :
    client = supplier := by
  unfold testInstance at hadded
  split at hadded
  case h_1 out hprobe => exact sizes_of_probe hprobe
  case h_2 => simp at hadded

/-- An instance is created only if the two sides have the same sizes. -/
theorem sizes_of_createInstance {client supplier : YagiSizes} {env : YagiEnv}
    (hadded : (s.createInstance client supplier env).instances ≠ s.instances) :
    client = supplier := by
  unfold YagiProcess.createInstance at hadded
  split_ifs at hadded with hname hdl
  · exact absurd rfl hadded
  · simp at hadded
  dsimp only at hadded
  split_ifs at hadded with hperform hsym hdestroy
  · simp [acquire] at hadded
  · simp [acquire] at hadded
  · simp [acquire] at hadded
  split at hadded
  case h_1 s₁ hinit =>
    have hinst := yagiInit_instances hinit
    simp [hinst, acquire, use] at hadded
  case h_2 s₁ hinit =>
    have hinst := yagiInit_instances hinit
    refine sizes_of_testInstance fun heq => hadded (heq.trans ?_)
    simp [hinst, acquire, use]

/-- While there is an instance, the two sides have the same sizes. -/
theorem sizes_of_instances {client supplier : YagiSizes}
    (h : (yagiMachine client supplier).Reachable s) : s.instances ≠ [] → client = supplier := by
  refine h.invariant (fun s => s.instances ≠ [] → client = supplier) ?_ ?_
  · rintro s rfl hne
    exact absurd rfl hne
  · intro s action s' hs _ hnext hne
    by_cases hbefore : s.instances = []
    · -- the instance is new
      cases action with
      | createInstance env =>
        obtain rfl := Option.some.inj hnext
        exact sizes_of_createInstance fun heq => hne (heq.trans hbefore)
      | getBoInfo n => simp [yagiMachine, hbefore] at hnext
      | destroy n => simp [yagiMachine, hbefore] at hnext
    · exact hs hbefore

end YagiProcess

/-! ## Buffer infos -/

/-- What the gralloc module says of a buffer, if it answers all questions: its planes, then
zeros. -/
def GrallocAnswers.boInfo (gralloc : GrallocAnswers) : Option BoInfo :=
  match gralloc.dimensions, gralloc.format, gralloc.usage, gralloc.bufferInfo with
  | .ok (width, height), .ok _, .ok _, .ok info =>
    let num := info.numFds.toNatClampNeg
    some
      { width, height, format := info.drmFourcc
        planes := info.planes.take num ++ List.replicate (yagiMaxPlanesV1 - num) ({} : BoPlane) }
  | _, _, _, _ => none

/-- The planes fit into the arrays. -/
def GrallocAnswers.Fits (gralloc : GrallocAnswers) : Prop :=
  ∀ info, gralloc.bufferInfo = .ok info → info.numFds.toInt ≤ yagiMaxPlanesV1

/-- The loop over the planes replaces the first ones. -/
theorem copyPlanes_eq {source planes : List BoPlane} {num : Nat} (hsource : num ≤ source.length)
    (hplanes : num ≤ planes.length) :
    copyPlanes source planes num = some (source.take num ++ planes.drop num) := by
  induction num with
  | zero => simp [copyPlanes]
  | succ num ih =>
    have hbefore := ih (Nat.le_of_succ_le hsource) (Nat.le_of_succ_le hplanes)
    unfold copyPlanes at hbefore ⊢
    rw [List.range_succ, List.foldlM_append, hbefore]
    have hplane : source[num]? = some source[num] := List.getElem?_eq_getElem hsource
    have hlen : num < (source.take num ++ planes.drop num).length := by
      rw [List.length_append, List.length_take, List.length_drop]
      omega
    simp only [Option.bind_eq_bind, Option.bind_some, List.foldlM_cons, List.foldlM_nil,
      Option.pure_def, setPlane, hplane, if_pos hlen]
    have htake : (source.take num).length = num := by
      rw [List.length_take]
      omega
    -- the first of the others is replaced
    rw [List.set_append_right _ _ (Nat.le_of_eq htake), htake, Nat.sub_self,
      List.drop_eq_getElem_cons hplanes, List.set_cons_zero, ← List.take_append_getElem hsource,
      List.append_assoc, List.singleton_append]

theorem length_planes (info : CrosGralloc0BufferInfo) : info.planes.length = yagiMaxPlanesV1 := by
  simp [CrosGralloc0BufferInfo.planes, yagiMaxPlanesV1]

/-- Zeros behind planes stay when these are copied again. -/
theorem copyPlanes_zeros {planes : List BoPlane} {num : Nat}
    (hlen : planes.length = yagiMaxPlanesV1) (hnum : num ≤ yagiMaxPlanesV1) :
    copyPlanes (planes.take num ++ List.replicate (yagiMaxPlanesV1 - num) ({} : BoPlane))
        (List.replicate yagiMaxPlanesV1 ({} : BoPlane)) num =
      some (planes.take num ++ List.replicate (yagiMaxPlanesV1 - num) ({} : BoPlane)) := by
  have htake : (planes.take num).length = num := by
    rw [List.length_take, hlen]
    omega
  have hsource : num ≤ (planes.take num ++
      List.replicate (yagiMaxPlanesV1 - num) ({} : BoPlane)).length := by
    rw [List.length_append, htake]
    omega
  rw [copyPlanes_eq hsource (by simpa using hnum), List.take_append_of_le_length (by omega),
    List.take_of_length_le (by omega), List.drop_replicate]

/-- **Between sides of the same sizes** a client gets what the gralloc module says. -/
theorem getBoInfo_same (sizes : YagiSizes) {gralloc : GrallocAnswers} (hfits : gralloc.Fits) :
    getBoInfo sizes sizes (some gralloc) = some gralloc.boInfo := by
  simp only [getBoInfo, yagiPerform, if_true, ne_eq, not_true, or_self, if_false, yagiGetBiV1,
    GrallocAnswers.boInfo]
  -- the first question that fails decides
  cases hdim : gralloc.dimensions with
  | error ret => simp [ret.2]
  | ok size =>
    cases hformat : gralloc.format with
    | error ret => simp [ret.2]
    | ok format =>
      cases husage : gralloc.usage with
      | error ret => simp [ret.2]
      | ok usage =>
        cases hinfo : gralloc.bufferInfo with
        | error ret => simp [ret.2]
        | ok info =>
          have hnum : info.numFds.toNatClampNeg ≤ yagiMaxPlanesV1 := by
            have hle := hfits info hinfo
            show info.numFds.toInt.toNat ≤ yagiMaxPlanesV1
            omega
          have hfit : info.numFds.toNatClampNeg ≤
              (List.replicate yagiMaxPlanesV1 ({} : BoPlane)).length := hnum.trans_eq (by simp)
          have hfirst := copyPlanes_eq (hnum.trans_eq (length_planes info).symm) hfit
          have hsecond := copyPlanes_zeros (length_planes info) hnum
          rw [List.drop_replicate] at hfirst
          simp [hfirst, hsecond]

/-- **A client gets what the gralloc module says of a buffer**, in every run, with any versions of
the header on the two sides: an instance whose sizes differ was not created. -/
theorem getBoInfo_of_created {client supplier : YagiSizes} {s : YagiProcess} {n : Nat}
    (h : (yagiMachine client supplier).Reachable s) (hn : n ∈ s.instances)
    (handle : Option GrallocAnswers) (hfits : ∀ gralloc, handle = some gralloc → gralloc.Fits) :
    getBoInfo client supplier handle = some (handle.bind GrallocAnswers.boInfo) := by
  obtain rfl := YagiProcess.sizes_of_instances h (List.ne_nil_of_mem hn)
  cases handle with
  | none => rfl
  | some gralloc => exact getBoInfo_same client (hfits gralloc rfl)

/-- The sizes of the two structures for 64 bits. -/
def sizes64 : YagiSizes where
  handleIn := 24
  getBiOutV1 := 104

/-- Two clients, after a third one whose gralloc module had another name; the first goes again. -/
def sharedYagi : YagiProcess :=
  ((yagiMachine sizes64 sizes64).exec {}
    [.createInstance { crosName := false }, .createInstance {}, .createInstance {},
      .getBoInfo 1, .destroy 1]).get (by decide)

theorem sharedYagi_reachable : (yagiMachine sizes64 sizes64).Reachable sharedYagi :=
  Machine.reachable_of_exec rfl _

theorem yagiBalance_shared :
    (sharedYagi.instances = [2] ∧ sharedYagi.refcount = 1) ∧ YagiProcess.YagiBalance sharedYagi :=
  ⟨by decide, YagiProcess.yagiBalance sharedYagi_reachable⟩

/-- An NV12 buffer. -/
def nv12Answers : GrallocAnswers where
  dimensions := .ok (64, 32)
  format := .ok 0
  usage := .ok 0
  bufferInfo := .ok
    { drmFourcc := 0x3231564e, numFds := 2, fds := fun _ => 5, modifier := 0
      offset := fun i => if i = 1 then 2048 else 0, stride := fun _ => 64 }

theorem getBoInfo_of_created_nv12 :
    getBoInfo sizes64 sizes64 (some nv12Answers) =
        some ((some nv12Answers).bind GrallocAnswers.boInfo) ∧
      (nv12Answers.boInfo.map fun bi => bi.planes.map BoPlane.offset) = some [0, 2048, 0, 0] := by
  refine ⟨getBoInfo_of_created (n := 2) sharedYagi_reachable (by decide) _ ?_, by decide⟩
  rintro gralloc ⟨⟩ info ⟨⟩
  decide

end GloDroid.HwComposer

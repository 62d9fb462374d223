import GloDroid.Base.Descriptors
import GloDroid.Base.Machine

/-!
# Buffer Objects and Probing

`drv_bo_create` allocates a buffer object, lets the backend fill it in, and hands it out or frees
it; it hands it out exactly with the value 0 (`drvBoCreate_handedOut`). The same function answers
whether a buffer could be created at all (`test_only`): then the object is freed in any case.
`cros_gralloc_driver` asks so before each allocation, and whenever someone wants to know whether a
format is supported.

A backend without `bo_create_v2` cannot be asked, and `drv_bo_create` returns `-ENOTSUP`, but
without freeing the object. `ledger_iff` counts: every such probe leaks one object, and there is no
other way to leak one.

The addresses of objects are a resource like descriptors: an allocation returns one that is not in
use. What a backend's hooks return comes with the call.
-/

namespace GloDroid.Gralloc

open GloDroid.Base

def negENOMEM : Int := -12
def negEINVAL : Int := -22
def negENOTSUP : Int := -95

/-! ## Creating an object -/

/-- The hooks of `struct backend` that `drv_bo_create` tests for. -/
structure Backend where
  boCreateV2 : Bool
  boComputeMetadata : Bool
  deriving DecidableEq, Repr

/-- What `drv_bo_new` returns, and the hooks of the backend where they are called. -/
structure BoAnswers where
  bo : Option Nat
  boCreateV2 : Int := 0
  boComputeMetadata : Int := 0
  boCreateFromMetadata : Int := 0
  boCreate : Int := 0
  deriving DecidableEq, Repr

/-- The objects that are allocated, and those handed out and not destroyed. `created` and
`destroyed` count the successful creations and the destructions so far. -/
structure BoLedger where
  table : FdTable := {}
  handedOut : List Nat := []
  created : Nat := 0
  destroyed : Nat := 0
  deriving DecidableEq, Repr

namespace BoLedger

/-- The end of `drv_bo_create`. -/
def finishCreate (s : BoLedger) (bo : Nat) (testOnly : Bool) (ret : Int) : BoLedger × Int :=
  if ret ≠ 0 ∨ testOnly = true then ({ s with table := s.table.close bo }, ret)
  else ({ s with handedOut := bo :: s.handedOut, created := s.created + 1 }, 0)

/-- `drv_bo_create`. An address in use is no answer of `drv_bo_new`. -/
def drvBoCreate (backend : Backend) (s : BoLedger) (isTestAlloc testOnly : Bool)
    (answers : BoAnswers) : Option (BoLedger × Int) :=
  match answers.bo with
  | none => some (s, negENOMEM)
  | some bo =>
    (s.table.openFd (some bo)).map fun table =>
      let s := { s with table := table }
      let ret := negEINVAL
      if backend.boCreateV2 then
        s.finishCreate bo testOnly (if !isTestAlloc then answers.boCreateV2 else ret)
      else if testOnly then (s, negENOTSUP)
      else if backend.boComputeMetadata then
        let ret := answers.boComputeMetadata
        s.finishCreate bo testOnly
          (if !isTestAlloc && ret = 0 then answers.boCreateFromMetadata else ret)
      else s.finishCreate bo testOnly (if !isTestAlloc then answers.boCreate else ret)

/-- `drv_bo_destroy`, of an object that was handed out. -/
def drvBoDestroy (s : BoLedger) (bo : Nat) : Option BoLedger :=
  if bo ∈ s.handedOut then
    some { s with
      table := s.table.close bo
      handedOut := s.handedOut.erase bo
      destroyed := s.destroyed + 1 }
  else none

/-- `cros_gralloc_driver::get_resolved_format_and_use_flags`. A backend that cannot be asked has a
table of combinations. -/
def getResolvedFormatAndUseFlags (backend : Backend) (s : BoLedger) (isTestAlloc : Bool)
    (answers : BoAnswers) (combination : Bool) : Option (BoLedger × Bool) :=
  (s.drvBoCreate backend isTestAlloc true answers).map fun (s, ret) =>
    (s, if ret = 0 then true else if ret ≠ negENOTSUP then false else combination)

/-- `cros_gralloc_driver::allocate`, up to the creation of the object. -/
def allocate (backend : Backend) (s : BoLedger) (isTestAlloc : Bool) (probe : BoAnswers)
    (combination : Bool) (answers : BoAnswers) : Option (BoLedger × Int) :=
  match s.getResolvedFormatAndUseFlags backend isTestAlloc probe combination with
  | none => none
  | some (s, false) => some (s, negEINVAL)
  | some (s, true) => s.drvBoCreate backend isTestAlloc false answers

end BoLedger

/-! ## Calls -/

/-- The calls that create, probe for and destroy objects. -/
inductive BoCall where
  | create (isTestAlloc testOnly : Bool) (answers : BoAnswers)
  | resolve (isTestAlloc : Bool) (answers : BoAnswers) (combination : Bool)
  | allocate (isTestAlloc : Bool) (probe : BoAnswers) (combination : Bool) (answers : BoAnswers)
  | destroy (bo : Nat)
  deriving DecidableEq, Repr

def BoCall.next (backend : Backend) (s : BoLedger) : BoCall → Option BoLedger
  | create isTestAlloc testOnly answers =>
    (s.drvBoCreate backend isTestAlloc testOnly answers).map Prod.fst
  | resolve isTestAlloc answers combination =>
    (s.getResolvedFormatAndUseFlags backend isTestAlloc answers combination).map Prod.fst
  | allocate isTestAlloc probe combination answers =>
    (s.allocate backend isTestAlloc probe combination answers).map Prod.fst
  | destroy bo => s.drvBoDestroy bo

/-- The objects of a driver under any calls. -/
def boMachine (backend : Backend) : Machine BoLedger BoCall where
  start s := ∃ foreign, s = { table := { foreign } }
  next := BoCall.next backend

/-! ## Who leaks -/

/-- A probe that gets an object, at a backend that cannot be asked. -/
def ProbeLeaks (backend : Backend) (testOnly : Bool) (answers : BoAnswers) : Prop :=
  backend.boCreateV2 = false ∧ testOnly = true ∧ answers.bo.isSome

instance (backend : Backend) (testOnly : Bool) (answers : BoAnswers) :
    Decidable (ProbeLeaks backend testOnly answers) :=
  inferInstanceAs (Decidable (_ ∧ _ ∧ _))

/-- The call makes such a probe. -/
def BoCall.Leaks (backend : Backend) : BoCall → Prop
  | create _ testOnly answers => ProbeLeaks backend testOnly answers
  | resolve _ answers _ => ProbeLeaks backend true answers
  | allocate _ probe _ _ => ProbeLeaks backend true probe
  | destroy _ => False

instance (backend : Backend) : (call : BoCall) → Decidable (call.Leaks backend)
  | .create _ testOnly answers => inferInstanceAs (Decidable (ProbeLeaks backend testOnly answers))
  | .resolve _ answers _ => inferInstanceAs (Decidable (ProbeLeaks backend true answers))
  | .allocate _ probe _ _ => inferInstanceAs (Decidable (ProbeLeaks backend true probe))
  | .destroy _ => inferInstanceAs (Decidable False)

namespace BoLedger

variable {backend : Backend} {s s' : BoLedger}

/-- The end hands the object out together with the value 0, and with no other. -/
theorem finishCreate_handedOut {bo : Nat} {testOnly : Bool} {ret ret' : Int}
    (h : s.finishCreate bo testOnly ret = (s', ret')) :
    s'.handedOut = if ret' = 0 ∧ testOnly = false then bo :: s.handedOut else s.handedOut := by
  unfold finishCreate at h
  split_ifs at h with hfree
  · obtain ⟨rfl, rfl⟩ := Prod.mk.inj h
    rw [if_neg]
    rintro ⟨hret, htest⟩
    exact hfree.elim (· hret) fun htrue => Bool.false_ne_true (htest.symm.trans htrue)
  · obtain ⟨rfl, rfl⟩ := Prod.mk.inj h
    rw [if_pos ⟨rfl, Bool.eq_false_iff.mpr fun htest => hfree (.inr htest)⟩]

/-- **What `drv_bo_create` hands out**: the object it has allocated, exactly if it returns 0 and was
not only to test. -/
theorem drvBoCreate_handedOut {isTestAlloc testOnly : Bool} {answers : BoAnswers} {ret : Int}
    (h : s.drvBoCreate backend isTestAlloc testOnly answers = some (s', ret)) :
    s'.handedOut =
      if ret = 0 ∧ testOnly = false then answers.bo.toList ++ s.handedOut else s.handedOut := by
  unfold drvBoCreate at h
  cases hbo : answers.bo with
  | none =>
    rw [hbo] at h
    obtain ⟨rfl, rfl⟩ := Prod.mk.inj (Option.some.inj h)
    exact (if_neg fun hret => absurd hret.1 (by decide)).symm
  | some bo =>
    rw [hbo] at h
    obtain ⟨table, -, heq⟩ := Option.map_eq_some_iff.mp h
    dsimp only at heq
    have hend : ∀ ret', ({ s with table } : BoLedger).finishCreate bo testOnly ret' = (s', ret) →
        s'.handedOut = if ret = 0 ∧ testOnly = false then bo :: s.handedOut else s.handedOut :=
      fun _ hfinish => finishCreate_handedOut (s := { s with table }) hfinish
    by_cases hv2 : backend.boCreateV2 = true
    · rw [if_pos hv2] at heq
      exact hend _ heq
    rw [if_neg hv2] at heq
    by_cases htest : testOnly = true
    · -- a backend that cannot be asked
      rw [if_pos htest] at heq
      obtain ⟨rfl, rfl⟩ := Prod.mk.inj heq
      exact (if_neg fun hret => absurd hret.1 (by decide)).symm
    · rw [if_neg htest] at heq
      split_ifs at heq <;> exact hend _ heq

/-- **The account with leaks**: every object is handed out or leaked, and what was handed out and
not destroyed is what was created. -/
structure Accounts (s : BoLedger) (leaked : List Nat) : Prop where
  owned : FdTable.Owned (leaked ++ s.handedOut) s.table
  counted : s.created = s.handedOut.length + s.destroyed

theorem accounts_start (h : (boMachine backend).start s) : s.Accounts [] := by
  obtain ⟨foreign, rfl⟩ := h
  exact ⟨FdTable.owned_nil foreign, rfl⟩

/-- An object in hand is freed or handed out. -/
theorem Accounts.finishCreate {leaked : List Nat} {table : FdTable} {bo : Nat} {testOnly : Bool}
    {ret ret' : Int} (h : s.Accounts leaked) (hopen : s.table.openFd (some bo) = some table)
    (hfinish : ({ s with table := table } : BoLedger).finishCreate bo testOnly ret = (s', ret')) :
    s'.Accounts leaked := by
  have howned : FdTable.Owned (bo :: (leaked ++ s.handedOut)) table := h.owned.openFd hopen
  unfold BoLedger.finishCreate at hfinish
  split_ifs at hfinish
  · obtain ⟨rfl, -⟩ := Prod.mk.inj hfinish
    exact ⟨howned.close, h.counted⟩
  · obtain ⟨rfl, -⟩ := Prod.mk.inj hfinish
    refine ⟨howned.congr List.perm_middle, ?_⟩
    show s.created + 1 = (bo :: s.handedOut).length + s.destroyed
    rw [List.length_cons, h.counted]
    omega

/-- The account after a call that may leak one object. -/
def ContinuesWith (s' : BoLedger) (leaked : List Nat) (leaks : Prop) [Decidable leaks] : Prop :=
  ∃ leaked', s'.Accounts leaked' ∧ leaked'.length = leaked.length + if leaks then 1 else 0

theorem Accounts.withoutLeak {leaked : List Nat} {leaks : Prop} [Decidable leaks]
    (h : s.Accounts leaked) (hnot : ¬ leaks) : s.ContinuesWith leaked leaks :=
  ⟨leaked, h, by rw [if_neg hnot, Nat.add_zero]⟩

/-- **What `drv_bo_create` does to the account**: it leaks exactly in a probe that cannot be
made. -/
theorem Accounts.drvBoCreate {leaked : List Nat} {isTestAlloc testOnly : Bool}
    {answers : BoAnswers} {ret : Int} (h : s.Accounts leaked)
    (hcreate : s.drvBoCreate backend isTestAlloc testOnly answers = some (s', ret)) :
    s'.ContinuesWith leaked (ProbeLeaks backend testOnly answers) := by
  unfold BoLedger.drvBoCreate at hcreate
  cases hbo : answers.bo with
  | none =>
    rw [hbo] at hcreate
    obtain ⟨rfl, -⟩ := Prod.mk.inj (Option.some.inj hcreate)
    apply h.withoutLeak
    rintro ⟨-, -, hsome⟩
    exact absurd (hbo ▸ hsome) (by decide)
  | some bo =>
    rw [hbo] at hcreate
    obtain ⟨table, hopen, heq⟩ := Option.map_eq_some_iff.mp hcreate
    dsimp only at heq
    by_cases hv2 : backend.boCreateV2 = true
    · rw [if_pos hv2] at heq
      apply (h.finishCreate hopen heq).withoutLeak
      rintro ⟨hv2', -⟩
      exact Bool.false_ne_true (hv2'.symm.trans hv2)
    rw [if_neg hv2] at heq
    by_cases htest : testOnly = true
    · -- the object is neither freed nor handed out
      rw [if_pos htest] at heq
      obtain ⟨rfl, -⟩ := Prod.mk.inj heq
      refine ⟨bo :: leaked, ⟨h.owned.openFd hopen, h.counted⟩, ?_⟩
      rw [if_pos ⟨Bool.eq_false_iff.mpr hv2, htest, by rw [hbo]; rfl⟩, List.length_cons]
    · rw [if_neg htest] at heq
      have haccounts : s'.Accounts leaked := by
        split_ifs at heq <;> exact h.finishCreate hopen heq
      apply haccounts.withoutLeak
      rintro ⟨-, htest', -⟩
      exact htest htest'

theorem Accounts.drvBoDestroy {leaked : List Nat} {bo : Nat} (h : s.Accounts leaked)
    (hdestroy : s.drvBoDestroy bo = some s') : s'.Accounts leaked := by
  unfold BoLedger.drvBoDestroy at hdestroy
  split_ifs at hdestroy with hbo
  obtain rfl := Option.some.inj hdestroy
  have hperm : (bo :: (leaked ++ s.handedOut.erase bo)).Perm (leaked ++ s.handedOut) :=
    calc (bo :: (leaked ++ s.handedOut.erase bo)).Perm (leaked ++ bo :: s.handedOut.erase bo) :=
        List.perm_middle.symm
      _ |>.Perm (leaked ++ s.handedOut) := (List.perm_cons_erase hbo).symm.append_left leaked
  refine ⟨(h.owned.congr hperm).close, ?_⟩
  have hpos := List.length_pos_of_mem hbo
  have hlength := List.length_erase_of_mem hbo
  have hcounted := h.counted
  dsimp only
  omega

/-- A probe is a creation. -/
theorem Accounts.getResolvedFormatAndUseFlags {leaked : List Nat} {isTestAlloc combination r : Bool}
    {answers : BoAnswers} (h : s.Accounts leaked)
    (hresolve : s.getResolvedFormatAndUseFlags backend isTestAlloc answers combination =
      some (s', r)) :
    s'.ContinuesWith leaked (ProbeLeaks backend true answers) := by
  obtain ⟨⟨s₁, ret⟩, hcreate, heq⟩ := Option.map_eq_some_iff.mp hresolve
  obtain ⟨rfl, -⟩ := Prod.mk.inj heq
  exact h.drvBoCreate hcreate

/-- Only the probe of an allocation can leak. -/
theorem Accounts.allocate {leaked : List Nat} {isTestAlloc combination : Bool}
    {probe answers : BoAnswers} {ret : Int} (h : s.Accounts leaked)
    (hallocate : s.allocate backend isTestAlloc probe combination answers = some (s', ret)) :
    s'.ContinuesWith leaked (ProbeLeaks backend true probe) := by
  unfold BoLedger.allocate at hallocate
  split at hallocate
  case h_1 => cases hallocate
  case h_2 s₁ hresolve =>
    obtain ⟨rfl, -⟩ := Prod.mk.inj (Option.some.inj hallocate)
    exact h.getResolvedFormatAndUseFlags hresolve
  case h_3 s₁ hresolve =>
    obtain ⟨leaked₁, h₁, hlength₁⟩ := h.getResolvedFormatAndUseFlags hresolve
    obtain ⟨leaked₂, h₂, hlength₂⟩ := h₁.drvBoCreate hallocate
    refine ⟨leaked₂, h₂, ?_⟩
    rw [hlength₂, if_neg, Nat.add_zero, hlength₁]
    exact fun hleaks => Bool.false_ne_true hleaks.2.1

theorem Accounts.next {leaked : List Nat} {call : BoCall} (h : s.Accounts leaked)
    (hnext : (boMachine backend).next s call = some s') :
    s'.ContinuesWith leaked (call.Leaks backend) := by
  cases call with
  | create isTestAlloc testOnly answers =>
    obtain ⟨⟨s₁, ret⟩, hcreate, rfl⟩ := Option.map_eq_some_iff.mp hnext
    exact h.drvBoCreate hcreate
  | resolve isTestAlloc answers combination =>
    obtain ⟨⟨s₁, r⟩, hresolve, rfl⟩ := Option.map_eq_some_iff.mp hnext
    exact h.getResolvedFormatAndUseFlags hresolve
  | allocate isTestAlloc probe combination answers =>
    obtain ⟨⟨s₁, ret⟩, hallocate, rfl⟩ := Option.map_eq_some_iff.mp hnext
    exact h.allocate hallocate
  | destroy bo => exact (h.drvBoDestroy hnext).withoutLeak not_false

/-- Every leaking call of a run adds one object to those leaked. -/
theorem Accounts.run {leaked : List Nat} {calls : List BoCall} (h : s.Accounts leaked)
    (hrun : (boMachine backend).Run s calls s') :
    ∃ leaked', s'.Accounts leaked' ∧
      leaked'.length = leaked.length + calls.countP fun call => call.Leaks backend := by
  induction hrun generalizing leaked with
  | nil s => exact ⟨leaked, h, rfl⟩
  | @cons s s₁ s' call calls hnext _ ih =>
    obtain ⟨leaked₁, h₁, hlength₁⟩ := h.next hnext
    obtain ⟨leaked', h', hlength'⟩ := ih h₁
    refine ⟨leaked', h', ?_⟩
    rw [hlength', hlength₁, List.countP_cons]
    simp only [decide_eq_true_eq]
    omega

/-! ## The account -/

/-- **The account of objects**: the live objects are exactly those handed out, and as many as were
created and not destroyed. -/
structure Balanced (s : BoLedger) : Prop where
  live : s.table.held.Perm s.handedOut
  counted : s.table.held.length + s.destroyed = s.created

theorem balanced_iff_of_accounts {leaked : List Nat} (h : s.Accounts leaked) :
    s.Balanced ↔ leaked = [] := by
  constructor
  · intro hbalanced
    have hlength := h.owned.perm.length_eq
    rw [List.length_append, hbalanced.live.length_eq] at hlength
    exact List.eq_nil_of_length_eq_zero (by omega)
  · rintro rfl
    have hperm : s.handedOut.Perm s.table.held := h.owned.perm
    refine ⟨hperm.symm, ?_⟩
    rw [h.counted, ← hperm.length_eq]

/-- **When no object leaks**: for every backend, the account is balanced after exactly those runs in
which no probe gets an object at a backend without `bo_create_v2`. -/
theorem ledger_iff {calls : List BoCall} (hstart : (boMachine backend).start s)
    (hrun : (boMachine backend).Run s calls s') :
    s'.Balanced ↔ ∀ call ∈ calls, ¬ call.Leaks backend := by
  obtain ⟨leaked, h, hlength⟩ := (accounts_start hstart).run hrun
  rw [balanced_iff_of_accounts h, ← List.length_eq_zero_iff, hlength, List.length_nil, Nat.zero_add,
    List.countP_eq_zero]
  simp only [decide_eq_true_eq]

/-- A probe and an allocation at a backend that can be asked. -/
theorem ledger_iff_askable :
    ∃ s', (boMachine { boCreateV2 := true, boComputeMetadata := false }).Run {}
        [.resolve false { bo := some 1 } false,
          .allocate false { bo := some 1 } false { bo := some 2 }] s' ∧
      s'.handedOut = [2] ∧ s'.Balanced := by
  have hrun : (boMachine { boCreateV2 := true, boComputeMetadata := false }).Run {}
      [.resolve false { bo := some 1 } false,
        .allocate false { bo := some 1 } false { bo := some 2 }]
      { table := { held := [2] }, handedOut := [2], created := 1 } :=
    Machine.run_iff_exec.mpr rfl
  exact ⟨_, hrun, rfl, (ledger_iff ⟨[], rfl⟩ hrun).mpr (by decide)⟩

/-- A query for a format leaves an object behind that nobody has. -/
theorem resolve_leaks :
    ∃ s', (boMachine { boCreateV2 := false, boComputeMetadata := false }).Run {}
        [.resolve false { bo := some 1 } true] s' ∧
      s'.table.held = [1] ∧ s'.handedOut = [] ∧ s'.created = 0 ∧ ¬ s'.Balanced := by
  refine ⟨{ table := { held := [1] } }, Machine.run_iff_exec.mpr rfl, rfl, rfl, rfl, fun h => ?_⟩
  exact absurd h.live.length_eq (by decide)

end BoLedger

end GloDroid.Gralloc

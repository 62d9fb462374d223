import Mathlib.Logic.Function.Basic
import Mathlib.Tactic.Common

/-!
# Threads as Scripts over Locks

A thread that is given by the list of operations it still has to perform tells by its script which
locks it holds: those it releases before it acquires them. `Consistent` says that the owner recorded
for a lock agrees with that, for any number of threads. Its rules are the three things a thread can
do to a lock: leave it alone, acquire it while it is free, and release it.
-/

namespace GloDroid.Base

/-- Which locks an operation acquires and releases. -/
structure LockOps (M O : Type*) where
  acquires : O → M → Bool
  releases : O → M → Bool

namespace LockOps

variable {M O T : Type*} (ops : LockOps M O) (m : M)

/-- The thread with this script holds the lock. -/
def holds : List O → Bool
  | [] => false
  | op :: rest =>
    -- the first operation on the lock decides
    if ops.releases op m then true else if ops.acquires op m then false else holds rest

variable {ops m}

theorem holds_cons_releases {op : O} (rest : List O) (h : ops.releases op m = true) :
    ops.holds m (op :: rest) = true := by
  simp [holds, h]

theorem holds_cons_other {op : O} (rest : List O) (hrel : ops.releases op m = false)
    (hacq : ops.acquires op m = false) : ops.holds m (op :: rest) = ops.holds m rest := by
  simp [holds, hrel, hacq]

theorem holds_cons_acquires {op : O} (rest : List O) (hrel : ops.releases op m = false)
    (hacq : ops.acquires op m = true) : ops.holds m (op :: rest) = false := by
  simp [holds, hrel, hacq]

variable (ops m)

/-- The threads that hold the lock by their scripts are its recorded owner. -/
def Consistent (thread : Nat → T) (owner : Option T) (scripts : Nat → List O) : Prop :=
  ∀ i, ops.holds m (scripts i) = true ↔ owner = some (thread i)

variable {ops m}

namespace Consistent

variable {thread : Nat → T} {owner : Option T} {scripts : Nat → List O} {i : Nat} {script : List O}

/-- Who is not among the threads may own the lock only while none of them holds it. -/
theorem change_owner (h : ops.Consistent m thread owner scripts) {owner' : Option T}
    (howner : ∀ j, owner ≠ some (thread j)) (howner' : ∀ j, owner' ≠ some (thread j)) :
    ops.Consistent m thread owner' scripts :=
  fun j => ⟨fun hholds => absurd ((h j).mp hholds) (howner j), fun heq => absurd heq (howner' j)⟩

/-- The thread goes on without touching the lock. -/
theorem stay (h : ops.Consistent m thread owner scripts)
    (hsame : ops.holds m script = ops.holds m (scripts i)) :
    ops.Consistent m thread owner (Function.update scripts i script) := by
  intro j
  by_cases hj : j = i
  · subst hj
    rw [Function.update_self, hsame]
    exact h j
  · rw [Function.update_of_ne hj]
    exact h j

/-- The thread acquires the free lock. -/
theorem acquire (h : ops.Consistent m thread none scripts) (hinj : Function.Injective thread)
    (hscript : ops.holds m script = true) :
    ops.Consistent m thread (some (thread i)) (Function.update scripts i script) := by
  intro j
  by_cases hj : j = i
  · subst hj
    simp [hscript]
  · rw [Function.update_of_ne hj]
    refine ⟨fun hholds => ?_, fun heq => ?_⟩
    · -- nobody held the free lock
      cases (h j).mp hholds
    · exact absurd (hinj (Option.some.inj heq)).symm hj

/-- The thread releases the lock. -/
theorem release (h : ops.Consistent m thread owner scripts) (hinj : Function.Injective thread)
    (hheld : ops.holds m (scripts i) = true) (hscript : ops.holds m script = false) :
    ops.Consistent m thread none (Function.update scripts i script) := by
  intro j
  by_cases hj : j = i
  · subst hj
    simp [hscript]
  · rw [Function.update_of_ne hj]
    refine ⟨fun hholds => ?_, fun heq => by cases heq⟩
    -- two holders would be the same thread
    have howner := ((h j).mp hholds).symm.trans ((h i).mp hheld)
    exact absurd (hinj (Option.some.inj howner)) hj

end Consistent

end LockOps

end GloDroid.Base

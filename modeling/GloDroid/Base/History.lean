import Mathlib.Data.List.Basic
import Mathlib.Order.Lattice

/-!
# Histories of Timed Events

A history lists events in the order of their times. What has happened up to a time is then a prefix
of it, and an event of the history belongs to the prefix from its own time on.
-/

namespace GloDroid.Base

section History

variable {Event Time : Type*} [LinearOrder Time] (time : Event → Time)

/-- The events are in the order of their times; events of one time are in some order. -/
def Chronological (history : List Event) : Prop := history.Pairwise fun e e' => time e ≤ time e'

/-- The events up to a time. -/
def upTo (t : Time) (history : List Event) : List Event := history.filter fun e => time e ≤ t

variable {time} {t : Time} {before after : List Event} {e : Event}

theorem upTo_eq_nil_iff {history : List Event} :
    upTo time t history = [] ↔ ∀ e ∈ history, t < time e := by
  simp [upTo, List.filter_eq_nil_iff]

/-- From its own time on, an event has happened, and so has all that comes before it. -/
theorem upTo_of_le (h : Chronological time (before ++ e :: after)) (hle : time e ≤ t) :
    upTo time t (before ++ e :: after) = before ++ e :: upTo time t after := by
  have hbefore : ∀ e' ∈ before, time e' ≤ t := by
    intro e' he'
    exact le_trans ((List.pairwise_append.mp h).2.2 e' he' e List.mem_cons_self) hle
  have hall : upTo time t before = before := by
    apply List.filter_eq_self.mpr
    simpa using hbefore
  have hhead : upTo time t (e :: after) = e :: upTo time t after := by
    apply List.filter_cons_of_pos
    simpa using hle
  calc upTo time t (before ++ e :: after)
    _ = upTo time t before ++ upTo time t (e :: after) := List.filter_append before _
    _ = before ++ e :: upTo time t after := by rw [hall, hhead]

/-- Until its own time, neither the event nor anything after it has happened. -/
theorem upTo_of_lt (h : Chronological time (before ++ e :: after)) (hlt : t < time e) :
    upTo time t (before ++ e :: after) = upTo time t before := by
  have hafter : ∀ e' ∈ after, time e ≤ time e' :=
    (List.pairwise_cons.mp (List.pairwise_append.mp h).2.1).1
  have hnone : upTo time t (e :: after) = [] := by
    apply upTo_eq_nil_iff.mpr
    intro e' he'
    rcases List.mem_cons.mp he' with rfl | he'
    · exact hlt
    · exact lt_of_lt_of_le hlt (hafter e' he')
  calc upTo time t (before ++ e :: after)
    _ = upTo time t before ++ upTo time t (e :: after) := List.filter_append before _
    _ = upTo time t before := by rw [hnone, List.append_nil]

end History

end GloDroid.Base

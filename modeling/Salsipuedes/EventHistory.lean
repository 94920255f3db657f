import Mathlib.Data.List.Basic
import Mathlib.Tactic.Common

/-!
# Marks separated by stops

Many requirements on a history of events say that an event of one kind is not
repeated before an event of another kind.  A flag which a mark sets and a stop
clears turns such a requirement into a property of consecutive events, which an
invariant can carry from step to step.  The same goes for the number of marks
since the last stop.
-/

namespace Salsipuedes.EventHistory

variable {Event : Type*} (mark stop : Event → Bool)

/-- The flag after one event. -/
def next (flag : Bool) (event : Event) : Bool :=
  if mark event then true else if stop event then false else flag

/-- Whether a mark has been emitted and no stop since; `flag` is the answer for
the history before this one. -/
def marked : Bool → List Event → Bool
  | flag, [] => flag
  | flag, event :: events => marked (next mark stop flag event) events

/-- No mark is emitted while the flag is set. -/
def Separated : Bool → List Event → Prop
  | _, [] => True
  | flag, event :: events =>
      (mark event = true → flag = false) ∧
        Separated (next mark stop flag event) events

/-- No event of a kind is emitted while the flag is set. -/
def Barred (kind : Event → Bool) : Bool → List Event → Prop
  | _, [] => True
  | flag, event :: events =>
      (kind event = true → flag = false) ∧
        Barred kind (next mark stop flag event) events

/-- The number of marks since the last stop; `count` is the number before this
history. -/
def tally : Nat → List Event → Nat
  | count, [] => count
  | count, event :: events =>
      tally (if stop event then 0 else if mark event then count + 1 else count)
        events

theorem marked_append (flag : Bool) (first second : List Event) :
    marked mark stop flag (first ++ second) =
      marked mark stop (marked mark stop flag first) second := by
  induction first generalizing flag with
  | nil => rfl
  | cons event events ih => exact ih _

theorem separated_append (flag : Bool) (first second : List Event) :
    Separated mark stop flag (first ++ second) ↔
      Separated mark stop flag first ∧
        Separated mark stop (marked mark stop flag first) second := by
  induction first generalizing flag with
  | nil => simp [Separated, marked]
  | cons event events ih => simp [Separated, marked, ih, and_assoc]

theorem barred_append (kind : Event → Bool) (flag : Bool)
    (first second : List Event) :
    Barred mark stop kind flag (first ++ second) ↔
      Barred mark stop kind flag first ∧
        Barred mark stop kind (marked mark stop flag first) second := by
  induction first generalizing flag with
  | nil => simp [Barred, marked]
  | cons event events ih => simp [Barred, marked, ih, and_assoc]

theorem tally_append (count : Nat) (first second : List Event) :
    tally mark stop count (first ++ second) =
      tally mark stop (tally mark stop count first) second := by
  induction first generalizing count with
  | nil => rfl
  | cons event events ih => exact ih _

section Filter

variable {mark stop} {visible : Event → Bool}

theorem next_of_invisible
    (relevant : ∀ event, mark event = true ∨ stop event = true →
      visible event = true)
    {event : Event} (invisible : visible event = false) (flag : Bool) :
    mark event = false ∧ next mark stop flag event = flag := by
  have unmarked : mark event = false := by
    by_contra marked
    simp [relevant event (.inl (by simpa using marked))] at invisible
  have going : stop event = false := by
    by_contra stopped
    simp [relevant event (.inr (by simpa using stopped))] at invisible
  exact ⟨unmarked, by simp [next, unmarked, going]⟩

/-- Events which are neither marks nor stops do not matter. -/
theorem marked_filter
    (relevant : ∀ event, mark event = true ∨ stop event = true →
      visible event = true)
    (flag : Bool) (events : List Event) :
    marked mark stop flag (events.filter visible) =
      marked mark stop flag events := by
  induction events generalizing flag with
  | nil => rfl
  | cons event events ih =>
      by_cases shown : visible event = true
      · simp [shown, marked, ih]
      · have skipped := next_of_invisible relevant (by simpa using shown) flag
        simp [shown, marked, ih, skipped.2]

theorem separated_filter
    (relevant : ∀ event, mark event = true ∨ stop event = true →
      visible event = true)
    (flag : Bool) (events : List Event) :
    Separated mark stop flag (events.filter visible) ↔
      Separated mark stop flag events := by
  induction events generalizing flag with
  | nil => rfl
  | cons event events ih =>
      by_cases shown : visible event = true
      · simp [shown, Separated, ih]
      · have skipped := next_of_invisible relevant (by simpa using shown) flag
        simp [shown, Separated, ih, skipped.1, skipped.2]

theorem barred_filter {kind : Event → Bool}
    (relevant : ∀ event, mark event = true ∨ stop event = true →
      visible event = true)
    (shows : ∀ event, kind event = true → visible event = true)
    (flag : Bool) (events : List Event) :
    Barred mark stop kind flag (events.filter visible) ↔
      Barred mark stop kind flag events := by
  induction events generalizing flag with
  | nil => rfl
  | cons event events ih =>
      by_cases shown : visible event = true
      · simp [shown, Barred, ih]
      · have skipped := next_of_invisible relevant (by simpa using shown) flag
        have other : kind event ≠ true := fun isKind => shown (shows event isKind)
        simp [shown, Barred, ih, skipped.2, other]

theorem tally_filter
    (relevant : ∀ event, mark event = true ∨ stop event = true →
      visible event = true)
    (count : Nat) (events : List Event) :
    tally mark stop count (events.filter visible) =
      tally mark stop count events := by
  induction events generalizing count with
  | nil => rfl
  | cons event events ih =>
      by_cases shown : visible event = true
      · simp [shown, tally, ih]
      · have unmarked : mark event = false := by
          by_contra marked
          exact shown (relevant event (.inl (by simpa using marked)))
        have going : stop event = false := by
          by_contra stopped
          exact shown (relevant event (.inr (by simpa using stopped)))
        simp [shown, tally, ih, unmarked, going]

end Filter

variable {mark stop}

/-- Without marks the flag only goes down, at the first stop. -/
theorem marked_of_unmarked {events : List Event}
    (unmarked : ∀ event ∈ events, mark event = false) (flag : Bool) :
    marked mark stop flag events = true ↔
      flag = true ∧ ∀ event ∈ events, stop event = false := by
  induction events generalizing flag with
  | nil => simp [marked]
  | cons event events ih =>
      have rest := ih fun event member =>
        unmarked event (List.mem_cons_of_mem _ member)
      rw [marked, rest, next, unmarked event List.mem_cons_self]
      cases stopped : stop event <;> simp [stopped]

theorem separated_of_unmarked {events : List Event}
    (unmarked : ∀ event ∈ events, mark event = false) (flag : Bool) :
    Separated mark stop flag events := by
  induction events generalizing flag with
  | nil => trivial
  | cons event events ih =>
      refine ⟨by simp [unmarked event List.mem_cons_self], ih ?_ _⟩
      exact fun event member => unmarked event (List.mem_cons_of_mem _ member)

theorem marked_true_of_no_stop {events : List Event}
    (going : ∀ event ∈ events, stop event = false) :
    marked mark stop true events = true := by
  induction events with
  | nil => rfl
  | cons event events ih =>
      have continues : next mark stop true event = true := by
        simp [next, going event List.mem_cons_self]
      rw [marked, continues]
      exact ih fun event member => going event (List.mem_cons_of_mem _ member)

theorem marked_of_neutral {events : List Event}
    (neutral : ∀ event ∈ events, mark event = false ∧ stop event = false)
    (flag : Bool) : marked mark stop flag events = flag := by
  rw [Bool.eq_iff_iff,
    marked_of_unmarked fun event member => (neutral event member).1]
  exact and_iff_left fun event member => (neutral event member).2

theorem tally_of_neutral {events : List Event}
    (neutral : ∀ event ∈ events, mark event = false ∧ stop event = false)
    (count : Nat) : tally mark stop count events = count := by
  induction events generalizing count with
  | nil => rfl
  | cons event events ih =>
      obtain ⟨unmarked, going⟩ := neutral event List.mem_cons_self
      rw [tally, unmarked, going]
      exact ih (fun event member =>
        neutral event (List.mem_cons_of_mem _ member)) count

theorem le_tally_of_no_stop {events : List Event}
    (going : ∀ event ∈ events, stop event = false) (count : Nat) :
    count ≤ tally mark stop count events := by
  induction events generalizing count with
  | nil => exact Nat.le_refl count
  | cons event events ih =>
      rw [tally, going event List.mem_cons_self]
      have rest := fun event member =>
        going event (List.mem_cons_of_mem _ member)
      cases mark event with
      | false => exact ih rest count
      | true => exact Nat.le_trans (Nat.le_succ count) (ih rest (count + 1))

/-- Events which are not of the kind may be emitted at any time. -/
theorem barred_of_other {kind : Event → Bool} {events : List Event}
    (other : ∀ event ∈ events, kind event = false) (flag : Bool) :
    Barred mark stop kind flag events := by
  induction events generalizing flag with
  | nil => trivial
  | cons event events ih =>
      refine ⟨by simp [other event List.mem_cons_self], ih ?_ _⟩
      exact fun event member => other event (List.mem_cons_of_mem _ member)

/-- Between two marks of a separated history there is a stop. -/
theorem Separated.stop_between {flag : Bool}
    {before between rest : List Event} {first second : Event}
    (separated : Separated mark stop flag
      (before ++ first :: between ++ second :: rest))
    (firstMark : mark first = true) (secondMark : mark second = true) :
    ∃ event ∈ between, stop event = true := by
  by_contra going
  push Not at going
  have afterFirst : marked mark stop flag (before ++ first :: between) = true := by
    rw [marked_append, marked, next, if_pos firstMark]
    exact marked_true_of_no_stop fun event member => by
      simpa using going event member
  rw [separated_append, afterFirst] at separated
  simpa using separated.2.1 secondMark

end Salsipuedes.EventHistory

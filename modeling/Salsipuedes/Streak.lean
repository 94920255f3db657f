import Mathlib

/-!
# Streaks at the end of a history

A debouncer or a dwell timer counts how many of the last observations in a row
met a condition.  The streak of a history is that count, so a counter can be
compared with the history which it summarizes.
-/

namespace Salsipuedes

variable {Observation : Type*} (meets : Observation → Bool)

/-- How many of the last observations in a row meet the condition. -/
def streak (history : List Observation) : Nat :=
  history.foldl (fun count observation =>
    if meets observation then count + 1 else 0) 0

@[simp]
theorem streak_nil : streak meets [] = 0 :=
  rfl

theorem streak_concat (history : List Observation) (last : Observation) :
    streak meets (history ++ [last]) =
      if meets last then streak meets history + 1 else 0 := by
  simp [streak]

theorem streak_concat_of_meets {last : Observation} (met : meets last = true)
    (history : List Observation) :
    streak meets (history ++ [last]) = streak meets history + 1 := by
  rw [streak_concat, if_pos met]

theorem streak_concat_of_not {last : Observation} (unmet : meets last = false)
    (history : List Observation) : streak meets (history ++ [last]) = 0 := by
  rw [streak_concat, unmet]
  rfl

/-- A streak is at least `count` when the last `count` observations meet the
condition. -/
theorem le_streak_iff (history : List Observation) (count : Nat) :
    count ≤ streak meets history ↔
      ∃ earlier recent, history = earlier ++ recent ∧ recent.length = count ∧
        ∀ observation ∈ recent, meets observation = true := by
  induction history using List.reverseRecOn generalizing count with
  | nil =>
      constructor
      · intro bound
        obtain rfl : count = 0 := by simpa using bound
        exact ⟨[], [], rfl, rfl, by simp⟩
      · rintro ⟨earlier, recent, split, rfl, -⟩
        simp [(List.append_eq_nil_iff.mp split.symm).2]
  | append_singleton history last ih =>
      constructor
      · intro bound
        cases count with
        | zero => exact ⟨history ++ [last], [], by simp, rfl, by simp⟩
        | succ count =>
            rw [streak_concat] at bound
            split at bound
            · rename_i met
              obtain ⟨earlier, recent, split, length, all⟩ :=
                (ih count).mp (by omega)
              refine ⟨earlier, recent ++ [last], by simp [split], by simp [length],
                ?_⟩
              intro observation member
              rcases List.mem_append.mp member with before | here
              · exact all observation before
              · rw [List.mem_singleton.mp here]
                exact met
            · omega
      · rintro ⟨earlier, recent, split, rfl, all⟩
        rcases recent.eq_nil_or_concat with rfl | ⟨before, final, rfl⟩
        · simp
        · rw [List.concat_eq_append, ← List.append_assoc] at split
          obtain ⟨rfl, final⟩ := List.append_inj' split rfl
          obtain rfl := List.singleton_inj.mp final
          have met := all last (by simp)
          have bound := (ih before.length).mpr ⟨earlier, before, rfl, rfl,
            fun observation member => all observation (by simp [member])⟩
          rw [streak_concat_of_meets meets met]
          simpa using bound

end Salsipuedes

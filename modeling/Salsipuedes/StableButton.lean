import Salsipuedes.ArduinoCore

/-!
# A stable-interval debouncer

The behaviour of a Bounce2 button with an interval of 25 ms: a new level is
accepted when it has been read without interruption for the interval.
-/

namespace Salsipuedes

structure StableButton where
  debounced : Bool
  unstable : Bool
  changed : Bool
  previous : UInt32
  deriving DecidableEq

namespace StableButton

def debounceInterval : UInt32 := 25

def update (button : StableButton) (level : Bool) (now : UInt32) :
    StableButton :=
  if level ≠ button.unstable then
    { button with unstable := level, changed := false, previous := now }
  else if now - button.previous ≥ debounceInterval ∧
      level ≠ button.debounced then
    { button with debounced := level, changed := true, previous := now }
  else
    { button with changed := false }

instance : Bounce StableButton where
  attach level now := ⟨level, level, false, now⟩
  update := update
  rose button := button.debounced && button.changed

section Times

variable (now previous : UInt32)

theorem elapsed_self : now + 25 - now = debounceInterval := by
  rw [UInt32.add_comm, UInt32.add_sub_cancel]
  rfl

/-- The clock may wrap around between the two readings. -/
theorem elapsed_add (early : ¬ now - previous ≥ debounceInterval) :
    now + 25 - previous ≥ debounceInterval := by
  simp only [ge_iff_le, UInt32.le_iff_toNat_le, UInt32.toNat_sub,
    UInt32.toNat_add] at *
  have interval : debounceInterval.toNat = 25 := rfl
  have step : (25 : UInt32).toNat = 25 := rfl
  have nowBound := now.toNat_lt
  have previousBound := previous.toNat_lt
  omega

end Times

/-- After two readings of a level 25 ms apart it is accepted. -/
theorem settles (button : StableButton) (level : Bool) (now : UInt32) :
    (update (update button level now) level (now + 25)).debounced = level ∧
      (update (update button level now) level (now + 25)).unstable = level := by
  by_cases fresh : level ≠ button.unstable
  · rw [update.eq_def button, if_pos fresh]
    unfold update
    rw [if_neg (by simp), elapsed_self]
    split
    · exact ⟨rfl, rfl⟩
    · rename_i accepted
      have same : button.debounced = level := by
        simpa [debounceInterval, eq_comm] using accepted
      exact ⟨same, rfl⟩
  have held : button.unstable = level := by simpa [eq_comm] using fresh
  subst held
  by_cases due : now - button.previous ≥ debounceInterval ∧
      button.unstable ≠ button.debounced
  · rw [update.eq_def button, if_neg (by simp), if_pos due]
    unfold update
    rw [if_neg (by simp), if_neg (by simp)]
    exact ⟨rfl, rfl⟩
  · rw [update.eq_def button, if_neg (by simp), if_neg due]
    unfold update
    rw [if_neg (by simp)]
    split
    · exact ⟨rfl, rfl⟩
    · rename_i notYet
      by_cases early : now - button.previous ≥ debounceInterval
      · have same : button.debounced = button.unstable := by
          simpa [early, eq_comm] using due
        exact ⟨same, rfl⟩
      · have late := elapsed_add now button.previous early
        have same : button.debounced = button.unstable := by
          simpa [late, eq_comm] using notYet
        exact ⟨same, rfl⟩

/-- A released button rises at the first or second reading. -/
theorem rises {button : StableButton} (debounced : button.debounced = low)
    (unstable : button.unstable = low) (now : UInt32) :
    Bounce.rose (update (update button high now) high (now + 25)) = true := by
  have fresh : high ≠ button.unstable := by simp [unstable]
  rw [update.eq_def button, if_pos fresh]
  unfold update
  rw [if_neg (by simp), elapsed_self, if_pos ⟨by decide, by simp [debounced]⟩]
  rfl

theorem presses : Bounce.Presses StableButton := by
  intro button now
  obtain ⟨debounced, unstable⟩ := settles button low now
  right
  have later : now + 50 + 25 = now + 75 := by
    rw [UInt32.add_assoc]
    rfl
  rw [← later]
  exact rises debounced unstable (now + 50)

end StableButton

end Salsipuedes

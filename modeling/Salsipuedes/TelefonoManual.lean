import Salsipuedes.TelefonoDisco

/-!
# The operator's override of the telephone

A `/manual` request overwrites the number with the right one, and leaves the
verdict to the next iteration.  Before that iteration compares the number, it may
append a digit which was pending, clear it because the handset was hung up or
lifted, or give it up because nothing has changed for too long.
-/

namespace Salsipuedes

namespace Telefono

/-- The globals after a `/manual` request. -/
def marked (telefono : Telefono) (sample : Sample) : Telefono :=
  node.machine.step telefono (.request .manual sample)

/-- A `/manual` request and one iteration send `WIN` and no `FAIL`, and the number
is done. -/
def Overrides (telefono : Telefono) (sample : Sample) : Prop :=
  NodeEvent.packet win ∈
      node.machine.emit (telefono.marked sample) (.iterate sample) ∧
    NodeEvent.packet fail ∉
      node.machine.emit (telefono.marked sample) (.iterate sample) ∧
    (node.machine.step (telefono.marked sample) (.iterate sample)).done = true

instance (telefono : Telefono) (sample : Sample) :
    Decidable (telefono.Overrides sample) :=
  inferInstanceAs (Decidable (_ ∧ _))

/-- None of the three blocks of an iteration which come before the verdict touches
the number. -/
def LeavesNumber (telefono : Telefono) (sample : Sample) : Prop :=
  ¬ telefono.DigitDue (sample.millis 0) ∧ ¬ telefono.TurnsHook sample ∧
    ¬ telefono.age 4 sample > resetTime

instance (telefono : Telefono) (sample : Sample) :
    Decidable (telefono.LeavesNumber sample) :=
  inferInstanceAs (Decidable (_ ∧ _ ∧ _))

section Override

variable {telefono : Telefono} {sample : Sample}

/-- The request does not touch what the three blocks look at. -/
theorem marked_numero :
    (telefono.marked sample).numero sample =
      if telefono.TurnsHook sample then []
      else if telefono.DigitDue (sample.millis 0) then
        objectivenum ++ decimal (telefono.count.tmod 10)
      else
        objectivenum := by
  have turns :=
    @turnsHook_congr (telefono.marked sample) telefono rfl rfl rfl sample
  rw [numero, completeDigit_fullnum]
  exact if_congr turns rfl rfl

/-- The number is still the right one exactly when it is left alone. -/
theorem marked_numero_eq_iff :
    (telefono.marked sample).numero sample = objectivenum ↔
      ¬ telefono.DigitDue (sample.millis 0) ∧ ¬ telefono.TurnsHook sample := by
  rw [marked_numero]
  split
  · rename_i turned
    exact iff_of_false (by decide) fun left => left.2 turned
  · rename_i still
    split
    · rename_i complete
      refine iff_of_false (fun same => ?_) fun left => left.1 complete
      exact decimal_ne_nil _ (List.append_right_eq_self.mp same)
    · rename_i incomplete
      exact iff_of_true rfl ⟨incomplete, still⟩

/-- An open number is done after the verdict exactly when it is the right one. -/
theorem verdict_done_iff (isOpen : telefono.done = false) :
    (verdict telefono).done = true ↔ telefono.fullnum = objectivenum := by
  by_cases right : telefono.fullnum = objectivenum
  · rw [verdict, if_pos ⟨right, isOpen⟩]
    exact iff_of_true rfl right
  · refine iff_of_false ?_ right
    rw [verdict, if_neg (fun both => right both.1)]
    split
    · exact Bool.false_ne_true
    · rw [isOpen]
      exact Bool.false_ne_true

theorem judge_done_iff (isOpen : telefono.done = false) (now : UInt32) :
    (verdict (telefono.timeOut now)).done = true ↔
      telefono.fullnum = objectivenum ∧ ¬ telefono.elapsed now > resetTime := by
  rw [verdict_done_iff ((timeOut_done now telefono).trans isOpen),
    timeOut_fullnum, isOpen]
  split
  · rename_i late
    exact iff_of_false (by decide) fun both => both.2 late.1
  · rename_i onTime
    exact (and_iff_left fun late => onTime ⟨late, rfl⟩).symm

/-- The iteration after a `/manual` request leaves the number done exactly when it
leaves it alone. -/
theorem marked_done_iff (isOpen : telefono.done = false) :
    (node.machine.step (telefono.marked sample) (.iterate sample)).done =
        true ↔ telefono.LeavesNumber sample := by
  let before : Telefono := { telefono.marked sample with out := [] }
  have openBefore : (before.heard sample).done = false :=
    (heard_done sample before).trans isOpen
  have judged : (node.machine.step (telefono.marked sample)
      (.iterate sample)).done =
      (verdict (timeOut (sample.millis 4) (before.heard sample))).done := rfl
  have age := @age_congr before telefono rfl rfl 4 sample
  rw [judged, judge_done_iff openBefore, heard_elapsed, heard_fullnum,
    numero_silence, age, marked_numero_eq_iff, LeavesNumber, and_assoc]

/-- An iteration which leaves an open number done has sent `WIN` and nothing else
about it; one which leaves it open has not. -/
theorem overrides_iff_done (isOpen : telefono.done = false) :
    telefono.Overrides sample ↔
      (node.machine.step (telefono.marked sample) (.iterate sample)).done =
        true := by
  constructor
  · exact fun overrides => overrides.2.2
  · intro finished
    have stillOpen : (telefono.marked sample).done = false := isOpen
    have said : verdicts (telefono.marked sample) (.iterate sample) = [win] := by
      rcases iterate_cases (telefono.marked sample) sample with
        ⟨_, _, _, same⟩ | ⟨_, _, _, same⟩ | ⟨_, won, _⟩
      · exact absurd ((same.trans stillOpen).symm.trans finished)
          Bool.false_ne_true
      · exact absurd (same.symm.trans finished) Bool.false_ne_true
      · exact won
    have sent (message : Text) (one : message = win ∨ message = fail) :
        NodeEvent.packet message ∈
          node.machine.emit (telefono.marked sample) (.iterate sample) ↔
          message ∈ [win] := by
      rw [← said]
      exact (NodeEvent.mem_among_iff one).symm
    refine ⟨(sent win (.inl rfl)).mpr (by decide), ?_, finished⟩
    rw [sent fail (.inr rfl)]
    decide

end Override

/-- The operator's override of an open number works exactly when the next
iteration leaves the number alone. -/
theorem manual_completes {telefono : Telefono} (isOpen : telefono.done = false)
    (sample : Sample) :
    telefono.Overrides sample ↔ telefono.LeavesNumber sample :=
  (overrides_iff_done isOpen).trans (marked_done_iff isOpen)

/-- An override after two ones have been dialled. -/
theorem manual_completes_dosUnos :
    (node.after dosUnos).fullnum = ['1', '1'] ∧
      (node.after dosUnos).Overrides ⟨600, fun _ => 3500⟩ := by
  have isOpen : (node.after dosUnos).done = false := by
    decide +kernel
  have left : (node.after dosUnos).LeavesNumber ⟨600, fun _ => 3500⟩ := by
    decide +kernel
  exact ⟨by decide +kernel, (manual_completes isOpen _).mpr left⟩

/-- The override of a telephone whose handset is lifted at the next iteration is
cleared before it is compared. -/
theorem manual_does_not_complete :
    (node.after [.iterate ⟨600, fun _ => 1000⟩]).done = false ∧
      ¬ (node.after [.iterate ⟨600, fun _ => 1000⟩]).Overrides
        ⟨600, fun _ => 1301⟩ := by
  decide +kernel

end Telefono

end Salsipuedes

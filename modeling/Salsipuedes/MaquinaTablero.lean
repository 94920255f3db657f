import Salsipuedes.MaquinaMemoria

/-!
# The board of the Simon game

Which functions touch the moves and the buttons of the Simon game, and what follows
for every point of every run, with commands in the middle of a game as well: there
are never more moves than rounds to win, the move which is asked for is one of
them, and it is one of the four choices.
-/

namespace Salsipuedes.Maquina

variable {Button : Type}

/-! ## Light effects -/

theorem turbinaFlash_simon (sample : Sample) (maquina : Maquina Button) :
    (turbinaFlash sample maquina).toSimon = maquina.toSimon := by
  obtain ⟨_, _, _, same⟩ := turbinaFlash_frame sample maquina
  rw [same]

theorem updateTurbina_simon (sample : Sample) (maquina : Maquina Button) :
    (updateTurbina sample maquina).toSimon = maquina.toSimon := by
  obtain ⟨_, _, _, _, same⟩ := updateTurbina_frame sample maquina
  rw [same]

theorem rayoPega_simon (maquina : Maquina Button) :
    (rayoPega maquina).toSimon = maquina.toSimon := by
  obtain ⟨_, _, _, same⟩ := rayoPega_frame maquina
  rw [same]

theorem rayoAvanza_simon (sample : Sample) (maquina : Maquina Button) :
    (rayoAvanza sample maquina).toSimon = maquina.toSimon := by
  rw [(rayoAvanza_alumbra sample maquina).frame]
  rfl

/-! ## The game -/

theorem toner_simon (which : Nat) (lengthMs : Int) (maquina : Maquina Button) :
    (toner which lengthMs maquina).toSimon = maquina.toSimon := by
  rw [toner_frame]
  rfl

theorem playMoves_simon (maquina : Maquina Button) :
    (playMoves maquina).toSimon = maquina.toSimon := by
  obtain ⟨_, same⟩ := playMoves_frame maquina
  rw [same]

theorem playWinner_simon (sample : Sample) (maquina : Maquina Button) :
    (playWinner sample maquina).toSimon = maquina.toSimon := by
  unfold playWinner
  rw [rayoAvanza_simon]
  rfl

theorem playLoser_simon (maquina : Maquina Button) :
    (playLoser maquina).toSimon = maquina.toSimon := by
  rw [playLoser, loserFlashes_frame]
  rfl

/-! ## Puzzles and commands -/

/-- The moves may have been forgotten, and nothing else has changed. -/
def Olvida (before after : Simon Button) : Prop :=
  after = before ∨ after = { before with gameRound := 0 }

theorem handleManual_simon (sample : Sample) (maquina : Maquina Button) :
    Olvida maquina.toSimon (handleManual sample maquina).toSimon := by
  unfold handleManual
  split
  · exact .inr rfl
  · exact .inl (rayoAvanza_simon sample _)

theorem handleSillaOn_simon (sample : Sample) (maquina : Maquina Button) :
    (handleSillaOn sample maquina).toSimon = maquina.toSimon := by
  unfold handleSillaOn
  split
  · exact turbinaFlash_simon sample _
  · rfl

theorem dispatch_simon (sample : Sample) (text : Text)
    (maquina : Maquina Button) :
    Olvida maquina.toSimon (dispatch sample text maquina).toSimon :=
  dispatch_induction
    (motive := fun after => Olvida maquina.toSimon after.toSimon)
    sample text maquina (.inr rfl) (.inr rfl) (.inr rfl) (.inr rfl)
    (.inl (handleSillaOn_simon sample maquina)) (.inl rfl) (.inl rfl)
    (handleManual_simon sample maquina) (.inl rfl)

theorem checkIncoming_simon (sample : Sample) (maquina : Maquina Button) :
    Olvida maquina.toSimon (checkIncoming sample maquina).toSimon := by
  unfold checkIncoming
  dsimp only
  split
  · exact dispatch_simon sample _ (announce (readIncoming sample maquina))
  · exact .inl rfl

theorem checkEnchufe_simon (sample : Sample) (maquina : Maquina Button) :
    Olvida maquina.toSimon (checkEnchufe sample maquina).2.toSimon := by
  unfold checkEnchufe
  split
  · dsimp only
    split
    · split
      · unfold acceptEnchufe
        dsimp only
        split
        · exact .inl (rayoAvanza_simon sample _)
        · exact .inr rfl
      · exact .inl rfl
    · exact .inl rfl
  · exact .inl rfl

theorem winRadio_simon (sample : Sample) (maquina : Maquina Button) :
    (winRadio sample maquina).toSimon = maquina.toSimon := by
  unfold winRadio
  rw [rayoAvanza_simon]
  rfl

theorem winKnobs_simon (sample : Sample) (maquina : Maquina Button) :
    (winKnobs sample maquina).toSimon = maquina.toSimon := by
  unfold winKnobs
  rw [rayoAvanza_simon]
  rfl

theorem checkRadio_simon (sample : Sample) (maquina : Maquina Button) :
    (checkRadio sample maquina).toSimon = maquina.toSimon := by
  have tuned (dif : Int) : (tuneRadio dif maquina).toSimon = maquina.toSimon := by
    unfold tuneRadio
    dsimp only
    split <;> rfl
  unfold checkRadio
  dsimp only
  split
  · split
    · exact (winRadio_simon sample _).trans (tuned _)
    · exact tuned _
  · rfl

theorem checkKnobs_simon [Bounce Button] (sample : Sample)
    (maquina : Maquina Button) :
    (checkKnobs sample maquina).toSimon =
      { maquina.toSimon with
        botonKnobs :=
          Bounce.update maquina.botonKnobs sample.buttonRed sample.millis } := by
  unfold checkKnobs
  dsimp only
  split
  · split
    · exact winKnobs_simon sample _
    · rfl
  · rfl

/-! ## The board -/

/-- The four choices of a player. -/
def elecciones : List Nat :=
  [choiceRed, choiceGreen, choiceBlue, choiceYellow]

/-- There are no more moves than rounds to win, and all of them are choices. -/
structure Simon.Written (simon : Simon Button) : Prop where
  atMost : simon.gameRound ≤ roundsToWin
  moves : ∀ index < simon.gameRound,
    simon.gameBoard[index]?.getD choiceNone ∈ elecciones

theorem Simon.Written.of_eq {before after : Simon Button}
    (written : before.Written) (same : after = before) : after.Written :=
  same ▸ written

theorem Simon.Written.forget {before after : Simon Button}
    (written : before.Written) (forgets : Olvida before after) :
    after.Written := by
  rcases forgets with rfl | rfl
  · exact written
  · exact ⟨Nat.zero_le _, fun _ below => absurd below (Nat.not_lt_zero _)⟩

/-- A new move is written after the others. -/
theorem Simon.Written.add {maquina : Maquina Button}
    (written : maquina.toSimon.Written) (sample : Sample)
    (more : maquina.gameRound < roundsToWin) :
    (addToMoves sample maquina).toSimon.Written := by
  refine ⟨more, fun index below => ?_⟩
  have inBoard : maquina.gameRound < 20 := Nat.lt_trans more (by decide)
  change (maquina.gameBoard.setIfInBounds maquina.gameRound
    (newMove sample))[index]?.getD choiceNone ∈ elecciones
  rw [Vector.getElem?_setIfInBounds]
  by_cases new : maquina.gameRound = index
  · rw [if_pos new, if_pos inBoard]
    exact newMove_mem sample
  · rw [if_neg new]
    have below : index < maquina.gameRound + 1 := below
    exact written.moves index (by omega)

/-- The board is written, and so is the move for which a control point asks. -/
structure Tablero (config : Config Button) : Prop where
  written : config.maquina.toSimon.Written
  asked : ∀ move, config.control.Asks move →
    move < roundsToWin ∧ config.maquina.move move ∈ elecciones

/-- A control point which asks for no move. -/
theorem Tablero.of_idle {config : Config Button}
    (written : config.maquina.toSimon.Written)
    (idle : ∀ move, ¬ config.control.Asks move) : Tablero config :=
  ⟨written, fun move asks => absurd asks (idle move)⟩

theorem nextRound_tablero (sample : Sample) {maquina : Maquina Button}
    (written : maquina.toSimon.Written) : Tablero (nextRound sample maquina) := by
  unfold nextRound
  split
  · rename_i more
    have added := written.add sample more
    have played : (playMoves (addToMoves sample maquina)).toSimon =
        (addToMoves sample maquina).toSimon :=
      playMoves_simon _
    refine ⟨added.of_eq played, ?_⟩
    rintro move (rfl : 0 = move)
    have first := added.moves 0 (Nat.succ_pos _)
    rw [← played] at first
    exact ⟨by decide, first⟩
  · exact .of_idle (written.of_eq (playWinner_simon sample maquina)) fun _ => id

theorem choose_tablero (sample : Sample) (choice currentMove : Nat)
    {maquina : Maquina Button} (written : maquina.toSimon.Written) :
    Tablero (choose sample choice currentMove maquina) := by
  have lost : Tablero (⟨.rayos, playLoser maquina⟩ : Config Button) :=
    .of_idle (written.of_eq (playLoser_simon maquina)) fun _ => id
  unfold choose
  split
  · exact lost
  split
  · exact lost
  split
  · rename_i more
    refine ⟨written, ?_⟩
    rintro move (rfl : currentMove + 1 = move)
    exact ⟨Nat.lt_of_lt_of_le more written.atMost, written.moves _ more⟩
  · exact nextRound_tablero sample written

theorem startMemory_tablero (sample : Sample) {maquina : Maquina Button}
    (written : maquina.toSimon.Written) :
    Tablero (startMemory sample maquina) := by
  have forgets : Olvida maquina.toSimon
      { maquina.toSimon with gameRound := 0 } :=
    .inr rfl
  exact nextRound_tablero sample (written.forget forgets)

section Steps

variable [Bounce Button]

/-- The buttons are not on the board. -/
theorem checkButton_written (sample : Sample) {maquina : Maquina Button}
    (written : maquina.toSimon.Written) :
    (checkButton sample maquina).2.toSimon.Written :=
  ⟨written.atMost, written.moves⟩

theorem attractPoll_tablero (sample : Sample) (counterAttract : Nat)
    (turn : Fin 4) {maquina : Maquina Button}
    (written : maquina.toSimon.Written) :
    Tablero (attractPoll sample counterAttract turn maquina) := by
  have checked : (checkButton sample
      (setLEDs (attractLeds turn) maquina)).2.toSimon.Written :=
    checkButton_written sample written
  unfold attractPoll
  dsimp only
  split
  · exact startMemory_tablero sample checked
  split
  · exact .of_idle checked fun _ => id
  split
  · exact .of_idle checked fun _ => id
  · exact startMemory_tablero sample checked

/-- A poll of `waitForButton` may forget the moves, but not the one for which it
asks. -/
theorem waitPoll_tablero (sample : Sample) (startTime : Int32)
    (currentMove : Nat) {maquina : Maquina Button}
    (written : maquina.toSimon.Written)
    (asked : currentMove < roundsToWin ∧ maquina.move currentMove ∈ elecciones) :
    Tablero (waitPoll sample startTime currentMove maquina) := by
  have forgets := checkIncoming_simon sample maquina
  have polled := written.forget forgets
  have board : (checkIncoming sample maquina).gameBoard = maquina.gameBoard := by
    rcases forgets with same | cleared
    · exact congrArg Simon.gameBoard same
    · have same := congrArg Simon.gameBoard cleared
      exact same
  have kept (after : Maquina Button) (control : Control)
      (same : after.toSimon.gameBoard = maquina.gameBoard)
      (stillWritten : after.toSimon.Written)
      (only : ∀ move, control.Asks move → currentMove = move) :
      Tablero (⟨control, after⟩ : Config Button) := by
    refine ⟨stillWritten, fun move asks => ?_⟩
    obtain rfl := only move asks
    refine ⟨asked.1, ?_⟩
    rw [move, same]
    exact asked.2
  rw [waitPoll_eq]
  split
  · dsimp only
    split
    · have sounded := toner_simon (checkButton sample
        (checkIncoming sample maquina)).1 150 (checkButton sample
          (checkIncoming sample maquina)).2
      refine kept _ _ ?_ ?_ fun _ => id
      · rw [sounded]
        exact board
      · rw [sounded]
        exact checkButton_written sample polled
    · exact kept _ _ board (checkButton_written sample polled) fun _ => id
  · exact choose_tablero sample choiceNone currentMove written

theorem releasePoll_tablero (sample : Sample) (button currentMove : Nat)
    {maquina : Maquina Button} (written : maquina.toSimon.Written)
    (asked : currentMove < roundsToWin ∧ maquina.move currentMove ∈ elecciones) :
    Tablero (releasePoll sample button currentMove maquina) := by
  have checked := checkButton_written sample written
  rw [releasePoll_eq]
  dsimp only
  split
  · refine ⟨checked, ?_⟩
    rintro move (rfl : currentMove = move)
    exact asked
  · exact choose_tablero sample button currentMove checked

theorem step_tablero {config : Config Button} (tablero : Tablero config)
    (sample : Sample) : Tablero ((machine Button).step config sample) := by
  obtain ⟨control, maquina⟩ := config
  obtain ⟨written, asked⟩ := tablero
  have silent : ({ maquina with out := [] } : Maquina Button).toSimon.Written :=
    written
  have idle {after : Maquina Button} {next : Control}
      (stillWritten : after.toSimon.Written)
      (idle : ∀ move, ¬ next.Asks move) :
      Tablero (⟨next, after⟩ : Config Button) :=
    .of_idle stillWritten idle
  cases control with
  | loopStart =>
      refine idle (silent.forget (checkEnchufe_simon sample _)) fun move => ?_
      split <;> exact id
  | knobs =>
      refine idle ?_ fun _ => id
      dsimp only
      split
      · rw [checkKnobs_simon]
        exact ⟨written.atMost, written.moves⟩
      · exact silent
  | radio =>
      refine idle ?_ fun _ => id
      dsimp only
      split
      · rw [checkRadio_simon]
        exact silent
      · exact silent
  | simon =>
      dsimp only [machine, operation]
      split
      · exact idle silent fun _ => id
      · exact idle silent fun _ => id
  | attract counterAttract turn =>
      exact attractPoll_tablero sample counterAttract turn silent
  | choosing currentMove =>
      refine ⟨silent, ?_⟩
      rintro move (rfl : currentMove = move)
      exact asked currentMove rfl
  | waiting startTime currentMove =>
      exact waitPoll_tablero sample startTime currentMove silent
        (asked currentMove rfl)
  | releasing button currentMove =>
      exact releasePoll_tablero sample button currentMove silent
        (asked currentMove rfl)
  | rayos =>
      refine idle ?_ fun _ => id
      dsimp only
      split
      · rw [rayoPega_simon]
        exact silent
      · exact silent
  | turbina =>
      refine idle ?_ fun _ => id
      rw [updateTurbina_simon]
      exact silent
  | enchufe =>
      exact idle (silent.forget (checkEnchufe_simon sample _)) fun _ => id
  | incoming =>
      exact idle (silent.forget (checkIncoming_simon sample _)) fun _ => id

/-- At every point of every run, with any commands at any time: the board holds at
most as many moves as there are rounds to win, which is less than its size, all of
them are choices, and so is the move for which a player is asked. -/
theorem board_in_bounds (boot : Sample) (inputs : List Sample) :
    roundsToWin < 20 ∧
      (after Button boot inputs).maquina.gameRound ≤ roundsToWin ∧
      (∀ index < (after Button boot inputs).maquina.gameRound,
        (after Button boot inputs).maquina.move index ∈ elecciones) ∧
      ∀ move, (after Button boot inputs).control.Asks move →
        move < roundsToWin ∧
          (after Button boot inputs).maquina.move move ∈ elecciones := by
  have start : Tablero (setup boot : Config Button) :=
    .of_idle ⟨Nat.zero_le _, fun _ below => absurd below (Nat.not_lt_zero _)⟩
      fun _ => id
  have preserved : ∀ (config : Config Button) (sample : Sample),
      Tablero config → Tablero ((machine Button).step config sample) :=
    fun _ sample tablero => step_tablero tablero sample
  obtain ⟨written, asked⟩ := (machine Button).run_invariant preserved start
    inputs
  exact ⟨by decide, written.atMost, written.moves, asked⟩

end Steps

end Salsipuedes.Maquina

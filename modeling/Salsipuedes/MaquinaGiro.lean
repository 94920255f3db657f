import Salsipuedes.MaquinaMarcos

/-!
# What the counter of the turbine depends on

The counter is started where the stage advances and where an accepted `son`
seats somebody in the chair, and it is counted down by `updateTurbina`.  No
other function of the sketch touches it, not even those which clear the game.
-/

namespace Salsipuedes.Maquina

variable {Button : Type}

/-- The counter of the turbine, the stage and the chair. -/
structure Giro where
  turbinaCounter : Int
  gamesWon : Int
  sillaOn : Bool

def giro (maquina : Maquina Button) : Giro :=
  ⟨maquina.turbinaCounter, maquina.gamesWon, maquina.sillaOn⟩

/-- How the counter changes outside `updateTurbina`: not at all, with an advance
of the stage, or with an accepted `son`, whose first flash counts already. -/
inductive Turns (before after : Giro) : Prop
  | still (counter : after.turbinaCounter = before.turbinaCounter)
  | advance (stage : after.gamesWon = before.gamesWon + 1)
      (counter : after.turbinaCounter =
        arranque after.gamesWon before.turbinaCounter)
  | seat (vacant : before.sillaOn = false) (seated : after.sillaOn = true)
      (counter : after.turbinaCounter = 4999)

theorem Turns.of_eq {before after : Giro} (same : after = before) :
    Turns before after :=
  .still (congrArg Giro.turbinaCounter same)

theorem Turns.bounds {before after : Giro} (turns : Turns before after)
    (nonneg : 0 ≤ before.turbinaCounter)
    (atMost : before.turbinaCounter ≤ 10000) :
    0 ≤ after.turbinaCounter ∧ after.turbinaCounter ≤ 10000 := by
  cases turns with
  | still counter => omega
  | advance stage counter =>
      unfold arranque at counter
      split_ifs at counter <;> omega
  | seat vacant seated counter => omega

/-- Without an advance and without an accepted `son` the counter stands. -/
theorem Turns.counter_eq {before after : Giro} (turns : Turns before after)
    (stage : after.gamesWon ≤ before.gamesWon)
    (silla : after.sillaOn = true → before.sillaOn = true) :
    after.turbinaCounter = before.turbinaCounter := by
  cases turns with
  | still counter => exact counter
  | advance higher counter => omega
  | seat vacant seated counter =>
      have occupied := silla seated
      simp [vacant] at occupied

theorem turbinaFlash_giro (sample : Sample) (maquina : Maquina Button) :
    (turbinaFlash sample maquina).giro =
      { maquina.giro with turbinaCounter := maquina.turbinaCounter - 1 } := by
  obtain ⟨_, _, _, flash⟩ := turbinaFlash_frame sample maquina
  rw [flash]
  rfl

/-- A call of `updateTurbina` counts down, and rests at zero. -/
theorem updateTurbina_giro (sample : Sample) (maquina : Maquina Button) :
    (updateTurbina sample maquina).giro =
      { maquina.giro with
        turbinaCounter :=
          if 0 < maquina.turbinaCounter then maquina.turbinaCounter - 1
          else maquina.turbinaCounter } := by
  obtain ⟨_, _, _, _, update⟩ := updateTurbina_frame sample maquina
  rw [update]
  rfl

theorem rayoAvanza_giro (sample : Sample) (maquina : Maquina Button) :
    (rayoAvanza sample maquina).giro =
      { maquina.giro with
        turbinaCounter :=
          arranque maquina.gamesWon maquina.turbinaCounter } := by
  rw [← rayoAvanza_turbinaCounter sample]
  exact congrArg giro (rayoAvanza_alumbra sample maquina).frame

/-- An advance of the stage from which the turbine starts. -/
theorem rayoAvanza_turns (sample : Sample) {before maquina : Maquina Button}
    (advanced : maquina.giro =
      { before.giro with gamesWon := before.gamesWon + 1 }) :
    Turns before.giro (rayoAvanza sample maquina).giro := by
  rw [rayoAvanza_giro]
  refine .advance (congrArg Giro.gamesWon advanced) ?_
  exact congrArg (arranque maquina.gamesWon)
    (congrArg Giro.turbinaCounter advanced)

/-! ## The Simon game -/

theorem playMoves_giro (maquina : Maquina Button) :
    (playMoves maquina).giro = maquina.giro := by
  obtain ⟨_, played⟩ := playMoves_frame maquina
  rw [played]
  rfl

theorem playLoser_giro (maquina : Maquina Button) :
    (playLoser maquina).giro = maquina.giro := by
  rw [playLoser, loserFlashes_frame]
  rfl

theorem winnerFlashes_giro (maquina : Maquina Button) :
    (winnerFlashes maquina).giro = maquina.giro := by
  rw [winnerFlashes_frame]
  rfl

theorem playWinner_turns (sample : Sample) (maquina : Maquina Button) :
    Turns maquina.giro (playWinner sample maquina).giro := by
  rw [← winnerFlashes_giro maquina]
  exact rayoAvanza_turns sample rfl

theorem nextRound_turns (sample : Sample) (maquina : Maquina Button) :
    Turns maquina.giro (nextRound sample maquina).maquina.giro := by
  unfold nextRound
  split
  · exact .of_eq (playMoves_giro (addToMoves sample maquina))
  · exact playWinner_turns sample maquina

theorem choose_turns (sample : Sample) (choice currentMove : Nat)
    (maquina : Maquina Button) :
    Turns maquina.giro (choose sample choice currentMove maquina).maquina.giro := by
  unfold choose
  split
  · exact .of_eq (playLoser_giro maquina)
  split
  · exact .of_eq (playLoser_giro maquina)
  split
  · exact .still rfl
  · exact nextRound_turns sample maquina

theorem startMemory_turns (sample : Sample) {before maquina : Maquina Button}
    (same : maquina.giro = before.giro) :
    Turns before.giro (startMemory sample maquina).maquina.giro := by
  rw [← same]
  exact nextRound_turns sample
    { setLEDs choiceNone (setLEDs (choiceRed ||| choiceGreen ||| choiceBlue
      ||| choiceYellow) maquina) with gameRound := 0 }

section Buttons

variable [Bounce Button]

theorem checkButton_giro (sample : Sample) (maquina : Maquina Button) :
    (checkButton sample maquina).2.giro = maquina.giro := by
  rw [checkButton_frame]
  rfl

theorem attractPoll_turns (sample : Sample) (counterAttract : Nat)
    (turn : Fin 4) (maquina : Maquina Button) :
    Turns maquina.giro
      (attractPoll sample counterAttract turn maquina).maquina.giro := by
  have checked := checkButton_giro sample (setLEDs (attractLeds turn) maquina)
  unfold attractPoll
  dsimp only
  split
  · exact startMemory_turns sample checked
  split
  · exact .still rfl
  split
  · exact .still rfl
  · exact startMemory_turns sample checked

theorem releasePoll_turns (sample : Sample) (button currentMove : Nat)
    (maquina : Maquina Button) :
    Turns maquina.giro
      (releasePoll sample button currentMove maquina).maquina.giro := by
  rw [releasePoll_eq]
  dsimp only
  split
  · exact .still rfl
  · rw [← checkButton_giro sample maquina]
    exact choose_turns sample button currentMove _

/-! ## Puzzles -/

theorem checkKnobs_turns (sample : Sample) (maquina : Maquina Button) :
    Turns maquina.giro (checkKnobs sample maquina).giro := by
  unfold checkKnobs
  dsimp only
  split
  · split
    · exact rayoAvanza_turns sample rfl
    · exact .still rfl
  · exact .still rfl

end Buttons

theorem tuneRadio_giro (dif : Int) (maquina : Maquina Button) :
    (tuneRadio dif maquina).giro = maquina.giro := by
  unfold tuneRadio
  dsimp only
  split <;> rfl

theorem checkRadio_turns (sample : Sample) (maquina : Maquina Button) :
    Turns maquina.giro (checkRadio sample maquina).giro := by
  unfold checkRadio
  dsimp only
  split
  · rw [← tuneRadio_giro (sample.a13 - valorR1).natAbs maquina]
    split
    · exact rayoAvanza_turns sample rfl
    · exact .still rfl
  · exact .still rfl

theorem checkEnchufe_turns (sample : Sample) (maquina : Maquina Button) :
    Turns maquina.giro (checkEnchufe sample maquina).2.giro := by
  unfold checkEnchufe
  split
  · dsimp only
    split
    · split
      · unfold acceptEnchufe
        dsimp only
        split
        · exact rayoAvanza_turns sample rfl
        · exact .still rfl
      · exact .still rfl
    · exact .still rfl
  · exact .still rfl

theorem rayoPega_giro (maquina : Maquina Button) :
    (rayoPega maquina).giro = maquina.giro := by
  obtain ⟨_, _, _, strikes⟩ := rayoPega_frame maquina
  rw [strikes]
  rfl

/-! ## Commands -/

theorem handleSillaOn_turns (sample : Sample) (maquina : Maquina Button) :
    Turns maquina.giro (handleSillaOn sample maquina).giro := by
  unfold handleSillaOn
  split
  · rename_i accepted
    rw [turbinaFlash_giro]
    exact .seat accepted.1 rfl rfl
  · exact .still rfl

theorem handleManual_turns (sample : Sample) (maquina : Maquina Button) :
    Turns maquina.giro (handleManual sample maquina).giro := by
  unfold handleManual
  split
  · exact .still rfl
  · exact rayoAvanza_turns sample rfl

theorem dispatch_turns (sample : Sample) (text : Text)
    (maquina : Maquina Button) :
    Turns maquina.giro (dispatch sample text maquina).giro :=
  dispatch_induction (motive := fun after => Turns maquina.giro after.giro)
    sample text maquina (.still rfl) (.still rfl) (.still rfl) (.still rfl)
    (handleSillaOn_turns sample maquina) (.still rfl) (.still rfl)
    (handleManual_turns sample maquina) (.still rfl)

theorem handleMessage_turns (sample : Sample) (maquina : Maquina Button) :
    Turns maquina.giro (handleMessage sample maquina).giro := by
  have dispatched := dispatch_turns sample (trim maquina.incomingData)
    ({ maquina with incomingData := trim maquina.incomingData }.emit
      (.received (trim maquina.incomingData)))
  exact dispatched

theorem checkIncoming_turns (sample : Sample) (maquina : Maquina Button) :
    Turns maquina.giro (checkIncoming sample maquina).giro := by
  unfold checkIncoming
  dsimp only
  split
  · have handled := handleMessage_turns sample { maquina with
      toIdleReceiver := maquina.toIdleReceiver.receive 16 sample.serial1 }
    exact handled
  · exact .still rfl

/-! ## Steps -/

section Steps

variable [Bounce Button]

theorem waitPoll_turns (sample : Sample) (startTime : Int32)
    (currentMove : Nat) (maquina : Maquina Button) :
    Turns maquina.giro
      (waitPoll sample startTime currentMove maquina).maquina.giro := by
  have polled := checkIncoming_turns sample maquina
  rw [waitPoll_eq]
  split
  · rw [← checkButton_giro sample (checkIncoming sample maquina)] at polled
    dsimp only
    split
    · rw [toner_frame]
      exact polled
    · exact polled
  · exact choose_turns sample choiceNone currentMove maquina

/-- Outside `updateTurbina` the counter is only started. -/
theorem operation_turns (sample : Sample) {control : Control}
    (notTurbina : control ≠ .turbina) (maquina : Maquina Button) :
    Turns maquina.giro (operation sample control maquina).maquina.giro := by
  have plugged := checkEnchufe_turns sample maquina
  cases control with
  | loopStart | enchufe => exact plugged
  | knobs =>
      dsimp only [operation]
      split
      · exact checkKnobs_turns sample maquina
      · exact .still rfl
  | radio =>
      dsimp only [operation]
      split
      · exact checkRadio_turns sample maquina
      · exact .still rfl
  | simon =>
      dsimp only [operation]
      split <;> exact .still rfl
  | attract counterAttract turn =>
      exact attractPoll_turns sample counterAttract turn maquina
  | choosing currentMove => exact .still rfl
  | waiting startTime currentMove =>
      exact waitPoll_turns sample startTime currentMove maquina
  | releasing button currentMove =>
      exact releasePoll_turns sample button currentMove maquina
  | rayos =>
      dsimp only [operation]
      split
      · rw [rayoPega_giro]
        exact .still rfl
      · exact .still rfl
  | turbina => exact absurd rfl notTurbina
  | incoming => exact checkIncoming_turns sample maquina

variable {config : Config Button}

theorem step_turns (sample : Sample) (notTurbina : config.control ≠ .turbina) :
    Turns config.maquina.giro
      ((machine Button).step config sample).maquina.giro :=
  operation_turns sample notTurbina { config.maquina with out := [] }

/-- At `turbina` the counter is counted down, and rests at zero. -/
theorem step_turbina (sample : Sample)
    (atTurbina : config.control = .turbina) :
    ((machine Button).step config sample).maquina.turbinaCounter =
      if 0 < config.maquina.turbinaCounter then
        config.maquina.turbinaCounter - 1
      else
        config.maquina.turbinaCounter := by
  simp only [machine, operation, atTurbina]
  exact congrArg Giro.turbinaCounter
    (updateTurbina_giro sample { config.maquina with out := [] })

end Steps

end Salsipuedes.Maquina

import Salsipuedes.MaquinaSimulation

/-!
# The control flow of the machine

Each operation of `loop` performs one action of the game and moves control.
The relation `Flow` lists which actions are possible at a control point and
where control is afterwards; it is all that the properties of runs need to know
about the operations.
-/

namespace Salsipuedes.Maquina

variable {Button : Type}

namespace Partida.Action

/-- An action which a call of `checkEnchufe` can perform. -/
def OfPlug (action : Action) : Prop :=
  action = .idle ∨ action = .solve .enchufe ∨ action = .unplug

/-- An action which a poll of the link can perform. -/
def OfPoll (action : Action) : Prop :=
  action = .idle ∨ ∃ text, action = .command text

end Partida.Action

/-- An operation at the first control point performs an action of `partida`,
after which control is at the second one. -/
inductive Flow (partida : Partida) :
    Control → Partida.Action → Control → Prop
  | plugged {action} (plug : action.OfPlug)
      (solved : Puzzle.enchufe ∈ (partida.act action).solved) :
      Flow partida .loopStart action .knobs
  | unplugged {action} (plug : action.OfPlug) :
      Flow partida .loopStart action .turbina
  | knobs {action} (puzzle : action = .idle ∨ action = .solve .knobs) :
      Flow partida .knobs action .radio
  | radio {action} (puzzle : action = .idle ∨ action = .solve .radio) :
      Flow partida .radio action .simon
  | ready (stage : partida.stage ≥ 3)
      (unsolved : Puzzle.simon ∉ partida.solved) :
      Flow partida .simon .idle (.attract 5 firstTurn)
  | notReady : Flow partida .simon .idle .rayos
  | attract {counter turn counter' turn'} :
      Flow partida (.attract counter turn) .idle (.attract counter' turn')
  | begin {counter turn} :
      Flow partida (.attract counter turn) .idle (.choosing 0)
  | ask {startTime currentMove} :
      Flow partida (.choosing currentMove) .idle
        (.waiting startTime currentMove)
  | poll {startTime currentMove action} (poll : action.OfPoll) :
      Flow partida (.waiting startTime currentMove) action
        (.waiting startTime currentMove)
  | press {startTime currentMove button action} (poll : action.OfPoll) :
      Flow partida (.waiting startTime currentMove) action
        (.releasing button currentMove)
  | timeOut {startTime currentMove} :
      Flow partida (.waiting startTime currentMove) .lose .rayos
  | hold {button currentMove} :
      Flow partida (.releasing button currentMove) .idle
        (.releasing button currentMove)
  | wrong {button currentMove} :
      Flow partida (.releasing button currentMove) .lose .rayos
  | correct {button currentMove nextMove} :
      Flow partida (.releasing button currentMove) .idle (.choosing nextMove)
  | win {button currentMove} :
      Flow partida (.releasing button currentMove) (.solve .simon) .rayos
  | rayos : Flow partida .rayos .idle .turbina
  | turbina : Flow partida .turbina .idle .enchufe
  | enchufe {action} (plug : action.OfPlug) :
      Flow partida .enchufe action .incoming
  | incoming {action} (poll : action.OfPoll) :
      Flow partida .incoming action .loopStart

section Invariants

variable {partida : Partida} {before after : Control}
variable {action : Partida.Action}

/-- A command marks no puzzle but the plug. -/
theorem Partida.notMem_command {puzzle : Puzzle} (notPlug : puzzle ≠ .enchufe)
    (text : Text) (unsolved : puzzle ∉ partida.solved) :
    puzzle ∉ (partida.command text).solved := by
  have seated : puzzle ∉ partida.sillaOn.solved := by
    unfold Partida.sillaOn
    split <;> exact unsolved
  unfold Partida.command
  repeat' split
  all_goals first
    | exact unsolved
    | exact seated
    | exact Finset.notMem_empty puzzle
    | simpa [Partida.switchedOn] using notPlug

theorem Partida.Action.OfPoll.simon_notMem (poll : action.OfPoll)
    (unsolved : Puzzle.simon ∉ partida.solved) :
    Puzzle.simon ∉ (partida.act action).solved := by
  rcases poll with rfl | ⟨text, rfl⟩
  · exact unsolved
  · exact Partida.notMem_command (by simp) text unsolved

/-- Simon is still to be won while it is being played. -/
theorem Flow.playing (flow : Flow partida before action after)
    (playing : before.inSimon = true → Puzzle.simon ∉ partida.solved)
    (inSimon : after.inSimon = true) :
    Puzzle.simon ∉ (partida.act action).solved := by
  cases flow with
  | ready stage unsolved => exact unsolved
  | attract | begin | ask | hold | correct => exact playing rfl
  | poll poll | press poll => exact poll.simon_notMem (playing rfl)
  | _ => simp [Control.inSimon] at inSimon

/-- Only `playMemory` wins Simon. -/
theorem Flow.inSimon_of_won (flow : Flow partida before (.solve .simon) after) :
    before.inSimon = true := by
  cases flow with
  | win => rfl
  | plugged plug | unplugged plug | enchufe plug =>
      simp [Partida.Action.OfPlug] at plug
  | knobs puzzle | radio puzzle => simp at puzzle
  | poll poll | press poll | incoming poll =>
      simp [Partida.Action.OfPoll] at poll

/-- Commands are handled by the two polls of the link only. -/
theorem Flow.polls {text : Text} (flow : Flow partida before (.command text) after) :
    before = .incoming ∨
      ∃ startTime currentMove, before = .waiting startTime currentMove := by
  cases flow with
  | incoming poll => exact .inl rfl
  | poll poll | press poll => exact .inr ⟨_, _, rfl⟩
  | plugged plug | unplugged plug | enchufe plug =>
      simp [Partida.Action.OfPlug] at plug
  | knobs puzzle | radio puzzle => simp at puzzle

end Invariants

/-! ## Operations -/

section Operations

variable {partida : Partida} {maquina : Maquina Button}

/-- A configuration reached from globals which showed `partida` by one of the
operations at a control point. -/
structure Moves (partida : Partida) (control : Control)
    (maquina : Maquina Button) (action : Partida.Action)
    (next : Config Button) : Prop where
  performs : Performs partida action maquina next.maquina
  flow : Flow partida control action next.control

theorem playMoves_board_quiet (sample : Sample) (maquina : Maquina Button) :
    Quiet maquina (playMoves (addToMoves sample maquina)) :=
  (addToMoves_quiet sample maquina).trans (playMoves_quiet _)

/-- `playMemory` always begins with a first move. -/
theorem startMemory_quiet (sample : Sample) (maquina : Maquina Button) :
    (startMemory sample maquina).control = .choosing 0 ∧
      Quiet maquina (startMemory sample maquina).maquina := by
  have lights : Quiet maquina
      { setLEDs choiceNone (setLEDs (choiceRed ||| choiceGreen ||| choiceBlue
        ||| choiceYellow) maquina) with gameRound := 0 } :=
    ⟨rfl, rfl, rfl, rfl⟩
  exact ⟨rfl, lights.trans (playMoves_board_quiet sample _)⟩

theorem choose_moves (sample : Sample) (button currentMove : Nat)
    (shows : Shows maquina partida)
    (unsolved : Puzzle.simon ∉ partida.solved) :
    ∃ action, Moves partida (.releasing button currentMove) maquina action
      (choose sample button currentMove maquina) := by
  unfold choose
  split
  · exact ⟨.lose, playLoser_performs shows, .wrong⟩
  split
  · exact ⟨.lose, playLoser_performs shows, .wrong⟩
  split
  · exact ⟨.idle, (Quiet.refl maquina).performs shows, .correct⟩
  unfold nextRound
  split
  · exact ⟨.idle, (playMoves_board_quiet sample maquina).performs shows,
      .correct⟩
  · exact ⟨.solve .simon,
      playWinner_performs sample shows (shows.simonWon unsolved), .win⟩

theorem attractPoll_moves [Bounce Button] (sample : Sample)
    (counterAttract : Nat) (turn : Fin 4) (shows : Shows maquina partida) :
    ∃ action, Moves partida (.attract counterAttract turn) maquina action
      (attractPoll sample counterAttract turn maquina) := by
  have checked := (setLEDs_quiet (attractLeds turn) maquina).trans
    (checkButton_quiet sample _)
  have begins {ready : Maquina Button} (quiet : Quiet maquina ready) :
      Moves partida (.attract counterAttract turn) maquina .idle
        (startMemory sample ready) := by
    obtain ⟨control, started⟩ := startMemory_quiet sample ready
    exact ⟨(quiet.trans started).performs shows, control ▸ .begin⟩
  unfold attractPoll
  dsimp only
  split
  · exact ⟨.idle, begins checked⟩
  split
  · exact ⟨.idle, checked.performs shows, .attract⟩
  split
  · exact ⟨.idle, checked.performs shows, .attract⟩
  · exact ⟨.idle, begins ((checked.trans (setLEDs_quiet choiceNone _)).trans
      (shutUp_quiet _))⟩

theorem waitPoll_moves [Bounce Button] (sample : Sample) (startTime : Int32)
    (currentMove : Nat) (shows : Shows maquina partida) :
    ∃ action, Moves partida (.waiting startTime currentMove) maquina action
      (waitPoll sample startTime currentMove maquina) := by
  rw [waitPoll_eq]
  split
  · have performs : ∃ action, action.OfPoll ∧ Performs partida action maquina
        (checkIncoming sample maquina) := by
      rcases checkIncoming_performs sample shows with idle | ⟨text, command⟩
      · exact ⟨.idle, .inl rfl, idle⟩
      · exact ⟨.command text, .inr ⟨text, rfl⟩, command⟩
    obtain ⟨action, poll, performs⟩ := performs
    have checked := performs.quiet (checkButton_quiet sample _)
    dsimp only
    split
    · exact ⟨action, checked.quiet (toner_quiet _ _ _), .press poll⟩
    · exact ⟨action, checked, .poll poll⟩
  · exact ⟨.lose, playLoser_performs shows, .timeOut⟩

theorem releasePoll_moves [Bounce Button] (sample : Sample)
    (button currentMove : Nat) (shows : Shows maquina partida)
    (unsolved : Puzzle.simon ∉ partida.solved) :
    ∃ action, Moves partida (.releasing button currentMove) maquina action
      (releasePoll sample button currentMove maquina) := by
  have checked := checkButton_quiet sample maquina
  rw [releasePoll_eq]
  dsimp only
  split
  · exact ⟨.idle, checked.performs shows, .hold⟩
  · obtain ⟨action, performs, flow⟩ := choose_moves sample button currentMove
      (shows.of_quiet checked) unsolved
    exact ⟨action, checked.then_performs performs, flow⟩

/-- The operation at `loopStart`, with the branch of `loop` it selects. -/
theorem loopStart_moves [Bounce Button] (sample : Sample)
    (shows : Shows maquina partida) :
    ∃ action, Moves partida .loopStart maquina action
      (operation sample .loopStart maquina) := by
  obtain ⟨action, plug, performs, returned⟩ :=
    checkEnchufe_performs sample shows
  refine ⟨action, performs, ?_⟩
  dsimp only [operation]
  split
  · rename_i plugged
    refine .plugged plug ?_
    rw [returned, performs.shows.progreso] at plugged
    simpa [Partida.progreso] using plugged
  · exact .unplugged plug

/-- Every operation performs one action of the game. -/
theorem operation_moves [Bounce Button] (sample : Sample) (control : Control)
    (shows : Shows maquina partida)
    (playing : control.inSimon = true → Puzzle.simon ∉ partida.solved) :
    ∃ action, Moves partida control maquina action
      (operation sample control maquina) := by
  cases control with
  | loopStart => exact loopStart_moves sample shows
  | knobs =>
      dsimp only [operation]
      split
      · rename_i unsolved
        rcases checkKnobs_performs sample shows unsolved with idle | solve
        · exact ⟨_, idle, .knobs (.inl rfl)⟩
        · exact ⟨_, solve, .knobs (.inr rfl)⟩
      · exact ⟨.idle, (Quiet.refl maquina).performs shows, .knobs (.inl rfl)⟩
  | radio =>
      dsimp only [operation]
      split
      · rename_i unsolved
        rcases checkRadio_performs sample shows unsolved with idle | solve
        · exact ⟨_, idle, .radio (.inl rfl)⟩
        · exact ⟨_, solve, .radio (.inr rfl)⟩
      · exact ⟨.idle, (Quiet.refl maquina).performs shows, .radio (.inl rfl)⟩
  | simon =>
      dsimp only [operation]
      split
      · rename_i gate
        have stage : partida.stage ≥ 3 := by
          have ready := gate.1
          rw [shows.progreso] at ready
          simpa [Partida.progreso] using ready
        exact ⟨.idle, (shutUp_quiet maquina).performs shows,
          .ready stage (shows.simon_notMem gate.2.2)⟩
      · exact ⟨.idle, (Quiet.refl maquina).performs shows, .notReady⟩
  | attract counterAttract turn =>
      exact attractPoll_moves sample counterAttract turn shows
  | choosing currentMove =>
      exact ⟨.idle, (Quiet.refl maquina).performs shows, .ask⟩
  | waiting startTime currentMove =>
      exact waitPoll_moves sample startTime currentMove shows
  | releasing button currentMove =>
      exact releasePoll_moves sample button currentMove shows (playing rfl)
  | rayos =>
      refine ⟨.idle, Quiet.performs ?_ shows, .rayos⟩
      dsimp only [operation]
      split
      · exact (emit_quiet _ rfl maquina).trans (rayoPega_quiet _)
      · exact Quiet.refl maquina
  | turbina =>
      exact ⟨.idle, (updateTurbina_quiet sample maquina).performs shows,
        .turbina⟩
  | enchufe =>
      obtain ⟨action, plug, performs, returned⟩ :=
        checkEnchufe_performs sample shows
      refine ⟨action, ?_, .enchufe plug⟩
      dsimp only [operation]
      rw [returned]
      exact performs
  | incoming =>
      rcases checkIncoming_performs sample shows with idle | ⟨text, command⟩
      · exact ⟨_, idle.quiet (showStrips_quiet _), .incoming (.inl rfl)⟩
      · exact ⟨_, command.quiet (showStrips_quiet _),
          .incoming (.inr ⟨text, rfl⟩)⟩

end Operations

end Salsipuedes.Maquina

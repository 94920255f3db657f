import Salsipuedes.MaquinaInterrupcion
import Salsipuedes.MaquinaTablero

/-!
# The way round the loop

The sketch has one loop inside another: `attractMode` and `playMemory` run within an
iteration of `loop`, and a player can keep them going.  Two ranks of the control
points measure how far the machine is from its next poll of the link and from the
next iteration of `loop`.  What a command asks for is therefore done after a bounded
number of steps wherever it finds the machine, and a Simon game is prolonged by
nothing but its player and the commands which interrupt it.
-/

namespace Salsipuedes.Maquina

variable {Button : Type}

/-! ## Control points -/

/-- The loop which waits for a button to be released, which polls nothing but the
buttons. -/
def Control.holds : Control → Bool
  | .releasing .. => true
  | _ => false

/-- The two loops which wait for a player. -/
def Control.awaits : Control → Bool
  | .waiting .. | .releasing .. => true
  | _ => false

/-- `attractMode` counts down from 5. -/
def Control.Counts : Control → Prop
  | .attract counterAttract _ => counterAttract ≤ 5
  | _ => True

/-- The checks which `attractMode` has left, including the one at which it stands. -/
def checksLeft (counterAttract : Nat) (turn : Fin 4) : Nat :=
  4 * (counterAttract - 1) + (4 - turn)

/-- How many steps outside the release loop are left before the link is polled, at
most. -/
def Control.untilPoll : Control → Nat
  | .loopStart => 29
  | .knobs => 28
  | .radio => 27
  | .simon => 26
  | .attract counterAttract turn => 5 + checksLeft counterAttract turn
  | .choosing _ | .releasing .. => 5
  | .waiting .. => 4
  | .rayos => 3
  | .turbina => 2
  | .enchufe => 1
  | .incoming => 0

/-- How many calls of `waitForButton` are left in a game which is neither lost nor
interrupted: those of this round, and those of the rounds after it. -/
def callsLeft (gameRound currentMove : Nat) : Nat :=
  max 1 (gameRound - currentMove) + (10 - gameRound * (gameRound + 1) / 2)

/-- How many steps outside the loops which wait for a player are left before the next
iteration of `loop`, at most. -/
def Control.untilLoop (gameRound : Nat) : Control → Nat
  | .loopStart => 0
  | .knobs => 37
  | .radio => 36
  | .simon => 35
  | .attract counterAttract turn => 14 + checksLeft counterAttract turn
  | .choosing currentMove => 4 + callsLeft gameRound currentMove
  | .waiting _ currentMove | .releasing _ currentMove =>
      3 + callsLeft gameRound currentMove
  | .rayos => 4
  | .turbina => 3
  | .enchufe => 2
  | .incoming => 1

/-! ## Rounds of a game -/

/-- A round has at least one call to go. -/
theorem callsLeft_pos (gameRound currentMove : Nat) :
    0 < callsLeft gameRound currentMove := by
  unfold callsLeft
  omega

/-- A move which is not the last one leaves one call less. -/
theorem callsLeft_next {gameRound currentMove : Nat}
    (more : currentMove + 1 < gameRound) :
    callsLeft gameRound (currentMove + 1) + 1 = callsLeft gameRound currentMove := by
  unfold callsLeft
  omega

/-- The rounds after this one are all that is left after its last call. -/
theorem callsLeft_round {gameRound : Nat} (more : gameRound < roundsToWin)
    (currentMove : Nat) :
    callsLeft (gameRound + 1) 0 + 1 ≤ callsLeft gameRound currentMove := by
  have first : 1 ≤ max 1 (gameRound - currentMove) := Nat.le_max_left _ _
  unfold callsLeft
  generalize max 1 (gameRound - currentMove) = here at first
  unfold roundsToWin at more
  interval_cases gameRound <;> omega

/-- The next LED of a round of `attractMode` leaves one check less. -/
theorem checksLeft_turn {turn : Fin 4} (notLast : turn ≠ 3)
    (counterAttract : Nat) :
    checksLeft counterAttract (turn + 1) + 1 = checksLeft counterAttract turn := by
  unfold checksLeft
  fin_cases turn
  · rfl
  · rfl
  · rfl
  · exact absurd rfl notLast

/-- And so does the first LED of the next round. -/
theorem checksLeft_round {counterAttract : Nat} (more : counterAttract > 1) :
    checksLeft (counterAttract - 1) firstTurn + 1 = checksLeft counterAttract 3 := by
  change 4 * (counterAttract - 1 - 1) + (4 - 0) + 1 =
    4 * (counterAttract - 1) + (4 - 3)
  omega

/-- The head of the outer loop starts a round while some are left. -/
theorem nextRound_more (sample : Sample) {maquina : Maquina Button}
    (more : maquina.gameRound < roundsToWin) :
    (nextRound sample maquina).control = .choosing 0 ∧
      (nextRound sample maquina).maquina.gameRound = maquina.gameRound + 1 := by
  have played := congrArg Simon.gameRound
    (playMoves_simon (addToMoves sample maquina))
  rw [nextRound, if_pos more]
  exact ⟨rfl, played⟩

/-- After the last round the game is over. -/
theorem nextRound_last (sample : Sample) {maquina : Maquina Button}
    (last : ¬ maquina.gameRound < roundsToWin) :
    (nextRound sample maquina).control = .rayos := by
  rw [nextRound, if_neg last]

/-- A game begins with its first round. -/
theorem startMemory_control (sample : Sample) (maquina : Maquina Button) :
    (startMemory sample maquina).control = .choosing 0 ∧
      (startMemory sample maquina).maquina.gameRound = 1 :=
  nextRound_more sample (Nat.zero_lt_succ 3)

/-- A result of `waitForButton` ends the game or leads to one call less. -/
theorem choose_untilLoop (sample : Sample) (choice currentMove : Nat)
    (maquina : Maquina Button) :
    let next := choose sample choice currentMove maquina
    next.control.untilLoop next.maquina.gameRound ≤
      3 + callsLeft maquina.gameRound currentMove := by
  have positive := callsLeft_pos maquina.gameRound currentMove
  have ended (after : Maquina Button) :
      Control.untilLoop after.gameRound .rayos ≤
        3 + callsLeft maquina.gameRound currentMove := by
    change 4 ≤ _
    omega
  dsimp only
  unfold choose
  split
  · exact ended _
  split
  · exact ended _
  split
  · rename_i more
    have next := callsLeft_next more
    change 4 + callsLeft maquina.gameRound (currentMove + 1) ≤ _
    omega
  · by_cases more : maquina.gameRound < roundsToWin
    · obtain ⟨control, round⟩ := nextRound_more sample more
      rw [control, round]
      have next := callsLeft_round more currentMove
      change 4 + callsLeft (maquina.gameRound + 1) 0 ≤ _
      omega
    · rw [nextRound_last sample more]
      exact ended _

/-- Where `choose` leaves control. -/
theorem choose_control (sample : Sample) (choice currentMove : Nat)
    (maquina : Maquina Button) :
    (choose sample choice currentMove maquina).control = .rayos ∨
      ∃ next, (choose sample choice currentMove maquina).control =
        .choosing next := by
  unfold choose
  split
  · exact .inl rfl
  split
  · exact .inl rfl
  split
  · exact .inr ⟨_, rfl⟩
  · by_cases more : maquina.gameRound < roundsToWin
    · exact .inr ⟨0, (nextRound_more sample more).1⟩
    · exact .inl (nextRound_last sample more)

section Steps

variable [Bounce Button]

/-- A check of `attractMode` begins a game, or leaves one check less. -/
theorem attractPoll_control (sample : Sample) (counterAttract : Nat)
    (turn : Fin 4) (maquina : Maquina Button) :
    let next := attractPoll sample counterAttract turn maquina
    (next.control = .choosing 0 ∧ next.maquina.gameRound = 1) ∨
      ∃ counter left, next.control = .attract counter left ∧
        counter ≤ counterAttract ∧
        checksLeft counter left + 1 = checksLeft counterAttract turn := by
  dsimp only
  unfold attractPoll
  dsimp only
  split
  · exact .inl (startMemory_control sample _)
  split
  · rename_i notLast
    exact .inr ⟨counterAttract, turn + 1, rfl, Nat.le_refl _,
      checksLeft_turn notLast counterAttract⟩
  split
  · rename_i last more
    obtain rfl : turn = 3 := not_not.mp last
    exact .inr ⟨counterAttract - 1, firstTurn, rfl, Nat.sub_le _ _,
      checksLeft_round more⟩
  · exact .inl (startMemory_control sample _)

/-- A check of the release loop stays in it, or gives the button to `choose`. -/
theorem releasePoll_cases (sample : Sample) (button currentMove : Nat)
    (maquina : Maquina Button) :
    ∃ after : Maquina Button, after.toSimon.gameRound = maquina.gameRound ∧
      (releasePoll sample button currentMove maquina =
          ⟨.releasing button currentMove, after⟩ ∨
        releasePoll sample button currentMove maquina =
          choose sample button currentMove after) := by
  refine ⟨(checkButton sample maquina).2, rfl, ?_⟩
  rw [releasePoll_eq]
  dsimp only
  split
  · exact .inl rfl
  · exact .inr rfl

variable {config : Config Button} {sample : Sample}

/-- `attractMode` counts no further than where it starts. -/
theorem step_counts (counts : config.control.Counts) (sample : Sample) :
    ((machine Button).step config sample).control.Counts := by
  obtain ⟨control, maquina⟩ := config
  have chosen (choice currentMove : Nat) (after : Maquina Button) :
      (choose sample choice currentMove after).control.Counts := by
    rcases choose_control sample choice currentMove after with ended | ⟨_, next⟩
    · rw [ended]
      trivial
    · rw [next]
      trivial
  cases control with
  | attract counterAttract turn =>
      rcases attractPoll_control sample counterAttract turn
        { maquina with out := [] } with ⟨control, -⟩ | ⟨_, _, control, fewer, -⟩
      · exact (congrArg Control.Counts control).mpr trivial
      · exact (congrArg Control.Counts control).mpr (fewer.trans counts)
  | simon =>
      dsimp only [machine, operation]
      split
      · exact Nat.le_refl 5
      · trivial
  | waiting startTime currentMove =>
      dsimp only [machine, operation]
      rw [waitPoll_eq]
      dsimp only
      split
      · split <;> trivial
      · exact chosen _ _ _
  | releasing button currentMove =>
      obtain ⟨after, -, still | returns⟩ := releasePoll_cases sample button
        currentMove { maquina with out := [] }
      · exact (congrArg (Control.Counts ∘ Config.control) still).mpr trivial
      · exact (congrArg (Control.Counts ∘ Config.control) returns).mpr
          (chosen _ _ _)
  | loopStart =>
      dsimp only [machine, operation]
      split <;> trivial
  | knobs | radio | choosing | rayos | turbina | enchufe | incoming => trivial

theorem Control.untilPoll_le {control : Control} (counts : control.Counts) :
    control.untilPoll ≤ 29 := by
  cases control with
  | attract counterAttract turn =>
      have counts : counterAttract ≤ 5 := counts
      simp only [untilPoll, checksLeft]
      omega
  | loopStart | knobs | radio | simon | choosing | waiting | releasing | rayos
  | turbina | enchufe | incoming => simp [untilPoll]

/-- A step which does not poll the link brings the machine closer to a step which
does, unless it waits for a button to be released. -/
theorem step_untilPoll (unpolled : polled config sample = none) :
    ((machine Button).step config sample).control.untilPoll +
      (!config.control.holds).toNat ≤ config.control.untilPoll := by
  obtain ⟨control, maquina⟩ := config
  have chosen (choice currentMove : Nat) (after : Maquina Button) :
      (choose sample choice currentMove after).control.untilPoll ≤ 5 := by
    rcases choose_control sample choice currentMove after with ended | ⟨_, next⟩
    · rw [ended]
      decide
    · rw [next]
      exact Nat.le_refl 5
  cases control with
  | loopStart =>
      dsimp only [machine, operation]
      split <;> simp [Control.untilPoll, Control.holds]
  | simon =>
      dsimp only [machine, operation]
      split <;> simp [Control.untilPoll, Control.holds, checksLeft, firstTurn]
  | attract counterAttract turn =>
      have left : 0 < checksLeft counterAttract turn := by
        unfold checksLeft
        omega
      rcases attractPoll_control sample counterAttract turn
        { maquina with out := [] } with ⟨control, -⟩ | ⟨_, _, control, -, fewer⟩
      · have next := congrArg Control.untilPoll control
        change Control.untilPoll _ + 1 ≤ 5 + checksLeft counterAttract turn
        exact (Nat.add_le_add_right next.le 1).trans (by
          change 5 + 1 ≤ _
          omega)
      · have next := congrArg Control.untilPoll control
        change Control.untilPoll _ + 1 ≤ 5 + checksLeft counterAttract turn
        refine (Nat.add_le_add_right next.le 1).trans ?_
        simp only [Control.untilPoll]
        omega
  | waiting startTime currentMove =>
      have late : ¬ InTime startTime sample := by
        intro inTime
        exact Option.some_ne_none _ ((if_pos inTime).symm.trans unpolled)
      have step : (machine Button).step ⟨.waiting startTime currentMove, maquina⟩
          sample = ⟨.rayos, playLoser { maquina with out := [] }⟩ :=
        (waitPoll_eq ..).trans (if_neg late)
      rw [step]
      exact Nat.le_refl 4
  | releasing button currentMove =>
      obtain ⟨after, -, still | returns⟩ := releasePoll_cases sample button
        currentMove { maquina with out := [] }
      · exact (congrArg (Control.untilPoll ∘ Config.control) still).le
      · exact (congrArg (Control.untilPoll ∘ Config.control) returns).le.trans
          (chosen _ _ _)
  | incoming => exact absurd unpolled (Option.some_ne_none _)
  | knobs | radio | choosing | rayos | turbina | enchufe => exact Nat.le_refl _

/-- A step which neither waits for a player nor handles a command brings the machine
closer to its next iteration. -/
theorem step_untilLoop (inside : config.control ≠ .loopStart)
    (noCommand : ((machine Button).emit config sample).filterMap
      Event.received? = []) :
    let next := (machine Button).step config sample
    next.control.untilLoop next.maquina.gameRound +
        (!config.control.awaits).toNat ≤
      config.control.untilLoop config.maquina.gameRound := by
  obtain ⟨control, maquina⟩ := config
  dsimp only
  cases control with
  | loopStart => exact absurd rfl inside
  | simon =>
      dsimp only [machine, operation]
      split <;> simp [Control.untilLoop, Control.awaits, checksLeft, firstTurn]
  | attract counterAttract turn =>
      have left : 0 < checksLeft counterAttract turn := by
        unfold checksLeft
        omega
      change Control.untilLoop
        (attractPoll sample counterAttract turn _).maquina.gameRound
        (attractPoll sample counterAttract turn _).control + 1 ≤
          14 + checksLeft counterAttract turn
      rcases attractPoll_control sample counterAttract turn
        { maquina with out := [] } with
          ⟨control, first⟩ | ⟨_, _, control, -, fewer⟩
      · rw [control, first]
        change 4 + callsLeft 1 0 + 1 ≤ _
        have whole : callsLeft 1 0 = 10 := rfl
        omega
      · rw [control]
        simp only [Control.untilLoop]
        omega
  | waiting startTime currentMove =>
      by_cases inTime : InTime startTime sample
      · have asks : Control.Asks currentMove (.waiting startTime currentMove) := rfl
        have goesOn : Plazo.returned
            (⟨.waiting startTime currentMove, maquina⟩ : Config Button) sample =
              none :=
          (Plazo.returned_waiting ..).trans (if_pos inTime)
        have kept := congrArg Prod.snd (call_step asks goesOn noCommand)
        have control (gameRound : Nat) : Control.untilLoop gameRound
            ((machine Button).step ⟨.waiting startTime currentMove, maquina⟩
              sample).control = 3 + callsLeft gameRound currentMove := by
          dsimp only [machine, operation]
          rw [waitPoll_eq, if_pos inTime]
          dsimp only
          split <;> rfl
        rw [control]
        exact (congrArg (3 + callsLeft · currentMove) kept).le
      · have returns : (machine Button).step
            ⟨.waiting startTime currentMove, maquina⟩ sample =
              choose sample choiceNone currentMove { maquina with out := [] } :=
          (waitPoll_eq ..).trans (if_neg inTime)
        rw [returns]
        exact choose_untilLoop sample choiceNone currentMove _
  | releasing button currentMove =>
      obtain ⟨after, same, still | returns⟩ := releasePoll_cases sample button
        currentMove { maquina with out := [] }
      · have step : (machine Button).step
            ⟨.releasing button currentMove, maquina⟩ sample =
              ⟨.releasing button currentMove, after⟩ := still
        rw [step]
        exact (congrArg (3 + callsLeft · currentMove) same).le
      · have step : (machine Button).step
            ⟨.releasing button currentMove, maquina⟩ sample =
              choose sample button currentMove after := returns
        rw [step]
        have fewer := choose_untilLoop sample button currentMove after
        rw [same] at fewer
        exact fewer
  | choosing currentMove =>
      change 3 + callsLeft maquina.gameRound currentMove + 1 ≤
        4 + callsLeft maquina.gameRound currentMove
      omega
  | knobs | radio | rayos | turbina | enchufe | incoming => exact Nat.le_refl _

theorem Control.untilLoop_le {control : Control} {gameRound : Nat}
    (counts : control.Counts) (atMost : gameRound ≤ roundsToWin) :
    control.untilLoop gameRound ≤ 37 := by
  have calls (move : Nat) : callsLeft gameRound move ≤ 14 := by
    unfold roundsToWin at atMost
    unfold callsLeft
    omega
  cases control with
  | attract counterAttract turn =>
      have counts : counterAttract ≤ 5 := counts
      simp only [untilLoop, checksLeft]
      omega
  | choosing move | waiting _ move | releasing _ move =>
      have := calls move
      simp only [untilLoop]
      omega
  | loopStart | knobs | radio | simon | rayos | turbina | enchufe | incoming =>
      simp [untilLoop]

/-! ## Runs -/

/-- The invariants of the two ranks. -/
structure Rounds (config : Config Button) : Prop where
  counts : config.control.Counts
  tablero : Tablero config

theorem step_rounds (rounds : Rounds config) (sample : Sample) :
    Rounds ((machine Button).step config sample) :=
  ⟨step_counts rounds.counts sample, step_tablero rounds.tablero sample⟩

end Steps

theorem after_rounds (Button : Type) [Bounce Button] (boot : Sample)
    (inputs : List Sample) : Rounds (after Button boot inputs) := by
  have start : Rounds (setup boot : Config Button) := by
    refine ⟨trivial, .of_idle ⟨Nat.zero_le _, ?_⟩ fun _ => id⟩
    exact fun _ below => absurd below (Nat.not_lt_zero _)
  have preserved : ∀ (config : Config Button) (sample : Sample), Rounds config →
      Rounds ((machine Button).step config sample) :=
    fun _ sample rounds => step_rounds rounds sample
  exact (machine Button).run_invariant preserved start inputs

/-- At every point of every run: among any 38 further steps which do not wait for a
player there is one at which an iteration of `loop` begins, unless a command arrives
on the way. -/
theorem loop_comes_round (Button : Type) [Bounce Button] (boot : Sample)
    (before later : List Sample)
    (long : 38 ≤ (machine Button).visits (fun config => !config.control.awaits)
      (after Button boot before) later) :
    ∃ first sample rest, later = first ++ sample :: rest ∧
      ((after Button boot (before ++ first)).control = .loopStart ∨
        ∃ text, .received text ∈
          (machine Button).emit (after Button boot (before ++ first)) sample) := by
  have rounds := after_rounds Button boot before
  have near : (after Button boot before).control.untilLoop
      (after Button boot before).maquina.gameRound ≤ 37 :=
    Control.untilLoop_le rounds.counts rounds.tablero.written.atMost
  have preserved : ∀ (config : Config Button) (sample : Sample), True →
      Rounds config → Rounds ((machine Button).step config sample) :=
    fun _ sample _ rounds => step_rounds rounds sample
  have everywhere : (machine Button).Along (fun _ _ => True)
      (after Button boot before) later :=
    (machine Button).along_of_forall (fun _ _ => trivial) _ _
  obtain ⟨first, sample, rest, split, goal⟩ := everywhere.reaches
    (fun config sample => config.control = .loopStart ∨
      ((machine Button).emit config sample).filterMap Event.received? ≠ [])
    (fun config => config.control.untilLoop config.maquina.gameRound)
    preserved
    (fun config sample _ _ short => by
      rw [not_or, not_not] at short
      exact step_untilLoop short.1 short.2)
    rounds (Nat.lt_of_le_of_lt near long)
  refine ⟨first, sample, rest, split, ?_⟩
  rw [after_append]
  refine goal.imp_right fun command => ?_
  obtain ⟨text, member⟩ := List.exists_mem_of_ne_nil _ command
  obtain ⟨event, emitted, report⟩ := List.mem_filterMap.mp member
  cases event with
  | received other => exact ⟨other, emitted⟩
  | serial1 | console | tone | noTone | buzzSound | winnerSound | «show» =>
      simp [Event.received?] at report

/-- A machine which stands in `attractMode` goes through a whole Simon game, which its
player wins, and comes round. -/
theorem loop_comes_round_rojos :
    let before := threeStages ++ List.replicate (8 * 8498) .enchufado ++
      List.replicate 12 .enchufado
    let later := List.replicate 20 .enchufado ++ rojos 10 ++
      List.replicate 8 .enchufado
    (after StableButton .reposo before).control = .attract 5 firstTurn ∧
      ∃ first sample rest, later = first ++ sample :: rest ∧
        (after StableButton .reposo (before ++ first)).control = .loopStart := by
  intro before later
  have reached : after StableButton .reposo before = _ :=
    run_gate (List.replicate 12 .enchufado)
  have uncommanded : (machine StableButton).Along
      (fun config sample => ((machine StableButton).emit config sample).filterMap
        Event.received? = []) (after StableButton .reposo before) later := by
    rw [reached]
    decide +kernel
  have long : 38 ≤ (machine StableButton).visits
      (fun config => !config.control.awaits) (after StableButton .reposo before)
      later := by
    rw [reached]
    decide +kernel
  refine ⟨?_, ?_⟩
  · rw [reached]
    decide +kernel
  · obtain ⟨first, sample, rest, split, round | ⟨text, handled⟩⟩ :=
      loop_comes_round StableButton .reposo before later long
    · exact ⟨first, sample, rest, split, round⟩
    · rw [split, MealyMachine.along_append, ← after_append] at uncommanded
      have silent := uncommanded.2.1
      have report := List.filterMap_eq_nil_iff.mp silent _ handled
      exact absurd report (Option.some_ne_none text)

/-- What the buffer of the link holds has not been there for too long. -/
theorem after_holds (Button : Type) [Bounce Button] (boot : Sample)
    (inputs : List Sample) {text : Text} (nonempty : text ≠ [])
    (held : (after Button boot inputs).maquina.incomingData = text) :
    (after Button boot inputs).maquina.toIdleReceiver.Holds 25 text := by
  rcases polls.run_holds (by decide) (by decide)
    (.inl rfl : (setup boot : Config Button).maquina.incomingData = [] ∨ _)
    (fun _ _ => trivial) with empty | ⟨data, idle, early, equal⟩
  · exact absurd (held.symm.trans empty) nonempty
  · have equal : (after Button boot inputs).maquina.toIdleReceiver =
        ⟨data, idle⟩ := equal
    obtain rfl : data = text := by
      rw [← held, equal]
    exact ⟨idle, early, equal⟩

/-- Wherever a command finds the machine, in `loop`, in `attractMode` or in the middle
of a Simon game: once its bytes have been read and nothing more comes, it is handled
within 780 steps which do not wait for a button to be released, and what it does to
the room is what it means for the game. -/
theorem command_obeyed (Button : Type) [Bounce Button] (boot : Sample)
    (before later : List Sample) (text : Text) (nonempty : text ≠ [])
    (held : (after Button boot before).maquina.incomingData = text)
    (quiet : (machine Button).Along
      (fun config sample => (polled config sample).getD [] = [])
      (after Button boot before) later)
    (long : 780 ≤ (machine Button).visits (fun config => !config.control.holds)
      (after Button boot before) later) :
    ∃ first sample rest, later = first ++ sample :: rest ∧
      .received (trim text) ∈
        (machine Button).emit (after Button boot (before ++ first)) sample ∧
      ∀ partida, Tracks (after Button boot (before ++ first)) partida →
        Tracks (after Button boot (before ++ first ++ [sample]))
          (partida.command (trim text)) := by
  have preserved : ∀ (config : Config Button) (sample : Sample), True →
      config.control.Counts →
      ((machine Button).step config sample).control.Counts :=
    fun _ sample _ counts => step_counts counts sample
  obtain ⟨first, sample, rest, split, handled⟩ := polls.answers (by decide)
    (fun config : Config Button => config.control.untilPoll) 29 preserved
    (fun _ counts => Control.untilPoll_le counts)
    (fun _ _ _ _ unpolled => step_untilPoll unpolled)
    (after_rounds Button boot before).counts nonempty
    (after_holds Button boot before nonempty held)
    (MealyMachine.Along.mono _ (fun _ _ silent => ⟨trivial, silent⟩) quiet) long
  rw [← after_append] at handled
  have emitted : .received (trim text) ∈
      (machine Button).emit (after Button boot (before ++ first)) sample := by
    have report : trim text ∈ ((machine Button).emit
        (after Button boot (before ++ first)) sample).filterMap
          Event.received? := by
      rw [handled]
      exact List.mem_singleton_self _
    obtain ⟨event, member, reports⟩ := List.mem_filterMap.mp report
    cases event with
    | received other =>
        obtain rfl := Option.some.inj reports
        exact member
    | serial1 | console | tone | noTone | buzzSound | winnerSound | «show» =>
        simp [Event.received?] at reports
  refine ⟨first, sample, rest, split, emitted, fun partida tracks => ?_⟩
  obtain ⟨action, steps⟩ := step_tracks tracks sample
  obtain rfl := Partida.command_of_received ((steps.mem_emit rfl).mp emitted)
  rw [after_append]
  exact steps.tracks

theorem command_obeyed_reset :
    ∃ first sample rest, List.replicate 780 Sample.reposo =
        first ++ sample :: rest ∧
      .received "reset".toList ∈ (machine StableButton).emit
        (after StableButton .reposo (iteration .reposo "reset".toList ++ first))
        sample ∧
      ∀ partida, Tracks (after StableButton .reposo
          (iteration .reposo "reset".toList ++ first)) partida →
        Tracks (after StableButton .reposo
          (iteration .reposo "reset".toList ++ first ++ [sample])) .fresh :=
  command_obeyed StableButton .reposo (iteration .reposo "reset".toList)
    (List.replicate 780 .reposo) "reset".toList (by decide) (by decide +kernel)
    (by decide +kernel) (by decide +kernel)

end Salsipuedes.Maquina

import Salsipuedes.MaquinaPlazo
import Salsipuedes.MaquinaReceptor

/-!
# The memory game

`playMemory` as the two nested loops of the sketch, for any number of rounds: the
outer one adds a move to the required ones and plays them back, and the inner one
asks the player for each of them.  The control points of the machine follow these
loops with `roundsToWin` rounds.
-/

namespace Salsipuedes.Maquina

/-! ## Prefixes of a sequence -/

section Prefixes

variable {Move : Type*} (moves : Nat → Move)

/-- The moves which are required in a round.  The rounds are counted from 0. -/
def required (round : Nat) : List Move :=
  (List.range (round + 1)).map moves

/-- The moves which are required in the first rounds, one round after the other. -/
def prefixes (rounds : Nat) : List Move :=
  (List.range rounds).flatMap (required moves)

theorem required_succ (round : Nat) :
    required moves (round + 1) = required moves round ++ [moves (round + 1)] := by
  rw [required, List.range_succ, List.map_append]
  rfl

/-- A move which is required in a round, after the earlier ones. -/
theorem required_split {index round : Nat} (below : index ≤ round) :
    ∃ rest, required moves round =
      (List.range index).map moves ++ moves index :: rest := by
  induction round, below using Nat.le_induction with
  | base =>
      refine ⟨[], ?_⟩
      rw [required, List.range_succ, List.map_append]
      rfl
  | succ round _ ih =>
      obtain ⟨rest, split⟩ := ih
      refine ⟨rest ++ [moves (round + 1)], ?_⟩
      rw [required_succ, split, List.append_assoc]
      rfl

theorem prefixes_succ (rounds : Nat) :
    prefixes moves (rounds + 1) =
      prefixes moves rounds ++ required moves rounds := by
  rw [prefixes, List.range_succ, List.flatMap_append, List.flatMap_singleton]
  rfl

theorem prefixes_length (rounds : Nat) :
    (prefixes moves rounds).length = rounds * (rounds + 1) / 2 := by
  have twice : 2 * (prefixes moves rounds).length = rounds * (rounds + 1) := by
    induction rounds with
    | zero => rfl
    | succ rounds ih =>
        rw [prefixes_succ, List.length_append, Nat.mul_add, ih, required,
          List.length_map, List.length_range]
        ring
  omega

/-- The rounds up to a later one begin with an earlier one. -/
theorem prefixes_split {round rounds : Nat} (early : round < rounds) :
    ∃ rest, prefixes moves rounds =
      prefixes moves round ++ (required moves round ++ rest) := by
  induction rounds, early using Nat.le_induction with
  | base => exact ⟨[], by rw [prefixes_succ, List.append_nil]⟩
  | succ rounds _ ih =>
      obtain ⟨rest, split⟩ := ih
      exact ⟨rest ++ required moves rounds, by
        rw [prefixes_succ, split, List.append_assoc, List.append_assoc]⟩

end Prefixes

/-! ## Moves and sounds -/

variable {Button : Type}

/-- The move which a draw gives. -/
def newMove (sample : Sample) : Nat :=
  let newButton := random 0 4 (sample.draw 0)
  if newButton = 0 then choiceRed
  else if newButton = 1 then choiceGreen
  else if newButton = 2 then choiceBlue
  else choiceYellow

/-- A move is one of the four single-bit choices. -/
theorem newMove_mem (sample : Sample) :
    newMove sample ∈ [choiceRed, choiceGreen, choiceBlue, choiceYellow] := by
  unfold newMove
  dsimp only
  repeat' split
  all_goals simp

/-- The required moves are played back, and the board is left as it is. -/
theorem playMoves_out (maquina : Maquina Button) :
    (playMoves maquina).out = maquina.out ++
        melody ((List.range maquina.gameRound).map maquina.move) ∧
      (playMoves maquina).gameBoard = maquina.gameBoard ∧
      (playMoves maquina).gameRound = maquina.gameRound := by
  obtain ⟨_, played⟩ := playMoves_frame maquina
  rw [played]
  exact ⟨rfl, rfl, rfl⟩

/-! ## The loops -/

/-- The calls of `waitForButton` in a game in which no command is received: what
each of them returns, and the globals which it leaves. -/
structure Espera (Button : Type) where
  result : Nat → Nat
  leaves : Nat → Maquina Button → Maquina Button
  gameBoard : ∀ call maquina,
    (leaves call maquina).gameBoard = maquina.gameBoard
  gameRound : ∀ call maquina,
    (leaves call maquina).gameRound = maquina.gameRound

/-- A game of `playMemory` so far: the globals, the results of `waitForButton` which
it has consumed, what each round has played back, and each index of `gameBoard`
which was written or read, with the `gameRound` of that time. -/
structure Juego (Button : Type) where
  maquina : Maquina Button
  consumed : List Nat
  played : List (List Event)
  accesses : List (Nat × Nat)

namespace Juego

variable (juego : Juego Button)

def access (index gameRound : Nat) : Juego Button :=
  { juego with accesses := juego.accesses ++ [(index, gameRound)] }

/-- `add_to_moves`, which writes the element before the new `gameRound`. -/
def addToMoves (sample : Sample) : Juego Button :=
  let maquina := Maquina.addToMoves sample juego.maquina
  { juego with maquina := maquina }.access juego.maquina.gameRound
    maquina.gameRound

/-- `playMoves`, which reads all elements below `gameRound`. -/
def playMoves : Juego Button :=
  let gameRound := juego.maquina.gameRound
  { juego with
    maquina := Maquina.playMoves juego.maquina
    played := juego.played ++ [(Maquina.playMoves { juego.maquina with out := [] }).out]
    accesses := juego.accesses ++
      (List.range gameRound).map fun currentMove => (currentMove, gameRound) }

/-- What the next call of `waitForButton` returns. -/
def choice (espera : Espera Button) : Nat :=
  espera.result juego.consumed.length

/-- A call of `waitForButton`. -/
def waitForButton (espera : Espera Button) : Juego Button :=
  { juego with
    maquina := espera.leaves juego.consumed.length juego.maquina
    consumed := juego.consumed ++ [juego.choice espera] }

theorem waitForButton_gameRound (espera : Espera Button) :
    (juego.waitForButton espera).maquina.gameRound =
      juego.maquina.gameRound :=
  espera.gameRound _ _

end Juego

/-- The inner loop of `playMemory`, from a move on: the player has repeated all
moves, or one of the two early exits is taken. -/
def askMoves (espera : Espera Button) (juego : Juego Button)
    (currentMove : Nat) : Bool × Juego Button :=
  if currentMove < juego.maquina.gameRound then
    let choice := juego.choice espera
    let waited := juego.waitForButton espera
    if choice = choiceNone then (false, waited)
    else
      let compared := waited.access currentMove waited.maquina.gameRound
      if choice ≠ waited.maquina.move currentMove then (false, compared)
      else askMoves espera compared (currentMove + 1)
  else (true, juego)
termination_by juego.maquina.gameRound - currentMove
decreasing_by
  change (juego.waitForButton _).maquina.gameRound - (currentMove + 1) < _
  rw [Juego.waitForButton_gameRound]
  omega

theorem askMoves_gameRound (espera : Espera Button) (juego : Juego Button)
    (currentMove : Nat) :
    (askMoves espera juego currentMove).2.maquina.gameRound =
      juego.maquina.gameRound := by
  fun_induction askMoves espera juego currentMove with
  | case1 => exact Juego.waitForButton_gameRound _ _
  | case2 => exact Juego.waitForButton_gameRound _ _
  | case3 _ _ _ _ _ _ _ _ ih => exact ih.trans (Juego.waitForButton_gameRound _ _)
  | case4 => rfl

/-- The outer loop of `playMemory`. -/
def playRounds (rounds : Nat) (draws : Nat → Sample) (espera : Espera Button)
    (juego : Juego Button) : Bool × Juego Button :=
  if juego.maquina.gameRound < rounds then
    let shown :=
      (juego.addToMoves (draws juego.maquina.gameRound)).playMoves
    let asked := askMoves espera shown 0
    if asked.1 = true then playRounds rounds draws espera asked.2
    else (false, asked.2)
  else (true, juego)
termination_by rounds - juego.maquina.gameRound
decreasing_by
  rw [askMoves_gameRound]
  change _ - (Maquina.playMoves _).gameRound < _
  rw [(playMoves_out _).2.2]
  change _ - (juego.maquina.gameRound + 1) < _
  omega

/-- `playMemory`: whether the player has won, and what happened. -/
def playMemory (rounds : Nat) (draws : Nat → Sample) (espera : Espera Button)
    (maquina : Maquina Button) : Bool × Juego Button :=
  playRounds rounds draws espera
    ⟨{ maquina with gameRound := 0 }, [], [], []⟩

/-! ## The run of a game -/

namespace Juego

variable (rounds : Nat) (draws : Nat → Sample) (espera : Espera Button)

/-- The moves which the draws of a game give. -/
def moves (index : Nat) : Nat :=
  newMove (draws index)

/-- The board holds the moves of the rounds so far, each round has played back its
required moves, the results were consumed in order, and the accesses stayed below
`gameRound`. -/
structure Sound (juego : Juego Button) : Prop where
  board : ∀ index < juego.maquina.gameRound,
    juego.maquina.move index = moves draws index
  bounded : juego.maquina.gameRound ≤ rounds
  consumed : juego.consumed =
    (List.range juego.consumed.length).map espera.result
  played : juego.played = (List.range juego.maquina.gameRound).map fun round =>
    melody (required (moves draws) round)
  accesses : ∀ access ∈ juego.accesses,
    access.1 < access.2 ∧ access.2 ≤ rounds

/-- In the last round the player has repeated some of the moves, and then the
result was a time-out or another move. -/
def Fails (juego : Juego Button) : Prop :=
  ∃ round agreed expected rest last,
    juego.maquina.gameRound = round + 1 ∧
      required (moves draws) round = agreed ++ expected :: rest ∧
      juego.consumed = prefixes (moves draws) round ++ (agreed ++ [last]) ∧
      (last = choiceNone ∨ last ≠ expected)

variable {rounds draws espera} {juego : Juego Button}

theorem Sound.waitForButton (sound : juego.Sound rounds draws espera) :
    (juego.waitForButton espera).Sound rounds draws espera where
  board index below := by
    have kept := espera.gameBoard juego.consumed.length juego.maquina
    have here := sound.board index (juego.waitForButton_gameRound espera ▸ below)
    rw [← here]
    exact congrArg (fun board => board[index]?.getD choiceNone) kept
  bounded := (juego.waitForButton_gameRound espera).trans_le sound.bounded
  consumed := by
    change juego.consumed ++ [espera.result juego.consumed.length] =
      (List.range (juego.consumed ++ [_]).length).map espera.result
    rw [List.length_append, List.length_singleton, List.range_succ,
      List.map_append, ← sound.consumed]
    rfl
  played := by
    rw [juego.waitForButton_gameRound]
    exact sound.played
  accesses := sound.accesses

theorem Sound.access (sound : juego.Sound rounds draws espera) {index : Nat}
    (below : index < juego.maquina.gameRound) :
    (juego.access index juego.maquina.gameRound).Sound rounds draws espera :=
  { sound with
    accesses := by
      intro access member
      rcases List.mem_append.mp member with before | here
      · exact sound.accesses access before
      · rw [List.mem_singleton.mp here]
        exact ⟨below, sound.bounded⟩ }

/-- A choice which is made in time is compared with the required move. -/
theorem Sound.compared (sound : juego.Sound rounds draws espera)
    {currentMove : Nat} (below : currentMove < juego.maquina.gameRound) :
    let waited := juego.waitForButton espera
    (waited.access currentMove waited.maquina.gameRound).Sound rounds draws
        espera ∧
      waited.maquina.move currentMove = moves draws currentMove := by
  intro waited
  have belowTurn : currentMove < waited.maquina.gameRound :=
    below.trans_eq (juego.waitForButton_gameRound espera).symm
  exact ⟨sound.waitForButton.access belowTurn,
    sound.waitForButton.board currentMove belowTurn⟩

/-- A new round adds its move to the board and plays the required moves back. -/
theorem Sound.newRound (sound : juego.Sound rounds draws espera)
    (atMost : rounds ≤ 20) (more : juego.maquina.gameRound < rounds) :
    ((juego.addToMoves (draws juego.maquina.gameRound)).playMoves).Sound rounds
      draws espera := by
  let added := Maquina.addToMoves (draws juego.maquina.gameRound) juego.maquina
  have round : added.gameRound = juego.maquina.gameRound + 1 := rfl
  obtain ⟨-, board, kept⟩ := playMoves_out added
  obtain ⟨silent, -, -⟩ := playMoves_out { added with out := [] }
  have written : ∀ index < added.gameRound,
      added.move index = moves draws index := by
    intro index below
    change (Vector.setIfInBounds _ _ _)[index]?.getD choiceNone = _
    rw [Vector.getElem?_setIfInBounds]
    by_cases last : juego.maquina.gameRound = index
    · subst last
      rw [if_pos rfl, if_pos (by omega)]
      rfl
    · rw [if_neg last]
      exact sound.board index (by omega)
  have shown : (List.range added.gameRound).map added.move =
      required (moves draws) juego.maquina.gameRound :=
    List.map_congr_left fun index member =>
      written index (List.mem_range.mp member)
  have sounds : (Maquina.playMoves { added with out := [] }).out =
      melody (required (moves draws) juego.maquina.gameRound) :=
    silent.trans (congrArg melody shown)
  have atPlay : ((juego.addToMoves
      (draws juego.maquina.gameRound)).playMoves).maquina.gameRound =
        juego.maquina.gameRound + 1 := kept
  refine ⟨fun index below => ?_, atPlay.trans_le more, sound.consumed, ?_, ?_⟩
  · rw [← written index (below.trans_eq atPlay)]
    exact congrArg (fun board => board[index]?.getD choiceNone) board
  · rw [atPlay, List.range_succ, List.map_append, ← sound.played]
    exact congrArg (fun melody => juego.played ++ [melody]) sounds
  · intro access member
    rcases List.mem_append.mp member with before | read
    · rcases List.mem_append.mp before with earlier | wrote
      · exact sound.accesses access earlier
      · rw [List.mem_singleton.mp wrote]
        exact ⟨Nat.lt_succ_self _, more⟩
    · obtain ⟨index, below, rfl⟩ := List.mem_map.mp read
      exact ⟨List.mem_range.mp below, more⟩

/-- The inner loop: the player repeats the moves of the round, or goes wrong. -/
theorem askMoves_cases {round : Nat} (currentMove : Nat)
    (sound : juego.Sound rounds draws espera)
    (inRound : juego.maquina.gameRound = round + 1)
    (repeated : juego.consumed = prefixes (moves draws) round ++
      (List.range currentMove).map (moves draws))
    (most : currentMove ≤ round + 1) :
    let asked := askMoves espera juego currentMove
    asked.2.Sound rounds draws espera ∧
      asked.2.maquina.gameRound = round + 1 ∧
      (asked.1 = true → asked.2.consumed = prefixes (moves draws) (round + 1)) ∧
      (asked.1 = false → asked.2.Fails draws) := by
  have fails {juego : Juego Button} {currentMove choice : Nat}
      (inRound : juego.maquina.gameRound = round + 1)
      (most : currentMove ≤ round)
      (consumed : juego.consumed = prefixes (moves draws) round ++
        ((List.range currentMove).map (moves draws) ++ [choice]))
      (wrong : choice = choiceNone ∨ choice ≠ moves draws currentMove) :
      juego.Fails draws := by
    obtain ⟨rest, split⟩ := required_split (moves draws) most
    exact ⟨round, _, _, rest, choice, inRound, split, consumed, wrong⟩
  fun_induction askMoves espera juego currentMove with
  | case1 juego currentMove below choice waited timedOut =>
      have inTurn := (juego.waitForButton_gameRound espera).trans inRound
      refine ⟨sound.waitForButton, inTurn,
        fun won => absurd won Bool.false_ne_true, fun _ => ?_⟩
      refine fails inTurn (Nat.le_of_lt_succ (below.trans_eq inRound)) ?_
        (.inl timedOut)
      rw [← List.append_assoc, ← repeated]
      rfl
  | case2 juego currentMove below choice waited inTime compared wrong =>
      have inTurn := (juego.waitForButton_gameRound espera).trans inRound
      obtain ⟨soundTurn, onBoard⟩ := sound.compared below
      refine ⟨soundTurn, inTurn,
        fun won => absurd won Bool.false_ne_true, fun _ => ?_⟩
      refine fails inTurn (Nat.le_of_lt_succ (below.trans_eq inRound)) ?_
        (.inr (onBoard ▸ wrong))
      rw [← List.append_assoc, ← repeated]
      rfl
  | case3 juego currentMove below choice waited inTime compared right ih =>
      have inTurn := (juego.waitForButton_gameRound espera).trans inRound
      obtain ⟨soundTurn, onBoard⟩ := sound.compared below
      have same : choice = moves draws currentMove :=
        (not_not.mp right).trans onBoard
      apply ih soundTurn inTurn _ (by omega)
      rw [List.range_succ, List.map_append, ← List.append_assoc, ← repeated]
      exact congrArg (fun choice => juego.consumed ++ [choice]) same
  | case4 juego currentMove finished =>
      have all : currentMove = round + 1 := by omega
      refine ⟨sound, inRound, fun _ => ?_,
        fun lost => absurd lost.symm Bool.false_ne_true⟩
      rw [repeated, all, prefixes_succ]
      rfl

/-- The outer loop: all rounds are won, or the game ends in one of them. -/
theorem playRounds_cases (atMost : rounds ≤ 20)
    (sound : juego.Sound rounds draws espera)
    (repeated : juego.consumed =
      prefixes (moves draws) juego.maquina.gameRound) :
    let game := playRounds rounds draws espera juego
    game.2.Sound rounds draws espera ∧
      (game.1 = true → game.2.maquina.gameRound = rounds ∧
        game.2.consumed = prefixes (moves draws) rounds) ∧
      (game.1 = false → game.2.Fails draws) := by
  have opens {juego : Juego Button} (sound : juego.Sound rounds draws espera)
      (repeated : juego.consumed =
        prefixes (moves draws) juego.maquina.gameRound)
      (more : juego.maquina.gameRound < rounds) :=
    askMoves_cases 0 (sound.newRound atMost more)
      (playMoves_out (Maquina.addToMoves
        (draws juego.maquina.gameRound) juego.maquina)).2.2
      (repeated.trans (List.append_nil _).symm) (Nat.zero_le _)
  fun_induction playRounds rounds draws espera juego with
  | case1 juego more shown asked right ih =>
      obtain ⟨soundAsked, round, answers, -⟩ := opens sound repeated more
      exact ih soundAsked ((answers right).trans (congrArg _ round.symm))
  | case2 juego more shown asked wrong =>
      obtain ⟨soundAsked, -, -, fails⟩ := opens sound repeated more
      exact ⟨soundAsked, fun won => absurd won Bool.false_ne_true,
        fun _ => fails (Bool.eq_false_iff.mpr wrong)⟩
  | case3 juego finished =>
      have all : juego.maquina.gameRound = rounds :=
        Nat.le_antisymm sound.bounded (Nat.le_of_not_lt finished)
      exact ⟨sound, fun _ => ⟨all, repeated.trans (congrArg _ all)⟩,
        fun lost => absurd lost.symm Bool.false_ne_true⟩

/-- A game which fails has not consumed all required moves. -/
theorem Fails.consumed_ne (fails : juego.Fails draws)
    (bounded : juego.maquina.gameRound ≤ rounds) :
    juego.consumed ≠ prefixes (moves draws) rounds := by
  obtain ⟨round, agreed, expected, rest, last, inRound, split, consumed, wrong⟩ :=
    fails
  obtain ⟨others, longer⟩ := prefixes_split (moves draws)
    (show round < rounds by omega)
  rw [consumed, longer, split]
  intro same
  have tails := List.append_cancel_left same
  rw [List.append_assoc] at tails
  obtain ⟨equal, -⟩ := List.cons.inj (List.append_cancel_left tails)
  rcases wrong with timedOut | different
  · have required : expected ∈ required (moves draws) round := by
      rw [split]
      exact List.mem_append_right _ List.mem_cons_self
    obtain ⟨index, -, move⟩ := List.mem_map.mp required
    have choice := newMove_mem (draws index)
    have none : newMove (draws index) = choiceNone :=
      move.trans (equal.symm.trans timedOut)
    rw [none] at choice
    revert choice
    decide
  · exact different equal

end Juego

open Juego in
/-- A game of any number of rounds for which the board is long enough, whatever the
draws and the results of `waitForButton`.  It is won exactly when the consumed
results are the required moves of all rounds, one round after the other, and it is
lost at the first result which is a time-out or another move. -/
theorem play_memory_correct {rounds : Nat} (atMost : rounds ≤ 20)
    (draws : Nat → Sample) (espera : Espera Button) (maquina : Maquina Button) :
    let game := playMemory rounds draws espera maquina
    (game.1 = true ↔ game.2.consumed = prefixes (moves draws) rounds) ∧
      (game.1 = true → game.2.consumed.length = rounds * (rounds + 1) / 2 ∧
        game.2.maquina.gameRound = rounds) ∧
      (game.1 = false → game.2.Fails draws) ∧
      game.2.Sound rounds draws espera ∧
      ∀ index, moves draws index ∈
        [choiceRed, choiceGreen, choiceBlue, choiceYellow] := by
  intro game
  have sound : Sound rounds draws espera
      (⟨{ maquina with gameRound := 0 }, [], [], []⟩ : Juego Button) :=
    ⟨fun _ below => absurd below (Nat.not_lt_zero _), Nat.zero_le _, rfl, rfl,
      fun _ member => absurd member List.not_mem_nil⟩
  obtain ⟨soundGame, wins, loses⟩ := playRounds_cases atMost sound rfl
  refine ⟨⟨fun won => (wins won).2, fun all => ?_⟩, fun won => ⟨?_, (wins won).1⟩,
    loses, soundGame, fun index => newMove_mem (draws index)⟩
  · by_contra lost
    exact (loses (Bool.eq_false_iff.mpr lost)).consumed_ne soundGame.bounded all
  · rw [← prefixes_length (moves draws)]
    exact congrArg List.length (wins won).2

/-- A player who always presses the same button. -/
def Espera.siempre (choice : Nat) : Espera Button where
  result _ := choice
  leaves _ maquina := maquina
  gameBoard _ _ := rfl
  gameRound _ _ := rfl

/-- Where every draw is red, the player who always presses the red button wins. -/
theorem play_memory_correct_rojo :
    let game := playMemory roundsToWin (fun _ => Sample.reposo)
      (Espera.siempre choiceRed) (powerUp Sample.reposo : Maquina StableButton)
    game.2.consumed = List.replicate 10 choiceRed ∧ game.1 = true ∧
      game.2.maquina.gameRound = roundsToWin := by
  intro game
  have atMost : roundsToWin ≤ 20 := by decide
  have consumed : game.2.consumed = List.replicate 10 choiceRed := by
    decide +kernel
  obtain ⟨correct, wins, -⟩ := play_memory_correct atMost
    (fun _ => Sample.reposo) (Espera.siempre choiceRed)
    (powerUp Sample.reposo : Maquina StableButton)
  have won : game.1 = true := correct.mpr consumed
  exact ⟨consumed, won, (wins won).2⟩

/-! ## The machine -/

section Machine

variable (draws : Nat → Sample) (espera : Espera Button)

/-- The rest of a game which is about to ask for a move. -/
def resume (juego : Juego Button) (currentMove : Nat) : Bool × Juego Button :=
  let asked := askMoves espera juego currentMove
  if asked.1 = true then playRounds roundsToWin draws espera asked.2
  else (false, asked.2)

/-- A control point of the machine is one of the loops: a move is to be asked for,
or the game is over. -/
def Follows (sample : Sample) (game : Bool × Juego Button)
    (config : Config Button) : Prop :=
  (∃ juego currentMove, currentMove < juego.maquina.gameRound ∧
    game = resume draws espera juego currentMove ∧
    config = ⟨.choosing currentMove, juego.maquina⟩) ∨
  config = ⟨.rayos,
    if game.1 = true then playWinner sample game.2.maquina
    else playLoser game.2.maquina⟩

/-- The head of the outer loop. -/
theorem nextRound_follows (juego : Juego Button) :
    Follows draws espera (draws juego.maquina.gameRound)
      (playRounds roundsToWin draws espera juego)
      (nextRound (draws juego.maquina.gameRound) juego.maquina) := by
  rw [playRounds, nextRound]
  by_cases more : juego.maquina.gameRound < roundsToWin
  · rw [if_pos more, if_pos more]
    let shown := (juego.addToMoves (draws juego.maquina.gameRound)).playMoves
    have first : 0 < shown.maquina.gameRound := by
      change 0 < (playMoves (addToMoves _ juego.maquina)).gameRound
      rw [(playMoves_out _).2.2]
      exact Nat.succ_pos _
    exact .inl ⟨shown, 0, first, rfl, rfl⟩
  · rw [if_neg more, if_neg more]
    exact .inr rfl

/-- What the machine does with a result of `waitForButton` is one turn of the inner
loop. -/
theorem choose_follows (juego : Juego Button) {currentMove : Nat}
    (below : currentMove < juego.maquina.gameRound) :
    let waited := juego.waitForButton espera
    let sample := draws waited.maquina.gameRound
    Follows draws espera sample (resume draws espera juego currentMove)
      (choose sample (juego.choice espera) currentMove waited.maquina) := by
  intro waited sample
  rw [resume, askMoves, if_pos below, choose]
  dsimp only
  by_cases timedOut : juego.choice espera = choiceNone
  · rw [if_pos timedOut, if_pos timedOut]
    exact .inr rfl
  rw [if_neg timedOut, if_neg timedOut]
  by_cases wrong : juego.choice espera ≠ waited.maquina.move currentMove
  · rw [if_pos wrong, if_pos wrong]
    exact .inr rfl
  rw [if_neg wrong, if_neg wrong]
  let compared := waited.access currentMove waited.maquina.gameRound
  change Follows _ _ _ (resume draws espera compared (currentMove + 1)) _
  by_cases more : currentMove + 1 < waited.maquina.gameRound
  · rw [if_pos more]
    exact .inl ⟨compared, currentMove + 1, more, rfl, rfl⟩
  · rw [if_neg more, resume, askMoves]
    have finished : ¬ currentMove + 1 < compared.maquina.gameRound := more
    rw [if_neg finished]
    exact nextRound_follows draws espera compared

/-- The start of a game, after the lights which announce it. -/
theorem startMemory_follows (maquina : Maquina Button) :
    let lights := setLEDs choiceNone (setLEDs
      (choiceRed ||| choiceGreen ||| choiceBlue ||| choiceYellow) maquina)
    Follows draws espera (draws 0) (playMemory roundsToWin draws espera lights)
      (startMemory (draws 0) maquina) :=
  nextRound_follows draws espera ⟨_, [], [], []⟩

end Machine

/-! ## Calls of the machine -/

section Calls

/-- Only a message which is handled touches the moves. -/
theorem checkIncoming_tablero (sample : Sample) (maquina : Maquina Button)
    (silent : (checkIncoming sample maquina).oido.2 = maquina.oido.2) :
    (checkIncoming sample maquina).tablero = maquina.tablero := by
  unfold checkIncoming readIncoming messageOver at *
  dsimp only at *
  split at silent
  · rw [handleMessage_oido] at silent
    exact absurd silent (by simp [oido])
  · rename_i incomplete
    rw [if_neg incomplete]
    rfl

variable [Bounce Button] {config : Config Button} {sample : Sample}
  {currentMove : Nat}

/-- A poll within the time limit touches the moves and reports texts only as
`checkIncoming` does. -/
theorem waitPoll_inTime (currentMove : Nat) {startTime : Int32}
    (inTime : InTime startTime sample) (maquina : Maquina Button) :
    let next := waitPoll sample startTime currentMove maquina
    next.maquina.oido = (checkIncoming sample maquina).oido ∧
      next.maquina.tablero = (checkIncoming sample maquina).tablero := by
  dsimp only
  rw [waitPoll_eq, if_pos inTime]
  dsimp only
  split
  · exact ⟨(toner_oido _ _ _).trans (checkButton_oido sample _),
      toner_tablero _ _ _⟩
  · exact ⟨checkButton_oido sample _, rfl⟩

/-- A call which goes on, without a command, leaves the moves as they are. -/
theorem call_step (asks : config.control.Asks currentMove)
    (goesOn : Plazo.returned config sample = none)
    (noCommand : ((machine Button).emit config sample).filterMap
      Event.received? = []) :
    ((machine Button).step config sample).maquina.tablero =
      config.maquina.tablero := by
  obtain ⟨control, maquina⟩ := config
  cases control with
  | choosing move => rfl
  | waiting startTime move =>
      obtain ⟨heard, kept⟩ := waitPoll_inTime move
        (Plazo.inTime_of_goesOn goesOn) { maquina with out := [] }
      have silent := (congrArg Prod.snd heard).symm.trans noCommand
      exact kept.trans (checkIncoming_tablero sample _ silent)
  | releasing button move =>
      have step : (machine Button).step ⟨.releasing button move, maquina⟩
          sample = ⟨.releasing button move,
            (checkButton sample { maquina with out := [] }).2⟩ :=
        (releasePoll_eq ..).trans (if_pos (Plazo.pressed_of_goesOn goesOn))
      rw [step]
      rfl
  | loopStart | knobs | radio | simon | attract | rayos | turbina | enchufe
  | incoming => exact asks.elim

/-- A call without a command, from any of its control points to its return. -/
theorem call_run {before : List Sample} {choice : Nat}
    (asks : config.control.Asks currentMove)
    (goesOn : Plazo.answer config before = none)
    (noCommand : ((machine Button).trace config before).filterMap
      Event.received? = [])
    (returns : Plazo.returned ((machine Button).run config before) sample =
      some choice) :
    ∃ after : Maquina Button, after.tablero = config.maquina.tablero ∧
      (machine Button).run config (before ++ [sample]) =
        choose sample choice currentMove after := by
  induction before generalizing config with
  | nil => exact Plazo.step_returns asks returns
  | cons poll before ih =>
      rw [MealyMachine.trace_cons, List.filterMap_append,
        List.append_eq_nil_iff] at noCommand
      rw [Plazo.answer, Option.or_eq_none_iff] at goesOn
      have kept := call_step asks goesOn.1 noCommand.1
      obtain ⟨after, same, run⟩ := ih (Plazo.asks_step asks goesOn.1) goesOn.2
        noCommand.2 returns
      exact ⟨after, same.trans kept, run⟩

/-- A whole call of the machine, from the control point at which it is made, is the
next call of a game, and the machine follows the game after it. -/
theorem call_follows (draws : Nat → Sample) (espera : Espera Button)
    (juego : Juego Button) (below : currentMove < juego.maquina.gameRound)
    {before : List Sample}
    (goesOn : Plazo.answer ⟨.choosing currentMove, juego.maquina⟩ before = none)
    (noCommand : ((machine Button).trace
      ⟨.choosing currentMove, juego.maquina⟩ before).filterMap
        Event.received? = [])
    (returns : Plazo.returned ((machine Button).run
      ⟨.choosing currentMove, juego.maquina⟩ before) sample =
        some (juego.choice espera))
    (drawn : draws juego.maquina.gameRound = sample) :
    ∃ after : Maquina Button, after.tablero = juego.maquina.tablero ∧
      (espera.leaves juego.consumed.length juego.maquina = after →
        Follows draws espera sample (resume draws espera juego currentMove)
          ((machine Button).run ⟨.choosing currentMove, juego.maquina⟩
            (before ++ [sample]))) := by
  have asks : Control.Asks currentMove (.choosing currentMove) := rfl
  obtain ⟨after, same, run⟩ := call_run asks goesOn noCommand returns
  refine ⟨after, same, fun leaves => ?_⟩
  have follows := choose_follows draws espera juego below
  dsimp only at follows
  rw [juego.waitForButton_gameRound, drawn] at follows
  rw [run, ← leaves]
  exact follows

end Calls

end Salsipuedes.Maquina

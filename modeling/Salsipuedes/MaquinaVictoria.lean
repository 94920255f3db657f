import Salsipuedes.MaquinaVuelta
import Salsipuedes.StableButton

/-!
# Winning Simon

The moves of Simon are drawn while the game is played, so that it can be won means
that a player who has seen a move can repeat it, whatever is drawn later.  A player
presses a button by holding it down at two polls and releasing it for the next two.
What this needs of a debouncer is stated first.
-/

namespace Salsipuedes

/-! ## Debouncers -/

section Debouncers

variable {Button : Type} [Bounce Button]

/-- A button which stays released does not rise. -/
def Bounce.Released (button : Button) : Prop :=
  ∀ times : List UInt32,
    rose (times.foldl (fun button now => update button high now) button) = false

theorem Bounce.Released.still {button : Button} (released : Released button) :
    rose button = false :=
  released []

theorem Bounce.Released.again {button : Button} (released : Released button)
    (now : UInt32) : Released (update button high now) :=
  fun times => released (now :: times)

/-- A press is reported when the button is released, and once. -/
structure Bounce.Reliable (Button : Type) [Bounce Button] : Prop where
  presses : Presses Button
  held : ∀ (button : Button) (now : UInt32), rose (update button low now) = false
  once : ∀ (button : Button) (now later : UInt32),
    rose (update button high now) = true →
      Released (update (update button high now) high later)

end Debouncers

namespace StableButton

/-- A button which was accepted as released stays so. -/
theorem update_high {button : StableButton} (debounced : button.debounced = high)
    (unstable : button.unstable = high) (now : UInt32) :
    update button high now = { button with changed := false } := by
  unfold update
  rw [if_neg (by simp [unstable]), if_neg (by simp [debounced])]

theorem released {button : StableButton} (debounced : button.debounced = high)
    (unstable : button.unstable = high) (changed : button.changed = false) :
    Bounce.Released button := by
  intro times
  induction times with
  | nil =>
      change (button.debounced && button.changed) = false
      rw [changed]
      exact Bool.and_false _
  | cons time times ih =>
      have again : Bounce.update button high time = button := by
        refine (update_high debounced unstable time).trans ?_
        rw [← changed]
      rw [List.foldl_cons, again]
      exact ih

theorem reliable : Bounce.Reliable StableButton where
  presses := presses
  held button now := by
    change ((update button low now).debounced && (update button low now).changed) =
      false
    unfold update
    split
    · exact Bool.and_false _
    split
    · rfl
    · exact Bool.and_false _
  once button now later rises := by
    have accepted : (update button high now).debounced = high ∧
        (update button high now).unstable = high := by
      change ((update button high now).debounced &&
        (update button high now).changed) = true at rises
      unfold update at rises ⊢
      split at rises
      · simp at rises
      split at rises
      · rename_i fresh due
        rw [if_neg fresh, if_pos due]
        exact ⟨rfl, (not_not.mp fresh).symm⟩
      · simp at rises
    have next : Bounce.update (Bounce.update button high now) high later =
        { update button high now with changed := false } :=
      update_high accepted.1 accepted.2 later
    rw [next]
    exact released accepted.1 accepted.2 rfl

end StableButton

namespace Maquina

variable {Button : Type}

/-! ## The end of a game -/

theorem playWinner_wins (sample : Sample) (maquina : Maquina Button) :
    (playWinner sample maquina).simonWon = true ∧
      .serial1 "SWIN" ∈ (playWinner sample maquina).out := by
  have advanced {before : Maquina Button} (won : before.simonWon = true)
      (sent : .serial1 "SWIN" ∈ before.out) :
      (rayoAvanza sample before).simonWon = true ∧
        .serial1 "SWIN" ∈ (rayoAvanza sample before).out := by
    have advances := rayoAvanza_alumbra sample before
    obtain ⟨events, out, -⟩ := advances.out
    refine ⟨?_, out ▸ List.mem_append_left events sent⟩
    rw [advances.frame]
    exact won
  exact advanced rfl (by simp [shutUp, emit])

/-! ## Pressing a button -/

/-- The button of a choice. -/
def pulsador (which : Nat) (simon : Simon Button) : Button :=
  if which = choiceRed then simon.buttons0
  else if which = choiceGreen then simon.buttons1
  else if which = choiceBlue then simon.buttons2
  else simon.buttons3

/-- The button of a choice is read at a level, and nobody touches anything else. -/
def Sample.pulsa (which : Nat) (level : Bool) (now : UInt32) (draw : Nat → Nat) :
    Sample :=
  { Sample.enchufado with
    millis := now
    buttonRed := if which = choiceRed then level else high
    buttonGreen := if which = choiceGreen then level else high
    buttonBlue := if which = choiceBlue then level else high
    buttonYellow := if which = choiceYellow then level else high
    draw := draw }

section Buttons

variable [Bounce Button]

/-- All buttons but one are released. -/
structure Rest (which : Nat) (simon : Simon Button) : Prop where
  red : which ≠ choiceRed → Bounce.Released simon.buttons0
  green : which ≠ choiceGreen → Bounce.Released simon.buttons1
  blue : which ≠ choiceBlue → Bounce.Released simon.buttons2
  yellow : which ≠ choiceYellow → Bounce.Released simon.buttons3

/-- A button which is released as well leaves none which is not. -/
theorem Rest.all {which : Nat} (chosen : which ∈ elecciones) {simon : Simon Button}
    (rest : Rest which simon) (released : Bounce.Released (pulsador which simon))
    (other : Nat) : Rest other simon := by
  have red := rest.red
  have green := rest.green
  have blue := rest.blue
  have yellow := rest.yellow
  simp only [elecciones, List.mem_cons, List.not_mem_nil, or_false] at chosen
  rcases chosen with rfl | rfl | rfl | rfl
  · exact ⟨fun _ => released, fun _ => green (by decide),
      fun _ => blue (by decide), fun _ => yellow (by decide)⟩
  · exact ⟨fun _ => red (by decide), fun _ => released,
      fun _ => blue (by decide), fun _ => yellow (by decide)⟩
  · exact ⟨fun _ => red (by decide), fun _ => green (by decide),
      fun _ => released, fun _ => yellow (by decide)⟩
  · exact ⟨fun _ => red (by decide), fun _ => green (by decide),
      fun _ => blue (by decide), fun _ => released⟩

/-- A check of the buttons reports the one which is pressed, if it has risen. -/
theorem checkButton_pulsa {which : Nat} (chosen : which ∈ elecciones)
    {maquina : Maquina Button} (rest : Rest which maquina.toSimon) (level : Bool)
    (now : UInt32) (draw : Nat → Nat) :
    let checked := checkButton (.pulsa which level now draw) maquina
    let button := Bounce.update (pulsador which maquina.toSimon) level now
    checked.1 = (if Bounce.rose button = true then which else choiceNone) ∧
      pulsador which checked.2.toSimon = button ∧ Rest which checked.2.toSimon := by
  have red (other : which ≠ choiceRed) := (rest.red other).again now
  have green (other : which ≠ choiceGreen) := (rest.green other).again now
  have blue (other : which ≠ choiceBlue) := (rest.blue other).again now
  have yellow (other : which ≠ choiceYellow) := (rest.yellow other).again now
  simp only [elecciones, List.mem_cons, List.not_mem_nil, or_false] at chosen
  rcases chosen with rfl | rfl | rfl | rfl
  · refine ⟨?_, rfl, fun other => absurd rfl other, green, blue, yellow⟩
    have still := And.intro (green (by decide)).still
      (And.intro (blue (by decide)).still (yellow (by decide)).still)
    simp [checkButton, Sample.pulsa, pulsador, still, choiceGreen, choiceBlue,
      choiceYellow, choiceRed]
  · refine ⟨?_, rfl, red, fun other => absurd rfl other, blue, yellow⟩
    have still := And.intro (red (by decide)).still
      (And.intro (blue (by decide)).still (yellow (by decide)).still)
    simp [checkButton, Sample.pulsa, pulsador, still, choiceGreen, choiceBlue,
      choiceYellow, choiceRed]
  · refine ⟨?_, rfl, red, green, fun other => absurd rfl other, yellow⟩
    have still := And.intro (red (by decide)).still
      (And.intro (green (by decide)).still (yellow (by decide)).still)
    simp [checkButton, Sample.pulsa, pulsador, still, choiceGreen, choiceBlue,
      choiceYellow, choiceRed]
  · refine ⟨?_, rfl, red, green, blue, fun other => absurd rfl other⟩
    have still := And.intro (red (by decide)).still
      (And.intro (green (by decide)).still (blue (by decide)).still)
    simp [checkButton, Sample.pulsa, pulsador, still, choiceGreen, choiceBlue,
      choiceYellow, choiceRed]

/-- All buttons but one are released, and nothing has been received. -/
structure Ready (which : Nat) (maquina : Maquina Button) : Prop where
  rest : Rest which maquina.toSimon
  silent : maquina.incomingData = []

theorem Ready.of_same {which : Nat} {before after : Maquina Button}
    (ready : Ready which before) (simon : after.toSimon = before.toSimon)
    (heard : after.oido.1 = before.oido.1) : Ready which after :=
  ⟨simon ▸ ready.rest,
    (congrArg IdleReceiver.incomingData heard).trans ready.silent⟩

omit [Bounce Button] in
/-- A poll of an empty link only counts. -/
theorem checkIncoming_silent {maquina : Maquina Button}
    (silent : maquina.incomingData = []) {sample : Sample}
    (nothing : sample.serial1 = []) :
    checkIncoming sample maquina = { maquina with
      lastCharTime := (maquina.lastCharTime + 1).bmod (2 ^ 16) } := by
  have received : readIncoming sample maquina = { maquina with
      lastCharTime := (maquina.lastCharTime + 1).bmod (2 ^ 16) } := by
    rw [readIncoming, nothing, IdleReceiver.receive_nil]
  have notDue : ¬ IdleReceiver.complete 25 (⟨maquina.incomingData,
      (maquina.lastCharTime + 1).bmod (2 ^ 16)⟩ : IdleReceiver Char) = true := by
    simp [IdleReceiver.complete, silent]
  rw [checkIncoming, received]
  exact if_neg notDue

/-- A poll of `waitForButton` while one button is read at a level. -/
theorem waitPoll_pulsa {which : Nat} (chosen : which ∈ elecciones)
    {maquina : Maquina Button} (ready : Ready which maquina) (level : Bool)
    (now : UInt32) (draw : Nat → Nat) {startTime : Int32}
    (inTime : InTime startTime (.pulsa which level now draw)) (currentMove : Nat) :
    let button := Bounce.update (pulsador which maquina.toSimon) level now
    ∃ after : Maquina Button, Ready which after ∧
      pulsador which after.toSimon = button ∧ after.tablero = maquina.tablero ∧
      waitPoll (.pulsa which level now draw) startTime currentMove maquina =
        ⟨if Bounce.rose button = true then .releasing which currentMove
          else .waiting startTime currentMove, after⟩ := by
  intro button
  let polled : Maquina Button := { maquina with
    lastCharTime := (maquina.lastCharTime + 1).bmod (2 ^ 16) }
  let checked := checkButton (.pulsa which level now draw) polled
  obtain ⟨reported, same, rest⟩ := @checkButton_pulsa _ _ _ chosen polled
    ready.rest level now draw
  have still : Ready which checked.2 := ⟨rest, ready.silent⟩
  have body : waitPoll (.pulsa which level now draw) startTime currentMove
      maquina =
        if checked.1 ≠ choiceNone then
          ⟨.releasing checked.1 currentMove, toner checked.1 150 checked.2⟩
        else
          ⟨.waiting startTime currentMove, checked.2⟩ := by
    rw [waitPoll_eq, if_pos inTime, checkIncoming_silent ready.silent rfl]
  rw [body]
  have something : which ≠ choiceNone := by
    rintro rfl
    revert chosen
    decide
  by_cases rises : Bounce.rose button = true
  · have pressed : checked.1 = which := reported.trans (if_pos rises)
    have toned := toner_simon which 150 checked.2
    rw [if_pos rises, pressed, if_pos something]
    refine ⟨_, still.of_same toned (congrArg Prod.fst (toner_oido which 150 _)),
      ?_, ?_, rfl⟩
    · rw [toned]
      exact same
    · exact toner_tablero which 150 checked.2
  · have nothing : checked.1 = choiceNone := reported.trans (if_neg rises)
    rw [if_neg rises, if_neg (not_not.mpr nothing)]
    exact ⟨_, still, same, rfl, rfl⟩

/-- A check of the release loop which finds the button released. -/
theorem releasePoll_pulsa {which : Nat} (chosen : which ∈ elecciones)
    {maquina : Maquina Button} (ready : Ready which maquina) (now : UInt32)
    (draw : Nat → Nat)
    (released : Bounce.Released
      (Bounce.update (pulsador which maquina.toSimon) high now))
    (currentMove : Nat) :
    ∃ after : Maquina Button, (∀ other, Ready other after) ∧
      after.tablero = maquina.tablero ∧
      releasePoll (.pulsa which high now draw) which currentMove maquina =
        choose (.pulsa which high now draw) which currentMove after := by
  let checked := checkButton (.pulsa which high now draw) maquina
  obtain ⟨reported, same, rest⟩ := checkButton_pulsa chosen ready.rest high now
    draw
  have nothing : checked.1 = choiceNone :=
    reported.trans (if_neg (by simp [released.still]))
  rw [← same] at released
  refine ⟨checked.2, fun other => ⟨rest.all chosen released other, ready.silent⟩,
    rfl, ?_⟩
  exact (releasePoll_eq ..).trans (if_neg (not_not.mpr nothing))

/-! ## Games -/

/-- The machine with a clock: its operations follow each other every 25 ms. -/
def clocked (Button : Type) [Bounce Button] :
    MealyMachine (Config Button × UInt32) Sample Event where
  step state sample :=
    ((machine Button).step state.1 { sample with millis := state.2 },
      state.2 + 25)
  emit state sample :=
    (machine Button).emit state.1 { sample with millis := state.2 }

/-- A game of Simon goes on: it is about to begin, or it is being played. -/
def GoesOn (state : Config Button × UInt32) : Prop :=
  state.1.control = .simon ∨ state.1.control.inSimon = true

/-- A game of Simon has just been won, and the operation which ended it has sent the
news to the map. -/
def Won (state : Config Button × UInt32) : Prop :=
  state.1.control = .rayos ∧ state.1.maquina.simonWon = true ∧
    .serial1 "SWIN" ∈ state.1.maquina.out

/-- The players can win the game of Simon which goes on, whatever is drawn. -/
abbrev Winnable : Config Button × UInt32 → Prop :=
  (clocked Button).Forces
    (fun (sample : Sample) draw => { sample with draw := draw }) GoesOn Won

variable {which currentMove : Nat} {maquina : Maquina Button} {now : UInt32}

theorem waiting_winnable (chosen : which ∈ elecciones)
    (ready : Ready which maquina) (level : Bool) {startTime : Int32}
    (inTime : now - startTime.toUInt32 < entryTimeLimit)
    (next : ∀ after : Maquina Button, Ready which after →
      pulsador which after.toSimon =
        Bounce.update (pulsador which maquina.toSimon) level now →
      after.tablero = maquina.tablero →
      Winnable (⟨if Bounce.rose (pulsador which after.toSimon) = true then
          .releasing which currentMove
        else .waiting startTime currentMove, after⟩, now + 25)) :
    Winnable (⟨.waiting startTime currentMove, maquina⟩, now) := by
  refine .move (.inr rfl) (.pulsa which level 0 fun _ => 0) fun draw => ?_
  have silent : Ready which ({ maquina with out := [] } : Maquina Button) :=
    ⟨ready.rest, ready.silent⟩
  obtain ⟨after, still, same, board, step⟩ := waitPoll_pulsa chosen silent level
    now draw inTime currentMove
  have moved := next after still same board
  rw [same] at moved
  have stepped : (clocked Button).step
      (⟨.waiting startTime currentMove, maquina⟩, now)
      { Sample.pulsa which level 0 (fun _ => 0) with draw := draw } =
        (waitPoll (.pulsa which level now draw) startTime currentMove
          { maquina with out := [] }, now + 25) :=
    rfl
  rw [stepped, step]
  exact moved

theorem releasing_winnable (chosen : which ∈ elecciones)
    (ready : Ready which maquina)
    (released : Bounce.Released
      (Bounce.update (pulsador which maquina.toSimon) high now))
    (next : ∀ (after : Maquina Button) (sample : Sample),
      (∀ other, Ready other after) → after.tablero = maquina.tablero →
      Winnable (choose sample which currentMove after, now + 25)) :
    Winnable (⟨.releasing which currentMove, maquina⟩, now) := by
  refine .move (.inr rfl) (.pulsa which high 0 fun _ => 0) fun draw => ?_
  have silent : Ready which ({ maquina with out := [] } : Maquina Button) :=
    ⟨ready.rest, ready.silent⟩
  obtain ⟨after, all, board, step⟩ := releasePoll_pulsa chosen silent now draw
    released currentMove
  have stepped : (clocked Button).step
      (⟨.releasing which currentMove, maquina⟩, now)
      { Sample.pulsa which high 0 (fun _ => 0) with draw := draw } =
        (releasePoll (.pulsa which high now draw) which currentMove
          { maquina with out := [] }, now + 25) :=
    rfl
  rw [stepped, step]
  exact next after _ all board

/-- The first polls of a call are within its time limit. -/
theorem elapsed_inTime (now : UInt32) {elapsed : UInt32}
    (early : elapsed < entryTimeLimit) :
    now + elapsed - now.toInt32.toUInt32 < entryTimeLimit := by
  rw [UInt32.toUInt32_toInt32, UInt32.add_comm, UInt32.add_sub_cancel]
  exact early

/-- A player can give any answer to a call of `waitForButton`. -/
theorem call_winnable (reliable : Bounce.Reliable Button)
    (chosen : which ∈ elecciones) (ready : Ready which maquina)
    (next : ∀ (after : Maquina Button) (sample : Sample) (later : UInt32),
      (∀ other, Ready other after) → after.tablero = maquina.tablero →
      Winnable (choose sample which currentMove after, later)) :
    Winnable (⟨.choosing currentMove, maquina⟩, now) := by
  have add (first second : UInt32) : now + first + second = now + (first + second) :=
    UInt32.add_assoc now first second
  refine .move (.inr rfl) (.pulsa which high 0 fun _ => 0) fun draw => ?_
  have asked : (clocked Button).step (⟨.choosing currentMove, maquina⟩, now)
      { Sample.pulsa which high 0 (fun _ => 0) with draw := draw } =
        (⟨.waiting now.toInt32 currentMove, { maquina with out := [] }⟩, now + 25) :=
    rfl
  have silent : Ready which ({ maquina with out := [] } : Maquina Button) :=
    ⟨ready.rest, ready.silent⟩
  rw [asked]
  -- The button is held down at two polls, at which it does not rise.
  refine waiting_winnable chosen silent low
    (elapsed_inTime now (by decide)) fun first ready same board => ?_
  rw [same, if_neg (by simp [reliable.held]), add]
  refine waiting_winnable chosen ready low
    (elapsed_inTime now (by decide)) fun second ready again kept => ?_
  rw [again, if_neg (by simp [reliable.held]), add]
  have board := kept.trans board
  rw [same] at again
  -- It is released at the next two, and rises at one of them.
  have rises := reliable.presses
    (pulsador which ({ maquina with out := [] } : Maquina Button).toSimon)
    (now + 25)
  dsimp only at rises
  rw [add, add, add] at rises
  refine waiting_winnable chosen ready high
    (elapsed_inTime now (by decide)) fun third ready up kept => ?_
  have board := kept.trans board
  rw [again, show (25 + 25 + 25 : UInt32) = 25 + 50 from rfl] at up
  rw [← up] at rises
  by_cases early : Bounce.rose (pulsador which third.toSimon) = true
  · have released (later : UInt32) : Bounce.Released
        (Bounce.update (pulsador which third.toSimon) high later) := by
      have once := reliable.once _ _ later (up ▸ early)
      rw [← up] at once
      exact once
    rw [if_pos early]
    exact releasing_winnable chosen ready (released _)
      fun after sample all kept => next after sample _ all (kept.trans board)
  · rw [if_neg early, add]
    refine waiting_winnable chosen ready high
      (elapsed_inTime now (by decide)) fun fourth ready last kept => ?_
    have board := kept.trans board
    have late := rises.resolve_left early
    rw [show (25 + 75 : UInt32) = 25 + 25 + 25 + 25 from rfl, ← last] at late
    have released (later : UInt32) : Bounce.Released
        (Bounce.update (pulsador which fourth.toSimon) high later) := by
      have once := reliable.once _ _ later (last ▸ late)
      rw [← last] at once
      exact once
    rw [if_pos late]
    exact releasing_winnable chosen ready (released _)
      fun after sample all kept => next after sample _ all (kept.trans board)

/-- The moves are written, and the move which is asked for is one of them. -/
structure Playing (currentMove : Nat) (maquina : Maquina Button) : Prop where
  ready : ∀ which, Ready which maquina
  written : maquina.toSimon.Written
  below : currentMove < maquina.gameRound

/-- The next round begins ready, or the game has been won. -/
theorem nextRound_winnable (sample : Sample) {after : Maquina Button}
    (ready : ∀ which, Ready which after) (written : after.toSimon.Written)
    (plays : ∀ round : Maquina Button, Playing 0 round →
      round.gameRound = after.gameRound + 1 →
      Winnable (⟨.choosing 0, round⟩, now)) :
    Winnable (nextRound sample after, now) := by
  unfold nextRound
  split
  · rename_i more
    have played := playMoves_simon (addToMoves sample after)
    have heard := congrArg Prod.fst (playMoves_oido (addToMoves sample after))
    have added (which : Nat) : Ready which (addToMoves sample after) :=
      ⟨⟨(ready which).rest.red, (ready which).rest.green, (ready which).rest.blue,
        (ready which).rest.yellow⟩, (ready which).silent⟩
    have round : (playMoves (addToMoves sample after)).gameRound =
        after.gameRound + 1 :=
      congrArg Simon.gameRound played
    refine plays _ ⟨fun which => (added which).of_same played heard,
      (written.add sample more).of_eq played, ?_⟩ round
    rw [round]
    exact Nat.succ_pos _
  · exact .done ⟨rfl, playWinner_wins sample after⟩

/-- A player who repeats the moves wins. -/
theorem playing_winnable (reliable : Bounce.Reliable Button)
    (playing : Playing currentMove maquina) :
    Winnable (⟨.choosing currentMove, maquina⟩, now) := by
  induction left : callsLeft maquina.gameRound currentMove using
    Nat.strong_induction_on generalizing currentMove maquina now with
  | _ left ih =>
    subst left
    obtain ⟨ready, written, below⟩ := playing
    have chosen := written.moves currentMove below
    refine call_winnable reliable chosen (ready _)
      fun after sample later all board => ?_
    have boards : after.gameBoard = maquina.gameBoard := congrArg Prod.fst board
    have rounds : after.gameRound = maquina.gameRound := congrArg Prod.snd board
    have something : maquina.gameBoard[currentMove]?.getD choiceNone ≠
        choiceNone := by
      intro nothing
      rw [nothing] at chosen
      revert chosen
      decide
    have right : ¬ maquina.gameBoard[currentMove]?.getD choiceNone ≠
        after.move currentMove := by
      rw [move, boards]
      exact not_not.mpr rfl
    have stillWritten : after.toSimon.Written := by
      refine ⟨rounds ▸ written.atMost, ?_⟩
      rw [rounds, boards]
      exact written.moves
    rw [choose, if_neg something, if_neg right]
    split
    · rename_i more
      refine ih _ ?_ ⟨all, stillWritten, more⟩ rfl
      rw [rounds] at more ⊢
      have fewer := callsLeft_next more
      omega
    · refine nextRound_winnable sample all stillWritten
        fun round playing first => ?_
      have more : after.gameRound < roundsToWin := by
        have atMost := playing.written.atMost
        omega
      have fewer := callsLeft_round more currentMove
      refine ih _ ?_ playing rfl
      rw [first, ← rounds]
      omega

theorem startMemory_winnable (reliable : Bounce.Reliable Button) (sample : Sample)
    (ready : ∀ which, Ready which maquina) :
    Winnable (startMemory sample maquina, now) := by
  refine nextRound_winnable sample (fun which => ?_)
    ⟨Nat.zero_le _, fun _ below => absurd below (Nat.not_lt_zero _)⟩
    fun round playing _ => playing_winnable reliable playing
  exact ⟨⟨(ready which).rest.red, (ready which).rest.green, (ready which).rest.blue,
    (ready which).rest.yellow⟩, (ready which).silent⟩

/-- A player who touches nothing waits for the end of `attractMode`. -/
theorem attract_winnable (reliable : Bounce.Reliable Button)
    (counterAttract : Nat) (turn : Fin 4)
    (ready : ∀ which, Ready which maquina) :
    Winnable (⟨.attract counterAttract turn, maquina⟩, now) := by
  induction left : checksLeft counterAttract turn generalizing counterAttract turn
    maquina now with
  | zero =>
      unfold checksLeft at left
      omega
  | succ left ih =>
      have red : choiceRed ∈ elecciones := List.mem_cons_self
      refine .move (.inr rfl) (.pulsa choiceRed high 0 fun _ => 0) fun draw => ?_
      let lit : Maquina Button :=
        setLEDs (attractLeds turn) { maquina with out := [] }
      let checked := checkButton (.pulsa choiceRed high now draw) lit
      have released : Bounce.Released maquina.buttons0 :=
        (ready choiceNone).rest.red (by decide)
      obtain ⟨reported, same, rest⟩ := @checkButton_pulsa _ _ _ red lit
        (ready choiceRed).rest high now draw
      have nothing : ¬ checked.1 ≠ choiceNone := by
        rw [not_not]
        refine reported.trans (if_neg ?_)
        have still := (released.again now).still
        exact fun rises => Bool.false_ne_true (still.symm.trans rises)
      have all (which : Nat) : Ready which checked.2 := by
        refine ⟨rest.all red ?_ which, (ready which).silent⟩
        rw [same]
        exact released.again now
      have stepped : (clocked Button).step
          (⟨.attract counterAttract turn, maquina⟩, now)
          { Sample.pulsa choiceRed high 0 (fun _ => 0) with draw := draw } =
            (if turn ≠ 3 then ⟨.attract counterAttract (turn + 1), checked.2⟩
              else if counterAttract > 1 then
                ⟨.attract (counterAttract - 1) firstTurn, checked.2⟩
              else
                startMemory (.pulsa choiceRed high now draw)
                  (shutUp (setLEDs choiceNone checked.2)), now + 25) :=
        Prod.ext (if_neg nothing) rfl
      rw [stepped]
      split
      · rename_i notLast
        have fewer := checksLeft_turn notLast counterAttract
        exact ih _ _ all (by omega)
      · rename_i last
        obtain rfl : turn = 3 := not_not.mp last
        split
        · rename_i more
          have fewer := checksLeft_round more
          exact ih _ _ all (by omega)
        · exact startMemory_winnable reliable _ fun which =>
            (all which).of_same rfl rfl

/-- With its gate open, its buttons released and nothing received, Simon can be won in
the game which is about to begin, whatever moves are drawn: a player who sees a move
before it is asked for can repeat it within the time limit. -/
theorem simon_winnable (Button : Type) [Bounce Button]
    (reliable : Bounce.Reliable Button) (maquina : Maquina Button)
    (gate : maquina.simonReady = true ∧ maquina.turbinaCounter = 0 ∧
      maquina.simonWon = false)
    (released : Rest choiceNone maquina.toSimon)
    (silent : maquina.incomingData = []) (now : UInt32) :
    Winnable (⟨.simon, maquina⟩, now) := by
  have ready (which : Nat) : Ready which maquina :=
    ⟨⟨fun _ => released.red (by decide), fun _ => released.green (by decide),
      fun _ => released.blue (by decide), fun _ => released.yellow (by decide)⟩,
      silent⟩
  refine .move (.inl rfl) (.pulsa choiceRed high 0 fun _ => 0) fun draw => ?_
  have stepped : (clocked Button).step (⟨.simon, maquina⟩, now)
      { Sample.pulsa choiceRed high 0 (fun _ => 0) with draw := draw } =
        (⟨.attract 5 firstTurn, shutUp { maquina with out := [] }⟩, now + 25) :=
    Prod.ext (if_pos gate) rfl
  rw [stepped]
  exact attract_winnable reliable 5 firstTurn fun which =>
    (ready which).of_same rfl rfl

end Buttons

/-- When the turbine rests after three stages, `loop` comes to the gate. -/
theorem simon_winnable_gate :
    let config := after StableButton .reposo
      (threeStages ++ List.replicate (8 * 8498) .enchufado ++
        List.replicate 11 .enchufado)
    config.control = .simon ∧ Winnable (config, 0) := by
  dsimp only
  rw [run_gate]
  generalize reached : (machine StableButton).run
    ⟨.loopStart, flashed 8498 readyForSimon⟩ (List.replicate 11 .enchufado) = config
  have gate : config.control = .simon ∧ config.maquina.simonReady = true ∧
      config.maquina.turbinaCounter = 0 ∧ config.maquina.simonWon = false ∧
      config.maquina.incomingData = [] := by
    rw [← reached]
    decide +kernel
  have still : ∀ button ∈ [config.maquina.buttons0, config.maquina.buttons1,
      config.maquina.buttons2, config.maquina.buttons3],
      button.debounced = high ∧ button.unstable = high ∧
        button.changed = false := by
    rw [← reached]
    decide +kernel
  obtain ⟨control, maquina⟩ := config
  obtain ⟨rfl, ready, rests, notWon, silent⟩ := gate
  have released (button : StableButton) (member : button ∈
      [maquina.buttons0, maquina.buttons1, maquina.buttons2, maquina.buttons3]) :
      Bounce.Released button :=
    StableButton.released (still button member).1 (still button member).2.1
      (still button member).2.2
  refine ⟨rfl, ?_⟩
  exact simon_winnable StableButton StableButton.reliable maquina
    ⟨ready, rests, notWon⟩
    ⟨fun _ => released _ (by simp), fun _ => released _ (by simp),
      fun _ => released _ (by simp), fun _ => released _ (by simp)⟩
    silent 0

end Maquina

end Salsipuedes

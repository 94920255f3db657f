import Salsipuedes.MaquinaIncoming

/-!
# The Simon game

The functions of `simon.ino`.  `playMemory` and `waitForButton` are two nested
loops which poll the buttons and the link, so the point at which they stand
between two polls is a control point of the machine.
-/

namespace Salsipuedes

namespace Maquina

/-- Where the sketch stands between two operations: in `loop`, in
`attractMode` about to check the buttons, in `playMemory` about to call
`waitForButton`, in its polling loop, or in the loop which waits for the button
to be released. -/
inductive Control where
  | loopStart
  | knobs
  | radio
  | simon
  | attract (counterAttract : Nat) (turn : Fin 4)
  | choosing (currentMove : Nat)
  | waiting (startTime : Int32) (currentMove : Nat)
  | releasing (button currentMove : Nat)
  | rayos
  | turbina
  | enchufe
  | incoming
  deriving DecidableEq

/-- The control points inside a Simon game, from `attractMode` on. -/
def Control.inSimon : Control → Bool
  | .attract .. | .choosing .. | .waiting .. | .releasing .. => true
  | _ => false

/-- The control points inside `playMemory`. -/
def Control.inPlayMemory : Control → Bool
  | .choosing .. | .waiting .. | .releasing .. => true
  | _ => false

/-- The control points of a call of `waitForButton` for a move. -/
def Control.Asks (currentMove : Nat) : Control → Prop
  | .choosing move | .waiting _ move | .releasing _ move => move = currentMove
  | _ => False

end Maquina

/-- The globals together with the control point. -/
structure Config (Button : Type) where
  control : Maquina.Control
  maquina : Maquina Button
  deriving DecidableEq

namespace Maquina

variable {Button : Type}

def buzzSound (lengthMs delayUs : Int) (maquina : Maquina Button) :
    Maquina Button :=
  maquina.emit (.buzzSound lengthMs delayUs)

/-! ## Buttons and sounds -/

/-- `checkButton`: debounce the four buttons and report the first one which
was released. -/
def checkButton [Bounce Button] (sample : Sample) (maquina : Maquina Button) :
    Nat × Maquina Button :=
  let maquina :=
    { maquina with
      buttons0 := Bounce.update maquina.buttons0 sample.buttonRed sample.millis
      buttons1 :=
        Bounce.update maquina.buttons1 sample.buttonGreen sample.millis
      buttons2 :=
        Bounce.update maquina.buttons2 sample.buttonBlue sample.millis
      buttons3 :=
        Bounce.update maquina.buttons3 sample.buttonYellow sample.millis }
  let choice :=
    if Bounce.rose maquina.buttons0 then choiceRed
    else if Bounce.rose maquina.buttons1 then choiceGreen
    else if Bounce.rose maquina.buttons2 then choiceBlue
    else if Bounce.rose maquina.buttons3 then choiceYellow
    else choiceNone
  (choice, maquina)

/-- Half the period of the sound of a button, in microseconds. -/
def halfPeriod (which : Nat) : Option Int :=
  if which = choiceRed then some 1136
  else if which = choiceGreen then some 568
  else if which = choiceBlue then some 851
  else if which = choiceYellow then some 638
  else none

/-- `toner`: the LEDs of `which` are on only while its sound plays. -/
def toner (which : Nat) (lengthMs : Int) (maquina : Maquina Button) :
    Maquina Button :=
  let maquina := setLEDs which maquina
  let maquina :=
    match halfPeriod which with
    | some delayUs => buzzSound lengthMs delayUs maquina
    | none => maquina
  shutUp (setLEDs choiceNone maquina)

/-- The four flashes with which `playWinner` starts. -/
def winnerFlashes (maquina : Maquina Button) : Maquina Button :=
  let maquina := winnerSound (setLEDs (choiceGreen ||| choiceBlue) maquina)
  let maquina := winnerSound (setLEDs (choiceRed ||| choiceYellow) maquina)
  let maquina := winnerSound (setLEDs (choiceGreen ||| choiceBlue) maquina)
  winnerSound (setLEDs (choiceRed ||| choiceYellow) maquina)

def playWinner (sample : Sample) (maquina : Maquina Button) :
    Maquina Button :=
  let maquina := winnerFlashes maquina
  let maquina := { maquina with simonWon := true }.emit (.serial1 "SWIN")
  let maquina := shutUp { maquina with gamesWon := maquina.gamesWon + 1 }
  rayoAvanza sample maquina

/-- The four flashes with which `playLoser` starts. -/
def loserFlashes (maquina : Maquina Button) : Maquina Button :=
  let maquina := buzzSound 255 1500 (setLEDs (choiceRed ||| choiceGreen) maquina)
  let maquina :=
    buzzSound 255 1500 (setLEDs (choiceBlue ||| choiceYellow) maquina)
  let maquina := buzzSound 255 1500 (setLEDs (choiceRed ||| choiceGreen) maquina)
  buzzSound 255 1500 (setLEDs (choiceBlue ||| choiceYellow) maquina)

def playLoser (maquina : Maquina Button) : Maquina Button :=
  (shutUp (loserFlashes maquina)).emit (.serial1 "SFAIL")

/-! ## Memory game -/

/-- `add_to_moves`. -/
def addToMoves (sample : Sample) (maquina : Maquina Button) :
    Maquina Button :=
  let newButton := random 0 4 (sample.draw 0)
  let newButton :=
    if newButton = 0 then choiceRed
    else if newButton = 1 then choiceGreen
    else if newButton = 2 then choiceBlue
    else choiceYellow
  { maquina with
    gameBoard := maquina.gameBoard.setIfInBounds maquina.gameRound newButton
    gameRound := maquina.gameRound + 1 }

/-- The move at an index of `gameBoard`. -/
def move (maquina : Maquina Button) (index : Nat) : Nat :=
  maquina.gameBoard[index]?.getD choiceNone

def playMoves (maquina : Maquina Button) : Maquina Button :=
  (List.range maquina.gameRound).foldl
    (fun maquina currentMove => toner (maquina.move currentMove) 150 maquina)
    (shutUp maquina)

/-- The head of the outer loop of `playMemory`: the player has won, or one more
move is added and the required moves are asked for from the first on. -/
def nextRound (sample : Sample) (maquina : Maquina Button) : Config Button :=
  if maquina.gameRound < roundsToWin then
    ⟨.choosing 0, playMoves (addToMoves sample maquina)⟩
  else
    ⟨.rayos, playWinner sample maquina⟩

/-- What `playMemory` does with the result of `waitForButton`. -/
def choose (sample : Sample) (choice currentMove : Nat)
    (maquina : Maquina Button) : Config Button :=
  if choice = choiceNone then
    ⟨.rayos, playLoser maquina⟩
  else if choice ≠ maquina.move currentMove then
    ⟨.rayos, playLoser maquina⟩
  else if currentMove + 1 < maquina.gameRound then
    ⟨.choosing (currentMove + 1), maquina⟩
  else
    nextRound sample maquina

/-- The start of `playMemory`, with the lights which announce it. -/
def startMemory (sample : Sample) (maquina : Maquina Button) : Config Button :=
  let maquina := setLEDs
    (choiceRed ||| choiceGreen ||| choiceBlue ||| choiceYellow) maquina
  let maquina := setLEDs choiceNone maquina
  nextRound sample { maquina with gameRound := 0 }

/-! ## Waiting for a button -/

/-- What an operation of `waitForButton` comes to: it goes on at a control point, or
it returns a choice. -/
inductive Paso where
  | goesOn (control : Control)
  | returns (choice : Nat)

/-- What `waitForButton` returns, if it does. -/
def Paso.returned : Paso → Option Nat
  | .goesOn _ => none
  | .returns choice => some choice

/-- The condition of the polling loop, with a signed time and an unsigned clock. -/
abbrev InTime (startTime : Int32) (sample : Sample) : Prop :=
  sample.millis - startTime.toUInt32 < entryTimeLimit

/-- One poll of `waitForButton`. -/
def pollButton [Bounce Button] (sample : Sample) (startTime : Int32)
    (currentMove : Nat) (maquina : Maquina Button) : Paso × Maquina Button :=
  if InTime startTime sample then
    let (button, maquina) := checkButton sample (checkIncoming sample maquina)
    if button ≠ choiceNone then
      (.goesOn (.releasing button currentMove), toner button 150 maquina)
    else
      (.goesOn (.waiting startTime currentMove), maquina)
  else
    (.returns choiceNone, maquina)

/-- One check of the loop which waits for the button to be released. -/
def pollRelease [Bounce Button] (sample : Sample) (button currentMove : Nat)
    (maquina : Maquina Button) : Paso × Maquina Button :=
  let (pressed, maquina) := checkButton sample maquina
  if pressed ≠ choiceNone then
    (.goesOn (.releasing button currentMove), maquina)
  else
    (.returns button, maquina)

/-- `playMemory` goes on when `waitForButton` has returned. -/
def resumeMemory (sample : Sample) (currentMove : Nat) :
    Paso × Maquina Button → Config Button
  | (.goesOn control, maquina) => ⟨control, maquina⟩
  | (.returns choice, maquina) => choose sample choice currentMove maquina

def waitPoll [Bounce Button] (sample : Sample) (startTime : Int32)
    (currentMove : Nat) (maquina : Maquina Button) : Config Button :=
  resumeMemory sample currentMove
    (pollButton sample startTime currentMove maquina)

def releasePoll [Bounce Button] (sample : Sample) (button currentMove : Nat)
    (maquina : Maquina Button) : Config Button :=
  resumeMemory sample currentMove
    (pollRelease sample button currentMove maquina)

theorem waitPoll_eq [Bounce Button] (sample : Sample) (startTime : Int32)
    (currentMove : Nat) (maquina : Maquina Button) :
    waitPoll sample startTime currentMove maquina =
      if InTime startTime sample then
        let (button, maquina) :=
          checkButton sample (checkIncoming sample maquina)
        if button ≠ choiceNone then
          ⟨.releasing button currentMove, toner button 150 maquina⟩
        else
          ⟨.waiting startTime currentMove, maquina⟩
      else
        choose sample choiceNone currentMove maquina := by
  unfold waitPoll pollButton
  split
  · dsimp only
    split <;> rfl
  · rfl

theorem releasePoll_eq [Bounce Button] (sample : Sample)
    (button currentMove : Nat) (maquina : Maquina Button) :
    releasePoll sample button currentMove maquina =
      let (pressed, maquina) := checkButton sample maquina
      if pressed ≠ choiceNone then
        ⟨.releasing button currentMove, maquina⟩
      else
        choose sample button currentMove maquina := by
  unfold releasePoll pollRelease
  dsimp only
  split <;> rfl

/-! ## Attract mode -/

/-- The first LED of the loop body of `attractMode`. -/
abbrev firstTurn : Fin 4 := 0

/-- The LEDs of `attractMode`, in the order of its loop body. -/
def attractLeds (turn : Fin 4) : Nat :=
  if turn = 0 then choiceRed
  else if turn = 1 then choiceBlue
  else if turn = 2 then choiceGreen
  else choiceYellow

/-- One LED of `attractMode` and the check which follows it. -/
def attractPoll [Bounce Button] (sample : Sample) (counterAttract : Nat)
    (turn : Fin 4) (maquina : Maquina Button) : Config Button :=
  let (button, maquina) :=
    checkButton sample (setLEDs (attractLeds turn) maquina)
  if button ≠ choiceNone then
    startMemory sample maquina
  else if turn ≠ 3 then
    ⟨.attract counterAttract (turn + 1), maquina⟩
  else if counterAttract > 1 then
    ⟨.attract (counterAttract - 1) firstTurn, maquina⟩
  else
    startMemory sample (shutUp (setLEDs choiceNone maquina))

end Maquina

end Salsipuedes

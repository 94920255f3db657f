import Salsipuedes.MaquinaSimon

/-!
# The loop of the machine

The functions of `maquina.ino` and the machine whose transitions are the
operations of `loop`, one call of its body after the other.
-/

namespace Salsipuedes

namespace Maquina

variable {Button : Type}

/-! ## Puzzles -/

/-- The knobs are at their values. -/
def winKnobs (sample : Sample) (maquina : Maquina Button) : Maquina Button :=
  let maquina := winnerSound (shutUp maquina)
  let maquina :=
    { maquina with knobsWon := true, gamesWon := maquina.gamesWon + 1 }
  let maquina := maquina.emit (.serial1 "KWIN")
  rayoAvanza sample (maquina.emit (.console "knobs won" []))

def checkKnobs [Bounce Button] (sample : Sample) (maquina : Maquina Button) :
    Maquina Button :=
  let maquina :=
    { maquina with
      botonKnobs :=
        Bounce.update maquina.botonKnobs sample.buttonRed sample.millis }
  if Bounce.rose maquina.botonKnobs then
    let maquina := maquina.emit (.console "check knobs" [])
    let k1 := sample.a13
    let k2 := sample.a14
    let k3 := sample.a15
    let maquina :=
      if (k1 - valorK1).natAbs < margenKnobs ∧
          (k2 - valorK2).natAbs < margenKnobs ∧
          (k3 - valorK3).natAbs < margenKnobs then
        winKnobs sample maquina
      else
        maquina.emit (.tone 60 100)
    maquina.emit (.console "knob values:" [k1, k2, k3])
  else
    maquina

/-- The radio has been tuned for long enough. -/
def winRadio (sample : Sample) (maquina : Maquina Button) : Maquina Button :=
  let maquina := winnerSound maquina
  let maquina :=
    { maquina with radioWon := true, gamesWon := maquina.gamesWon + 1 }
  let maquina := maquina.emit (.console "radio won" [])
  rayoAvanza sample (maquina.emit (.serial1 "RWIN"))

/-- With both switches set, the distance to the frequency sounds and counts. -/
def tuneRadio (dif : Int) (maquina : Maquina Button) : Maquina Button :=
  let maquina := maquina.emit (.tone (map dif 0 800 3400 500) 2)
  let maquina :=
    if dif < 40 then
      { maquina with tiempoRadio := toInt 16 (maquina.tiempoRadio - 1) }
    else
      { maquina with tiempoRadio := tiempoRadioTotal }
  maquina.emit (.console "" [dif])

def checkRadio (sample : Sample) (maquina : Maquina Button) :
    Maquina Button :=
  let r1 := sample.a13
  let r2 := sample.radio2
  let r3 := sample.radio3
  if r2 = valorR2 ∧ r3 = valorR3 then
    let maquina := tuneRadio (r1 - valorR1).natAbs maquina
    if maquina.tiempoRadio = 0 then winRadio sample maquina else maquina
  else
    maquina.emit (.console "" [r1, r2.toNat, r3.toNat])

/-- The plug has been at another level for fifty calls. -/
def acceptEnchufe (sample : Sample) (now : Bool) (maquina : Maquina Button) :
    Maquina Button :=
  let maquina := { maquina with enchufada := now, enchufeCounter := 0 }
  if maquina.enchufada = true then
    let maquina := maquina.emit (.serial1 "ON")
    let maquina := maquina.emit (.console "enchufe on" [])
    rayoAvanza sample { maquina with gamesWon := maquina.gamesWon + 1 }
  else
    let maquina := maquina.emit (.serial1 "OFF")
    handleReset (maquina.emit (.console "enchufe off" []))

/-- `checkEnchufe`: debounce the plug by counting calls. -/
def checkEnchufe (sample : Sample) (maquina : Maquina Button) :
    Bool × Maquina Button :=
  if maquina.yaGano = false then
    let now := sample.enchufe
    let maquina :=
      if now ≠ maquina.enchufada then
        let maquina :=
          { maquina with enchufeCounter := maquina.enchufeCounter + 1 }
        if maquina.enchufeCounter = 50 then
          acceptEnchufe sample now maquina
        else
          maquina
      else
        { maquina with enchufeCounter := 0 }
    (maquina.enchufada, maquina)
  else
    (false, maquina)

/-! ## Power-up -/

/-- The globals before `setup`; the debouncers are attached to the pin levels
and the clock which `setup` samples. -/
def powerUp [Bounce Button] (sample : Sample) : Maquina Button where
  enchufada := low
  knobsWon := false
  radioWon := false
  simonReady := false
  simonWon := false
  sillaOn := false
  gamesWon := 0
  efectoTurbina := false
  yaGano := false
  plasma1 := low
  plasma2 := low
  plasma3 := low
  botonSalida := low
  luzSalida := low
  ledRed := low
  ledGreen := low
  ledBlue := low
  ledYellow := low
  strip1 := Vector.replicate totalStrip1 CRGB.black
  ledsTurbina := Vector.replicate totalTurbina CRGB.black
  brightness := 255
  tiempoRadio := 1000
  enchufeCounter := 0
  luzRayos := false
  tiempoRayos := 0
  intensidadRayos := 30
  intensidadTurbina := ScaledFloat.ofNat 30
  turbinaArray := Vector.replicate totalTurbina 0
  turbinaCounter := 0
  gameBoard := Vector.replicate 20 0
  gameRound := 0
  buttons0 := Bounce.attach sample.buttonRed sample.millis
  buttons1 := Bounce.attach sample.buttonGreen sample.millis
  buttons2 := Bounce.attach sample.buttonBlue sample.millis
  buttons3 := Bounce.attach sample.buttonYellow sample.millis
  botonKnobs := Bounce.attach sample.buttonRed sample.millis
  incomingData := []
  lastCharTime := 0
  out := []

def setup [Bounce Button] (sample : Sample) : Config Button :=
  ⟨.loopStart, lucesOff (shutUp (setBrightness baseBrightness (powerUp sample)))⟩

/-! ## Loop -/

/-- The operation of `loop` at a control point, and the point after it.  The
body of `if (checkEnchufe() == true)` runs from `knobs` to `rayos`; an
iteration ends when control is back at `loopStart`. -/
def operation [Bounce Button] (sample : Sample) (control : Control)
    (maquina : Maquina Button) : Config Button :=
  match control with
  | .loopStart =>
      let (plugged, maquina) := checkEnchufe sample maquina
      ⟨if plugged = true then .knobs else .turbina, maquina⟩
  | .knobs =>
      ⟨.radio,
        if maquina.knobsWon = false then checkKnobs sample maquina else maquina⟩
  | .radio =>
      ⟨.simon,
        if maquina.radioWon = false then checkRadio sample maquina else maquina⟩
  | .simon =>
      if maquina.simonReady = true ∧ maquina.turbinaCounter = 0 ∧
          maquina.simonWon = false then
        ⟨.attract 5 firstTurn, shutUp maquina⟩
      else
        ⟨.rayos, maquina⟩
  | .attract counterAttract turn =>
      attractPoll sample counterAttract turn maquina
  | .choosing currentMove =>
      ⟨.waiting sample.millis.toInt32 currentMove, maquina⟩
  | .waiting startTime currentMove =>
      waitPoll sample startTime currentMove maquina
  | .releasing button currentMove =>
      releasePoll sample button currentMove maquina
  | .rayos =>
      ⟨.turbina,
        if maquina.luzRayos = true then
          rayoPega (maquina.emit (.console "rayos" []))
        else
          maquina⟩
  | .turbina => ⟨.enchufe, updateTurbina sample maquina⟩
  | .enchufe =>
      let (plugged, maquina) := checkEnchufe sample maquina
      ⟨.incoming, { maquina with enchufada := plugged }⟩
  | .incoming => ⟨.loopStart, showStrips (checkIncoming sample maquina)⟩

/-- The machine: each step runs one operation and emits its effects. -/
def machine (Button : Type) [Bounce Button] :
    MealyMachine (Config Button) Sample Event where
  step config sample :=
    operation sample config.control { config.maquina with out := [] }
  emit config sample :=
    (operation sample config.control { config.maquina with out := [] }).maquina.out

end Maquina

end Salsipuedes

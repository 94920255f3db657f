import Salsipuedes.MaquinaLuces

/-!
# Received commands

The functions of `incoming.ino`: the handlers of the commands which arrive from
the WiFi helper and the poll which frames and dispatches them.
-/

namespace Salsipuedes.Maquina

variable {Button : Type}

/-! ## Shared parts of the handlers -/

def lucesOff (maquina : Maquina Button) : Maquina Button :=
  let maquina := setLEDs choiceNone maquina
  let maquina :=
    { maquina with
      plasma1 := high
      plasma2 := high
      plasma3 := high
      botonSalida := high
      luzSalida := low
      strip1 := Vector.replicate totalStrip1 CRGB.black
      ledsTurbina := Vector.replicate totalTurbina CRGB.black }
  (showStrips maquina).emit (.console "luces off" [])

def resetState (maquina : Maquina Button) : Maquina Button :=
  { maquina with
    enchufada := false
    simonWon := false
    knobsWon := false
    radioWon := false
    simonReady := false
    sillaOn := false
    efectoTurbina := false
    luzRayos := false
    tiempoRayos := 0
    gamesWon := 0
    gameRound := 0
    yaGano := false }.emit (.console "reset state" [])

/-! ## Handlers -/

/-- A message `son` is accepted. -/
abbrev Accepts (maquina : Maquina Button) : Prop :=
  maquina.sillaOn = false ∧ maquina.gamesWon > 3

/-- Somebody is seated in the chair, and the turbine starts. -/
def seat (maquina : Maquina Button) : Maquina Button :=
  let maquina :=
    { maquina with
      sillaOn := true
      efectoTurbina := true
      turbinaCounter := 5000 }
  maquina.emit (.console "silla on" [])

def handleSillaOn (sample : Sample) (maquina : Maquina Button) :
    Maquina Button :=
  if maquina.Accepts then
    turbinaFlash sample (seat maquina)
  else
    maquina

def handleSillaOff (maquina : Maquina Button) : Maquina Button :=
  { maquina with sillaOn := false }.emit (.console "silla off" [])

def handleTrueno (maquina : Maquina Button) : Maquina Button :=
  { maquina with luzRayos := true, tiempoRayos := totalRayos }.emit
    (.console "trueno" [])

def handleReset (maquina : Maquina Button) : Maquina Button :=
  let maquina := maquina.emit (.console "doiing a reset" [])
  let maquina := maquina.emit (.serial1 "OFF")
  let maquina := shutUp (resetState (lucesOff maquina))
  { maquina with enchufeCounter := 0 }

def handleOn (maquina : Maquina Button) : Maquina Button :=
  let maquina := maquina.emit (.console "machine ON" [])
  let maquina := resetState (lucesOff maquina)
  { maquina with enchufeCounter := 0, enchufada := true }

def handleOff (maquina : Maquina Button) : Maquina Button :=
  let maquina := maquina.emit (.console "turning off" [])
  shutUp (resetState (lucesOff maquina))

def handleWin (maquina : Maquina Button) : Maquina Button :=
  let maquina := maquina.emit (.console "winnnnning" [])
  let maquina := exitRoom (shutUp (resetState (lucesOff maquina)))
  { maquina with yaGano := true }

def handleManual (sample : Sample) (maquina : Maquina Button) :
    Maquina Button :=
  if maquina.gamesWon > 3 then
    handleWin maquina
  else
    rayoAvanza sample { maquina with gamesWon := maquina.gamesWon + 1 }

/-! ## Polling -/

/-- The handler which `checkIncoming` selects for a trimmed text. -/
def dispatch (sample : Sample) (text : Text) (maquina : Maquina Button) :
    Maquina Button :=
  if text = "reset".toList then handleReset maquina
  else if text = "on".toList then handleOn maquina
  else if text = "off".toList then handleOff maquina
  else if text = "win".toList then handleWin maquina
  else if text = "son".toList then handleSillaOn sample maquina
  else if text = "soff".toList then handleSillaOff maquina
  else if text = "trueno".toList then handleTrueno maquina
  else if text = "manual".toList then handleManual sample maquina
  else maquina

/-- The available characters are read, and idle polls are counted in 16 bits. -/
abbrev readIncoming (sample : Sample) (maquina : Maquina Button) :
    Maquina Button :=
  { maquina with
    toIdleReceiver := maquina.toIdleReceiver.receive 16 sample.serial1 }

/-- A message is over at the first poll which finds the counter above 25. -/
abbrev messageOver (maquina : Maquina Button) : Bool :=
  maquina.toIdleReceiver.complete 25

/-- The message is trimmed and announced. -/
abbrev announce (maquina : Maquina Button) : Maquina Button :=
  let maquina := { maquina with incomingData := trim maquina.incomingData }
  maquina.emit (.received maquina.incomingData)

/-- What `checkIncoming` does with a complete message. -/
def handleMessage (sample : Sample) (maquina : Maquina Button) :
    Maquina Button :=
  let maquina := announce maquina
  let maquina := dispatch sample maquina.incomingData maquina
  { maquina with toIdleReceiver := maquina.toIdleReceiver.clear }

def checkIncoming (sample : Sample) (maquina : Maquina Button) :
    Maquina Button :=
  let maquina := readIncoming sample maquina
  if messageOver maquina then
    handleMessage sample maquina
  else
    maquina

end Salsipuedes.Maquina

import Salsipuedes.MaquinaState

/-!
# Lightning and turbine effects

The functions of `luceslocas.ino`: the lightning path which shows the stage of
the game, the turbine which flashes after every advance, the thunder, and the
release of the exit.
-/

namespace Salsipuedes.Maquina

variable {Button : Type}

/-! ## Turbine -/

/-- `newShapeTurbina`: exponential brightnesses up to 196. -/
def newShapeTurbina (sample : Sample) (maquina : Maquina Button) :
    Maquina Button :=
  { maquina with
    turbinaArray := Vector.ofFn fun i : Fin totalTurbina =>
      let lum := random 0 (Nat.sqrt 255) (sample.draw (i.val + 1))
      lum * lum }

def applyShape (maquina : Maquina Button) : Maquina Button :=
  { maquina with
    ledsTurbina := maquina.turbinaArray.map fun lum => ⟨lum, lum, lum⟩ }

def turbinaOff (maquina : Maquina Button) : Maquina Button :=
  { maquina with ledsTurbina := Vector.replicate totalTurbina CRGB.black }

/-- The square of a draw below the root of the counter. -/
def flicker (sample : Sample) (maquina : Maquina Button) : Int :=
  random 0 (Nat.sqrt maquina.turbinaCounter.toNat) (sample.draw 0) ^ 2

def turbinaFlash (sample : Sample) (maquina : Maquina Button) :
    Maquina Button :=
  let flicker := flicker sample maquina
  let maquina :=
    if flicker > 1900 then
      applyShape (newShapeTurbina sample maquina)
    else if flicker > maquina.turbinaCounter then
      setBrightness 0 maquina
    else
      setBrightness (flicker.tmod 255) maquina
  { maquina with turbinaCounter := maquina.turbinaCounter - 1 }

/-- The turbine at full power, all its pixels white. -/
def turbinaWhite (maquina : Maquina Button) : Maquina Button :=
  { maquina with
    ledsTurbina := Vector.replicate totalTurbina ⟨255, 255, 255⟩ }

/-- The turbine has more than its last count to go. -/
abbrev Going (maquina : Maquina Button) : Prop :=
  maquina.turbinaCounter > 1

def updateTurbina (sample : Sample) (maquina : Maquina Button) :
    Maquina Button :=
  if maquina.Going then
    turbinaFlash sample maquina
  else if maquina.turbinaCounter = 1 then
    { setBrightness baseBrightness (turbinaOff maquina) with
      turbinaCounter := 0 }
  else if maquina.efectoTurbina = true then
    let maquina :=
      if maquina.sillaOn = true then
        if maquina.intensidadTurbina < ScaledFloat.ofNat 255 then
          turbinaWhite
            { maquina with
              intensidadTurbina :=
                maquina.intensidadTurbina.add ScaledFloat.fourHundredths }
        else
          let flicker := random 0 2000 (sample.draw 0)
          if flicker > 150 then
            turbinaWhite maquina
          else
            applyShape (newShapeTurbina sample maquina)
      else
        turbinaOff
          { maquina with
            intensidadTurbina := ScaledFloat.ofNat baseBrightness.toNat }
    setBrightness maquina.intensidadTurbina.truncate maquina
  else
    maquina

/-! ## Lightning -/

/-- Light the pixels `start, ..., stop - 1` of the path one after the other. -/
def encenderTramo (start stop : Nat) (maquina : Maquina Button) :
    Maquina Button :=
  (List.range' start (stop - start)).foldl
    (fun maquina i =>
      showStrips
        { maquina with
          strip1 := maquina.strip1.setIfInBounds i CRGB.rayo })
    maquina

/-- `rayoAvanza`: show the stage that `gamesWon` has just reached. -/
def rayoAvanza (sample : Sample) (maquina : Maquina Button) :
    Maquina Button :=
  let maquina :=
    maquina.emit (.console "rayo avanza. gamesWon:" [maquina.gamesWon])
  if maquina.gamesWon = 1 then
    let maquina := encenderTramo 0 pixels1 maquina
    applyShape (newShapeTurbina sample { maquina with turbinaCounter := 6000 })
  else if maquina.gamesWon = 2 then
    let maquina := encenderTramo pixels1 pixels2 { maquina with plasma1 := low }
    { maquina with turbinaCounter := 4500 }
  else if maquina.gamesWon = 3 then
    let maquina := encenderTramo pixels2 pixels3 { maquina with plasma2 := low }
    { maquina with turbinaCounter := 8500, simonReady := true }
  else if maquina.gamesWon = 4 then
    let maquina := setLEDs choiceNone maquina
    let maquina := encenderTramo pixels3 pixels4 { maquina with plasma3 := low }
    { maquina with turbinaCounter := 10000 }
  else
    maquina.emit (.console "got weird value for gamesWon:" [maquina.gamesWon])

/-- The next brightness of the thunder: it swells in the first and third
quarters of the effect and fades in the others. -/
def nextIntensidad (tiempoRayos intensidadRayos : Int) : Int :=
  if tiempoRayos > totalRayos / 4 * 3 then intensidadRayos + 1
  else if tiempoRayos > totalRayos / 2 then intensidadRayos - 1
  else if tiempoRayos > totalRayos / 4 then intensidadRayos + 1
  else intensidadRayos - 1

/-- The intensity of the next strike, with the remainder of C. -/
def struck (maquina : Maquina Button) : Int :=
  (nextIntensidad maquina.tiempoRayos maquina.intensidadRayos).tmod 128

/-- A strike, which sets the brightness of both strips. -/
def strike (maquina : Maquina Button) : Maquina Button :=
  let maquina := { maquina with intensidadRayos := struck maquina }
  setBrightness maquina.intensidadRayos maquina

/-- `rayoPega`: one step of the thunder, unless the chair drives the turbine. -/
def rayoPega (maquina : Maquina Button) : Maquina Button :=
  if maquina.sillaOn = false then
    let maquina := strike maquina
    let maquina := { maquina with tiempoRayos := maquina.tiempoRayos - 1 }
    if maquina.tiempoRayos < 1 then
      setBrightness baseBrightness
        { maquina with luzRayos := false, intensidadRayos := 30 }
    else
      maquina
  else
    maquina

/-! ## Exit -/

def exitRoom (maquina : Maquina Button) : Maquina Button :=
  { maquina with botonSalida := low, luzSalida := high }.emit (.serial1 "OFF")

end Salsipuedes.Maquina

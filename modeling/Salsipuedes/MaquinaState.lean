import Salsipuedes.ArduinoCore
import Salsipuedes.IdleFraming

/-!
# The state of the machine

The globals of the `maquina` sketch, grouped by what they are for, and what it
samples and emits.  Time passes only through the sampled clock: `delay` is not
an operation of the model, and neither is the seed of the generator, because
each draw is part of the sample.
-/

namespace Salsipuedes.Maquina

/-! ## Constants -/

def pixelCount1 : Nat := 1
def pixelCount2 : Nat := 1
def pixelCount3 : Nat := 4
def pixelCount4 : Nat := 4
def pixels1 : Nat := pixelCount1
def pixels2 : Nat := pixels1 + pixelCount2
def pixels3 : Nat := pixels2 + pixelCount3
def pixels4 : Nat := pixels3 + pixelCount4
def pixelCount5 : Nat := 5
def pixelCount6 : Nat := 5

abbrev totalStrip1 : Nat :=
  pixelCount1 + pixelCount2 + pixelCount3 + pixelCount4

abbrev totalTurbina : Nat :=
  pixelCount5 + pixelCount6

def valorK1 : Int := 100
def valorK2 : Int := 0
def valorK3 : Int := 800
def margenKnobs : Int := 50

def valorR1 : Int := 650
def valorR2 : Bool := high
def valorR3 : Bool := high
def tiempoRadioTotal : Int := 1000

def baseBrightness : Int := 50
def totalRayos : Int := 1500

def roundsToWin : Nat := 4
def entryTimeLimit : UInt32 := 8000

/-- Nothing lit, or no button pressed. -/
def choiceNone : Nat := 0
def choiceRed : Nat := 1
def choiceGreen : Nat := 2
def choiceBlue : Nat := 4
def choiceYellow : Nat := 8

/-! ## Effects -/

/-- A pixel of an LED strip. -/
structure CRGB where
  red : Int
  green : Int
  blue : Int
  deriving DecidableEq

def CRGB.black : CRGB := ⟨0, 0, 0⟩

/-- The colour of a lit pixel of the lightning path. -/
def CRGB.rayo : CRGB := ⟨128, 128, 128⟩

/-- What an operation of the machine does to the outside besides setting pins:
`Serial1` is the link to the WiFi helper and `console` is `Serial`.  `received` marks
the dispatch of a message by its trimmed text; in its place the sketch prints
`I received: ` and the text as it has come. -/
inductive Event where
  | serial1 (message : String)
  | received (message : Text)
  | console (line : String) (values : List Int)
  | tone (frequency duration : Int)
  | noTone
  | buzzSound (lengthMs delayUs : Int)
  | winnerSound
  | show (strip1 : Vector CRGB totalStrip1)
      (ledsTurbina : Vector CRGB totalTurbina) (brightness : Nat)
  deriving DecidableEq

/-! ## Globals -/

/-- The globals of the game: what is plugged in, won and released. -/
structure Progreso where
  enchufada : Bool
  knobsWon : Bool
  radioWon : Bool
  simonReady : Bool
  simonWon : Bool
  sillaOn : Bool
  gamesWon : Int
  efectoTurbina : Bool
  yaGano : Bool
  deriving DecidableEq

/-- The relays, which conduct when `low`, and the light of the exit button. -/
structure Relays where
  plasma1 : Bool
  plasma2 : Bool
  plasma3 : Bool
  botonSalida : Bool
  luzSalida : Bool
  deriving DecidableEq

/-- The LEDs of the Simon buttons. -/
structure SimonLeds where
  ledRed : Bool
  ledGreen : Bool
  ledBlue : Bool
  ledYellow : Bool
  deriving DecidableEq

/-- The two strips and the brightness that FastLED applies to both. -/
structure Strips where
  strip1 : Vector CRGB totalStrip1
  ledsTurbina : Vector CRGB totalTurbina
  brightness : Nat
  deriving DecidableEq

/-- Counters of the puzzles and of the light effects. -/
structure Counters where
  tiempoRadio : Int
  enchufeCounter : Int
  luzRayos : Bool
  tiempoRayos : Int
  intensidadRayos : Int
  intensidadTurbina : ScaledFloat
  turbinaArray : Vector Int totalTurbina
  turbinaCounter : Int
  deriving DecidableEq

/-- The moves of the Simon game and the debounced buttons. -/
structure Simon (Button : Type) where
  gameBoard : Vector Nat 20
  gameRound : Nat
  buttons0 : Button
  buttons1 : Button
  buttons2 : Button
  buttons3 : Button
  botonKnobs : Button
  deriving DecidableEq

end Maquina

open Maquina in
/-- The globals of the sketch, and what the current operation has emitted. -/
structure Maquina (Button : Type) extends Progreso, Relays, SimonLeds, Strips,
    Counters, Simon Button, IdleReceiver Char where
  out : List Event
  deriving DecidableEq

namespace Maquina

/-- What an operation samples: the clock, the pins, the draws of the generator
and the bytes available on `Serial1`.  The three knobs share their analog pins
with the radio. -/
structure Sample where
  millis : UInt32
  enchufe : Bool
  buttonRed : Bool
  buttonGreen : Bool
  buttonBlue : Bool
  buttonYellow : Bool
  a13 : Int
  a14 : Int
  a15 : Int
  radio2 : Bool
  radio3 : Bool
  draw : Nat → Nat
  serial1 : Text

variable {Button : Type}

/-! ## Elementary operations -/

def emit (event : Event) (maquina : Maquina Button) : Maquina Button :=
  { maquina with out := maquina.out ++ [event] }

/-- `FastLED.show`. -/
def showStrips (maquina : Maquina Button) : Maquina Button :=
  maquina.emit (.show maquina.strip1 maquina.ledsTurbina maquina.brightness)

/-- `FastLED.setBrightness`, whose parameter is a byte. -/
def setBrightness (scale : Int) (maquina : Maquina Button) : Maquina Button :=
  { maquina with brightness := toByte scale }

def setLEDs (leds : Nat) (maquina : Maquina Button) : Maquina Button :=
  { maquina with
    ledRed := leds &&& choiceRed != 0
    ledGreen := leds &&& choiceGreen != 0
    ledBlue := leds &&& choiceBlue != 0
    ledYellow := leds &&& choiceYellow != 0 }

def shutUp (maquina : Maquina Button) : Maquina Button :=
  maquina.emit .noTone

def winnerSound (maquina : Maquina Button) : Maquina Button :=
  maquina.emit .winnerSound

end Maquina

end Salsipuedes

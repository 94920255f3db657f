import Salsipuedes.WifiNode

/-!
# The thunder light

The `trueno` sketch flashes a strip of LEDs: a request shows a number of random
shapes, each with a number of flashes, before it returns.
-/

namespace Salsipuedes

open Maquina (CRGB)

structure Trueno where
  leds : List CRGB
  truenoCounter : Int
  pixelArray : List Nat
  brightness : Nat
  out : List NodeEvent
  deriving DecidableEq

namespace Trueno

def numLeds : Nat := 10
def tiempoTrueno : Int := 100

/-- The draws of a request: the time, the number of shapes, and for each shape
the brightness of its pixels, the number of flashes and their brightness. -/
structure Sample where
  counter : Nat
  shapes : Nat
  lum : Nat → Nat → Nat
  repetitions : Nat → Nat
  flash : Nat → Nat → Nat

inductive Route where
  | root
  | test
  | reset
  | manual
  | trueno
  deriving DecidableEq

def info : NodeInfo where
  description := " luz de truenos /trueno  \n\n"
  controllerId := "hab13trueno"
  methods := "/test /reset /manual  \n\n"
  pcRemotePort := 1307
  localPort := 1307

def emit (event : NodeEvent) (trueno : Trueno) : Trueno :=
  { trueno with out := trueno.out ++ [event] }

/-! ## Lights -/

def showLeds (trueno : Trueno) : Trueno :=
  trueno.emit (.show trueno.leds trueno.brightness)

/-- `FastLED.setBrightness` and `FastLED.show`. -/
def showAt (brightness : Int) (trueno : Trueno) : Trueno :=
  { trueno with brightness := toByte brightness }.showLeds

def lightsOff (trueno : Trueno) : Trueno :=
  { trueno with leds := List.replicate numLeds CRGB.black }.showLeds

/-- Random and exponential brightnesses. -/
def newShapeTrueno (lum : Nat → Nat) (trueno : Trueno) : Trueno :=
  { trueno with
    pixelArray := (List.range numLeds).map fun i =>
      (random 0 (Nat.sqrt 255) (lum i)).toNat ^ 2 }

def applyShape (trueno : Trueno) : Trueno :=
  { trueno with leds := trueno.pixelArray.map fun lum => ⟨lum, lum, lum⟩ }

def flashOnce (sample : Sample) (shape flash : Nat) (trueno : Trueno) :
    Trueno :=
  showAt 0 (showAt (random 5 100 (sample.flash shape flash))
    (showAt 255 trueno))

def showShape (sample : Sample) (shape : Nat) (trueno : Trueno) : Trueno :=
  let trueno := applyShape (newShapeTrueno (sample.lum shape) trueno)
  let trueno := trueno.showLeds
  let repetitions := random 1 10 (sample.repetitions shape)
  (List.range repetitions.toNat).foldl
    (fun trueno flash => flashOnce sample shape flash trueno) trueno

def updateTrueno (sample : Sample) (trueno : Trueno) : Trueno :=
  let shapes := random 2 5 sample.shapes
  lightsOff ((List.range shapes.toNat).foldl
    (fun trueno shape => showShape sample shape trueno) trueno)

/-! ## Handlers -/

def handleReset (trueno : Trueno) : Trueno :=
  let trueno := trueno.emit (.send 200 "reset")
  let trueno := trueno.emit (.println "reset")
  lightsOff { trueno with truenoCounter := 0 }

def handleManual (trueno : Trueno) : Trueno :=
  { trueno with truenoCounter := 1000 }

def handleTrueno (sample : Sample) (trueno : Trueno) : Trueno :=
  let trueno := trueno.emit (.send 200 "luz de trueno")
  let truenoCounter :=
    random tiempoTrueno (tiempoTrueno * 3) sample.counter
  let trueno := { trueno with truenoCounter := truenoCounter }
  let trueno := trueno.emit (.print "trueno ")
  let trueno := trueno.emit (.print (toString truenoCounter))
  let trueno := trueno.emit (.send 200 "trueno")
  updateTrueno sample trueno

def handle (route : Route) (sample : Sample) (trueno : Trueno) : Trueno :=
  match route with
  | .root => { trueno with out := trueno.out ++ info.root }
  | .test => { trueno with out := trueno.out ++ info.test }
  | .reset => handleReset trueno
  | .manual => handleManual trueno
  | .trueno => handleTrueno sample trueno

/-! ## Loop -/

/-- The body of `loop`. -/
def loop (_ : Sample) (trueno : Trueno) : Trueno :=
  if trueno.truenoCounter > 0 then
    let truenoCounter := trueno.truenoCounter - 1
    { trueno with truenoCounter := truenoCounter }.emit
      (.print (toString truenoCounter))
  else
    lightsOff trueno

def setup : Trueno :=
  lightsOff
    { leds := List.replicate numLeds CRGB.black
      truenoCounter := 0
      pixelArray := List.replicate numLeds 0
      brightness := 255
      out := [] }

def node : WifiNode Trueno Route Sample where
  setup := setup
  handle := handle
  loop := loop
  out := Trueno.out
  silence trueno := { trueno with out := [] }

end Trueno

end Salsipuedes

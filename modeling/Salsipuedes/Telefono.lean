import Salsipuedes.WifiNode

/-!
# The telephone

The `telefono` sketch samples a rotary telephone: it debounces the line, counts
the pulses of a digit, collects a number, watches the hook, and reports a right
or a wrong number.  The blocks of `loop` are functions of their own, in the order
in which an iteration runs them.
-/

namespace Salsipuedes

namespace Telefono

/-- A reading of the line: in the middle of dialling, on the hook or a tick, and
off the hook at rest. -/
inductive Nivel where
  | low
  | high
  | descolgado
  deriving DecidableEq

def objectivenum : Text := "157".toList

def dialHasFinishedRotatingAfterMs : UInt32 := 100
def debounceDelay : UInt32 := 10
def hangPhoneTime : UInt32 := 300
def resetTime : UInt32 := 2000000

/-- A C integer as `String` prints it. -/
def decimal (value : Int) : Text :=
  if value < 0 then '-' :: Nat.toDigits 10 value.natAbs
  else Nat.toDigits 10 value.natAbs

end Telefono

open Telefono in
/-- The globals of the sketch, and what the current turn has emitted. -/
structure Telefono where
  tuboUp : Bool
  needToPrint : Bool
  count : Int
  lastState : Nivel
  trueState : Nivel
  lastStateChangeTime : Int32
  fullnum : Text
  done : Bool
  out : List NodeEvent
  deriving DecidableEq

namespace Telefono

/-- What an iteration samples: the line, and the clock at each of the five places
where it may be read. -/
structure Sample where
  analogin : Int
  millis : Nat → UInt32

inductive Route where
  | root
  | test
  | reset
  | manual
  deriving DecidableEq

def info : NodeInfo where
  description := "si telefono marca bien, manda WIN, numero entero mal FAIL, " ++
    "UP o DOWN levanta o baja tubo. \n"
  controllerId := "hab13tel"
  methods := "/test /reset /manual /agua /trueno  \n\n"
  pcRemotePort := 1301
  localPort := 1301

def emit (event : NodeEvent) (telefono : Telefono) : Telefono :=
  { telefono with out := telefono.out ++ [event] }

/-- The message of a datagram and the line printed with it. -/
def report (message line : String) (telefono : Telefono) : Telefono :=
  (telefono.emit (.packet message.toList)).emit (.println line)

/-! ## Handlers -/

def handleReset (telefono : Telefono) : Telefono :=
  let telefono := telefono.emit (.send 200 "reset")
  let telefono := telefono.emit (.println "reset")
  { telefono with
    needToPrint := false
    count := 0
    lastState := .low
    trueState := .low
    lastStateChangeTime := 0
    fullnum := []
    done := false }

def handleManual (telefono : Telefono) : Telefono :=
  { telefono with fullnum := objectivenum }

def handle (route : Route) (_ : Sample) (telefono : Telefono) : Telefono :=
  match route with
  | .root => { telefono with out := telefono.out ++ info.root }
  | .test => { telefono with out := telefono.out ++ info.test }
  | .reset => handleReset telefono
  | .manual => handleManual telefono

/-! ## Loop -/

/-- The level of a reading of the analog pin. -/
def nivel (analogin : Int) : Nivel :=
  if analogin > 850 then .high
  else if analogin > 400 then .descolgado
  else .low

/-- `millis() - lastStateChangeTime`, in unsigned 32-bit arithmetic. -/
def elapsed (now : UInt32) (telefono : Telefono) : UInt32 :=
  now - telefono.lastStateChangeTime.toUInt32

/-- The dial has finished rotating, and its pulses are still to be printed. -/
abbrev DigitDue (now : UInt32) (telefono : Telefono) : Prop :=
  telefono.elapsed now > dialHasFinishedRotatingAfterMs ∧
    telefono.needToPrint = true

/-- The dial has finished rotating: the pulses make a digit, and ten of them
make a zero. -/
def completeDigit (now : UInt32) (telefono : Telefono) : Telefono :=
  if telefono.DigitDue now then
    let fullnum := telefono.fullnum ++ decimal (telefono.count.tmod 10)
    let telefono := { telefono with fullnum := fullnum }
    { telefono.emit (.println (String.ofList fullnum)) with
      needToPrint := false
      count := 0 }
  else
    telefono

def noteChange (reading : Nivel) (now : UInt32) (telefono : Telefono) :
    Telefono :=
  if reading ≠ telefono.lastState then
    { telefono with lastStateChangeTime := now.toInt32 }
  else
    telefono

/-- A stable level is taken over, and a stable `high` is a pulse. -/
def debounce (reading : Nivel) (now : UInt32) (telefono : Telefono) :
    Telefono :=
  if telefono.elapsed now > debounceDelay then
    if reading ≠ telefono.trueState then
      let telefono := { telefono with trueState := reading }
      if reading = .high then
        { telefono with
          count := toInt 32 (telefono.count + 1)
          needToPrint := true }
      else
        telefono
    else
      telefono
  else
    telefono

abbrev HangsUp (reading : Nivel) (telefono : Telefono) : Prop :=
  reading = .high ∧ telefono.tuboUp = true

abbrev LiftsUp (reading : Nivel) (telefono : Telefono) : Prop :=
  reading = .descolgado ∧ telefono.tuboUp = false

/-- A level which lasts is the handset being hung up or lifted. -/
def watchHook (reading : Nivel) (now : UInt32) (telefono : Telefono) :
    Telefono :=
  if telefono.elapsed now > hangPhoneTime then
    if telefono.HangsUp reading then
      { report "DOWN" "hanging phone" telefono with
        fullnum := []
        tuboUp := false }
    else if telefono.LiftsUp reading then
      { report "UP" "phone up" telefono with
        fullnum := []
        tuboUp := true }
    else
      telefono
  else
    telefono

/-- A number which is not finished in time is wrong. -/
def timeOut (now : UInt32) (telefono : Telefono) : Telefono :=
  if telefono.elapsed now > resetTime ∧ telefono.done = false then
    if telefono.fullnum.length > 0 then
      report "FAIL" "reset number" { telefono with fullnum := [] }
    else
      telefono
  else
    telefono

def verdict (telefono : Telefono) : Telefono :=
  if telefono.fullnum = objectivenum ∧ telefono.done = false then
    { report "WIN" "Got it!" telefono with done := true }
  else if telefono.fullnum.length + 1 > objectivenum.length ∧
      telefono.done = false then
    handleReset (report "FAIL" "wrong number" telefono)
  else
    telefono

/-- The body of `loop`. -/
def loop (sample : Sample) (telefono : Telefono) : Telefono :=
  let reading := nivel sample.analogin
  let telefono := completeDigit (sample.millis 0) telefono
  let telefono := noteChange reading (sample.millis 1) telefono
  let telefono := debounce reading (sample.millis 2) telefono
  let telefono := watchHook reading (sample.millis 3) telefono
  let telefono := timeOut (sample.millis 4) telefono
  let telefono := verdict telefono
  { telefono with lastState := reading }

def setup : Telefono where
  tuboUp := false
  needToPrint := false
  count := 0
  lastState := .low
  trueState := .low
  lastStateChangeTime := 0
  fullnum := []
  done := false
  out := []

def node : WifiNode Telefono Route Sample where
  setup := setup
  handle := handle
  loop := loop
  out := Telefono.out
  silence telefono := { telefono with out := [] }

end Telefono

end Salsipuedes

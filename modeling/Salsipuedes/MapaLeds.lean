import Salsipuedes.StableButton
import Salsipuedes.WifiNode

/-!
# The map

The `mapa-leds` sketch is a map with four buttons, each of which shows a pattern
on four lamps, and with an alarm, which a strip of LEDs shows.  It has no network
of its own: its commands come over `Serial` from a helper, and it prints on the
same link.
-/

namespace Salsipuedes

open Maquina (CRGB)

structure MapaLeds (Button : Type) extends IdleReceiver Char where
  alarma : Bool
  leds : List Bool
  redLeds : Bool
  strip : List CRGB
  pos : Int
  buttons0 : Button
  buttons1 : Button
  buttons2 : Button
  buttons3 : Button
  out : List NodeEvent
  deriving DecidableEq

namespace MapaLeds

variable {Button : Type}

def pixelCount : Nat := 10

/-- What an iteration samples: the clock, the levels of the buttons and the bytes
which are available on `Serial`. -/
structure Sample where
  millis : UInt32
  button : Fin 4 → Bool
  serial : Text

/-- The lamps which each button lights. -/
def pattern : Fin 4 → List Bool
  | 0 => [low, high, high, high]
  | 1 => [high, low, low, high]
  | 2 => [low, low, high, high]
  | 3 => [low, high, low, high]

def emit (event : NodeEvent) (mapa : MapaLeds Button) : MapaLeds Button :=
  { mapa with out := mapa.out ++ [event] }

/-! ## Commands -/

def handleReset (mapa : MapaLeds Button) : MapaLeds Button :=
  { mapa.emit (.println "doiing a reset") with
    leds := List.replicate 4 low
    redLeds := low
    alarma := false }

def handleAlarma (mapa : MapaLeds Button) : MapaLeds Button :=
  { mapa.emit (.println "alarma") with alarma := true }

/-- The handlers which `checkIncoming` selects for a trimmed text. -/
def dispatch (text : Text) (mapa : MapaLeds Button) : MapaLeds Button :=
  let mapa := if text = "reset".toList then handleReset mapa else mapa
  if text = "alarma".toList then handleAlarma mapa else mapa

/-- What `checkIncoming` does with a complete message. -/
def handleMessage (mapa : MapaLeds Button) : MapaLeds Button :=
  let mapa := mapa.emit (.print "I received: ")
  let mapa := mapa.emit (.println (String.ofList mapa.incomingData))
  let mapa := { mapa with incomingData := trim mapa.incomingData }
  let mapa := dispatch mapa.incomingData mapa
  { mapa with toIdleReceiver := mapa.toIdleReceiver.clear }

def checkIncoming (serial : Text) (mapa : MapaLeds Button) :
    MapaLeds Button :=
  let mapa :=
    { mapa with toIdleReceiver := mapa.toIdleReceiver.receive 16 serial }
  if mapa.toIdleReceiver.complete 25 then
    handleMessage mapa
  else
    mapa

/-! ## Loop -/

/-- A pressed button shows its pattern, and is printed for each lamp. -/
def press (which : Fin 4) (name : String) (mapa : MapaLeds Button) :
    MapaLeds Button :=
  let mapa := mapa.emit (.println "pressed button")
  { mapa with
    leds := pattern which
    out := mapa.out ++ List.replicate 4 (.print name) }

/-- The strength of a pixel when the strip is at a position. -/
def strength (pos : Int) (i : Nat) : Int :=
  map (toInt 16 (i + pos)) 0 pixelCount 0 254

/-- The gradient of the alarm, from the position of the strip on. -/
def updateStrip (mapa : MapaLeds Button) : MapaLeds Button :=
  let pos := mapa.pos
  { mapa with
    strip := (List.range pixelCount).map fun i => ⟨0, 0, toByte (strength pos i)⟩
    pos := toInt 16 (pos + 1 % pixelCount) }

/-- The numerals below are buttons. -/
local instance fourButtons : NeZero 4 :=
  ⟨by decide⟩

def updateButtons [Bounce Button] (sample : Sample) (mapa : MapaLeds Button) :
    MapaLeds Button :=
  { mapa with
    buttons0 := Bounce.update mapa.buttons0 (sample.button 0) sample.millis
    buttons1 := Bounce.update mapa.buttons1 (sample.button 1) sample.millis
    buttons2 := Bounce.update mapa.buttons2 (sample.button 2) sample.millis
    buttons3 := Bounce.update mapa.buttons3 (sample.button 3) sample.millis }

def checkButtons [Bounce Button] (mapa : MapaLeds Button) : MapaLeds Button :=
  let mapa :=
    if Bounce.rose mapa.buttons0 then press 0 "button1" mapa else mapa
  let mapa :=
    if Bounce.rose mapa.buttons1 then press 1 "button2" mapa else mapa
  let mapa :=
    if Bounce.rose mapa.buttons2 then press 2 "button3" mapa else mapa
  if Bounce.rose mapa.buttons3 then press 3 "button4" mapa else mapa

/-- The body of `loop`. -/
def loop [Bounce Button] (sample : Sample) (mapa : MapaLeds Button) :
    MapaLeds Button :=
  let mapa := checkButtons (updateButtons sample mapa)
  let mapa :=
    if mapa.alarma = true then updateStrip { mapa with redLeds := high }
    else mapa
  checkIncoming sample.serial mapa

/-- The globals after `setup`, which attaches the debouncers to the levels and
the clock that it samples. -/
def setup [Bounce Button] (sample : Sample) : MapaLeds Button where
  incomingData := []
  lastCharTime := 0
  alarma := false
  leds := List.replicate 4 low
  redLeds := low
  strip := List.replicate pixelCount CRGB.black
  pos := 0
  buttons0 := Bounce.attach (sample.button 0) sample.millis
  buttons1 := Bounce.attach (sample.button 1) sample.millis
  buttons2 := Bounce.attach (sample.button 2) sample.millis
  buttons3 := Bounce.attach (sample.button 3) sample.millis
  out := [.show (List.replicate pixelCount CRGB.black) 255]

/-- The map as a machine which emits the effects of each iteration. -/
def machine (Button : Type) [Bounce Button] :
    MealyMachine (MapaLeds Button) Sample NodeEvent where
  step mapa sample := loop sample { mapa with out := [] }
  emit mapa sample := (loop sample { mapa with out := [] }).out

/-! ## The gradient -/

/-- An iteration with the alarm on computes strengths in the range of its `map`,
from sums which do not overflow, and they are what the strip shows. -/
def Graded [Bounce Button] (mapa : MapaLeds Button) (sample : Sample) : Prop :=
  mapa.alarma = true →
    (∀ i < pixelCount,
      (0 ≤ strength mapa.pos i ∧ strength mapa.pos i ≤ 254) ∧
        toInt 16 (i + mapa.pos) = i + mapa.pos) ∧
      ((machine Button).step mapa sample).strip =
        (List.range pixelCount).map fun i => ⟨0, 0, strength mapa.pos i⟩

/-- How many iterations of a run have the alarm on. -/
def alarms [Bounce Button] (mapa : MapaLeds Button) (samples : List Sample) :
    Nat :=
  ((machine Button).readings (fun mapa _ => [mapa.alarma]) mapa samples).count
    true

theorem checkButtons_pos [Bounce Button] (mapa : MapaLeds Button) :
    (checkButtons mapa).pos = mapa.pos ∧
      (checkButtons mapa).alarma = mapa.alarma := by
  unfold checkButtons
  dsimp only
  repeat' split
  all_goals exact ⟨rfl, rfl⟩

theorem checkIncoming_pos (serial : Text) (mapa : MapaLeds Button) :
    (checkIncoming serial mapa).pos = mapa.pos ∧
      (checkIncoming serial mapa).strip = mapa.strip := by
  unfold checkIncoming
  dsimp only
  split
  · unfold handleMessage
    dsimp only
    unfold dispatch
    dsimp only
    repeat' split
    all_goals exact ⟨rfl, rfl⟩
  · exact ⟨rfl, rfl⟩

/-- Nothing but the alarm moves the strip, and nothing moves it back. -/
theorem step_pos [Bounce Button] (mapa : MapaLeds Button) (sample : Sample) :
    ((machine Button).step mapa sample).pos =
      if mapa.alarma = true then toInt 16 (mapa.pos + 1) else mapa.pos := by
  let checked := checkButtons (updateButtons sample { mapa with out := [] })
  obtain ⟨samePos, sameAlarma⟩ : checked.pos = mapa.pos ∧
      checked.alarma = mapa.alarma :=
    checkButtons_pos (updateButtons sample { mapa with out := [] })
  refine (checkIncoming_pos sample.serial _).1.trans ?_
  change (if checked.alarma = true then
    updateStrip { checked with redLeds := high } else checked).pos = _
  rw [sameAlarma]
  split
  · change toInt 16 (checked.pos + 1) = _
    rw [samePos]
  · exact samePos

/-- The strip shows the gradient, as bytes. -/
theorem step_strip [Bounce Button] {mapa : MapaLeds Button}
    (isOn : mapa.alarma = true) (sample : Sample) :
    ((machine Button).step mapa sample).strip =
      (List.range pixelCount).map fun i =>
        ⟨0, 0, toByte (strength mapa.pos i)⟩ := by
  let checked := checkButtons (updateButtons sample { mapa with out := [] })
  obtain ⟨samePos, sameAlarma⟩ : checked.pos = mapa.pos ∧
      checked.alarma = mapa.alarma :=
    checkButtons_pos (updateButtons sample { mapa with out := [] })
  refine (checkIncoming_pos sample.serial _).2.trans ?_
  change (if checked.alarma = true then
    updateStrip { checked with redLeds := high } else checked).strip = _
  rw [if_pos (sameAlarma.trans isOn), ← samePos]
  rfl

/-- The gradient fits while the last of its ten pixels is at most ten steps away
from the start. -/
theorem graded_iff [Bounce Button] {mapa : MapaLeds Button} (sample : Sample)
    (least : 0 ≤ mapa.pos) (most : mapa.pos ≤ 2) :
    Graded mapa sample ↔ (mapa.alarma = true → mapa.pos ≤ 1) := by
  have size : pixelCount = 10 := rfl
  apply imp_congr_right
  intro isOn
  have sums : ∀ i < pixelCount, toInt 16 (i + mapa.pos) = i + mapa.pos :=
    fun i pixel => toInt_of_small (by omega) (by omega)
  have strengths : ∀ i < pixelCount,
      strength mapa.pos i = ((i + mapa.pos) * 254).tdiv 10 := by
    intro i pixel
    rw [strength, sums i pixel]
    simp [map, size]
  constructor
  · intro graded
    have last := (graded.1 9 (by decide)).1.2
    rw [strengths 9 (by decide), Int.tdiv_eq_ediv_of_nonneg (by omega)] at last
    omega
  · intro early
    have inRange : ∀ i < pixelCount,
        0 ≤ strength mapa.pos i ∧ strength mapa.pos i ≤ 254 := by
      intro i pixel
      rw [strengths i pixel, Int.tdiv_eq_ediv_of_nonneg (by omega)]
      omega
    refine ⟨fun i pixel => ⟨inRange i pixel, sums i pixel⟩, ?_⟩
    rw [step_strip isOn]
    refine List.map_congr_left fun i member => ?_
    have pixel := inRange i (List.mem_range.mp member)
    have byte : (toByte (strength mapa.pos i) : Int) = strength mapa.pos i := by
      unfold toByte
      omega
    rw [byte]

theorem alarms_cons [Bounce Button] (mapa : MapaLeds Button) (sample : Sample)
    (samples : List Sample) :
    alarms mapa (sample :: samples) =
      alarms ((machine Button).step mapa sample) samples +
        if mapa.alarma = true then 1 else 0 := by
  change List.count true (mapa.alarma :: _) = _
  rw [List.count_cons]
  cases mapa.alarma <;> rfl

/-- From the first positions on, as many iterations may have the alarm on as there
are steps left. -/
theorem along_graded [Bounce Button] {mapa : MapaLeds Button}
    (least : 0 ≤ mapa.pos) (most : mapa.pos ≤ 2) (samples : List Sample) :
    (machine Button).Along Graded mapa samples ↔
      mapa.pos + alarms mapa samples ≤ 2 := by
  induction samples generalizing mapa with
  | nil =>
      refine iff_of_true trivial ?_
      change mapa.pos + (0 : Nat) ≤ 2
      omega
  | cons sample samples ih =>
      let next := (machine Button).step mapa sample
      have here := graded_iff sample least most
      have moved : next.pos = _ := step_pos mapa sample
      have rest : 0 ≤ next.pos → next.pos ≤ 2 →
          ((machine Button).Along Graded next samples ↔
            next.pos + alarms next samples ≤ 2) := ih
      have counted : alarms mapa (sample :: samples) = alarms next samples + _ :=
        alarms_cons mapa sample samples
      change Graded mapa sample ∧ (machine Button).Along Graded next samples ↔ _
      rw [here, counted]
      cases isOn : mapa.alarma with
      | false =>
          rw [isOn, if_neg Bool.false_ne_true] at moved
          have later := rest (by omega) (by omega)
          rw [moved] at later
          rw [later, if_neg Bool.false_ne_true]
          exact and_iff_right fun isOn => absurd isOn Bool.false_ne_true
      | true =>
          rw [isOn, if_pos rfl,
            toInt_of_small (by omega) (by omega)] at moved
          rw [if_pos rfl]
          by_cases early : mapa.pos ≤ 1
          · rw [rest (by omega) (by omega), moved]
            constructor
            · rintro ⟨_, few⟩
              omega
            · exact fun few => ⟨fun _ => early, by omega⟩
          · constructor
            · rintro ⟨graded, _⟩
              exact absurd (graded rfl) early
            · intro few
              omega

/-- The gradient stays in its range exactly in the runs in which at most two
iterations have the alarm on. -/
theorem gradient_in_range (Button : Type) [Bounce Button] (first : Sample)
    (samples : List Sample) :
    (machine Button).Along Graded (setup first) samples ↔
      alarms (setup first : MapaLeds Button) samples ≤ 2 := by
  have start : (setup first : MapaLeds Button).pos = 0 := rfl
  rw [along_graded (by omega) (by omega), start]
  omega

/-- A poll of the link, without a button pressed. -/
def poll (serial : Text) : Sample where
  millis := 0
  button _ := high
  serial := serial

/-- The alarm is on from the iteration after its command was framed, and the third
one leaves the range. -/
theorem gradient_out_of_range :
    ¬ (machine StableButton).Along Graded (setup (poll []))
      (poll "alarma".toList :: List.replicate 28 (poll [])) := by
  have split : poll "alarma".toList :: List.replicate 28 (poll []) =
      (poll "alarma".toList :: List.replicate 27 (poll [])) ++ [poll []] := rfl
  rw [split, MealyMachine.along_append]
  rintro ⟨_, graded, _⟩
  have last := ((graded (by decide +kernel)).1 9 (by decide)).1.2
  revert last
  decide +kernel

end MapaLeds

end Salsipuedes

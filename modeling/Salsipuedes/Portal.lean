import Salsipuedes.WifiNode

/-!
# The portal

The `portal` sketch animates a ring of LEDs: a turning wheel, a red and a cold
flow, and a red pulse which lasts for a number of iterations.  A pulse is stopped
by the iteration whose decrement reaches zero, so every request which clears
`tiempoPulso` without clearing `pulso` starts one that does not end.
-/

namespace Salsipuedes

open Maquina (CRGB)

namespace Portal

/-- The values of `fase`. -/
inductive Fase where
  | off
  | start
  | red
  | cold
  | apagando
  deriving DecidableEq

def pixelsInCircle : Nat := 61
def deg : Nat := 360 / pixelsInCircle
def totalPulso : Int := 1000

/-- The ring, which the two sketches of the portal animate alike. -/
structure Anillo where
  pos : Int
  strip : List CRGB
  deriving DecidableEq

end Portal

open Portal in
structure Portal extends Anillo where
  state : Nat
  fase : Fase
  pulso : Bool
  tiempoPulso : Int
  intensidadPulso : Int
  out : List NodeEvent
  deriving DecidableEq

namespace Portal

inductive Route where
  | root
  | test
  | reset
  | manual
  | on
  | off
  | shutdown
  | red
  | cold
  | pulso
  deriving DecidableEq

def info : NodeInfo where
  description := "detecta iman\n\n"
  controllerId := "hab13portal"
  methods := "/test /reset /manual /on /off /shutdown /red /cold /pulso \n\n"
  pcRemotePort := 1307
  localPort := 1307

def emit (event : NodeEvent) (portal : Portal) : Portal :=
  { portal with out := portal.out ++ [event] }

/-- Every pixel of the ring is set to its color. -/
def Anillo.setPixels (color : Nat → CRGB) (anillo : Anillo) : Anillo :=
  { anillo with strip := (List.range pixelsInCircle).map color }

def setPixels (color : Nat → CRGB) (portal : Portal) : Portal :=
  { portal with toAnillo := portal.toAnillo.setPixels color }

def showStrip (portal : Portal) : Portal :=
  portal.emit (.show portal.strip 255)

/-- `strip.Color`, whose parameters are bytes. -/
def stripColor (r g b : Int) : CRGB :=
  ⟨toByte r, toByte g, toByte b⟩

/-! ## Handlers -/

def handleReset (portal : Portal) : Portal :=
  let portal := portal.emit (.send 200 "reset")
  let portal := portal.emit (.println "reset")
  let portal := { portal with pos := 0, state := 0, fase := .off }
  (portal.setPixels fun _ => CRGB.black).showStrip

def handleManual (portal : Portal) : Portal :=
  { portal with state := 1 }.emit (.send 200 "manual")

def handleOn (portal : Portal) : Portal :=
  { portal with state := 1, fase := .start }.emit (.send 200 "on")

def handleOff (portal : Portal) : Portal :=
  let portal := { portal with state := 0, fase := .off, tiempoPulso := 0 }
  let portal := portal.setPixels fun _ => CRGB.black
  portal.showStrip.emit (.send 200 "off")

def handleShutDown (portal : Portal) : Portal :=
  { portal with state := 1, fase := .apagando, tiempoPulso := 0 }.emit
    (.send 200 "shutdown")

def handleRed (portal : Portal) : Portal :=
  { portal with state := 1, fase := .red }.emit (.send 200 "red")

def handleCold (portal : Portal) : Portal :=
  { portal with state := 1, fase := .cold }.emit (.send 200 "cold")

def handlePulso (portal : Portal) : Portal :=
  { portal with
    state := 1
    pulso := true
    fase := .off
    tiempoPulso := totalPulso }.emit (.send 200 "pulso")

def handle (route : Route) (_ : Unit) (portal : Portal) : Portal :=
  match route with
  | .root => { portal with out := portal.out ++ info.root }
  | .test => { portal with out := portal.out ++ info.test }
  | .reset => handleReset portal
  | .manual => handleManual portal
  | .on => handleOn portal
  | .off => handleOff portal
  | .shutdown => handleShutDown portal
  | .red => handleRed portal
  | .cold => handleCold portal
  | .pulso => handlePulso portal

/-! ## Animations -/

/-- A transition between red and two of its neighbors, with a fifth of the
position as the second color. -/
def redFlow (wheelPos : Nat) : CRGB :=
  if wheelPos < 180 then stripColor 255 0 (wheelPos / 5 : Nat)
  else stripColor 255 ((wheelPos - 180) / 5 : Nat) 0

/-- The place whose color a pixel shows while the animations are at a position. -/
def place (pos : Int) (i : Nat) : Int :=
  i + pos

def Anillo.updateRedFlow (anillo : Anillo) : Anillo :=
  let pos := anillo.pos
  let anillo := anillo.setPixels fun i => redFlow (toByte (place pos i))
  { anillo with pos := toInt 32 (anillo.pos + 1 % pixelsInCircle) }

def redWheel (wheelPos : Nat) : CRGB :=
  let realPosition : Int := (wheelPos * deg : Nat)
  if realPosition < 90 then
    stripColor 255 0 (map realPosition 0 90 0 40)
  else if realPosition < 180 then
    stripColor 255 0 (map realPosition 90 180 40 0)
  else if realPosition < 270 then
    stripColor 255 (map realPosition 180 270 0 40) 0
  else
    stripColor 255 (map realPosition 270 359 40 0) 0

def Anillo.updateRedWheel (anillo : Anillo) : Anillo :=
  let pos := anillo.pos
  let anillo := anillo.setPixels fun i =>
    redWheel (toByte ((place pos i).tmod pixelsInCircle))
  { anillo with pos := (toInt 32 (anillo.pos + 1)).tmod pixelsInCircle }

/-- A product with 1.5 is three halves, without the fraction. -/
def coldFlow (wheelPos : Nat) : CRGB :=
  let newColor := map (wheelPos * deg : Nat) 0 360 0 255
  if wheelPos < 180 then stripColor 0 ((newColor * 3).tdiv 2) 255
  else stripColor ((510 - newColor * 3).tdiv 2) 0 255

def Anillo.updateColdFlow (anillo : Anillo) : Anillo :=
  let pos := anillo.pos
  let anillo := anillo.setPixels fun i => coldFlow (toByte (place pos i))
  { anillo with pos := toInt 32 (anillo.pos + 1 % pixelsInCircle) }

def updateRedWheel (portal : Portal) : Portal :=
  { portal with toAnillo := portal.toAnillo.updateRedWheel }

def updateRedFlow (portal : Portal) : Portal :=
  { portal with toAnillo := portal.toAnillo.updateRedFlow }

def updateColdFlow (portal : Portal) : Portal :=
  { portal with toAnillo := portal.toAnillo.updateColdFlow }

/-- The intensity of the pulse after an iteration, kept between 30 and 255. -/
def curvaPulso (tiempoPulso intensidadPulso : Int) : Int :=
  let curva := tiempoPulso.tmod 150
  let intensidadPulso :=
    if curva > 75 then intensidadPulso - 3
    else if curva < 75 then intensidadPulso + 3
    else intensidadPulso
  if intensidadPulso < 30 then 30
  else if intensidadPulso > 255 then 255
  else intensidadPulso

def updatePulso (portal : Portal) : Portal :=
  let portal :=
    { portal with
      intensidadPulso := curvaPulso portal.tiempoPulso portal.intensidadPulso
      tiempoPulso := toInt 32 (portal.tiempoPulso - 1) }
  let portal :=
    if portal.tiempoPulso = 0 then
      { portal with pulso := false, intensidadPulso := 255 }
    else
      portal
  let intensidad := portal.intensidadPulso
  let portal := portal.emit (.println (toString intensidad ++ ".00"))
  portal.setPixels fun _ => stripColor intensidad 0 15

/-! ## Loop -/

inductive Animacion where
  | redWheel
  | redFlow
  | coldFlow
  | pulso
  deriving DecidableEq

/-- The animation which an iteration runs. -/
def animacion (state : Nat) (fase : Fase) (pulso : Bool) : Option Animacion :=
  if state = 1 then
    if fase = .start then some .redWheel
    else if fase = .red then some .redFlow
    else if fase = .cold then some .coldFlow
    else if pulso = true then some .pulso
    else none
  else
    none

def shown (portal : Portal) : Option Animacion :=
  animacion portal.state portal.fase portal.pulso

def update : Animacion → Portal → Portal
  | .redWheel => updateRedWheel
  | .redFlow => updateRedFlow
  | .coldFlow => updateColdFlow
  | .pulso => updatePulso

/-- The body of `loop`. -/
def loop (_ : Unit) (portal : Portal) : Portal :=
  let portal :=
    match portal.shown with
    | some animacion => update animacion portal
    | none => portal
  portal.showStrip

def setup : Portal where
  state := 0
  fase := .off
  pulso := false
  pos := 0
  tiempoPulso := 0
  intensidadPulso := 255
  strip := (List.range pixelsInCircle).map fun _ => CRGB.black
  out := [.show ((List.range pixelsInCircle).map fun _ => CRGB.black) 255]

def node : WifiNode Portal Route Unit where
  setup := setup
  handle := handle
  loop := loop
  out := Portal.out
  silence portal := { portal with out := [] }

/-! ## Pulses -/

/-- The globals which say whether a pulse is running. -/
structure Control where
  state : Nat
  fase : Fase
  pulso : Bool
  tiempoPulso : Int

def control (portal : Portal) : Control :=
  ⟨portal.state, portal.fase, portal.pulso, portal.tiempoPulso⟩

/-- The next iteration calls `updatePulso`. -/
def Control.CallsPulso (control : Control) : Prop :=
  animacion control.state control.fase control.pulso = some .pulso

instance (control : Control) : Decidable control.CallsPulso :=
  inferInstanceAs (Decidable (_ = _))

theorem Control.callsPulso_iff {control : Control} :
    control.CallsPulso ↔
      control.state = 1 ∧ control.fase ≠ .start ∧ control.fase ≠ .red ∧
        control.fase ≠ .cold ∧ control.pulso = true := by
  unfold CallsPulso animacion
  repeat' split
  all_goals simp_all

/-- What the requests make of these globals. -/
def Control.handle (control : Control) : Route → Control
  | .root | .test => control
  | .reset => { control with state := 0, fase := .off }
  | .manual => { control with state := 1 }
  | .on => { control with state := 1, fase := .start }
  | .off => { control with state := 0, fase := .off, tiempoPulso := 0 }
  | .shutdown =>
      { control with state := 1, fase := .apagando, tiempoPulso := 0 }
  | .red => { control with state := 1, fase := .red }
  | .cold => { control with state := 1, fase := .cold }
  | .pulso =>
      { state := 1, fase := .off, pulso := true, tiempoPulso := totalPulso }

/-- What `updatePulso` makes of them. -/
def Control.updatePulso (control : Control) : Control :=
  { control with
    tiempoPulso := toInt 32 (control.tiempoPulso - 1)
    pulso :=
      if toInt 32 (control.tiempoPulso - 1) = 0 then false
      else control.pulso }

theorem Control.CallsPulso.running {control : Control}
    (calls : control.CallsPulso) : control.pulso = true :=
  (callsPulso_iff.mp calls).2.2.2.2

theorem handle_control (route : Route) (portal : Portal) :
    (handle route () portal).control = portal.control.handle route := by
  cases route <;> rfl

theorem updatePulso_control (portal : Portal) :
    portal.updatePulso.control = portal.control.updatePulso := by
  by_cases last : toInt 32 (portal.tiempoPulso - 1) = 0
  · simp [updatePulso, Control.updatePulso, last, control, setPixels, emit]
  · simp [updatePulso, Control.updatePulso, last, control, setPixels, emit]

theorem loop_control (portal : Portal) :
    (loop () portal).control =
      if portal.control.CallsPulso then portal.control.updatePulso
      else portal.control := by
  have dispatched : portal.control.CallsPulso ↔ portal.shown = some .pulso :=
    Iff.rfl
  cases animation : portal.shown with
  | none =>
      rw [if_neg (by simp [dispatched, animation]), loop, animation]
      rfl
  | some animacion =>
      rw [loop, animation]
      cases animacion with
      | redWheel | redFlow | coldFlow =>
          rw [if_neg (by simp [dispatched, animation])]
          rfl
      | pulso =>
          rw [if_pos (dispatched.mpr animation), ← updatePulso_control]
          rfl

/-- What an observer notes about the pulses: how often `updatePulso` was called
since the last `/pulso`, whether an `/off`, a `/shutdown` or a `/reset` came after
it, and whether a `/manual` has woken an interrupted pulse. -/
structure Pulsos where
  calls : Int
  stopped : Bool
  woken : Bool
  deriving DecidableEq

def Control.watch (control : Control) (turno : Turno Route Unit)
    (pulsos : Pulsos) : Pulsos :=
  match turno with
  | .request .pulso _ => ⟨0, false, false⟩
  | .request .off _ | .request .shutdown _ | .request .reset _ =>
      { pulsos with stopped := true, woken := false }
  | .request .on _ | .request .red _ | .request .cold _ =>
      { pulsos with woken := false }
  | .request .manual _ =>
      if control.state = 0 ∧ control.pulso = true then
        { pulsos with woken := true }
      else
        pulsos
  | .request .root _ | .request .test _ => pulsos
  | .iterate _ =>
      if control.CallsPulso then { pulsos with calls := pulsos.calls + 1 }
      else pulsos

def watch (portal : Portal) : Turno Route Unit → Pulsos → Pulsos :=
  portal.control.watch

/-- A running pulse has time left, and no more calls than its time allows. -/
def Timed (control : Control) (pulsos : Pulsos) : Prop :=
  (control.pulso = true →
      1 ≤ control.tiempoPulso ∧ control.tiempoPulso ≤ totalPulso) ∧
    pulsos.calls ≤ totalPulso

/-- After a turn pulses are still timed, and it has not called `updatePulso`
after the pulse was stopped. -/
def EndsPulses (pair : Portal × Pulsos) (turno : Turno Route Unit) : Prop :=
  let next := (node.machine.observe watch).step pair turno
  Timed next.1.control next.2 ∧
    (match turno with
    | .iterate _ => pair.1.control.CallsPulso → pair.2.stopped = false
    | .request _ _ => True)

/-- No `/off` and no `/shutdown` while a pulse is running, and no iteration after
a `/manual` has woken a pulse which `/reset` had stopped. -/
def LeavesPulse (pair : Portal × Pulsos) : Turno Route Unit → Prop
  | .request .off _ | .request .shutdown _ => pair.1.pulso = false
  | .request _ _ => True
  | .iterate _ => pair.2.woken = false

/-- The invariant of the pulses: time and calls of a running pulse add up, an
iteration which would call `updatePulso` after the pulse was stopped has been woken
by `/manual`, and only such an iteration has. -/
structure Steady (control : Control) (pulsos : Pulsos) : Prop where
  binary : control.state = 0 ∨ control.state = 1
  timed : control.pulso = true →
    1 ≤ control.tiempoPulso ∧ pulsos.calls + control.tiempoPulso = totalPulso
  counted : 0 ≤ pulsos.calls ∧ pulsos.calls ≤ totalPulso
  wakes : control.CallsPulso → pulsos.stopped = true → pulsos.woken = true
  resting : control.state = 0 →
    control.fase = .off ∧ (control.pulso = true → pulsos.stopped = true)
  woken : pulsos.woken = true → pulsos.stopped = true ∧ control.CallsPulso

theorem Steady.isTimed {control : Control} {pulsos : Pulsos}
    (steady : Steady control pulsos) : Timed control pulsos := by
  constructor
  · intro running
    have := steady.timed running
    have := steady.counted
    omega
  · exact steady.counted.2

section Requests

variable {control : Control} {pulsos : Pulsos}

/-- A request for another animation hides a running pulse. -/
theorem Steady.hide (steady : Steady control pulsos) {fase : Fase}
    (other : fase = .start ∨ fase = .red ∨ fase = .cold) :
    Steady { control with state := 1, fase := fase }
      { pulsos with woken := false } := by
  constructor
  · exact .inr rfl
  · exact steady.timed
  · exact steady.counted
  · intro calls
    obtain ⟨_, noStart, noRed, noCold, _⟩ := Control.callsPulso_iff.mp calls
    rcases other with start | red | cold
    · exact absurd start noStart
    · exact absurd red noRed
    · exact absurd cold noCold
  · intro off
    cases off
  · intro isWoken
    cases isWoken

/-- Without a running pulse a request can clear its time. -/
theorem Steady.clear (steady : Steady control pulsos)
    (still : control.pulso = false) {state : Nat} {fase : Fase}
    (binary : state = 0 ∨ state = 1) (resting : state = 0 → fase = .off) :
    Steady { control with state := state, fase := fase, tiempoPulso := 0 }
      { pulsos with stopped := true, woken := false } := by
  constructor
  · exact binary
  · intro running
    exact absurd (still.symm.trans running) Bool.false_ne_true
  · exact steady.counted
  · intro calls
    exact absurd (still.symm.trans calls.running) Bool.false_ne_true
  · exact fun off => ⟨resting off, fun _ => rfl⟩
  · intro isWoken
    cases isWoken

theorem Steady.manual (steady : Steady control pulsos) :
    Steady { control with state := 1 }
      (control.watch (.request .manual ()) pulsos) := by
  by_cases wakesUp : control.state = 0 ∧ control.pulso = true
  · have watched : control.watch (.request .manual ()) pulsos =
        { pulsos with woken := true } := if_pos wakesUp
    obtain ⟨fase, stopped⟩ := steady.resting wakesUp.1
    rw [watched]
    constructor
    · exact .inr rfl
    · exact steady.timed
    · exact steady.counted
    · exact fun _ _ => rfl
    · intro off
      cases off
    · intro _
      refine ⟨stopped wakesUp.2, Control.callsPulso_iff.mpr ?_⟩
      exact ⟨rfl, by simp [fase], by simp [fase], by simp [fase], wakesUp.2⟩
  · have watched : control.watch (.request .manual ()) pulsos = pulsos :=
      if_neg wakesUp
    rw [watched]
    constructor
    · exact .inr rfl
    · exact steady.timed
    · exact steady.counted
    · intro calls stopped
      rcases steady.binary with off | isOn
      · exact absurd ⟨off, calls.running⟩ wakesUp
      · rw [Control.callsPulso_iff] at calls
        have same := Control.callsPulso_iff.mpr ⟨isOn, calls.2⟩
        exact steady.wakes same stopped
    · intro off
      cases off
    · intro isWoken
      obtain ⟨stopped, calls⟩ := steady.woken isWoken
      rw [Control.callsPulso_iff] at calls
      exact ⟨stopped, Control.callsPulso_iff.mpr ⟨rfl, calls.2⟩⟩

theorem Steady.reset (steady : Steady control pulsos) :
    Steady { control with state := 0, fase := .off }
      { pulsos with stopped := true, woken := false } := by
  constructor
  · exact .inl rfl
  · exact steady.timed
  · exact steady.counted
  · intro calls
    cases (Control.callsPulso_iff.mp calls).1
  · exact fun _ => ⟨rfl, fun _ => rfl⟩
  · intro isWoken
    cases isWoken

theorem steady_pulso :
    Steady ⟨1, .off, true, totalPulso⟩ ⟨0, false, false⟩ := by
  constructor
  · exact .inr rfl
  · exact fun _ => by decide
  · decide
  · exact fun _ stopped => stopped
  · intro off
    cases off
  · intro isWoken
    cases isWoken

/-- A request which does not cut a running pulse short keeps the invariant. -/
theorem Steady.request (steady : Steady control pulsos) {route : Route}
    (leaves : route = .off ∨ route = .shutdown → control.pulso = false) :
    Steady (control.handle route)
      (control.watch (.request route ()) pulsos) := by
  cases route with
  | root => exact steady
  | test => exact steady
  | reset => exact steady.reset
  | manual => exact steady.manual
  | on => exact steady.hide (.inl rfl)
  | off => exact steady.clear (leaves (.inl rfl)) (.inl rfl) fun _ => rfl
  | shutdown =>
      exact steady.clear (leaves (.inr rfl)) (.inr rfl) fun off => by cases off
  | red => exact steady.hide (.inr (.inl rfl))
  | cold => exact steady.hide (.inr (.inr rfl))
  | pulso => exact steady_pulso

/-- So does a call of `updatePulso` before the pulse was stopped. -/
theorem Steady.update (steady : Steady control pulsos)
    (calls : control.CallsPulso) (going : pulsos.stopped = false) :
    Steady control.updatePulso { pulsos with calls := pulsos.calls + 1 } := by
  obtain ⟨isOn, -⟩ := Control.callsPulso_iff.mp calls
  obtain ⟨left, spent⟩ := steady.timed calls.running
  have counted := steady.counted
  have total : totalPulso = 1000 := rfl
  have next : toInt 32 (control.tiempoPulso - 1) = control.tiempoPulso - 1 :=
    toInt_of_small (by omega) (by omega)
  constructor
  · exact steady.binary
  · intro goesOn
    simp only [Control.updatePulso, next] at goesOn ⊢
    split at goesOn
    · cases goesOn
    · omega
  · simp only
    omega
  · intro _ stopped
    exact absurd (going.symm.trans stopped) Bool.false_ne_true
  · intro off
    have isOff : control.state = 0 := off
    omega
  · intro isWoken
    obtain ⟨stopped, _⟩ := steady.woken isWoken
    exact absurd (going.symm.trans stopped) Bool.false_ne_true

end Requests

theorem step_control (portal : Portal) (turno : Turno Route Unit) :
    (node.machine.step portal turno).control =
      match turno with
      | .request route _ => portal.control.handle route
      | .iterate _ =>
          if portal.control.CallsPulso then portal.control.updatePulso
          else portal.control := by
  cases turno with
  | request route sample => exact handle_control route _
  | iterate sample => exact loop_control _

/-- An iteration which calls `updatePulso` without having been woken comes before
the pulse was stopped. -/
theorem Steady.going {control : Control} {pulsos : Pulsos}
    (steady : Steady control pulsos) (asleep : pulsos.woken = false)
    (calls : control.CallsPulso) : pulsos.stopped = false := by
  cases stopped : pulsos.stopped with
  | false => rfl
  | true =>
      have isWoken := steady.wakes calls stopped
      exact absurd (asleep.symm.trans isWoken) Bool.false_ne_true

theorem steady_step (pair : Portal × Pulsos) (turno : Turno Route Unit)
    (leaves : LeavesPulse pair turno) (steady : Steady pair.1.control pair.2) :
    Steady ((node.machine.observe watch).step pair turno).1.control
      ((node.machine.observe watch).step pair turno).2 := by
  rw [MealyMachine.observe_step, step_control]
  cases turno with
  | request route sample =>
      apply steady.request
      rintro (rfl | rfl)
      · exact leaves
      · exact leaves
  | iterate sample =>
      by_cases calls : pair.1.control.CallsPulso
      · have watched : watch pair.1 (.iterate sample) pair.2 =
            { pair.2 with calls := pair.2.calls + 1 } := if_pos calls
        rw [watched]
        simp only [if_pos calls]
        exact steady.update calls (steady.going leaves calls)
      · have watched : watch pair.1 (.iterate sample) pair.2 = pair.2 :=
          if_neg calls
        rw [watched]
        simp only [if_neg calls]
        exact steady

/-- A cleared time of a running pulse is not timed. -/
theorem Timed.still {control : Control} {pulsos : Pulsos}
    (timed : Timed control pulsos) (cleared : control.tiempoPulso = 0) :
    control.pulso = false := by
  cases running : control.pulso with
  | false => rfl
  | true =>
      have := timed.1 running
      omega

theorem endsPulses_iff (pair : Portal × Pulsos) (turno : Turno Route Unit)
    (steady : Steady pair.1.control pair.2) :
    EndsPulses pair turno ↔ LeavesPulse pair turno := by
  constructor
  · rintro ⟨timed, going⟩
    cases turno with
    | request route sample =>
        cases route with
        | off => exact timed.still rfl
        | shutdown => exact timed.still rfl
        | root => trivial
        | test => trivial
        | reset => trivial
        | manual => trivial
        | on => trivial
        | red => trivial
        | cold => trivial
        | pulso => trivial
    | iterate sample =>
        cases isWoken : pair.2.woken with
        | false => exact isWoken
        | true =>
            obtain ⟨stopped, calls⟩ := steady.woken isWoken
            exact absurd ((going calls).symm.trans stopped) Bool.false_ne_true
  · intro leaves
    refine ⟨(steady_step pair turno leaves steady).isTimed, ?_⟩
    cases turno with
    | request route sample => trivial
    | iterate sample => exact steady.going leaves

/-- Along a run every pulse ends in time, and no `updatePulso` comes after it was
stopped, exactly when no turn cuts a running pulse short. -/
theorem pulses_end (turnos : List (Turno Route Unit)) :
    (node.machine.observe watch).Along EndsPulses
        (node.setup, ⟨0, false, false⟩) turnos ↔
      (node.machine.observe watch).Along LeavesPulse
        (node.setup, ⟨0, false, false⟩) turnos := by
  have initially : Steady node.setup.control ⟨0, false, false⟩ := by
    constructor
    · exact .inl rfl
    · intro running
      cases running
    · decide
    · intro _ stopped
      cases stopped
    · exact fun _ => ⟨rfl, fun running => by cases running⟩
    · intro isWoken
      cases isWoken
  exact (node.machine.observe watch).along_iff_of_invariant endsPulses_iff
    steady_step initially turnos

/-- A shutdown clears the time of a pulse which goes on. -/
theorem pulses_do_not_end :
    ¬ (node.machine.observe watch).Along EndsPulses
      (node.setup, ⟨0, false, false⟩)
      [.request .pulso (), .iterate (), .request .shutdown (),
        .iterate ()] := by
  intro along
  have still := along.2.2.1.1.still rfl
  cases still

end Portal

end Salsipuedes

import Salsipuedes.WifiNode

/-!
# The bedside lamp

The `velador` sketch switches a lamp on and off: for some iterations after a
request the lamp flickers and the buzzer sounds, and then it takes over `isOn`.
-/

namespace Salsipuedes

open Maquina (CRGB)

structure Velador where
  leds : List CRGB
  buzzCounter : Int
  isOn : Bool
  bri : Int
  out : List NodeEvent
  deriving DecidableEq

namespace Velador

def numLeds : Nat := 10
def tiempoBuzz : Int := 75

/-- A turn uses at most one draw for its counter and one for its flicker. -/
structure Sample where
  counter : Nat
  lum : Nat

inductive Route where
  | root
  | test
  | reset
  | manual
  | buzz
  | on
  | off
  deriving DecidableEq

def info : NodeInfo where
  description := " luz de velador /buzz  /on /off  \n\n"
  controllerId := "hab13velador"
  methods := "/test /reset /manual  \n\n"
  pcRemotePort := 1307
  localPort := 1309

def emit (event : NodeEvent) (velador : Velador) : Velador :=
  { velador with out := velador.out ++ [event] }

/-- Every LED at the brightness `bri`. -/
def paint (velador : Velador) : Velador :=
  let bri := toByte velador.bri
  { velador with leds := List.replicate numLeds ⟨bri, bri, bri⟩ }

/-! ## Handlers -/

def handleOn (sample : Sample) (velador : Velador) : Velador :=
  let velador := { velador with isOn := true }.emit (.send 200 "veladorOn")
  { velador with
    buzzCounter := random (tiempoBuzz / 2) (tiempoBuzz * 2) sample.counter }

def handleOff (sample : Sample) (velador : Velador) : Velador :=
  let velador := { velador with isOn := false }.emit (.send 200 "veladorOff")
  { velador with
    buzzCounter := random (tiempoBuzz / 4) tiempoBuzz sample.counter }

/-- Its `bri` is a local variable, which shadows the global one. -/
def handleReset (sample : Sample) (velador : Velador) : Velador :=
  let velador := velador.emit (.send 200 "reset")
  let velador := velador.emit (.println "reset")
  (handleOn sample { velador with buzzCounter := 0 }).emit .noTone

def handleManual (sample : Sample) (velador : Velador) : Velador :=
  handleOn sample (velador.emit (.send 200 "buzz manual"))

def handleBuzz (sample : Sample) (velador : Velador) : Velador :=
  let velador := velador.emit (.send 200 "buzz velero")
  let buzzCounter := random tiempoBuzz (tiempoBuzz * 2) sample.counter
  let velador := { velador with buzzCounter := buzzCounter }
  let velador := velador.emit (.print "buzz ")
  let velador := velador.emit (.print (toString buzzCounter))
  velador.emit (.send 200 "buzz")

def handle (route : Route) (sample : Sample) (velador : Velador) : Velador :=
  match route with
  | .root => { velador with out := velador.out ++ info.root }
  | .test => { velador with out := velador.out ++ info.test }
  | .reset => handleReset sample velador
  | .manual => handleManual sample velador
  | .buzz => handleBuzz sample velador
  | .on => handleOn sample velador
  | .off => handleOff sample velador

/-! ## Loop -/

def updateBuzz (sample : Sample) (velador : Velador) : Velador :=
  let lum := random 0 (Nat.sqrt 255) sample.lum
  let velador := { velador with bri := lum * lum }.paint
  if velador.bri > 30 then velador.emit (.tone 70 none)
  else velador.emit .noTone

/-- The end of a flicker: the lamp is lit or dark. -/
def settle (velador : Velador) : Velador :=
  let velador :=
    { velador with
      buzzCounter := velador.buzzCounter - 1
      bri := if velador.isOn = true then 255 else 0 }
  velador.paint.emit .noTone

/-- The body of `loop`. -/
def loop (sample : Sample) (velador : Velador) : Velador :=
  let velador :=
    if velador.buzzCounter > 1 then
      let buzzCounter := velador.buzzCounter - 1
      (updateBuzz sample { velador with buzzCounter := buzzCounter }).emit
        (.print (toString buzzCounter))
    else if velador.buzzCounter = 1 then
      velador.settle
    else
      velador
  velador.emit (.show velador.leds 255)

def setup : Velador where
  leds := List.replicate numLeds CRGB.black
  buzzCounter := 0
  isOn := true
  bri := 255
  out := []

def node : WifiNode Velador Route Sample where
  setup := setup
  handle := handle
  loop := loop
  out := Velador.out
  silence velador := { velador with out := [] }

/-! ## The lamp settles -/

/-- The buzzer after an effect: a `tone` without a duration sounds until the next
`noTone`. -/
def buzzer (sounds : Bool) : NodeEvent → Bool
  | .tone _ _ => true
  | .noTone => false
  | _ => sounds

/-- The buzzer sounds at the end of a history. -/
def Sounds (history : List NodeEvent) : Bool :=
  history.foldl buzzer false

/-- A request which starts a flicker. -/
def Commands : Turno Route Sample → Prop
  | .request .on _ | .request .off _ | .request .buzz _ | .request .reset _ |
      .request .manual _ => True
  | _ => False

/-- Every LED of the lamp is as `isOn` says, and the buzzer is silent. -/
def Settled (history : List NodeEvent) (velador : Velador) : Prop :=
  velador.leds = List.replicate numLeds
      (if velador.isOn = true then ⟨255, 255, 255⟩ else CRGB.black) ∧
    Sounds history = false

/-- The lamp is settled, or it flickers and is going to be settled. -/
def Settling (history : List NodeEvent) (velador : Velador) : Prop :=
  0 ≤ velador.buzzCounter ∧
    (velador.buzzCounter = 0 → Settled history velador)

theorem sounds_append (first second : List NodeEvent) :
    Sounds (first ++ second) = second.foldl buzzer (Sounds first) :=
  List.foldl_append

/-- Every request which starts a flicker starts a long one. -/
theorem command_buzzCounter (velador : Velador) {turno : Turno Route Sample}
    (commands : Commands turno) :
    1 < (node.machine.step velador turno).buzzCounter := by
  cases turno with
  | iterate sample => exact commands.elim
  | request route sample =>
      have long : ∀ first last : Int, 1 < first →
          1 < random first last sample.counter := fun first last long =>
        lt_of_lt_of_le long (random_lower sample.counter)
      cases route with
      | root => exact commands.elim
      | test => exact commands.elim
      | reset => exact long (tiempoBuzz / 2) (tiempoBuzz * 2) (by decide)
      | manual => exact long (tiempoBuzz / 2) (tiempoBuzz * 2) (by decide)
      | buzz => exact long tiempoBuzz (tiempoBuzz * 2) (by decide)
      | on => exact long (tiempoBuzz / 2) (tiempoBuzz * 2) (by decide)
      | off => exact long (tiempoBuzz / 4) tiempoBuzz (by decide)

section Iterations

variable {velador : Velador}

theorem updateBuzz_buzzCounter (sample : Sample) (velador : Velador) :
    (velador.updateBuzz sample).buzzCounter = velador.buzzCounter := by
  unfold updateBuzz
  dsimp only
  split <;> rfl

theorem step_flicker (sample : Sample) (flickers : 1 < velador.buzzCounter) :
    node.machine.step velador (.iterate sample) =
      let buzzCounter := velador.buzzCounter - 1
      let flickered := (updateBuzz sample
        { velador with buzzCounter := buzzCounter, out := [] }).emit
          (.print (toString buzzCounter))
      flickered.emit (.show flickered.leds 255) := by
  change loop sample { velador with out := [] } = _
  rw [loop, if_pos flickers]

theorem step_settle (sample : Sample) (last : velador.buzzCounter = 1) :
    node.machine.step velador (.iterate sample) =
      let settled := settle { velador with out := [] }
      settled.emit (.show settled.leds 255) := by
  change loop sample { velador with out := [] } = _
  rw [loop, if_neg (by simp [last]), if_pos last]

theorem step_rest (sample : Sample) (rests : velador.buzzCounter = 0) :
    node.machine.step velador (.iterate sample) =
      { velador with out := [.show velador.leds 255] } := by
  change loop sample { velador with out := [] } = _
  rw [loop, if_neg (by simp [rests]), if_neg (by simp [rests])]
  rfl

/-- An iteration counts down. -/
theorem step_buzzCounter (sample : Sample) (counts : 0 ≤ velador.buzzCounter) :
    (node.machine.step velador (.iterate sample)).buzzCounter =
      max (velador.buzzCounter - 1) 0 := by
  rcases (by omega : 1 < velador.buzzCounter ∨ velador.buzzCounter = 1 ∨
    velador.buzzCounter = 0) with flickers | last | rests
  · rw [step_flicker sample flickers]
    refine (updateBuzz_buzzCounter sample _).trans ?_
    change velador.buzzCounter - 1 = _
    omega
  · rw [step_settle sample last]
    change velador.buzzCounter - 1 = _
    omega
  · rw [step_rest sample rests]
    change velador.buzzCounter = _
    omega

/-- The iteration which ends a flicker settles the lamp. -/
theorem settled_settle (history : List NodeEvent) (sample : Sample)
    (last : velador.buzzCounter = 1) :
    Settled (history ++ node.machine.emit velador (.iterate sample))
      (node.machine.step velador (.iterate sample)) := by
  have sent : node.machine.emit velador (.iterate sample) =
      (node.machine.step velador (.iterate sample)).out := rfl
  rw [Settled, sent, step_settle sample last, sounds_append]
  refine ⟨?_, rfl⟩
  cases velador.isOn with
  | true => simp [settle, paint, emit, toByte]
  | false => simp [settle, paint, emit, toByte, CRGB.black]

/-- After a flicker an iteration changes neither the lamp nor the buzzer. -/
theorem settled_rest {history : List NodeEvent} (sample : Sample)
    (rests : velador.buzzCounter = 0) (settled : Settled history velador) :
    Settled (history ++ node.machine.emit velador (.iterate sample))
      (node.machine.step velador (.iterate sample)) := by
  have sent : node.machine.emit velador (.iterate sample) =
      (node.machine.step velador (.iterate sample)).out := rfl
  rw [Settled, sent, step_rest sample rests, sounds_append]
  exact settled

end Iterations

/-- Every turn of a lamp which is settling keeps it so. -/
theorem settling_step (history : List NodeEvent) (velador : Velador)
    (turno : Turno Route Sample) (settling : Settling history velador) :
    Settling (history ++ node.machine.emit velador turno)
      (node.machine.step velador turno) := by
  obtain ⟨counts, settled⟩ := settling
  have started : Commands turno →
      Settling (history ++ node.machine.emit velador turno)
        (node.machine.step velador turno) := by
    intro commands
    have long := command_buzzCounter velador commands
    exact ⟨by omega, fun ended => by omega⟩
  cases turno with
  | request route sample =>
      cases route with
      | root =>
          refine ⟨counts, fun ended => ?_⟩
          rw [Settled, sounds_append]
          exact settled ended
      | test =>
          refine ⟨counts, fun ended => ?_⟩
          rw [Settled, sounds_append]
          exact settled ended
      | reset => exact started trivial
      | manual => exact started trivial
      | buzz => exact started trivial
      | on => exact started trivial
      | off => exact started trivial
  | iterate sample =>
      have next := step_buzzCounter sample counts
      refine ⟨by omega, fun ended => ?_⟩
      rcases (by omega : velador.buzzCounter = 1 ∨ velador.buzzCounter = 0) with
        last | rests
      · exact settled_settle history sample last
      · exact settled_rest sample rests (settled rests)

/-- Iterations count a flicker down to zero. -/
theorem run_buzzCounter {velador : Velador} (counts : 0 ≤ velador.buzzCounter)
    (samples : List Sample) :
    (node.machine.run velador (samples.map .iterate)).buzzCounter =
      max (velador.buzzCounter - samples.length) 0 := by
  induction samples generalizing velador with
  | nil =>
      change velador.buzzCounter = max (velador.buzzCounter - (0 : Nat)) 0
      omega
  | cons sample samples ih =>
      have next := step_buzzCounter sample counts
      have goesOn : 0 ≤
          (node.machine.step velador (.iterate sample)).buzzCounter := by omega
      rw [List.map_cons, MealyMachine.run_cons, ih goesOn, next,
        List.length_cons]
      omega

/-- After the first request which starts a flicker, a lamp whose flicker is over is
as it was commanded, and every flicker comes to its end. -/
theorem lamp_settles {turnos : List (Turno Route Sample)}
    (commanded : ∃ turno ∈ turnos, Commands turno) :
    ((node.after turnos).buzzCounter = 0 →
      Settled (node.machine.trace node.setup turnos) (node.after turnos)) ∧
    ∀ samples : List Sample,
      (node.after (turnos ++ samples.map .iterate)).buzzCounter =
        max ((node.after turnos).buzzCounter - samples.length) 0 := by
  obtain ⟨turno, member, commands⟩ := commanded
  obtain ⟨before, later, rfl⟩ := List.append_of_mem member
  have long := command_buzzCounter (node.after before) commands
  have started : Settling
      (node.machine.trace node.setup before ++
        node.machine.emit (node.after before) turno)
      (node.machine.step (node.after before) turno) :=
    ⟨by omega, fun ended => by omega⟩
  have settling := node.machine.history_invariant settling_step started later
  have ends : node.after (before ++ turno :: later) =
      node.machine.run (node.machine.step (node.after before) turno) later :=
    node.machine.run_append node.setup before (turno :: later)
  rw [← ends, List.append_assoc, ← MealyMachine.trace_cons, WifiNode.after,
    ← MealyMachine.trace_append] at settling
  refine ⟨settling.2, fun samples => ?_⟩
  have same : node.after (before ++ turno :: later ++ samples.map .iterate) =
      node.machine.run (node.after (before ++ turno :: later))
        (samples.map .iterate) :=
    node.machine.run_append node.setup _ _
  rw [same]
  exact run_buzzCounter settling.1 samples

/-- A lamp which is switched off flickers for 18 iterations, and then it is dark and
silent. -/
theorem lamp_settles_off :
    let turnos : List (Turno Route Sample) :=
      .request .off ⟨0, 0⟩ :: List.replicate 18 (.iterate ⟨0, 14⟩)
    let history := node.machine.trace node.setup turnos
    (node.after turnos).buzzCounter = 0 ∧
      (node.after turnos).leds = List.replicate numLeds CRGB.black ∧
      Sounds history = false := by
  intro turnos history
  have ended : (node.after turnos).buzzCounter = 0 ∧
      (node.after turnos).isOn = false := by
    decide +kernel
  have commanded : ∃ turno ∈ turnos, Commands turno :=
    ⟨_, List.mem_cons_self, trivial⟩
  obtain ⟨dark, silent⟩ := (lamp_settles commanded).1 ended.1
  rw [ended.2] at dark
  exact ⟨ended.1, dark, silent⟩

end Velador

end Salsipuedes

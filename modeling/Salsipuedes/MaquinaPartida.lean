import Salsipuedes.MaquinaLoop

/-!
# What the machine is for

A game of the machine, without its pins, counters and poll loops: the set of
puzzles which are marked as solved, the stages the operator granted, and whether
the exit is released.  Every operation of the machine is one of a few actions on
a game, and what the room shows is a function of the game.
-/

namespace Salsipuedes.Maquina

/-- The puzzles, with the plug as the first one. -/
inductive Puzzle where
  | enchufe
  | knobs
  | radio
  | simon
  deriving DecidableEq

instance : Fintype Puzzle where
  elems := {.enchufe, .knobs, .radio, .simon}
  complete puzzle := by cases puzzle <;> decide

/-- A game since it was last cleared.  `skips` counts the stages granted by
`manual`, and `forced` records that `on` marked the plug without a stage. -/
@[ext]
structure Partida where
  solved : Finset Puzzle
  skips : Nat
  forced : Bool
  silla : Bool
  efecto : Bool
  released : Bool
  forced_solved : forced = true → Puzzle.enchufe ∈ solved
  released_unplugged : released = true → Puzzle.enchufe ∉ solved
  silla_stage : silla = true →
    3 < (solved.card : Int) + skips - forced.toNat ∧ efecto = true

namespace Partida

/-- The stage of the game, which is what `gamesWon` holds. -/
def stage (partida : Partida) : Int :=
  partida.solved.card + partida.skips - partida.forced.toNat

theorem stage_nonneg (partida : Partida) : 0 ≤ partida.stage := by
  unfold stage
  cases forced : partida.forced with
  | false => simp; omega
  | true =>
      have := Finset.card_pos.mpr ⟨_, partida.forced_solved forced⟩
      simp
      omega

/-- A cleared game. -/
def fresh : Partida where
  solved := ∅
  skips := 0
  forced := false
  silla := false
  efecto := false
  released := false
  forced_solved := by simp
  released_unplugged := by simp
  silla_stage := by simp

/-- A game which the operator switched on: the plug is marked, but the stage is
not advanced. -/
def switchedOn : Partida where
  solved := {.enchufe}
  skips := 0
  forced := true
  silla := false
  efecto := false
  released := false
  forced_solved := by simp
  released_unplugged := by simp
  silla_stage := by simp

/-- A game which is over: nothing is marked and the exit is released. -/
def finished : Partida where
  solved := ∅
  skips := 0
  forced := false
  silla := false
  efecto := false
  released := true
  forced_solved := by simp
  released_unplugged := by simp
  silla_stage := by simp

/-- A puzzle can be solved once in a game, and the plug only before the exit is
released. -/
def CanSolve (partida : Partida) (puzzle : Puzzle) : Prop :=
  puzzle ∉ partida.solved ∧ (puzzle = .enchufe → partida.released = false)

instance (partida : Partida) (puzzle : Puzzle) :
    Decidable (partida.CanSolve puzzle) :=
  inferInstanceAs (Decidable (_ ∧ _))

def solve (partida : Partida) (puzzle : Puzzle) : Partida :=
  if can : partida.CanSolve puzzle then
    { partida with
      solved := insert puzzle partida.solved
      forced_solved := fun forced =>
        Finset.mem_insert_of_mem (partida.forced_solved forced)
      released_unplugged := fun released member => by
        rcases Finset.mem_insert.mp member with equal | member
        · simp [can.2 equal.symm] at released
        · exact partida.released_unplugged released member
      silla_stage := fun silla => by
        have := partida.silla_stage silla
        rw [Finset.card_insert_of_notMem can.1]
        push_cast
        exact ⟨by omega, this.2⟩ }
  else
    partida

/-- A stage granted by the operator. -/
def skip (partida : Partida) : Partida :=
  { partida with
    skips := partida.skips + 1
    silla_stage := fun silla => by
      have := partida.silla_stage silla
      push_cast
      exact ⟨by omega, this.2⟩ }

def sillaOn (partida : Partida) : Partida :=
  if high : partida.silla = false ∧ partida.stage > 3 then
    { partida with
      silla := true
      efecto := true
      silla_stage := fun _ => ⟨high.2, rfl⟩ }
  else
    partida

def sillaOff (partida : Partida) : Partida :=
  { partida with silla := false, silla_stage := by simp }

/-- What a received text does to a game. -/
def command (partida : Partida) (text : Text) : Partida :=
  if text = "reset".toList then fresh
  else if text = "on".toList then switchedOn
  else if text = "off".toList then fresh
  else if text = "win".toList then finished
  else if text = "son".toList then partida.sillaOn
  else if text = "soff".toList then partida.sillaOff
  else if text = "trueno".toList then partida
  else if text = "manual".toList then
    if partida.stage > 3 then finished else partida.skip
  else partida

/-! ## Actions -/

/-- The operations of the machine, as far as a game is concerned. -/
inductive Action where
  | idle
  | solve (puzzle : Puzzle)
  | unplug
  | lose
  | command (text : Text)

def Enabled (partida : Partida) : Action → Prop
  | .solve puzzle => partida.CanSolve puzzle
  | .unplug => Puzzle.enchufe ∈ partida.solved
  | .idle | .lose | .command _ => True

def act (partida : Partida) : Action → Partida
  | .idle | .lose => partida
  | .solve puzzle => partida.solve puzzle
  | .unplug => fresh
  | .command text => partida.command text

/-- The word which the machine sends when a puzzle is solved. -/
def word : Puzzle → String
  | .enchufe => "ON"
  | .knobs => "KWIN"
  | .radio => "RWIN"
  | .simon => "SWIN"

/-- The report of `rayoAvanza`. -/
def advance (stage : Int) : List Event :=
  .console "rayo avanza. gamesWon:" [stage] ::
    if 1 ≤ stage ∧ stage ≤ 4 then []
    else [.console "got weird value for gamesWon:" [stage]]

/-- The part of the effects of an action which concerns the game. -/
def report (partida : Partida) : Action → List Event
  | .idle => []
  | .solve .enchufe =>
      .serial1 "ON" :: .console "enchufe on" [] :: advance (partida.stage + 1)
  | .solve puzzle => .serial1 (word puzzle) :: advance (partida.stage + 1)
  | .unplug => [.serial1 "OFF", .console "enchufe off" [], .serial1 "OFF"]
  | .lose => [.serial1 "SFAIL"]
  | .command text => .received text ::
      if text = "reset".toList then [.serial1 "OFF"]
      else if text = "win".toList then
        [.console "winnnnning" [], .serial1 "OFF"]
      else if text = "manual".toList then
        if partida.stage > 3 then [.console "winnnnning" [], .serial1 "OFF"]
        else advance (partida.stage + 1)
      else []

/-- The game as a machine driven by its actions. -/
def game : MealyMachine Partida Action Event where
  step := act
  emit := report

end Partida

/-- The events which concern the game: everything on the link, and the console
lines of the plug, of the stages and of the release. -/
def Event.visible : Event → Bool
  | .serial1 _ | .received _ => true
  | .console line _ =>
      line = "enchufe on" || line = "enchufe off" || line = "winnnnning" ||
        line = "rayo avanza. gamesWon:" ||
        line = "got weird value for gamesWon:"
  | _ => false

/-! ## What the room shows -/

/-- How many pixels of the lightning path are lit at a stage. -/
def litPixels (stage : Int) : Nat :=
  if stage ≤ 0 then 0
  else if stage = 1 then pixels1
  else if stage = 2 then pixels2
  else if stage = 3 then pixels3
  else pixels4

/-- The lightning path at a stage. -/
def stripAt (stage : Int) : Vector CRGB totalStrip1 :=
  Vector.ofFn fun i => if i.val < litPixels stage then CRGB.rayo else CRGB.black

/-- The relays at a stage, with the exit released or not. -/
def relaysAt (stage : Int) (released : Bool) : Relays where
  plasma1 := decide (stage < 2)
  plasma2 := decide (stage < 3)
  plasma3 := decide (stage < 4)
  botonSalida := !released
  luzSalida := released

namespace Partida

def progreso (partida : Partida) : Progreso where
  enchufada := decide (Puzzle.enchufe ∈ partida.solved)
  knobsWon := decide (Puzzle.knobs ∈ partida.solved)
  radioWon := decide (Puzzle.radio ∈ partida.solved)
  simonReady := decide (partida.stage ≥ 3)
  simonWon := decide (Puzzle.simon ∈ partida.solved)
  sillaOn := partida.silla
  gamesWon := partida.stage
  efectoTurbina := partida.efecto
  yaGano := partida.released

end Partida

/-- The globals of the machine show a game. -/
structure Shows {Button : Type} (maquina : Maquina Button)
    (partida : Partida) : Prop where
  progreso : maquina.toProgreso = partida.progreso
  relays : maquina.toRelays = relaysAt partida.stage partida.released
  strip1 : maquina.strip1 = stripAt partida.stage

end Salsipuedes.Maquina

import Salsipuedes.MaquinaFlow
import Salsipuedes.StableButton

/-!
# Runs of the machine from power-up

Every run of the machine is a run of its game.  What the room shows at any point
of any run, including points inside a Simon game, is therefore a function of the
stage, and the exit is released exactly in games which are over.
-/

namespace Salsipuedes.Maquina

variable {Button : Type} [Bounce Button]

/-- A configuration shows a game in which Simon is still to be won while it is
being played. -/
structure Tracks (config : Config Button) (partida : Partida) : Prop where
  shows : Shows config.maquina partida
  playing : config.control.inSimon = true → Puzzle.simon ∉ partida.solved

theorem setup_tracks (Button : Type) [Bounce Button] (boot : Sample) :
    Tracks (setup boot : Config Button) Partida.fresh where
  shows :=
    ⟨rfl, rfl, (by decide : Vector.replicate totalStrip1 CRGB.black = stripAt 0)⟩
  playing := by simp [setup, Control.inSimon]

theorem Partida.received_advance (stage : Int) (text : Text) :
    .received text ∉ Partida.advance stage := by
  unfold Partida.advance
  split <;> simp

theorem Partida.received_mem_report (partida : Partida) (text : Text) :
    .received text ∈ partida.report (.command text) :=
  List.mem_cons_self

/-- A text is reported exactly by the action of its command. -/
theorem Partida.command_of_received {partida : Partida}
    {action : Partida.Action} {text : Text}
    (member : .received text ∈ partida.report action) :
    action = .command text := by
  cases action with
  | idle => simp [Partida.report] at member
  | lose => simp [Partida.report] at member
  | unplug => simp [Partida.report] at member
  | solve puzzle =>
      cases puzzle <;>
        simp [Partida.report, Partida.received_advance] at member
  | command other =>
      rcases List.mem_cons.mp member with equal | member
      · rw [Event.received.inj equal]
      · split at member
        · simp at member
        split at member
        · simp at member
        split at member
        · split at member
          · simp at member
          · exact absurd member (Partida.received_advance _ text)
        · simp at member

/-- One step of the machine is one action of the game it shows. -/
structure Steps (config : Config Button) (partida : Partida) (sample : Sample)
    (action : Partida.Action) : Prop where
  enabled : partida.Enabled action
  flow : Flow partida config.control action
    ((machine Button).step config sample).control
  tracks : Tracks ((machine Button).step config sample) (partida.act action)
  visible : ((machine Button).emit config sample).filter Event.visible =
    partida.report action

theorem step_tracks {config : Config Button} {partida : Partida}
    (tracks : Tracks config partida) (sample : Sample) :
    ∃ action, Steps config partida sample action := by
  have shows : Shows { config.maquina with out := [] } partida :=
    ⟨tracks.shows.progreso, tracks.shows.relays, tracks.shows.strip1⟩
  obtain ⟨action, performs, flow⟩ :=
    operation_moves sample config.control shows tracks.playing
  exact ⟨action, performs.enabled, flow,
    ⟨performs.shows, flow.playing tracks.playing⟩, performs.visible⟩

/-- What an operation emits about the game is in the report of its action. -/
theorem Steps.mem_emit {config : Config Button} {partida : Partida}
    {sample : Sample} {action : Partida.Action}
    (steps : Steps config partida sample action) {event : Event}
    (visible : event.visible = true) :
    event ∈ (machine Button).emit config sample ↔
      event ∈ partida.report action := by
  rw [← steps.visible, List.mem_filter, and_iff_left visible]

/-- The machine is simulated by its game. -/
theorem run_tracks {config : Config Button} {partida : Partida}
    (tracks : Tracks config partida) (inputs : List Sample) :
    ∃ actions, Partida.game.Along Partida.Enabled partida actions ∧
      Tracks ((machine Button).run config inputs)
        (Partida.game.run partida actions) ∧
      ((machine Button).trace config inputs).filter Event.visible =
        Partida.game.trace partida actions := by
  have simulates : ∀ (config : Config Button) (partida : Partida)
      (sample : Sample), Tracks config partida →
      ∃ action, partida.Enabled action ∧
        Tracks ((machine Button).step config sample)
          (Partida.game.step partida action) ∧
        ((machine Button).emit config sample).filter Event.visible =
          Partida.game.emit partida action := by
    intro config partida sample tracks
    obtain ⟨action, steps⟩ := step_tracks tracks sample
    exact ⟨action, steps.enabled, steps.tracks, steps.visible⟩
  exact (machine Button).simulation Partida.game simulates tracks inputs

/-- The configuration of a run from power-up. -/
def after (Button : Type) [Bounce Button] (boot : Sample)
    (inputs : List Sample) : Config Button :=
  (machine Button).run (setup boot) inputs

theorem after_append (Button : Type) [Bounce Button] (boot : Sample)
    (first second : List Sample) :
    after Button boot (first ++ second) =
      (machine Button).run (after Button boot first) second :=
  (machine Button).run_append (setup boot) first second

/-- Nobody touches the room: the buttons are not pressed, nothing is plugged in
and nothing is received. -/
def Sample.reposo : Sample where
  millis := 0
  enchufe := low
  buttonRed := high
  buttonGreen := high
  buttonBlue := high
  buttonYellow := high
  a13 := 0
  a14 := 0
  a15 := 0
  radio2 := low
  radio3 := low
  draw _ := 0
  serial1 := []

/-- The plug is in and nobody touches anything else. -/
def Sample.enchufado : Sample :=
  { Sample.reposo with enchufe := high }

/-- The four operations of an iteration of `loop` while nothing is plugged in,
with what the last of them receives. -/
def iteration (sample : Sample) (chunk : Text) : List Sample :=
  [sample, sample, sample, { sample with serial1 := chunk }]

/-- A message followed by the silence which completes it. -/
def deliver (sample : Sample) (text : String) : List Sample :=
  iteration sample text.toList ++
    (List.replicate 25 (iteration sample [])).flatten

theorem after_tracks (Button : Type) [Bounce Button] (boot : Sample)
    (inputs : List Sample) :
    ∃ partida, Tracks (after Button boot inputs) partida := by
  obtain ⟨actions, -, tracks, -⟩ :=
    run_tracks (setup_tracks Button boot) inputs
  exact ⟨_, tracks⟩

/-- The sketch refines its game: every run from power-up, with any readings and any
commands, is a run of actions which the game allows, with the same visible events, and
at its end the room shows that game. -/
theorem machine_refines_game (boot : Sample) (inputs : List Sample) :
    ∃ actions, Partida.game.Along Partida.Enabled .fresh actions ∧
      Shows (after Button boot inputs).maquina
        (Partida.game.run .fresh actions) ∧
      ((machine Button).trace (setup boot) inputs).filter Event.visible =
        Partida.game.trace .fresh actions := by
  obtain ⟨actions, enabled, tracks, visible⟩ :=
    run_tracks (setup_tracks Button boot) inputs
  exact ⟨actions, enabled, tracks.shows, visible⟩

/-- The displays of the room are functions of the stage, at every point of
every run. -/
theorem displays_stage (boot : Sample) (inputs : List Sample) :
    let maquina := (after Button boot inputs).maquina
    pixels4 = totalStrip1 ∧
      (maquina.simonReady = true ↔ maquina.gamesWon ≥ 3) ∧
      (maquina.plasma1 = low ↔ maquina.gamesWon ≥ 2) ∧
      (maquina.plasma2 = low ↔ maquina.gamesWon ≥ 3) ∧
      (maquina.plasma3 = low ↔ maquina.gamesWon ≥ 4) ∧
      (∀ i : Fin totalStrip1, maquina.strip1[i] =
        if i.val < litPixels maquina.gamesWon then CRGB.rayo
        else CRGB.black) ∧
      (maquina.sillaOn = true →
        maquina.gamesWon ≥ 4 ∧ maquina.efectoTurbina = true) := by
  obtain ⟨partida, ⟨progreso, relays, strip1⟩, -⟩ :=
    after_tracks Button boot inputs
  dsimp only
  rw [progreso, relays, strip1]
  refine ⟨rfl, ?_, ?_, ?_, ?_, ?_, ?_⟩
  · simp [Partida.progreso]
  · simp only [Partida.progreso, relaysAt, decide_eq_false_iff_not]
    omega
  · simp only [Partida.progreso, relaysAt, decide_eq_false_iff_not]
    omega
  · simp only [Partida.progreso, relaysAt, decide_eq_false_iff_not]
    omega
  · intro i
    simp [Partida.progreso, stripAt]
  · intro silla
    have seated := partida.silla_stage silla
    simp only [Partida.progreso, Partida.stage]
    exact ⟨by omega, seated.2⟩

end Salsipuedes.Maquina

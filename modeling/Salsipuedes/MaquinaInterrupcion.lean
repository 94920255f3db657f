import Salsipuedes.MaquinaAlcance
import Salsipuedes.MaquinaEspera

/-!
# Commands during a Simon game

`waitForButton` polls the link, so a command can clear the game underneath a
Simon game which is still running.  As long as no command does that, a Simon
game keeps what its gate in `loop` has checked: it is won only in a game which
is plugged in and ready for Simon.
-/

namespace Salsipuedes.Maquina

open EventHistory

/-- The control points in the body of `if (checkEnchufe() == true)` up to the
end of Simon. -/
def Control.inBody (control : Control) : Bool :=
  control = .knobs || control = .radio || control = .simon || control.inSimon

namespace Partida

/-- A report which does not end the game does not lower its stage. -/
theorem stage_mono {partida : Partida} {action : Action}
    (enabled : partida.Enabled action)
    (going : ∀ event ∈ partida.report action, event.clears = false) :
    partida.stage ≤ (partida.act action).stage := by
  obtain ⟨count, counted⟩ := Int.eq_ofNat_of_zero_le partida.stage_nonneg
  rw [stage_act enabled counted, counted]
  exact Int.ofNat_le.mpr (le_tally_of_no_stop going count)

/-- Only a won Simon game sends its word. -/
theorem sends_simon {partida : Partida} {action : Action}
    (sent : .serial1 "SWIN" ∈ partida.report action) :
    action = .solve .simon := by
  have announces : Event.announces .simon (.serial1 "SWIN") = true := rfl
  cases action with
  | idle => simp [report] at sent
  | lose => simp [report] at sent
  | unplug => simp [report] at sent
  | solve puzzle =>
      obtain ⟨lines, reported, plain⟩ := partida.report_solve puzzle .simon
      rw [reported, List.mem_cons] at sent
      rcases sent with word | line
      · rw [Event.serial1.injEq] at word
        rw [@word_injective _ .simon word.symm]
      · simp [(plain _ line).1] at announces
  | command text =>
      simp [partida.report_command text .simon _ sent] at announces

end Partida

/-- What the gates of `loop` have checked still holds: inside its body the game
is plugged in, and inside Simon the stage for Simon is reached. -/
structure Underway (control : Control) (partida : Partida) : Prop where
  plugged : control.inBody = true → Puzzle.enchufe ∈ partida.solved
  ready : control.inSimon = true → partida.stage ≥ 3

theorem Flow.underway {partida : Partida} {before after : Control}
    {action : Partida.Action} (flow : Flow partida before action after)
    (underway : Underway before partida) (enabled : partida.Enabled action)
    (going : before.inPlayMemory = true →
      ∀ event ∈ partida.report action, event.clears = false) :
    Underway after (partida.act action) := by
  have polled (playing : before.inPlayMemory = true)
      (inBody : before.inBody = true) (inSimon : before.inSimon = true)
      (poll : action.OfPoll) : Underway after (partida.act action) := by
    have stays := going playing
    have higher := Partida.stage_mono enabled stays
    have stage := underway.ready inSimon
    refine ⟨fun _ => ?_, fun _ => by omega⟩
    rcases poll with rfl | ⟨text, rfl⟩
    · exact underway.plugged inBody
    · rw [Partida.act, Partida.solved_command stays]
      exact underway.plugged inBody
  cases flow with
  | plugged plug solved =>
      exact ⟨fun _ => solved, by simp [Control.inSimon]⟩
  | knobs puzzle | radio puzzle =>
      have plugged := underway.plugged rfl
      refine ⟨fun _ => ?_, by simp [Control.inSimon]⟩
      rcases puzzle with rfl | rfl
      · exact plugged
      · rw [Partida.act, Partida.solved_solve enabled]
        exact Finset.mem_insert_of_mem plugged
  | ready stage unsolved =>
      exact ⟨fun _ => underway.plugged rfl, fun _ => stage⟩
  | attract | begin | ask | hold | correct =>
      exact ⟨fun _ => underway.plugged rfl, fun _ => underway.ready rfl⟩
  | poll poll | press poll => exact polled rfl rfl rfl poll
  | _ => exact ⟨by simp [Control.inBody, Control.inSimon],
      by simp [Control.inSimon]⟩

variable {Button : Type} [Bounce Button]

/-- A command which ends the game is handled by `waitForButton`. -/
def Interrupts (config : Config Button) (sample : Sample) : Prop :=
  config.control.inPlayMemory = true ∧
    ∃ event ∈ (machine Button).emit config sample, event.clears = true

/-- The game which a configuration shows is underway. -/
def IsUnderway (config : Config Button) : Prop :=
  ∃ partida, Tracks config partida ∧ Underway config.control partida

theorem isUnderway_setup (Button : Type) [Bounce Button] (boot : Sample) :
    IsUnderway (setup boot : Config Button) :=
  ⟨.fresh, setup_tracks Button boot, by simp [setup, Control.inBody,
    Control.inSimon], by simp [setup, Control.inSimon]⟩

theorem isUnderway_step {config : Config Button} {sample : Sample}
    (uninterrupted : ¬ Interrupts config sample)
    (underway : IsUnderway config) :
    IsUnderway ((machine Button).step config sample) := by
  obtain ⟨partida, tracks, underway⟩ := underway
  obtain ⟨action, steps⟩ := step_tracks tracks sample
  refine ⟨_, steps.tracks, steps.flow.underway underway steps.enabled ?_⟩
  intro playing event reported
  by_contra clears
  have stops : event.clears = true := by simpa using clears
  have visible := Event.visible_of_advances event (.inr stops)
  exact uninterrupted
    ⟨playing, event, (steps.mem_emit visible).mpr reported, stops⟩

/-- Where the game is underway, Simon is won only after its gate has opened. -/
theorem IsUnderway.ready {config : Config Button} {sample : Sample}
    (underway : IsUnderway config)
    (won : .serial1 "SWIN" ∈ (machine Button).emit config sample) :
    config.maquina.simonReady = true ∧ config.maquina.enchufada = true := by
  obtain ⟨partida, tracks, underway⟩ := underway
  obtain ⟨action, steps⟩ := step_tracks tracks sample
  have solved := Partida.sends_simon ((steps.mem_emit rfl).mp won)
  subst solved
  have inSimon := steps.flow.inSimon_of_won
  have stage := underway.ready inSimon
  have plugged := underway.plugged (by simp [Control.inBody, inSimon])
  rw [tracks.shows.progreso]
  simp [Partida.progreso, stage, plugged]

/-- In a run without interrupted Simon games, Simon is won only in a game which
is ready for it. -/
theorem winner_ready {boot : Sample} {inputs : List Sample}
    (uninterrupted : (machine Button).Along
      (fun config sample => ¬ Interrupts config sample) (setup boot) inputs) :
    (machine Button).Along
      (fun config sample =>
        .serial1 "SWIN" ∈ (machine Button).emit config sample →
          config.maquina.simonReady = true ∧ config.maquina.enchufada = true)
      (setup boot) inputs := by
  have preserved : ∀ (config : Config Button) (sample : Sample),
      ¬ Interrupts config sample → IsUnderway config →
        IsUnderway ((machine Button).step config sample) :=
    fun _ _ uninterrupted underway => isUnderway_step uninterrupted underway
  have implies : ∀ (config : Config Button) (sample : Sample),
      ¬ Interrupts config sample → IsUnderway config →
        .serial1 "SWIN" ∈ (machine Button).emit config sample →
          config.maquina.simonReady = true ∧ config.maquina.enchufada = true :=
    fun _ _ _ underway won => underway.ready won
  exact (machine Button).along_of_invariant preserved implies
    (isUnderway_setup Button boot) uninterrupted

/-! ## Simon games after granted stages -/

/-- The plug goes in, and the operator grants the other two stages which Simon
needs. -/
def threeStages : List Sample :=
  let manual := List.replicate 7 Sample.enchufado ++
    { Sample.enchufado with serial1 := "manual".toList } ::
      List.replicate (8 * 25) .enchufado
  List.replicate 100 .enchufado ++ manual ++ manual ++
    List.replicate 8 .enchufado

def readyForSimon : Maquina StableButton :=
  (after StableButton .reposo threeStages).maquina

def Sample.rojo (level : Bool) (now : UInt32) : Sample :=
  { Sample.enchufado with millis := now, buttonRed := level }

/-- The polls of one move which is answered with the red button. -/
def pressRojo (now : UInt32) : List Sample :=
  [.rojo high now, .rojo low now, .rojo low (now + 25), .rojo high (now + 50),
    .rojo high (now + 75), .rojo high (now + 75)]

def rojos (count : Nat) : List Sample :=
  (List.range count).flatMap fun i => pressRojo (100 * (i.toUInt32 + 1))

/-- The message `reset` arrives while the first move is awaited. -/
def interruption : List Sample :=
  .enchufado :: { Sample.enchufado with serial1 := "reset".toList } ::
    List.replicate 25 .enchufado

/-- The turbine comes to rest, the gate of Simon opens, nobody presses a button
in `attractMode`, and then the moves follow. -/
def simonRojo (moves : List Sample) : List Sample :=
  threeStages ++ List.replicate (8 * 8498) .enchufado ++
    (List.replicate 32 .enchufado ++ moves)

theorem flashing_ready : Flashing readyForSimon := by
  decide +kernel

theorem after_ready :
    after StableButton .reposo threeStages = ⟨.loopStart, readyForSimon⟩ := by
  decide +kernel

instance (config : Config StableButton) (sample : Sample) :
    Decidable (Interrupts config sample) :=
  inferInstanceAs (Decidable (_ ∧ _))

/-- What follows when the turbine has come to rest and the gate of Simon is open. -/
theorem run_gate (inputs : List Sample) :
    after StableButton .reposo
        (threeStages ++ List.replicate (8 * 8498) .enchufado ++ inputs) =
      (machine StableButton).run ⟨.loopStart, flashed 8498 readyForSimon⟩
        inputs := by
  have counted := (flashing_ready.iterations 8498 (by decide +kernel)
    (by decide +kernel)).1
  have reached : (machine StableButton).run (setup .reposo) threeStages =
      ⟨.loopStart, readyForSimon⟩ :=
    after_ready
  rw [after, MealyMachine.run_append, MealyMachine.run_append _ _
    threeStages, reached, counted]

theorem run_simonRojo (moves : List Sample) :
    after StableButton .reposo (simonRojo moves) =
      (machine StableButton).run ⟨.loopStart, flashed 8498 readyForSimon⟩
        (List.replicate 32 .enchufado ++ moves) := by
  rw [simonRojo]
  exact run_gate _

theorem along_simonRojo {moves : List Sample}
    (along : (machine StableButton).Along
      (fun config sample => ¬ Interrupts config sample)
      ⟨.loopStart, flashed 8498 readyForSimon⟩
      (List.replicate 32 .enchufado ++ moves)) :
    (machine StableButton).Along
      (fun config sample => ¬ Interrupts config sample)
      (setup .reposo) (simonRojo moves) := by
  obtain ⟨counted, outside⟩ := flashing_ready.iterations 8498
    (by decide +kernel) (by decide +kernel)
  have begins : (machine StableButton).Along
      (fun config sample => ¬ Interrupts config sample) (setup .reposo)
      threeStages := by
    decide +kernel
  have uninterrupted : (machine StableButton).Along
      (fun config sample => ¬ Interrupts config sample) ⟨.loopStart, readyForSimon⟩
      (List.replicate (8 * 8498) .enchufado) := by
    have implies : ∀ (config : Config StableButton) (sample : Sample),
        config.control.inPlayMemory = false → True →
          ¬ Interrupts config sample := by
      intro config sample idle _ interrupts
      simp [interrupts.1] at idle
    exact (machine StableButton).along_of_invariant (fun _ _ _ _ => trivial)
      implies trivial outside
  have reached : (machine StableButton).run (setup .reposo) threeStages =
      ⟨.loopStart, readyForSimon⟩ :=
    after_ready
  rw [simonRojo, MealyMachine.along_append, MealyMachine.along_append,
    MealyMachine.run_append, reached, counted]
  exact ⟨⟨begins, uninterrupted⟩, along⟩

/-- An uninterrupted Simon game which is won. -/
theorem winner_ready_rojo :
    let config := after StableButton .reposo (simonRojo (rojos 10).dropLast)
    .serial1 "SWIN" ∈ (machine StableButton).emit config (.rojo high 1075) ∧
      config.maquina.simonReady = true ∧ config.maquina.enchufada = true := by
  have uninterrupted := @along_simonRojo (rojos 10) (by decide +kernel)
  have last : simonRojo (rojos 10) =
      simonRojo (rojos 10).dropLast ++ [.rojo high 1075] := by
    have split : rojos 10 = (rojos 10).dropLast ++ [.rojo high 1075] := rfl
    unfold simonRojo
    conv_lhs => rw [split]
    simp only [List.append_assoc]
  have along := winner_ready uninterrupted
  rw [last, MealyMachine.along_append, ← after] at along
  have reached := run_simonRojo (rojos 10).dropLast
  dsimp only
  generalize after StableButton .reposo (simonRojo (rojos 10).dropLast) =
    config at along reached ⊢
  have guarded := along.2.1
  have won : .serial1 "SWIN" ∈
      (machine StableButton).emit config (.rojo high 1075) := by
    rw [reached]
    decide +kernel
  exact ⟨won, guarded won⟩

/-- An interrupted Simon game which is won although it is not ready any more. -/
theorem winner_not_ready :
    ¬ ∀ (boot : Sample) (inputs : List Sample),
      (machine StableButton).Along
        (fun config sample =>
          .serial1 "SWIN" ∈ (machine StableButton).emit config sample →
            config.maquina.simonReady = true ∧ config.maquina.enchufada = true)
        (setup boot) inputs := by
  intro claim
  have along := claim .reposo
    (simonRojo (interruption ++ (rojos 11).tail.dropLast) ++
      [.rojo high 1175])
  rw [MealyMachine.along_append] at along
  have won := along.2.1
  have reached := run_simonRojo (interruption ++ (rojos 11).tail.dropLast)
  rw [after] at reached
  rw [reached] at won
  have notReady := (won (by decide +kernel)).1
  revert notReady
  decide +kernel

end Salsipuedes.Maquina

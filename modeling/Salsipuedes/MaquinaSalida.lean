import Salsipuedes.MaquinaRuns

/-!
# The exit door

A game is over exactly while the exit is released.  Only the operator ends a
game, and only the operator starts the next one: a released exit stays released
through everything the players do, also when they are still in a Simon game.
-/

namespace Salsipuedes.Maquina

namespace Partida

/-- The texts which lock the exit again. -/
def locking : List Text :=
  ["reset".toList, "on".toList, "off".toList]

theorem released_sillaOn (partida : Partida) :
    partida.sillaOn.released = partida.released := by
  unfold sillaOn
  split <;> rfl

theorem released_of_command {partida : Partida} {text : Text}
    (released : (partida.command text).released = true) :
    partida.released = true ∨ text = "win".toList ∨
      (text = "manual".toList ∧ partida.stage > 3) := by
  unfold command at released
  split at released
  · simp [fresh] at released
  split at released
  · simp [switchedOn] at released
  split at released
  · simp [fresh] at released
  split at released
  · rename_i win
    exact .inr (.inl win)
  split at released
  · rw [released_sillaOn] at released
    exact .inl released
  split at released
  · exact .inl released
  split at released
  · exact .inl released
  split at released
  · rename_i manual
    split at released
    · rename_i last
      exact .inr (.inr ⟨manual, last⟩)
    · exact .inl released
  · exact .inl released

/-- Only the operator ends a game. -/
theorem released_of_act {partida : Partida} {action : Action}
    (released : (partida.act action).released = true) :
    partida.released = true ∨ action = .command "win".toList ∨
      (action = .command "manual".toList ∧ partida.stage > 3) := by
  cases action with
  | idle => exact .inl released
  | lose => exact .inl released
  | solve puzzle =>
      rw [act, released_solve] at released
      exact .inl released
  | unplug => simp [act, fresh] at released
  | command text =>
      rcases released_of_command released with before | win | manual
      · exact .inl before
      · exact .inr (.inl (by rw [win]))
      · exact .inr (.inr ⟨by rw [manual.1], manual.2⟩)

theorem released_command {partida : Partida} {text : Text}
    (released : partida.released = true) (silent : text ∉ locking) :
    (partida.command text).released = true := by
  simp only [locking, List.mem_cons, List.not_mem_nil, or_false, not_or]
    at silent
  unfold command
  rw [if_neg silent.1, if_neg silent.2.1, if_neg silent.2.2]
  split
  · rfl
  split
  · rw [released_sillaOn]
    exact released
  split
  · exact released
  split
  · exact released
  split
  · split
    · rfl
    · exact released
  · exact released

/-- A released exit can not be locked by unplugging, because a game which is
over counts as unplugged. -/
theorem released_act {partida : Partida} {action : Action}
    (released : partida.released = true) (enabled : partida.Enabled action)
    (silent : ∀ text, action = .command text → text ∉ locking) :
    (partida.act action).released = true := by
  cases action with
  | idle => exact released
  | lose => exact released
  | solve puzzle => rw [act, released_solve, released]
  | unplug => exact absurd enabled (partida.released_unplugged released)
  | command text => exact released_command released (silent text rfl)

end Partida

/-- What the exit shows in a game. -/
theorem Shows.exit {Button : Type} {maquina : Maquina Button} {partida : Partida}
    (shows : Shows maquina partida) :
    maquina.yaGano = partida.released ∧
      maquina.botonSalida = !partida.released ∧
      maquina.luzSalida = partida.released := by
  rw [shows.progreso, shows.relays]
  exact ⟨rfl, rfl, rfl⟩

variable {Button : Type} [Bounce Button]

theorem release_step {config : Config Button} {partida : Partida}
    (tracks : Tracks config partida) (sample : Sample)
    (locked : config.maquina.yaGano = false)
    (released : ((machine Button).step config sample).maquina.yaGano = true) :
    .received "win".toList ∈ (machine Button).emit config sample ∨
      (.received "manual".toList ∈ (machine Button).emit config sample ∧
        config.maquina.gamesWon > 3) := by
  obtain ⟨action, steps⟩ := step_tracks tracks sample
  rw [tracks.shows.exit.1] at locked
  rw [steps.tracks.shows.exit.1] at released
  rcases Partida.released_of_act released with before | win | ⟨manual, last⟩
  · rw [locked] at before
    exact absurd before (by simp)
  · left
    rw [steps.mem_emit rfl, win]
    exact List.mem_cons_self
  · right
    constructor
    · rw [steps.mem_emit rfl, manual]
      exact List.mem_cons_self
    · rw [tracks.shows.progreso]
      exact last

/-- A run which receives no text that locks the exit keeps it released. -/
theorem released_run {config : Config Button} {partida : Partida}
    (tracks : Tracks config partida) (released : partida.released = true)
    {inputs : List Sample}
    (silent : ∀ text, .received text ∈ (machine Button).trace config inputs →
      text ∉ Partida.locking) :
    ∃ later, Tracks ((machine Button).run config inputs) later ∧
      later.released = true := by
  induction inputs generalizing config partida with
  | nil => exact ⟨partida, tracks, released⟩
  | cons sample inputs ih =>
      obtain ⟨action, steps⟩ := step_tracks tracks sample
      rw [MealyMachine.trace_cons] at silent
      have stays : (partida.act action).released = true := by
        refine Partida.released_act released steps.enabled ?_
        rintro text rfl
        apply silent text (List.mem_append_left _ _)
        rw [steps.mem_emit rfl]
        exact List.mem_cons_self
      exact ih steps.tracks stays fun text member =>
        silent text (List.mem_append_right _ member)

/-- The exit at every point of every run: what it shows, how it is released,
and that players can not lock it again. -/
theorem exit_released (boot : Sample) (inputs : List Sample) :
    let config := after Button boot inputs
    (config.maquina.botonSalida = low ↔ config.maquina.luzSalida = high) ∧
      (config.maquina.luzSalida = high ↔ config.maquina.yaGano = true) ∧
      (config.maquina.yaGano = true → config.maquina.enchufada = false) ∧
      (∀ sample, config.maquina.yaGano = false →
        ((machine Button).step config sample).maquina.yaGano = true →
        .received "win".toList ∈ (machine Button).emit config sample ∨
          (.received "manual".toList ∈ (machine Button).emit config sample ∧
            config.maquina.gamesWon > 3)) ∧
      (∀ more, config.maquina.yaGano = true →
        (∀ text, .received text ∈ (machine Button).trace config more →
          text ∉ Partida.locking) →
        ((machine Button).run config more).maquina.yaGano = true ∧
          ((machine Button).run config more).maquina.botonSalida = low) := by
  obtain ⟨partida, tracks⟩ := after_tracks Button boot inputs
  obtain ⟨won, door, light⟩ := tracks.shows.exit
  dsimp only
  refine ⟨?_, ?_, ?_, ?_, ?_⟩
  · rw [door, light]
    simp
  · rw [light, won]
  · intro gone
    rw [won] at gone
    rw [tracks.shows.progreso]
    simpa [Partida.progreso] using partida.released_unplugged gone
  · exact fun sample => release_step tracks sample
  · intro more gone silent
    rw [won] at gone
    obtain ⟨later, laterTracks, laterReleased⟩ :=
      released_run tracks gone silent
    obtain ⟨laterWon, laterDoor, -⟩ := laterTracks.shows.exit
    rw [laterWon, laterDoor, laterReleased]
    exact ⟨rfl, rfl⟩

end Salsipuedes.Maquina

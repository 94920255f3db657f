import Salsipuedes.MaquinaCuentas
import Salsipuedes.Streak

/-!
# Debouncing the plug

A change of the plug is accepted after fifty calls which found it changed.  An
observer notes what each call of `checkEnchufe` reads, and the debounce counter
is compared with the streak of readings which differ from the accepted level.
-/

namespace Salsipuedes.Maquina

variable {Button : Type}

/-! ## Readings -/

/-- What a call of `checkEnchufe` reads: nothing once the exit is released. -/
def Cuentas.lectura (cuentas : Cuentas) (now : Bool) : Option Bool :=
  if cuentas.yaGano = true then none else some now

/-- The readings of `checkEnchufe` after a step. -/
def anota (config : Config Button) (sample : Sample)
    (lecturas : List (Option Bool)) : List (Option Bool) :=
  if config.control.callsPlug = true then
    lecturas ++ [config.maquina.cuentas.lectura sample.enchufe]
  else
    lecturas

/-- A reading of another level than the accepted one. -/
def Cuentas.differs (cuentas : Cuentas) (lectura : Option Bool) : Bool :=
  lectura == some (!cuentas.enchufada)

/-- The debounce counter never reaches its limit between two calls. -/
structure Cuentas.InRange (cuentas : Cuentas) : Prop where
  nonneg : 0 ≤ cuentas.enchufeCounter
  early : cuentas.enchufeCounter < 50

/-- While the plug is read, its counter is a partial count of the readings
which differ from the accepted level. -/
structure Cuentas.Debounces (cuentas : Cuentas) (lecturas : List (Option Bool)) :
    Prop extends cuentas.InRange where
  counted : cuentas.yaGano = false →
    cuentas.enchufeCounter ≤ streak cuentas.differs lecturas

namespace Cuentas

variable {cuentas : Cuentas} {lecturas : List (Option Bool)}

theorem InRange.plug (inRange : cuentas.InRange) (now : Bool) :
    (cuentas.plug now).InRange := by
  obtain ⟨nonneg, early⟩ := inRange
  unfold Cuentas.plug
  split
  · exact ⟨nonneg, early⟩
  split
  · exact ⟨by simp, by simp⟩
  split
  · exact ⟨by simp, by simp⟩
  · exact ⟨by simp only; omega, by simp only; omega⟩

theorem InRange.handle (inRange : cuentas.InRange) (stage : Int) (text : Text) :
    (cuentas.handle stage text).InRange := by
  obtain ⟨nonneg, early⟩ := inRange
  unfold Cuentas.handle
  repeat' split
  all_goals first
    | exact ⟨nonneg, early⟩
    | exact ⟨by simp, by simp⟩

theorem Debounces.plug (debounces : cuentas.Debounces lecturas) (now : Bool) :
    (cuentas.plug now).Debounces (lecturas ++ [cuentas.lectura now]) := by
  refine ⟨debounces.toInRange.plug now, ?_⟩
  unfold Cuentas.plug Cuentas.lectura
  split
  · rename_i won
    simp [won]
  · rename_i going
    split
    · simp
    · rename_i changed
      split
      · simp
      · have counted := debounces.counted (by simpa using going)
        have differs : cuentas.differs (some now) = true := by
          cases now <;> cases enchufada : cuentas.enchufada <;>
            simp [Cuentas.differs, enchufada] at changed ⊢
        have same : ({ cuentas with
            enchufeCounter := cuentas.enchufeCounter + 1 } : Cuentas).differs =
              cuentas.differs := rfl
        rw [same, streak_concat_of_meets _ differs]
        intro _
        push_cast
        omega

/-- An `off` command finds no partial count of another level. -/
def CleanOff (cuentas : Cuentas) (text : Option Text) : Prop :=
  text = some "off".toList → cuentas.enchufeCounter = 0 ∨
    (cuentas.enchufada = false ∧ cuentas.yaGano = false)

theorem Debounces.handle (debounces : cuentas.Debounces lecturas)
    {text : Text} (clean : cuentas.CleanOff (some text)) (stage : Int) :
    (cuentas.handle stage text).Debounces lecturas := by
  refine ⟨debounces.toInRange.handle stage text, ?_⟩
  unfold Cuentas.handle
  split
  · simp
  split
  · simp
  split
  · rename_i off
    rcases clean (congrArg some off) with zero | ⟨unplugged, locked⟩
    · simp [zero]
    · have same : ({ cuentas with enchufada := false, yaGano := false } :
          Cuentas) = cuentas := by
        ext <;> simp [unplugged, locked]
      rw [same]
      exact debounces.counted
  split
  · simp
  · exact debounces.counted

/-- A call which accepts a change has read the other level fifty times. -/
theorem Debounces.accepted (debounces : cuentas.Debounces lecturas) {now : Bool}
    (flips : (cuentas.plug now).enchufada ≠ cuentas.enchufada) :
    List.replicate 50 (some (!cuentas.enchufada)) <:+
      lecturas ++ [cuentas.lectura now] := by
  unfold Cuentas.plug at flips
  split at flips
  · simp at flips
  rename_i going
  split at flips
  · simp at flips
  rename_i changed
  split at flips
  · rename_i last
    have counted := debounces.counted (by simpa using going)
    have differs : cuentas.differs (cuentas.lectura now) = true := by
      cases now <;> cases enchufada : cuentas.enchufada <;>
        simp [Cuentas.differs, Cuentas.lectura, going, enchufada] at changed ⊢
    have long : 50 ≤ streak cuentas.differs
        (lecturas ++ [cuentas.lectura now]) := by
      rw [streak_concat_of_meets _ differs]
      omega
    obtain ⟨earlier, recent, split, length, all⟩ :=
      (le_streak_iff _ _ _).mp long
    have same : recent = List.replicate 50 (some (!cuentas.enchufada)) := by
      refine List.eq_replicate_iff.mpr ⟨length, fun lectura member => ?_⟩
      simpa [Cuentas.differs] using all lectura member
    rw [split, same]
    exact List.suffix_append _ _
  · simp at flips

end Cuentas

/-! ## Steps -/

theorem Flow.ofPlug {partida : Partida} {before after : Control}
    {action : Partida.Action} (flow : Flow partida before action after)
    (calls : before.callsPlug = true) : action.OfPlug := by
  cases flow with
  | plugged plug | unplugged plug | enchufe plug => exact plug
  | _ => simp [Control.callsPlug] at calls

section Steps

variable [Bounce Button] {config : Config Button}

/-- The word with which the machine announces a level of the plug. -/
def plugWord (level : Bool) : String :=
  if level = true then "ON" else "OFF"

/-- A call of `checkEnchufe` announces exactly the change which it accepts. -/
theorem plug_announced {partida : Partida} (tracks : Tracks config partida)
    (calls : config.control.callsPlug = true) (sample : Sample) (level : Bool) :
    .serial1 (plugWord level) ∈ (machine Button).emit config sample ↔
      config.maquina.enchufada = !level ∧
        ((machine Button).step config sample).maquina.enchufada = level := by
  obtain ⟨action, steps⟩ := step_tracks tracks sample
  have plug := steps.flow.ofPlug calls
  rw [steps.mem_emit rfl, tracks.shows.progreso, steps.tracks.shows.progreso]
  rcases plug with rfl | rfl | rfl
  · simp only [Partida.report, Partida.act, Partida.progreso, List.not_mem_nil,
      false_iff]
    rintro ⟨before, after⟩
    have : level = !level := after.symm.trans before
    simp at this
  · have unsolved : Puzzle.enchufe ∉ partida.solved := steps.enabled.1
    have solved : Puzzle.enchufe ∈ (partida.solve .enchufe).solved := by
      have can : partida.CanSolve .enchufe := steps.enabled
      rw [Partida.solve, dif_pos can]
      exact Finset.mem_insert_self _ _
    have notOff : ∀ stage, .serial1 "OFF" ∉ Partida.advance stage := by
      intro stage
      unfold Partida.advance
      split <;> simp
    cases level <;>
      simp [Partida.report, Partida.act, Partida.progreso, plugWord, unsolved,
        solved, notOff]
  · have solved : Puzzle.enchufe ∈ partida.solved := steps.enabled
    cases level <;>
      simp [Partida.report, Partida.act, Partida.progreso, plugWord, solved,
        Partida.fresh]

/-- Everything but a call of `checkEnchufe` leaves the plug to the commands. -/
theorem step_unread (sample : Sample)
    (calls : config.control.callsPlug = false) :
    let after := ((machine Button).step config sample).maquina.cuentas
    let before :=
      match heard config sample with
      | some text =>
          config.maquina.cuentas.handle config.maquina.gamesWon text
      | none => config.maquina.cuentas
    after.enchufada = before.enchufada ∧ after.yaGano = before.yaGano ∧
      after.enchufeCounter = before.enchufeCounter := by
  by_cases radio : config.control = .radio
  · have unheard : heard config sample = none := by simp [heard, radio]
    rw [step_radio radio, unheard]
    split <;> exact ⟨rfl, rfl, rfl⟩
  by_cases rayos : config.control = .rayos
  · have unheard : heard config sample = none := by simp [heard, rayos]
    rw [step_rayos rayos, unheard]
    split <;> exact ⟨rfl, rfl, rfl⟩
  · rw [step_heard calls radio rayos]
    exact ⟨rfl, rfl, rfl⟩

end Steps

/-! ## Runs -/

section Runs

variable [Bounce Button]

/-- The machine and the readings of its plug. -/
def observed (Button : Type) [Bounce Button] :
    MealyMachine (Config Button × List (Option Bool)) Sample Event :=
  (machine Button).observe anota

/-- An `off` command is handled when no partial count of another level is
left. -/
def OffIsClean (watched : Config Button × List (Option Bool))
    (sample : Sample) : Prop :=
  watched.1.maquina.cuentas.CleanOff (heard watched.1 sample)

/-- If this step accepts a change of the plug, then this call and the 49 calls
before it have read the other level. -/
def AcceptsDebounced (watched : Config Button × List (Option Bool))
    (sample : Sample) : Prop :=
  let config := watched.1
  let after := ((machine Button).step config sample).maquina
  let sent := (machine Button).emit config sample
  config.control.callsPlug = true →
    after.enchufada ≠ config.maquina.enchufada ∨
      .serial1 "ON" ∈ sent ∨ .serial1 "OFF" ∈ sent →
    List.replicate 50 (some (!config.maquina.enchufada)) <:+
      anota config sample watched.2

instance (watched : Config Button × List (Option Bool)) (sample : Sample) :
    Decidable (OffIsClean watched sample) :=
  inferInstanceAs (Decidable (_ → _))

instance (watched : Config Button × List (Option Bool)) (sample : Sample) :
    Decidable (AcceptsDebounced watched sample) :=
  inferInstanceAs (Decidable (_ → _ → _))

/-- The game of the machine and the count of its debouncer. -/
structure Watched (watched : Config Button × List (Option Bool)) : Prop where
  tracks : ∃ partida, Tracks watched.1 partida
  debounces : watched.1.maquina.cuentas.Debounces watched.2

theorem Watched.step {watched : Config Button × List (Option Bool)}
    (holds : Watched watched) {sample : Sample}
    (clean : OffIsClean watched sample) :
    Watched ((observed Button).step watched sample) := by
  obtain ⟨config, lecturas⟩ := watched
  obtain ⟨⟨partida, tracks⟩, debounces⟩ := holds
  obtain ⟨action, steps⟩ := step_tracks tracks sample
  refine ⟨⟨_, steps.tracks⟩, ?_⟩
  simp only [observed, MealyMachine.observe_step, anota]
  by_cases calls : config.control.callsPlug = true
  · rw [if_pos calls, step_plug tracks calls]
    exact debounces.plug sample.enchufe
  · have unread := step_unread sample (by simpa using calls)
    rw [if_neg calls]
    have kept : (match heard config sample with
      | some text =>
          config.maquina.cuentas.handle config.maquina.gamesWon text
      | none => config.maquina.cuentas).Debounces lecturas := by
      cases message : heard config sample with
      | none => exact debounces
      | some text =>
          exact debounces.handle (by rw [← message]; exact clean) _
    obtain ⟨enchufada, yaGano, counter⟩ := unread
    refine ⟨⟨counter ▸ kept.nonneg, counter ▸ kept.early⟩, ?_⟩
    unfold Cuentas.differs
    rw [enchufada, yaGano, counter]
    exact kept.counted

/-- The debounce counter is in its range at every point of every run. -/
theorem after_inRange (boot : Sample) (inputs : List Sample) :
    (after Button boot inputs).maquina.cuentas.InRange := by
  have preserved (config : Config Button) (sample : Sample)
      (holds : (∃ partida, Tracks config partida) ∧
        config.maquina.cuentas.InRange) :
      (∃ partida, Tracks ((machine Button).step config sample) partida) ∧
        ((machine Button).step config sample).maquina.cuentas.InRange := by
    obtain ⟨⟨partida, tracks⟩, inRange⟩ := holds
    obtain ⟨action, steps⟩ := step_tracks tracks sample
    refine ⟨⟨_, steps.tracks⟩, ?_⟩
    by_cases calls : config.control.callsPlug = true
    · rw [step_plug tracks calls]
      exact inRange.plug _
    · obtain ⟨-, -, counter⟩ := step_unread sample (by simpa using calls)
      have kept : (match heard config sample with
        | some text =>
            config.maquina.cuentas.handle config.maquina.gamesWon text
        | none => config.maquina.cuentas).InRange := by
        split
        · exact inRange.handle _ _
        · exact inRange
      exact ⟨counter ▸ kept.nonneg, counter ▸ kept.early⟩
  exact ((machine Button).run_invariant preserved
    ⟨⟨_, setup_tracks Button boot⟩, ⟨Int.le_refl 0, (by decide : (0 : Int) < 50)⟩⟩
    inputs).2

theorem setup_watched (Button : Type) [Bounce Button] (boot : Sample) :
    Watched ((setup boot : Config Button), []) where
  tracks := ⟨_, setup_tracks Button boot⟩
  debounces := ⟨⟨Int.le_refl 0, (by decide : (0 : Int) < 50)⟩,
    fun _ => Int.le_refl 0⟩

theorem Watched.accepts {watched : Config Button × List (Option Bool)}
    (holds : Watched watched) (sample : Sample) :
    AcceptsDebounced watched sample := by
  obtain ⟨config, lecturas⟩ := watched
  obtain ⟨⟨partida, tracks⟩, debounces⟩ := holds
  intro calls accepted
  have announced := plug_announced tracks calls sample
  have flips : ((machine Button).step config sample).maquina.enchufada ≠
      config.maquina.enchufada := by
    rcases accepted with flips | on | off
    · exact flips
    · obtain ⟨before, after⟩ := (announced true).mp on
      rw [before, after]
      simp
    · obtain ⟨before, after⟩ := (announced false).mp off
      rw [before, after]
      simp
  have plug := @step_plug _ _ _ sample _ tracks calls
  have accepts := debounces.accepted
    (show (config.maquina.cuentas.plug sample.enchufe).enchufada ≠
        config.maquina.cuentas.enchufada by
      rw [← plug]
      exact flips)
  unfold anota
  rw [if_pos calls]
  exact accepts

/-- In every run whose `off` commands find no partial count, the plug is
accepted only after fifty calls in a row which read the new level. -/
theorem enchufe_debounced (boot : Sample) {inputs : List Sample}
    (clean : (observed Button).Along OffIsClean (setup boot, []) inputs) :
    (observed Button).Along AcceptsDebounced (setup boot, []) inputs := by
  have preserved (watched : Config Button × List (Option Bool))
      (sample : Sample) (clean : OffIsClean watched sample)
      (holds : Watched watched) :
      Watched ((observed Button).step watched sample) :=
    holds.step clean
  have accepts (watched : Config Button × List (Option Bool))
      (sample : Sample) (_ : OffIsClean watched sample)
      (holds : Watched watched) : AcceptsDebounced watched sample :=
    holds.accepts sample
  exact (observed Button).along_of_invariant preserved accepts
    (setup_watched Button boot) clean

end Runs

/-- The plug is in, nobody else touches the room, and the operator switches the
machine off before it is on. -/
theorem enchufe_debounced_reposo :
    (observed StableButton).Along AcceptsDebounced (setup .reposo, [])
      (deliver .reposo "off" ++
        (List.replicate 30 (iteration .enchufado [])).flatten) :=
  enchufe_debounced .reposo (by decide +kernel)

/-- The operator switches the machine off one iteration after it came on, when
the plug has just been read `low` twice.  The next 48 readings of `high` switch
it on again. -/
theorem enchufe_not_debounced :
    ¬ (observed StableButton).Along AcceptsDebounced (setup .reposo, [])
      (iteration .enchufado "off".toList ++
        (List.replicate 24 (iteration .enchufado [])).flatten ++
        List.replicate 8 .reposo ++
        (List.replicate 24 (iteration .enchufado [])).flatten) := by
  decide +kernel

end Salsipuedes.Maquina

import Salsipuedes.MaquinaReceptor
import Salsipuedes.MaquinaTrueno

/-!
# The dwell of the radio

The radio puzzle asks for a thousand calls in a row which find the radio tuned.
An observer notes what each call of the current game finds, and the dwell
counter is compared with the streak of tuned calls.
-/

namespace Salsipuedes.Maquina

variable {Button : Type}

/-! ## Dwell counter -/

/-- The switches are set and the frequency is met. -/
def sintonizada (sample : Sample) : Bool :=
  sample.radio2 = valorR2 && sample.radio3 = valorR3 &&
    decide ((sample.a13 - valorR1).natAbs < 40)

/-- The calls of a game have just been tuned for the whole dwell for the first
time. -/
def CompletesDwell (calls : List Bool) : Prop :=
  1000 ≤ streak id calls ∧ ∀ n < calls.length, streak id (calls.take n) < 1000

instance (calls : List Bool) : Decidable (CompletesDwell calls) :=
  inferInstanceAs (Decidable (_ ∧ _))

/-- The dwell counter of a game which has not been tuned for long enough: after
a tuned call it lacks the streak of tuned calls. -/
structure Dwells (tiempoRadio : Int) (calls : List Bool) : Prop where
  unfinished : ∀ n ≤ calls.length, streak id (calls.take n) < 1000
  timed : calls.getLast? = some true → tiempoRadio = 1000 - streak id calls

namespace Dwells

variable {tiempoRadio : Int} {calls : List Bool}

theorem nil (tiempoRadio : Int) : Dwells tiempoRadio [] :=
  ⟨by simp, by simp⟩

theorem current (dwells : Dwells tiempoRadio calls) : streak id calls < 1000 := by
  simpa using dwells.unfinished calls.length (Nat.le_refl _)

/-- Another call does not finish the dwell while its streak is too short. -/
theorem unfinished_concat (dwells : Dwells tiempoRadio calls) {tuned : Bool}
    (short : streak id (calls ++ [tuned]) < 1000) :
    ∀ n ≤ (calls ++ [tuned]).length,
      streak id ((calls ++ [tuned]).take n) < 1000 := by
  intro n bound
  by_cases last : n = (calls ++ [tuned]).length
  · rw [last, List.take_length]
    exact short
  · have early : n ≤ calls.length := by
      rw [List.length_append, List.length_singleton] at bound last
      omega
    rw [List.take_append_of_le_length early]
    exact dwells.unfinished n early

/-- The dwell is completed by the call which makes the streak long enough. -/
theorem completes_iff (dwells : Dwells tiempoRadio calls) (tuned : Bool) :
    CompletesDwell (calls ++ [tuned]) ↔
      1000 ≤ streak id (calls ++ [tuned]) := by
  refine and_iff_left fun n bound => ?_
  have early : n ≤ calls.length := by
    rw [List.length_append, List.length_singleton] at bound
    omega
  rw [List.take_append_of_le_length early]
  exact dwells.unfinished n early

end Dwells

/-- The streak of a history whose last observation failed, or which is empty. -/
theorem streak_of_getLast {calls : List Bool}
    (untuned : calls.getLast? ≠ some true) : streak id calls = 0 := by
  rcases calls.eq_nil_or_concat with rfl | ⟨before, last, rfl⟩
  · rfl
  · rw [List.concat_eq_append] at untuned ⊢
    cases last with
    | false => exact streak_concat_of_not id rfl before
    | true => simp at untuned

theorem dwell_of_tuned {sample : Sample} (tuned : sintonizada sample = true)
    (tiempoRadio : Int) :
    dwell sample tiempoRadio = toInt 16 (tiempoRadio - 1) := by
  simp only [sintonizada, Bool.and_eq_true, decide_eq_true_eq] at tuned
  unfold dwell
  rw [if_pos tuned.1, if_pos (by exact_mod_cast tuned.2)]

/-- A tuned call counts once. -/
theorem Dwells.tuned {tiempoRadio : Int} {calls : List Bool}
    (dwells : Dwells tiempoRadio calls)
    (full : calls.getLast? ≠ some true → tiempoRadio = tiempoRadioTotal)
    {sample : Sample} (tuned : sintonizada sample = true) :
    dwell sample tiempoRadio = 1000 - streak id (calls ++ [true]) := by
  have short := dwells.current
  have counted : tiempoRadio = 1000 - streak id calls := by
    by_cases last : calls.getLast? = some true
    · exact dwells.timed last
    · rw [full last, streak_of_getLast last]
      rfl
  rw [dwell_of_tuned tuned, streak_concat_of_meets id rfl, counted]
  refine (toInt_of_small (by omega) (by omega)).trans ?_
  push_cast
  omega

/-! ## Calls of `checkRadio` -/

section Calls

variable {maquina : Maquina Button} {sample : Sample}

theorem tuneRadio_tiempoRadio (maquina : Maquina Button)
    (set : sample.radio2 = valorR2 ∧ sample.radio3 = valorR3) :
    (tuneRadio (sample.a13 - valorR1).natAbs maquina).tiempoRadio =
      dwell sample maquina.tiempoRadio := by
  unfold tuneRadio dwell
  rw [if_pos set]
  dsimp only
  split <;> rfl

theorem sintonizada_iff :
    sintonizada sample = true ↔
      (sample.radio2 = valorR2 ∧ sample.radio3 = valorR3) ∧
        (sample.a13 - valorR1).natAbs < 40 := by
  simp [sintonizada]

/-- A call of `checkRadio` wins when it is tuned and ends the dwell. -/
theorem checkRadio_wins {partida : Partida} (shows : Shows maquina partida)
    (unsolved : maquina.radioWon = false) :
    Performs partida
      (if sintonizada sample = true ∧ dwell sample maquina.tiempoRadio = 0 then
        .solve .radio
      else
        .idle) maquina (checkRadio sample maquina) := by
  unfold checkRadio
  dsimp only
  by_cases set : sample.radio2 = valorR2 ∧ sample.radio3 = valorR3
  · have quiet := tuneRadio_quiet (sample.a13 - valorR1).natAbs maquina
    rw [if_pos set, tuneRadio_tiempoRadio maquina set]
    by_cases ends : dwell sample maquina.tiempoRadio = 0
    · have tuned : sintonizada sample = true := by
        rw [sintonizada_iff]
        refine ⟨set, ?_⟩
        by_contra far
        unfold dwell at ends
        rw [if_pos set, if_neg (by exact_mod_cast far)] at ends
        simp [tiempoRadioTotal] at ends
      rw [if_pos ends, if_pos ⟨tuned, ends⟩]
      exact quiet.then_performs (winRadio_performs sample
        (shows.of_quiet quiet) (by rw [quiet.progreso]; exact unsolved))
    · rw [if_neg ends, if_neg (fun wins => ends wins.2)]
      exact quiet.performs shows
  · have untuned : ¬ (sintonizada sample = true ∧
        dwell sample maquina.tiempoRadio = 0) :=
      fun wins => set (sintonizada_iff.mp wins.1).1
    rw [if_neg set, if_neg untuned]
    exact (emit_quiet _ rfl _).performs shows

end Calls

/-! ## Games -/

/-- The commands which begin a game anew. -/
def clearing : List Text :=
  ["reset".toList, "on".toList, "off".toList, "win".toList]

section Games

variable [Bounce Button]

/-- A step which ends the current game: it handles one of these commands or
accepts that the machine is unplugged. -/
def EndsGame (config : Config Button) (sample : Sample) : Prop :=
  (∃ text ∈ clearing, heard config sample = some text) ∨
    (config.control.callsPlug = true ∧ config.maquina.enchufada = true ∧
      ((machine Button).step config sample).maquina.enchufada = false)

instance (config : Config Button) (sample : Sample) :
    Decidable (EndsGame config sample) :=
  inferInstanceAs (Decidable (_ ∨ _))

/-- The control point and the globals call `checkRadio`. -/
def CallsRadio (config : Config Button) : Prop :=
  config.control = .radio ∧ config.maquina.radioWon = false

instance (config : Config Button) : Decidable (CallsRadio config) :=
  inferInstanceAs (Decidable (_ ∧ _))

/-- What the calls of `checkRadio` have found in the current game. -/
def escucha (config : Config Button) (sample : Sample) (calls : List Bool) :
    List Bool :=
  if EndsGame config sample then []
  else if CallsRadio config then calls ++ [sintonizada sample]
  else calls

/-- The machine and the calls of `checkRadio` in its current game. -/
def listened (Button : Type) [Bounce Button] :
    MealyMachine (Config Button × List Bool) Sample Event :=
  (machine Button).observe escucha

/-- A game which ends is forgotten. -/
theorem along_of_endsGame {Goal : Config Button × List Bool → Sample → Prop}
    {config : Config Button} {sample : Sample} (ends : EndsGame config sample)
    {calls : List Bool} {rest : List Sample}
    (along : (listened Button).Along Goal (config, calls) (sample :: rest)) :
    (listened Button).Along Goal ((machine Button).step config sample, [])
      rest := by
  have forgotten : escucha config sample calls = [] := if_pos ends
  have later := along.2
  rw [listened, MealyMachine.observe_step, forgotten] at later
  exact later

/-- A tuned call which follows no tuned call of its game finds the dwell
counter full. -/
def BeginsFull (heard : Config Button × List Bool) (sample : Sample) : Prop :=
  CallsRadio heard.1 → sintonizada sample = true →
    heard.2.getLast? ≠ some true →
    heard.1.maquina.tiempoRadio = tiempoRadioTotal

/-- The radio is won in this step exactly if it calls `checkRadio` and this call
is the first one of the game which completes the dwell. -/
def WinsByDwell (heard : Config Button × List Bool) (sample : Sample) : Prop :=
  let config := heard.1
  let after := ((machine Button).step config sample).maquina
  let completes := CallsRadio config ∧
    CompletesDwell (heard.2 ++ [sintonizada sample])
  (.serial1 "RWIN" ∈ (machine Button).emit config sample ↔ completes) ∧
    (config.maquina.radioWon = false ∧ after.radioWon = true ↔ completes)

instance (heard : Config Button × List Bool) (sample : Sample) :
    Decidable (BeginsFull heard sample) :=
  inferInstanceAs (Decidable (_ → _ → _ → _))

instance (heard : Config Button × List Bool) (sample : Sample) :
    Decidable (WinsByDwell heard sample) :=
  inferInstanceAs (Decidable ((_ ↔ _) ∧ (_ ↔ _)))

/-- Without an end of the game, an action marks puzzles and may release the
exit, but forgets neither. -/
theorem Partida.act_keeps {partida : Partida} {action : Partida.Action}
    (goesOn : action ≠ .unplug ∧ ∀ text ∈ clearing, action ≠ .command text)
    (locked : (partida.act action).released = false) :
    partida.released = false ∧
      (Puzzle.radio ∉ (partida.act action).solved →
        Puzzle.radio ∉ partida.solved) := by
  cases action with
  | idle | lose => exact ⟨locked, id⟩
  | unplug => exact absurd rfl goesOn.1
  | solve puzzle =>
      rw [Partida.act, Partida.released_solve] at locked
      refine ⟨locked, fun unsolved => ?_⟩
      rw [Partida.act, Partida.solve] at unsolved
      split at unsolved
      · exact fun member => unsolved (Finset.mem_insert_of_mem member)
      · exact unsolved
  | command text =>
      have other (word : Text) (member : word ∈ clearing) : text ≠ word := by
        rintro rfl
        exact goesOn.2 text member rfl
      have seated : partida.sillaOn.released = partida.released ∧
          partida.sillaOn.solved = partida.solved := by
        unfold Partida.sillaOn
        split <;> exact ⟨rfl, rfl⟩
      have kept : partida.command text = Partida.finished ∨
          ((partida.command text).released = partida.released ∧
            (partida.command text).solved = partida.solved) := by
        rw [Partida.command, if_neg (other _ (by decide)),
          if_neg (other _ (by decide)), if_neg (other _ (by decide)),
          if_neg (other _ (by decide))]
        repeat' split
        all_goals first
          | exact .inr seated
          | exact .inr ⟨rfl, rfl⟩
          | exact .inl rfl
      rcases kept with finished | ⟨released, solved⟩
      · rw [Partida.act, finished] at locked
        simp [Partida.finished] at locked
      · rw [Partida.act] at locked ⊢
        exact ⟨released ▸ locked, fun unsolved => solved ▸ unsolved⟩

/-- The puzzles are checked only while the exit is locked. -/
def Control.checksPuzzles : Control → Bool
  | .knobs | .radio => true
  | _ => false

theorem Flow.locked {partida : Partida} {before after : Control}
    {action : Partida.Action} (flow : Flow partida before action after)
    (locked : before.checksPuzzles = true → partida.released = false)
    (checks : after.checksPuzzles = true) :
    (partida.act action).released = false := by
  cases flow with
  | plugged plug solved =>
      by_contra released
      exact (partida.act action).released_unplugged (by simpa using released)
        solved
  | knobs puzzle =>
      rcases puzzle with rfl | rfl
      · exact locked rfl
      · rw [Partida.act, Partida.released_solve]
        exact locked rfl
  | _ => simp [Control.checksPuzzles] at checks

/-- The flag of the radio goes up in this step. -/
def MarksRadio (config : Config Button) (sample : Sample) : Prop :=
  config.maquina.radioWon = false ∧
    ((machine Button).step config sample).maquina.radioWon = true

instance (config : Config Button) (sample : Sample) :
    Decidable (MarksRadio config sample) :=
  inferInstanceAs (Decidable (_ ∧ _))

/-- `RWIN` announces that the radio is marked. -/
theorem radio_announced {config : Config Button} {partida : Partida}
    (tracks : Tracks config partida) (sample : Sample) :
    .serial1 "RWIN" ∈ (machine Button).emit config sample ↔
      MarksRadio config sample := by
  have counted := @step_announces _ _ _ _ tracks sample .radio (by simp)
  have positive : 0 < ((machine Button).emit config sample).countP
      (Event.announces .radio) ↔
        .serial1 "RWIN" ∈ (machine Button).emit config sample := by
    rw [List.countP_pos_iff]
    constructor
    · rintro ⟨event, member, announces⟩
      obtain rfl := of_decide_eq_true announces
      exact member
    · intro member
      exact ⟨_, member, rfl⟩
  rw [← positive, counted]
  change 0 < (if MarksRadio config sample then 1 else 0) ↔ _
  split <;> simp [*]

/-- Only solving the radio marks it, and only at its control point. -/
theorem MarksRadio.callsRadio {config : Config Button} {partida : Partida}
    {sample : Sample} (tracks : Tracks config partida)
    (marks : MarksRadio config sample) : CallsRadio config := by
  obtain ⟨unmarked, marked⟩ := marks
  refine ⟨?_, unmarked⟩
  obtain ⟨action, steps⟩ := step_tracks tracks sample
  rw [tracks.shows.progreso] at unmarked
  rw [steps.tracks.shows.progreso] at marked
  have unsolved : Puzzle.radio ∉ partida.solved := by
    simpa [Partida.progreso] using unmarked
  have solved : Puzzle.radio ∈ (partida.act action).solved := by
    simpa [Partida.progreso] using marked
  have solves : action = .solve .radio := by
    cases action with
    | idle | lose => exact absurd solved unsolved
    | unplug => simp [Partida.act, Partida.fresh] at solved
    | command text =>
        exact absurd solved (Partida.notMem_command (by simp) text unsolved)
    | solve puzzle =>
        have inserted : Puzzle.radio ∈ (partida.solve puzzle).solved := solved
        rw [Partida.solved_solve steps.enabled, Finset.mem_insert] at inserted
        rw [inserted.resolve_right unsolved]
  subst solves
  have flow := steps.flow
  generalize ((machine Button).step config sample).control = next at flow
  generalize config.control = control at flow ⊢
  cases flow with
  | radio => rfl
  | plugged plug | unplugged plug | enchufe plug =>
      simp [Partida.Action.OfPlug] at plug
  | knobs puzzle => simp at puzzle
  | poll poll | press poll | incoming poll =>
      simp [Partida.Action.OfPoll] at poll

/-- A call of `checkRadio` marks the radio when it is tuned and ends the
dwell. -/
theorem marksRadio_iff {config : Config Button} {partida : Partida}
    {sample : Sample} (tracks : Tracks config partida)
    (calls : CallsRadio config) :
    MarksRadio config sample ↔ sintonizada sample = true ∧
      dwell sample config.maquina.tiempoRadio = 0 := by
  obtain ⟨control, maquina⟩ := config
  obtain ⟨rfl, unmarked⟩ : control = .radio ∧ maquina.radioWon = false := calls
  have silent : Shows { maquina with out := [] } partida :=
    ⟨tracks.shows.progreso, tracks.shows.relays, tracks.shows.strip1⟩
  have stepped : ((machine Button).step ⟨.radio, maquina⟩ sample).maquina =
      checkRadio sample { maquina with out := [] } :=
    if_pos unmarked
  have shown := (@checkRadio_wins _ _ sample _ silent unmarked).shows.progreso
  rw [MarksRadio, stepped, and_iff_right unmarked, shown]
  have unsolved : Puzzle.radio ∉ partida.solved := by
    rw [tracks.shows.progreso] at unmarked
    simpa [Partida.progreso] using unmarked
  have can : partida.CanSolve .radio := ⟨unsolved, by simp⟩
  change _ ↔ sintonizada sample = true ∧ dwell sample maquina.tiempoRadio = 0
  by_cases wins : sintonizada sample = true ∧
      dwell sample maquina.tiempoRadio = 0
  · rw [if_pos wins]
    simp [Partida.act, Partida.progreso, Partida.solved_solve can, wins]
  · rw [if_neg wins]
    have unchanged : ¬ decide (Puzzle.radio ∈ partida.solved) = true := by
      simpa using unsolved
    exact iff_of_false unchanged wins

/-! ## Runs -/

/-- The game, its exit and its dwell counter at a point of a run. -/
structure Listened (listened : Config Button × List Bool) : Prop where
  tracks : ∃ partida, Tracks listened.1 partida
  locked : listened.1.control.checksPuzzles = true →
    listened.1.maquina.yaGano = false
  dwells : listened.1.maquina.yaGano = false →
    listened.1.maquina.radioWon = false →
      Dwells listened.1.maquina.tiempoRadio listened.2

theorem Listened.wins {listened : Config Button × List Bool}
    (holds : Listened listened) {sample : Sample}
    (full : BeginsFull listened sample) : WinsByDwell listened sample := by
  obtain ⟨config, calls⟩ := listened
  obtain ⟨⟨partida, tracks⟩, locked, dwells⟩ := holds
  have completes : MarksRadio config sample ↔ CallsRadio config ∧
      CompletesDwell (calls ++ [sintonizada sample]) := by
    have dwelling (callsRadio : CallsRadio config) :
        Dwells config.maquina.tiempoRadio calls := by
      have checks : config.control.checksPuzzles = true := by
        rw [callsRadio.1]
        rfl
      exact dwells (locked checks) callsRadio.2
    constructor
    · intro marks
      have callsRadio : CallsRadio config := marks.callsRadio tracks
      obtain ⟨tuned, ends⟩ := (marksRadio_iff tracks callsRadio).mp marks
      have dwelling := dwelling callsRadio
      refine ⟨callsRadio, (dwelling.completes_iff _).mpr ?_⟩
      rw [dwelling.tuned (full callsRadio tuned) tuned] at ends
      rw [tuned]
      omega
    · rintro ⟨callsRadio, completed⟩
      have dwelling := dwelling callsRadio
      have long := completed.1
      have tuned : sintonizada sample = true := by
        by_contra untuned
        rw [streak_concat_of_not id (by simpa using untuned)] at long
        simp at long
      rw [marksRadio_iff tracks callsRadio]
      refine ⟨tuned, ?_⟩
      have short := dwelling.current
      rw [dwelling.tuned (full callsRadio tuned) tuned]
      rw [tuned, streak_concat_of_meets id rfl] at long
      rw [streak_concat_of_meets id rfl]
      omega
  exact ⟨(radio_announced tracks sample).trans completes, completes⟩

/-- The dwell counter changes in calls of `checkRadio` only. -/
theorem step_tiempoRadio {config : Config Button} {partida : Partida}
    (tracks : Tracks config partida) (sample : Sample) :
    ((machine Button).step config sample).maquina.tiempoRadio =
      if CallsRadio config then dwell sample config.maquina.tiempoRadio
      else config.maquina.tiempoRadio := by
  have plugged (cuentas : Cuentas) (now : Bool) :
      (cuentas.plug now).tiempoRadio = cuentas.tiempoRadio := by
    unfold Cuentas.plug
    repeat' split
    all_goals rfl
  have handled (cuentas : Cuentas) (stage : Int) (text : Text) :
      (cuentas.handle stage text).tiempoRadio = cuentas.tiempoRadio := by
    unfold Cuentas.handle
    repeat' split
    all_goals rfl
  change ((machine Button).step config sample).maquina.cuentas.tiempoRadio = _
  by_cases radio : config.control = .radio
  · rw [step_radio radio]
    by_cases unmarked : config.maquina.radioWon = false
    · rw [if_pos unmarked, if_pos ⟨radio, unmarked⟩]
    · rw [if_neg unmarked, if_neg (fun calls => unmarked calls.2)]
      rfl
  rw [if_neg (fun calls => radio calls.1)]
  by_cases calls : config.control.callsPlug = true
  · rw [step_plug tracks calls, plugged]
    rfl
  by_cases rayos : config.control = .rayos
  · rw [step_rayos rayos]
    split <;> rfl
  · rw [step_heard (by simpa using calls) radio rayos]
    split
    · exact handled _ _ _
    · rfl

/-- A step which does not end the game performs an action which does not. -/
theorem goesOn_of_not_endsGame {config : Config Button} {partida : Partida}
    {sample : Sample} {action : Partida.Action} (tracks : Tracks config partida)
    (steps : Steps config partida sample action)
    (goesOn : ¬ EndsGame config sample) :
    action ≠ .unplug ∧ ∀ text ∈ clearing, action ≠ .command text := by
  constructor
  · rintro rfl
    refine goesOn (.inr ⟨steps.flow.callsPlug (.inr rfl), ?_, ?_⟩)
    · rw [tracks.shows.progreso]
      exact decide_eq_true steps.enabled
    · rw [steps.tracks.shows.progreso]
      rfl
  · rintro text member rfl
    refine goesOn (.inl ⟨text, member, ?_⟩)
    rw [← received_iff_heard tracks, steps.mem_emit rfl]
    exact partida.received_mem_report text

theorem Listened.step {listened : Config Button × List Bool}
    (holds : Listened listened) {sample : Sample}
    (full : BeginsFull listened sample) :
    Listened (((machine Button).observe escucha).step listened sample) := by
  have wins := holds.wins full
  obtain ⟨config, calls⟩ := listened
  obtain ⟨⟨partida, tracks⟩, locked, dwells⟩ := holds
  obtain ⟨action, steps⟩ := step_tracks tracks sample
  have exit (shown : Partida) : shown.progreso.yaGano = shown.released := rfl
  refine ⟨⟨_, steps.tracks⟩, fun checks => ?_, fun stillLocked unmarked => ?_⟩
  · rw [MealyMachine.observe_step] at checks ⊢
    rw [steps.tracks.shows.progreso, exit]
    refine steps.flow.locked (fun checked => ?_) checks
    rw [← exit, ← tracks.shows.progreso]
    exact locked checked
  · rw [MealyMachine.observe_step] at stillLocked unmarked ⊢
    dsimp only at stillLocked unmarked ⊢
    unfold escucha
    by_cases ends : EndsGame config sample
    · rw [if_pos ends]
      exact Dwells.nil _
    have kept := Partida.act_keeps (goesOn_of_not_endsGame tracks steps ends)
      (by rw [steps.tracks.shows.progreso] at stillLocked; exact stillLocked)
    have before : config.maquina.yaGano = false := by
      rw [tracks.shows.progreso]
      exact kept.1
    have beforeUnmarked : config.maquina.radioWon = false := by
      rw [steps.tracks.shows.progreso] at unmarked
      rw [tracks.shows.progreso]
      exact decide_eq_false (kept.2 (by simpa [Partida.progreso] using unmarked))
    have dwelling := dwells before beforeUnmarked
    rw [if_neg ends, step_tiempoRadio tracks]
    by_cases callsRadio : CallsRadio config
    · rw [if_pos callsRadio, if_pos callsRadio]
      have short : streak id (calls ++ [sintonizada sample]) < 1000 := by
        by_contra long
        have completed := (dwelling.completes_iff (sintonizada sample)).mpr
          (Nat.le_of_not_lt long)
        have marked := (wins.2.mpr ⟨callsRadio, completed⟩).2
        rw [marked] at unmarked
        simp at unmarked
      refine ⟨dwelling.unfinished_concat short, fun last => ?_⟩
      have tuned : sintonizada sample = true := by simpa using last
      rw [dwelling.tuned (full callsRadio tuned) tuned, tuned]
    · rw [if_neg callsRadio, if_neg callsRadio]
      exact dwelling

/-- In every run in which tuned stretches begin with a full dwell counter, the
radio is won exactly by the first call of a game which completes a thousand
tuned calls in a row. -/
theorem radio_won_by_dwell (boot : Sample) {inputs : List Sample}
    (full : (listened Button).Along BeginsFull (setup boot, []) inputs) :
    (listened Button).Along WinsByDwell (setup boot, []) inputs := by
  have initially : Listened ((setup boot : Config Button), []) :=
    ⟨⟨_, setup_tracks Button boot⟩, fun _ => rfl, fun _ _ => Dwells.nil _⟩
  have preserved (watched : Config Button × List Bool) (sample : Sample)
      (full : BeginsFull watched sample) (holds : Listened watched) :
      Listened ((listened Button).step watched sample) :=
    holds.step full
  have wins (watched : Config Button × List Bool) (sample : Sample)
      (full : BeginsFull watched sample) (holds : Listened watched) :
      WinsByDwell watched sample :=
    holds.wins full
  exact (listened Button).along_of_invariant preserved wins initially full

end Games

/-! ## A dwell shared by two games -/

/-- The plug is in and the radio is tuned. -/
def Sample.sintonizado : Sample :=
  .conRadio valorR1 valorR2 valorR3

/-- Nothing is received while the machine is plugged in. -/
def pluggingIn : List Sample :=
  (List.replicate 25 (iteration .enchufado [])).flatten

section Tuning

/-- Nothing is heard on a silent link. -/
theorem heard_silent {config : Config Button} {sample : Sample}
    (silent : config.maquina.incomingData = []) (nothing : sample.serial1 = []) :
    heard config sample = none := by
  have uncompleted : completed sample config.maquina = none := by
    rw [completed, nothing, IdleReceiver.receive_nil, silent]
    rfl
  unfold heard
  split
  · exact uncompleted
  · rw [uncompleted, ite_self]
  · rfl

variable [Bounce Button]

/-- Nothing has been received, and a tuned stretch goes on or may begin. -/
structure Atenta (listened : Config Button × List Bool) : Prop where
  tracks : ∃ partida, Tracks listened.1 partida
  silent : listened.1.maquina.incomingData = []
  dwells : listened.2.getLast? = some true ∨
    listened.1.maquina.tiempoRadio = tiempoRadioTotal

theorem Atenta.step {heard : Config Button × List Bool} (atenta : Atenta heard) :
    Atenta ((listened Button).step heard .sintonizado) := by
  obtain ⟨config, calls⟩ := heard
  obtain ⟨⟨partida, tracks⟩, silent, dwells⟩ := atenta
  obtain ⟨action, steps⟩ := step_tracks tracks .sintonizado
  have nothing : Sample.sintonizado.serial1 = [] := rfl
  have goesOn : ¬ EndsGame config .sintonizado := by
    rintro (⟨text, -, handled⟩ | ⟨calls, plugged, unplugged⟩)
    · rw [heard_silent silent nothing] at handled
      exact absurd handled (Option.some_ne_none _).symm
    · have kept : (config.maquina.cuentas.plug true).enchufada = true := by
        have before : config.maquina.cuentas.enchufada = true := plugged
        unfold Cuentas.plug
        rw [before, if_pos rfl]
        split
        · exact before
        · rfl
      have same := congrArg Cuentas.enchufada
        (@step_plug _ _ _ Sample.sintonizado _ tracks calls)
      exact Bool.false_ne_true (unplugged.symm.trans (same.trans kept))
  refine ⟨⟨_, steps.tracks⟩, step_silent silent nothing, ?_⟩
  change (escucha config .sintonizado calls).getLast? = some true ∨
    ((machine Button).step config .sintonizado).maquina.tiempoRadio = _
  rw [escucha, if_neg goesOn, step_tiempoRadio tracks]
  by_cases radio : CallsRadio config
  · rw [if_pos radio]
    exact .inl List.getLast?_concat
  · rw [if_neg radio, if_neg radio]
    exact dwells

/-- However long the radio is tuned, each stretch begins with a full counter. -/
theorem Atenta.tuned {heard : Config Button × List Bool} (atenta : Atenta heard)
    (count : Nat) :
    (listened Button).Along BeginsFull heard
      (List.replicate count .sintonizado) := by
  induction count generalizing heard with
  | zero => trivial
  | succ count ih =>
      exact ⟨fun _ _ fresh => atenta.dwells.resolve_left fresh, ih atenta.step⟩

/-- Iterations which find the radio tuned lower the dwell counter. -/
theorem Flashing.tuned {maquina : Maquina Button} (flashing : Flashing maquina)
    (unmarked : maquina.radioWon = false) (count : Nat)
    (lasts : count < maquina.tiempoRadio) (small : maquina.tiempoRadio ≤ 1000)
    (going : count < maquina.turbinaCounter)
    (early : 0 ≤ maquina.lastCharTime ∧
      maquina.lastCharTime + count < 2 ^ 15) :
    (machine Button).run ⟨.loopStart, maquina⟩
        (List.replicate (8 * count) .sintonizado) =
      ⟨.loopStart, { flashed count maquina with
        tiempoRadio := maquina.tiempoRadio - count }⟩ := by
  induction count generalizing maquina with
  | zero => simp [flashed]
  | succ count ih =>
      push_cast at lasts going early
      have counted : toInt 16 (maquina.tiempoRadio - 1) =
          maquina.tiempoRadio - 1 :=
        toInt_of_small (by omega) (by omega)
      have notDue : ¬ maquina.tiempoRadio - 1 = 0 := by omega
      have radio : ∃ out, (machine Button).step
          ⟨.radio, { maquina with out := [] }⟩
          (.conRadio valorR1 valorR2 valorR3) =
            ⟨.simon, { maquina with
              tiempoRadio := maquina.tiempoRadio - 1, out := out }⟩ := by
        simp [machine, operation, checkRadio, tuneRadio, Sample.conRadio, emit,
          unmarked, counted, notDue]
      have once := (flashing.round (by omega) (by omega) radio).1
      have still : Flashing { flashed 1 maquina with
          tiempoRadio := maquina.tiempoRadio - 1 } :=
        ⟨flashing.locked, flashing.plugged, flashing.counted, flashing.settled,
          flashing.still, flashing.quiet, flashing.silent, flashing.dark,
          flashing.shown⟩
      have rest := ih still unmarked (by simp only; omega) (by simp only; omega)
        (by simp only [flashed]; omega) (by simp only [flashed]; omega)
      have split : List.replicate (8 * (count + 1)) Sample.sintonizado =
          List.replicate 8 .sintonizado ++
            List.replicate (8 * count) .sintonizado := by
        rw [← List.replicate_add]
        congr 1
        omega
      have turned : ({ flashed count { flashed 1 maquina with
          tiempoRadio := maquina.tiempoRadio - 1 } with
            tiempoRadio := maquina.tiempoRadio - 1 - count } : Maquina Button) =
          { flashed (count + 1) maquina with
            tiempoRadio := maquina.tiempoRadio - (count + 1 : Nat) } := by
        rw [← flashed_flashed count maquina]
        simp only [flashed, Maquina.mk.injEq, Counters.mk.injEq, true_and,
          and_true]
        push_cast
        omega
      rw [split, MealyMachine.run_append, Sample.sintonizado, once,
        ← Sample.sintonizado, rest, ← turned]

end Tuning

/-- The machine is plugged in and the turbine begins to flash. -/
def enchufando : List Sample :=
  pluggingIn ++ List.replicate 8 .enchufado

def enchufadaYa : Maquina StableButton :=
  (after StableButton .reposo enchufando).maquina

theorem flashing_enchufadaYa : Flashing enchufadaYa := by
  decide +kernel

/-- One tuned iteration before the radio is won. -/
def casiSintonizada : Maquina StableButton :=
  { flashed 999 enchufadaYa with tiempoRadio := 1 }

theorem after_casiSintonizada :
    after StableButton .reposo
        (enchufando ++ List.replicate (8 * 999) .sintonizado) =
      ⟨.loopStart, casiSintonizada⟩ := by
  have plugged : after StableButton .reposo enchufando =
      ⟨.loopStart, enchufadaYa⟩ := by
    decide +kernel
  have tuned := flashing_enchufadaYa.tuned (by decide +kernel) 999
    (by decide +kernel) (by decide +kernel) (by decide +kernel)
    (by decide +kernel)
  have last : enchufadaYa.tiempoRadio - (999 : Nat) = 1 := by decide +kernel
  rw [last] at tuned
  unfold after at plugged ⊢
  rw [MealyMachine.run_append, plugged]
  exact tuned

/-- The thousandth tuned call in a row wins. -/
theorem radio_won_by_dwell_sintonizado :
    let before := enchufando ++ List.replicate (8 * 999) .sintonizado
    (listened StableButton).Along WinsByDwell (setup .reposo, [])
        (before ++ List.replicate 3 .sintonizado) ∧
      .serial1 "RWIN" ∈ (machine StableButton).emit
        (after StableButton .reposo (before ++ List.replicate 2 .sintonizado))
        .sintonizado := by
  intro before
  constructor
  · refine radio_won_by_dwell .reposo ?_
    have plugged : ((listened StableButton).run (setup .reposo, []) enchufando).1 =
        after StableButton .reposo enchufando :=
      (machine StableButton).run_observe escucha _ _ _
    rw [List.append_assoc, ← List.replicate_add, MealyMachine.along_append]
    refine ⟨by decide +kernel, Atenta.tuned ⟨?_, ?_, .inr ?_⟩ _⟩
    · rw [plugged]
      exact after_tracks StableButton .reposo enchufando
    · rw [plugged]
      decide +kernel
    · rw [plugged]
      decide +kernel
  · rw [after_append, after_casiSintonizada]
    decide +kernel

/-- The machine is unplugged, plugged in again and tuned for one call. -/
def otraPartida : List Sample :=
  List.replicate 198 .reposo ++
    (.reposo :: .reposo :: pluggingIn ++ List.replicate 3 .sintonizado)

/-- Whatever the calls of the first game were, the first tuned call of the second
game wins. -/
theorem otraPartida_wins (calls : List Bool) :
    ¬ (listened StableButton).Along WinsByDwell
      (⟨.loopStart, casiSintonizada⟩, calls) otraPartida := by
  intro along
  rw [otraPartida, MealyMachine.along_append] at along
  obtain ⟨first, played⟩ := (machine StableButton).exists_run_observe escucha
    ⟨.loopStart, casiSintonizada⟩ calls (List.replicate 198 .reposo)
  rw [listened, played, ← listened] at along
  have ends : EndsGame ((machine StableButton).run
      ⟨.loopStart, casiSintonizada⟩ (List.replicate 198 .reposo)) .reposo := by
    decide +kernel
  have second := along_of_endsGame ends along.2
  revert second
  decide +kernel

/-- The radio is tuned for 999 iterations, the machine is unplugged and plugged
in again, and the first tuned call wins. -/
theorem radio_won_too_early :
    ¬ (listened StableButton).Along WinsByDwell (setup .reposo, [])
      ((enchufando ++ List.replicate (8 * 999) .sintonizado) ++ otraPartida) := by
  intro along
  rw [MealyMachine.along_append] at along
  obtain ⟨calls, played⟩ := (machine StableButton).exists_run_observe escucha
    (setup .reposo) [] (enchufando ++ List.replicate (8 * 999) .sintonizado)
  rw [← after, after_casiSintonizada] at played
  rw [listened, played] at along
  exact otraPartida_wins calls along.2

end Salsipuedes.Maquina

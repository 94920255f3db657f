import Salsipuedes.MaquinaStage

/-!
# What the players can reach

From every point of `loop` at which a game is going on, the players alone can
make it ready for Simon, unless the operator switched it on: they plug the
machine in, set the knobs and tune the radio.  The proof follows the operations
of `loop`, keeping the game and the few globals on which the puzzles depend.
-/

namespace Salsipuedes.Maquina

open EventHistory

/-- The game is neither cleared nor advanced by the operator. -/
def Event.Harmless (event : Event) : Prop :=
  event.clears = false ∧ event.grants = false

theorem Event.harmless_of_invisible {event : Event}
    (invisible : event.visible = false) : event.Harmless := by
  constructor
  · by_contra clears
    have := Event.visible_of_advances event (.inr (by simpa using clears))
    simp [this] at invisible
  · by_contra grants
    have granted : event = .received "manual".toList :=
      of_decide_eq_true ((Bool.not_eq_false _).mp grants)
    subst granted
    simp [Event.visible] at invisible

theorem Event.harmless_of_filter {events : List Event}
    (visible : ∀ event ∈ events.filter Event.visible, event.Harmless) :
    ∀ event ∈ events, event.Harmless := by
  intro event member
  by_cases seen : event.visible = true
  · exact visible event (List.mem_filter.mpr ⟨member, seen⟩)
  · exact Event.harmless_of_invisible (by simpa using seen)

theorem Partida.harmless_solve (partida : Partida) (puzzle : Puzzle) :
    ∀ event ∈ partida.report (.solve puzzle), event.Harmless := by
  have advances : ∀ event ∈ advance (partida.stage + 1), event.Harmless := by
    intro event member
    unfold advance at member
    split at member <;>
      simp only [List.mem_cons, List.not_mem_nil, or_false] at member
    · subst member
      exact ⟨rfl, rfl⟩
    · rcases member with rfl | rfl <;> exact ⟨rfl, rfl⟩
  intro event member
  cases puzzle with
  | enchufe =>
      rcases List.mem_cons.mp member with rfl | member
      · exact ⟨rfl, rfl⟩
      rcases List.mem_cons.mp member with rfl | member
      · exact ⟨rfl, rfl⟩
      · exact advances event member
  | knobs | radio | simon =>
      rcases List.mem_cons.mp member with rfl | member
      · exact ⟨rfl, rfl⟩
      · exact advances event member

/-! ## Globals of the puzzles -/

/-- What the puzzles depend on besides the game. -/
structure Memoria (Button : Type) where
  tiempoRadio : Int
  enchufeCounter : Int
  botonKnobs : Button

variable {Button : Type}

def memoria (maquina : Maquina Button) : Memoria Button :=
  ⟨maquina.tiempoRadio, maquina.enchufeCounter, maquina.botonKnobs⟩

/-- A function which touches neither the globals of the puzzles nor the buffer
of the link. -/
structure Apart (before after : Maquina Button) : Prop where
  memoria : after.memoria = before.memoria
  receiver : after.toIdleReceiver = before.toIdleReceiver

theorem Apart.refl (maquina : Maquina Button) : Apart maquina maquina :=
  ⟨rfl, rfl⟩

theorem Apart.trans {first second third : Maquina Button}
    (left : Apart first second) (right : Apart second third) :
    Apart first third :=
  ⟨right.memoria.trans left.memoria, right.receiver.trans left.receiver⟩

theorem emit_apart (event : Event) (maquina : Maquina Button) :
    Apart maquina (maquina.emit event) :=
  ⟨rfl, rfl⟩

theorem updateTurbina_apart (sample : Sample) (maquina : Maquina Button) :
    Apart maquina (updateTurbina sample maquina) := by
  obtain ⟨_, _, _, _, update⟩ := updateTurbina_frame sample maquina
  rw [update]
  exact ⟨rfl, rfl⟩

theorem rayoPega_apart (maquina : Maquina Button) :
    Apart maquina (rayoPega maquina) := by
  obtain ⟨_, _, _, strikes⟩ := rayoPega_frame maquina
  rw [strikes]
  exact ⟨rfl, rfl⟩

theorem rayoAvanza_apart (sample : Sample) (maquina : Maquina Button) :
    Apart maquina (rayoAvanza sample maquina) := by
  rw [(rayoAvanza_alumbra sample maquina).frame]
  exact ⟨rfl, rfl⟩

/-! ## Points of the loop -/

/-- A configuration at a control point, with its game, the globals of the
puzzles and a condition on the buffer of the link. -/
structure At (control : Control) (partida : Partida) (mesa : Memoria Button)
    (heard : IdleReceiver Char → Prop) (config : Config Button) : Prop where
  control : config.control = control
  shows : Shows config.maquina partida
  memoria : config.maquina.memoria = mesa
  heard : heard config.maquina.toIdleReceiver

section Operations

variable [Bounce Button] {control next : Control} {partida after : Partida}
variable {mesa later : Memoria Button} {heard known : IdleReceiver Char → Prop}

theorem leads_of_operation (sample : Sample)
    (operates : ∀ maquina : Maquina Button, maquina.out = [] →
      At control partida mesa heard ⟨control, maquina⟩ →
      (∀ event ∈ (operation sample control maquina).maquina.out.filter
        Event.visible, event.Harmless) ∧
      At next after later known (operation sample control maquina)) :
    (machine Button).Leads Event.Harmless (At control partida mesa heard)
      (At next after later known) := by
  apply MealyMachine.Leads.of_step
  rintro ⟨point, maquina⟩ ⟨here, shows, kept, buffer⟩
  obtain rfl : point = control := here
  have silent : At point partida mesa heard
      ⟨point, { maquina with out := [] }⟩ :=
    ⟨rfl, ⟨shows.progreso, shows.relays, shows.strip1⟩, kept, buffer⟩
  obtain ⟨harmless, reached⟩ := operates _ rfl silent
  exact ⟨sample, Event.harmless_of_filter harmless, reached⟩

/-- An operation which is quiet and leaves the puzzles alone. -/
theorem leads_of_quiet (sample : Sample)
    (operates : ∀ maquina : Maquina Button, Shows maquina partida →
      (operation sample control maquina).control = next ∧
        Quiet maquina (operation sample control maquina).maquina ∧
        Apart maquina (operation sample control maquina).maquina) :
    (machine Button).Leads Event.Harmless (At control partida mesa heard)
      (At next partida mesa heard) := by
  apply leads_of_operation sample
  rintro maquina silent ⟨-, shows, kept, buffer⟩
  obtain ⟨moved, quiet, apart⟩ := operates maquina shows
  refine ⟨?_, moved, shows.of_quiet quiet, apart.memoria.trans kept, ?_⟩
  · rw [quiet.visible, silent]
    simp
  · rw [apart.receiver]
    exact buffer

theorem simon_leads (stage : partida.stage < 3) :
    (machine Button).Leads Event.Harmless (At .simon partida mesa heard)
      (At .rayos partida mesa heard) := by
  apply leads_of_quiet .reposo
  intro maquina shows
  have notReady : maquina.simonReady = false := by
    rw [shows.progreso]
    simpa [Partida.progreso] using stage
  have waits : operation .reposo .simon maquina = ⟨.rayos, maquina⟩ :=
    if_neg (by simp [notReady])
  rw [waits]
  exact ⟨rfl, Quiet.refl maquina, Apart.refl maquina⟩

theorem rayos_leads :
    (machine Button).Leads Event.Harmless (At .rayos partida mesa heard)
      (At .turbina partida mesa heard) := by
  apply leads_of_quiet .reposo
  intro maquina shows
  refine ⟨rfl, ?_⟩
  dsimp only [operation]
  split
  · exact ⟨(emit_quiet _ rfl maquina).trans (rayoPega_quiet _),
      (emit_apart _ maquina).trans (rayoPega_apart _)⟩
  · exact ⟨Quiet.refl maquina, Apart.refl maquina⟩

theorem turbina_leads :
    (machine Button).Leads Event.Harmless (At .turbina partida mesa heard)
      (At .enchufe partida mesa heard) := by
  apply leads_of_quiet .reposo
  intro maquina shows
  exact ⟨rfl, updateTurbina_quiet _ maquina, updateTurbina_apart _ maquina⟩

/-! ### Plug -/

/-- Nobody touches the room and the plug stays as it is. -/
def Sample.quieto (partida : Partida) : Sample :=
  { Sample.reposo with enchufe := decide (Puzzle.enchufe ∈ partida.solved) }

omit [Bounce Button] in
theorem checkEnchufe_quieto {maquina : Maquina Button}
    (shows : Shows maquina partida) (locked : partida.released = false) :
    checkEnchufe (Sample.quieto partida) maquina =
      (decide (Puzzle.enchufe ∈ partida.solved),
        { maquina with enchufeCounter := 0 }) := by
  have notOver : maquina.yaGano = false := by
    rw [shows.progreso]
    exact locked
  have plug : maquina.enchufada = (Sample.quieto partida).enchufe := by
    rw [shows.progreso]
    rfl
  have unchanged : ¬ (Sample.quieto partida).enchufe ≠ maquina.enchufada := by
    rw [plug]
    simp
  unfold checkEnchufe
  rw [if_pos notOver]
  dsimp only
  rw [if_neg unchanged]
  exact Prod.ext plug rfl

theorem loopStart_leads (locked : partida.released = false) :
    (machine Button).Leads Event.Harmless (At .loopStart partida mesa heard)
      (At (if Puzzle.enchufe ∈ partida.solved then .knobs else .turbina) partida
        { mesa with enchufeCounter := 0 } heard) := by
  apply leads_of_operation (Sample.quieto partida)
  rintro maquina silent ⟨-, shows, kept, buffer⟩
  dsimp only [operation]
  rw [checkEnchufe_quieto shows locked]
  refine ⟨by simp [silent], ?_, ?_, ?_, buffer⟩
  · simp
  · exact ⟨shows.progreso, shows.relays, shows.strip1⟩
  · rw [← kept]
    rfl

theorem enchufe_leads (locked : partida.released = false) :
    (machine Button).Leads Event.Harmless (At .enchufe partida mesa heard)
      (At .incoming partida { mesa with enchufeCounter := 0 } heard) := by
  apply leads_of_operation (Sample.quieto partida)
  rintro maquina silent ⟨-, shows, kept, buffer⟩
  have plug : maquina.enchufada = decide (Puzzle.enchufe ∈ partida.solved) := by
    rw [shows.progreso]
    rfl
  dsimp only [operation]
  rw [checkEnchufe_quieto shows locked, ← plug]
  refine ⟨by simp [silent], rfl, ?_, ?_, buffer⟩
  · exact ⟨shows.progreso, shows.relays, shows.strip1⟩
  · rw [← kept]
    rfl

section Debounce

omit [Bounce Button]

variable {maquina : Maquina Button} {count : Nat}

theorem Shows.unplugged (shows : Shows maquina partida)
    (unplugged : Puzzle.enchufe ∉ partida.solved) :
    maquina.enchufada = false := by
  rw [shows.progreso]
  simpa [Partida.progreso] using unplugged

theorem Shows.locked (shows : Shows maquina partida)
    (locked : partida.released = false) : maquina.yaGano = false := by
  rw [shows.progreso]
  exact locked

theorem checkEnchufe_counts (shows : Shows maquina partida)
    (locked : partida.released = false)
    (unplugged : Puzzle.enchufe ∉ partida.solved)
    (counted : maquina.enchufeCounter = count) (early : count < 49) :
    checkEnchufe .enchufado maquina =
      (false, { maquina with enchufeCounter := count + 1 }) := by
  have plug := shows.unplugged unplugged
  have changed : Sample.enchufado.enchufe ≠ maquina.enchufada := by
    simp [plug, Sample.enchufado]
  unfold checkEnchufe
  rw [if_pos (shows.locked locked)]
  dsimp only
  rw [if_pos changed, if_neg (by rw [counted]; omega)]
  rw [plug, counted]

theorem checkEnchufe_accepts (shows : Shows maquina partida)
    (locked : partida.released = false)
    (unplugged : Puzzle.enchufe ∉ partida.solved)
    (counted : maquina.enchufeCounter = 49) :
    checkEnchufe .enchufado maquina =
      let accepted := acceptEnchufe .enchufado true
        { maquina with enchufeCounter := maquina.enchufeCounter + 1 }
      (accepted.enchufada, accepted) := by
  have plug := shows.unplugged unplugged
  have changed : Sample.enchufado.enchufe ≠ maquina.enchufada := by
    simp [plug, Sample.enchufado]
  unfold checkEnchufe
  rw [if_pos (shows.locked locked)]
  dsimp only
  rw [if_pos changed, if_pos (by rw [counted]; rfl)]
  rfl

end Debounce

variable {count : Nat}

theorem loopStart_counts (locked : partida.released = false)
    (unplugged : Puzzle.enchufe ∉ partida.solved)
    (counted : mesa.enchufeCounter = count) (early : count < 49) :
    (machine Button).Leads Event.Harmless (At .loopStart partida mesa heard)
      (At .turbina partida { mesa with enchufeCounter := count + 1 } heard) := by
  apply leads_of_operation .enchufado
  rintro maquina silent ⟨-, shows, kept, buffer⟩
  have now : maquina.enchufeCounter = count := by rw [← counted, ← kept]; rfl
  dsimp only [operation]
  rw [checkEnchufe_counts shows locked unplugged now early]
  refine ⟨by simp [silent], rfl, ?_, ?_, buffer⟩
  · exact ⟨shows.progreso, shows.relays, shows.strip1⟩
  · rw [← kept]
    rfl

theorem enchufe_counts (locked : partida.released = false)
    (unplugged : Puzzle.enchufe ∉ partida.solved)
    (counted : mesa.enchufeCounter = count) (early : count < 49) :
    (machine Button).Leads Event.Harmless (At .enchufe partida mesa heard)
      (At .incoming partida { mesa with enchufeCounter := count + 1 } heard) := by
  apply leads_of_operation .enchufado
  rintro maquina silent ⟨-, shows, kept, buffer⟩
  have now : maquina.enchufeCounter = count := by rw [← counted, ← kept]; rfl
  dsimp only [operation]
  rw [checkEnchufe_counts shows locked unplugged now early,
    ← shows.unplugged unplugged]
  refine ⟨by simp [silent], rfl, ?_, ?_, buffer⟩
  · exact ⟨shows.progreso, shows.relays, shows.strip1⟩
  · rw [← kept]
    rfl

omit [Bounce Button] in
theorem acceptEnchufe_mesa (sample : Sample) (maquina : Maquina Button) :
    Apart { maquina with enchufeCounter := 0 } (acceptEnchufe sample true maquina) := by
  have plugged : acceptEnchufe sample true maquina = rayoAvanza sample
      { (({ maquina with enchufada := true, enchufeCounter := 0 } :
          Maquina Button).emit (.serial1 "ON")).emit (.console "enchufe on" [])
        with gamesWon := maquina.gamesWon + 1 } :=
    rfl
  rw [plugged]
  refine Apart.trans ?_ (rayoAvanza_apart sample _)
  exact ⟨rfl, rfl⟩

/-- The fiftieth call in a row accepts the plug. -/
theorem enchufe_accepts (locked : partida.released = false)
    (unplugged : Puzzle.enchufe ∉ partida.solved)
    (counted : mesa.enchufeCounter = 49) :
    (machine Button).Leads Event.Harmless (At .enchufe partida mesa heard)
      (At .incoming (partida.solve .enchufe) { mesa with enchufeCounter := 0 }
        heard) := by
  apply leads_of_operation .enchufado
  rintro maquina silent ⟨-, shows, kept, buffer⟩
  have plug : maquina.enchufada = false := shows.unplugged unplugged
  have notOver := shows.locked locked
  have now : maquina.enchufeCounter = 49 := by rw [← counted, ← kept]; rfl
  dsimp only [operation]
  rw [checkEnchufe_accepts shows locked unplugged now]
  generalize entered : ({ maquina with
    enchufeCounter := maquina.enchufeCounter + 1 } : Maquina Button) = fiftieth
  have showsFiftieth : Shows fiftieth partida := by
    rw [← entered]
    exact ⟨shows.progreso, shows.relays, shows.strip1⟩
  have performs := @acceptEnchufe_performs _ _ _ .enchufado true showsFiftieth
    (by rw [← entered]; exact notOver) (by rw [← entered]; simp [plug])
  have apart := acceptEnchufe_mesa .enchufado fiftieth
  refine ⟨?_, rfl, performs.shows, ?_, ?_⟩
  · rw [performs.visible, ← entered, silent]
    exact Partida.harmless_solve partida .enchufe
  · rw [apart.memoria, ← kept, ← entered]
    rfl
  · rw [apart.receiver, ← entered]
    exact buffer

/-! ### Knobs -/

/-- The knobs are read at their values. -/
def Sample.KnobsSet (sample : Sample) : Prop :=
  (sample.a13 - valorK1).natAbs < margenKnobs ∧
    (sample.a14 - valorK2).natAbs < margenKnobs ∧
    (sample.a15 - valorK3).natAbs < margenKnobs

instance (sample : Sample) : Decidable sample.KnobsSet :=
  inferInstanceAs (Decidable (_ ∧ _ ∧ _))

omit [Bounce Button] in
theorem winKnobs_apart (sample : Sample) (maquina : Maquina Button) :
    Apart maquina (winKnobs sample maquina) := by
  unfold winKnobs
  refine Apart.trans ?_ (rayoAvanza_apart sample _)
  exact ⟨rfl, rfl⟩

theorem knobs_solved_leads (solved : Puzzle.knobs ∈ partida.solved) :
    (machine Button).Leads Event.Harmless (At .knobs partida mesa heard)
      (At .radio partida mesa heard) := by
  apply leads_of_quiet .reposo
  intro maquina shows
  have won : maquina.knobsWon = true := by
    rw [shows.progreso]
    simpa [Partida.progreso] using solved
  have passes : operation .reposo .knobs maquina = ⟨.radio, maquina⟩ := by
    simp [operation, won]
  rw [passes]
  exact ⟨rfl, Quiet.refl maquina, Apart.refl maquina⟩

/-- A call of `checkKnobs` which does not win only debounces the button. -/
theorem knobs_lose (sample : Sample) (unsolved : Puzzle.knobs ∉ partida.solved)
    (loses : ¬ (Bounce.rose (Bounce.update mesa.botonKnobs sample.buttonRed
      sample.millis) = true ∧ sample.KnobsSet)) :
    (machine Button).Leads Event.Harmless (At .knobs partida mesa heard)
      (At .radio partida { mesa with
        botonKnobs := Bounce.update mesa.botonKnobs sample.buttonRed
          sample.millis } heard) := by
  apply leads_of_operation sample
  rintro maquina silent ⟨-, shows, kept, buffer⟩
  have notWon : maquina.knobsWon = false := by
    rw [shows.progreso]
    simpa [Partida.progreso] using unsolved
  subst kept
  dsimp only [operation]
  rw [if_pos notWon]
  unfold checkKnobs
  dsimp only
  split
  · rename_i rose
    split
    · rename_i set
      exact absurd ⟨rose, set⟩ loses
    · refine ⟨?_, rfl, ⟨shows.progreso, shows.relays, shows.strip1⟩, rfl, buffer⟩
      simp [emit, Event.visible, silent]
  · refine ⟨?_, rfl, ⟨shows.progreso, shows.relays, shows.strip1⟩, rfl, buffer⟩
    simp [silent]

theorem knobs_win (sample : Sample) (unsolved : Puzzle.knobs ∉ partida.solved)
    (rose : Bounce.rose (Bounce.update mesa.botonKnobs sample.buttonRed
      sample.millis) = true) (set : sample.KnobsSet) :
    (machine Button).Leads Event.Harmless (At .knobs partida mesa heard)
      (At .radio (partida.solve .knobs) { mesa with
        botonKnobs := Bounce.update mesa.botonKnobs sample.buttonRed
          sample.millis } heard) := by
  apply leads_of_operation sample
  rintro maquina silent ⟨-, shows, kept, buffer⟩
  have notWon : maquina.knobsWon = false := by
    rw [shows.progreso]
    simpa [Partida.progreso] using unsolved
  subst kept
  dsimp only [operation]
  rw [if_pos notWon]
  unfold checkKnobs
  dsimp only
  split
  · split
    · generalize entered : emit (.console "check knobs" []) ({ maquina with
        botonKnobs := Bounce.update maquina.botonKnobs sample.buttonRed
          sample.millis } : Maquina Button) = ready
      have showsReady : Shows ready partida := by
        rw [← entered]
        exact ⟨shows.progreso, shows.relays, shows.strip1⟩
      have performs := winKnobs_performs sample showsReady
        (by rw [← entered]; exact notWon)
      have apart := (winKnobs_apart sample ready).trans (emit_apart
        (.console "knob values:" [sample.a13, sample.a14, sample.a15]) _)
      refine ⟨?_, rfl, ?_, ?_, ?_⟩
      · rw [(emit_quiet _ rfl _).visible, performs.visible, ← entered]
        simpa [emit, Event.visible, silent] using
          Partida.harmless_solve partida .knobs
      · exact performs.shows.of_quiet (emit_quiet _ rfl _)
      · rw [apart.memoria, ← entered]
        rfl
      · rw [apart.receiver, ← entered]
        exact buffer
    · rename_i notSet
      exact absurd set notSet
  · rename_i notRose
    exact absurd rose notRose

/-! ### Radio -/

/-- Both switches are set, and the frequency is `a13`. -/
def Sample.sintonia (frequency : Int) : Sample :=
  { Sample.reposo with a13 := frequency, radio2 := high, radio3 := high }

theorem radio_rests :
    (machine Button).Leads Event.Harmless (At .radio partida mesa heard)
      (At .simon partida mesa heard) := by
  apply leads_of_quiet .reposo
  intro maquina shows
  refine ⟨rfl, ?_⟩
  dsimp only [operation]
  split
  · exact ⟨emit_quiet _ rfl maquina, emit_apart _ maquina⟩
  · exact ⟨Quiet.refl maquina, Apart.refl maquina⟩

omit [Bounce Button] in
theorem winRadio_apart (sample : Sample) (maquina : Maquina Button) :
    Apart maquina (winRadio sample maquina) := by
  unfold winRadio
  refine Apart.trans ?_ (rayoAvanza_apart sample _)
  exact ⟨rfl, rfl⟩

section Radio

omit [Bounce Button]

variable {maquina : Maquina Button} {count : Nat}

theorem Shows.radioUnsolved (shows : Shows maquina partida)
    (unsolved : Puzzle.radio ∉ partida.solved) : maquina.radioWon = false := by
  rw [shows.progreso]
  simpa [Partida.progreso] using unsolved

/-- With both switches set, the radio is won when the time has run out. -/
theorem checkRadio_sintonia (frequency : Int) (maquina : Maquina Button) :
    checkRadio (Sample.sintonia frequency) maquina =
      if (tuneRadio (frequency - valorR1).natAbs maquina).tiempoRadio = 0 then
        winRadio (Sample.sintonia frequency)
          (tuneRadio (frequency - valorR1).natAbs maquina)
      else
        tuneRadio (frequency - valorR1).natAbs maquina := by
  have switches : (Sample.sintonia frequency).radio2 = valorR2 ∧
      (Sample.sintonia frequency).radio3 = valorR3 :=
    ⟨rfl, rfl⟩
  unfold checkRadio
  dsimp only
  rw [if_pos switches]
  rfl

theorem tuneRadio_memoria (dif : Int) (maquina : Maquina Button) :
    (tuneRadio dif maquina).memoria = { maquina.memoria with
      tiempoRadio :=
        if dif < 40 then toInt 16 (maquina.tiempoRadio - 1)
        else tiempoRadioTotal } := by
  unfold tuneRadio
  dsimp only
  split <;> rfl

theorem tuneRadio_receiver (dif : Int) (maquina : Maquina Button) :
    (tuneRadio dif maquina).toIdleReceiver = maquina.toIdleReceiver := by
  unfold tuneRadio
  dsimp only
  split <;> rfl

theorem toInt_count (small : count < 1000) : toInt 16 ((count + 1 : Nat) - 1) = count := by
  have cast : (((count + 1 : Nat) : Int) - 1) = count := by omega
  rw [cast]
  exact toInt_of_small (by omega) (by omega)

end Radio

/-- Another frequency starts the time again. -/
theorem radio_detunes (unsolved : Puzzle.radio ∉ partida.solved) :
    (machine Button).Leads Event.Harmless (At .radio partida mesa heard)
      (At .simon partida { mesa with tiempoRadio := tiempoRadioTotal } heard) := by
  apply leads_of_operation (Sample.sintonia 0)
  rintro maquina silent ⟨-, shows, kept, buffer⟩
  have quiet := tuneRadio_quiet ((0 : Int) - valorR1).natAbs maquina
  have mesa := tuneRadio_memoria ((0 : Int) - valorR1).natAbs maquina
  have restarted : (tuneRadio ((0 : Int) - valorR1).natAbs maquina).tiempoRadio =
      tiempoRadioTotal :=
    congrArg Memoria.tiempoRadio mesa
  have notYet : ¬ tiempoRadioTotal = 0 := by decide
  subst kept
  dsimp only [operation]
  rw [if_pos (shows.radioUnsolved unsolved), checkRadio_sintonia, restarted,
    if_neg notYet]
  refine ⟨?_, rfl, shows.of_quiet quiet, mesa, ?_⟩
  · rw [quiet.visible]
    simp [silent]
  · rw [tuneRadio_receiver]
    exact buffer

variable {time : Nat}

/-- The right frequency lets the time run down. -/
theorem radio_tunes (unsolved : Puzzle.radio ∉ partida.solved)
    (left : mesa.tiempoRadio = (time + 1 : Nat)) (small : time < 1000) :
    (machine Button).Leads Event.Harmless (At .radio partida mesa heard)
      (At .simon (if time = 0 then partida.solve .radio else partida)
        { mesa with tiempoRadio := time } heard) := by
  apply leads_of_operation (Sample.sintonia valorR1)
  rintro maquina silent ⟨-, shows, kept, buffer⟩
  have quiet := tuneRadio_quiet (valorR1 - valorR1).natAbs maquina
  have mesa := tuneRadio_memoria (valorR1 - valorR1).natAbs maquina
  subst kept
  rw [if_pos (by decide), show maquina.tiempoRadio = (time + 1 : Nat) from left,
    toInt_count small] at mesa
  have now : (tuneRadio (valorR1 - valorR1).natAbs maquina).tiempoRadio = time :=
    congrArg Memoria.tiempoRadio mesa
  dsimp only [operation]
  rw [if_pos (shows.radioUnsolved unsolved), checkRadio_sintonia, now]
  by_cases last : time = 0
  · have performs := winRadio_performs (Sample.sintonia valorR1)
      (shows.of_quiet quiet)
      (quiet.progreso ▸ shows.radioUnsolved unsolved)
    have apart := winRadio_apart (Sample.sintonia valorR1)
      (tuneRadio (valorR1 - valorR1).natAbs maquina)
    rw [if_pos (by omega), if_pos last]
    refine ⟨?_, rfl, performs.shows, apart.memoria.trans mesa, ?_⟩
    · rw [performs.visible, quiet.visible, silent]
      exact Partida.harmless_solve partida .radio
    · rw [apart.receiver, tuneRadio_receiver]
      exact buffer
  · rw [if_neg (by omega), if_neg last]
    refine ⟨?_, rfl, shows.of_quiet quiet, mesa, ?_⟩
    · rw [quiet.visible]
      simp [silent]
    · rw [tuneRadio_receiver]
      exact buffer

/-! ### Link -/

/-- What the buffer holds cannot become a command any more. -/
def Deaf (receiver : IdleReceiver Char) : Prop :=
  receiver.incomingData = [] ∨ ∃ text, receiver.incomingData = text ++ ['x']

def commands : List Text :=
  ["reset".toList, "on".toList, "off".toList, "win".toList, "son".toList,
    "soff".toList, "trueno".toList, "manual".toList]

theorem trim_append (text : Text) {last : Char}
    (noSpace : isSpace last = false) :
    ∃ front, trim (text ++ [last]) = front ++ [last] := by
  have kept : ∃ front, (text ++ [last]).dropWhile isSpace = front ++ [last] := by
    induction text with
    | nil => exact ⟨[], by simp [noSpace]⟩
    | cons first text ih =>
        by_cases space : isSpace first = true
        · simpa [space] using ih
        · exact ⟨first :: text, by simp [space]⟩
  obtain ⟨front, front_eq⟩ := kept
  exact ⟨front, by simp [trim, front_eq, noSpace]⟩

theorem Deaf.notMem_commands {text : Text} :
    trim (text ++ ['x']) ∉ commands := by
  obtain ⟨front, trimmed⟩ := @trim_append text 'x' (by decide)
  rw [trimmed]
  intro member
  have last : ∀ command ∈ commands, command.getLast? ≠ some 'x' := by decide
  exact last _ member (by simp)

omit [Bounce Button] in
theorem dispatch_unknown (sample : Sample) {text : Text}
    (unknown : text ∉ commands) (maquina : Maquina Button) :
    dispatch sample text maquina = maquina := by
  simp only [commands, List.mem_cons, List.not_mem_nil, or_false, not_or]
    at unknown
  obtain ⟨reset, on, off, win, son, soff, trueno, manual⟩ := unknown
  rw [dispatch, if_neg reset, if_neg on, if_neg off, if_neg win, if_neg son,
    if_neg soff, if_neg trueno, if_neg manual]

theorem Event.harmless_received {text : Text} (unknown : text ∉ commands) :
    (Event.received text).Harmless := by
  have notLocking : text ∉ Partida.locking := by
    intro member
    have known : ∀ command ∈ Partida.locking, command ∈ commands := by decide
    exact unknown (known text member)
  have notManual : text ≠ "manual".toList := by
    rintro rfl
    exact unknown (by decide)
  exact ⟨decide_eq_false notLocking,
    decide_eq_false fun equal => notManual (Event.received.inj equal)⟩

omit [Bounce Button] in
theorem handleMessage_unknown (sample : Sample) {maquina : Maquina Button}
    (unknown : trim maquina.incomingData ∉ commands) :
    handleMessage sample maquina =
      { maquina with
        incomingData := []
        out := maquina.out ++ [.received (trim maquina.incomingData)] } := by
  have announced : (announce maquina).incomingData ∉ commands := unknown
  rw [handleMessage, dispatch_unknown sample announced]
  rfl

/-- A poll which receives nothing new cannot complete a command. -/
theorem incoming_deaf :
    (machine Button).Leads Event.Harmless (At .incoming partida mesa Deaf)
      (At .loopStart partida mesa Deaf) := by
  apply leads_of_operation .reposo
  rintro maquina silent ⟨-, shows, kept, deaf⟩
  have received : readIncoming .reposo maquina =
      { maquina with lastCharTime := (maquina.lastCharTime + 1).bmod (2 ^ 16) } :=
    congrArg (fun receiver => { maquina with toIdleReceiver := receiver })
      (IdleReceiver.receive_nil 16 maquina.toIdleReceiver)
  dsimp only [operation]
  rw [checkIncoming, received]
  split
  · rename_i complete
    have unknown : trim maquina.incomingData ∉ commands := by
      rcases deaf with empty | ⟨text, written⟩
      · rw [show maquina.incomingData = [] from empty]
        decide
      · rw [show maquina.incomingData = text ++ ['x'] from written]
        exact Deaf.notMem_commands
    rw [@handleMessage_unknown _ .reposo
      { maquina with lastCharTime := (maquina.lastCharTime + 1).bmod (2 ^ 16) }
      unknown]
    refine ⟨?_, rfl, ⟨shows.progreso, shows.relays, shows.strip1⟩, kept, .inl rfl⟩
    simpa [showStrips, emit, Event.visible, silent] using
      Event.harmless_received unknown
  · refine ⟨?_, rfl, ⟨shows.progreso, shows.relays, shows.strip1⟩, kept, deaf⟩
    simp [showStrips, emit, Event.visible, silent]

/-- A poll which receives one more character spoils what is in the buffer. -/
theorem incoming_spoils :
    (machine Button).Leads Event.Harmless (At .incoming partida mesa heard)
      (At .loopStart partida mesa Deaf) := by
  apply leads_of_operation { Sample.reposo with serial1 := ['x'] }
  rintro maquina silent ⟨-, shows, kept, buffer⟩
  have received := congrArg
    (fun receiver => { maquina with toIdleReceiver := receiver })
    (IdleReceiver.receive_of_ne_nil 16 (by decide) maquina.toIdleReceiver
      (show ['x'] ≠ [] by simp))
  dsimp only [operation]
  rw [checkIncoming, readIncoming, received]
  split
  · rename_i complete
    simp [messageOver, IdleReceiver.complete] at complete
  · refine ⟨?_, rfl, ⟨shows.progreso, shows.relays, shows.strip1⟩, kept,
      .inr ⟨_, rfl⟩⟩
    simp [showStrips, emit, Event.visible, silent]

end Operations

/-! ## Phases -/

section Phases

variable [Bounce Button] {partida : Partida} {mesa : Memoria Button}
variable {heard : IdleReceiver Char → Prop}

/-- A game which is plugged in, locked and not yet ready for Simon. -/
structure Open (partida : Partida) : Prop where
  locked : partida.released = false
  plugged : Puzzle.enchufe ∈ partida.solved
  stage : partida.stage < 3

/-- The rest of an iteration, from the end of the effects on. -/
theorem enchufe_round (locked : partida.released = false) :
    (machine Button).Leads Event.Harmless (At .enchufe partida mesa Deaf)
      (At (if Puzzle.enchufe ∈ partida.solved then .knobs else .turbina) partida
        { mesa with enchufeCounter := 0 } Deaf) :=
  ((enchufe_leads locked).trans incoming_deaf).trans (loopStart_leads locked)

/-- After the radio, an iteration without Simon comes back to the knobs. -/
theorem simon_round (opened : Open partida) :
    (machine Button).Leads Event.Harmless (At .simon partida mesa Deaf)
      (At .knobs partida { mesa with enchufeCounter := 0 } Deaf) := by
  have back := @enchufe_round _ _ _ mesa opened.locked
  rw [if_pos opened.plugged] at back
  exact (((simon_leads opened.stage).trans rayos_leads).trans
    turbina_leads).trans back

/-! ### Plugging in -/

/-- The plug is not in yet, and has been seen in at all but `count` pairs of
calls. -/
def Unplugged (partida : Partida) (count : Nat) (config : Config Button) : Prop :=
  ∃ mesa, At .loopStart partida mesa Deaf config ∧
    mesa.enchufeCounter = (48 - 2 * count : Nat) ∧ count ≤ 24

theorem unplugged_begins (locked : partida.released = false)
    (unplugged : Puzzle.enchufe ∉ partida.solved) :
    (machine Button).Leads Event.Harmless (At .loopStart partida mesa heard)
      (Unplugged partida 24) := by
  have start := @loopStart_leads _ _ _ mesa heard locked
  rw [if_neg unplugged] at start
  refine ((start.trans turbina_leads).trans (enchufe_leads locked)).trans
    (incoming_spoils.trans ?_)
  exact MealyMachine.Leads.of_imp fun config here => ⟨_, here, rfl, le_refl _⟩

theorem unplugged_counts (locked : partida.released = false)
    (unplugged : Puzzle.enchufe ∉ partida.solved) (count : Nat) :
    (machine Button).Leads Event.Harmless (Unplugged partida (count + 1))
      (Unplugged partida count) := by
  rintro config ⟨mesa, here, counted, few⟩
  have first := @loopStart_counts _ _ _ mesa Deaf _ locked unplugged counted
    (by omega)
  have second := @enchufe_counts _ _ _
    { mesa with enchufeCounter := (48 - 2 * (count + 1) : Nat) + 1 } Deaf
    (48 - 2 * (count + 1) + 1) locked unplugged (by push_cast; rfl) (by omega)
  have counts : (machine Button).Leads Event.Harmless
      (At .loopStart partida mesa Deaf) (Unplugged partida count) := by
    refine ((first.trans turbina_leads).trans second).trans
      (incoming_deaf.trans ?_)
    apply MealyMachine.Leads.of_imp
    intro config here
    refine ⟨_, here, ?_, by omega⟩
    have exact_count : 48 - 2 * (count + 1) + 1 + 1 = 48 - 2 * count := by omega
    rw [← exact_count]
    push_cast
    rfl
  exact counts config here

/-- Once the plug has been seen in for long enough, it is accepted. -/
theorem unplugged_accepts (locked : partida.released = false)
    (unplugged : Puzzle.enchufe ∉ partida.solved) :
    (machine Button).Leads Event.Harmless (Unplugged partida 0)
      (fun config => ∃ mesa,
        At .loopStart (partida.solve .enchufe) mesa Deaf config) := by
  rintro config ⟨mesa, here, counted, -⟩
  have first := @loopStart_counts _ _ _ mesa Deaf 48 locked unplugged counted
    (by omega)
  have second := @enchufe_accepts _ _ _
    { mesa with enchufeCounter := (48 : Nat) + 1 } Deaf locked unplugged rfl
  have accepts : (machine Button).Leads Event.Harmless
      (At .loopStart partida mesa Deaf) (fun config => ∃ mesa,
        At .loopStart (partida.solve .enchufe) mesa Deaf config) := by
    refine ((first.trans turbina_leads).trans second).trans
      (incoming_deaf.trans ?_)
    exact MealyMachine.Leads.of_imp fun config here => ⟨_, here⟩
  exact accepts config here

theorem plug_phase (locked : partida.released = false)
    (unplugged : Puzzle.enchufe ∉ partida.solved) :
    (machine Button).Leads Event.Harmless (At .loopStart partida mesa heard)
      (fun config => ∃ mesa,
        At .loopStart (partida.solve .enchufe) mesa Deaf config) :=
  ((unplugged_begins locked unplugged).trans
    (MealyMachine.Leads.countdown (unplugged_counts locked unplugged) 24)).trans
      (unplugged_accepts locked unplugged)

/-! ### Setting the knobs -/

/-- The knobs are set while the red button is at `level`. -/
def Sample.perillas (level : Bool) (now : UInt32) : Sample :=
  { Sample.reposo with
    millis := now
    buttonRed := level
    a13 := valorK1
    a14 := valorK2
    a15 := valorK3 }

omit [Bounce Button] in
theorem Sample.perillas_set (level : Bool) (now : UInt32) :
    (Sample.perillas level now).KnobsSet := by
  simp [Sample.KnobsSet, Sample.perillas, margenKnobs]

/-- The knobs are about to be checked with the button in a given state. -/
def Held (partida : Partida) (button : Button) (config : Config Button) : Prop :=
  ∃ mesa, At .knobs partida mesa Deaf config ∧ mesa.botonKnobs = button

/-- The knobs have just been found at their values. -/
def KnobsFound (partida : Partida) (config : Config Button) : Prop :=
  ∃ mesa, At .radio (partida.solve .knobs) mesa Deaf config

/-- One call of `checkKnobs` wins, or it only debounces the button. -/
theorem knobs_try (opened : Open partida) (unsolved : Puzzle.knobs ∉ partida.solved)
    (button : Button) (level : Bool) (now : UInt32)
    (rest : Bounce.rose (Bounce.update button level now) = true ∨
      (machine Button).Leads Event.Harmless
        (Held partida (Bounce.update button level now)) (KnobsFound partida)) :
    (machine Button).Leads Event.Harmless (Held partida button)
      (KnobsFound partida) := by
  rintro config ⟨mesa, here, rfl⟩
  by_cases rose :
      Bounce.rose (Bounce.update mesa.botonKnobs level now) = true
  · have wins := @knobs_win _ _ _ mesa Deaf (.perillas level now) unsolved rose
      (Sample.perillas_set level now)
    obtain ⟨inputs, harmless, found⟩ := wins config here
    exact ⟨inputs, harmless, _, found⟩
  · have loses := @knobs_lose _ _ _ mesa Deaf (.perillas level now) unsolved
      fun both => rose both.1
    have again : (machine Button).Leads Event.Harmless
        (At .knobs partida mesa Deaf)
        (Held partida (Bounce.update mesa.botonKnobs level now)) := by
      refine (loses.trans radio_rests).trans ((simon_round opened).trans ?_)
      exact MealyMachine.Leads.of_imp fun config here => ⟨_, here, rfl⟩
    exact again.trans (rest.resolve_left rose) config here

theorem knobs_phase (presses : Bounce.Presses Button) (opened : Open partida)
    (unsolved : Puzzle.knobs ∉ partida.solved) :
    (machine Button).Leads Event.Harmless (At .knobs partida mesa Deaf)
      (KnobsFound partida) := by
  have tries := @knobs_try Button _ partida opened unsolved
  have held : (machine Button).Leads Event.Harmless
      (Held partida mesa.botonKnobs) (KnobsFound partida) := by
    apply tries _ low 0
    right
    apply tries _ low (0 + 25)
    right
    apply tries _ high (0 + 50)
    rcases presses mesa.botonKnobs 0 with third | fourth
    · exact .inl third
    · right
      apply tries _ high (0 + 75)
      exact .inl fourth
  exact fun config here => held config ⟨mesa, here, rfl⟩

/-! ### Tuning the radio -/

/-- The radio is about to be checked with some time left. -/
def Timed (partida : Partida) (time : Nat) (config : Config Button) : Prop :=
  ∃ mesa, At .radio partida mesa Deaf config ∧
    mesa.tiempoRadio = (time + 1 : Nat) ∧ time < 1000

theorem simon_to_radio (opened : Open partida)
    (found : Puzzle.knobs ∈ partida.solved) :
    (machine Button).Leads Event.Harmless (At .simon partida mesa Deaf)
      (At .radio partida { mesa with enchufeCounter := 0 } Deaf) :=
  (simon_round opened).trans (knobs_solved_leads found)

theorem radio_counts (opened : Open partida)
    (found : Puzzle.knobs ∈ partida.solved)
    (unsolved : Puzzle.radio ∉ partida.solved) (time : Nat) :
    (machine Button).Leads Event.Harmless (Timed partida (time + 1))
      (Timed partida time) := by
  rintro config ⟨mesa, here, left, small⟩
  have tunes := @radio_tunes _ _ _ mesa Deaf (time + 1) unsolved left small
  rw [if_neg (by omega)] at tunes
  have again : (machine Button).Leads Event.Harmless
      (At .radio partida mesa Deaf) (Timed partida time) := by
    refine tunes.trans ((simon_to_radio opened found).trans ?_)
    exact MealyMachine.Leads.of_imp fun config here =>
      ⟨_, here, rfl, by omega⟩
  exact again config here

theorem radio_phase (opened : Open partida)
    (found : Puzzle.knobs ∈ partida.solved)
    (unsolved : Puzzle.radio ∉ partida.solved) :
    (machine Button).Leads Event.Harmless (At .radio partida mesa Deaf)
      (fun config => ∃ mesa,
        At .simon (partida.solve .radio) mesa Deaf config) := by
  have begins : (machine Button).Leads Event.Harmless
      (At .radio partida mesa Deaf) (Timed partida 999) := by
    refine (radio_detunes unsolved).trans ((simon_to_radio opened found).trans ?_)
    exact MealyMachine.Leads.of_imp fun config here =>
      ⟨_, here, rfl, by omega⟩
  have ends : (machine Button).Leads Event.Harmless (Timed partida 0)
      (fun config => ∃ mesa,
        At .simon (partida.solve .radio) mesa Deaf config) := by
    rintro config ⟨mesa, here, left, small⟩
    have tunes := @radio_tunes _ _ _ mesa Deaf 0 unsolved left small
    rw [if_pos rfl] at tunes
    obtain ⟨inputs, harmless, tuned⟩ := tunes config here
    exact ⟨inputs, harmless, _, tuned⟩
  exact (begins.trans (MealyMachine.Leads.countdown
    (radio_counts opened found unsolved) 999)).trans ends

end Phases

/-! ## Games -/

/-- The stage of a game is the number of its solved puzzles. -/
structure Partida.Counted (partida : Partida) : Prop where
  skips : partida.skips = 0
  forced : partida.forced = false

theorem Partida.Counted.solve {partida : Partida} (counted : partida.Counted)
    (puzzle : Puzzle) : (partida.solve puzzle).Counted := by
  unfold Partida.solve
  split
  · exact ⟨counted.skips, counted.forced⟩
  · exact counted

theorem Partida.Counted.stage_eq {partida : Partida} (counted : partida.Counted) :
    partida.stage = partida.solved.card := by
  rw [Partida.stage, counted.skips, counted.forced]
  simp

/-- With the plug in, the knobs set and the radio tuned, Simon is ready. -/
theorem Partida.Counted.stage_ge {partida : Partida} (counted : partida.Counted)
    (plugged : Puzzle.enchufe ∈ partida.solved)
    (knobs : Puzzle.knobs ∈ partida.solved)
    (radio : Puzzle.radio ∈ partida.solved) : partida.stage ≥ 3 := by
  have three : ({.enchufe, .knobs, .radio} : Finset Puzzle) ⊆ partida.solved := by
    intro puzzle member
    simp only [Finset.mem_insert, Finset.mem_singleton] at member
    rcases member with rfl | rfl | rfl
    · exact plugged
    · exact knobs
    · exact radio
  have card := Finset.card_le_card three
  rw [counted.stage_eq]
  have size : ({.enchufe, .knobs, .radio} : Finset Puzzle).card = 3 := by decide
  omega

/-- The game is ready for Simon. -/
def SimonReady (config : Config Button) : Prop :=
  ∃ partida, Shows config.maquina partida ∧ partida.stage ≥ 3

section Games

variable [Bounce Button] {partida : Partida} {mesa : Memoria Button}
variable {heard : IdleReceiver Char → Prop} {control : Control}

theorem leads_of_stage (stage : partida.stage ≥ 3) :
    (machine Button).Leads Event.Harmless (At control partida mesa heard)
      SimonReady :=
  MealyMachine.Leads.of_imp fun _ here => ⟨partida, here.shows, stage⟩

/-- A game which has advanced is ready, or it is open still. -/
theorem leads_of_open (locked : partida.released = false)
    (plugged : Puzzle.enchufe ∈ partida.solved)
    (opened : Open partida → (machine Button).Leads Event.Harmless
      (At control partida mesa heard) SimonReady) :
    (machine Button).Leads Event.Harmless (At control partida mesa heard)
      SimonReady := by
  by_cases stage : partida.stage ≥ 3
  · exact leads_of_stage stage
  · exact opened ⟨locked, plugged, by omega⟩

theorem radio_ready (counted : partida.Counted) (opened : Open partida)
    (found : Puzzle.knobs ∈ partida.solved) :
    (machine Button).Leads Event.Harmless (At .radio partida mesa Deaf)
      SimonReady := by
  by_cases tuned : Puzzle.radio ∈ partida.solved
  · exact leads_of_stage (counted.stage_ge opened.plugged found tuned)
  refine (radio_phase opened found tuned).trans ?_
  apply MealyMachine.Leads.of_forall
  intro later
  have solved := @Partida.solved_solve partida .radio ⟨tuned, by simp⟩
  apply leads_of_stage
  apply (counted.solve .radio).stage_ge <;> rw [solved]
  · exact Finset.mem_insert_of_mem opened.plugged
  · exact Finset.mem_insert_of_mem found
  · exact Finset.mem_insert_self _ _

theorem knobs_ready (presses : Bounce.Presses Button) (counted : partida.Counted)
    (opened : Open partida) :
    (machine Button).Leads Event.Harmless (At .knobs partida mesa Deaf)
      SimonReady := by
  by_cases found : Puzzle.knobs ∈ partida.solved
  · exact (knobs_solved_leads found).trans (radio_ready counted opened found)
  refine (knobs_phase presses opened found).trans ?_
  apply MealyMachine.Leads.of_forall
  intro later
  have solved := @Partida.solved_solve partida .knobs ⟨found, by simp⟩
  apply leads_of_open
  · rw [Partida.released_solve]
    exact opened.locked
  · rw [solved]
    exact Finset.mem_insert_of_mem opened.plugged
  · intro reopened
    apply radio_ready (counted.solve .knobs) reopened
    rw [solved]
    exact Finset.mem_insert_self _ _

/-- The first iteration of a plugged game spoils what the operator may have
begun to send. -/
theorem plugged_begins (opened : Open partida) :
    (machine Button).Leads Event.Harmless (At .loopStart partida mesa heard)
      (fun config => ∃ mesa, At .knobs partida mesa Deaf config) := by
  have start := @loopStart_leads _ _ _ mesa heard opened.locked
  rw [if_pos opened.plugged] at start
  have rest (mesa : Memoria Button) : (machine Button).Leads Event.Harmless
      (At .radio partida mesa heard)
      (fun config => ∃ mesa, At .knobs partida mesa Deaf config) := by
    have back := @loopStart_leads _ _ _ { mesa with enchufeCounter := 0 } Deaf
      opened.locked
    rw [if_pos opened.plugged] at back
    refine (((radio_rests.trans (simon_leads opened.stage)).trans
      rayos_leads).trans turbina_leads).trans ?_
    refine (((enchufe_leads opened.locked).trans incoming_spoils).trans
      back).trans ?_
    exact MealyMachine.Leads.of_imp fun config here => ⟨_, here⟩
  refine start.trans ?_
  by_cases found : Puzzle.knobs ∈ partida.solved
  · exact (knobs_solved_leads found).trans (rest _)
  · have wrong : ¬ Sample.reposo.KnobsSet := by decide
    exact (knobs_lose .reposo found fun both => wrong both.2).trans (rest _)

theorem loop_ready (presses : Bounce.Presses Button) (counted : partida.Counted)
    (locked : partida.released = false) :
    (machine Button).Leads Event.Harmless (At .loopStart partida mesa heard)
      SimonReady := by
  have plugged {partida : Partida} (counted : partida.Counted)
      (mesa : Memoria Button) (heard : IdleReceiver Char → Prop)
      (opened : Open partida) : (machine Button).Leads Event.Harmless
        (At .loopStart partida mesa heard) SimonReady := by
    refine (plugged_begins opened).trans ?_
    apply MealyMachine.Leads.of_forall
    intro later
    exact knobs_ready presses counted opened
  by_cases plug : Puzzle.enchufe ∈ partida.solved
  · exact leads_of_open locked plug (plugged counted mesa heard)
  refine (plug_phase locked plug).trans ?_
  apply MealyMachine.Leads.of_forall
  intro later
  apply leads_of_open
  · rw [Partida.released_solve]
    exact locked
  · rw [@Partida.solved_solve partida .enchufe ⟨plug, fun _ => locked⟩]
    exact Finset.mem_insert_self _ _
  · exact plugged (counted.solve .enchufe) later Deaf

/-- Without granted stages, the counter agrees with the flags at the end of an
iteration, and the players can make the game ready for Simon unless the exit is
released, exactly in the games which the operator did not switch on. -/
theorem gamesWon_accounts (presses : Bounce.Presses Button) {boot : Sample}
    {inputs : List Sample}
    (notGranted : ∀ event ∈ (machine Button).trace (setup boot) inputs,
      event.grants = false)
    (ended : (after Button boot inputs).control = .loopStart) :
    ((after Button boot inputs).maquina.gamesWon =
        (after Button boot inputs).maquina.toProgreso.flags ∧
      ((after Button boot inputs).maquina.yaGano = false →
        ∃ more,
          (∀ event ∈ (machine Button).trace (after Button boot inputs) more,
            event.clears = false ∧ event.grants = false) ∧
          (after Button boot (inputs ++ more)).maquina.simonReady = true)) ↔
      marked Event.switchesOn Event.clears false
        ((machine Button).trace (setup boot) inputs) = false := by
  constructor
  · rintro ⟨agrees, -⟩
    exact (gamesWon_flags notGranted).mp agrees
  · intro notForced
    refine ⟨(gamesWon_flags notGranted).mpr notForced, ?_⟩
    intro notOver
    obtain ⟨partida, tracks, skips, forced⟩ := accounted boot notGranted
    have locked : partida.released = false := by
      rw [tracks.shows.progreso] at notOver
      exact notOver
    have here : At .loopStart partida _ (fun _ => True)
        (after Button boot inputs) :=
      ⟨ended, tracks.shows, rfl, trivial⟩
    obtain ⟨more, harmless, ready, shows, stage⟩ :=
      loop_ready presses ⟨skips, forced.trans notForced⟩ locked _ here
    refine ⟨more, harmless, ?_⟩
    rw [after_append, shows.progreso]
    exact decide_eq_true stage

end Games

/-- A game which has just been plugged in. -/
theorem gamesWon_accounts_enchufado :
    let inputs := (List.replicate 25 (iteration .enchufado [])).flatten
    (after StableButton .reposo inputs).maquina.gamesWon = 1 ∧
      ∃ more, (after StableButton .reposo (inputs ++ more)).maquina.simonReady =
        true := by
  intro inputs
  have accounts := @gamesWon_accounts StableButton _ StableButton.presses .reposo
    inputs (by decide +kernel) (by decide +kernel)
  obtain ⟨-, playable⟩ := accounts.mpr (by decide +kernel)
  obtain ⟨more, -, ready⟩ := playable (by decide +kernel)
  exact ⟨by decide +kernel, more, ready⟩

/-- A game which the operator switched on has one flag and no stage. -/
theorem gamesWon_ne_flags :
    ¬ ∀ (boot : Sample) (inputs : List Sample),
      (∀ event ∈ (machine StableButton).trace (setup boot) inputs,
        event.grants = false) →
      (after StableButton boot inputs).control = .loopStart →
      (after StableButton boot inputs).maquina.gamesWon =
        (after StableButton boot inputs).maquina.toProgreso.flags := by
  intro claim
  have counted := claim .reposo (deliver .reposo "on") (by decide +kernel)
    (by decide +kernel)
  revert counted
  decide +kernel

end Salsipuedes.Maquina

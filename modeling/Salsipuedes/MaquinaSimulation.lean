import Salsipuedes.MaquinaMarcos
import Salsipuedes.MaquinaPartida

/-!
# The machine simulates its game

Every operation of the machine performs one action of the game which its globals
show, and emits the report of that action.  Each function of the sketch has one
lemma here, which says either that it is quiet or which action it performs;
everything else that is proved about the game follows from these lemmas and the
game itself.
-/

namespace Salsipuedes.Maquina

variable {Button : Type}

/-! ## Quiet functions -/

/-- Nothing which concerns the game has changed or was reported. -/
structure Quiet (before after : Maquina Button) : Prop where
  progreso : after.toProgreso = before.toProgreso
  relays : after.toRelays = before.toRelays
  strip1 : after.strip1 = before.strip1
  visible : after.out.filter Event.visible = before.out.filter Event.visible

theorem Quiet.refl (maquina : Maquina Button) : Quiet maquina maquina :=
  ⟨rfl, rfl, rfl, rfl⟩

theorem Quiet.trans {first second third : Maquina Button}
    (left : Quiet first second) (right : Quiet second third) :
    Quiet first third where
  progreso := right.progreso.trans left.progreso
  relays := right.relays.trans left.relays
  strip1 := right.strip1.trans left.strip1
  visible := right.visible.trans left.visible

theorem emit_quiet (event : Event) (invisible : event.visible = false)
    (maquina : Maquina Button) : Quiet maquina (maquina.emit event) :=
  ⟨rfl, rfl, rfl, by simp [emit, invisible]⟩

theorem setLEDs_quiet (leds : Nat) (maquina : Maquina Button) :
    Quiet maquina (setLEDs leds maquina) :=
  ⟨rfl, rfl, rfl, rfl⟩

theorem shutUp_quiet (maquina : Maquina Button) :
    Quiet maquina (shutUp maquina) :=
  emit_quiet _ rfl maquina

theorem buzzSound_quiet (lengthMs delayUs : Int) (maquina : Maquina Button) :
    Quiet maquina (buzzSound lengthMs delayUs maquina) :=
  emit_quiet _ rfl maquina

theorem winnerSound_quiet (maquina : Maquina Button) :
    Quiet maquina (winnerSound maquina) :=
  emit_quiet _ rfl maquina

theorem showStrips_quiet (maquina : Maquina Button) :
    Quiet maquina (showStrips maquina) :=
  emit_quiet _ rfl maquina

theorem turbinaFlash_quiet (sample : Sample) (maquina : Maquina Button) :
    Quiet maquina (turbinaFlash sample maquina) := by
  obtain ⟨_, _, _, flash⟩ := turbinaFlash_frame sample maquina
  rw [flash]
  exact ⟨rfl, rfl, rfl, rfl⟩

theorem updateTurbina_quiet (sample : Sample) (maquina : Maquina Button) :
    Quiet maquina (updateTurbina sample maquina) := by
  obtain ⟨_, _, _, _, update⟩ := updateTurbina_frame sample maquina
  rw [update]
  exact ⟨rfl, rfl, rfl, rfl⟩

theorem rayoPega_quiet (maquina : Maquina Button) :
    Quiet maquina (rayoPega maquina) := by
  obtain ⟨_, _, _, strikes⟩ := rayoPega_frame maquina
  rw [strikes]
  exact ⟨rfl, rfl, rfl, rfl⟩

theorem checkButton_quiet [Bounce Button] (sample : Sample)
    (maquina : Maquina Button) :
    Quiet maquina (checkButton sample maquina).2 := by
  rw [checkButton_frame]
  exact ⟨rfl, rfl, rfl, rfl⟩

/-- Effects which the game does not see. -/
theorem appends_visible {before after : Maquina Button} {events : List Event}
    (out : after.out = before.out ++ events)
    (invisible : ∀ event ∈ events, event.visible = false) :
    after.out.filter Event.visible = before.out.filter Event.visible := by
  have silent : events.filter Event.visible = [] :=
    List.filter_eq_nil_iff.mpr fun event member => by simp [invisible event member]
  rw [out, List.filter_append, silent, List.append_nil]

theorem tono_invisible (lengthMs : Int) (which : Nat) :
    ∀ event ∈ tono lengthMs which, event.visible = false := by
  unfold tono
  cases halfPeriod which <;> simp [Event.visible]

theorem toner_quiet (which : Nat) (lengthMs : Int) (maquina : Maquina Button) :
    Quiet maquina (toner which lengthMs maquina) := by
  rw [toner_frame]
  exact ⟨rfl, rfl, rfl, appends_visible rfl (tono_invisible lengthMs which)⟩

theorem playMoves_quiet (maquina : Maquina Button) :
    Quiet maquina (playMoves maquina) := by
  obtain ⟨_, played⟩ := playMoves_frame maquina
  rw [played]
  refine ⟨rfl, rfl, rfl, appends_visible rfl fun event member => ?_⟩
  rcases List.mem_cons.mp member with rfl | sounds
  · rfl
  · obtain ⟨which, -, sounds⟩ := List.mem_flatMap.mp sounds
    exact tono_invisible 150 which event sounds

theorem addToMoves_quiet (sample : Sample) (maquina : Maquina Button) :
    Quiet maquina (addToMoves sample maquina) :=
  ⟨rfl, rfl, rfl, rfl⟩

/-! ## Actions performed by functions -/

/-- Globals which showed `partida` have performed an action of it. -/
structure Performs (partida : Partida) (action : Partida.Action)
    (before after : Maquina Button) : Prop where
  enabled : partida.Enabled action
  shows : Shows after (partida.act action)
  visible : after.out.filter Event.visible =
    before.out.filter Event.visible ++ partida.report action

section Performs

variable {partida : Partida} {action : Partida.Action}
variable {first second third : Maquina Button}

theorem Shows.of_quiet (shows : Shows first partida)
    (quiet : Quiet first second) : Shows second partida where
  progreso := quiet.progreso.trans shows.progreso
  relays := quiet.relays.trans shows.relays
  strip1 := quiet.strip1.trans shows.strip1

theorem Quiet.performs (quiet : Quiet first second)
    (shows : Shows first partida) : Performs partida .idle first second :=
  ⟨trivial, shows.of_quiet quiet, by simp [Partida.report, quiet.visible]⟩

theorem Performs.quiet (performs : Performs partida action first second)
    (quiet : Quiet second third) : Performs partida action first third :=
  ⟨performs.enabled, performs.shows.of_quiet quiet,
    quiet.visible.trans performs.visible⟩

theorem Quiet.then_performs (quiet : Quiet first second)
    (performs : Performs partida action second third) :
    Performs partida action first third :=
  ⟨performs.enabled, performs.shows, by rw [performs.visible, quiet.visible]⟩

end Performs

/-! ## Advancing the stage -/

/-- Lighting the next stretch of the path shows the next stage on the strip, and
nothing else. -/
theorem encenderTramo_shows (start stop : Nat) {maquina : Maquina Button}
    {stage : Int} (strip1 : maquina.strip1 = stripAt stage)
    (path : encendido start stop (stripAt stage) = stripAt (stage + 1)) :
    let after := encenderTramo start stop maquina
    after.toProgreso = maquina.toProgreso ∧
      after.toRelays = maquina.toRelays ∧
      after.strip1 = stripAt (stage + 1) ∧
      after.out.filter Event.visible = maquina.out.filter Event.visible := by
  obtain ⟨frames, lit⟩ := encenderTramo_frame start stop maquina
  rw [strip1, path] at lit
  rw [lit]
  refine ⟨rfl, rfl, rfl, appends_visible rfl fun event member => ?_⟩
  obtain ⟨frame, -, rfl⟩ := List.mem_map.mp member
  rfl

theorem Progreso.ready_self {progreso : Progreso} {ready : Bool}
    (equal : progreso.simonReady = ready) :
    progreso = { progreso with simonReady := ready } := by
  subst equal
  rfl

/-- The report with which `rayoAvanza` starts. -/
theorem report_visible (stage : Int) (maquina : Maquina Button) :
    (maquina.emit (.console "rayo avanza. gamesWon:" [stage])).out.filter
        Event.visible =
      maquina.out.filter Event.visible ++
        [.console "rayo avanza. gamesWon:" [stage]] := by
  simp [emit, Event.visible]

/-- What `rayoAvanza` shows when it is entered one stage after the stage which
is on display. -/
theorem rayoAvanza_spec (sample : Sample) {maquina : Maquina Button}
    {stage : Int} {released : Bool} (nonneg : 0 ≤ stage)
    (reached : maquina.gamesWon = stage + 1)
    (ready : maquina.simonReady = decide (stage ≥ 3))
    (relays : maquina.toRelays = relaysAt stage released)
    (strip1 : maquina.strip1 = stripAt stage) :
    let after := rayoAvanza sample maquina
    after.toProgreso =
        { maquina.toProgreso with simonReady := decide (stage + 1 ≥ 3) } ∧
      after.toRelays = relaysAt (stage + 1) released ∧
      after.strip1 = stripAt (stage + 1) ∧
      after.out.filter Event.visible =
        maquina.out.filter Event.visible ++ Partida.advance (stage + 1) := by
  have stages : stage = 0 ∨ stage = 1 ∨ stage = 2 ∨ stage = 3 ∨ 4 ≤ stage := by
    omega
  have reports := report_visible maquina.gamesWon maquina
  unfold rayoAvanza
  dsimp only
  generalize reported :
    maquina.emit (.console "rayo avanza. gamesWon:" [maquina.gamesWon]) = begun
    at reports ⊢
  have progreso : begun.toProgreso = maquina.toProgreso := by rw [← reported]; rfl
  have entered : begun.gamesWon = stage + 1 := by rw [← reported]; exact reached
  replace relays : begun.toRelays = relaysAt stage released := by
    rw [← reported]; exact relays
  replace strip1 : begun.strip1 = stripAt stage := by
    rw [← reported]; exact strip1
  rw [reached] at reports
  rcases stages with rfl | rfl | rfl | rfl | high
  · obtain ⟨tramoProgreso, tramoRelays, tramoStrip, tramoVisible⟩ :=
      encenderTramo_shows 0 pixels1 strip1 (by decide)
    rw [if_pos (by omega)]
    refine ⟨?_, tramoRelays.trans relays, tramoStrip,
      tramoVisible.trans reports⟩
    exact (tramoProgreso.trans progreso).trans
      (Progreso.ready_self (ready.trans rfl))
  · let before : Maquina Button := { begun with plasma1 := low }
    obtain ⟨tramoProgreso, tramoRelays, tramoStrip, tramoVisible⟩ :=
      encenderTramo_shows pixels1 pixels2
        (show before.strip1 = stripAt 1 from strip1) (by decide)
    rw [if_neg (by omega), if_pos (by omega)]
    refine ⟨?_, tramoRelays.trans ?_, tramoStrip, tramoVisible.trans reports⟩
    · exact (tramoProgreso.trans progreso).trans
        (Progreso.ready_self (ready.trans rfl))
    · change { begun.toRelays with plasma1 := low } = _
      rw [relays]
      rfl
  · let before : Maquina Button := { begun with plasma2 := low }
    obtain ⟨tramoProgreso, tramoRelays, tramoStrip, tramoVisible⟩ :=
      encenderTramo_shows pixels2 pixels3
        (show before.strip1 = stripAt 2 from strip1) (by decide)
    rw [if_neg (by omega), if_neg (by omega), if_pos (by omega)]
    refine ⟨?_, tramoRelays.trans ?_, tramoStrip, tramoVisible.trans reports⟩
    · change { (encenderTramo pixels2 pixels3 _).toProgreso with
        simonReady := true } = _
      rw [tramoProgreso]
      change { begun.toProgreso with simonReady := true } = _
      rw [progreso]
      rfl
    · change { begun.toRelays with plasma2 := low } = _
      rw [relays]
      rfl
  · let before : Maquina Button :=
      { setLEDs choiceNone begun with plasma3 := low }
    obtain ⟨tramoProgreso, tramoRelays, tramoStrip, tramoVisible⟩ :=
      encenderTramo_shows pixels3 pixels4
        (show before.strip1 = stripAt 3 from strip1) (by decide)
    rw [if_neg (by omega), if_neg (by omega), if_neg (by omega),
      if_pos (by omega)]
    refine ⟨?_, tramoRelays.trans ?_, tramoStrip, tramoVisible.trans reports⟩
    · exact (tramoProgreso.trans progreso).trans
        (Progreso.ready_self (ready.trans rfl))
    · change { begun.toRelays with plasma3 := low } = _
      rw [relays]
      rfl
  · have readyStill : maquina.simonReady = decide (stage + 1 ≥ 3) := by
      rw [ready, decide_eq_decide]
      omega
    rw [if_neg (by omega), if_neg (by omega), if_neg (by omega),
      if_neg (by omega)]
    refine ⟨progreso.trans (Progreso.ready_self readyStill), ?_, ?_, ?_⟩
    · refine relays.trans ?_
      simp [relaysAt]
      omega
    · refine strip1.trans ?_
      have lit : litPixels stage = litPixels (stage + 1) := by
        unfold litPixels
        repeat rw [if_neg (by omega)]
      rw [stripAt, stripAt, lit]
    · have weird : ¬ (1 ≤ stage + 1 ∧ stage + 1 ≤ 4) := by omega
      rw [Partida.advance, if_neg weird, entered]
      simp only [emit, List.filter_append] at reports ⊢
      rw [reports]
      simp [Event.visible]

/-- Mark a puzzle in the globals. -/
def Progreso.mark (progreso : Progreso) : Puzzle → Progreso
  | .enchufe => { progreso with enchufada := true }
  | .knobs => { progreso with knobsWon := true }
  | .radio => { progreso with radioWon := true }
  | .simon => { progreso with simonWon := true }

theorem Partida.stage_solve {partida : Partida} {puzzle : Puzzle}
    (can : partida.CanSolve puzzle) :
    (partida.solve puzzle).stage = partida.stage + 1 := by
  rw [Partida.solve, dif_pos can]
  simp only [Partida.stage, Finset.card_insert_of_notMem can.1]
  push_cast
  omega

theorem Partida.progreso_solve {partida : Partida} {puzzle : Puzzle}
    (can : partida.CanSolve puzzle) :
    (partida.solve puzzle).progreso =
      { partida.progreso.mark puzzle with
        gamesWon := partida.stage + 1
        simonReady := decide (partida.stage + 1 ≥ 3) } := by
  have stage := Partida.stage_solve can
  rw [Partida.progreso, stage]
  rw [Partida.solve, dif_pos can]
  cases puzzle <;> simp [Partida.progreso, Progreso.mark]

theorem Partida.released_solve (partida : Partida) (puzzle : Puzzle) :
    (partida.solve puzzle).released = partida.released := by
  unfold Partida.solve
  split <;> rfl

/-- A producer of progress: it marks its puzzle, counts it, announces it and
lets the lightning advance. -/
theorem solve_performs (sample : Sample) {partida : Partida} {puzzle : Puzzle}
    {before marked : Maquina Button} (shows : Shows before partida)
    (can : partida.CanSolve puzzle)
    (progreso : marked.toProgreso =
      { partida.progreso.mark puzzle with gamesWon := partida.stage + 1 })
    (relays : marked.toRelays = before.toRelays)
    (strip1 : marked.strip1 = before.strip1)
    (visible : marked.out.filter Event.visible ++
        Partida.advance (partida.stage + 1) =
      before.out.filter Event.visible ++ partida.report (.solve puzzle)) :
    Performs partida (.solve puzzle) before (rayoAvanza sample marked) := by
  have reached : marked.gamesWon = partida.stage + 1 := by rw [progreso]
  have ready : marked.simonReady = decide (partida.stage ≥ 3) := by
    rw [progreso]
    cases puzzle <;> rfl
  obtain ⟨afterProgreso, afterRelays, afterStrip, afterVisible⟩ :=
    rayoAvanza_spec sample partida.stage_nonneg reached ready
      (relays.trans shows.relays) (strip1.trans shows.strip1)
  refine ⟨can, ⟨?_, ?_, ?_⟩, afterVisible.trans visible⟩
  · rw [afterProgreso, progreso]
    exact (Partida.progreso_solve can).symm
  · rw [Partida.act, Partida.stage_solve can, Partida.released_solve]
    exact afterRelays
  · rw [Partida.act, Partida.stage_solve can]
    exact afterStrip

/-! ## Commands -/

theorem cleared_shows (maquina : Maquina Button) :
    Shows (resetState (lucesOff maquina)) Partida.fresh :=
  ⟨rfl, rfl, (by decide : Vector.replicate totalStrip1 CRGB.black = stripAt 0)⟩

theorem cleared_visible (maquina : Maquina Button) :
    (resetState (lucesOff maquina)).out.filter Event.visible =
      maquina.out.filter Event.visible := by
  simp [resetState, lucesOff, showStrips, setLEDs, emit, Event.visible]

theorem handleReset_spec (maquina : Maquina Button) :
    Shows (handleReset maquina) Partida.fresh ∧
      (handleReset maquina).out.filter Event.visible =
        maquina.out.filter Event.visible ++ [.serial1 "OFF"] := by
  constructor
  · obtain ⟨progreso, relays, strip1⟩ := cleared_shows
      ((maquina.emit (.console "doiing a reset" [])).emit (.serial1 "OFF"))
    exact ⟨progreso, relays, strip1⟩
  · refine ((shutUp_quiet _).visible.trans (cleared_visible _)).trans ?_
    simp [emit, Event.visible]

theorem handleOn_spec (maquina : Maquina Button) :
    Shows (handleOn maquina) Partida.switchedOn ∧
      (handleOn maquina).out.filter Event.visible =
        maquina.out.filter Event.visible := by
  constructor
  · have strip1 := (cleared_shows
      (maquina.emit (.console "machine ON" []))).strip1
    exact ⟨rfl, rfl, strip1⟩
  · refine (cleared_visible _).trans ?_
    simp [emit, Event.visible]

theorem handleOff_spec (maquina : Maquina Button) :
    Shows (handleOff maquina) Partida.fresh ∧
      (handleOff maquina).out.filter Event.visible =
        maquina.out.filter Event.visible := by
  constructor
  · exact (cleared_shows _).of_quiet (shutUp_quiet _)
  · refine ((shutUp_quiet _).visible.trans (cleared_visible _)).trans ?_
    simp [emit, Event.visible]

theorem handleWin_spec (maquina : Maquina Button) :
    Shows (handleWin maquina) Partida.finished ∧
      (handleWin maquina).out.filter Event.visible =
        maquina.out.filter Event.visible ++
          [.console "winnnnning" [], .serial1 "OFF"] := by
  constructor
  · have strip1 := (cleared_shows
      (maquina.emit (.console "winnnnning" []))).strip1
    exact ⟨rfl, rfl, strip1⟩
  · have quiet := (shutUp_quiet _).visible.trans
      (cleared_visible (maquina.emit (.console "winnnnning" [])))
    simp only [handleWin, exitRoom, emit, List.filter_append] at quiet ⊢
    rw [quiet]
    simp [Event.visible]

theorem Partida.stage_skip (partida : Partida) :
    partida.skip.stage = partida.stage + 1 := by
  simp only [Partida.skip, Partida.stage]
  push_cast
  omega

theorem handleManual_spec (sample : Sample) {partida : Partida}
    {maquina : Maquina Button} (shows : Shows maquina partida) :
    Shows (handleManual sample maquina)
        (if partida.stage > 3 then Partida.finished else partida.skip) ∧
      (handleManual sample maquina).out.filter Event.visible =
        maquina.out.filter Event.visible ++
          if partida.stage > 3 then
            [.console "winnnnning" [], .serial1 "OFF"]
          else Partida.advance (partida.stage + 1) := by
  have counted : maquina.gamesWon = partida.stage := by
    rw [shows.progreso]; rfl
  unfold handleManual
  rw [counted]
  split
  · exact handleWin_spec maquina
  · have ready : maquina.simonReady = decide (partida.stage ≥ 3) := by
      rw [shows.progreso]; rfl
    obtain ⟨progreso, relays, strip1, visible⟩ :=
      @rayoAvanza_spec Button sample
        { maquina with gamesWon := partida.stage + 1 } partida.stage
        partida.released partida.stage_nonneg rfl ready shows.relays
        shows.strip1
    refine ⟨⟨?_, ?_, ?_⟩, visible⟩
    · rw [progreso, Partida.progreso, Partida.stage_skip]
      change { maquina.toProgreso with
        gamesWon := partida.stage + 1
        simonReady := decide (partida.stage + 1 ≥ 3) } = _
      rw [shows.progreso]
      rfl
    · rw [Partida.stage_skip]
      exact relays
    · rw [Partida.stage_skip]
      exact strip1

theorem handleSillaOn_spec (sample : Sample) {partida : Partida}
    {maquina : Maquina Button} (shows : Shows maquina partida) :
    Shows (handleSillaOn sample maquina) partida.sillaOn ∧
      (handleSillaOn sample maquina).out.filter Event.visible =
        maquina.out.filter Event.visible := by
  have counted : maquina.gamesWon = partida.stage := by
    rw [shows.progreso]; rfl
  have seated : maquina.sillaOn = partida.silla := by
    rw [shows.progreso]; rfl
  unfold handleSillaOn Partida.sillaOn
  have accepts : maquina.Accepts ↔ partida.silla = false ∧ partida.stage > 3 := by
    rw [Accepts, counted, seated]
  by_cases high : partida.silla = false ∧ partida.stage > 3
  · rw [if_pos (accepts.mpr high), dif_pos high]
    have quiet := turbinaFlash_quiet sample (seat maquina)
    constructor
    · refine Shows.of_quiet ?_ quiet
      refine ⟨?_, shows.relays, shows.strip1⟩
      change { maquina.toProgreso with
        sillaOn := true, efectoTurbina := true } = _
      rw [shows.progreso]
      rfl
    · refine quiet.visible.trans ?_
      simp [seat, emit, Event.visible]
  · rw [if_neg (mt accepts.mp high), dif_neg high]
    exact ⟨shows, rfl⟩

theorem handleSillaOff_spec {partida : Partida} {maquina : Maquina Button}
    (shows : Shows maquina partida) :
    Shows (handleSillaOff maquina) partida.sillaOff ∧
      (handleSillaOff maquina).out.filter Event.visible =
        maquina.out.filter Event.visible := by
  constructor
  · refine ⟨?_, shows.relays, shows.strip1⟩
    change { maquina.toProgreso with sillaOn := false } = _
    rw [shows.progreso]
    rfl
  · simp [handleSillaOff, emit, Event.visible]

theorem handleTrueno_quiet (maquina : Maquina Button) :
    Quiet maquina (handleTrueno maquina) :=
  ⟨rfl, rfl, rfl, by simp [handleTrueno, emit, Event.visible]⟩

theorem command_performs {text : Text} {partida result : Partida}
    {before heard after : Maquina Button} {tail : List Event}
    (received : heard.out.filter Event.visible =
      before.out.filter Event.visible ++ [.received text])
    (spec : Shows after result ∧
      after.out.filter Event.visible = heard.out.filter Event.visible ++ tail)
    (command : partida.command text = result)
    (report : partida.report (.command text) = .received text :: tail) :
    Performs partida (.command text) before after where
  enabled := trivial
  shows := by rw [Partida.act, command]; exact spec.1
  visible := by rw [spec.2, received, report, List.append_assoc]; rfl

/-- The handler selected for a text performs its command. -/
theorem dispatch_performs (sample : Sample) (text : Text) {partida : Partida}
    {maquina : Maquina Button} (shows : Shows maquina partida) :
    Performs partida (.command text) maquina
      (dispatch sample text (maquina.emit (.received text))) := by
  have received : (maquina.emit (.received text)).out.filter Event.visible =
      maquina.out.filter Event.visible ++ [.received text] := by
    simp [emit, Event.visible]
  replace shows : Shows (maquina.emit (.received text)) partida :=
    ⟨shows.progreso, shows.relays, shows.strip1⟩
  generalize maquina.emit (.received text) = heard at shows received ⊢
  have silent {after : Maquina Button} {result : Partida}
      (spec : Shows after result ∧
        after.out.filter Event.visible = heard.out.filter Event.visible) :
      Shows after result ∧ after.out.filter Event.visible =
        heard.out.filter Event.visible ++ [] := by
    simpa using spec
  by_cases reset : text = "reset".toList
  · subst reset
    exact command_performs received (handleReset_spec heard) rfl rfl
  by_cases on : text = "on".toList
  · subst on
    exact command_performs received (silent (handleOn_spec heard)) rfl rfl
  by_cases off : text = "off".toList
  · subst off
    exact command_performs received (silent (handleOff_spec heard)) rfl rfl
  by_cases win : text = "win".toList
  · subst win
    exact command_performs received (handleWin_spec heard) rfl rfl
  by_cases son : text = "son".toList
  · subst son
    exact command_performs received (silent (handleSillaOn_spec sample shows))
      rfl rfl
  by_cases soff : text = "soff".toList
  · subst soff
    exact command_performs received (silent (handleSillaOff_spec shows)) rfl rfl
  by_cases trueno : text = "trueno".toList
  · subst trueno
    have quiet := handleTrueno_quiet heard
    exact command_performs received
      (silent ⟨shows.of_quiet quiet, quiet.visible⟩) rfl rfl
  by_cases manual : text = "manual".toList
  · subst manual
    exact command_performs received (handleManual_spec sample shows) rfl rfl
  · have selected : dispatch sample text heard = heard := by
      rw [dispatch, if_neg reset, if_neg on, if_neg off, if_neg win, if_neg son,
        if_neg soff, if_neg trueno, if_neg manual]
    have command : partida.command text = partida := by
      rw [Partida.command, if_neg reset, if_neg on, if_neg off, if_neg win,
        if_neg son, if_neg soff, if_neg trueno, if_neg manual]
    have report : partida.report (.command text) = [.received text] := by
      rw [Partida.report, if_neg reset, if_neg win, if_neg manual]
    rw [selected]
    exact command_performs received (silent ⟨shows, rfl⟩) command report

/-! ## Polls and puzzles -/

section Operations

variable {partida : Partida} {maquina : Maquina Button}

theorem handleMessage_performs (sample : Sample)
    (shows : Shows maquina partida) :
    Performs partida (.command (trim maquina.incomingData)) maquina
      (handleMessage sample maquina) := by
  have trimmed : Quiet maquina
      { maquina with incomingData := trim maquina.incomingData } :=
    ⟨rfl, rfl, rfl, rfl⟩
  have performs := trimmed.then_performs
    (dispatch_performs sample (trim maquina.incomingData)
      (shows.of_quiet trimmed))
  exact performs.quiet ⟨rfl, rfl, rfl, rfl⟩

/-- A poll of the link is quiet or performs the command of the message which it
completes. -/
theorem checkIncoming_performs (sample : Sample)
    (shows : Shows maquina partida) :
    Performs partida .idle maquina (checkIncoming sample maquina) ∨
      ∃ text, Performs partida (.command text) maquina
        (checkIncoming sample maquina) := by
  have polled : Quiet maquina { maquina with
      toIdleReceiver := maquina.toIdleReceiver.receive 16 sample.serial1 } :=
    ⟨rfl, rfl, rfl, rfl⟩
  unfold checkIncoming
  dsimp only
  split
  · right
    exact ⟨_, polled.then_performs
      (handleMessage_performs sample (shows.of_quiet polled))⟩
  · left
    exact polled.performs shows

theorem winKnobs_performs (sample : Sample) (shows : Shows maquina partida)
    (unsolved : maquina.knobsWon = false) :
    Performs partida (.solve .knobs) maquina (winKnobs sample maquina) := by
  have can : partida.CanSolve .knobs := by
    rw [shows.progreso] at unsolved
    exact ⟨by simpa [Partida.progreso] using unsolved, by simp⟩
  refine solve_performs sample shows can ?_ rfl rfl ?_
  · change { maquina.toProgreso with
      knobsWon := true, gamesWon := maquina.toProgreso.gamesWon + 1 } = _
    rw [shows.progreso]
    rfl
  · simp [winnerSound, shutUp, emit, Partida.report, Partida.word]
    rfl

theorem checkKnobs_performs [Bounce Button] (sample : Sample)
    (shows : Shows maquina partida) (unsolved : maquina.knobsWon = false) :
    Performs partida .idle maquina (checkKnobs sample maquina) ∨
      Performs partida (.solve .knobs) maquina (checkKnobs sample maquina) := by
  unfold checkKnobs
  dsimp only
  have debounced : Quiet maquina { maquina with
      botonKnobs :=
        Bounce.update maquina.botonKnobs sample.buttonRed sample.millis } :=
    ⟨rfl, rfl, rfl, rfl⟩
  split
  · have quiet := debounced.trans
      (emit_quiet (.console "check knobs" []) rfl _)
    split
    · right
      refine (quiet.then_performs ?_).quiet (emit_quiet _ rfl _)
      exact winKnobs_performs sample (shows.of_quiet quiet) unsolved
    · left
      exact ((quiet.trans (emit_quiet _ rfl _)).trans (emit_quiet _ rfl _)).performs
        shows
  · left
    exact debounced.performs shows

theorem winRadio_performs (sample : Sample) (shows : Shows maquina partida)
    (unsolved : maquina.radioWon = false) :
    Performs partida (.solve .radio) maquina (winRadio sample maquina) := by
  have can : partida.CanSolve .radio := by
    rw [shows.progreso] at unsolved
    exact ⟨by simpa [Partida.progreso] using unsolved, by simp⟩
  refine solve_performs sample shows can ?_ rfl rfl ?_
  · change { maquina.toProgreso with
      radioWon := true, gamesWon := maquina.toProgreso.gamesWon + 1 } = _
    rw [shows.progreso]
    rfl
  · simp [winnerSound, emit, Partida.report, Partida.word]
    rfl

theorem tuneRadio_quiet (dif : Int) (maquina : Maquina Button) :
    Quiet maquina (tuneRadio dif maquina) := by
  unfold tuneRadio
  dsimp only
  refine Quiet.trans ?_ (emit_quiet _ rfl _)
  refine (emit_quiet (.tone (map dif 0 800 3400 500) 2) rfl maquina).trans ?_
  split <;> exact ⟨rfl, rfl, rfl, rfl⟩

theorem checkRadio_performs (sample : Sample)
    (shows : Shows maquina partida) (unsolved : maquina.radioWon = false) :
    Performs partida .idle maquina (checkRadio sample maquina) ∨
      Performs partida (.solve .radio) maquina (checkRadio sample maquina) := by
  unfold checkRadio
  dsimp only
  split
  · have quiet := tuneRadio_quiet (sample.a13 - valorR1).natAbs maquina
    split
    · right
      refine quiet.then_performs
        (winRadio_performs sample (shows.of_quiet quiet) ?_)
      rw [quiet.progreso]
      exact unsolved
    · left
      exact quiet.performs shows
  · left
    exact (emit_quiet _ rfl _).performs shows

theorem acceptEnchufe_performs (sample : Sample) {now : Bool}
    (shows : Shows maquina partida) (locked : maquina.yaGano = false)
    (changed : now ≠ maquina.enchufada) :
    Performs partida (if now = true then .solve .enchufe else .unplug) maquina
      (acceptEnchufe sample now maquina) := by
  have plugged : maquina.enchufada = decide (Puzzle.enchufe ∈ partida.solved) := by
    rw [shows.progreso]; rfl
  have released : partida.released = false := by
    rw [shows.progreso] at locked; exact locked
  cases now with
  | true =>
      have unplugged : maquina.enchufada = false := by
        simpa using changed
      have can : partida.CanSolve .enchufe :=
        ⟨by simpa [plugged] using unplugged, fun _ => released⟩
      refine solve_performs sample shows can ?_ rfl rfl ?_
      · change { maquina.toProgreso with
          enchufada := true, gamesWon := maquina.toProgreso.gamesWon + 1 } = _
        rw [shows.progreso]
        rfl
      · simp [emit, Partida.report]
        rfl
  | false =>
      have member : Puzzle.enchufe ∈ partida.solved := by
        have : maquina.enchufada = true := by simpa using changed
        simpa [plugged] using this
      obtain ⟨shown, seen⟩ := handleReset_spec
        ((({ maquina with enchufada := false, enchufeCounter := 0 } :
          Maquina Button).emit (.serial1 "OFF")).emit
            (.console "enchufe off" []))
      refine ⟨member, shown, seen.trans ?_⟩
      simp [emit, Partida.report]
      rfl

/-- A call of `checkEnchufe` and the plug state which it returns. -/
theorem checkEnchufe_performs (sample : Sample)
    (shows : Shows maquina partida) :
    ∃ action, (action = .idle ∨ action = .solve .enchufe ∨ action = .unplug) ∧
      Performs partida action maquina (checkEnchufe sample maquina).2 ∧
      (checkEnchufe sample maquina).1 =
        (checkEnchufe sample maquina).2.enchufada := by
  unfold checkEnchufe
  split
  · rename_i locked
    dsimp only
    split
    · rename_i changed
      have counted : Quiet maquina { maquina with
          enchufeCounter := maquina.enchufeCounter + 1 } :=
        ⟨rfl, rfl, rfl, rfl⟩
      split
      · refine ⟨_, ?_, counted.then_performs (acceptEnchufe_performs sample
          (shows.of_quiet counted) locked changed), rfl⟩
        split <;> simp
      · exact ⟨.idle, .inl rfl, counted.performs shows, rfl⟩
    · exact ⟨.idle, .inl rfl, Quiet.performs ⟨rfl, rfl, rfl, rfl⟩ shows, rfl⟩
  · rename_i won
    refine ⟨.idle, .inl rfl, (Quiet.refl maquina).performs shows, ?_⟩
    have released : partida.released = true := by
      rw [shows.progreso] at won
      simpa [Partida.progreso] using won
    rw [shows.progreso]
    simpa [Partida.progreso] using partida.released_unplugged released

theorem winnerFlashes_quiet (maquina : Maquina Button) :
    Quiet maquina (winnerFlashes maquina) := by
  have flash (leds : Nat) (maquina : Maquina Button) :
      Quiet maquina (winnerSound (setLEDs leds maquina)) :=
    (setLEDs_quiet leds maquina).trans (winnerSound_quiet _)
  exact (((flash _ maquina).trans (flash _ _)).trans (flash _ _)).trans
    (flash _ _)

theorem loserFlashes_quiet (maquina : Maquina Button) :
    Quiet maquina (loserFlashes maquina) := by
  have flash (leds : Nat) (maquina : Maquina Button) :
      Quiet maquina (buzzSound 255 1500 (setLEDs leds maquina)) :=
    (setLEDs_quiet leds maquina).trans (buzzSound_quiet _ _ _)
  exact (((flash _ maquina).trans (flash _ _)).trans (flash _ _)).trans
    (flash _ _)

theorem playWinner_performs (sample : Sample) (shows : Shows maquina partida)
    (unsolved : maquina.simonWon = false) :
    Performs partida (.solve .simon) maquina (playWinner sample maquina) := by
  have can : partida.CanSolve .simon := by
    rw [shows.progreso] at unsolved
    exact ⟨by simpa [Partida.progreso] using unsolved, by simp⟩
  have flashes := winnerFlashes_quiet maquina
  unfold playWinner
  generalize winnerFlashes maquina = lit at flashes ⊢
  refine flashes.then_performs ?_
  replace shows := shows.of_quiet flashes
  refine solve_performs sample shows can ?_ rfl rfl ?_
  · change { lit.toProgreso with
      simonWon := true, gamesWon := lit.toProgreso.gamesWon + 1 } = _
    rw [shows.progreso]
    rfl
  · simp [shutUp, emit, Partida.report, Partida.word]
    rfl

theorem playLoser_performs (shows : Shows maquina partida) :
    Performs partida .lose maquina (playLoser maquina) := by
  have flashes := loserFlashes_quiet maquina
  unfold playLoser
  generalize loserFlashes maquina = lit at flashes ⊢
  refine flashes.then_performs ?_
  replace shows := shows.of_quiet flashes
  refine ⟨trivial, ⟨shows.progreso, shows.relays, shows.strip1⟩, ?_⟩
  simp [shutUp, emit, Partida.report]
  rfl

theorem Shows.simon_notMem (shows : Shows maquina partida)
    (unsolved : maquina.simonWon = false) :
    Puzzle.simon ∉ partida.solved := by
  rw [shows.progreso] at unsolved
  simpa [Partida.progreso] using unsolved

theorem Shows.simonWon (shows : Shows maquina partida)
    (unsolved : Puzzle.simon ∉ partida.solved) :
    maquina.simonWon = false := by
  rw [shows.progreso]
  simpa [Partida.progreso] using unsolved

end Operations

end Salsipuedes.Maquina

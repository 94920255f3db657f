import Salsipuedes.MaquinaInterrupcion
import Salsipuedes.MaquinaMarcos

/-!
# The counters of the machine

Which operations touch the debounce counter of the plug, the dwell counter of
the radio and the intensity of the thunder: each is written by one function of
`loop`, and the first also by two handlers.  Everything else, the Simon game
included, leaves them alone.
-/

namespace Salsipuedes.Maquina

variable {Button : Type}

/-- The plug and its debounce counter, the dwell counter of the radio, and the
intensity of the thunder. -/
@[ext]
structure Cuentas where
  enchufada : Bool
  yaGano : Bool
  enchufeCounter : Int
  tiempoRadio : Int
  intensidadRayos : Int

def cuentas (maquina : Maquina Button) : Cuentas :=
  ⟨maquina.enchufada, maquina.yaGano, maquina.enchufeCounter,
    maquina.tiempoRadio, maquina.intensidadRayos⟩

/-! ## Elementary operations -/

theorem receiver_cuentas (receiver : IdleReceiver Char)
    (maquina : Maquina Button) :
    cuentas { maquina with toIdleReceiver := receiver } = maquina.cuentas :=
  rfl

theorem emit_cuentas (event : Event) (maquina : Maquina Button) :
    (maquina.emit event).cuentas = maquina.cuentas :=
  rfl

theorem setLEDs_cuentas (leds : Nat) (maquina : Maquina Button) :
    (setLEDs leds maquina).cuentas = maquina.cuentas :=
  rfl

theorem shutUp_cuentas (maquina : Maquina Button) :
    (shutUp maquina).cuentas = maquina.cuentas :=
  rfl

/-! ## Light effects -/

theorem turbinaFlash_cuentas (sample : Sample) (maquina : Maquina Button) :
    (turbinaFlash sample maquina).cuentas = maquina.cuentas := by
  obtain ⟨_, _, _, same⟩ := turbinaFlash_frame sample maquina
  rw [same]
  rfl

theorem updateTurbina_cuentas (sample : Sample) (maquina : Maquina Button) :
    (updateTurbina sample maquina).cuentas = maquina.cuentas := by
  obtain ⟨_, _, _, _, same⟩ := updateTurbina_frame sample maquina
  rw [same]
  rfl

theorem rayoAvanza_cuentas (sample : Sample) (maquina : Maquina Button) :
    (rayoAvanza sample maquina).cuentas = maquina.cuentas := by
  rw [(rayoAvanza_alumbra sample maquina).frame]
  rfl

/-! ## The Simon game -/

theorem toner_cuentas (which : Nat) (lengthMs : Int) (maquina : Maquina Button) :
    (toner which lengthMs maquina).cuentas = maquina.cuentas := by
  rw [toner_frame]
  rfl

theorem playMoves_cuentas (maquina : Maquina Button) :
    (playMoves maquina).cuentas = maquina.cuentas := by
  obtain ⟨_, same⟩ := playMoves_frame maquina
  rw [same]
  rfl

theorem playWinner_cuentas (sample : Sample) (maquina : Maquina Button) :
    (playWinner sample maquina).cuentas = maquina.cuentas := by
  unfold playWinner
  rw [rayoAvanza_cuentas]
  rfl

theorem playLoser_cuentas (maquina : Maquina Button) :
    (playLoser maquina).cuentas = maquina.cuentas := by
  rw [playLoser, loserFlashes_frame]
  rfl

theorem addToMoves_cuentas (sample : Sample) (maquina : Maquina Button) :
    (addToMoves sample maquina).cuentas = maquina.cuentas :=
  rfl

theorem nextRound_cuentas (sample : Sample) (maquina : Maquina Button) :
    (nextRound sample maquina).maquina.cuentas = maquina.cuentas := by
  unfold nextRound
  split
  · exact (playMoves_cuentas _).trans (addToMoves_cuentas sample maquina)
  · exact playWinner_cuentas sample maquina

theorem choose_cuentas (sample : Sample) (choice currentMove : Nat)
    (maquina : Maquina Button) :
    (choose sample choice currentMove maquina).maquina.cuentas =
      maquina.cuentas := by
  unfold choose
  split
  · exact playLoser_cuentas maquina
  split
  · exact playLoser_cuentas maquina
  split
  · rfl
  · exact nextRound_cuentas sample maquina

theorem startMemory_cuentas (sample : Sample) (maquina : Maquina Button) :
    (startMemory sample maquina).maquina.cuentas = maquina.cuentas := by
  unfold startMemory
  rw [nextRound_cuentas]
  rfl

section Buttons

variable [Bounce Button]

theorem checkButton_cuentas (sample : Sample) (maquina : Maquina Button) :
    (checkButton sample maquina).2.cuentas = maquina.cuentas :=
  rfl

theorem attractPoll_cuentas (sample : Sample) (counterAttract : Nat)
    (turn : Fin 4) (maquina : Maquina Button) :
    (attractPoll sample counterAttract turn maquina).maquina.cuentas =
      maquina.cuentas := by
  unfold attractPoll
  dsimp only
  split
  · rw [startMemory_cuentas, checkButton_cuentas, setLEDs_cuentas]
  split
  · rw [checkButton_cuentas, setLEDs_cuentas]
  split
  · rw [checkButton_cuentas, setLEDs_cuentas]
  · rw [startMemory_cuentas, shutUp_cuentas, setLEDs_cuentas,
      checkButton_cuentas, setLEDs_cuentas]

theorem releasePoll_cuentas (sample : Sample) (button currentMove : Nat)
    (maquina : Maquina Button) :
    (releasePoll sample button currentMove maquina).maquina.cuentas =
      maquina.cuentas := by
  rw [releasePoll_eq]
  dsimp only
  split
  · exact checkButton_cuentas sample maquina
  · rw [choose_cuentas, checkButton_cuentas]

/-! ## Knobs -/

omit [Bounce Button] in
theorem winKnobs_cuentas (sample : Sample) (maquina : Maquina Button) :
    (winKnobs sample maquina).cuentas = maquina.cuentas := by
  unfold winKnobs
  rw [rayoAvanza_cuentas]
  rfl

theorem checkKnobs_cuentas (sample : Sample) (maquina : Maquina Button) :
    (checkKnobs sample maquina).cuentas = maquina.cuentas := by
  unfold checkKnobs
  dsimp only
  split
  · rw [emit_cuentas]
    split
    · rw [winKnobs_cuentas]
      rfl
    · rfl
  · rfl

end Buttons

/-! ## Commands -/

/-- The flags and counters after the command of a text which is handled at a
stage: only `reset` and `on` restart the debounce counter. -/
def Cuentas.handle (cuentas : Cuentas) (stage : Int) (text : Text) : Cuentas :=
  if text = "reset".toList then
    { cuentas with enchufada := false, yaGano := false, enchufeCounter := 0 }
  else if text = "on".toList then
    { cuentas with enchufada := true, yaGano := false, enchufeCounter := 0 }
  else if text = "off".toList then
    { cuentas with enchufada := false, yaGano := false }
  else if text = "win".toList ∨ (text = "manual".toList ∧ stage > 3) then
    { cuentas with enchufada := false, yaGano := true }
  else
    cuentas

theorem handleManual_cuentas (sample : Sample) (maquina : Maquina Button) :
    (handleManual sample maquina).cuentas =
      maquina.cuentas.handle maquina.gamesWon "manual".toList := by
  unfold handleManual
  split
  · rename_i last
    simp only [Cuentas.handle, last, and_self, or_true, if_true]
    rfl
  · rename_i early
    rw [rayoAvanza_cuentas]
    simp only [Cuentas.handle, early, and_false]
    rfl

theorem handleSillaOn_cuentas (sample : Sample) (maquina : Maquina Button) :
    (handleSillaOn sample maquina).cuentas = maquina.cuentas := by
  unfold handleSillaOn
  split
  · rw [turbinaFlash_cuentas]
    rfl
  · rfl

theorem dispatch_cuentas (sample : Sample) (text : Text)
    (maquina : Maquina Button) :
    (dispatch sample text maquina).cuentas =
      maquina.cuentas.handle maquina.gamesWon text := by
  unfold dispatch
  by_cases reset : text = "reset".toList
  · subst reset
    rfl
  by_cases on : text = "on".toList
  · subst on
    rfl
  by_cases off : text = "off".toList
  · subst off
    rfl
  by_cases win : text = "win".toList
  · subst win
    rfl
  rw [if_neg reset, if_neg on, if_neg off, if_neg win]
  by_cases son : text = "son".toList
  · subst son
    exact handleSillaOn_cuentas sample maquina
  by_cases soff : text = "soff".toList
  · subst soff
    rfl
  by_cases trueno : text = "trueno".toList
  · subst trueno
    rfl
  rw [if_neg son, if_neg soff, if_neg trueno]
  by_cases manual : text = "manual".toList
  · rw [if_pos manual, manual]
    exact handleManual_cuentas sample maquina
  · have notWon : ¬ (text = "win".toList ∨
        (text = "manual".toList ∧ maquina.gamesWon > 3)) := by
      rintro (rfl | ⟨rfl, -⟩)
      · exact win rfl
      · exact manual rfl
    rw [if_neg manual, Cuentas.handle, if_neg reset, if_neg on, if_neg off,
      if_neg notWon]

/-- The message which a poll of the link completes. -/
def completed (sample : Sample) (maquina : Maquina Button) : Option Text :=
  let receiver := maquina.toIdleReceiver.receive 16 sample.serial1
  if receiver.complete 25 then some (trim receiver.incomingData) else none

theorem checkIncoming_cuentas (sample : Sample) (maquina : Maquina Button) :
    (checkIncoming sample maquina).cuentas =
      match completed sample maquina with
      | some text => maquina.cuentas.handle maquina.gamesWon text
      | none => maquina.cuentas := by
  unfold checkIncoming readIncoming messageOver completed
  dsimp only
  split
  · unfold handleMessage announce
    rw [receiver_cuentas, dispatch_cuentas, emit_cuentas]
    rfl
  · rfl

/-! ## Steps -/

/-- The message which is handled in a step of the machine. -/
def heard (config : Config Button) (sample : Sample) : Option Text :=
  match config.control with
  | .incoming => completed sample config.maquina
  | .waiting startTime _ =>
      if InTime startTime sample then completed sample config.maquina else none
  | _ => none

/-- The control points at which `checkEnchufe` is called. -/
def Control.callsPlug : Control → Bool
  | .loopStart | .enchufe => true
  | _ => false

/-- A call of `checkEnchufe` which finds the plug at a level. -/
def Cuentas.plug (cuentas : Cuentas) (now : Bool) : Cuentas :=
  if cuentas.yaGano = true then cuentas
  else if now = cuentas.enchufada then { cuentas with enchufeCounter := 0 }
  else if cuentas.enchufeCounter + 1 = 50 then
    { cuentas with enchufada := now, enchufeCounter := 0 }
  else { cuentas with enchufeCounter := cuentas.enchufeCounter + 1 }

theorem acceptEnchufe_cuentas (sample : Sample) (now : Bool)
    (maquina : Maquina Button) (locked : maquina.yaGano = false) :
    (acceptEnchufe sample now maquina).cuentas =
      { maquina.cuentas with enchufada := now, enchufeCounter := 0 } := by
  cases now with
  | true =>
      rw [acceptEnchufe, if_pos rfl, rayoAvanza_cuentas]
      rfl
  | false =>
      rw [acceptEnchufe, if_neg (by simp)]
      simp only [cuentas, locked]
      rfl

theorem checkEnchufe_cuentas (sample : Sample) (maquina : Maquina Button) :
    (checkEnchufe sample maquina).2.cuentas =
      maquina.cuentas.plug sample.enchufe := by
  unfold checkEnchufe Cuentas.plug
  by_cases locked : maquina.yaGano = false
  · have going : ¬ maquina.cuentas.yaGano = true := by
      simp [cuentas, locked]
    rw [if_pos locked, if_neg going]
    dsimp only
    by_cases same : sample.enchufe = maquina.enchufada
    · have unchanged : sample.enchufe = maquina.cuentas.enchufada := same
      rw [if_neg (not_not.mpr same), if_pos unchanged]
      rfl
    · have changed : ¬ sample.enchufe = maquina.cuentas.enchufada := same
      rw [if_pos same, if_neg changed]
      by_cases due : maquina.enchufeCounter + 1 = 50
      · have last : maquina.cuentas.enchufeCounter + 1 = 50 := due
        rw [if_pos due, if_pos last]
        exact acceptEnchufe_cuentas sample _ _ locked
      · have early : ¬ maquina.cuentas.enchufeCounter + 1 = 50 := due
        rw [if_neg due, if_neg early]
        rfl
  · rw [if_neg locked, if_pos (by simpa [cuentas] using locked)]

/-- The dwell counter after a call of `checkRadio`. -/
def dwell (sample : Sample) (tiempoRadio : Int) : Int :=
  if sample.radio2 = valorR2 ∧ sample.radio3 = valorR3 then
    if ((sample.a13 - valorR1).natAbs : Int) < 40 then
      toInt 16 (tiempoRadio - 1)
    else
      tiempoRadioTotal
  else
    tiempoRadio

theorem winRadio_cuentas (sample : Sample) (maquina : Maquina Button) :
    (winRadio sample maquina).cuentas = maquina.cuentas := by
  unfold winRadio
  rw [rayoAvanza_cuentas]
  rfl

theorem checkRadio_cuentas (sample : Sample) (maquina : Maquina Button) :
    (checkRadio sample maquina).cuentas =
      { maquina.cuentas with
        tiempoRadio := dwell sample maquina.tiempoRadio } := by
  unfold checkRadio dwell
  dsimp only
  split
  · have tuned : (tuneRadio (sample.a13 - valorR1).natAbs maquina).cuentas =
        { maquina.cuentas with
          tiempoRadio :=
            if ((sample.a13 - valorR1).natAbs : Int) < 40 then
              toInt 16 (maquina.tiempoRadio - 1)
            else
              tiempoRadioTotal } := by
      unfold tuneRadio
      dsimp only
      split <;> rfl
    split
    · rw [winRadio_cuentas, tuned]
    · exact tuned
  · rfl

theorem rayoPega_cuentas (maquina : Maquina Button) :
    (rayoPega maquina).cuentas =
      { maquina.cuentas with intensidadRayos := golpe maquina } := by
  obtain ⟨_, _, _, same⟩ := rayoPega_frame maquina
  rw [same]
  rfl

section Step

variable [Bounce Button] {config : Config Button} {sample : Sample}

/-- A poll of `waitForButton`. -/
theorem waitPoll_cuentas (startTime : Int32) (currentMove : Nat)
    (maquina : Maquina Button) :
    (waitPoll sample startTime currentMove maquina).maquina.cuentas =
      match heard ⟨.waiting startTime currentMove, maquina⟩ sample with
      | some text => maquina.cuentas.handle maquina.gamesWon text
      | none => maquina.cuentas := by
  rw [waitPoll_eq]
  dsimp only [heard]
  split
  · rw [← checkIncoming_cuentas, ← checkButton_cuentas sample]
    split
    · exact toner_cuentas _ _ _
    · rfl
  · exact choose_cuentas sample choiceNone currentMove maquina

/-- A step at which `checkEnchufe` is called. -/
theorem step_plug {partida : Partida} (tracks : Tracks config partida)
    (calls : config.control.callsPlug = true) :
    ((machine Button).step config sample).maquina.cuentas =
      config.maquina.cuentas.plug sample.enchufe := by
  obtain ⟨control, maquina⟩ := config
  have checked : (checkEnchufe sample { maquina with out := [] }).2.cuentas =
      maquina.cuentas.plug sample.enchufe :=
    checkEnchufe_cuentas sample _
  cases control with
  | loopStart => exact checked
  | enchufe =>
      have silent : Shows { maquina with out := [] } partida :=
        ⟨tracks.shows.progreso, tracks.shows.relays, tracks.shows.strip1⟩
      obtain ⟨-, -, -, returned⟩ := checkEnchufe_performs sample silent
      refine Eq.trans ?_ checked
      simp only [machine, operation, returned]
  | _ => simp [Control.callsPlug] at calls

/-- A step at which the radio may be checked. -/
theorem step_radio (atRadio : config.control = .radio) :
    ((machine Button).step config sample).maquina.cuentas =
      if config.maquina.radioWon = false then
        { config.maquina.cuentas with
          tiempoRadio := dwell sample config.maquina.tiempoRadio }
      else
        config.maquina.cuentas := by
  simp only [machine, operation, atRadio]
  split
  · exact checkRadio_cuentas sample _
  · rfl

/-- A step at which the thunder may strike. -/
theorem step_rayos (atRayos : config.control = .rayos) :
    ((machine Button).step config sample).maquina.cuentas =
      if config.maquina.luzRayos = true then
        { config.maquina.cuentas with
          intensidadRayos := golpe config.maquina }
      else
        config.maquina.cuentas := by
  simp only [machine, operation, atRayos]
  split
  · exact rayoPega_cuentas _
  · rfl

/-- Every other step touches the counters only by the command which it
handles. -/
theorem step_heard (notPlug : config.control.callsPlug = false)
    (notRadio : config.control ≠ .radio) (notRayos : config.control ≠ .rayos) :
    ((machine Button).step config sample).maquina.cuentas =
      match heard config sample with
      | some text => config.maquina.cuentas.handle config.maquina.gamesWon text
      | none => config.maquina.cuentas := by
  obtain ⟨control, maquina⟩ := config
  cases control with
  | loopStart | enchufe => simp [Control.callsPlug] at notPlug
  | radio => exact absurd rfl notRadio
  | rayos => exact absurd rfl notRayos
  | knobs =>
      dsimp only [machine, operation]
      split
      · exact checkKnobs_cuentas sample _
      · rfl
  | simon =>
      dsimp only [machine, operation]
      split <;> rfl
  | attract counterAttract turn => exact attractPoll_cuentas sample _ _ _
  | choosing currentMove => rfl
  | waiting startTime currentMove => exact waitPoll_cuentas startTime _ _
  | releasing button currentMove => exact releasePoll_cuentas sample _ _ _
  | turbina => exact updateTurbina_cuentas sample _
  | incoming => exact checkIncoming_cuentas sample _

/-! ## Handled messages -/

omit [Bounce Button] in
theorem checkIncoming_completed (sample : Sample) {partida : Partida}
    {maquina : Maquina Button} (shows : Shows maquina partida) :
    Performs partida
      (match completed sample maquina with
        | some text => .command text
        | none => .idle) maquina (checkIncoming sample maquina) := by
  have polled : Quiet maquina { maquina with
      toIdleReceiver := maquina.toIdleReceiver.receive 16 sample.serial1 } :=
    ⟨rfl, rfl, rfl, rfl⟩
  unfold checkIncoming readIncoming messageOver completed
  dsimp only
  by_cases due : (maquina.toIdleReceiver.receive 16 sample.serial1).complete 25
  · rw [if_pos due, if_pos due]
    exact polled.then_performs
      (handleMessage_performs sample (shows.of_quiet polled))
  · rw [if_neg due, if_neg due]
    exact polled.performs shows

/-- A poll of the link performs the command of the message which it completes,
and without one it reports no message. -/
theorem polls_performs (sample : Sample) {partida : Partida}
    (tracks : Tracks config partida)
    (polls : config.control = .incoming ∨
      ∃ startTime currentMove, config.control = .waiting startTime currentMove) :
    ∃ action : Partida.Action,
      Performs partida action { config.maquina with out := [] }
          ((machine Button).step config sample).maquina ∧
        ∀ text, heard config sample = some text ↔ action = .command text := by
  obtain ⟨control, maquina⟩ := config
  have silent : Shows { maquina with out := [] } partida :=
    ⟨tracks.shows.progreso, tracks.shows.relays, tracks.shows.strip1⟩
  obtain ⟨action, performs, named⟩ : ∃ action : Partida.Action,
      Performs partida action { maquina with out := [] }
          (checkIncoming sample { maquina with out := [] }) ∧
        ∀ text, completed sample maquina = some text ↔ action = .command text := by
    refine ⟨_, checkIncoming_completed sample silent, fun text => ?_⟩
    change completed sample { maquina with out := [] } = _ ↔ _
    cases completed sample { maquina with out := [] } <;> simp
  rcases polls with rfl | ⟨startTime, currentMove, rfl⟩
  · exact ⟨action, performs.quiet (showStrips_quiet _), named⟩
  · dsimp only [machine, operation, heard]
    rw [waitPoll_eq]
    dsimp only
    split
    · have checked := performs.quiet (checkButton_quiet sample _)
      refine ⟨action, ?_, named⟩
      split
      · exact checked.quiet (toner_quiet _ _ _)
      · exact checked
    · exact ⟨.lose, playLoser_performs silent, by simp⟩

/-- A text is reported exactly in the steps which handle it. -/
theorem received_iff_heard {partida : Partida} (tracks : Tracks config partida)
    (text : Text) :
    .received text ∈ (machine Button).emit config sample ↔
      heard config sample = some text := by
  have reported {action : Partida.Action} (performs : Performs partida action
      { config.maquina with out := [] }
      ((machine Button).step config sample).maquina) :
      .received text ∈ (machine Button).emit config sample ↔
        .received text ∈ partida.report action := by
    have visible : ((machine Button).emit config sample).filter Event.visible =
        partida.report action := performs.visible
    rw [← visible, List.mem_filter]
    exact (and_iff_left rfl).symm
  by_cases polls : config.control = .incoming ∨
      ∃ startTime currentMove, config.control = .waiting startTime currentMove
  · obtain ⟨action, performs, named⟩ := polls_performs sample tracks polls
    rw [reported performs, named]
    constructor
    · exact Partida.command_of_received
    · rintro rfl
      exact partida.received_mem_report text
  · obtain ⟨action, steps⟩ := step_tracks tracks sample
    constructor
    · intro member
      obtain rfl := Partida.command_of_received ((steps.mem_emit rfl).mp member)
      exact absurd steps.flow.polls polls
    · intro completes
      unfold heard at completes
      split at completes
      · rename_i here
        exact absurd (.inl here) polls
      · rename_i here
        exact absurd (.inr ⟨_, _, here⟩) polls
      · simp at completes

end Step

end Salsipuedes.Maquina

import Salsipuedes.MaquinaMarcos

/-!
# The receiver of the machine

`checkIncoming` is called at two points of the machine, in `loop` and in the
poll of `waitForButton`.  Every other operation leaves the buffer of the link
alone and dispatches no text, so the machine embeds the receiver with an idle
limit of 25 polls.
-/

namespace Salsipuedes.Maquina

variable {Button : Type}

/-- The text which `checkIncoming` reports when it dispatches it. -/
def Event.received? : Event → Option Text
  | .received message => some message
  | _ => none

/-- The buffer of the link, and the texts which have been dispatched. -/
def oido (maquina : Maquina Button) : IdleReceiver Char × List Text :=
  (maquina.toIdleReceiver, maquina.out.filterMap Event.received?)

/-! ## Elementary operations -/

theorem oido_congr {before after : Maquina Button}
    (receiver : after.toIdleReceiver = before.toIdleReceiver)
    (out : after.out = before.out) : after.oido = before.oido := by
  rw [oido, oido, receiver, out]

/-- Effects which dispatch no text. -/
theorem appends_oido {before after : Maquina Button} {events : List Event}
    (receiver : after.toIdleReceiver = before.toIdleReceiver)
    (out : after.out = before.out ++ events)
    (other : ∀ event ∈ events, event.received? = none) :
    after.oido = before.oido := by
  rw [oido, oido, receiver, out, List.filterMap_append,
    List.filterMap_eq_nil_iff.mpr other, List.append_nil]

theorem emit_oido {event : Event} (other : event.received? = none)
    (maquina : Maquina Button) : (maquina.emit event).oido = maquina.oido := by
  exact appends_oido rfl rfl (List.forall_mem_singleton.mpr other)

@[simp]
theorem console_oido (line : String) (values : List Int)
    (maquina : Maquina Button) :
    (maquina.emit (.console line values)).oido = maquina.oido :=
  emit_oido rfl maquina

@[simp]
theorem serial1_oido (message : String) (maquina : Maquina Button) :
    (maquina.emit (.serial1 message)).oido = maquina.oido :=
  emit_oido rfl maquina

@[simp]
theorem tone_oido (frequency duration : Int) (maquina : Maquina Button) :
    (maquina.emit (.tone frequency duration)).oido = maquina.oido :=
  emit_oido rfl maquina

@[simp]
theorem showStrips_oido (maquina : Maquina Button) :
    (showStrips maquina).oido = maquina.oido :=
  emit_oido rfl maquina

@[simp]
theorem setLEDs_oido (leds : Nat) (maquina : Maquina Button) :
    (setLEDs leds maquina).oido = maquina.oido :=
  rfl

@[simp]
theorem shutUp_oido (maquina : Maquina Button) :
    (shutUp maquina).oido = maquina.oido :=
  emit_oido rfl maquina

@[simp]
theorem winnerSound_oido (maquina : Maquina Button) :
    (winnerSound maquina).oido = maquina.oido :=
  emit_oido rfl maquina

@[simp]
theorem buzzSound_oido (lengthMs delayUs : Int) (maquina : Maquina Button) :
    (buzzSound lengthMs delayUs maquina).oido = maquina.oido :=
  emit_oido rfl maquina

theorem Event.received_of_reports {event : Event}
    (reports : event.reports = true) : event.received? = none := by
  cases event with
  | received message => simp [Event.reports] at reports
  | _ => rfl

/-! ## Light effects -/

theorem turbinaFlash_oido (sample : Sample) (maquina : Maquina Button) :
    (turbinaFlash sample maquina).oido = maquina.oido := by
  obtain ⟨_, _, _, flash⟩ := turbinaFlash_frame sample maquina
  rw [flash]
  rfl

theorem updateTurbina_oido (sample : Sample) (maquina : Maquina Button) :
    (updateTurbina sample maquina).oido = maquina.oido := by
  obtain ⟨_, _, _, _, update⟩ := updateTurbina_frame sample maquina
  rw [update]
  rfl

theorem rayoPega_oido (maquina : Maquina Button) :
    (rayoPega maquina).oido = maquina.oido := by
  obtain ⟨_, _, _, strikes⟩ := rayoPega_frame maquina
  rw [strikes]
  rfl

theorem rayoAvanza_oido (sample : Sample) (maquina : Maquina Button) :
    (rayoAvanza sample maquina).oido = maquina.oido := by
  obtain ⟨frame, events, out, reports⟩ := rayoAvanza_alumbra sample maquina
  exact appends_oido (congrArg (·.toIdleReceiver) frame) out
    fun event member => Event.received_of_reports (reports event member)

/-! ## The Simon game -/

/-- The sounds of a button dispatch no text. -/
theorem tono_received (lengthMs : Int) (which : Nat) :
    ∀ event ∈ tono lengthMs which, event.received? = none := by
  unfold tono
  cases halfPeriod which <;> simp [Event.received?]

theorem toner_oido (which : Nat) (lengthMs : Int) (maquina : Maquina Button) :
    (toner which lengthMs maquina).oido = maquina.oido := by
  rw [toner_frame]
  exact appends_oido rfl rfl (tono_received lengthMs which)

theorem playMoves_oido (maquina : Maquina Button) :
    (playMoves maquina).oido = maquina.oido := by
  obtain ⟨_, played⟩ := playMoves_frame maquina
  rw [played]
  refine appends_oido rfl rfl fun event member => ?_
  rcases List.mem_cons.mp member with rfl | sounds
  · rfl
  · obtain ⟨which, -, sounds⟩ := List.mem_flatMap.mp sounds
    exact tono_received 150 which event sounds

theorem playWinner_oido (sample : Sample) (maquina : Maquina Button) :
    (playWinner sample maquina).oido = maquina.oido := by
  have flashes : (winnerFlashes maquina).oido = maquina.oido := by
    simp [winnerFlashes]
  unfold playWinner
  rw [rayoAvanza_oido, shutUp_oido, ← flashes]
  exact serial1_oido "SWIN" { winnerFlashes maquina with simonWon := true }

theorem playLoser_oido (maquina : Maquina Button) :
    (playLoser maquina).oido = maquina.oido := by
  simp [playLoser, loserFlashes]

theorem nextRound_oido (sample : Sample) (maquina : Maquina Button) :
    (nextRound sample maquina).maquina.oido = maquina.oido := by
  unfold nextRound
  split
  · exact playMoves_oido _
  · exact playWinner_oido sample maquina

theorem choose_oido (sample : Sample) (choice currentMove : Nat)
    (maquina : Maquina Button) :
    (choose sample choice currentMove maquina).maquina.oido = maquina.oido := by
  unfold choose
  split
  · exact playLoser_oido maquina
  split
  · exact playLoser_oido maquina
  split
  · rfl
  · exact nextRound_oido sample maquina

theorem startMemory_oido (sample : Sample) (maquina : Maquina Button) :
    (startMemory sample maquina).maquina.oido = maquina.oido := by
  unfold startMemory
  exact nextRound_oido sample _

section Buttons

variable [Bounce Button]

theorem checkButton_oido (sample : Sample) (maquina : Maquina Button) :
    (checkButton sample maquina).2.oido = maquina.oido := by
  rw [checkButton_frame]
  rfl

theorem attractPoll_oido (sample : Sample) (counterAttract : Nat)
    (turn : Fin 4) (maquina : Maquina Button) :
    (attractPoll sample counterAttract turn maquina).maquina.oido =
      maquina.oido := by
  unfold attractPoll
  dsimp only
  split
  · exact startMemory_oido sample _
  split
  · rfl
  split
  · rfl
  · rw [startMemory_oido, shutUp_oido]
    rfl

theorem releasePoll_oido (sample : Sample) (button currentMove : Nat)
    (maquina : Maquina Button) :
    (releasePoll sample button currentMove maquina).maquina.oido =
      maquina.oido := by
  rw [releasePoll_eq]
  dsimp only
  split
  · rfl
  · exact choose_oido sample button currentMove _

/-! ## Puzzles -/

omit [Bounce Button] in
theorem winKnobs_oido (sample : Sample) (maquina : Maquina Button) :
    (winKnobs sample maquina).oido = maquina.oido := by
  unfold winKnobs
  rw [rayoAvanza_oido, console_oido, serial1_oido]
  exact (winnerSound_oido (shutUp maquina)).trans (shutUp_oido maquina)

theorem checkKnobs_oido (sample : Sample) (maquina : Maquina Button) :
    (checkKnobs sample maquina).oido = maquina.oido := by
  have polled (button : Button) (values : List Int) :
      (({ maquina with botonKnobs := button }).emit
        (.console "check knobs" values)).oido = maquina.oido :=
    emit_oido rfl _
  unfold checkKnobs
  dsimp only
  split
  · rw [console_oido]
    split
    · rw [winKnobs_oido, polled]
    · rw [tone_oido, polled]
  · rfl

omit [Bounce Button] in
theorem winRadio_oido (sample : Sample) (maquina : Maquina Button) :
    (winRadio sample maquina).oido = maquina.oido := by
  unfold winRadio
  rw [rayoAvanza_oido, serial1_oido, console_oido]
  exact winnerSound_oido maquina

omit [Bounce Button] in
theorem checkRadio_oido (sample : Sample) (maquina : Maquina Button) :
    (checkRadio sample maquina).oido = maquina.oido := by
  have tuned (dif : Int) : (tuneRadio dif maquina).oido = maquina.oido := by
    unfold tuneRadio
    dsimp only
    rw [console_oido]
    split <;> exact tone_oido _ _ maquina
  unfold checkRadio
  dsimp only
  split
  · split
    · rw [winRadio_oido, tuned]
    · exact tuned _
  · exact console_oido _ _ maquina

/-! ## Commands -/

omit [Bounce Button] in
theorem lucesOff_oido (maquina : Maquina Button) :
    (lucesOff maquina).oido = maquina.oido := by
  unfold lucesOff
  dsimp only
  rw [console_oido, showStrips_oido]
  exact oido_congr rfl rfl

omit [Bounce Button] in
theorem resetState_oido (maquina : Maquina Button) :
    (resetState maquina).oido = maquina.oido :=
  console_oido _ _ _

omit [Bounce Button] in
theorem cleared_oido (maquina : Maquina Button) :
    (shutUp (resetState (lucesOff maquina))).oido = maquina.oido := by
  rw [shutUp_oido, resetState_oido, lucesOff_oido]

omit [Bounce Button] in
theorem handleReset_oido (maquina : Maquina Button) :
    (handleReset maquina).oido = maquina.oido := by
  have cleared := cleared_oido
    ((maquina.emit (.console "doiing a reset" [])).emit (.serial1 "OFF"))
  rw [serial1_oido, console_oido] at cleared
  exact cleared

omit [Bounce Button] in
theorem handleOn_oido (maquina : Maquina Button) :
    (handleOn maquina).oido = maquina.oido := by
  have cleared := resetState_oido
    (lucesOff (maquina.emit (.console "machine ON" [])))
  rw [lucesOff_oido, console_oido] at cleared
  exact cleared

omit [Bounce Button] in
theorem handleOff_oido (maquina : Maquina Button) :
    (handleOff maquina).oido = maquina.oido := by
  unfold handleOff
  rw [cleared_oido, console_oido]

omit [Bounce Button] in
theorem exitRoom_oido (maquina : Maquina Button) :
    (exitRoom maquina).oido = maquina.oido :=
  serial1_oido _ _

omit [Bounce Button] in
theorem handleWin_oido (maquina : Maquina Button) :
    (handleWin maquina).oido = maquina.oido := by
  have released := exitRoom_oido (shutUp (resetState (lucesOff
    (maquina.emit (.console "winnnnning" [])))))
  rw [cleared_oido, console_oido] at released
  exact released

omit [Bounce Button] in
theorem handleSillaOn_oido (sample : Sample) (maquina : Maquina Button) :
    (handleSillaOn sample maquina).oido = maquina.oido := by
  unfold handleSillaOn
  split
  · exact (turbinaFlash_oido sample _).trans (console_oido _ _ _)
  · rfl

omit [Bounce Button] in
theorem handleManual_oido (sample : Sample) (maquina : Maquina Button) :
    (handleManual sample maquina).oido = maquina.oido := by
  unfold handleManual
  split
  · exact handleWin_oido maquina
  · exact rayoAvanza_oido sample _

omit [Bounce Button] in
theorem dispatch_oido (sample : Sample) (text : Text)
    (maquina : Maquina Button) :
    (dispatch sample text maquina).oido = maquina.oido :=
  dispatch_induction (motive := fun after => after.oido = maquina.oido)
    sample text maquina (handleReset_oido maquina) (handleOn_oido maquina)
    (handleOff_oido maquina) (handleWin_oido maquina)
    (handleSillaOn_oido sample maquina) (console_oido _ _ _)
    (console_oido _ _ _) (handleManual_oido sample maquina) rfl

omit [Bounce Button] in
theorem checkEnchufe_oido (sample : Sample) (maquina : Maquina Button) :
    (checkEnchufe sample maquina).2.oido = maquina.oido := by
  have accepted (now : Bool) (count : Int) :
      (acceptEnchufe sample now
        { maquina with enchufeCounter := count }).oido = maquina.oido := by
    unfold acceptEnchufe
    dsimp only
    split
    · rw [rayoAvanza_oido]
      exact (console_oido "enchufe on" [] _).trans (serial1_oido "ON"
        { maquina with enchufada := now, enchufeCounter := 0 })
    · rw [handleReset_oido, console_oido, serial1_oido]
      rfl
  unfold checkEnchufe
  split
  · dsimp only
    split
    · split
      · exact accepted _ _
      · rfl
    · rfl
  · rfl

end Buttons

/-! ## Polls -/

/-- The receiver which dispatches a trimmed message after 25 idle polls. -/
abbrev receptor (width : Nat) :
    MealyMachine (IdleReceiver Char) Text (List Text) :=
  IdleReceiver.dispatcher trim width 25

/-- A complete message is trimmed and dispatched, and the buffer is cleared. -/
theorem handleMessage_oido (sample : Sample) (maquina : Maquina Button) :
    (handleMessage sample maquina).oido =
      (maquina.toIdleReceiver.clear,
        maquina.oido.2 ++ [trim maquina.incomingData]) := by
  let noted := ({ maquina with
    incomingData := trim maquina.incomingData }).emit
      (.received (trim maquina.incomingData))
  have dispatched := dispatch_oido sample (trim maquina.incomingData) noted
  have reported : noted.oido =
      (⟨trim maquina.incomingData, maquina.lastCharTime⟩,
        maquina.oido.2 ++ [trim maquina.incomingData]) := by
    simp only [oido, noted, emit, List.filterMap_append]
    rfl
  rw [reported] at dispatched
  have receiver := congrArg Prod.fst dispatched
  have texts := congrArg Prod.snd dispatched
  apply Prod.ext
  · change (dispatch sample (trim maquina.incomingData)
      noted).toIdleReceiver.clear = _
    rw [show (dispatch sample (trim maquina.incomingData) noted).toIdleReceiver =
      _ from receiver]
    rfl
  · exact texts

theorem checkIncoming_oido (sample : Sample) (maquina : Maquina Button) :
    (checkIncoming sample maquina).oido =
      ((receptor 16).step maquina.toIdleReceiver sample.serial1,
        maquina.oido.2 ++ ((receptor 16).emit maquina.toIdleReceiver
          sample.serial1).flatten) := by
  unfold checkIncoming
  dsimp only [receptor, IdleReceiver.dispatcher, IdleReceiver.machine]
  split
  · rw [handleMessage_oido]
    rfl
  · exact Prod.ext rfl (List.append_nil _).symm

/-- What the link has to say in a step which polls it. -/
def polled (config : Config Button) (sample : Sample) : Option Text :=
  match config.control with
  | .incoming => some sample.serial1
  | .waiting startTime _ =>
      if InTime startTime sample then
        some sample.serial1
      else
        none
  | _ => none

section Steps

variable [Bounce Button]

/-- The buffer and the dispatched texts after an operation. -/
theorem operation_oido (sample : Sample) (control : Control)
    (maquina : Maquina Button) :
    (operation sample control maquina).maquina.oido =
      match polled ⟨control, maquina⟩ sample with
      | some chunk =>
          ((receptor 16).step maquina.toIdleReceiver chunk,
            maquina.oido.2 ++
              ((receptor 16).emit maquina.toIdleReceiver chunk).flatten)
      | none => maquina.oido := by
  cases control with
  | loopStart => exact checkEnchufe_oido sample maquina
  | knobs =>
      dsimp only [operation, polled]
      split
      · exact checkKnobs_oido sample maquina
      · rfl
  | radio =>
      dsimp only [operation, polled]
      split
      · exact checkRadio_oido sample maquina
      · rfl
  | simon =>
      dsimp only [operation, polled]
      split
      · exact shutUp_oido maquina
      · rfl
  | attract counterAttract turn =>
      exact attractPoll_oido sample counterAttract turn maquina
  | choosing currentMove => rfl
  | waiting startTime currentMove =>
      dsimp only [operation, polled]
      rw [waitPoll_eq]
      split
      · refine Eq.trans ?_ (checkIncoming_oido sample maquina)
        dsimp only
        split
        · exact toner_oido _ _ _
        · exact checkButton_oido sample _
      · exact choose_oido sample choiceNone currentMove maquina
  | releasing button currentMove =>
      exact releasePoll_oido sample button currentMove maquina
  | rayos =>
      dsimp only [operation, polled]
      split
      · rw [rayoPega_oido, console_oido]
      · rfl
  | turbina => exact updateTurbina_oido sample maquina
  | enchufe => exact checkEnchufe_oido sample maquina
  | incoming =>
      dsimp only [operation, polled]
      rw [showStrips_oido, checkIncoming_oido]

/-- The machine polls its link with a 16-bit counter. -/
theorem polls : IdleReceiver.Polls (machine Button)
    (fun config => config.maquina.toIdleReceiver) polled Event.received? trim 16
    25 fun _ => True := by
  intro config sample _
  have moved := operation_oido sample config.control
    { config.maquina with out := [] }
  have same : polled ⟨config.control, { config.maquina with out := [] }⟩ sample =
      polled config sample :=
    rfl
  rw [same] at moved
  cases found : polled config sample with
  | some chunk =>
      rw [found] at moved
      refine ⟨congrArg Prod.fst moved, ?_⟩
      have texts : ((machine Button).emit config sample).filterMap
          Event.received? = ((receptor 16).emit config.maquina.toIdleReceiver
            chunk).flatten := congrArg Prod.snd moved
      rw [texts]
      simp [receptor, IdleReceiver.dispatcher, IdleReceiver.machine]
  | none =>
      rw [found] at moved
      exact ⟨congrArg Prod.fst moved, congrArg Prod.snd moved⟩

/-- On a silent link the buffer stays empty. -/
theorem step_silent {config : Config Button} {sample : Sample}
    (silent : config.maquina.incomingData = []) (nothing : sample.serial1 = []) :
    ((machine Button).step config sample).maquina.incomingData = [] := by
  have reads : polled config sample = none ∨ polled config sample = some [] := by
    unfold polled
    split
    · exact .inr (congrArg some nothing)
    · split
      · exact .inr (congrArg some nothing)
      · exact .inl rfl
    · exact .inl rfl
  have moved := polls config sample trivial
  rcases reads with none | empty
  · rw [none] at moved
    exact (congrArg IdleReceiver.incomingData moved.1).trans silent
  · rw [empty] at moved
    refine (congrArg IdleReceiver.incomingData moved.1).trans ?_
    simp [IdleReceiver.dispatcher, IdleReceiver.machine, IdleReceiver.clear,
      silent]

end Steps

end Salsipuedes.Maquina

import Salsipuedes.MaquinaRuns

/-!
# What a reset forgets

Two runs of the machine on the same inputs behave alike from states which differ
only in data that is written before it is read: the last shape of the turbine,
the moves of an earlier Simon game, and the idle count of an empty buffer.
`resetState` makes all other globals equal, except for five which it omits.
-/

namespace Salsipuedes.Maquina

variable {Button : Type}

/-- Replace the globals which are written before they are read. -/
def overwrite (shape : Vector Int totalTurbina) (board : Vector Nat 20)
    (idle : Int) (maquina : Maquina Button) : Maquina Button :=
  { maquina with
    turbinaArray := shape
    gameBoard := board
    lastCharTime := idle }

/-- The globals agree on everything which an operation may read; `awaited` is
the index of the move which a Simon game is waiting for. -/
def Alike (awaited : Option Nat) (first second : Maquina Button) : Prop :=
  ∃ shape board idle, second = overwrite shape board idle first ∧
    (first.incomingData ≠ [] → idle = first.lastCharTime) ∧
    ∀ i, i < first.gameRound ∨ awaited = some i →
      board[i]?.getD choiceNone = first.move i

section Functions

variable {awaited : Option Nat} {first second : Maquina Button}

theorem Alike.out (alike : Alike awaited first second) :
    second.out = first.out := by
  obtain ⟨shape, board, idle, rfl, -, -⟩ := alike
  rfl

theorem Alike.forget (alike : Alike awaited first second) :
    Alike none first second := by
  obtain ⟨shape, board, idle, rfl, linked, agree⟩ := alike
  exact ⟨shape, board, idle, rfl, linked, fun i before =>
    agree i (.inl (by simpa using before))⟩

theorem Alike.move (alike : Alike awaited first second) {i : Nat}
    (read : i < first.gameRound ∨ awaited = some i) :
    second.move i = first.move i := by
  obtain ⟨shape, board, idle, rfl, -, agree⟩ := alike
  exact agree i read

/-- A change which neither reads nor writes what may differ. -/
theorem Alike.map (change : Maquina Button → Maquina Button)
    (commutes : ∀ shape board idle maquina,
      change (overwrite shape board idle maquina) =
        overwrite shape board idle (change maquina))
    (receiver : ∀ maquina,
      (change maquina).toIdleReceiver = maquina.toIdleReceiver)
    (simon : ∀ maquina, (change maquina).gameBoard = maquina.gameBoard ∧
      (change maquina).gameRound = maquina.gameRound)
    (alike : Alike awaited first second) :
    Alike awaited (change first) (change second) := by
  obtain ⟨shape, board, idle, rfl, linked, agree⟩ := alike
  refine ⟨shape, board, idle, commutes shape board idle first, ?_, ?_⟩
  · rw [receiver]
    exact linked
  · unfold Maquina.move
    rw [(simon first).1, (simon first).2]
    exact agree

/-! ### Lights -/

theorem emit_alike (event : Event) (alike : Alike awaited first second) :
    Alike awaited (first.emit event) (second.emit event) := by
  obtain ⟨shape, board, idle, rfl, linked, agree⟩ := alike
  exact ⟨shape, board, idle, rfl, linked, agree⟩

theorem showStrips_alike (alike : Alike awaited first second) :
    Alike awaited (showStrips first) (showStrips second) := by
  obtain ⟨shape, board, idle, rfl, linked, agree⟩ := alike
  exact ⟨shape, board, idle, rfl, linked, agree⟩

theorem setLEDs_alike (leds : Nat) (alike : Alike awaited first second) :
    Alike awaited (setLEDs leds first) (setLEDs leds second) := by
  obtain ⟨shape, board, idle, rfl, linked, agree⟩ := alike
  exact ⟨shape, board, idle, rfl, linked, agree⟩

theorem newShape_alike (sample : Sample) (alike : Alike awaited first second) :
    Alike awaited (applyShape (newShapeTurbina sample first))
      (applyShape (newShapeTurbina sample second)) := by
  obtain ⟨shape, board, idle, rfl, linked, agree⟩ := alike
  exact ⟨(newShapeTurbina sample first).turbinaArray, board, idle, rfl, linked,
    agree⟩

theorem turbinaFlash_alike (sample : Sample)
    (alike : Alike awaited first second) :
    Alike awaited (turbinaFlash sample first) (turbinaFlash sample second) := by
  obtain ⟨shape, board, idle, rfl, linked, agree⟩ := alike
  have counter : (overwrite shape board idle first).turbinaCounter =
      first.turbinaCounter := rfl
  have drawn : flicker sample (overwrite shape board idle first) =
      flicker sample first := rfl
  unfold turbinaFlash
  dsimp only
  rw [counter, drawn]
  split
  · exact ⟨(newShapeTurbina sample first).turbinaArray, board, idle, rfl,
      linked, agree⟩
  · split <;> exact ⟨shape, board, idle, rfl, linked, agree⟩

theorem turbinaOff_alike (alike : Alike awaited first second) :
    Alike awaited (turbinaOff first) (turbinaOff second) := by
  obtain ⟨shape, board, idle, rfl, linked, agree⟩ := alike
  exact ⟨shape, board, idle, rfl, linked, agree⟩

theorem turbinaWhite_alike (alike : Alike awaited first second) :
    Alike awaited (turbinaWhite first) (turbinaWhite second) := by
  obtain ⟨shape, board, idle, rfl, linked, agree⟩ := alike
  exact ⟨shape, board, idle, rfl, linked, agree⟩

theorem turbinaEnd_alike (alike : Alike awaited first second) :
    Alike awaited
      { setBrightness baseBrightness (turbinaOff first) with
        turbinaCounter := 0 }
      { setBrightness baseBrightness (turbinaOff second) with
        turbinaCounter := 0 } := by
  obtain ⟨shape, board, idle, rfl, linked, agree⟩ := alike
  exact ⟨shape, board, idle, rfl, linked, agree⟩

theorem intensidad_alike (intensidad : ScaledFloat)
    (alike : Alike awaited first second) :
    Alike awaited { first with intensidadTurbina := intensidad }
      { second with intensidadTurbina := intensidad } := by
  obtain ⟨shape, board, idle, rfl, linked, agree⟩ := alike
  exact ⟨shape, board, idle, rfl, linked, agree⟩

theorem glow_alike (alike : Alike awaited first second) :
    Alike awaited (setBrightness first.intensidadTurbina.truncate first)
      (setBrightness second.intensidadTurbina.truncate second) := by
  obtain ⟨shape, board, idle, rfl, linked, agree⟩ := alike
  exact ⟨shape, board, idle, rfl, linked, agree⟩

theorem Alike.turbina (alike : Alike awaited first second) :
    second.turbinaCounter = first.turbinaCounter ∧
      second.efectoTurbina = first.efectoTurbina ∧
      second.sillaOn = first.sillaOn ∧
      second.intensidadTurbina = first.intensidadTurbina := by
  obtain ⟨shape, board, idle, rfl, -, -⟩ := alike
  exact ⟨rfl, rfl, rfl, rfl⟩

/-- The turbine while the chair drives it. -/
theorem sillaTurbina_alike (sample : Sample)
    (alike : Alike awaited first second) :
    Alike awaited
      (if first.intensidadTurbina < ScaledFloat.ofNat 255 then
        turbinaWhite
          { first with
            intensidadTurbina :=
              first.intensidadTurbina.add ScaledFloat.fourHundredths }
      else if random 0 2000 (sample.draw 0) > 150 then turbinaWhite first
      else applyShape (newShapeTurbina sample first))
      (if second.intensidadTurbina < ScaledFloat.ofNat 255 then
        turbinaWhite
          { second with
            intensidadTurbina :=
              second.intensidadTurbina.add ScaledFloat.fourHundredths }
      else if random 0 2000 (sample.draw 0) > 150 then turbinaWhite second
      else applyShape (newShapeTurbina sample second)) := by
  rw [alike.turbina.2.2.2]
  split
  · exact turbinaWhite_alike (intensidad_alike _ alike)
  split
  · exact turbinaWhite_alike alike
  · exact newShape_alike sample alike

theorem updateTurbina_alike (sample : Sample)
    (alike : Alike awaited first second) :
    Alike awaited (updateTurbina sample first)
      (updateTurbina sample second) := by
  obtain ⟨counter, effect, silla, -⟩ := alike.turbina
  unfold updateTurbina
  by_cases flashing : first.turbinaCounter > 1
  · have alsoFlashing : second.turbinaCounter > 1 := by rwa [counter]
    rw [if_pos flashing, if_pos alsoFlashing]
    exact turbinaFlash_alike sample alike
  have notFlashing : ¬ second.turbinaCounter > 1 := by rwa [counter]
  rw [if_neg flashing, if_neg notFlashing]
  by_cases ending : first.turbinaCounter = 1
  · have alsoEnding : second.turbinaCounter = 1 := by rwa [counter]
    rw [if_pos ending, if_pos alsoEnding]
    exact turbinaEnd_alike alike
  have notEnding : ¬ second.turbinaCounter = 1 := by rwa [counter]
  rw [if_neg ending, if_neg notEnding, effect]
  split
  · apply glow_alike
    rw [silla]
    split
    · exact sillaTurbina_alike sample alike
    · exact turbinaOff_alike (intensidad_alike _ alike)
  · exact alike

theorem encenderTramo_alike (start stop : Nat)
    (alike : Alike awaited first second) :
    Alike awaited (encenderTramo start stop first)
      (encenderTramo start stop second) := by
  unfold encenderTramo
  generalize List.range' start (stop - start) = pixels
  induction pixels generalizing first second with
  | nil => exact alike
  | cons pixel pixels ih =>
      apply ih
      obtain ⟨shape, board, idle, rfl, linked, agree⟩ := alike
      exact ⟨shape, board, idle, rfl, linked, agree⟩

theorem counter_alike (counter : Int) (alike : Alike awaited first second) :
    Alike awaited { first with turbinaCounter := counter }
      { second with turbinaCounter := counter } := by
  obtain ⟨shape, board, idle, rfl, linked, agree⟩ := alike
  exact ⟨shape, board, idle, rfl, linked, agree⟩

theorem Alike.game (alike : Alike awaited first second) :
    second.toProgreso = first.toProgreso ∧ second.toRelays = first.toRelays := by
  obtain ⟨shape, board, idle, rfl, -, -⟩ := alike
  exact ⟨rfl, rfl⟩

theorem rayoAvanza_alike (sample : Sample)
    (alike : Alike awaited first second) :
    Alike awaited (rayoAvanza sample first) (rayoAvanza sample second) := by
  have count : second.gamesWon = first.gamesWon := by rw [alike.game.1]
  have begun := emit_alike
    (.console "rayo avanza. gamesWon:" [first.gamesWon]) alike
  unfold rayoAvanza
  dsimp only
  rw [count]
  revert begun
  generalize first.emit (.console "rayo avanza. gamesWon:" [first.gamesWon]) =
    firstBegun
  generalize second.emit (.console "rayo avanza. gamesWon:" [first.gamesWon]) =
    secondBegun
  intro begun
  have same : secondBegun.gamesWon = firstBegun.gamesWon := by
    rw [begun.game.1]
  rw [same]
  split
  · exact newShape_alike sample (counter_alike 6000
      (encenderTramo_alike 0 pixels1 begun))
  split
  · exact counter_alike 4500 (encenderTramo_alike pixels1 pixels2
      (begun.map (fun maquina => { maquina with plasma1 := low })
        (fun _ _ _ _ => rfl) (fun _ => rfl) (fun _ => ⟨rfl, rfl⟩)))
  split
  · have ready := counter_alike 8500 (encenderTramo_alike pixels2 pixels3
      (begun.map (fun maquina => { maquina with plasma2 := low })
        (fun _ _ _ _ => rfl) (fun _ => rfl) (fun _ => ⟨rfl, rfl⟩)))
    exact ready.map (fun maquina => { maquina with simonReady := true })
      (fun _ _ _ _ => rfl) (fun _ => rfl) (fun _ => ⟨rfl, rfl⟩)
  split
  · exact counter_alike 10000 (encenderTramo_alike pixels3 pixels4
      ((setLEDs_alike choiceNone begun).map
        (fun maquina => { maquina with plasma3 := low })
        (fun _ _ _ _ => rfl) (fun _ => rfl) (fun _ => ⟨rfl, rfl⟩)))
  · exact emit_alike _ begun

/-- The end of the thunder. -/
theorem rayoFin_alike (alike : Alike awaited first second) :
    Alike awaited
      (if first.tiempoRayos < 1 then
        setBrightness baseBrightness
          { first with luzRayos := false, intensidadRayos := 30 }
      else first)
      (if second.tiempoRayos < 1 then
        setBrightness baseBrightness
          { second with luzRayos := false, intensidadRayos := 30 }
      else second) := by
  obtain ⟨shape, board, idle, rfl, linked, agree⟩ := alike
  by_cases ending : first.tiempoRayos < 1
  · have alsoEnding : (overwrite shape board idle first).tiempoRayos < 1 := ending
    rw [if_pos ending, if_pos alsoEnding]
    exact ⟨shape, board, idle, rfl, linked, agree⟩
  · have notEnding : ¬ (overwrite shape board idle first).tiempoRayos < 1 :=
      ending
    rw [if_neg ending, if_neg notEnding]
    exact ⟨shape, board, idle, rfl, linked, agree⟩

theorem rayoPega_alike (alike : Alike awaited first second) :
    Alike awaited (rayoPega first) (rayoPega second) := by
  have silla : second.sillaOn = first.sillaOn := by rw [alike.game.1]
  have stepped := alike.map
    (fun maquina =>
      { strike maquina with tiempoRayos := maquina.tiempoRayos - 1 })
    (fun _ _ _ _ => rfl) (fun _ => rfl) (fun _ => ⟨rfl, rfl⟩)
  unfold rayoPega
  rw [silla]
  split
  · exact rayoFin_alike stepped
  · exact alike

/-! ### Commands -/

/-- Clearing the game ends the moves of Simon. -/
theorem cleared_alike (alike : Alike awaited first second) :
    Alike awaited (resetState (lucesOff first)) (resetState (lucesOff second)) := by
  obtain ⟨shape, board, idle, rfl, linked, agree⟩ := alike
  refine ⟨shape, board, idle, rfl, linked, fun i read => ?_⟩
  rcases read with before | awaits
  · exact absurd before (Nat.not_lt_zero i)
  · exact agree i (.inr awaits)

theorem handleReset_alike (alike : Alike awaited first second) :
    Alike awaited (handleReset first) (handleReset second) :=
  (emit_alike .noTone (cleared_alike (emit_alike (.serial1 "OFF")
    (emit_alike (.console "doiing a reset" []) alike)))).map
    (fun maquina => { maquina with enchufeCounter := 0 })
    (fun _ _ _ _ => rfl) (fun _ => rfl) (fun _ => ⟨rfl, rfl⟩)

theorem handleOn_alike (alike : Alike awaited first second) :
    Alike awaited (handleOn first) (handleOn second) :=
  (cleared_alike (emit_alike (.console "machine ON" []) alike)).map
    (fun maquina => { maquina with enchufeCounter := 0, enchufada := true })
    (fun _ _ _ _ => rfl) (fun _ => rfl) (fun _ => ⟨rfl, rfl⟩)

theorem handleOff_alike (alike : Alike awaited first second) :
    Alike awaited (handleOff first) (handleOff second) :=
  emit_alike .noTone
    (cleared_alike (emit_alike (.console "turning off" []) alike))

theorem handleWin_alike (alike : Alike awaited first second) :
    Alike awaited (handleWin first) (handleWin second) :=
  (emit_alike .noTone
    (cleared_alike (emit_alike (.console "winnnnning" []) alike))).map
    (fun maquina => { exitRoom maquina with yaGano := true })
    (fun _ _ _ _ => rfl) (fun _ => rfl) (fun _ => ⟨rfl, rfl⟩)

theorem handleSillaOn_alike (sample : Sample)
    (alike : Alike awaited first second) :
    Alike awaited (handleSillaOn sample first) (handleSillaOn sample second) := by
  have gate : second.sillaOn = false ∧ second.gamesWon > 3 ↔
      first.sillaOn = false ∧ first.gamesWon > 3 := by rw [alike.game.1]
  unfold handleSillaOn
  by_cases seated : first.sillaOn = false ∧ first.gamesWon > 3
  · rw [if_pos seated, if_pos (gate.mpr seated)]
    exact turbinaFlash_alike sample (emit_alike _ (alike.map
      (fun maquina => { maquina with
        sillaOn := true, efectoTurbina := true, turbinaCounter := 5000 })
      (fun _ _ _ _ => rfl) (fun _ => rfl) (fun _ => ⟨rfl, rfl⟩)))
  · rw [if_neg seated, if_neg (mt gate.mp seated)]
    exact alike

theorem handleSillaOff_alike (alike : Alike awaited first second) :
    Alike awaited (handleSillaOff first) (handleSillaOff second) :=
  alike.map handleSillaOff (fun _ _ _ _ => rfl) (fun _ => rfl)
    (fun _ => ⟨rfl, rfl⟩)

theorem handleTrueno_alike (alike : Alike awaited first second) :
    Alike awaited (handleTrueno first) (handleTrueno second) :=
  alike.map handleTrueno (fun _ _ _ _ => rfl) (fun _ => rfl)
    (fun _ => ⟨rfl, rfl⟩)

theorem handleManual_alike (sample : Sample)
    (alike : Alike awaited first second) :
    Alike awaited (handleManual sample first) (handleManual sample second) := by
  have count : second.gamesWon = first.gamesWon := by rw [alike.game.1]
  unfold handleManual
  by_cases last : first.gamesWon > 3
  · have alsoLast : second.gamesWon > 3 := by rwa [count]
    rw [if_pos last, if_pos alsoLast]
    exact handleWin_alike alike
  · have notLast : ¬ second.gamesWon > 3 := by rwa [count]
    rw [if_neg last, if_neg notLast]
    exact rayoAvanza_alike sample (alike.map
      (fun maquina => { maquina with gamesWon := maquina.gamesWon + 1 })
      (fun _ _ _ _ => rfl) (fun _ => rfl) (fun _ => ⟨rfl, rfl⟩))

theorem dispatch_alike (sample : Sample) (text : Text)
    (alike : Alike awaited first second) :
    Alike awaited (dispatch sample text first) (dispatch sample text second) := by
  unfold dispatch
  split
  · exact handleReset_alike alike
  split
  · exact handleOn_alike alike
  split
  · exact handleOff_alike alike
  split
  · exact handleWin_alike alike
  split
  · exact handleSillaOn_alike sample alike
  split
  · exact handleSillaOff_alike alike
  split
  · exact handleTrueno_alike alike
  split
  · exact handleManual_alike sample alike
  · exact alike

/-! ### Polls -/

/-- The idle count of an empty buffer does not matter: the next byte sets it. -/
theorem receive_alike (chunk : Text) (alike : Alike awaited first second) :
    Alike awaited
      { first with
        toIdleReceiver := first.toIdleReceiver.receive 16 chunk }
      { second with
        toIdleReceiver := second.toIdleReceiver.receive 16 chunk } := by
  obtain ⟨shape, board, idle, rfl, linked, agree⟩ := alike
  by_cases silent : chunk = []
  · subst silent
    refine ⟨shape, board, (idle + 1).bmod (2 ^ 16), rfl, ?_, agree⟩
    intro pending
    rw [linked pending]
    rfl
  · have received (receiver : IdleReceiver Char) :=
      receiver.receive_of_ne_nil 16 (by decide) silent
    refine ⟨shape, board, 1, ?_, ?_, agree⟩
    · rw [received, received]
      rfl
    · intro pending
      rw [received]

theorem Alike.complete (limit : Nat) (alike : Alike awaited first second) :
    second.incomingData = first.incomingData ∧
      second.toIdleReceiver.complete limit =
        first.toIdleReceiver.complete limit := by
  obtain ⟨shape, board, idle, rfl, linked, agree⟩ := alike
  refine ⟨rfl, ?_⟩
  by_cases pending : first.incomingData = []
  · simp [IdleReceiver.complete, overwrite, pending]
  · simp [IdleReceiver.complete, overwrite, linked pending]

theorem clear_alike (alike : Alike awaited first second) :
    Alike awaited { first with toIdleReceiver := first.toIdleReceiver.clear }
      { second with toIdleReceiver := second.toIdleReceiver.clear } := by
  obtain ⟨shape, board, idle, rfl, linked, agree⟩ := alike
  exact ⟨shape, board, idle, rfl, fun pending => absurd rfl pending, agree⟩

theorem handleMessage_alike (sample : Sample) (pending : first.incomingData ≠ [])
    (alike : Alike awaited first second) :
    Alike awaited (handleMessage sample first)
      (handleMessage sample second) := by
  have trimmed : Alike awaited
      { first with incomingData := trim first.incomingData }
      { second with incomingData := trim second.incomingData } := by
    obtain ⟨shape, board, idle, rfl, linked, agree⟩ := alike
    exact ⟨shape, board, idle, rfl, fun _ => linked pending, agree⟩
  have heard := emit_alike (.received (trim first.incomingData)) trimmed
  have dispatched := dispatch_alike sample (trim first.incomingData) heard
  unfold handleMessage announce
  dsimp only
  rw [(alike.complete 25).1] at dispatched ⊢
  exact clear_alike dispatched

theorem checkIncoming_alike (sample : Sample)
    (alike : Alike awaited first second) :
    Alike awaited (checkIncoming sample first)
      (checkIncoming sample second) := by
  have received := receive_alike sample.serial1 alike
  unfold checkIncoming readIncoming messageOver
  dsimp only
  rw [(received.complete 25).2]
  split
  · rename_i complete
    refine handleMessage_alike sample ?_ received
    simp only [IdleReceiver.complete, Bool.and_eq_true, Bool.not_eq_true',
      List.isEmpty_eq_false_iff] at complete
    exact complete.1
  · exact received

/-! ### Simon -/

theorem checkButton_alike [Bounce Button] (sample : Sample)
    (alike : Alike awaited first second) :
    (checkButton sample second).1 = (checkButton sample first).1 ∧
      Alike awaited (checkButton sample first).2
        (checkButton sample second).2 := by
  obtain ⟨shape, board, idle, rfl, linked, agree⟩ := alike
  exact ⟨rfl, shape, board, idle, rfl, linked, agree⟩

theorem toner_alike (which : Nat) (lengthMs : Int)
    (alike : Alike awaited first second) :
    Alike awaited (toner which lengthMs first) (toner which lengthMs second) := by
  unfold toner
  apply emit_alike
  apply setLEDs_alike
  split
  · exact emit_alike _ (setLEDs_alike which alike)
  · exact setLEDs_alike which alike

theorem toner_gameRound (which : Nat) (lengthMs : Int)
    (maquina : Maquina Button) :
    (toner which lengthMs maquina).gameRound = maquina.gameRound := by
  rw [toner_frame]
  rfl

theorem playMoves_alike (alike : Alike awaited first second) :
    Alike awaited (playMoves first) (playMoves second) := by
  have played : ∀ (moves : List Nat) {first second : Maquina Button},
      Alike awaited first second → (∀ i ∈ moves, i < first.gameRound) →
      Alike awaited
        (moves.foldl (fun maquina currentMove =>
          toner (maquina.move currentMove) 150 maquina) first)
        (moves.foldl (fun maquina currentMove =>
          toner (maquina.move currentMove) 150 maquina) second) := by
    intro moves
    induction moves with
    | nil => exact fun alike _ => alike
    | cons currentMove moves ih =>
        intro first second alike within
        rw [List.foldl_cons, List.foldl_cons,
          alike.move (.inl (within currentMove List.mem_cons_self))]
        refine ih (toner_alike _ _ alike) fun i member => ?_
        rw [toner_gameRound]
        exact within i (List.mem_cons_of_mem _ member)
  have rounds : second.gameRound = first.gameRound := by
    obtain ⟨shape, board, idle, rfl, -, -⟩ := alike
    rfl
  unfold playMoves
  rw [rounds]
  exact played _ (emit_alike .noTone alike) fun i member =>
    List.mem_range.mp member

theorem playLoser_alike (alike : Alike awaited first second) :
    Alike awaited (playLoser first) (playLoser second) := by
  have flash (leds : Nat) {first second : Maquina Button}
      (alike : Alike awaited first second) :
      Alike awaited (buzzSound 255 1500 (setLEDs leds first))
        (buzzSound 255 1500 (setLEDs leds second)) :=
    emit_alike (.buzzSound 255 1500) (setLEDs_alike leds alike)
  have flashes : Alike awaited (loserFlashes first) (loserFlashes second) :=
    flash _ (flash _ (flash _ (flash _ alike)))
  exact emit_alike _ (emit_alike .noTone flashes)

theorem playWinner_alike (sample : Sample) (alike : Alike awaited first second) :
    Alike awaited (playWinner sample first) (playWinner sample second) := by
  have won := alike.map
    (fun maquina =>
      let maquina := winnerFlashes maquina
      let maquina := { maquina with simonWon := true }.emit (.serial1 "SWIN")
      shutUp { maquina with gamesWon := maquina.gamesWon + 1 })
    (fun _ _ _ _ => rfl) (fun _ => rfl) (fun _ => ⟨rfl, rfl⟩)
  exact rayoAvanza_alike sample won

/-! ### Puzzles -/

theorem winKnobs_alike (sample : Sample) (alike : Alike awaited first second) :
    Alike awaited (winKnobs sample first) (winKnobs sample second) := by
  have won := alike.map
    (fun maquina =>
      let maquina := winnerSound (shutUp maquina)
      let maquina :=
        { maquina with knobsWon := true, gamesWon := maquina.gamesWon + 1 }
      (maquina.emit (.serial1 "KWIN")).emit (.console "knobs won" []))
    (fun _ _ _ _ => rfl) (fun _ => rfl) (fun _ => ⟨rfl, rfl⟩)
  exact rayoAvanza_alike sample won

theorem checkKnobs_alike [Bounce Button] (sample : Sample)
    (alike : Alike awaited first second) :
    Alike awaited (checkKnobs sample first) (checkKnobs sample second) := by
  have updated := alike.map
    (fun maquina =>
      { maquina with
        botonKnobs :=
          Bounce.update maquina.botonKnobs sample.buttonRed sample.millis })
    (fun _ _ _ _ => rfl) (fun _ => rfl) (fun _ => ⟨rfl, rfl⟩)
  have button : second.botonKnobs = first.botonKnobs := by
    obtain ⟨shape, board, idle, rfl, -, -⟩ := alike
    rfl
  unfold checkKnobs
  dsimp only at updated ⊢
  rw [button] at updated ⊢
  split
  · apply emit_alike
    split
    · exact winKnobs_alike sample (emit_alike _ updated)
    · exact emit_alike _ (emit_alike _ updated)
  · exact updated

theorem winRadio_alike (sample : Sample) (alike : Alike awaited first second) :
    Alike awaited (winRadio sample first) (winRadio sample second) := by
  have won := alike.map
    (fun maquina =>
      let maquina := winnerSound maquina
      let maquina :=
        { maquina with radioWon := true, gamesWon := maquina.gamesWon + 1 }
      (maquina.emit (.console "radio won" [])).emit (.serial1 "RWIN"))
    (fun _ _ _ _ => rfl) (fun _ => rfl) (fun _ => ⟨rfl, rfl⟩)
  exact rayoAvanza_alike sample won

theorem tuneRadio_alike (dif : Int) (alike : Alike awaited first second) :
    Alike awaited (tuneRadio dif first) (tuneRadio dif second) := by
  unfold tuneRadio
  apply emit_alike
  split
  · exact (emit_alike _ alike).map
      (fun maquina =>
        { maquina with tiempoRadio := toInt 16 (maquina.tiempoRadio - 1) })
      (fun _ _ _ _ => rfl) (fun _ => rfl) (fun _ => ⟨rfl, rfl⟩)
  · exact (emit_alike _ alike).map
      (fun maquina => { maquina with tiempoRadio := tiempoRadioTotal })
      (fun _ _ _ _ => rfl) (fun _ => rfl) (fun _ => ⟨rfl, rfl⟩)

theorem Alike.tiempoRadio (alike : Alike awaited first second) :
    second.tiempoRadio = first.tiempoRadio := by
  obtain ⟨shape, board, idle, rfl, -, -⟩ := alike
  rfl

theorem checkRadio_alike (sample : Sample) (alike : Alike awaited first second) :
    Alike awaited (checkRadio sample first) (checkRadio sample second) := by
  have tuned := tuneRadio_alike (sample.a13 - valorR1).natAbs alike
  unfold checkRadio
  dsimp only
  rw [tuned.tiempoRadio]
  split
  · split
    · exact winRadio_alike sample tuned
    · exact tuned
  · exact emit_alike _ alike

theorem acceptEnchufe_alike (sample : Sample) (now : Bool)
    (alike : Alike awaited first second) :
    Alike awaited (acceptEnchufe sample now first)
      (acceptEnchufe sample now second) := by
  have accepted := alike.map
    (fun maquina => { maquina with enchufada := now, enchufeCounter := 0 })
    (fun _ _ _ _ => rfl) (fun _ => rfl) (fun _ => ⟨rfl, rfl⟩)
  unfold acceptEnchufe
  dsimp only
  cases now with
  | true =>
      exact rayoAvanza_alike sample
        ((emit_alike (.console "enchufe on" [])
          (emit_alike (.serial1 "ON") accepted)).map
          (fun maquina => { maquina with gamesWon := maquina.gamesWon + 1 })
          (fun _ _ _ _ => rfl) (fun _ => rfl) (fun _ => ⟨rfl, rfl⟩))
  | false => exact handleReset_alike (emit_alike _ (emit_alike _ accepted))

/-- The debouncing of the plug, before the exit is released. -/
theorem debounceEnchufe_alike (sample : Sample)
    (alike : Alike awaited first second) :
    Alike awaited
      (if sample.enchufe ≠ first.enchufada then
        if first.enchufeCounter + 1 = 50 then
          acceptEnchufe sample sample.enchufe
            { first with enchufeCounter := first.enchufeCounter + 1 }
        else { first with enchufeCounter := first.enchufeCounter + 1 }
      else { first with enchufeCounter := 0 })
      (if sample.enchufe ≠ second.enchufada then
        if second.enchufeCounter + 1 = 50 then
          acceptEnchufe sample sample.enchufe
            { second with enchufeCounter := second.enchufeCounter + 1 }
        else { second with enchufeCounter := second.enchufeCounter + 1 }
      else { second with enchufeCounter := 0 }) := by
  have counted (counter : Int) : Alike awaited
      { first with enchufeCounter := counter }
      { second with enchufeCounter := counter } :=
    alike.map (fun maquina => { maquina with enchufeCounter := counter })
      (fun _ _ _ _ => rfl) (fun _ => rfl) (fun _ => ⟨rfl, rfl⟩)
  have plugged : second.enchufada = first.enchufada := by rw [alike.game.1]
  have counter : second.enchufeCounter = first.enchufeCounter := by
    obtain ⟨shape, board, idle, rfl, -, -⟩ := alike
    rfl
  rw [plugged, counter]
  split
  · split
    · exact acceptEnchufe_alike sample sample.enchufe (counted _)
    · exact counted _
  · exact counted 0

theorem checkEnchufe_alike (sample : Sample)
    (alike : Alike awaited first second) :
    (checkEnchufe sample second).1 = (checkEnchufe sample first).1 ∧
      Alike awaited (checkEnchufe sample first).2
        (checkEnchufe sample second).2 := by
  have debounced := debounceEnchufe_alike sample alike
  have ended : second.yaGano = first.yaGano := by rw [alike.game.1]
  unfold checkEnchufe
  rw [ended]
  split
  · exact ⟨congrArg Progreso.enchufada debounced.game.1, debounced⟩
  · exact ⟨rfl, alike⟩

end Functions

/-! ## Configurations -/

/-- The index of the move which Simon is waiting for. -/
def Control.awaited : Control → Option Nat
  | .choosing currentMove => some currentMove
  | .waiting _ currentMove => some currentMove
  | .releasing _ currentMove => some currentMove
  | _ => none

structure ConfigsAlike (first second : Config Button) : Prop where
  control : second.control = first.control
  maquina : Alike first.control.awaited first.maquina second.maquina

section Configurations

variable {awaited : Option Nat} {first second : Maquina Button}

/-- The first moves agree after the next one has been written. -/
theorem addToMoves_alike (sample : Sample)
    (alike : Alike awaited first second) :
    Alike (some 0) (addToMoves sample first) (addToMoves sample second) := by
  obtain ⟨shape, board, idle, rfl, linked, agree⟩ := alike
  refine ⟨shape, (addToMoves sample (overwrite shape board idle first)).gameBoard,
    idle, rfl, linked, fun i read => ?_⟩
  have within : i < first.gameRound + 1 := by
    rcases read with before | awaits
    · exact before
    · have : 0 = i := Option.some.inj awaits
      omega
  unfold Maquina.move addToMoves
  dsimp only [overwrite]
  rw [Vector.getElem?_setIfInBounds, Vector.getElem?_setIfInBounds]
  split
  · rfl
  · exact agree i (.inl (by omega))

theorem nextRound_alike (sample : Sample) (alike : Alike awaited first second) :
    ConfigsAlike (nextRound sample first) (nextRound sample second) := by
  have rounds : second.gameRound = first.gameRound := by
    obtain ⟨shape, board, idle, rfl, -, -⟩ := alike
    rfl
  unfold nextRound
  rw [rounds]
  split
  · exact ⟨rfl, playMoves_alike (addToMoves_alike sample alike)⟩
  · exact ⟨rfl, (playWinner_alike sample alike).forget⟩

theorem choose_alike (sample : Sample) (choice currentMove : Nat)
    (alike : Alike (some currentMove) first second) :
    ConfigsAlike (choose sample choice currentMove first)
      (choose sample choice currentMove second) := by
  have rounds : second.gameRound = first.gameRound := by
    obtain ⟨shape, board, idle, rfl, -, -⟩ := alike
    rfl
  have expected := alike.move (i := currentMove) (.inr rfl)
  unfold choose
  rw [rounds, expected]
  split
  · exact ⟨rfl, (playLoser_alike alike).forget⟩
  split
  · exact ⟨rfl, (playLoser_alike alike).forget⟩
  split
  · rename_i more
    refine ⟨rfl, ?_⟩
    obtain ⟨shape, board, idle, rfl, linked, agree⟩ := alike
    refine ⟨shape, board, idle, rfl, linked, fun i read => ?_⟩
    rcases read with before | awaits
    · exact agree i (.inl before)
    · rw [← Option.some.inj awaits]
      exact agree _ (.inl more)
  · exact nextRound_alike sample alike

/-- A game which has no moves yet agrees on its moves. -/
theorem noMoves_alike (alike : Alike awaited first second) :
    Alike none { first with gameRound := 0 } { second with gameRound := 0 } := by
  obtain ⟨shape, board, idle, rfl, linked, -⟩ := alike
  exact ⟨shape, board, idle, rfl, linked, fun i read => by simp at read⟩

theorem startMemory_alike (sample : Sample)
    (alike : Alike awaited first second) :
    ConfigsAlike (startMemory sample first) (startMemory sample second) :=
  nextRound_alike sample (noMoves_alike (setLEDs_alike choiceNone
    (setLEDs_alike (choiceRed ||| choiceGreen ||| choiceBlue ||| choiceYellow)
      alike)))

/-- What follows the poll of the link in `waitForButton`. -/
theorem buttonPoll_alike [Bounce Button] (sample : Sample) (startTime : Int32)
    (currentMove : Nat) (polled : Alike (some currentMove) first second) :
    let next (polled : Maquina Button) : Config Button :=
      let (button, maquina) := checkButton sample polled
      if button ≠ choiceNone then
        ⟨.releasing button currentMove, toner button 150 maquina⟩
      else
        ⟨.waiting startTime currentMove, maquina⟩
    ConfigsAlike (next first) (next second) := by
  obtain ⟨button, checked⟩ := checkButton_alike sample polled
  dsimp only
  rw [button]
  split
  · exact ⟨rfl, toner_alike _ _ checked⟩
  · exact ⟨rfl, checked⟩

theorem waitPoll_alike [Bounce Button] (sample : Sample) (startTime : Int32)
    (currentMove : Nat) (alike : Alike (some currentMove) first second) :
    ConfigsAlike (waitPoll sample startTime currentMove first)
      (waitPoll sample startTime currentMove second) := by
  rw [waitPoll_eq, waitPoll_eq]
  split
  · exact buttonPoll_alike sample startTime currentMove
      (checkIncoming_alike sample alike)
  · exact choose_alike sample choiceNone currentMove alike

theorem releasePoll_alike [Bounce Button] (sample : Sample)
    (button currentMove : Nat) (alike : Alike (some currentMove) first second) :
    ConfigsAlike (releasePoll sample button currentMove first)
      (releasePoll sample button currentMove second) := by
  obtain ⟨pressed, checked⟩ := checkButton_alike sample alike
  rw [releasePoll_eq, releasePoll_eq]
  dsimp only
  rw [pressed]
  split
  · exact ⟨rfl, checked⟩
  · exact choose_alike sample button currentMove checked

theorem attractPoll_alike [Bounce Button] (sample : Sample)
    (counterAttract : Nat) (turn : Fin 4) (alike : Alike none first second) :
    ConfigsAlike (attractPoll sample counterAttract turn first)
      (attractPoll sample counterAttract turn second) := by
  obtain ⟨button, checked⟩ :=
    checkButton_alike sample (setLEDs_alike (attractLeds turn) alike)
  unfold attractPoll
  dsimp only
  rw [button]
  split
  · exact startMemory_alike sample checked
  split
  · exact ⟨rfl, checked⟩
  split
  · exact ⟨rfl, checked⟩
  · exact startMemory_alike sample
      (emit_alike .noTone (setLEDs_alike choiceNone checked))

/-- Every operation takes alike globals to alike configurations. -/
theorem operation_alike [Bounce Button] (sample : Sample) (control : Control)
    (alike : Alike control.awaited first second) :
    ConfigsAlike (operation sample control first)
      (operation sample control second) := by
  have game := alike.game.1
  cases control with
  | loopStart =>
      obtain ⟨plugged, checked⟩ := checkEnchufe_alike sample alike
      refine ⟨?_, ?_⟩
      · dsimp only [operation]
        rw [plugged]
      · dsimp only [operation]
        split <;> exact checked
  | knobs =>
      dsimp only [operation]
      rw [game]
      split
      · exact ⟨rfl, checkKnobs_alike sample alike⟩
      · exact ⟨rfl, alike⟩
  | radio =>
      dsimp only [operation]
      rw [game]
      split
      · exact ⟨rfl, checkRadio_alike sample alike⟩
      · exact ⟨rfl, alike⟩
  | simon =>
      have counter := alike.turbina.1
      dsimp only [operation]
      rw [game, counter]
      split
      · exact ⟨rfl, emit_alike .noTone alike⟩
      · exact ⟨rfl, alike⟩
  | attract counterAttract turn =>
      exact attractPoll_alike sample counterAttract turn alike
  | choosing currentMove => exact ⟨rfl, alike⟩
  | waiting startTime currentMove =>
      exact waitPoll_alike sample startTime currentMove alike
  | releasing button currentMove =>
      exact releasePoll_alike sample button currentMove alike
  | rayos =>
      have light : second.luzRayos = first.luzRayos := by
        obtain ⟨shape, board, idle, rfl, -, -⟩ := alike
        rfl
      dsimp only [operation]
      rw [light]
      split
      · exact ⟨rfl, rayoPega_alike (emit_alike _ alike)⟩
      · exact ⟨rfl, alike⟩
  | turbina => exact ⟨rfl, updateTurbina_alike sample alike⟩
  | enchufe =>
      obtain ⟨plugged, checked⟩ := checkEnchufe_alike sample alike
      dsimp only [operation]
      rw [plugged]
      exact ⟨rfl, checked.map
        (fun maquina =>
          { maquina with enchufada := (checkEnchufe sample first).1 })
        (fun _ _ _ _ => rfl) (fun _ => rfl) (fun _ => ⟨rfl, rfl⟩)⟩
  | incoming =>
      exact ⟨rfl, showStrips_alike (checkIncoming_alike sample alike)⟩

end Configurations

/-! ## Resets -/

/-- The globals agree on what `handleReset` does not restore: the brightness,
the dwell of the radio, the counter of the turbine, the two intensities, the
debouncers, and the move which a Simon game is waiting for. -/
structure Agree (first second : Config Button) : Prop where
  control : second.control = first.control
  brightness : second.maquina.brightness = first.maquina.brightness
  tiempoRadio : second.maquina.tiempoRadio = first.maquina.tiempoRadio
  turbinaCounter : second.maquina.turbinaCounter = first.maquina.turbinaCounter
  intensidadRayos :
    second.maquina.intensidadRayos = first.maquina.intensidadRayos
  intensidadTurbina :
    second.maquina.intensidadTurbina = first.maquina.intensidadTurbina
  buttons0 : second.maquina.buttons0 = first.maquina.buttons0
  buttons1 : second.maquina.buttons1 = first.maquina.buttons1
  buttons2 : second.maquina.buttons2 = first.maquina.buttons2
  buttons3 : second.maquina.buttons3 = first.maquina.buttons3
  botonKnobs : second.maquina.botonKnobs = first.maquina.botonKnobs
  awaited : ∀ i, first.control.awaited = some i →
    second.maquina.move i = first.maquina.move i

/-- The globals after a poll has handled a received `reset`. -/
def afterReset (idle : Int) (maquina : Maquina Button) : Maquina Button :=
  { handleReset ({ maquina with
      incomingData := "reset".toList
      lastCharTime := idle
      out := [.received "reset".toList] }) with
    incomingData := [] }

/-- After a reset only what `Agree` lists is left of the game before it. -/
theorem Agree.afterReset {first second : Config Button}
    (agree : Agree first second) (idleFirst idleSecond : Int) :
    Alike first.control.awaited (afterReset idleFirst first.maquina)
      (afterReset idleSecond second.maquina) := by
  obtain ⟨control, brightness, tiempoRadio, turbinaCounter, intensidadRayos,
    intensidadTurbina, buttons0, buttons1, buttons2, buttons3, botonKnobs,
    awaited⟩ := agree
  refine ⟨second.maquina.turbinaArray, second.maquina.gameBoard, idleSecond,
    ?_, fun pending => absurd rfl pending, fun i read => ?_⟩
  · unfold Maquina.afterReset handleReset resetState lucesOff showStrips emit
      shutUp setLEDs overwrite
    simp only [brightness, tiempoRadio, turbinaCounter, intensidadRayos,
      intensidadTurbina, buttons0, buttons1, buttons2, buttons3, botonKnobs]
    rfl
  · rcases read with before | awaits
    · exact absurd before (Nat.not_lt_zero i)
    · exact awaited i awaits

/-- A message which is reported as `reset` is handled as such. -/
theorem handleMessage_reset {sample : Sample} {maquina : Maquina Button}
    {partida : Partida} (shows : Shows maquina partida)
    (silent : maquina.out = [])
    (handled : .received "reset".toList ∈ (handleMessage sample maquina).out) :
    handleMessage sample maquina = afterReset maquina.lastCharTime maquina := by
  have performs := handleMessage_performs sample shows
  have reported : .received "reset".toList ∈
      partida.report (.command (trim maquina.incomingData)) := by
    have visible := performs.visible
    rw [silent, List.filter_nil, List.nil_append] at visible
    rw [← visible, List.mem_filter]
    exact ⟨handled, rfl⟩
  have text : trim maquina.incomingData = "reset".toList :=
    Partida.Action.command.inj (Partida.command_of_received reported)
  have selected : (announce maquina).incomingData = "reset".toList := text
  rw [handleMessage, dispatch, if_pos selected]
  unfold afterReset announce emit
  rw [text, silent]
  rfl

/-- A poll which emits a received `reset` has handled it. -/
theorem checkIncoming_reset {sample : Sample} {maquina : Maquina Button}
    {partida : Partida} (shows : Shows maquina partida)
    (silent : maquina.out = [])
    (handled : .received "reset".toList ∈ (checkIncoming sample maquina).out) :
    ∃ idle, checkIncoming sample maquina = afterReset idle maquina := by
  unfold checkIncoming readIncoming messageOver at handled ⊢
  dsimp only at handled ⊢
  split at handled
  · rename_i complete
    rw [if_pos complete]
    have polled : Shows { maquina with
        toIdleReceiver := maquina.toIdleReceiver.receive 16 sample.serial1 }
        partida := ⟨shows.progreso, shows.relays, shows.strip1⟩
    rw [handleMessage_reset polled silent handled]
    exact ⟨_, rfl⟩
  · rw [silent] at handled
    simp at handled

theorem Quiet.mem_out {before after : Maquina Button}
    (quiet : Quiet before after) {event : Event} (visible : event.visible = true)
    (member : event ∈ after.out) : event ∈ before.out := by
  have shown : event ∈ after.out.filter Event.visible :=
    List.mem_filter.mpr ⟨member, visible⟩
  rw [quiet.visible] at shown
  exact (List.mem_filter.mp shown).1

section Handling

variable [Bounce Button] {sample : Sample} {maquina : Maquina Button}
variable {partida : Partida}

/-- In `waitForButton` a received `reset` is handled by its poll. -/
theorem waitPoll_reset {startTime : Int32} {currentMove : Nat}
    (shows : Shows maquina partida) (silent : maquina.out = [])
    (handled : .received "reset".toList ∈
      (waitPoll sample startTime currentMove maquina).maquina.out) :
    InTime startTime sample ∧
      ∃ idle, checkIncoming sample maquina = afterReset idle maquina := by
  rw [waitPoll_eq] at handled
  split at handled
  · rename_i inTime
    have checked := checkButton_quiet sample (checkIncoming sample maquina)
    refine ⟨inTime, checkIncoming_reset shows silent ?_⟩
    dsimp only at handled
    split at handled
    · exact (checked.trans (toner_quiet _ _ _)).mem_out rfl handled
    · exact checked.mem_out rfl handled
  · have lost := (playLoser_performs shows).visible
    have shown : .received "reset".toList ∈
        (playLoser maquina).out.filter Event.visible :=
      List.mem_filter.mpr ⟨handled, rfl⟩
    rw [lost, silent] at shown
    simp [Partida.report] at shown

/-- Two configurations which agree and which both handle a received `reset` in
the same operation are alike afterwards. -/
theorem step_reset_alike {first second : Config Button}
    {firstPartida secondPartida : Partida}
    (tracksFirst : Tracks first firstPartida)
    (tracksSecond : Tracks second secondPartida) (agree : Agree first second)
    (handledFirst : .received "reset".toList ∈
      (machine Button).emit first sample)
    (handledSecond : .received "reset".toList ∈
      (machine Button).emit second sample) :
    ConfigsAlike ((machine Button).step first sample)
      ((machine Button).step second sample) := by
  obtain ⟨action, steps⟩ := step_tracks tracksFirst sample
  have command := Partida.command_of_received
    ((steps.mem_emit rfl).mp handledFirst)
  subst command
  have polls := steps.flow.polls
  obtain ⟨control, first⟩ := first
  obtain ⟨control', second⟩ := second
  obtain rfl : control' = control := agree.control
  have showsFirst : Shows { first with out := [] } firstPartida :=
    ⟨tracksFirst.shows.progreso, tracksFirst.shows.relays,
      tracksFirst.shows.strip1⟩
  have showsSecond : Shows { second with out := [] } secondPartida :=
    ⟨tracksSecond.shows.progreso, tracksSecond.shows.relays,
      tracksSecond.shows.strip1⟩
  rcases polls with incoming | ⟨startTime, currentMove, waiting⟩
  · dsimp only at incoming
    subst incoming
    obtain ⟨idleFirst, resetFirst⟩ := checkIncoming_reset showsFirst rfl
      ((showStrips_quiet _).mem_out rfl handledFirst)
    obtain ⟨idleSecond, resetSecond⟩ := checkIncoming_reset showsSecond rfl
      ((showStrips_quiet _).mem_out rfl handledSecond)
    have alike := agree.afterReset idleFirst idleSecond
    refine ⟨rfl, showStrips_alike ?_⟩
    rw [resetFirst, resetSecond]
    exact alike
  · dsimp only at waiting
    subst waiting
    obtain ⟨inTime, idleFirst, resetFirst⟩ :=
      waitPoll_reset showsFirst rfl handledFirst
    obtain ⟨-, idleSecond, resetSecond⟩ :=
      waitPoll_reset showsSecond rfl handledSecond
    have alike := agree.afterReset idleFirst idleSecond
    have polled := @buttonPoll_alike Button _ _ _ sample startTime currentMove
      alike
    change ConfigsAlike (waitPoll sample startTime currentMove _)
      (waitPoll sample startTime currentMove _)
    rw [waitPoll_eq, waitPoll_eq, if_pos inTime, if_pos inTime, resetFirst, resetSecond]
    exact polled

end Handling

/-! ## Runs -/

section Runs

variable [Bounce Button]

theorem step_alike (first second : Config Button) (sample : Sample)
    (alike : ConfigsAlike first second) :
    (machine Button).emit first sample = (machine Button).emit second sample ∧
      ConfigsAlike ((machine Button).step first sample)
        ((machine Button).step second sample) := by
  obtain ⟨control, first⟩ := first
  obtain ⟨control', second⟩ := second
  obtain ⟨same, maquina⟩ := alike
  obtain rfl : control' = control := same
  have silent : Alike control'.awaited { first with out := [] }
      { second with out := [] } :=
    maquina.map (fun maquina => { maquina with out := [] })
      (fun _ _ _ _ => rfl) (fun _ => rfl) (fun _ => ⟨rfl, rfl⟩)
  have stepped := operation_alike sample control' silent
  exact ⟨stepped.maquina.out.symm, stepped⟩

/-- Two runs which handle a received `reset` in configurations that agree on
what a reset does not restore behave alike from then on: they emit the same, and
their lights, strips and relays are the same at every later point. -/
theorem reset_forgets {bootFirst bootSecond : Sample}
    {inputsFirst inputsSecond : List Sample} {sample : Sample}
    (agree : Agree (after Button bootFirst inputsFirst)
      (after Button bootSecond inputsSecond))
    (handledFirst : .received "reset".toList ∈
      (machine Button).emit (after Button bootFirst inputsFirst) sample)
    (handledSecond : .received "reset".toList ∈
      (machine Button).emit (after Button bootSecond inputsSecond) sample)
    (inputs : List Sample) :
    let first := (machine Button).step
      (after Button bootFirst inputsFirst) sample
    let second := (machine Button).step
      (after Button bootSecond inputsSecond) sample
    (machine Button).trace first inputs = (machine Button).trace second inputs ∧
      let laterFirst := ((machine Button).run first inputs).maquina
      let laterSecond := ((machine Button).run second inputs).maquina
      laterFirst.toStrips = laterSecond.toStrips ∧
        laterFirst.toRelays = laterSecond.toRelays ∧
        laterFirst.toSimonLeds = laterSecond.toSimonLeds ∧
        laterFirst.toProgreso = laterSecond.toProgreso := by
  obtain ⟨firstPartida, tracksFirst⟩ :=
    after_tracks Button bootFirst inputsFirst
  obtain ⟨secondPartida, tracksSecond⟩ :=
    after_tracks Button bootSecond inputsSecond
  have alike := step_reset_alike tracksFirst tracksSecond agree handledFirst
    handledSecond
  obtain ⟨traces, later⟩ :=
    (machine Button).trace_eq_of_related step_alike alike inputs
  refine ⟨traces, ?_⟩
  obtain ⟨shape, board, idle, equal, -, -⟩ := later.maquina
  dsimp only
  rw [equal]
  exact ⟨rfl, rfl, rfl, rfl⟩

end Runs

/-- The poll which handles the message `reset` after a run which received
another message. -/
def beforeReset (text : String) : List Sample :=
  deliver .reposo text ++ (deliver .reposo "reset").dropLast

/-- A pending thunder is forgotten: the next iteration emits the same as without
it. -/
theorem reset_forgets_trueno :
    (machine StableButton).trace
        ((machine StableButton).step
          (after StableButton .reposo (beforeReset "trueno")) .reposo)
        (iteration .enchufado []) =
      (machine StableButton).trace
        ((machine StableButton).step
          (after StableButton .reposo (beforeReset "other")) .reposo)
        (iteration .enchufado []) := by
  have waits : (after StableButton .reposo (beforeReset "trueno")).control =
      .incoming := by decide +kernel
  have agree : Agree (after StableButton .reposo (beforeReset "trueno"))
      (after StableButton .reposo (beforeReset "other")) := by
    constructor
    case awaited =>
      rw [waits]
      simp [Control.awaited]
    all_goals decide +kernel
  exact (reset_forgets agree (by decide +kernel) (by decide +kernel)
    (iteration .enchufado [])).1

/-- The counter of the turbine is not forgotten. -/
theorem turbina_not_forgotten :
    ¬ ∀ (bootFirst bootSecond : Sample)
        (inputsFirst inputsSecond : List Sample) (sample : Sample)
        (inputs : List Sample),
      let first := after StableButton bootFirst inputsFirst
      let second := after StableButton bootSecond inputsSecond
      first.control = second.control →
      first.maquina.toIdleReceiver = second.maquina.toIdleReceiver →
      first.maquina.buttons0 = second.maquina.buttons0 →
      first.maquina.buttons1 = second.maquina.buttons1 →
      first.maquina.buttons2 = second.maquina.buttons2 →
      first.maquina.buttons3 = second.maquina.buttons3 →
      first.maquina.botonKnobs = second.maquina.botonKnobs →
      .received "reset".toList ∈ (machine StableButton).emit first sample →
      .received "reset".toList ∈ (machine StableButton).emit second sample →
      ((machine StableButton).run
          ((machine StableButton).step first sample) inputs).maquina.toStrips =
        ((machine StableButton).run
          ((machine StableButton).step second sample) inputs).maquina.toStrips := by
  intro claim
  have forgotten := claim .reposo .reposo (beforeReset "manual")
    (beforeReset "other") .reposo (iteration .reposo []) (by decide +kernel)
    (by decide +kernel) (by decide +kernel) (by decide +kernel)
    (by decide +kernel) (by decide +kernel) (by decide +kernel)
    (by decide +kernel) (by decide +kernel)
  revert forgotten
  decide +kernel

end Salsipuedes.Maquina

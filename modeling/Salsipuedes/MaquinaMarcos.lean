import Salsipuedes.MaquinaLoop

/-!
# What the functions touch

One equation for each function of the sketch which others call: it names the globals
which the function may write and what it makes of them, and leaves the others as
they are.  What is proved about a group of globals reads its part off these
equations.
-/

namespace Salsipuedes.Maquina

variable {Button : Type}

/-! ## The turbine and the thunder -/

theorem turbinaFlash_frame (sample : Sample) (maquina : Maquina Button) :
    ∃ leds scale shape, turbinaFlash sample maquina =
      { maquina with
        ledsTurbina := leds
        brightness := scale
        turbinaArray := shape
        turbinaCounter := maquina.turbinaCounter - 1 } := by
  unfold turbinaFlash
  dsimp only
  split
  · exact ⟨_, _, _, rfl⟩
  split
  · exact ⟨_, _, _, rfl⟩
  · exact ⟨_, _, _, rfl⟩

/-- A call of `updateTurbina` counts down, and rests at zero. -/
theorem updateTurbina_frame (sample : Sample) (maquina : Maquina Button) :
    ∃ leds scale shape intensidad, updateTurbina sample maquina =
      { maquina with
        ledsTurbina := leds
        brightness := scale
        turbinaArray := shape
        intensidadTurbina := intensidad
        turbinaCounter :=
          if 0 < maquina.turbinaCounter then maquina.turbinaCounter - 1
          else maquina.turbinaCounter } := by
  unfold updateTurbina
  split
  · rename_i going
    rw [if_pos (Int.lt_trans Int.one_pos going)]
    obtain ⟨leds, scale, shape, flash⟩ := turbinaFlash_frame sample maquina
    exact ⟨leds, scale, shape, _, flash⟩
  split
  · rename_i last
    rw [if_pos (by omega), last]
    exact ⟨_, _, _, _, rfl⟩
  rename_i notGoing notLast
  have resting : ¬ 0 < maquina.turbinaCounter := by
    have notGoing : ¬ maquina.turbinaCounter > 1 := notGoing
    omega
  rw [if_neg resting]
  split
  · split
    · split
      · exact ⟨_, _, _, _, rfl⟩
      · dsimp only
        split <;> exact ⟨_, _, _, _, rfl⟩
    · exact ⟨_, _, _, _, rfl⟩
  · exact ⟨_, _, _, _, rfl⟩

/-- The intensity after a call of `rayoPega`. -/
def golpe (maquina : Maquina Button) : Int :=
  if maquina.sillaOn = false then
    if maquina.tiempoRayos - 1 < 1 then 30 else struck maquina
  else
    maquina.intensidadRayos

theorem rayoPega_frame (maquina : Maquina Button) :
    ∃ scale lit left, rayoPega maquina =
      { maquina with
        brightness := scale
        luzRayos := lit
        tiempoRayos := left
        intensidadRayos := golpe maquina } := by
  unfold rayoPega golpe
  split
  · dsimp only
    split
    · rename_i done
      have done : maquina.tiempoRayos - 1 < 1 := done
      rw [if_pos done]
      exact ⟨_, _, _, rfl⟩
    · rename_i going
      have going : ¬ maquina.tiempoRayos - 1 < 1 := going
      rw [if_neg going]
      exact ⟨_, _, _, rfl⟩
  · exact ⟨_, _, _, rfl⟩

/-! ## The path -/

/-- The path after some of its pixels have been lit. -/
def encendido (start stop : Nat) (strip1 : Vector CRGB totalStrip1) :
    Vector CRGB totalStrip1 :=
  (List.range' start (stop - start)).foldl
    (fun strip1 i => strip1.setIfInBounds i CRGB.rayo) strip1

/-- A stretch of the path is lit, and what is emitted are its frames. -/
theorem encenderTramo_frame (start stop : Nat) (maquina : Maquina Button) :
    ∃ frames : List (Vector CRGB totalStrip1), encenderTramo start stop maquina =
      { maquina with
        strip1 := encendido start stop maquina.strip1
        out := maquina.out ++ frames.map fun strip1 =>
          .show strip1 maquina.ledsTurbina maquina.brightness } := by
  unfold encenderTramo encendido
  generalize List.range' start (stop - start) = pixels
  induction pixels generalizing maquina with
  | nil =>
      refine ⟨[], ?_⟩
      rw [List.map_nil, List.append_nil]
      rfl
  | cons pixel pixels ih =>
      obtain ⟨frames, lit⟩ := ih (showStrips
        { maquina with
          strip1 := maquina.strip1.setIfInBounds pixel CRGB.rayo })
      refine ⟨maquina.strip1.setIfInBounds pixel CRGB.rayo :: frames, ?_⟩
      rw [List.foldl_cons, lit]
      simp only [showStrips, emit, List.append_assoc]
      rfl

/-- The counter with which the turbine starts when a stage is reached. -/
def arranque (stage turbinaCounter : Int) : Int :=
  if stage = 1 then 6000
  else if stage = 2 then 4500
  else if stage = 3 then 8500
  else if stage = 4 then 10000
  else turbinaCounter

/-- A line on the console, or a frame of the strips. -/
def Event.reports : Event → Bool
  | .console .. | .show .. => true
  | _ => false

/-- What the lamps show, with the counter of the turbine and the flag which the third
stage sets. -/
structure Lamparas where
  relays : Relays
  leds : SimonLeds
  strips : Strips
  turbinaArray : Vector Int totalTurbina
  turbinaCounter : Int
  simonReady : Bool

/-- The globals with these lamps. -/
def Lamparas.light (lamparas : Lamparas) (maquina : Maquina Button) :
    Maquina Button :=
  { maquina with
    toRelays := lamparas.relays
    toSimonLeds := lamparas.leds
    toStrips := lamparas.strips
    turbinaArray := lamparas.turbinaArray
    turbinaCounter := lamparas.turbinaCounter
    simonReady := lamparas.simonReady }

/-- The lamps of the globals. -/
def lamparas (maquina : Maquina Button) : Lamparas :=
  ⟨maquina.toRelays, maquina.toSimonLeds, maquina.toStrips,
    maquina.turbinaArray, maquina.turbinaCounter, maquina.simonReady⟩

/-- Nothing but lamps is touched, and what is emitted are reports. -/
structure Alumbra (before after : Maquina Button) : Prop where
  frame : after =
    { after.lamparas.light before with out := after.out }
  out : ∃ events, after.out = before.out ++ events ∧
    ∀ event ∈ events, event.reports = true

section Alumbra

variable {first second third : Maquina Button}

theorem Alumbra.trans (left : Alumbra first second)
    (right : Alumbra second third) : Alumbra first third where
  frame := by
    have same := right.frame
    rw [left.frame] at same
    exact same
  out := by
    obtain ⟨earlier, before, reported⟩ := left.out
    obtain ⟨later, after, reports⟩ := right.out
    refine ⟨earlier ++ later, ?_, fun event member => ?_⟩
    · rw [after, before, List.append_assoc]
    · exact (List.mem_append.mp member).elim (reported event) (reports event)

/-- An effect on the lamps which emits nothing. -/
theorem Alumbra.silent (frame : second = second.lamparas.light first) :
    Alumbra first second := by
  have out := congrArg Maquina.out frame
  change second.out = first.out at out
  refine ⟨?_, [], by rw [out, List.append_nil], by simp⟩
  rw [out]
  exact frame

theorem Alumbra.emit {event : Event} (reports : event.reports = true)
    (maquina : Maquina Button) : Alumbra maquina (maquina.emit event) :=
  ⟨rfl, [event], rfl, List.forall_mem_singleton.mpr reports⟩

theorem encenderTramo_alumbra (start stop : Nat) (maquina : Maquina Button) :
    Alumbra maquina (encenderTramo start stop maquina) := by
  obtain ⟨frames, lit⟩ := encenderTramo_frame start stop maquina
  rw [lit]
  refine ⟨rfl, _, rfl, fun event member => ?_⟩
  obtain ⟨frame, -, rfl⟩ := List.mem_map.mp member
  rfl

/-- A stage is announced, and a stretch of the path is lit between two effects on
the lamps. -/
theorem stretch_alumbra (start stop : Nat)
    {starts ends : Maquina Button → Maquina Button}
    (before : ∀ maquina, starts maquina = (starts maquina).lamparas.light maquina)
    (after : ∀ maquina, ends maquina = (ends maquina).lamparas.light maquina)
    (maquina : Maquina Button) :
    Alumbra maquina (ends (encenderTramo start stop (starts maquina))) :=
  ((Alumbra.silent (before maquina)).trans (encenderTramo_alumbra ..)).trans
    (.silent (after _))

/-- `rayoAvanza` touches nothing but lamps and the turbine. -/
theorem rayoAvanza_alumbra (sample : Sample) (maquina : Maquina Button) :
    Alumbra maquina (rayoAvanza sample maquina) := by
  have announces := @Alumbra.emit _
    (.console "rayo avanza. gamesWon:" [maquina.gamesWon]) rfl maquina
  refine announces.trans ?_
  unfold rayoAvanza
  dsimp only
  generalize maquina.emit _ = announced
  split
  · exact @stretch_alumbra _ 0 pixels1 id (fun path => applyShape
      (newShapeTurbina sample { path with turbinaCounter := 6000 }))
      (fun _ => rfl) (fun _ => rfl) announced
  split
  · exact @stretch_alumbra _ pixels1 pixels2
      (fun maquina => { maquina with plasma1 := low })
      (fun path => { path with turbinaCounter := 4500 })
      (fun _ => rfl) (fun _ => rfl) announced
  split
  · exact @stretch_alumbra _ pixels2 pixels3
      (fun maquina => { maquina with plasma2 := low })
      (fun path => { path with turbinaCounter := 8500, simonReady := true })
      (fun _ => rfl) (fun _ => rfl) announced
  split
  · exact @stretch_alumbra _ pixels3 pixels4
      (fun maquina => { setLEDs choiceNone maquina with plasma3 := low })
      (fun path => { path with turbinaCounter := 10000 })
      (fun _ => rfl) (fun _ => rfl) announced
  · exact .emit rfl announced

end Alumbra

theorem rayoAvanza_turbinaCounter (sample : Sample) (maquina : Maquina Button) :
    (rayoAvanza sample maquina).turbinaCounter =
      arranque maquina.gamesWon maquina.turbinaCounter := by
  unfold rayoAvanza arranque
  generalize reported : maquina.emit
    (.console "rayo avanza. gamesWon:" [maquina.gamesWon]) = shown
  have stage : shown.gamesWon = maquina.gamesWon := by rw [← reported]; rfl
  have counter : shown.turbinaCounter = maquina.turbinaCounter := by
    rw [← reported]
    rfl
  dsimp only
  rw [← stage, ← counter]
  split
  · generalize encenderTramo 0 pixels1 shown = path
    rfl
  split
  · rfl
  split
  · rfl
  split <;> rfl

/-! ## The Simon game -/

/-- The sound of a button, and the silence after it. -/
def tono (lengthMs : Int) (which : Nat) : List Event :=
  ((halfPeriod which).map (Event.buzzSound lengthMs)).toList ++ [.noTone]

theorem toner_frame (which : Nat) (lengthMs : Int) (maquina : Maquina Button) :
    toner which lengthMs maquina =
      { setLEDs choiceNone maquina with
        out := maquina.out ++ tono lengthMs which } := by
  unfold toner tono
  cases halfPeriod which with
  | none => rfl
  | some delayUs =>
      rw [← List.append_assoc]
      rfl

/-- The moves of a game and how many of them there are. -/
def tablero (maquina : Maquina Button) : Vector Nat 20 × Nat :=
  (maquina.gameBoard, maquina.gameRound)

theorem toner_tablero (which : Nat) (lengthMs : Int) (maquina : Maquina Button) :
    (toner which lengthMs maquina).tablero = maquina.tablero := by
  rw [toner_frame]
  rfl

/-- The sounds with which `playMoves` plays some moves back. -/
def melody (moves : List Nat) : List Event :=
  .noTone :: moves.flatMap (tono 150)

/-- The required moves are played back. -/
theorem playMoves_frame (maquina : Maquina Button) :
    ∃ leds, playMoves maquina =
      { maquina with
        toSimonLeds := leds
        out := maquina.out ++
          melody ((List.range maquina.gameRound).map maquina.move) } := by
  have played (indices : List Nat) (before : Maquina Button)
      (same : before.gameBoard = maquina.gameBoard) :
      ∃ leds, indices.foldl (fun maquina currentMove =>
          toner (maquina.move currentMove) 150 maquina) before =
        { before with
          toSimonLeds := leds
          out := before.out ++ (indices.map maquina.move).flatMap (tono 150) } := by
    induction indices generalizing before with
    | nil =>
        refine ⟨before.toSimonLeds, ?_⟩
        rw [List.map_nil, List.flatMap_nil, List.append_nil]
        rfl
    | cons index indices ih =>
        have move : before.move index = maquina.move index := by
          rw [Maquina.move, Maquina.move, same]
        obtain ⟨leds, later⟩ := ih (toner (before.move index) 150 before) (by
          rw [toner_frame]
          exact same)
        refine ⟨leds, ?_⟩
        rw [List.foldl_cons, later, toner_frame, List.map_cons,
          List.flatMap_cons, ← List.append_assoc, move]
        rfl
  obtain ⟨leds, same⟩ := played (List.range maquina.gameRound) (shutUp maquina) rfl
  refine ⟨leds, same.trans ?_⟩
  rw [shutUp, emit, List.append_assoc]
  rfl

theorem winnerFlashes_frame (maquina : Maquina Button) :
    winnerFlashes maquina =
      { setLEDs (choiceRed ||| choiceYellow) maquina with
        out := maquina.out ++ List.replicate 4 .winnerSound } := by
  simp only [winnerFlashes, winnerSound, emit, setLEDs, List.append_assoc]
  rfl

theorem loserFlashes_frame (maquina : Maquina Button) :
    loserFlashes maquina =
      { setLEDs (choiceBlue ||| choiceYellow) maquina with
        out := maquina.out ++ List.replicate 4 (.buzzSound 255 1500) } := by
  simp only [loserFlashes, buzzSound, emit, setLEDs, List.append_assoc]
  rfl

/-- The debouncers are updated. -/
theorem checkButton_frame [Bounce Button] (sample : Sample)
    (maquina : Maquina Button) :
    (checkButton sample maquina).2 =
      { maquina with
        toSimon :=
          { maquina.toSimon with
            buttons0 := (checkButton sample maquina).2.buttons0
            buttons1 := (checkButton sample maquina).2.buttons1
            buttons2 := (checkButton sample maquina).2.buttons2
            buttons3 := (checkButton sample maquina).2.buttons3 } } :=
  rfl

/-! ## Commands -/

/-- What holds after every handler, and without one, holds after `dispatch`. -/
theorem dispatch_induction {motive : Maquina Button → Prop} (sample : Sample)
    (text : Text) (maquina : Maquina Button)
    (reset : motive (handleReset maquina)) (on : motive (handleOn maquina))
    (off : motive (handleOff maquina)) (win : motive (handleWin maquina))
    (son : motive (handleSillaOn sample maquina))
    (soff : motive (handleSillaOff maquina))
    (trueno : motive (handleTrueno maquina))
    (manual : motive (handleManual sample maquina)) (ignored : motive maquina) :
    motive (dispatch sample text maquina) := by
  unfold dispatch
  repeat' split
  · exact reset
  · exact on
  · exact off
  · exact win
  · exact son
  · exact soff
  · exact trueno
  · exact manual
  · exact ignored

end Salsipuedes.Maquina

import Salsipuedes.MaquinaInterrupcion
import Salsipuedes.MaquinaRuns

/-!
# What the lights show

Every frame which the machine shows has its pixels in the few colors which the light
effects make, at every point of every run.  While somebody sits in the chair, the
turbine swells by a rounded `float`: the rounding neither stops it nor lets it pass
the highest brightness.
-/

namespace Salsipuedes

/-! ## Rounding -/

namespace ScaledFloat

/-- The distance between neighboring floats around a value. -/
def unit (value : Nat) : Nat :=
  2 ^ (value.log2 - 23)

/-- Rounding moves a value by half a unit at most. -/
theorem round_near {value rounded : Nat} (equal : round value = rounded) :
    2 * rounded ≤ 2 * value + unit value ∧
      2 * value ≤ 2 * rounded + unit value := by
  have whole := Nat.div_add_mod' value (unit value)
  have small : value % unit value < unit value :=
    Nat.mod_lt value (Nat.two_pow_pos _)
  have cases : (rounded = value / unit value * unit value ∧
        2 * (value % unit value) ≤ unit value) ∨
      (rounded = (value / unit value + 1) * unit value ∧
        unit value ≤ 2 * (value % unit value)) := by
    rw [← equal, round, ← unit]
    split
    · exact .inl ⟨rfl, by omega⟩
    · exact .inr ⟨rfl, by omega⟩
  rw [Nat.succ_mul (value / unit value)] at cases
  omega

theorem unit_le {value width : Nat} (below : value < 2 ^ (width + 24)) :
    unit value ≤ 2 ^ width := by
  unfold unit
  apply Nat.pow_le_pow_right (by decide)
  by_cases zero : value = 0
  · rw [zero, Nat.log2_zero]
    exact Nat.zero_le width
  · have := (Nat.log2_lt zero).mpr below
    omega

/-- Below 255 a sum with `0.04` is off by `2 ^ (-17)` at most. -/
theorem add_fourHundredths {value sum : Nat} (below : value < 255 * 2 ^ 28)
    (equal : add value fourHundredths = sum) :
    value + 10735370 ≤ sum ∧ sum ≤ value + 10739466 := by
  have bound : value + 10737418 < 2 ^ (12 + 24) := by omega
  have near := round_near equal
  have fine := unit_le bound
  unfold fourHundredths at near
  omega

end ScaledFloat

namespace Maquina

variable {Button : Type}

/-! ## Lights -/

/-- The frame which an event shows. -/
def Event.frame? : Event → Option Strips
  | .show strip1 ledsTurbina brightness => some ⟨strip1, ledsTurbina, brightness⟩
  | _ => none

/-- The strips, the shape of the turbine and the frames of the current operation. -/
structure Luces where
  strips : Strips
  turbinaArray : Vector Int totalTurbina
  frames : List Strips

def luces (maquina : Maquina Button) : Luces :=
  ⟨maquina.toStrips, maquina.turbinaArray,
    maquina.out.filterMap Event.frame?⟩

/-- A brightness of a shape is the square of a small number. -/
def DeForma (lum : Int) : Prop :=
  ∃ root : Nat, root ≤ 14 ∧ lum = root * root

/-- A pixel of the turbine is grey: white, or of a shape. -/
def Gris (pixel : CRGB) : Prop :=
  ∃ lum : Int, (lum = 255 ∨ DeForma lum) ∧ pixel = ⟨lum, lum, lum⟩

/-- The colors which a frame may have. -/
structure Strips.InGamut (strips : Strips) : Prop where
  strip1 : ∀ pixel ∈ strips.strip1, pixel = CRGB.black ∨ pixel = CRGB.rayo
  ledsTurbina : ∀ pixel ∈ strips.ledsTurbina, Gris pixel
  brightness : strips.brightness ≤ 255

/-- The strips, and every frame which was shown, have these colors. -/
structure Luces.InGamut (luces : Luces) : Prop where
  strips : luces.strips.InGamut
  turbinaArray : ∀ lum ∈ luces.turbinaArray, DeForma lum
  frames : ∀ frame ∈ luces.frames, frame.InGamut

/-- An operation which keeps to the colors, and leaves the swelling of the turbine
alone. -/
structure Paints (before after : Maquina Button) : Prop where
  gamut : before.luces.InGamut → after.luces.InGamut
  intensidad : after.intensidadTurbina = before.intensidadTurbina

namespace Paints

variable {first second third : Maquina Button}

theorem of_eq (luces : second.luces = first.luces)
    (intensidad : second.intensidadTurbina = first.intensidadTurbina) :
    Paints first second :=
  ⟨fun gamut => luces ▸ gamut, intensidad⟩

theorem trans (before : Paints first second) (after : Paints second third) :
    Paints first third :=
  ⟨after.gamut ∘ before.gamut, after.intensidad.trans before.intensidad⟩

/-- Effects which show nothing. -/
theorem appends {events : List Event} (strips : second.toStrips = first.toStrips)
    (shape : second.turbinaArray = first.turbinaArray)
    (intensidad : second.intensidadTurbina = first.intensidadTurbina)
    (out : second.out = first.out ++ events)
    (dark : ∀ event ∈ events, event.frame? = none) : Paints first second := by
  refine .of_eq ?_ intensidad
  rw [luces, luces, strips, shape, out, List.filterMap_append,
    List.filterMap_eq_nil_iff.mpr dark, List.append_nil]

theorem emit {event : Event} (dark : event.frame? = none)
    (maquina : Maquina Button) : Paints maquina (maquina.emit event) :=
  appends rfl rfl rfl rfl (List.forall_mem_singleton.mpr dark)

theorem dark {event : Event} (paints : Paints first second)
    (dark : event.frame? = none) : Paints first (second.emit event) :=
  paints.trans (.emit dark second)

theorem refl (maquina : Maquina Button) : Paints maquina maquina :=
  ⟨id, rfl⟩

end Paints

/-- The square of a draw below the root of 255. -/
theorem deForma_random (draw : Nat) :
    DeForma (random 0 (Nat.sqrt 255) draw * random 0 (Nat.sqrt 255) draw) := by
  have root : Nat.sqrt 255 < 16 := Nat.sqrt_lt'.mpr (by decide)
  have positive : 0 < Nat.sqrt 255 := Nat.sqrt_pos.mpr (by decide)
  have lower : 0 ≤ random 0 (Nat.sqrt 255) draw := random_lower draw
  have upper := random_upper (Int.natCast_pos.mpr positive) draw
  exact ⟨(random 0 (Nat.sqrt 255) draw).toNat, by omega,
    by rw [Int.toNat_of_nonneg lower]⟩

theorem gris_black : Gris CRGB.black :=
  ⟨0, .inr ⟨0, Nat.zero_le _, rfl⟩, rfl⟩

theorem showStrips_paints (maquina : Maquina Button) :
    Paints maquina (showStrips maquina) := by
  refine ⟨fun gamut => ⟨gamut.strips, gamut.turbinaArray, ?_⟩, rfl⟩
  intro frame member
  have shown : (showStrips maquina).luces.frames =
      maquina.luces.frames ++ [maquina.toStrips] :=
    List.filterMap_append
  rw [shown] at member
  rcases List.mem_append.mp member with earlier | now
  · exact gamut.frames frame earlier
  · rw [List.mem_singleton.mp now]
    exact gamut.strips

theorem setBrightness_paints (scale : Int) (maquina : Maquina Button) :
    Paints maquina (setBrightness scale maquina) := by
  have byte : toByte scale ≤ 255 := by
    unfold toByte
    omega
  exact ⟨fun gamut => ⟨⟨gamut.strips.strip1, gamut.strips.ledsTurbina, byte⟩,
    gamut.turbinaArray, gamut.frames⟩, rfl⟩

/-- An operation which only paints the turbine. -/
theorem turbina_paints {leds : Vector CRGB totalTurbina}
    (grey : ∀ pixel ∈ leds, Gris pixel) (maquina : Maquina Button) :
    Paints maquina { maquina with ledsTurbina := leds } :=
  ⟨fun gamut => ⟨⟨gamut.strips.strip1, grey, gamut.strips.brightness⟩,
    gamut.turbinaArray, gamut.frames⟩, rfl⟩

theorem turbinaOff_paints (maquina : Maquina Button) :
    Paints maquina (turbinaOff maquina) := by
  refine turbina_paints (fun pixel member => ?_) maquina
  rw [(Vector.mem_replicate.mp member).2]
  exact gris_black

theorem turbinaWhite_paints (maquina : Maquina Button) :
    Paints maquina (turbinaWhite maquina) := by
  refine turbina_paints (fun pixel member => ?_) maquina
  rw [(Vector.mem_replicate.mp member).2]
  exact ⟨255, .inl rfl, rfl⟩

/-- A new shape is applied as soon as it is drawn. -/
theorem newShape_paints (sample : Sample) (maquina : Maquina Button) :
    Paints maquina (applyShape (newShapeTurbina sample maquina)) := by
  have shape : ∀ lum ∈ (newShapeTurbina sample maquina).turbinaArray,
      DeForma lum := by
    intro lum member
    obtain ⟨i, rfl⟩ := Vector.mem_ofFn.mp member
    exact deForma_random (sample.draw (i.val + 1))
  refine ⟨fun gamut => ⟨⟨gamut.strips.strip1, ?_, gamut.strips.brightness⟩,
    shape, gamut.frames⟩, rfl⟩
  intro pixel member
  obtain ⟨lum, drawn, rfl⟩ := Vector.mem_map.mp member
  exact ⟨lum, .inr (shape lum drawn), rfl⟩

theorem turbinaFlash_paints (sample : Sample) (maquina : Maquina Button) :
    Paints maquina (turbinaFlash sample maquina) := by
  have counted {after : Maquina Button} (paints : Paints maquina after) :
      Paints maquina
        { after with turbinaCounter := after.turbinaCounter - 1 } :=
    ⟨paints.gamut, paints.intensidad⟩
  unfold turbinaFlash
  dsimp only
  split
  · exact counted (newShape_paints sample maquina)
  split
  · exact counted (setBrightness_paints 0 maquina)
  · exact counted (setBrightness_paints _ maquina)

/-- A pixel of the path is lit among others. -/
theorem lit_pixel {strip1 : Vector CRGB totalStrip1}
    (colors : ∀ pixel ∈ strip1, pixel = CRGB.black ∨ pixel = CRGB.rayo)
    (i : Nat) : ∀ pixel ∈ strip1.setIfInBounds i CRGB.rayo,
      pixel = CRGB.black ∨ pixel = CRGB.rayo := by
  intro pixel member
  obtain ⟨j, bound, rfl⟩ := Vector.getElem_of_mem member
  rw [Vector.getElem_setIfInBounds]
  split
  · exact .inr rfl
  · exact colors _ (Vector.getElem_mem bound)

theorem encenderTramo_paints (start stop : Nat) (maquina : Maquina Button) :
    Paints maquina (encenderTramo start stop maquina) := by
  refine List.foldlRecOn
    (motive := fun after : Maquina Button => Paints maquina after) _ _
    ⟨id, rfl⟩ fun before painted pixel _ => ?_
  have lit : Paints before
      { before with strip1 := before.strip1.setIfInBounds pixel CRGB.rayo } :=
    ⟨fun gamut => ⟨⟨lit_pixel gamut.strips.strip1 pixel, gamut.strips.ledsTurbina,
      gamut.strips.brightness⟩, gamut.turbinaArray, gamut.frames⟩, rfl⟩
  exact (painted.trans lit).trans (showStrips_paints _)

theorem rayoAvanza_paints (sample : Sample) (maquina : Maquina Button) :
    Paints maquina (rayoAvanza sample maquina) := by
  have announced : Paints maquina (maquina.emit
      (.console "rayo avanza. gamesWon:" [maquina.gamesWon])) :=
    .emit rfl maquina
  unfold rayoAvanza
  generalize maquina.emit (.console "rayo avanza. gamesWon:" _) = shown
    at announced
  have path (start stop : Nat) {before after : Maquina Button}
      (same : Paints shown before)
      (kept : Paints (encenderTramo start stop before) after) :
      Paints maquina after :=
    ((announced.trans same).trans (encenderTramo_paints start stop before)).trans
      kept
  dsimp only
  split
  · refine path 0 pixels1 ⟨id, rfl⟩ ?_
    refine .trans ?_ (newShape_paints sample _)
    exact .of_eq rfl rfl
  split
  · exact path pixels1 pixels2 (.of_eq rfl rfl) (.of_eq rfl rfl)
  split
  · exact path pixels2 pixels3 (.of_eq rfl rfl) (.of_eq rfl rfl)
  split
  · exact path pixels3 pixels4 (.of_eq rfl rfl) (.of_eq rfl rfl)
  · exact announced.trans (.emit rfl _)

theorem rayoPega_paints (maquina : Maquina Button) :
    Paints maquina (rayoPega maquina) := by
  unfold rayoPega
  split
  · dsimp only
    have struck := setBrightness_paints
      ((nextIntensidad maquina.tiempoRayos maquina.intensidadRayos).tmod 128)
      maquina
    split
    · refine Paints.trans ?_ (setBrightness_paints _ _)
      exact struck.trans (.of_eq rfl rfl)
    · exact struck.trans (.of_eq rfl rfl)
  · exact ⟨id, rfl⟩

/-! ## The Simon game -/

theorem tono_dark (lengthMs : Int) (which : Nat) :
    ∀ event ∈ tono lengthMs which, event.frame? = none := by
  unfold tono
  cases halfPeriod which <;> simp [Event.frame?]

theorem toner_paints (which : Nat) (lengthMs : Int) (maquina : Maquina Button) :
    Paints maquina (toner which lengthMs maquina) := by
  rw [toner_frame]
  exact .appends rfl rfl rfl rfl (tono_dark lengthMs which)

theorem playMoves_paints (maquina : Maquina Button) :
    Paints maquina (playMoves maquina) := by
  obtain ⟨_, played⟩ := playMoves_frame maquina
  rw [played]
  refine .appends rfl rfl rfl rfl fun event member => ?_
  rcases List.mem_cons.mp member with rfl | sounds
  · rfl
  · obtain ⟨which, -, sounds⟩ := List.mem_flatMap.mp sounds
    exact tono_dark 150 which event sounds

theorem winnerFlashes_paints (maquina : Maquina Button) :
    Paints maquina (winnerFlashes maquina) := by
  rw [winnerFlashes_frame]
  refine .appends rfl rfl rfl rfl fun event member => ?_
  rw [List.eq_of_mem_replicate member]
  rfl

theorem loserFlashes_paints (maquina : Maquina Button) :
    Paints maquina (loserFlashes maquina) := by
  rw [loserFlashes_frame]
  refine .appends rfl rfl rfl rfl fun event member => ?_
  rw [List.eq_of_mem_replicate member]
  rfl

theorem playWinner_paints (sample : Sample) (maquina : Maquina Button) :
    Paints maquina (playWinner sample maquina) := by
  have won : Paints maquina { winnerFlashes maquina with simonWon := true } :=
    (winnerFlashes_paints maquina).trans (.of_eq rfl rfl)
  refine Paints.trans ?_ (rayoAvanza_paints sample _)
  refine Paints.dark ?_ rfl
  exact (won.dark rfl).trans (.of_eq rfl rfl)

theorem playLoser_paints (maquina : Maquina Button) :
    Paints maquina (playLoser maquina) :=
  ((loserFlashes_paints maquina).dark rfl).dark rfl

theorem nextRound_paints (sample : Sample) (maquina : Maquina Button) :
    Paints maquina (nextRound sample maquina).maquina := by
  have added : Paints maquina (addToMoves sample maquina) := .of_eq rfl rfl
  unfold nextRound
  split
  · exact added.trans (playMoves_paints _)
  · exact playWinner_paints sample maquina

theorem choose_paints (sample : Sample) (choice currentMove : Nat)
    (maquina : Maquina Button) :
    Paints maquina (choose sample choice currentMove maquina).maquina := by
  unfold choose
  split
  · exact playLoser_paints maquina
  split
  · exact playLoser_paints maquina
  split
  · exact .refl maquina
  · exact nextRound_paints sample maquina

theorem startMemory_paints (sample : Sample) (maquina : Maquina Button) :
    Paints maquina (startMemory sample maquina).maquina := by
  refine Paints.trans ?_ (nextRound_paints sample _)
  exact .of_eq rfl rfl

section Buttons

variable [Bounce Button]

theorem checkButton_paints (sample : Sample) (maquina : Maquina Button) :
    Paints maquina (checkButton sample maquina).2 :=
  .of_eq rfl rfl

theorem attractPoll_paints (sample : Sample) (counterAttract : Nat)
    (turn : Fin 4) (maquina : Maquina Button) :
    Paints maquina (attractPoll sample counterAttract turn maquina).maquina := by
  have checked : Paints maquina
      (checkButton sample (setLEDs (attractLeds turn) maquina)).2 :=
    .of_eq rfl rfl
  unfold attractPoll
  dsimp only
  split
  · exact checked.trans (startMemory_paints sample _)
  split
  · exact checked
  split
  · exact checked
  · refine Paints.trans ?_ (startMemory_paints sample _)
    refine Paints.trans ?_ (.emit rfl _)
    exact checked.trans (.of_eq rfl rfl)

theorem releasePoll_paints (sample : Sample) (button currentMove : Nat)
    (maquina : Maquina Button) :
    Paints maquina (releasePoll sample button currentMove maquina).maquina := by
  have checked := checkButton_paints sample maquina
  rw [releasePoll_eq]
  dsimp only
  split
  · exact checked
  · exact checked.trans (choose_paints sample button currentMove _)

/-! ## Puzzles -/

theorem checkKnobs_paints (sample : Sample) (maquina : Maquina Button) :
    Paints maquina (checkKnobs sample maquina) := by
  have checked (button : Button) :
      Paints maquina { maquina with botonKnobs := button } :=
    .of_eq rfl rfl
  have won (before : Maquina Button) : Paints before (winKnobs sample before) := by
    refine Paints.trans ?_ (rayoAvanza_paints sample _)
    refine Paints.dark (Paints.dark ?_ rfl) rfl
    exact (((Paints.refl before).dark rfl).dark rfl).trans (.of_eq rfl rfl)
  unfold checkKnobs
  dsimp only
  split
  · refine Paints.dark ?_ rfl
    split
    · exact ((checked _).dark rfl).trans (won _)
    · exact ((checked _).dark rfl).dark rfl
  · exact checked _

end Buttons

theorem checkRadio_paints (sample : Sample) (maquina : Maquina Button) :
    Paints maquina (checkRadio sample maquina) := by
  have tuned (dif : Int) : Paints maquina (tuneRadio dif maquina) := by
    unfold tuneRadio
    dsimp only
    refine Paints.dark ?_ rfl
    split
    · exact ((Paints.refl maquina).dark rfl).trans (.of_eq rfl rfl)
    · exact ((Paints.refl maquina).dark rfl).trans (.of_eq rfl rfl)
  have won (before : Maquina Button) : Paints before (winRadio sample before) := by
    refine Paints.trans ?_ (rayoAvanza_paints sample _)
    refine Paints.dark (Paints.dark ?_ rfl) rfl
    exact ((Paints.refl before).dark rfl).trans (.of_eq rfl rfl)
  unfold checkRadio
  dsimp only
  split
  · split
    · exact (tuned _).trans (won _)
    · exact tuned _
  · exact .emit rfl maquina

/-! ## Commands -/

theorem lucesOff_paints (maquina : Maquina Button) :
    Paints maquina (lucesOff maquina) := by
  refine Paints.dark ?_ rfl
  refine Paints.trans ?_ (showStrips_paints _)
  refine ⟨fun gamut => ⟨⟨?_, ?_, gamut.strips.brightness⟩, gamut.turbinaArray,
    gamut.frames⟩, rfl⟩
  · intro pixel member
    exact .inl (Vector.mem_replicate.mp member).2
  · intro pixel member
    rw [(Vector.mem_replicate.mp member).2]
    exact gris_black

theorem resetState_paints (maquina : Maquina Button) :
    Paints maquina (resetState maquina) :=
  Paints.dark (.of_eq rfl rfl) rfl

theorem exitRoom_paints (maquina : Maquina Button) :
    Paints maquina (exitRoom maquina) :=
  Paints.dark (.of_eq rfl rfl) rfl

theorem handleReset_paints (maquina : Maquina Button) :
    Paints maquina (handleReset maquina) := by
  have cleared := (((Paints.refl maquina).dark rfl).dark rfl).trans
    ((lucesOff_paints ((maquina.emit (.console "doiing a reset" [])).emit
      (.serial1 "OFF"))).trans (resetState_paints _))
  exact (cleared.trans (.emit rfl _)).trans (.of_eq rfl rfl)

theorem handleOn_paints (maquina : Maquina Button) :
    Paints maquina (handleOn maquina) := by
  have cleared := ((Paints.refl maquina).dark rfl).trans
    ((lucesOff_paints (maquina.emit (.console "machine ON" []))).trans
      (resetState_paints _))
  exact cleared.trans (.of_eq rfl rfl)

theorem handleOff_paints (maquina : Maquina Button) :
    Paints maquina (handleOff maquina) :=
  (((Paints.refl maquina).dark rfl).trans
    ((lucesOff_paints (maquina.emit (.console "turning off" []))).trans
      (resetState_paints _))).trans (.emit rfl _)

theorem handleWin_paints (maquina : Maquina Button) :
    Paints maquina (handleWin maquina) := by
  have cleared := ((Paints.refl maquina).dark rfl).trans
    ((lucesOff_paints (maquina.emit (.console "winnnnning" []))).trans
      (resetState_paints _))
  exact ((cleared.trans (.emit rfl _)).trans (exitRoom_paints _)).trans
    (.of_eq rfl rfl)

theorem handleManual_paints (sample : Sample) (maquina : Maquina Button) :
    Paints maquina (handleManual sample maquina) := by
  unfold handleManual
  split
  · exact handleWin_paints maquina
  · refine Paints.trans ?_ (rayoAvanza_paints sample _)
    exact .of_eq rfl rfl

theorem handleSillaOn_paints (sample : Sample) (maquina : Maquina Button) :
    Paints maquina (handleSillaOn sample maquina) := by
  unfold handleSillaOn
  split
  · refine Paints.trans ?_ (turbinaFlash_paints sample _)
    exact Paints.dark (.of_eq rfl rfl) rfl
  · exact .refl maquina

theorem dispatch_paints (sample : Sample) (text : Text)
    (maquina : Maquina Button) :
    Paints maquina (dispatch sample text maquina) :=
  dispatch_induction sample text maquina (handleReset_paints maquina)
    (handleOn_paints maquina) (handleOff_paints maquina)
    (handleWin_paints maquina) (handleSillaOn_paints sample maquina)
    (Paints.dark (.of_eq rfl rfl) rfl) (Paints.dark (.of_eq rfl rfl) rfl)
    (handleManual_paints sample maquina) (.refl maquina)

theorem handleMessage_paints (sample : Sample) (maquina : Maquina Button) :
    Paints maquina (handleMessage sample maquina) := by
  have trimmed : Paints maquina (({ maquina with
      incomingData := trim maquina.incomingData } : Maquina Button).emit
        (.received (trim maquina.incomingData))) :=
    Paints.dark (.of_eq rfl rfl) rfl
  have dispatched := trimmed.trans
    (dispatch_paints sample (trim maquina.incomingData) _)
  exact ⟨dispatched.gamut, dispatched.intensidad⟩

theorem checkIncoming_paints (sample : Sample) (maquina : Maquina Button) :
    Paints maquina (checkIncoming sample maquina) := by
  have received : Paints maquina { maquina with
      toIdleReceiver := maquina.toIdleReceiver.receive 16 sample.serial1 } :=
    .of_eq rfl rfl
  unfold checkIncoming
  dsimp only
  split
  · exact received.trans (handleMessage_paints sample _)
  · exact received

theorem checkEnchufe_paints (sample : Sample) (maquina : Maquina Button) :
    Paints maquina (checkEnchufe sample maquina).2 := by
  have accepted (now : Bool) (before : Maquina Button) :
      Paints before (acceptEnchufe sample now before) := by
    have noted : Paints before
        { before with enchufada := now, enchufeCounter := 0 } :=
      .of_eq rfl rfl
    unfold acceptEnchufe
    dsimp only
    split
    · refine Paints.trans ?_ (rayoAvanza_paints sample _)
      exact ((noted.dark rfl).dark rfl).trans (.of_eq rfl rfl)
    · exact ((noted.dark rfl).dark rfl).trans (handleReset_paints _)
  unfold checkEnchufe
  split
  · dsimp only
    split
    · split
      · exact Paints.trans (.of_eq rfl rfl) (accepted _ _)
      · exact .of_eq rfl rfl
    · exact .of_eq rfl rfl
  · exact .refl maquina

/-! ## Steps -/

/-- The swelling of the turbine at its next update. -/
def swollen (maquina : Maquina Button) : ScaledFloat :=
  if maquina.sillaOn = true then
    if maquina.intensidadTurbina < ScaledFloat.ofNat 255 then
      maquina.intensidadTurbina.add ScaledFloat.fourHundredths
    else
      maquina.intensidadTurbina
  else
    ScaledFloat.ofNat baseBrightness.toNat

/-- The turbine is at rest, and has its effect on. -/
def Idles (maquina : Maquina Button) : Prop :=
  maquina.turbinaCounter ≤ 0 ∧ maquina.efectoTurbina = true

/-- An update of the turbine keeps to the colors. -/
theorem updateTurbina_inGamut (sample : Sample) {maquina : Maquina Button}
    (gamut : maquina.luces.InGamut) :
    (updateTurbina sample maquina).luces.InGamut := by
  have grown (intensidad : ScaledFloat) :
      ({ maquina with intensidadTurbina := intensidad } :
        Maquina Button).luces.InGamut :=
    gamut
  unfold updateTurbina
  split
  · exact (turbinaFlash_paints sample maquina).gamut gamut
  split
  · exact (setBrightness_paints baseBrightness _).gamut
      ((turbinaOff_paints maquina).gamut gamut)
  split
  · refine (setBrightness_paints _ _).gamut ?_
    split
    · split
      · exact (turbinaWhite_paints _).gamut (grown _)
      · dsimp only
        split
        · exact (turbinaWhite_paints maquina).gamut gamut
        · exact (newShape_paints sample maquina).gamut gamut
    · exact (turbinaOff_paints _).gamut (grown _)
  · exact gamut

/-- At rest an update shows how far the turbine has swollen. -/
theorem updateTurbina_idles (sample : Sample) {maquina : Maquina Button}
    (idles : Idles maquina) :
    (updateTurbina sample maquina).intensidadTurbina = swollen maquina ∧
      (updateTurbina sample maquina).brightness =
        toByte (swollen maquina).truncate := by
  have notFlashing : ¬ maquina.turbinaCounter > 1 := by
    have := idles.1
    omega
  have notLast : ¬ maquina.turbinaCounter = 1 := by
    have := idles.1
    omega
  rw [updateTurbina, if_neg notFlashing, if_neg notLast, if_pos idles.2, swollen]
  split
  · split
    · exact ⟨rfl, rfl⟩
    · dsimp only
      split <;> exact ⟨rfl, rfl⟩
  · exact ⟨rfl, rfl⟩

/-- Otherwise the turbine does not swell. -/
theorem updateTurbina_busy (sample : Sample) {maquina : Maquina Button}
    (busy : ¬ Idles maquina) :
    (updateTurbina sample maquina).intensidadTurbina =
      maquina.intensidadTurbina := by
  unfold updateTurbina
  split
  · exact (turbinaFlash_paints sample maquina).intensidad
  split
  · rfl
  split
  · rename_i notFlashing notLast effect
    exact absurd ⟨by omega, effect⟩ busy
  · rfl

section Steps

variable [Bounce Button]

theorem operation_paints (sample : Sample) {control : Control}
    (notTurbina : control ≠ .turbina) (maquina : Maquina Button) :
    Paints maquina (operation sample control maquina).maquina := by
  cases control with
  | loopStart => exact checkEnchufe_paints sample maquina
  | knobs =>
      dsimp only [operation]
      split
      · exact checkKnobs_paints sample maquina
      · exact .refl maquina
  | radio =>
      dsimp only [operation]
      split
      · exact checkRadio_paints sample maquina
      · exact .refl maquina
  | simon =>
      dsimp only [operation]
      split
      · exact .emit rfl maquina
      · exact .refl maquina
  | attract counterAttract turn =>
      exact attractPoll_paints sample counterAttract turn maquina
  | choosing currentMove => exact .refl maquina
  | waiting startTime currentMove =>
      have polled := checkIncoming_paints sample maquina
      dsimp only [operation]
      rw [waitPoll_eq]
      dsimp only
      split
      · split
        · exact (polled.trans (checkButton_paints sample _)).trans
            (toner_paints _ _ _)
        · exact polled.trans (checkButton_paints sample _)
      · exact choose_paints sample choiceNone currentMove maquina
  | releasing button currentMove =>
      exact releasePoll_paints sample button currentMove maquina
  | rayos =>
      dsimp only [operation]
      split
      · exact ((Paints.refl maquina).dark rfl).trans (rayoPega_paints _)
      · exact .refl maquina
  | turbina => exact absurd rfl notTurbina
  | enchufe =>
      have plugged := checkEnchufe_paints sample maquina
      exact ⟨plugged.gamut, plugged.intensidad⟩
  | incoming =>
      exact (checkIncoming_paints sample maquina).trans (showStrips_paints _)

theorem operation_inGamut (sample : Sample) (control : Control)
    {maquina : Maquina Button} (gamut : maquina.luces.InGamut) :
    (operation sample control maquina).maquina.luces.InGamut := by
  by_cases turbina : control = .turbina
  · rw [turbina]
    exact updateTurbina_inGamut sample gamut
  · exact (operation_paints sample turbina maquina).gamut gamut

/-- Every frame has the colors of the light effects, in every run from power-up: the
path is black or lit, the turbine is grey, white or of the brightnesses of its shapes,
and the brightness of FastLED is a byte. -/
theorem frames_in_gamut (Button : Type) [Bounce Button] (boot : Sample)
    (inputs : List Sample) (strip1 : Vector CRGB totalStrip1)
    (ledsTurbina : Vector CRGB totalTurbina) (brightness : Nat)
    (shown : .show strip1 ledsTurbina brightness ∈
      (setup boot : Config Button).maquina.out ++
        (machine Button).trace (setup boot) inputs) :
    Strips.InGamut ⟨strip1, ledsTurbina, brightness⟩ := by
  let Invariant (history : List Event) (config : Config Button) : Prop :=
    config.maquina.toStrips.InGamut ∧
      (∀ lum ∈ config.maquina.turbinaArray, DeForma lum) ∧
      ∀ frame ∈ history.filterMap Event.frame?, frame.InGamut
  have preserved : ∀ history (config : Config Button) sample,
      Invariant history config →
      Invariant (history ++ (machine Button).emit config sample)
        ((machine Button).step config sample) := by
    rintro history config sample ⟨strips, turbinaArray, frames⟩
    have silent : Luces.InGamut
        (luces ({ config.maquina with out := [] } : Maquina Button)) :=
      ⟨strips, turbinaArray, fun _ member => absurd member List.not_mem_nil⟩
    have next := operation_inGamut sample config.control silent
    refine ⟨next.strips, next.turbinaArray, fun frame member => ?_⟩
    rw [List.filterMap_append] at member
    rcases List.mem_append.mp member with earlier | now
    · exact frames frame earlier
    · exact next.frames frame now
  have start : Invariant (setup boot : Config Button).maquina.out (setup boot) := by
    have dark : Luces.InGamut (luces (powerUp boot : Maquina Button)) := by
      refine ⟨⟨fun pixel member => .inl (Vector.mem_replicate.mp member).2,
        fun pixel member => ?_, Nat.le_refl 255⟩, fun lum member => ?_,
        fun _ member => absurd member List.not_mem_nil⟩
      · rw [(Vector.mem_replicate.mp member).2]
        exact gris_black
      · rw [(Vector.mem_replicate.mp member).2]
        exact ⟨0, Nat.zero_le _, rfl⟩
    have lit := (((setBrightness_paints baseBrightness _).dark rfl).trans
      (lucesOff_paints (shutUp (setBrightness baseBrightness
        (powerUp boot : Maquina Button))))).gamut dark
    exact ⟨lit.strips, lit.turbinaArray, lit.frames⟩
  have run := (machine Button).history_invariant preserved start inputs
  exact run.2.2 _ (List.mem_filterMap.mpr ⟨_, shown, rfl⟩)

/-- The first stage, granted by the operator, lights the first pixel of the path. -/
theorem frames_in_gamut_manual :
    Strips.InGamut ⟨stripAt 1, Vector.replicate totalTurbina CRGB.black, 50⟩ :=
  frames_in_gamut StableButton .reposo (deliver .reposo "manual") (stripAt 1)
    (Vector.replicate totalTurbina CRGB.black) 50 (by decide +kernel)

end Steps

/-! ## The swelling of the turbine -/

/-- How far the turbine has swollen, in units of `2 ^ (-28)`. -/
def nivel (maquina : Maquina Button) : Nat :=
  maquina.intensidadTurbina

/-- The next step updates a turbine at rest. -/
def reposa (config : Config Button) : Bool :=
  decide (config.control = .turbina ∧ config.maquina.turbinaCounter ≤ 0)

/-- The level of a turbine is that of a brightness, between the lowest one with which
it can start and the highest one. -/
def Swells (level : Nat) : Prop :=
  30 * 2 ^ 28 ≤ level ∧ level < 256 * 2 ^ 28

instance (level : Nat) : Decidable (Swells level) :=
  inferInstanceAs (Decidable (_ ∧ _))

/-- The next level of a turbine. -/
theorem swollen_cases (maquina : Maquina Button) {level : Nat}
    (equal : swollen maquina = level) :
    (maquina.sillaOn = true ∧ nivel maquina < 255 * 2 ^ 28 ∧
        nivel maquina + 10735370 ≤ level ∧ level ≤ nivel maquina + 10739466) ∨
      (maquina.sillaOn = true ∧ 255 * 2 ^ 28 ≤ nivel maquina ∧
        level = nivel maquina) ∨
      (maquina.sillaOn = false ∧ level = 50 * 2 ^ 28) := by
  unfold swollen at equal
  split at equal
  · rename_i seated
    split at equal
    · rename_i low
      exact .inl ⟨seated, low, ScaledFloat.add_fourHundredths low equal⟩
    · rename_i full
      exact .inr (.inl ⟨seated, Nat.le_of_not_lt full, equal.symm⟩)
  · rename_i free
    exact .inr (.inr ⟨by simpa using free, equal.symm⟩)

theorem swells_swollen {maquina : Maquina Button} (swells : Swells (nivel maquina)) :
    Swells (swollen maquina) := by
  obtain ⟨lower, upper⟩ := swells
  rcases swollen_cases maquina rfl with ⟨-, low, more, bound⟩ | ⟨-, -, same⟩ | ⟨-, fifty⟩
  · constructor <;> omega
  · rw [same]
    exact ⟨lower, upper⟩
  · rw [fifty]
    constructor <;> omega

/-- A level of a turbine is shown as it is. -/
theorem toByte_truncate {level : Nat} (swells : Swells level) :
    (toByte (ScaledFloat.truncate level) : Int) = ScaledFloat.truncate level := by
  have small : level / 2 ^ 28 < 256 := by
    have := swells.2
    omega
  change (((((level / 2 ^ 28 : Nat) : Int) % 256).toNat : Nat) : Int) =
    ((level / 2 ^ 28 : Nat) : Int)
  omega

section Swelling

variable [Bounce Button] {config : Config Button}

/-- Only an update of a turbine at rest changes its level, and shows it. -/
theorem step_nivel (config : Config Button) (sample : Sample) :
    let next := ((machine Button).step config sample).maquina
    if reposa config = true ∧ config.maquina.efectoTurbina = true then
      nivel next = swollen config.maquina ∧
        next.brightness = toByte (swollen config.maquina).truncate
    else
      nivel next = nivel config.maquina := by
  obtain ⟨control, maquina⟩ := config
  dsimp only
  by_cases turbina : control = .turbina
  · subst turbina
    split
    · rename_i rests
      have idles : Idles ({ maquina with out := [] } : Maquina Button) :=
        ⟨(of_decide_eq_true rests.1).2, rests.2⟩
      exact updateTurbina_idles sample idles
    · rename_i busy
      have notIdles : ¬ Idles ({ maquina with out := [] } : Maquina Button) :=
        fun idles => busy ⟨decide_eq_true ⟨rfl, idles.1⟩, idles.2⟩
      exact updateTurbina_busy sample notIdles
  · rw [if_neg fun rests => turbina (of_decide_eq_true rests.1).1]
    exact (operation_paints sample turbina _).intensidad

/-- The invariant of the level. -/
structure Leveled (config : Config Button) : Prop where
  tracks : ∃ partida, Tracks config partida
  swells : Swells (nivel config.maquina)

/-- The turbine has swollen to its highest brightness. -/
structure Full (config : Config Button) : Prop extends Leveled config where
  full : 255 * 2 ^ 28 ≤ nivel config.maquina

theorem step_leveled (leveled : Leveled config) (sample : Sample) :
    Leveled ((machine Button).step config sample) := by
  obtain ⟨partida, tracks⟩ := leveled.tracks
  obtain ⟨action, steps⟩ := step_tracks tracks sample
  refine ⟨⟨_, steps.tracks⟩, ?_⟩
  have level := step_nivel config sample
  dsimp only at level
  split at level
  · rw [level.1]
    exact swells_swollen leveled.swells
  · rw [level]
    exact leveled.swells

theorem after_leveled (Button : Type) [Bounce Button] (boot : Sample)
    (inputs : List Sample) : Leveled (after Button boot inputs) := by
  have preserved : ∀ (config : Config Button) (sample : Sample), Leveled config →
      Leveled ((machine Button).step config sample) :=
    fun _ sample leveled => step_leveled leveled sample
  have initial : (setup boot : Config Button).maquina.intensidadTurbina =
      (powerUp boot : Maquina Button).intensidadTurbina := by
    unfold setup lucesOff
    rfl
  have start : Leveled (setup boot : Config Button) := by
    refine ⟨⟨_, setup_tracks Button boot⟩, ?_⟩
    rw [nivel, initial]
    have lowest : Swells (ScaledFloat.ofNat 30) := by decide
    exact lowest
  exact (machine Button).run_invariant preserved start inputs

omit [Bounce Button] in
/-- While somebody sits in the chair the turbine has its effect on. -/
theorem Leveled.effect (leveled : Leveled config)
    (seated : config.maquina.sillaOn = true) :
    config.maquina.efectoTurbina = true := by
  obtain ⟨partida, tracks⟩ := leveled.tracks
  have shown := tracks.shows.progreso
  have silla : partida.silla = true :=
    (congrArg Progreso.sillaOn shown).symm.trans seated
  exact (congrArg Progreso.efectoTurbina shown).trans
    (partida.silla_stage silla).2

/-- What a step does to the level while somebody sits in the chair. -/
theorem Leveled.seated_step (leveled : Leveled config)
    (seated : config.maquina.sillaOn = true) (sample : Sample) :
    let next := ((machine Button).step config sample).maquina
    (nivel config.maquina ≤ nivel next ∧
        (reposa config = true → (next.brightness : Int) =
          ScaledFloat.truncate (nivel next))) ∧
      (nivel config.maquina < 255 * 2 ^ 28 →
        nivel config.maquina + 10735370 * (reposa config).toNat ≤ nivel next) := by
  have level := step_nivel config sample
  dsimp only at level ⊢
  generalize (machine Button).step config sample = next at level
  cases rests : reposa config with
  | false =>
      rw [rests, if_neg fun both => absurd both.1 Bool.false_ne_true] at level
      rw [level]
      exact ⟨⟨Nat.le_refl _, fun never => absurd never Bool.false_ne_true⟩,
        fun _ => Nat.le_refl _⟩
  | true =>
      rw [rests, if_pos ⟨rfl, leveled.effect seated⟩] at level
      have bright := toByte_truncate (swells_swollen leveled.swells)
      rw [← level.2, ← level.1] at bright
      rcases swollen_cases config.maquina level.1.symm with
        ⟨-, low, more, -⟩ | ⟨-, full, same⟩ | ⟨free, -⟩
      · exact ⟨⟨by omega, fun _ => bright⟩, fun _ => more⟩
      · exact ⟨⟨same.ge, fun _ => bright⟩, fun low => absurd full (by omega)⟩
      · rw [seated] at free
        exact Bool.noConfusion free

/-- While somebody sits in the chair the turbine never fades, every update at rest
shows its level, and after at most 5627 of them it stays at the highest brightness. -/
theorem turbine_swells (Button : Type) [Bounce Button] (boot : Sample)
    (before later : List Sample)
    (seated : (machine Button).Along
      (fun config _ => config.maquina.sillaOn = true)
      (after Button boot before) later) :
    (machine Button).Along
        (fun config sample =>
          let next := ((machine Button).step config sample).maquina
          nivel config.maquina ≤ nivel next ∧
            (reposa config = true → (next.brightness : Int) =
              ScaledFloat.truncate (nivel next)))
        (after Button boot before) later ∧
      ∃ first rest, later = first ++ rest ∧
        (machine Button).visits reposa (after Button boot before) first ≤ 5627 ∧
        (machine Button).Along
          (fun config sample => reposa config = true →
            ((machine Button).step config sample).maquina.brightness = 255)
          ((machine Button).run (after Button boot before) first) rest := by
  have leveled := after_leveled Button boot before
  have preserved : ∀ (config : Config Button) (sample : Sample),
      config.maquina.sillaOn = true → Leveled config →
      Leveled ((machine Button).step config sample) :=
    fun _ sample _ leveled => step_leveled leveled sample
  refine ⟨(machine Button).along_of_invariant preserved
    (fun _ sample seated leveled => (leveled.seated_step seated sample).1)
    leveled seated, ?_⟩
  have lowers : ∀ (config : Config Button) (sample : Sample),
      config.maquina.sillaOn = true → Leveled config →
      ¬ 255 * 2 ^ 28 ≤ nivel config.maquina →
      (255 * 2 ^ 28 - nivel ((machine Button).step config sample).maquina +
          10735369) / 10735370 + (reposa config).toNat ≤
        (255 * 2 ^ 28 - nivel config.maquina + 10735369) / 10735370 := by
    intro config sample seated leveled notFull
    have grows := (leveled.seated_step seated sample).2 (by omega)
    have single := Bool.toNat_le (reposa config)
    generalize (reposa config).toNat = one at grows single
    generalize nivel ((machine Button).step config sample).maquina = next at grows
    omega
  obtain ⟨first, rest, split, few, full⟩ := MealyMachine.Along.settles
    (fun config => 255 * 2 ^ 28 ≤ nivel config.maquina)
    (fun config =>
      (255 * 2 ^ 28 - nivel config.maquina + 10735369) / 10735370)
    preserved lowers leveled seated
  have swells := leveled.swells.1
  refine ⟨first, rest, split, by omega, ?_⟩
  rcases full with rfl | full
  · trivial
  rw [split, MealyMachine.along_append] at seated
  have reached : Leveled ((machine Button).run (after Button boot before) first) := by
    rw [← after_append]
    exact after_leveled Button boot (before ++ first)
  have stays : ∀ (config : Config Button) (sample : Sample),
      config.maquina.sillaOn = true → Full config →
      Full ((machine Button).step config sample) :=
    fun _ sample seated full => ⟨step_leveled full.toLeveled sample,
      full.full.trans (full.seated_step seated sample).1.1⟩
  have shows : ∀ (config : Config Button) (sample : Sample),
      config.maquina.sillaOn = true → Full config → reposa config = true →
      ((machine Button).step config sample).maquina.brightness = 255 := by
    intro config sample seated full rests
    have next := stays config sample seated full
    have bright := (full.seated_step seated sample).1.2 rests
    generalize (machine Button).step config sample = after at next bright
    have level : nivel after.maquina / 2 ^ 28 = 255 := by
      have lower := next.full
      have upper := next.swells.2
      omega
    have level : (after.maquina.brightness : Int) =
        ((nivel after.maquina / 2 ^ 28 : Nat) : Int) := bright
    omega
  exact (machine Button).along_of_invariant stays shows ⟨reached, full⟩ seated.2

/-- The winning moves, and the chair that turns on a while after them. -/
def simonSilla : List Sample :=
  List.replicate 32 .enchufado ++ rojos 10 ++ List.replicate 3 .enchufado ++
    { Sample.enchufado with serial1 := "son".toList } ::
      List.replicate (8 * 26) .enchufado

/-- Simon is won and somebody sits in the chair: the turbine flashes again. -/
def sentado : Maquina StableButton :=
  ((machine StableButton).run ⟨.loopStart, flashed 8498 readyForSimon⟩
    simonSilla).maquina

theorem flashing_sentado : Flashing sentado := by
  decide +kernel

/-- The turbine flashes to its end under the one in the chair, comes to rest and
swells. -/
theorem turbine_swells_sentado :
    let before := threeStages ++ List.replicate (8 * 8498) .enchufado ++
      (simonSilla ++ List.replicate (8 * 4997) .enchufado)
    let later := List.replicate 96 Sample.enchufado
    ((after StableButton .reposo before).maquina.brightness = 0 ∧
      (after StableButton .reposo (before ++ later)).maquina.brightness = 30) ∧
    (machine StableButton).visits reposa (after StableButton .reposo before) later =
      11 ∧
    (machine StableButton).Along
      (fun config sample =>
        let next := ((machine StableButton).step config sample).maquina
        nivel config.maquina ≤ nivel next ∧
          (reposa config = true → (next.brightness : Int) =
            ScaledFloat.truncate (nivel next)))
      (after StableButton .reposo before) later ∧
    ∃ first rest, later = first ++ rest ∧
      (machine StableButton).visits reposa (after StableButton .reposo before)
        first ≤ 5627 ∧
      (machine StableButton).Along
        (fun config sample => reposa config = true →
          ((machine StableButton).step config sample).maquina.brightness = 255)
        ((machine StableButton).run (after StableButton .reposo before) first)
        rest := by
  intro before later
  have turned : (machine StableButton).run
      ⟨.loopStart, flashed 8498 readyForSimon⟩ simonSilla = ⟨.loopStart, sentado⟩ := by
    decide +kernel
  have reached : after StableButton .reposo before =
      ⟨.loopStart, flashed 4997 sentado⟩ := by
    rw [run_gate, MealyMachine.run_append, turned]
    exact (flashing_sentado.iterations 4997 (by decide +kernel)
      (by decide +kernel)).1
  have seated : (machine StableButton).Along
      (fun config _ => config.maquina.sillaOn = true)
      (after StableButton .reposo before) later := by
    rw [reached]
    decide +kernel
  refine ⟨⟨?_, ?_⟩, ?_, turbine_swells StableButton .reposo before later seated⟩
  · rw [reached]
    decide +kernel
  · rw [after_append, reached]
    decide +kernel
  · rw [reached]
    decide +kernel

end Swelling

end Maquina

end Salsipuedes

import Mathlib.Tactic.MkIffOfInductiveProp
import Salsipuedes.MaquinaRuns

/-!
# Waiting for the turbine

After an advance the turbine flashes for thousands of iterations, and Simon does
not begin before it has come to rest.  In an untouched room, iteration after
iteration changes nothing but two counters, so a run of any length through the
flashes is described by the number of iterations.
-/

namespace Salsipuedes.Maquina

variable {Button : Type}

/-- The plug is in and nobody touches anything but the radio. -/
def Sample.conRadio (a13 : Int) (radio2 radio3 : Bool) : Sample :=
  { Sample.enchufado with a13 := a13, radio2 := radio2, radio3 := radio3 }

/-- The globals between two iterations of an untouched room whose turbine is
flashing. -/
@[mk_iff]
structure Flashing [Bounce Button] (maquina : Maquina Button) : Prop where
  locked : maquina.yaGano = false
  plugged : maquina.enchufada = true
  counted : maquina.enchufeCounter = 0
  settled : Bounce.update maquina.botonKnobs high 0 = maquina.botonKnobs
  still : Bounce.rose maquina.botonKnobs = false
  quiet : maquina.luzRayos = false
  silent : maquina.incomingData = []
  dark : maquina.brightness = 0
  shown : maquina.out = [.show maquina.strip1 maquina.ledsTurbina 0]

instance [Bounce Button] [DecidableEq Button] (maquina : Maquina Button) :
    Decidable (Flashing maquina) :=
  decidable_of_iff' _ (flashing_iff maquina)

/-- The globals some iterations later. -/
def flashed (count : Nat) (maquina : Maquina Button) : Maquina Button :=
  { maquina with
    turbinaCounter := maquina.turbinaCounter - count
    lastCharTime := maquina.lastCharTime + count }

theorem turbinaFlash_dark {maquina : Maquina Button}
    (dark : maquina.brightness = 0) (going : 1 < maquina.turbinaCounter)
    (a13 : Int) (radio2 radio3 : Bool) :
    updateTurbina (.conRadio a13 radio2 radio3) maquina =
      { maquina with turbinaCounter := maquina.turbinaCounter - 1 } := by
  have still : flicker (.conRadio a13 radio2 radio3) maquina = 0 := by
    simp [flicker, random, Sample.conRadio, Sample.enchufado, Sample.reposo]
  have below : ¬ (0 : Int) > maquina.turbinaCounter := by omega
  have same : setBrightness 0 maquina = maquina := by
    rw [setBrightness, show toByte 0 = 0 from rfl, ← dark]
  rw [updateTurbina, if_pos going, turbinaFlash, still]
  rw [if_neg (by decide), if_neg below, Int.zero_tmod, same]

theorem checkEnchufe_settled {maquina : Maquina Button}
    (locked : maquina.yaGano = false) (plugged : maquina.enchufada = true)
    (counted : maquina.enchufeCounter = 0) (a13 : Int) (radio2 radio3 : Bool) :
    checkEnchufe (.conRadio a13 radio2 radio3) maquina = (true, maquina) := by
  have same : { maquina with enchufeCounter := 0 } = maquina := by
    rw [← counted]
  have unchanged :
      ¬ (Sample.conRadio a13 radio2 radio3).enchufe ≠ maquina.enchufada := by
    simp [plugged, Sample.conRadio, Sample.enchufado]
  unfold checkEnchufe
  rw [if_pos locked]
  dsimp only
  rw [if_neg unchanged, same, plugged]

/-- A poll which finds nothing and an empty buffer only counts. -/
theorem checkIncoming_waits {maquina : Maquina Button}
    (silent : maquina.incomingData = [])
    (early : 0 ≤ maquina.lastCharTime ∧ maquina.lastCharTime + 1 < 2 ^ 15)
    (a13 : Int) (radio2 radio3 : Bool) :
    checkIncoming (.conRadio a13 radio2 radio3) maquina =
      { maquina with lastCharTime := maquina.lastCharTime + 1 } := by
  have counted : (maquina.lastCharTime + 1).bmod (2 ^ 16) =
      maquina.lastCharTime + 1 := by
    apply Int.bmod_eq_of_le <;> omega
  have received := IdleReceiver.receive_nil 16 maquina.toIdleReceiver
  have notDue : ¬ IdleReceiver.complete 25 (⟨maquina.incomingData,
      maquina.lastCharTime + 1⟩ : IdleReceiver Char) = true := by
    simp [IdleReceiver.complete, silent]
  rw [counted] at received
  unfold checkIncoming readIncoming messageOver
  dsimp only
  rw [show (Sample.conRadio a13 radio2 radio3).serial1 = [] from rfl, received,
    if_neg notDue]

variable [Bounce Button]

/-- An iteration of an untouched room lets the turbine flash once and checks the
radio. -/
theorem Flashing.round {maquina : Maquina Button}
    (flashing : Flashing maquina) (going : 1 < maquina.turbinaCounter)
    (early : 0 ≤ maquina.lastCharTime ∧ maquina.lastCharTime + 1 < 2 ^ 15)
    {a13 : Int} {radio2 radio3 : Bool} {time : Int}
    (radio : ∃ out, (machine Button).step ⟨.radio, { maquina with out := [] }⟩
      (.conRadio a13 radio2 radio3) =
        ⟨.simon, { maquina with tiempoRadio := time, out := out }⟩) :
    (machine Button).run ⟨.loopStart, maquina⟩
        (List.replicate 8 (.conRadio a13 radio2 radio3)) =
          ⟨.loopStart, { flashed 1 maquina with tiempoRadio := time }⟩ ∧
      (machine Button).Along (fun config _ => config.control.inPlayMemory = false)
        ⟨.loopStart, maquina⟩
        (List.replicate 8 (.conRadio a13 radio2 radio3)) := by
  have notGate : ¬ maquina.turbinaCounter = 0 := by omega
  obtain ⟨out, radio⟩ := radio
  have loopStart : (machine Button).step ⟨.loopStart, maquina⟩
      (.conRadio a13 radio2 radio3) = ⟨.knobs, { maquina with out := [] }⟩ := by
    have settled := @checkEnchufe_settled _ { maquina with out := [] }
      flashing.locked flashing.plugged flashing.counted a13 radio2 radio3
    dsimp only [machine, operation]
    rw [settled]
    rfl
  have knobs : (machine Button).step ⟨.knobs, { maquina with out := [] }⟩
      (.conRadio a13 radio2 radio3) = ⟨.radio, { maquina with out := [] }⟩ := by
    simp [machine, operation, checkKnobs, flashing.settled, flashing.still,
      Sample.conRadio, Sample.enchufado, Sample.reposo]
  have simon : (machine Button).step
      ⟨.simon, { maquina with tiempoRadio := time, out := out }⟩
      (.conRadio a13 radio2 radio3) =
        ⟨.rayos, { maquina with tiempoRadio := time, out := [] }⟩ := by
    simp [machine, operation, notGate]
  have rayos : (machine Button).step
      ⟨.rayos, { maquina with tiempoRadio := time, out := [] }⟩
      (.conRadio a13 radio2 radio3) =
        ⟨.turbina, { maquina with tiempoRadio := time, out := [] }⟩ := by
    simp [machine, operation, flashing.quiet]
  have turbina : (machine Button).step
      ⟨.turbina, { maquina with tiempoRadio := time, out := [] }⟩
      (.conRadio a13 radio2 radio3) = ⟨.enchufe, { maquina with
        turbinaCounter := maquina.turbinaCounter - 1, tiempoRadio := time,
        out := [] }⟩ := by
    have dark := @turbinaFlash_dark _
      { maquina with tiempoRadio := time, out := [] } flashing.dark going
      a13 radio2 radio3
    dsimp only [machine, operation]
    rw [dark]
  have enchufe : (machine Button).step ⟨.enchufe, { maquina with
      turbinaCounter := maquina.turbinaCounter - 1, tiempoRadio := time,
      out := [] }⟩ (.conRadio a13 radio2 radio3) =
        ⟨.incoming, { maquina with
          turbinaCounter := maquina.turbinaCounter - 1, tiempoRadio := time,
          out := [] }⟩ := by
    have settled := @checkEnchufe_settled _ { maquina with
      turbinaCounter := maquina.turbinaCounter - 1, tiempoRadio := time,
      out := [] } flashing.locked flashing.plugged flashing.counted
      a13 radio2 radio3
    dsimp only [machine, operation]
    rw [settled, ← flashing.plugged]
  have incoming : (machine Button).step ⟨.incoming, { maquina with
      turbinaCounter := maquina.turbinaCounter - 1, tiempoRadio := time,
      out := [] }⟩ (.conRadio a13 radio2 radio3) =
        ⟨.loopStart, { flashed 1 maquina with tiempoRadio := time }⟩ := by
    have waits := @checkIncoming_waits _ { maquina with
      turbinaCounter := maquina.turbinaCounter - 1, tiempoRadio := time,
      out := [] } flashing.silent early a13 radio2 radio3
    dsimp only [machine, operation]
    rw [waits]
    simp [showStrips, emit, flashed, flashing.shown, flashing.dark]
  simp [List.replicate, MealyMachine.Along, loopStart, knobs, radio,
    simon, rayos, turbina, enchufe, incoming, Control.inPlayMemory]

/-- An iteration of an untouched room lets the turbine flash once. -/
theorem Flashing.iteration {maquina : Maquina Button}
    (flashing : Flashing maquina) (going : 1 < maquina.turbinaCounter)
    (early : 0 ≤ maquina.lastCharTime ∧ maquina.lastCharTime + 1 < 2 ^ 15) :
    (machine Button).run ⟨.loopStart, maquina⟩ (List.replicate 8 .enchufado) =
        ⟨.loopStart, flashed 1 maquina⟩ ∧
      (machine Button).Along (fun config _ => config.control.inPlayMemory = false)
        ⟨.loopStart, maquina⟩ (List.replicate 8 .enchufado) := by
  have untuned : Sample.conRadio 0 low low = .enchufado := rfl
  have radio : ∃ out, (machine Button).step
      ⟨.radio, { maquina with out := [] }⟩ (.conRadio 0 low low) =
        ⟨.simon, { maquina with
          tiempoRadio := maquina.tiempoRadio, out := out }⟩ := by
    simp [machine, operation, checkRadio, Sample.conRadio, valorR2, emit]
    split <;> exact ⟨_, rfl⟩
  have round := flashing.round going early radio
  rw [untuned] at round
  exact round

omit [Bounce Button] in
theorem flashed_flashed (count : Nat) (maquina : Maquina Button) :
    flashed count (flashed 1 maquina) = flashed (count + 1) maquina := by
  simp only [flashed, Maquina.mk.injEq, Counters.mk.injEq, IdleReceiver.mk.injEq,
    true_and, and_true]
  push_cast
  omega

theorem Flashing.iterations {maquina : Maquina Button}
    (flashing : Flashing maquina) (count : Nat)
    (going : count < maquina.turbinaCounter)
    (early : 0 ≤ maquina.lastCharTime ∧
      maquina.lastCharTime + count < 2 ^ 15) :
    (machine Button).run ⟨.loopStart, maquina⟩
        (List.replicate (8 * count) .enchufado) =
          ⟨.loopStart, flashed count maquina⟩ ∧
      (machine Button).Along (fun config _ => config.control.inPlayMemory = false)
        ⟨.loopStart, maquina⟩ (List.replicate (8 * count) .enchufado) := by
  induction count generalizing maquina with
  | zero => simp [flashed, MealyMachine.Along]
  | succ count ih =>
      push_cast at going early
      obtain ⟨once, outside⟩ := flashing.iteration (by omega) (by omega)
      have still : Flashing (flashed 1 maquina) :=
        ⟨flashing.locked, flashing.plugged, flashing.counted, flashing.settled,
          flashing.still, flashing.quiet, flashing.silent, flashing.dark,
          flashing.shown⟩
      obtain ⟨runs, along⟩ := ih still (by simp [flashed]; omega)
        (by simp [flashed]; omega)
      have split : List.replicate (8 * (count + 1)) Sample.enchufado =
          List.replicate 8 .enchufado ++
            List.replicate (8 * count) .enchufado := by
        rw [← List.replicate_add]
        congr 1
        omega
      rw [split, MealyMachine.run_append, once, runs, flashed_flashed,
        MealyMachine.along_append, once]
      exact ⟨rfl, outside, along⟩

end Salsipuedes.Maquina

import Salsipuedes.MaquinaCuentas
import Salsipuedes.MaquinaGiro

/-!
# The counter of the turbine

Each of the four stages and every accepted `son` starts the turbine anew, and
each call of `updateTurbina` counts it down.  The square of a random number below
the root of the counter is below the counter, so the flashes stay within their
bounds, and the counter comes to rest at zero, where Simon is waiting for it.
-/

namespace Salsipuedes.Maquina

variable {Button : Type}

/-! ## Flashes -/

/-- The globals with which `updateTurbina` enters `turbinaFlash`, if it does. -/
def updateFlash (maquina : Maquina Button) : Option (Maquina Button) :=
  if maquina.Going then some maquina else none

/-- The globals with which `handleSillaOn` enters `turbinaFlash`, if it does. -/
def sillaFlash (maquina : Maquina Button) : Option (Maquina Button) :=
  if maquina.Accepts then some (seat maquina) else none

/-- The globals with which `checkIncoming` enters `turbinaFlash`, if it does: the
only command which calls it is `son`. -/
def incomingFlash (sample : Sample) (maquina : Maquina Button) :
    Option (Maquina Button) :=
  let maquina := readIncoming sample maquina
  if messageOver maquina then
    let maquina := announce maquina
    if maquina.incomingData = "son".toList then sillaFlash maquina else none
  else
    none

/-- The globals with which a step enters `turbinaFlash`, if it does. -/
def flashes (config : Config Button) (sample : Sample) :
    Option (Maquina Button) :=
  let maquina := { config.maquina with out := [] }
  match config.control with
  | .waiting startTime _ =>
      if InTime startTime sample then incomingFlash sample maquina else none
  | .turbina => updateFlash maquina
  | .incoming => incomingFlash sample maquina
  | _ => none

/-- A flash within its bounds: the flicker is below the counter and fits in its
integer, the branch for a higher flicker is not taken, and the brightness is in
its range. -/
structure Steady (sample : Sample) (entered : Maquina Button) : Prop where
  counter : 2 ≤ entered.turbinaCounter
  nonneg : 0 ≤ flicker sample entered
  below : flicker sample entered < entered.turbinaCounter
  fits : toInt 16 (flicker sample entered) = flicker sample entered
  shown : turbinaFlash sample entered =
    { (if flicker sample entered > 1900 then
        applyShape (newShapeTurbina sample entered)
      else
        setBrightness ((flicker sample entered).tmod 255) entered) with
      turbinaCounter := entered.turbinaCounter - 1 }
  bright : 0 ≤ (flicker sample entered).tmod 255 ∧
    (flicker sample entered).tmod 255 ≤ 254

/-- The square of a draw below the root of a number is below the number. -/
theorem square_random_lt {number : Nat} (positive : 0 < number) (draw : Nat) :
    0 ≤ random 0 (Nat.sqrt number) draw ^ 2 ∧
      random 0 (Nat.sqrt number) draw ^ 2 < number := by
  have root : 0 < (Nat.sqrt number : Int) := by
    exact_mod_cast Nat.sqrt_pos.mpr positive
  have lower : 0 ≤ random 0 (Nat.sqrt number) draw := random_lower draw
  have upper := random_upper root draw
  have square : (Nat.sqrt number : Int) ^ 2 ≤ number := by
    exact_mod_cast Nat.sqrt_le' number
  refine ⟨by positivity, ?_⟩
  calc random 0 (Nat.sqrt number) draw ^ 2
      < (Nat.sqrt number : Int) ^ 2 :=
        pow_lt_pow_left₀ upper lower two_ne_zero
    _ ≤ number := square

/-- Every flash with a counter in its range is within its bounds. -/
theorem steady_of_counter (sample : Sample) {entered : Maquina Button}
    (going : 2 ≤ entered.turbinaCounter)
    (atMost : entered.turbinaCounter ≤ 10000) : Steady sample entered := by
  obtain ⟨nonneg, below⟩ := square_random_lt
    (show 0 < entered.turbinaCounter.toNat by omega) (sample.draw 0)
  rw [Int.toNat_of_nonneg (by omega)] at below
  have nonneg : 0 ≤ flicker sample entered := nonneg
  have below : flicker sample entered < entered.turbinaCounter := below
  have lower : 0 ≤ (flicker sample entered).tmod 255 :=
    Int.tmod_nonneg 255 nonneg
  have upper : (flicker sample entered).tmod 255 < 255 :=
    Int.tmod_lt_of_pos _ (by decide)
  refine ⟨going, nonneg, below, toInt_of_small nonneg (by omega), ?_,
    lower, by omega⟩
  have notAbove : ¬ flicker sample entered > entered.turbinaCounter := by omega
  have branches : turbinaFlash sample entered =
      { (if flicker sample entered > 1900 then
          applyShape (newShapeTurbina sample entered)
        else if flicker sample entered > entered.turbinaCounter then
          setBrightness 0 entered
        else
          setBrightness ((flicker sample entered).tmod 255) entered) with
        turbinaCounter :=
          (if flicker sample entered > 1900 then
            applyShape (newShapeTurbina sample entered)
          else if flicker sample entered > entered.turbinaCounter then
            setBrightness 0 entered
          else
            setBrightness ((flicker sample entered).tmod 255) entered
          ).turbinaCounter - 1 } := rfl
  rw [if_neg notAbove] at branches
  rw [branches]
  split <;> rfl

/-- What a flash shows, and the counter which it leaves. -/
structure Destello where
  turbinaCounter : Int
  turbinaArray : Vector Int totalTurbina
  ledsTurbina : Vector CRGB totalTurbina
  brightness : Nat

def destello (maquina : Maquina Button) : Destello :=
  ⟨maquina.turbinaCounter, maquina.turbinaArray, maquina.ledsTurbina,
    maquina.brightness⟩

/-- A function which flashes with some globals, where the turbine is going or
has just been started, and from there on touches nothing of it. -/
structure Flashed (sample : Sample) (before entered after : Maquina Button) :
    Prop where
  going : 2 ≤ entered.turbinaCounter
  started : entered.turbinaCounter = before.turbinaCounter ∨
    entered.turbinaCounter = 5000
  destello : after.destello = (turbinaFlash sample entered).destello

theorem updateTurbina_flashed (sample : Sample)
    {maquina entered : Maquina Button} (flash : entered ∈ updateFlash maquina) :
    Flashed sample maquina entered (updateTurbina sample maquina) := by
  unfold updateFlash at flash
  split at flash
  · rename_i going
    obtain rfl := Option.some.inj flash
    exact ⟨going, .inl rfl, by rw [updateTurbina, if_pos going]⟩
  · simp at flash

theorem handleSillaOn_flashed (sample : Sample)
    {maquina entered : Maquina Button} (flash : entered ∈ sillaFlash maquina) :
    Flashed sample maquina entered (handleSillaOn sample maquina) := by
  unfold sillaFlash at flash
  split at flash
  · rename_i accepted
    obtain rfl := Option.some.inj flash
    exact ⟨(by decide : (2 : Int) ≤ 5000), .inr rfl,
      by rw [handleSillaOn, if_pos accepted]⟩
  · simp at flash

theorem checkIncoming_flashed (sample : Sample)
    {maquina entered : Maquina Button}
    (flash : entered ∈ incomingFlash sample maquina) :
    Flashed sample maquina entered (checkIncoming sample maquina) := by
  unfold incomingFlash at flash
  unfold checkIncoming
  dsimp only at flash ⊢
  split at flash
  · rename_i complete
    rw [if_pos complete]
    split at flash
    · rename_i son
      obtain ⟨going, started, shown⟩ := handleSillaOn_flashed sample flash
      refine ⟨going, started, ?_⟩
      rw [← shown]
      unfold handleMessage
      dsimp only
      rw [son]
      rfl
    · simp at flash
  · simp at flash

theorem toner_destello (which : Nat) (lengthMs : Int) (maquina : Maquina Button) :
    (toner which lengthMs maquina).destello = maquina.destello := by
  rw [toner_frame]
  rfl

/-- The flash of a step is what the step shows of the turbine. -/
theorem step_flashed [Bounce Button] {config : Config Button} {sample : Sample}
    {entered : Maquina Button} (flash : entered ∈ flashes config sample) :
    Flashed sample config.maquina entered
      ((machine Button).step config sample).maquina := by
  obtain ⟨control, maquina⟩ := config
  cases control with
  | turbina =>
      obtain ⟨going, started, shown⟩ := updateTurbina_flashed sample flash
      exact ⟨going, started, shown⟩
  | incoming =>
      obtain ⟨going, started, shown⟩ := checkIncoming_flashed sample flash
      exact ⟨going, started, shown⟩
  | waiting startTime currentMove =>
      dsimp only [flashes] at flash
      split at flash
      · rename_i soon
        obtain ⟨going, started, shown⟩ := checkIncoming_flashed sample flash
        refine ⟨going, started, ?_⟩
        rw [← shown]
        dsimp only [machine, operation]
        rw [waitPoll_eq, if_pos soon]
        dsimp only
        split
        · exact toner_destello _ _ _
        · rfl
      · simp at flash
  | _ => simp [flashes] at flash

/-! ## The chair -/

/-- Only an accepted `son` seats somebody in the chair. -/
theorem Partida.seats {partida : Partida} {action : Partida.Action}
    (vacant : partida.silla = false)
    (seated : (partida.act action).silla = true) :
    action = .command "son".toList ∧ partida.stage > 3 := by
  cases action with
  | idle | lose => exact absurd (vacant.symm.trans seated) (by decide)
  | unplug => exact absurd (show false = true from seated) (by decide)
  | solve puzzle =>
      change (partida.solve puzzle).silla = true at seated
      unfold solve at seated
      split at seated <;> exact absurd (vacant.symm.trans seated) (by decide)
  | command text =>
      change (partida.command text).silla = true at seated
      unfold command at seated
      split at seated
      · simp [fresh] at seated
      split at seated
      · simp [switchedOn] at seated
      split at seated
      · simp [fresh] at seated
      split at seated
      · simp [finished] at seated
      split at seated
      · rename_i son
        unfold sillaOn at seated
        split at seated
        · rename_i accepted
          exact ⟨congrArg Action.command son, accepted.2⟩
        · simp [vacant] at seated
      split at seated
      · simp [sillaOff] at seated
      split at seated
      · simp [vacant] at seated
      split at seated
      · split at seated
        · simp [finished] at seated
        · simp [skip, vacant] at seated
      · simp [vacant] at seated

/-- A step which handles an accepted `son` flashes. -/
theorem flashes_of_heard {config : Config Button} {sample : Sample}
    (heardSon : heard config sample = some "son".toList)
    (vacant : config.maquina.sillaOn = false)
    (high : config.maquina.gamesWon > 3) :
    flashes config sample ≠ none := by
  have polled (maquina : Maquina Button)
      (son : completed sample maquina = some "son".toList)
      (vacant : maquina.sillaOn = false) (high : maquina.gamesWon > 3) :
      incomingFlash sample maquina ≠ none := by
    unfold completed at son
    dsimp only at son
    split at son
    · rename_i complete
      unfold incomingFlash
      dsimp only
      have text : (announce (readIncoming sample maquina)).incomingData =
          "son".toList := Option.some.inj son
      rw [if_pos complete, if_pos text]
      unfold sillaFlash
      rw [if_pos ⟨vacant, high⟩]
      simp
    · simp at son
  obtain ⟨control, maquina⟩ := config
  have silent : completed sample maquina =
      completed sample { maquina with out := [] } := rfl
  cases control with
  | incoming => exact polled _ (silent.symm.trans heardSon) vacant high
  | waiting startTime currentMove =>
      dsimp only [heard] at heardSon
      dsimp only [flashes]
      split at heardSon
      · rename_i soon
        rw [if_pos soon]
        exact polled _ (silent.symm.trans heardSon) vacant high
      · simp at heardSon
  | _ => simp [heard] at heardSon

/-! ## The way to Simon -/

/-- How many steps outside Simon there are at most up to the end of the next
call of `updateTurbina`. -/
def Control.untilTurbina : Control → Nat
  | .turbina => 1
  | .rayos => 2
  | .attract .. | .choosing .. | .waiting .. | .releasing .. => 2
  | .simon => 3
  | .radio => 4
  | .knobs => 5
  | .loopStart => 6
  | .incoming => 7
  | .enchufe => 8

/-- How many steps outside Simon there are to its gate in `loop` while the
machine is plugged in. -/
def Control.untilSimon : Control → Nat
  | .simon => 0
  | .radio => 1
  | .knobs => 2
  | .loopStart => 3
  | .incoming => 4
  | .enchufe => 5
  | .turbina => 6
  | .rayos => 7
  | .attract .. | .choosing .. | .waiting .. | .releasing .. => 7

theorem Control.untilTurbina_bounded (control : Control) :
    control.untilTurbina ≤ 8 := by
  cases control <;> simp [Control.untilTurbina]

theorem Control.untilSimon_bounded (control : Control) :
    control.untilSimon ≤ 7 := by
  cases control <;> simp [Control.untilSimon]

theorem Flow.untilTurbina_le {partida : Partida} {before after : Control}
    {action : Partida.Action} (flow : Flow partida before action after)
    (notTurbina : before ≠ .turbina) :
    after.untilTurbina + (!before.inSimon).toNat ≤ before.untilTurbina := by
  cases flow with
  | turbina => exact absurd rfl notTurbina
  | _ => simp [Control.untilTurbina, Control.inSimon]

theorem Flow.untilSimon_le {partida : Partida} {before after : Control}
    {action : Partida.Action} (flow : Flow partida before action after)
    (notSimon : before ≠ .simon)
    (plugged : before = .loopStart → after = .knobs) :
    after.untilSimon + (!before.inSimon).toNat ≤ before.untilSimon := by
  cases flow with
  | ready | notReady => exact absurd rfl notSimon
  | unplugged plug => simp at plugged
  | _ => simp [Control.untilSimon, Control.inSimon]

/-- The next operation is a call of `updateTurbina`. -/
def atTurbina (config : Config Button) : Bool :=
  config.control = .turbina

/-- The next operation does not belong to a Simon game. -/
def outside (config : Config Button) : Bool :=
  !config.control.inSimon

/-! ## Steps -/

section Steps

variable [Bounce Button] {config : Config Button} {sample : Sample}

/-- The last count leaves the turbine black, at the brightness at rest. -/
theorem step_last (sample : Sample) (atTurbina : config.control = .turbina)
    (last : config.maquina.turbinaCounter = 1) :
    ((machine Button).step config sample).maquina.destello =
      ⟨0, config.maquina.turbinaArray, Vector.replicate totalTurbina CRGB.black,
        toByte baseBrightness⟩ := by
  have rests : ¬ Going { config.maquina with out := [] } := by
    change ¬ config.maquina.turbinaCounter > 1
    omega
  simp only [machine, operation, atTurbina]
  rw [updateTurbina, if_neg rests, if_pos last]
  rfl

/-- A step which seats somebody in the chair flashes. -/
theorem flashes_of_seated {partida : Partida} (tracks : Tracks config partida)
    (vacant : config.maquina.sillaOn = false)
    (seated : ((machine Button).step config sample).maquina.sillaOn = true) :
    flashes config sample ≠ none := by
  obtain ⟨action, steps⟩ := step_tracks tracks sample
  have shows := tracks.shows.progreso
  have later := steps.tracks.shows.progreso
  rw [later] at seated
  have free : partida.silla = false := by
    rw [shows] at vacant
    exact vacant
  obtain ⟨rfl, high⟩ := Partida.seats free seated
  have received : .received "son".toList ∈ (machine Button).emit config sample :=
    (steps.mem_emit rfl).mpr (partida.received_mem_report _)
  refine flashes_of_heard ((received_iff_heard tracks _).mp received) vacant ?_
  rw [shows]
  exact high

/-- Every other step leaves the counter alone, unless it advances the stage or
takes the last count. -/
theorem step_unflashed {partida : Partida} (tracks : Tracks config partida)
    (noFlash : flashes config sample = none) :
    let later := (machine Button).step config sample
    later.maquina.turbinaCounter = config.maquina.turbinaCounter ∨
      later.maquina.gamesWon = config.maquina.gamesWon + 1 ∨
      config.control = .turbina ∧ config.maquina.turbinaCounter = 1 ∧
        later.maquina.turbinaCounter = 0 := by
  by_cases atTurbina : config.control = .turbina
  · have counter := step_turbina sample atTurbina
    have low : ¬ config.maquina.turbinaCounter > 1 := by
      intro going
      simp [flashes, atTurbina, updateFlash, going] at noFlash
    dsimp only
    rw [counter]
    split
    · exact .inr (.inr ⟨atTurbina, by omega, by omega⟩)
    · exact .inl rfl
  · cases step_turns sample atTurbina with
    | still counter => exact .inl counter
    | advance stage counter => exact .inr (.inl stage)
    | seat vacant seated counter =>
        exact absurd noFlash (flashes_of_seated tracks vacant seated)

/-- The counter is in its range, in a configuration which shows a game. -/
structure Counted (config : Config Button) : Prop where
  tracks : ∃ partida, Tracks config partida
  nonneg : 0 ≤ config.maquina.turbinaCounter
  atMost : config.maquina.turbinaCounter ≤ 10000

theorem counted_setup (Button : Type) [Bounce Button] (boot : Sample) :
    Counted (setup boot : Config Button) :=
  ⟨⟨.fresh, setup_tracks Button boot⟩, Int.le_refl 0, Int.zero_le_ofNat 10000⟩

theorem counted_step (config : Config Button) (sample : Sample)
    (counted : Counted config) :
    Counted ((machine Button).step config sample) := by
  obtain ⟨⟨partida, tracks⟩, nonneg, atMost⟩ := counted
  obtain ⟨action, steps⟩ := step_tracks tracks sample
  have bounds : 0 ≤ ((machine Button).step config sample).maquina.turbinaCounter ∧
      ((machine Button).step config sample).maquina.turbinaCounter ≤ 10000 := by
    by_cases atTurbina : config.control = .turbina
    · rw [step_turbina sample atTurbina]
      split <;> omega
    · exact (step_turns sample atTurbina).bounds nonneg atMost
  exact ⟨⟨_, steps.tracks⟩, bounds.1, bounds.2⟩

theorem counted_after (boot : Sample) (inputs : List Sample) :
    Counted (after Button boot inputs) :=
  (machine Button).run_invariant counted_step (counted_setup Button boot) inputs

/-- A step in which neither the stage is advanced nor a `son` is accepted. -/
def Undisturbed (config : Config Button) (sample : Sample) : Prop :=
  let later := (machine Button).step config sample
  later.maquina.gamesWon ≤ config.maquina.gamesWon ∧
    (later.maquina.sillaOn = true → config.maquina.sillaOn = true)

instance (config : Config Button) (sample : Sample) :
    Decidable (Undisturbed config sample) :=
  inferInstanceAs (Decidable (_ ∧ _))

/-- Undisturbed steps count down at `turbina` and nowhere else. -/
theorem Undisturbed.counter (undisturbed : Undisturbed config sample) :
    ((machine Button).step config sample).maquina.turbinaCounter =
      if config.control = .turbina ∧ 0 < config.maquina.turbinaCounter then
        config.maquina.turbinaCounter - 1
      else
        config.maquina.turbinaCounter := by
  by_cases atTurbina : config.control = .turbina
  · simp only [step_turbina sample atTurbina, atTurbina, true_and]
  · rw [if_neg fun both => atTurbina both.1]
    exact (step_turns sample atTurbina).counter_eq undisturbed.1 undisturbed.2

/-- How many steps outside Simon there are at most until the counter is zero and
then `rest` of the control point. -/
def remaining (rest : Control → Nat) (config : Config Button) : Nat :=
  if config.maquina.turbinaCounter = 0 then
    rest config.control
  else
    8 * (config.maquina.turbinaCounter.toNat - 1) +
      config.control.untilTurbina + rest .enchufe

theorem remaining_step (rest : Control → Nat) (counted : Counted config)
    (undisturbed : Undisturbed config sample)
    (going : config.maquina.turbinaCounter ≠ 0) :
    remaining rest ((machine Button).step config sample) +
      (outside config).toNat ≤ remaining rest config := by
  obtain ⟨⟨partida, tracks⟩, nonneg, -⟩ := counted
  have counter := undisturbed.counter
  unfold remaining
  rw [if_neg going]
  by_cases atTurbina : config.control = .turbina
  · have enchufe : ((machine Button).step config sample).control = .enchufe := by
      simp only [machine, operation, atTurbina]
    have notSimon : outside config = true := by
      simp [outside, atTurbina, Control.inSimon]
    rw [if_pos ⟨atTurbina, by omega⟩] at counter
    rw [counter, enchufe, atTurbina, notSimon]
    simp only [Control.untilTurbina, Bool.toNat_true]
    split <;> omega
  · rw [if_neg fun both => atTurbina both.1] at counter
    obtain ⟨action, steps⟩ := step_tracks tracks sample
    have nearer := steps.flow.untilTurbina_le atTurbina
    rw [counter, if_neg going, outside]
    omega

/-- Simon is due: nothing but the counter of the turbine can keep `loop` from
its game. -/
def SimonDue (config : Config Button) (sample : Sample) : Prop :=
  config.maquina.simonReady = true ∧ config.maquina.simonWon = false ∧
    (config.control = .loopStart →
      ((machine Button).step config sample).control = .knobs)

/-- A step which passes the gate of Simon in `loop`. -/
def PassesGate (config : Config Button) (sample : Sample) : Prop :=
  config.control = .simon ∧ config.maquina.turbinaCounter = 0 ∧
    ((machine Button).step config sample).control = .attract 5 firstTurn

theorem undisturbed_counted (config : Config Button) (sample : Sample)
    (_ : Undisturbed config sample) (counted : Counted config) :
    Counted ((machine Button).step config sample) :=
  counted_step config sample counted

/-- Undisturbed runs lower the counter by the number of calls of
`updateTurbina`, until it is zero. -/
theorem counter_run (counted : Counted config) {more : List Sample}
    (undisturbed : (machine Button).Along Undisturbed config more) :
    ((machine Button).run config more).maquina.turbinaCounter.toNat =
      config.maquina.turbinaCounter.toNat -
        (machine Button).visits atTurbina config more := by
  have counts (config : Config Button) (sample : Sample)
      (undisturbed : Undisturbed config sample) (_ : Counted config) :
      ((machine Button).step config sample).maquina.turbinaCounter.toNat =
        config.maquina.turbinaCounter.toNat - (atTurbina config).toNat := by
    rw [undisturbed.counter, atTurbina]
    by_cases here : config.control = .turbina
    · simp only [here, true_and, decide_true, Bool.toNat_true]
      split <;> omega
    · simp [here]
  exact MealyMachine.Along.countdown
    (fun config => config.maquina.turbinaCounter.toNat) undisturbed_counted
    counts counted undisturbed

/-- Undisturbed runs bring the counter to zero, unless they stay in a game of
Simon. -/
theorem counter_run_zero (counted : Counted config) {more : List Sample}
    (undisturbed : (machine Button).Along Undisturbed config more)
    (long : 8 * config.maquina.turbinaCounter.toNat <
      (machine Button).visits outside config more) :
    ((machine Button).run config more).maquina.turbinaCounter = 0 := by
  have nonneg := counted.nonneg
  have short : remaining (fun _ => 0) config ≤
      8 * config.maquina.turbinaCounter.toNat := by
    have bounded := config.control.untilTurbina_bounded
    unfold remaining
    dsimp only
    split <;> omega
  obtain ⟨first, sample, rest, rfl, zero⟩ := MealyMachine.Along.reaches
    (fun config _ => config.maquina.turbinaCounter = 0)
    (remaining fun _ => 0) undisturbed_counted
    (fun _ _ undisturbed counted going =>
      remaining_step _ counted undisturbed going) counted undisturbed
    (Nat.lt_of_le_of_lt short long)
  -- From the first zero on, an undisturbed run has nothing to count down.
  obtain ⟨before, later⟩ :=
    ((machine Button).along_append _ _ _ _).mp undisturbed
  have reached := (machine Button).run_invariant counted_step counted first
  have rests := counter_run reached later
  rw [zero, Int.toNat_zero, Nat.zero_sub] at rests
  have ends := (machine Button).run_invariant counted_step reached
    (sample :: rest)
  rw [MealyMachine.run_append]
  exact le_antisymm (Int.toNat_eq_zero.mp rests) ends.nonneg

/-- Undisturbed runs in which Simon is due pass its gate, unless they stay in a
game of Simon. -/
theorem simon_passed (counted : Counted config) {more : List Sample}
    (along : (machine Button).Along
      (fun config sample => Undisturbed config sample ∧ SimonDue config sample)
      config more)
    (long : 8 * config.maquina.turbinaCounter.toNat + 7 <
      (machine Button).visits outside config more) :
    ∃ first sample rest, more = first ++ sample :: rest ∧
      PassesGate ((machine Button).run config first) sample := by
  have nonneg := counted.nonneg
  have short : remaining Control.untilSimon config ≤
      8 * config.maquina.turbinaCounter.toNat + 7 := by
    have bounded := config.control.untilTurbina_bounded
    have simon := config.control.untilSimon_bounded
    unfold remaining
    split
    · omega
    · change _ + 5 ≤ _
      omega
  refine MealyMachine.Along.reaches PassesGate (remaining Control.untilSimon)
    (fun config sample guard counted =>
      undisturbed_counted config sample guard.1 counted)
    ?_ counted along (Nat.lt_of_le_of_lt short long)
  rintro config sample ⟨undisturbed, ready, notWon, plugged⟩ counted notYet
  by_cases going : config.maquina.turbinaCounter = 0
  · have atSimon : config.control ≠ .simon := by
      intro atSimon
      refine notYet ⟨atSimon, going, ?_⟩
      simp only [machine, operation, atSimon]
      rw [if_pos ⟨ready, going, notWon⟩]
    have resting : ((machine Button).step config sample).maquina.turbinaCounter
        = 0 := by
      rw [undisturbed.counter, if_neg (by omega), going]
    obtain ⟨partida, tracks⟩ := counted.tracks
    obtain ⟨action, steps⟩ := step_tracks tracks sample
    unfold remaining
    rw [if_pos resting, if_pos going, outside]
    exact steps.flow.untilSimon_le atSimon plugged
  · exact remaining_step _ counted undisturbed going

/-- The counter of the turbine at every point of every run.  A flash is entered
with at least 2 and stays within its bounds, and without a flash the counter is
only started or takes its last count, which leaves the turbine black.  Each call of
`updateTurbina` lowers it until it is zero.  While neither the stage advances nor a
`son` is accepted, nothing else changes it, so it comes to zero and the gate of Simon
is passed, unless Simon is being played already. -/
theorem turbina_counted (boot : Sample) (inputs : List Sample) :
    let config := after Button boot inputs
    (0 ≤ config.maquina.turbinaCounter ∧
      config.maquina.turbinaCounter ≤ 10000) ∧
    (∀ sample, ∀ entered ∈ flashes config sample,
      Steady sample entered ∧
        ((machine Button).step config sample).maquina.destello =
          (turbinaFlash sample entered).destello) ∧
    (∀ sample, flashes config sample = none →
      let later := (machine Button).step config sample
      later.maquina.turbinaCounter = config.maquina.turbinaCounter ∨
        later.maquina.gamesWon = config.maquina.gamesWon + 1 ∨
        config.control = .turbina ∧ config.maquina.turbinaCounter = 1 ∧
          later.maquina.turbinaCounter = 0) ∧
    (∀ sample, config.control = .turbina →
      config.maquina.turbinaCounter = 1 →
      ((machine Button).step config sample).maquina.destello =
        ⟨0, config.maquina.turbinaArray, Vector.replicate totalTurbina CRGB.black,
          toByte baseBrightness⟩) ∧
    (∀ sample, config.control = .turbina →
      0 < config.maquina.turbinaCounter →
      ((machine Button).step config sample).maquina.turbinaCounter <
        config.maquina.turbinaCounter) ∧
    (∀ more, (machine Button).Along Undisturbed config more →
      ((machine Button).run config more).maquina.turbinaCounter.toNat =
          config.maquina.turbinaCounter.toNat -
            (machine Button).visits atTurbina config more ∧
        (8 * config.maquina.turbinaCounter.toNat <
            (machine Button).visits outside config more →
          ((machine Button).run config more).maquina.turbinaCounter = 0)) ∧
    ∀ more, (machine Button).Along
        (fun config sample => Undisturbed config sample ∧ SimonDue config sample)
        config more →
      8 * config.maquina.turbinaCounter.toNat + 7 <
        (machine Button).visits outside config more →
      ∃ first sample rest, more = first ++ sample :: rest ∧
        PassesGate ((machine Button).run config first) sample := by
  have counted : Counted (after Button boot inputs) := counted_after boot inputs
  refine ⟨⟨counted.nonneg, counted.atMost⟩, ?_, ?_, ?_, ?_, ?_, ?_⟩
  · intro sample entered flash
    obtain ⟨going, started, shown⟩ := step_flashed flash
    have atMost := counted.atMost
    exact ⟨steady_of_counter sample going (by omega), shown⟩
  · intro sample noFlash
    obtain ⟨partida, tracks⟩ := counted.tracks
    exact step_unflashed tracks noFlash
  · intro sample atTurbina last
    exact step_last sample atTurbina last
  · intro sample atTurbina going
    rw [step_turbina sample atTurbina, if_pos going]
    omega
  · intro more undisturbed
    exact ⟨counter_run counted undisturbed,
      counter_run_zero counted undisturbed⟩
  · intro more along
    exact simon_passed counted along

end Steps

end Salsipuedes.Maquina

import Salsipuedes.WifiNode

/-!
# The falling picture

The `cuadro-que-cae` sketch shakes a picture off its wall: a request starts a
number of strokes of a solenoid, and the iteration which ends the last one resets
the sketch.
-/

namespace Salsipuedes

structure Cuadro where
  falling : Bool
  fallen : Bool
  adentro : Bool
  currentRepeticiones : Int
  solenoid : Bool
  out : List NodeEvent
  deriving DecidableEq

namespace Cuadro

def repeticiones : Int := 3

inductive Route where
  | root
  | test
  | reset
  | manual
  | tirar
  deriving DecidableEq

def info : NodeInfo where
  description := "hace caer cuadro con /tirar "
  controllerId := "hab13cae"
  methods := "/test /reset /manual  \n\n"
  pcRemotePort := 1310
  localPort := 1310

def emit (event : NodeEvent) (cuadro : Cuadro) : Cuadro :=
  { cuadro with out := cuadro.out ++ [event] }

/-! ## Handlers -/

def handleReset (cuadro : Cuadro) : Cuadro :=
  let cuadro := cuadro.emit (.send 200 "reset")
  let cuadro := cuadro.emit (.println "reset")
  { cuadro with
    falling := false
    fallen := false
    adentro := false
    solenoid := low
    currentRepeticiones := 0 }

/-- The handler of both `/manual` and `/tirar`. -/
def handleManual (cuadro : Cuadro) : Cuadro :=
  { cuadro with
    falling := true
    adentro := false
    solenoid := low
    currentRepeticiones := repeticiones }

def handle (route : Route) (_ : Unit) (cuadro : Cuadro) : Cuadro :=
  match route with
  | .root => { cuadro with out := cuadro.out ++ info.root }
  | .test => { cuadro with out := cuadro.out ++ info.test }
  | .reset => handleReset cuadro
  | .manual | .tirar => handleManual cuadro

/-! ## Loop -/

/-- Half a stroke of the solenoid. -/
def stroke (cuadro : Cuadro) : Cuadro :=
  if cuadro.adentro = false then
    { cuadro with solenoid := high, adentro := true }
  else
    { cuadro with
      solenoid := low
      adentro := false
      currentRepeticiones := cuadro.currentRepeticiones - 1 }

/-- The body of `loop`.  Its last statement compares `fallen` instead of setting
it. -/
def loop (_ : Unit) (cuadro : Cuadro) : Cuadro :=
  if cuadro.falling = true then
    let cuadro := cuadro.stroke
    if cuadro.currentRepeticiones = 0 then handleReset cuadro
    else cuadro
  else
    cuadro

def setup : Cuadro where
  falling := false
  fallen := false
  adentro := false
  currentRepeticiones := 0
  solenoid := low
  out := []

def node : WifiNode Cuadro Route Unit where
  setup := setup
  handle := handle
  loop := loop
  out := Cuadro.out
  silence cuadro := { cuadro with out := [] }

/-- A falling picture has strokes left. -/
def Shaking (cuadro : Cuadro) : Prop :=
  cuadro.falling = true → 1 ≤ cuadro.currentRepeticiones ∧
    cuadro.currentRepeticiones ≤ repeticiones

/-! ## The coil -/

/-- The coil is energised inside a stroke, strokes are made by a falling picture,
and a picture falls while it has strokes left. -/
structure Sequenced (cuadro : Cuadro) : Prop where
  energised : cuadro.solenoid = high ↔ cuadro.adentro = true
  within : cuadro.adentro = true → cuadro.falling = true
  counted : cuadro.falling = true ↔
    1 ≤ cuadro.currentRepeticiones ∧ cuadro.currentRepeticiones ≤ repeticiones

section Strokes

variable {cuadro : Cuadro}

theorem step_iterate (cuadro : Cuadro) :
    node.machine.step cuadro (.iterate ()) = loop () { cuadro with out := [] } :=
  rfl

/-- The first half of a stroke. -/
theorem step_energise (falls : cuadro.falling = true)
    (outside : cuadro.adentro = false)
    (left : cuadro.currentRepeticiones ≠ 0) :
    node.machine.step cuadro (.iterate ()) =
      { cuadro with solenoid := high, adentro := true, out := [] } := by
  simp [step_iterate, loop, stroke, falls, outside, left]

/-- The second half of a stroke which is not the last one. -/
theorem step_release (falls : cuadro.falling = true)
    (inside : cuadro.adentro = true)
    (more : cuadro.currentRepeticiones ≠ 1) :
    node.machine.step cuadro (.iterate ()) =
      { cuadro with
        solenoid := low
        adentro := false
        currentRepeticiones := cuadro.currentRepeticiones - 1
        out := [] } := by
  have left : cuadro.currentRepeticiones - 1 ≠ 0 := by omega
  simp [step_iterate, loop, stroke, falls, inside, left]

/-- The end of the last stroke. -/
theorem step_last (falls : cuadro.falling = true)
    (inside : cuadro.adentro = true)
    (last : cuadro.currentRepeticiones = 1) :
    node.machine.step cuadro (.iterate ()) =
      handleReset { cuadro with out := [] } := by
  simp [step_iterate, loop, stroke, falls, inside, last, handleReset, emit]

theorem step_still (still : cuadro.falling = false) :
    node.machine.step cuadro (.iterate ()) = { cuadro with out := [] } := by
  simp [step_iterate, loop, still]

end Strokes

/-- Every turn keeps the coil in sequence. -/
theorem sequenced_step (cuadro : Cuadro) (turno : Turno Route Unit)
    (sequenced : Sequenced cuadro) :
    Sequenced (node.machine.step cuadro turno) := by
  have rest : ∀ later : Cuadro, later.solenoid = low → later.adentro = false →
      later.falling = false → later.currentRepeticiones = 0 →
      Sequenced later := by
    intro later isLow outside still none
    constructor
    · rw [isLow, outside]
    · rw [outside]
      exact fun inside => absurd inside Bool.false_ne_true
    · rw [still, none]
      decide
  have start : ∀ later : Cuadro, later.solenoid = low → later.adentro = false →
      later.falling = true → later.currentRepeticiones = repeticiones →
      Sequenced later := by
    intro later isLow outside falls all
    constructor
    · rw [isLow, outside]
    · exact fun _ => falls
    · rw [falls, all]
      decide
  cases turno with
  | request route sample =>
      cases route with
      | root => exact ⟨sequenced.energised, sequenced.within, sequenced.counted⟩
      | test => exact ⟨sequenced.energised, sequenced.within, sequenced.counted⟩
      | reset => exact rest _ rfl rfl rfl rfl
      | manual => exact start _ rfl rfl rfl rfl
      | tirar => exact start _ rfl rfl rfl rfl
  | iterate sample =>
      cases falls : cuadro.falling with
      | false =>
          rw [step_still falls]
          exact ⟨sequenced.energised, sequenced.within, sequenced.counted⟩
      | true =>
          obtain ⟨least, most⟩ := sequenced.counted.mp falls
          cases inside : cuadro.adentro with
          | false =>
              rw [step_energise falls inside (by omega)]
              exact ⟨iff_of_true rfl rfl, fun _ => falls, sequenced.counted⟩
          | true =>
              by_cases last : cuadro.currentRepeticiones = 1
              · rw [step_last falls inside last]
                exact rest _ rfl rfl rfl rfl
              · rw [step_release falls inside last]
                refine ⟨iff_of_false Bool.false_ne_true Bool.false_ne_true,
                  fun inside => absurd inside Bool.false_ne_true,
                  iff_of_true falls ⟨?_, ?_⟩⟩
                · change 1 ≤ cuadro.currentRepeticiones - 1
                  omega
                · change cuadro.currentRepeticiones - 1 ≤ repeticiones
                  omega

/-- Some iterations without a request. -/
def iterations (number : Nat) : List (Turno Route Unit) :=
  List.replicate number (.iterate ())

/-- The level of the coil after each of some iterations. -/
def levels (cuadro : Cuadro) (number : Nat) : List Bool :=
  (node.machine.reporting fun cuadro turno =>
    [(node.machine.step cuadro turno).solenoid]).trace cuadro
      (iterations number)

theorem levels_succ (cuadro : Cuadro) (number : Nat) :
    levels cuadro (number + 1) =
      (node.machine.step cuadro (.iterate ())).solenoid ::
        levels (node.machine.step cuadro (.iterate ())) number :=
  rfl

/-- A picture which falls makes all its strokes. -/
theorem levels_falling {cuadro : Cuadro} (falls : cuadro.falling = true)
    (outside : cuadro.adentro = false) {strokes : Nat}
    (left : cuadro.currentRepeticiones = strokes + 1) :
    levels cuadro (2 * (strokes + 1)) =
      (List.replicate (strokes + 1) [high, low]).flatten := by
  induction strokes generalizing cuadro with
  | zero =>
      let raised : Cuadro :=
        { cuadro with solenoid := high, adentro := true, out := [] }
      have up : node.machine.step cuadro (.iterate ()) = raised :=
        step_energise falls outside (by omega)
      have goes : raised.falling = true := falls
      have down := step_last goes rfl left
      rw [levels_succ, up, levels_succ, down]
      rfl
  | succ strokes ih =>
      let raised : Cuadro :=
        { cuadro with solenoid := high, adentro := true, out := [] }
      have up : node.machine.step cuadro (.iterate ()) = raised :=
        step_energise falls outside (by omega)
      have goes : raised.falling = true := falls
      have more : raised.currentRepeticiones ≠ 1 := by
        change cuadro.currentRepeticiones ≠ 1
        omega
      have down := step_release goes rfl more
      have fewer : cuadro.currentRepeticiones - 1 = (strokes : Int) + 1 := by
        omega
      rw [Nat.mul_succ, levels_succ, up, levels_succ, down, List.replicate_succ,
        List.flatten_cons]
      exact congrArg ([high, low] ++ ·) (ih falls rfl fewer)

/-- How many half strokes are left. -/
def halves (cuadro : Cuadro) : Int :=
  if cuadro.falling = true then
    2 * cuadro.currentRepeticiones - (if cuadro.adentro = true then 1 else 0)
  else
    0

theorem halves_of_falling {cuadro : Cuadro} (falls : cuadro.falling = true) :
    halves cuadro = 2 * cuadro.currentRepeticiones -
      (if cuadro.adentro = true then 1 else 0) :=
  if_pos falls

theorem halves_of_still {cuadro : Cuadro} (still : cuadro.falling = false) :
    halves cuadro = 0 :=
  if_neg (Bool.eq_false_iff.mp still)

/-- There are half strokes left while the picture falls, and at most two for each
repetition. -/
theorem Sequenced.halves_bounds {cuadro : Cuadro} (sequenced : Sequenced cuadro) :
    (0 < halves cuadro ↔ cuadro.falling = true) ∧
      0 ≤ halves cuadro ∧ halves cuadro ≤ 2 * repeticiones := by
  have total : repeticiones = 3 := rfl
  cases falls : cuadro.falling with
  | false =>
      rw [halves_of_still falls]
      decide
  | true =>
      obtain ⟨least, most⟩ := sequenced.counted.mp falls
      rw [halves_of_falling falls, eq_self, iff_true]
      split <;> omega

/-- An iteration makes one half stroke, as long as there is one. -/
theorem halves_step {cuadro : Cuadro} (sequenced : Sequenced cuadro) :
    halves (node.machine.step cuadro (.iterate ())) =
      max (halves cuadro - 1) 0 := by
  cases falls : cuadro.falling with
  | false =>
      rw [step_still falls, halves_of_still falls]
      exact halves_of_still falls
  | true =>
      obtain ⟨least, most⟩ := sequenced.counted.mp falls
      rw [halves_of_falling falls]
      cases inside : cuadro.adentro with
      | false =>
          rw [step_energise falls inside (by omega), if_neg Bool.false_ne_true]
          refine Eq.trans (if_pos falls) ?_
          change 2 * cuadro.currentRepeticiones - 1 = _
          omega
      | true =>
          rw [if_pos rfl]
          by_cases last : cuadro.currentRepeticiones = 1
          · rw [step_last falls inside last, last]
            rfl
          · rw [step_release falls inside last]
            refine Eq.trans (if_pos falls) ?_
            change 2 * (cuadro.currentRepeticiones - 1) - 0 = _
            omega

theorem halves_run {cuadro : Cuadro} (sequenced : Sequenced cuadro)
    (number : Nat) :
    halves (node.machine.run cuadro (iterations number)) =
      max (halves cuadro - number) 0 := by
  induction number generalizing cuadro with
  | zero =>
      have := sequenced.halves_bounds
      change halves cuadro = _
      omega
  | succ number ih =>
      have later := ih (sequenced_step cuadro (.iterate ()) sequenced)
      rw [halves_step sequenced] at later
      change halves (node.machine.run (node.machine.step cuadro (.iterate ()))
        (iterations number)) = _
      omega

theorem sequenced_after (turnos : List (Turno Route Unit)) :
    Sequenced (node.after turnos) := by
  apply node.machine.run_invariant sequenced_step
  exact ⟨Iff.rfl, fun inside => inside, by decide⟩

/-- The coil is energised in sequence in every run, a request makes all its
strokes, and without further requests the coil rests after the iterations which
these take. -/
theorem solenoid_sequenced (turnos : List (Turno Route Unit)) :
    Sequenced (node.after turnos) ∧
      levels (node.after (turnos ++ [.request .tirar ()]))
          (2 * repeticiones.toNat) =
        (List.replicate repeticiones.toNat [high, low]).flatten ∧
      ∀ number ≥ 2 * repeticiones.toNat,
        (node.after (turnos ++ iterations number)).falling = false ∧
          (node.after (turnos ++ iterations number)).solenoid = low := by
  refine ⟨sequenced_after turnos, ?_, ?_⟩
  · have pulled : node.after (turnos ++ [.request .tirar ()]) =
        handleManual { node.after turnos with out := [] } :=
      node.machine.run_append node.setup turnos [.request .tirar ()]
    rw [pulled]
    exact levels_falling rfl rfl rfl
  · intro number enough
    have total : 2 * repeticiones.toNat = 6 := rfl
    have atMost := (sequenced_after turnos).halves_bounds.2.2
    have left := halves_run (sequenced_after turnos) number
    have sequenced := sequenced_after (turnos ++ iterations number)
    have same : node.after (turnos ++ iterations number) =
        node.machine.run (node.after turnos) (iterations number) :=
      node.machine.run_append node.setup turnos (iterations number)
    have most : 2 * repeticiones = 6 := rfl
    have none : ¬ 0 < halves (node.after (turnos ++ iterations number)) := by
      rw [same]
      omega
    rw [sequenced.halves_bounds.1, Bool.not_eq_true] at none
    refine ⟨none, Bool.eq_false_iff.mpr fun isHigh => ?_⟩
    have falls := sequenced.within (sequenced.energised.mp isHigh)
    exact absurd (none.symm.trans falls) Bool.false_ne_true

end Cuadro

end Salsipuedes

import Salsipuedes.Portal

/-!
# The portal without a network

The `portal-offline` sketch shows the animations of the portal one after the other,
each for the same number of iterations.  Its labels are compared in two places: the
dispatcher waits for `pulso`, but the phase which comes after `cold` is called
`pulse`, so that nothing is animated in one phase out of four.
-/

namespace Salsipuedes

open Maquina (CRGB)

namespace PortalOffline

/-- The values of `fase` which the sketch compares or assigns. -/
inductive Fase where
  | off
  | start
  | red
  | cold
  | pulso
  | pulse
  deriving DecidableEq

def totalPulso : Int := 500

end PortalOffline

open PortalOffline in
structure PortalOffline extends Portal.Anillo where
  state : Nat
  fase : Fase
  tiempoPulso : Int
  intensidadPulso : Int
  counter : Int
  out : List NodeEvent
  deriving DecidableEq

namespace PortalOffline

open Portal (Animacion pixelsInCircle stripColor)

def showStrip (portal : PortalOffline) : PortalOffline :=
  { portal with out := portal.out ++ [.show portal.strip 255] }

/-! ## Animations -/

def updateRedFlow (portal : PortalOffline) : PortalOffline :=
  { portal with toAnillo := portal.toAnillo.updateRedFlow }

def updateRedWheel (portal : PortalOffline) : PortalOffline :=
  { portal with toAnillo := portal.toAnillo.updateRedWheel }

def updateColdFlow (portal : PortalOffline) : PortalOffline :=
  { portal with toAnillo := portal.toAnillo.updateColdFlow }

/-- The pulse swells and fades twice, and does not count its time. -/
def updatePulso (portal : PortalOffline) : PortalOffline :=
  let step : Int :=
    if portal.tiempoPulso > totalPulso / 4 * 3 then 1
    else if portal.tiempoPulso > totalPulso / 2 then -1
    else if portal.tiempoPulso > totalPulso / 4 then 1
    else -1
  let intensidad := toInt 32 (portal.intensidadPulso + step)
  { portal with
    intensidadPulso := intensidad
    toAnillo := portal.toAnillo.setPixels fun _ => stripColor 0 0 intensidad }

/-! ## Loop -/

/-- The animation which an iteration runs. -/
def shown (portal : PortalOffline) : Option Animacion :=
  if portal.state = 1 then
    if portal.fase = .start then some .redWheel
    else if portal.fase = .red then some .redFlow
    else if portal.fase = .cold then some .coldFlow
    else if portal.fase = .pulso then some .pulso
    else none
  else
    none

def update : Animacion → PortalOffline → PortalOffline
  | .redWheel => updateRedWheel
  | .redFlow => updateRedFlow
  | .coldFlow => updateColdFlow
  | .pulso => updatePulso

/-- The first half of the body of `loop`. -/
def animate (portal : PortalOffline) : PortalOffline :=
  match portal.shown with
  | some animacion => update animacion portal
  | none => portal

/-- The second half of the body of `loop`: the next phase. -/
def advance (portal : PortalOffline) : PortalOffline :=
  let portal := { portal with counter := toInt 32 (portal.counter + 1) }
  if portal.counter > 1000 then
    if portal.fase = .start then { portal with fase := .red, counter := 0 }
    else if portal.fase = .red then { portal with fase := .cold, counter := 0 }
    else if portal.fase = .cold then
      { portal with fase := .pulse, counter := 0 }
    else if portal.fase = .pulse then
      { portal with fase := .start, counter := 0 }
    else portal
  else
    portal

/-- The body of `loop`. -/
def loop (portal : PortalOffline) : PortalOffline :=
  portal.animate.showStrip.advance

def setup : PortalOffline where
  state := 1
  fase := .start
  pos := 0
  tiempoPulso := 0
  intensidadPulso := 255
  counter := 0
  strip := (List.range pixelsInCircle).map fun _ => CRGB.black
  out := [.println "HTTP server started",
    .show ((List.range pixelsInCircle).map fun _ => CRGB.black) 255]

/-- The sketch as a machine which emits the effects of each iteration. -/
def machine : MealyMachine PortalOffline Unit NodeEvent where
  step portal _ := loop { portal with out := [] }
  emit portal _ := (loop { portal with out := [] }).out

/-- The globals after some iterations from power-up. -/
def after (iterations : Nat) : PortalOffline :=
  machine.run setup (List.replicate iterations ())

/-! ## The cycle of the phases -/

/-- The animations in the order in which they are meant to be shown. -/
def turn : Nat → Animacion
  | 0 => .redWheel
  | 1 => .redFlow
  | 2 => .coldFlow
  | _ => .pulso

/-- The labels which the dispatcher handles. -/
def Handled (fase : Fase) : Prop :=
  fase = .start ∨ fase = .red ∨ fase = .cold ∨ fase = .pulso

instance (fase : Fase) : Decidable (Handled fase) :=
  inferInstanceAs (Decidable (_ ∨ _))

/-- After some iterations `fase` is handled, and the next iteration runs the update
function of the animation whose turn it is: each has 1001 iterations. -/
def ShowsInTurn (iterations : Nat) : Prop :=
  Handled (after iterations).fase ∧
    (after iterations).shown = some (turn (iterations / 1001 % 4))

/-- The labels which `advance` goes through. -/
def phase : Nat → Fase
  | 0 => .start
  | 1 => .red
  | 2 => .cold
  | _ => .pulse

theorem animate_control (portal : PortalOffline) :
    portal.animate.state = portal.state ∧ portal.animate.fase = portal.fase ∧
      portal.animate.counter = portal.counter := by
  unfold animate
  split
  · rename_i animacion _
    cases animacion <;> exact ⟨rfl, rfl, rfl⟩
  · exact ⟨rfl, rfl, rfl⟩

theorem after_succ (iterations : Nat) :
    after (iterations + 1) = loop { after iterations with out := [] } := by
  rw [after, List.replicate_succ', MealyMachine.run_append]
  rfl

/-- An iteration within a phase counts. -/
theorem loop_counts (portal : PortalOffline) {count : Nat}
    (counted : portal.counter = count) (within : count < 1000) :
    (loop portal).state = portal.state ∧ (loop portal).fase = portal.fase ∧
      (loop portal).counter = count + 1 := by
  obtain ⟨state, fase, counter⟩ := animate_control portal
  have next : toInt 32 (portal.animate.showStrip.counter + 1) = count + 1 := by
    change toInt 32 (portal.animate.counter + 1) = _
    rw [counter, counted]
    exact toInt_of_small (by omega) (by omega)
  rw [loop, advance, next, if_neg (by simp; omega)]
  exact ⟨state, fase, rfl⟩

/-- The last iteration of a phase goes on to the next one. -/
theorem loop_advances (portal : PortalOffline) {number : Nat}
    (counted : portal.counter = 1000) (named : portal.fase = phase number)
    (proper : number < 4) :
    (loop portal).state = portal.state ∧
      (loop portal).fase = phase ((number + 1) % 4) ∧
      (loop portal).counter = 0 := by
  obtain ⟨state, fase, counter⟩ := animate_control portal
  have next : toInt 32 (portal.animate.showStrip.counter + 1) = 1001 := by
    change toInt 32 (portal.animate.counter + 1) = _
    rw [counter, counted]
    rfl
  have label : portal.animate.showStrip.fase = phase number :=
    fase.trans named
  rw [loop, advance, next, if_pos (by decide : (1001 : Int) > 1000), label]
  interval_cases number
  all_goals exact ⟨state, rfl, rfl⟩

/-- After some iterations, the number of whole phases says which one it is, and the
rest how much of it has passed. -/
theorem control_after (iterations : Nat) :
    (after iterations).state = 1 ∧
      (after iterations).fase = phase (iterations / 1001 % 4) ∧
      (after iterations).counter = (iterations % 1001 : Nat) := by
  induction iterations with
  | zero => exact ⟨rfl, rfl, rfl⟩
  | succ iterations ih =>
      obtain ⟨state, fase, counter⟩ := ih
      rw [after_succ]
      by_cases within : iterations % 1001 < 1000
      · have samePhase : (iterations + 1) / 1001 = iterations / 1001 := by omega
        have more : (iterations + 1) % 1001 = iterations % 1001 + 1 := by omega
        obtain ⟨state', fase', counter'⟩ :=
          loop_counts { after iterations with out := [] } counter within
        rw [samePhase, more]
        exact ⟨state'.trans state, fase'.trans fase, counter'⟩
      · have full : iterations % 1001 = 1000 := by omega
        have nextPhase : (iterations + 1) / 1001 % 4 =
            (iterations / 1001 % 4 + 1) % 4 := by omega
        have fresh : (iterations + 1) % 1001 = 0 := by omega
        rw [full] at counter
        obtain ⟨state', fase', counter'⟩ :=
          loop_advances { after iterations with out := [] } counter fase
            (Nat.mod_lt _ (by decide))
        rw [nextPhase, fresh]
        exact ⟨state'.trans state, fase', counter'⟩

/-- The animations are shown in turn exactly in the first three phases out of
four. -/
theorem phases_cycle (iterations : Nat) :
    ShowsInTurn iterations ↔ iterations % 4004 < 3003 := by
  obtain ⟨state, fase, -⟩ := control_after iterations
  have number : iterations % 4004 < 3003 ↔ iterations / 1001 % 4 < 3 := by
    omega
  have proper : iterations / 1001 % 4 < 4 := Nat.mod_lt _ (by decide)
  rw [ShowsInTurn, shown, if_pos state, fase, number]
  interval_cases iterations / 1001 % 4
  all_goals decide

/-- After `cold` comes a phase which the dispatcher does not know. -/
theorem phase_not_handled : ¬ ShowsInTurn 3003 := by
  rintro ⟨handled, -⟩
  rw [(control_after 3003).2.1] at handled
  revert handled
  decide

end PortalOffline

end Salsipuedes

import Salsipuedes.Portal

/-!
# The position on the ring

The three animations of the ring share the position `pos`.  The wheel wraps it
around, but the two flows only add one to it: `pos += 1 % strip.numPixels()` takes
the remainder of the one.  A flow which runs at the last pixel therefore leaves the
ring, and only a wheel or a reset request brings the position back.
-/

namespace Salsipuedes

namespace Portal

/-- The next iteration runs one of the two flows. -/
def CallsFlow (portal : Portal) : Prop :=
  portal.shown = some .redFlow ∨ portal.shown = some .coldFlow

/-- The next iteration turns the wheel. -/
def CallsWheel (portal : Portal) : Prop :=
  portal.shown = some .redWheel

instance (portal : Portal) : Decidable portal.CallsFlow :=
  inferInstanceAs (Decidable (_ ∨ _))

instance (portal : Portal) : Decidable portal.CallsWheel :=
  inferInstanceAs (Decidable (_ = _))

def InRing (pos : Int) : Prop :=
  0 ≤ pos ∧ pos < pixelsInCircle

instance (pos : Int) : Decidable (InRing pos) :=
  inferInstanceAs (Decidable (_ ∧ _))

/-- A turn leaves the position on the ring, an animation goes once around the ring
in as many iterations as it has pixels, and no index is truncated which is passed to
the color of a flow. -/
def KeepsRing (portal : Portal) (turno : Turno Route Unit) : Prop :=
  InRing (node.machine.step portal turno).pos ∧
    match turno with
    | .request _ _ => True
    | .iterate _ =>
        (portal.CallsFlow ∨ portal.CallsWheel →
          (node.machine.step portal turno).pos =
            (portal.pos + 1) % pixelsInCircle) ∧
        (portal.CallsFlow → ∀ i < pixelsInCircle,
          (toByte (place portal.pos i) : Int) = i + portal.pos)

/-- No flow runs at the last pixel of the ring. -/
def LeavesFlow (portal : Portal) : Turno Route Unit → Prop
  | .request _ _ => True
  | .iterate _ => portal.CallsFlow → portal.pos + 1 ≠ pixelsInCircle

theorem updatePulso_pos (portal : Portal) :
    portal.updatePulso.pos = portal.pos := by
  unfold updatePulso
  dsimp only
  split <;> rfl

section Iterations

variable {portal : Portal}

/-- An iteration moves the position by the animation which it shows. -/
theorem step_pos (portal : Portal) :
    (node.machine.step portal (.iterate ())).pos =
      match portal.shown with
      | some animacion => (update animacion portal).pos
      | none => portal.pos := by
  have silent : shown { portal with out := [] } = portal.shown := rfl
  change (loop () { portal with out := [] }).pos = _
  rw [loop, silent]
  cases portal.shown with
  | none => rfl
  | some animacion =>
      cases animacion with
      | redWheel | redFlow | coldFlow => rfl
      | pulso => exact (updatePulso_pos _).trans (updatePulso_pos portal).symm

theorem step_pos_flow (flows : portal.CallsFlow) :
    (node.machine.step portal (.iterate ())).pos =
      toInt 32 (portal.pos + 1) := by
  rw [step_pos]
  rcases flows with red | cold
  · rw [red]
    rfl
  · rw [cold]
    rfl

theorem step_pos_wheel (turns : portal.CallsWheel) :
    (node.machine.step portal (.iterate ())).pos =
      (toInt 32 (portal.pos + 1)).tmod pixelsInCircle := by
  rw [step_pos, show portal.shown = some .redWheel from turns]
  rfl

theorem step_pos_still (noFlow : ¬ portal.CallsFlow)
    (noWheel : ¬ portal.CallsWheel) :
    (node.machine.step portal (.iterate ())).pos = portal.pos := by
  rw [step_pos]
  cases animation : portal.shown with
  | none => rfl
  | some animacion =>
      cases animacion with
      | redWheel => exact absurd animation noWheel
      | redFlow => exact absurd (.inl animation) noFlow
      | coldFlow => exact absurd (.inr animation) noFlow
      | pulso => exact updatePulso_pos portal

end Iterations

theorem handle_pos (route : Route) (portal : Portal) :
    (handle route () portal).pos = portal.pos ∨
      (handle route () portal).pos = 0 := by
  cases route with
  | reset => exact .inr rfl
  | root | test | manual | on | off | shutdown | red | cold | pulso =>
      exact .inl rfl

/-- A flow shows the colors of the positions on the ring, without truncation. -/
theorem InRing.byte {pos : Int} (inRing : InRing pos) {i : Nat}
    (pixel : i < pixelsInCircle) : (toByte (place pos i) : Int) = i + pos := by
  have size : pixelsInCircle = 61 := rfl
  obtain ⟨least, most⟩ := inRing
  unfold toByte place
  omega

theorem InRing.next {pos : Int} (inRing : InRing pos) :
    toInt 32 (pos + 1) = pos + 1 := by
  have size : pixelsInCircle = 61 := rfl
  obtain ⟨least, most⟩ := inRing
  exact toInt_of_small (by omega) (by omega)

/-- The wheel wraps the position around the ring. -/
theorem InRing.wheel {pos : Int} (inRing : InRing pos) :
    (toInt 32 (pos + 1)).tmod pixelsInCircle =
      (pos + 1) % pixelsInCircle := by
  rw [inRing.next]
  exact Int.tmod_eq_emod_of_nonneg (by have := inRing.1; omega)

theorem inRing_emod (pos : Int) : InRing (pos % pixelsInCircle) :=
  ⟨Int.emod_nonneg _ (by decide), Int.emod_lt_of_pos _ (by decide)⟩

theorem step_request_pos (portal : Portal) (route : Route) :
    (node.machine.step portal (.request route ())).pos = portal.pos ∨
      (node.machine.step portal (.request route ())).pos = 0 :=
  handle_pos route { portal with out := [] }

/-- From a position on the ring, a turn keeps to the ring exactly when it is not a
flow at the last pixel. -/
theorem keepsRing_iff (portal : Portal) (turno : Turno Route Unit)
    (inRing : InRing portal.pos) :
    KeepsRing portal turno ↔ LeavesFlow portal turno := by
  have size : pixelsInCircle = 61 := rfl
  cases turno with
  | request route sample =>
      refine iff_of_true ⟨?_, trivial⟩ trivial
      rcases step_request_pos portal route with same | cleared
      · rw [same]
        exact inRing
      · rw [cleared]
        decide
  | iterate sample =>
      have least := inRing.1
      by_cases flows : portal.CallsFlow
      · have next := (step_pos_flow flows).trans inRing.next
        constructor
        · rintro ⟨⟨_, below⟩, _⟩ _ last
          rw [next] at below
          omega
        · intro leaves
          have inside := leaves flows
          refine ⟨?_, ?_, fun _ i pixel => inRing.byte pixel⟩
          · rw [next]
            have most := inRing.2
            exact ⟨by omega, by omega⟩
          · intro _
            have most := inRing.2
            rw [next, Int.emod_eq_of_lt (by omega) (by omega)]
      · refine iff_of_true ⟨?_, ?_, fun calls => absurd calls flows⟩
          fun calls => absurd calls flows
        · by_cases turns : portal.CallsWheel
          · rw [step_pos_wheel turns, inRing.wheel]
            exact inRing_emod _
          · rw [step_pos_still flows turns]
            exact inRing
        · rintro (calls | turns)
          · exact absurd calls flows
          · rw [step_pos_wheel turns]
            exact inRing.wheel

/-- In a run the position stays on the ring exactly when no flow runs at the last
pixel. -/
theorem ring_kept (turnos : List (Turno Route Unit)) :
    node.machine.Along KeepsRing node.setup turnos ↔
      node.machine.Along LeavesFlow node.setup turnos := by
  have initially : InRing node.setup.pos := by decide
  apply node.machine.along_iff_of_invariant keepsRing_iff ?_ initially
  intro portal turno leaves inRing
  exact ((keepsRing_iff portal turno inRing).mpr leaves).1

/-- A red flow which runs once around the ring leaves it. -/
theorem ring_left :
    ¬ node.machine.Along KeepsRing node.setup
      (.request .red () :: List.replicate 61 (.iterate ())) := by
  have split : Turno.request Route.red () :: List.replicate 61 (.iterate ()) =
      (.request .red () :: List.replicate 60 (.iterate ())) ++
        [.iterate ()] := rfl
  rw [split, MealyMachine.along_append]
  rintro ⟨_, ⟨inRing, _⟩, _⟩
  revert inRing
  decide +kernel

end Portal

end Salsipuedes

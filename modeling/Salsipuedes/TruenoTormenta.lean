import Salsipuedes.Trueno

/-!
# The thunder

All light comes from the requests for a thunder: each shows a few grey shapes, and
each shape a few flashes at full brightness, dimmed and off.  Before and after them
the strip is dark.
-/

namespace Salsipuedes

open Maquina (CRGB)

/-- A call of `FastLED.show`. -/
def NodeEvent.isShow : NodeEvent → Bool
  | .show _ _ => true
  | _ => false

namespace Trueno

/-- The strip without light. -/
def oscuro : List CRGB :=
  List.replicate numLeds CRGB.black

/-- A shape, and the brightness to which each of its flashes is dimmed. -/
structure Forma where
  leds : List CRGB
  dims : List Nat

/-- The frames of a flash. -/
def destello (leds : List CRGB) (dim : Nat) : List NodeEvent :=
  [.show leds 255, .show leds dim, .show leds 0]

/-- The frames of a shape, the first of them at the brightness left before. -/
def Forma.frames (brightness : Nat) (forma : Forma) : List NodeEvent :=
  .show forma.leds brightness :: forma.dims.flatMap (destello forma.leds)

/-- The frames of some shapes. -/
def frames (brightness : Nat) : List Forma → List NodeEvent
  | [] => []
  | forma :: formas => forma.frames brightness ++ frames 0 formas

/-- A shape as it may be drawn: ten grey pixels whose light is the square of a
number below 15, and one to nine flashes. -/
structure Forma.Drawn (forma : Forma) : Prop where
  length : forma.leds.length = numLeds
  gray : ∀ pixel ∈ forma.leds, ∃ root : Nat, root < 15 ∧
    pixel = ⟨(root ^ 2 : Nat), (root ^ 2 : Nat), (root ^ 2 : Nat)⟩
  flashes : 1 ≤ forma.dims.length ∧ forma.dims.length ≤ 9
  dimmed : ∀ dim ∈ forma.dims, 5 ≤ dim ∧ dim < 100

/-- A thunder: two to four shapes. -/
structure Tormenta (formas : List Forma) : Prop where
  drawn : ∀ forma ∈ formas, forma.Drawn
  few : 2 ≤ formas.length ∧ formas.length ≤ 4

/-! ## What a thunder shows -/

/-- The shape which a sample draws. -/
def forma (sample : Sample) (shape : Nat) : Forma where
  leds := (List.range numLeds).map fun i =>
    let lum : Nat := (random 0 (Nat.sqrt 255) (sample.lum shape i)).toNat ^ 2
    ⟨lum, lum, lum⟩
  dims := (List.range (random 1 10 (sample.repetitions shape)).toNat).map
    fun flash => toByte (random 5 100 (sample.flash shape flash))

theorem forma_drawn (sample : Sample) (shape : Nat) :
    (forma sample shape).Drawn where
  length := by simp [forma]
  gray := by
    intro pixel member
    obtain ⟨i, _, rfl⟩ := List.mem_map.mp member
    have root : 15 = Nat.sqrt 255 := Nat.eq_sqrt.mpr ⟨by decide, by decide⟩
    have least := @random_lower 0 (Nat.sqrt 255) (sample.lum shape i)
    have most := @random_upper 0 (Nat.sqrt 255) (by omega) (sample.lum shape i)
    refine ⟨(random 0 (Nat.sqrt 255) (sample.lum shape i)).toNat, ?_, rfl⟩
    omega
  flashes := by
    have least := @random_lower 1 10 (sample.repetitions shape)
    have most := @random_upper 1 10 (by decide) (sample.repetitions shape)
    simp only [forma, List.length_map, List.length_range]
    omega
  dimmed := by
    intro dim member
    obtain ⟨flash, _, rfl⟩ := List.mem_map.mp member
    have least := @random_lower 5 100 (sample.flash shape flash)
    have most := @random_upper 5 100 (by decide) (sample.flash shape flash)
    unfold toByte
    omega

theorem flashOnce_out (sample : Sample) (shape flash : Nat) (trueno : Trueno) :
    (flashOnce sample shape flash trueno).out = trueno.out ++
      destello trueno.leds (toByte (random 5 100 (sample.flash shape flash))) := by
  change ((trueno.out ++ [_]) ++ [_]) ++ [_] = _
  rw [List.append_assoc, List.append_assoc]
  rfl

/-- The flashes of a shape are shown one after the other, and the last one is
off. -/
theorem foldl_flashOnce (sample : Sample) (shape : Nat) (flashes : List Nat)
    (trueno : Trueno) :
    let last := flashes.foldl
      (fun trueno flash => flashOnce sample shape flash trueno) trueno
    last.out = trueno.out ++
        (flashes.map fun flash =>
          toByte (random 5 100 (sample.flash shape flash))).flatMap
          (destello trueno.leds) ∧
      last.truenoCounter = trueno.truenoCounter ∧
      (flashes ≠ [] → last.brightness = 0) := by
  induction flashes generalizing trueno with
  | nil => simp
  | cons flash flashes ih =>
      let next := flashOnce sample shape flash trueno
      obtain ⟨out, counter, brightness⟩ := ih next
      refine ⟨?_, counter, fun _ => ?_⟩
      · rw [List.foldl_cons, List.map_cons, List.flatMap_cons,
          ← List.append_assoc, ← flashOnce_out]
        exact out
      · rw [List.foldl_cons]
        cases flashes with
        | nil => rfl
        | cons other flashes => exact brightness (List.cons_ne_nil _ _)

/-- A shape shows its frames and leaves the strip at no brightness. -/
theorem showShape_out (sample : Sample) (shape : Nat) (trueno : Trueno) :
    let last := showShape sample shape trueno
    last.out = trueno.out ++ (forma sample shape).frames trueno.brightness ∧
      last.truenoCounter = trueno.truenoCounter ∧ last.brightness = 0 := by
  intro last
  let shaped := (applyShape (newShapeTrueno (sample.lum shape) trueno)).showLeds
  have leds : shaped.leds = (forma sample shape).leds := by
    change List.map _ (List.flatMap (fun lum : Nat => [(lum : Int)])
      (List.map _ _)) = _
    rw [← List.map_eq_flatMap, List.map_map, List.map_map]
    rfl
  have first : shaped.out =
      trueno.out ++ [.show (forma sample shape).leds trueno.brightness] := by
    rw [← leds]
    rfl
  obtain ⟨out, counter, brightness⟩ := foldl_flashOnce sample shape
    (List.range (random 1 10 (sample.repetitions shape)).toNat) shaped
  refine ⟨?_, counter, brightness ?_⟩
  · rw [first, leds, List.append_assoc] at out
    exact out
  · have least := @random_lower 1 10 (sample.repetitions shape)
    rw [Ne, List.range_eq_nil]
    omega

/-- The shapes are shown one after the other. -/
theorem foldl_showShape (sample : Sample) (shapes : List Nat) (trueno : Trueno) :
    let last := shapes.foldl
      (fun trueno shape => showShape sample shape trueno) trueno
    last.out = trueno.out ++
        frames trueno.brightness (shapes.map (forma sample)) ∧
      last.truenoCounter = trueno.truenoCounter ∧
      (shapes ≠ [] → last.brightness = 0) := by
  induction shapes generalizing trueno with
  | nil => simp [frames]
  | cons shape shapes ih =>
      let next := showShape sample shape trueno
      obtain ⟨shown, kept, off⟩ := showShape_out sample shape trueno
      obtain ⟨out, counter, brightness⟩ := ih next
      refine ⟨?_, counter.trans kept, fun _ => ?_⟩
      · rw [List.foldl_cons, List.map_cons, frames, ← List.append_assoc,
          ← shown, ← off]
        exact out
      · rw [List.foldl_cons]
        cases shapes with
        | nil => exact off
        | cons other shapes => exact brightness (List.cons_ne_nil _ _)

/-- The shapes which a request draws. -/
def formas (sample : Sample) : List Forma :=
  (List.range (random 2 5 sample.shapes).toNat).map (forma sample)

theorem formas_tormenta (sample : Sample) : Tormenta (formas sample) where
  drawn := by
    intro forma member
    obtain ⟨shape, _, rfl⟩ := List.mem_map.mp member
    exact forma_drawn sample shape
  few := by
    have least := @random_lower 2 5 sample.shapes
    have most := @random_upper 2 5 (by decide) sample.shapes
    rw [formas, List.length_map, List.length_range]
    omega

theorem updateTrueno_out (sample : Sample) (trueno : Trueno) :
    let last := updateTrueno sample trueno
    last.out = trueno.out ++
        (frames trueno.brightness (formas sample) ++ [.show oscuro 0]) ∧
      last.truenoCounter = trueno.truenoCounter ∧ last.brightness = 0 := by
  intro last
  let shapes := List.range (random 2 5 sample.shapes).toNat
  let shown := shapes.foldl
    (fun trueno shape => showShape sample shape trueno) trueno
  obtain ⟨out, counter, brightness⟩ := foldl_showShape sample shapes trueno
  have off : shown.brightness = 0 := by
    have least := @random_lower 2 5 sample.shapes
    refine brightness ?_
    rw [Ne, List.range_eq_nil]
    omega
  have ends : last.out = shown.out ++ [.show oscuro shown.brightness] := rfl
  refine ⟨?_, counter, off⟩
  rw [ends, off, ← List.append_assoc]
  exact congrArg (· ++ _) out

theorem frames_length {formas : List Forma}
    (drawn : ∀ forma ∈ formas, forma.Drawn) (brightness : Nat) :
    4 * formas.length ≤ (frames brightness formas).length ∧
      (frames brightness formas).length ≤ 28 * formas.length := by
  have flash (leds : List CRGB) (dims : List Nat) :
      (dims.flatMap (destello leds)).length = 3 * dims.length := by
    induction dims with
    | nil => rfl
    | cons dim dims ih =>
        rw [List.flatMap_cons, List.length_append, ih, List.length_cons]
        change 3 + _ = _
        omega
  induction formas generalizing brightness with
  | nil => exact ⟨le_refl 0, le_refl 0⟩
  | cons forma formas ih =>
      have here := (drawn forma List.mem_cons_self).flashes
      have rest := ih (fun other member =>
        drawn other (List.mem_cons_of_mem _ member)) 0
      have size : (forma.frames brightness).length =
          3 * forma.dims.length + 1 := congrArg (· + 1) (flash _ _)
      rw [frames, List.length_append, size, List.length_cons]
      omega

theorem frames_shown (brightness : Nat) (formas : List Forma) :
    (frames brightness formas).filter NodeEvent.isShow =
      frames brightness formas := by
  have flash (leds : List CRGB) (dims : List Nat) :
      (dims.flatMap (destello leds)).filter NodeEvent.isShow =
        dims.flatMap (destello leds) := by
    induction dims with
    | nil => rfl
    | cons dim dims ih =>
        rw [List.flatMap_cons, List.filter_append, ih]
        rfl
  induction formas generalizing brightness with
  | nil => rfl
  | cons forma formas ih =>
      rw [frames, List.filter_append, ih, Forma.frames,
        List.filter_cons_of_pos rfl, flash]

/-! ## Runs -/

/-- The requests which show a thunder. -/
def isTrueno : Turno Route Sample → Bool
  | .request .trueno _ => true
  | _ => false

/-- What a turn shows: a thunder, or at most the dark strip. -/
def Luz (trueno : Trueno) (shown : List NodeEvent) :
    Turno Route Sample → Prop
  | .request .trueno _ => ∃ formas, Tormenta formas ∧
      shown = frames trueno.brightness formas ++ [.show oscuro 0] ∧
      9 ≤ shown.length ∧ shown.length ≤ 113
  | .request .reset _ => shown = [.show oscuro trueno.brightness]
  | .request _ _ => shown = []
  | .iterate _ =>
      shown = if trueno.truenoCounter > 0 then []
        else [.show oscuro trueno.brightness]

/-- The strip is dark, and the counter is in its range. -/
structure Quiet (trueno : Trueno) : Prop where
  leds : trueno.leds = oscuro
  least : 0 ≤ trueno.truenoCounter
  most : trueno.truenoCounter ≤ 1000

/-- A thunder between the answers of its request. -/
theorem handleTrueno_out (sample : Sample) (trueno : Trueno) :
    let last := handleTrueno sample { trueno with out := [] }
    last.out.filter NodeEvent.isShow =
        frames trueno.brightness (formas sample) ++ [.show oscuro 0] ∧
      last.truenoCounter = random 100 300 sample.counter ∧
      last.brightness = 0 := by
  intro last
  let counter := random 100 300 sample.counter
  let answered : Trueno :=
    { trueno with
      truenoCounter := counter
      out := [.send 200 "luz de trueno", .print "trueno ",
        .print (toString counter), .send 200 "trueno"] }
  obtain ⟨out, kept, off⟩ := updateTrueno_out sample answered
  have shown : last.out = answered.out ++
      (frames trueno.brightness (formas sample) ++ [.show oscuro 0]) := out
  refine ⟨?_, kept, off⟩
  rw [shown, List.filter_append, List.filter_append, frames_shown]
  rfl

theorem luz_tormenta {trueno : Trueno} {sample : Sample} {formas : List Forma}
    (drawn : Tormenta formas) {shown : List NodeEvent}
    (same : shown = frames trueno.brightness formas ++ [.show oscuro 0]) :
    Luz trueno shown (.request .trueno sample) := by
  have few := drawn.few
  have length := frames_length drawn.drawn trueno.brightness
  have last : shown.length = (frames trueno.brightness formas).length + 1 := by
    rw [same, List.length_append, List.length_singleton]
  exact ⟨formas, drawn, same, by omega, by omega⟩

theorem luz_turn (trueno : Trueno) (turno : Turno Route Sample) :
    Luz trueno ((node.machine.emit trueno turno).filter NodeEvent.isShow)
      turno := by
  cases turno with
  | request route sample =>
      cases route with
      | root | test | reset | manual => rfl
      | trueno =>
          exact luz_tormenta (formas_tormenta sample)
            (handleTrueno_out sample trueno).1
  | iterate sample =>
      change List.filter _ (loop sample { trueno with out := [] }).out = _
      unfold loop
      dsimp only
      split
      · rfl
      · rfl

theorem step_quiet (trueno : Trueno) (turno : Turno Route Sample)
    (quiet : Quiet trueno) : Quiet (node.machine.step trueno turno) := by
  have least := quiet.least
  have most := quiet.most
  cases turno with
  | request route sample =>
      cases route with
      | root | test => exact ⟨quiet.leds, least, most⟩
      | reset =>
          have counter : (0 : Int) ≤ 1000 := by decide
          exact ⟨rfl, le_refl 0, counter⟩
      | manual =>
          have counter : (0 : Int) ≤ 1000 := by decide
          exact ⟨quiet.leds, counter, le_refl 1000⟩
      | trueno =>
          obtain ⟨_, counter, _⟩ := handleTrueno_out sample trueno
          have lower := @random_lower 100 300 sample.counter
          have upper := @random_upper 100 300 (by decide) sample.counter
          change Quiet (handleTrueno sample { trueno with out := [] })
          rw [← counter] at lower upper
          exact ⟨rfl, by omega, by omega⟩
  | iterate sample =>
      change Quiet (loop sample { trueno with out := [] })
      unfold loop
      dsimp only
      split
      · rename_i positive
        refine ⟨quiet.leds, ?_, ?_⟩
        · change 0 ≤ trueno.truenoCounter - 1
          omega
        · change trueno.truenoCounter - 1 ≤ 1000
          omega
      · exact ⟨rfl, least, most⟩

/-- A thunder leaves the strip at no brightness, and nothing else changes it. -/
theorem step_brightness (trueno : Trueno) (turno : Turno Route Sample) :
    (node.machine.step trueno turno).brightness =
      if isTrueno turno = true then 0 else trueno.brightness := by
  cases turno with
  | request route sample =>
      cases route with
      | root | test | reset | manual => rfl
      | trueno => exact (handleTrueno_out sample trueno).2.2
  | iterate sample =>
      change (loop sample { trueno with out := [] }).brightness = _
      unfold loop
      dsimp only
      split
      · rfl
      · rfl

theorem run_brightness (trueno : Trueno) (turnos : List (Turno Route Sample)) :
    (node.machine.run trueno turnos).brightness =
      if turnos.any isTrueno = true then 0 else trueno.brightness := by
  induction turnos generalizing trueno with
  | nil => rfl
  | cons turno turnos ih =>
      rw [MealyMachine.run_cons, ih, step_brightness, List.any_cons]
      cases isTrueno turno <;> simp

/-- In every run the strip is dark between two turns and the counter is in its
range, and only a request for a thunder shows light: 9 to 113 frames of grey shapes,
the last of them dark.  Its first frame is at full brightness after power-up and
unlit after another thunder. -/
theorem light_in_thunder (turnos : List (Turno Route Sample)) :
    Quiet (node.after turnos) ∧
      (node.after turnos).brightness =
        (if turnos.any isTrueno = true then 0 else 255) ∧
      ∀ turno, Luz (node.after turnos)
        ((node.machine.emit (node.after turnos) turno).filter NodeEvent.isShow)
        turno := by
  have quiet : Quiet setup := ⟨rfl, le_refl 0, by decide⟩
  exact ⟨node.machine.run_invariant step_quiet quiet turnos,
    run_brightness setup turnos, luz_turn (node.after turnos)⟩

end Trueno

end Salsipuedes

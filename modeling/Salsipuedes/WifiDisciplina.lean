import Salsipuedes.Cuadro
import Salsipuedes.CuadroRFID
import Salsipuedes.Portal
import Salsipuedes.Silla
import Salsipuedes.TelefonoTubo
import Salsipuedes.Trueno
import Salsipuedes.Velador
import Salsipuedes.WifiHelperMapa

/-!
# Requests and responses

The game controller waits for the answer to each of its requests.  A node keeps
the discipline when a request is answered once and nothing is answered outside of
a request.  For each node this file says exactly which turns do so.
-/

namespace Salsipuedes

/-- The number of responses among some effects. -/
def sends (events : List NodeEvent) : Nat :=
  events.countP NodeEvent.isSend

@[simp]
theorem sends_nil : sends [] = 0 :=
  rfl

@[simp]
theorem sends_append (first second : List NodeEvent) :
    sends (first ++ second) = sends first + sends second :=
  List.countP_append

@[simp]
theorem sends_cons (event : NodeEvent) (events : List NodeEvent) :
    sends (event :: events) = sends events + if event.isSend then 1 else 0 :=
  List.countP_cons

theorem sends_root (info : NodeInfo) : sends info.root = 1 :=
  rfl

theorem sends_test (info : NodeInfo) : sends info.test = 1 :=
  rfl

namespace WifiNode

variable {Global Route Sample : Type} {node : WifiNode Global Route Sample}

theorem answers_request {global : Global} {route : Route} {sample : Sample} :
    node.Answers global (.request route sample) ↔
      sends (node.out (node.handle route sample (node.silence global))) = 1 :=
  Iff.rfl

theorem answers_iterate {global : Global} {sample : Sample} :
    node.Answers global (.iterate sample) ↔
      sends (node.out (node.loop sample (node.silence global))) = 0 :=
  Iff.rfl

end WifiNode

/-! ## The lights -/

namespace Trueno

/-- `/manual` is not answered, and `/trueno` is answered twice. -/
def Answered : Turno Route Sample → Prop
  | .request route _ => route ≠ .manual ∧ route ≠ .trueno
  | .iterate _ => True

theorem sends_foldl {Index : Type} {step : Trueno → Index → Trueno}
    (silent : ∀ trueno index, sends (step trueno index).out = sends trueno.out)
    (indices : List Index) (trueno : Trueno) :
    sends (indices.foldl step trueno).out = sends trueno.out := by
  induction indices generalizing trueno with
  | nil => rfl
  | cons index indices ih => rw [List.foldl_cons, ih, silent]

theorem sends_showLeds (trueno : Trueno) :
    sends trueno.showLeds.out = sends trueno.out := by
  simp [showLeds, emit, NodeEvent.isSend]

theorem sends_showShape (sample : Sample) (trueno : Trueno) (shape : Nat) :
    sends (showShape sample shape trueno).out = sends trueno.out := by
  unfold showShape
  rw [sends_foldl, sends_showLeds]
  · rfl
  · intro trueno flash
    rw [flashOnce, showAt, sends_showLeds]
    apply (sends_showLeds _).trans
    exact sends_showLeds _

theorem sends_updateTrueno (sample : Sample) (trueno : Trueno) :
    sends (updateTrueno sample trueno).out = sends trueno.out := by
  apply (sends_showLeds _).trans
  exact sends_foldl (fun trueno shape => sends_showShape sample trueno shape)
    _ trueno

theorem answers_iff (trueno : Trueno) (turno : Turno Route Sample) :
    node.Answers trueno turno ↔ Answered turno := by
  cases turno with
  | request route sample =>
      rw [WifiNode.answers_request]
      cases route with
      | root => exact iff_of_true (sends_root info) (by simp [Answered])
      | test => exact iff_of_true (sends_test info) (by simp [Answered])
      | reset => exact iff_of_true rfl (by simp [Answered])
      | manual => exact iff_of_false Nat.zero_ne_one (by simp [Answered])
      | trueno =>
          have twice : sends (handleTrueno sample
              { trueno with out := [] }).out = 2 := by
            rw [handleTrueno, sends_updateTrueno]
            rfl
          exact iff_of_false (by
            intro once
            exact absurd (twice.symm.trans once) (by decide)) (by simp [Answered])
  | iterate sample =>
      rw [WifiNode.answers_iterate]
      apply iff_of_true
      · change sends (loop sample { trueno with out := [] }).out = 0
        unfold loop
        split <;> rfl
      · trivial

end Trueno

namespace Velador

/-- `/reset`, `/manual` and `/buzz` are answered twice. -/
def Answered : Turno Route Sample → Prop
  | .request route _ => route ≠ .reset ∧ route ≠ .manual ∧ route ≠ .buzz
  | .iterate _ => True

theorem sends_updateBuzz (sample : Sample) (velador : Velador) :
    sends (updateBuzz sample velador).out = sends velador.out := by
  unfold updateBuzz
  dsimp only
  split
  · simp [emit, paint, NodeEvent.isSend]
  · simp [emit, paint, NodeEvent.isSend]

theorem sends_loop (sample : Sample) (velador : Velador) :
    sends (loop sample velador).out = sends velador.out := by
  unfold loop
  split
  · simp [emit, sends_updateBuzz, NodeEvent.isSend]
  · split
    · simp [emit, settle, paint, NodeEvent.isSend]
    · simp [emit, NodeEvent.isSend]

theorem answers_iff (velador : Velador) (turno : Turno Route Sample) :
    node.Answers velador turno ↔ Answered turno := by
  have twice : (2 : Nat) ≠ 1 := by decide
  cases turno with
  | request route sample =>
      rw [WifiNode.answers_request]
      cases route with
      | root => exact iff_of_true (sends_root info) (by simp [Answered])
      | test => exact iff_of_true (sends_test info) (by simp [Answered])
      | reset => exact iff_of_false twice (by simp [Answered])
      | manual => exact iff_of_false twice (by simp [Answered])
      | buzz => exact iff_of_false twice (by simp [Answered])
      | on => exact iff_of_true rfl (by simp [Answered])
      | off => exact iff_of_true rfl (by simp [Answered])
  | iterate sample =>
      rw [WifiNode.answers_iterate]
      apply iff_of_true
      · exact sends_loop sample _
      · trivial

end Velador

namespace Portal

theorem sends_updatePulso (portal : Portal) :
    sends portal.updatePulso.out = sends portal.out := by
  unfold updatePulso
  dsimp only [setPixels]
  split <;> simp [emit, NodeEvent.isSend]

theorem sends_loop (portal : Portal) :
    sends (loop () portal).out = sends portal.out := by
  have shows (portal : Portal) :
      sends portal.showStrip.out = sends portal.out := by
    simp [showStrip, emit, NodeEvent.isSend]
  rw [loop, shows]
  cases portal.shown with
  | none => rfl
  | some animacion =>
      cases animacion with
      | redWheel | redFlow | coldFlow => rfl
      | pulso => exact sends_updatePulso portal

/-- Every turn of the portal is answered as it should be. -/
theorem answers (portal : Portal) (turno : Turno Route Unit) :
    node.Answers portal turno := by
  cases turno with
  | request route sample =>
      rw [WifiNode.answers_request]
      cases route <;> rfl
  | iterate sample =>
      rw [WifiNode.answers_iterate]
      exact sends_loop _

end Portal

/-! ## The chair, the pictures and the map -/

namespace Silla

theorem sends_loop (contact : Bool) (silla : Silla) :
    sends (loop contact silla).out = sends silla.out := by
  unfold loop reportOff sense announce
  repeat' split
  all_goals simp [emit, NodeEvent.isSend]

/-- Every turn of the chair is answered as it should be. -/
theorem answers (silla : Silla) (turno : Turno Route Bool) :
    node.Answers silla turno := by
  cases turno with
  | request route sample =>
      rw [WifiNode.answers_request]
      cases route <;> rfl
  | iterate sample =>
      rw [WifiNode.answers_iterate]
      exact sends_loop sample _

end Silla

namespace Cuadro

/-- `/manual` and `/tirar` are not answered, and the iteration which ends a fall
answers. -/
def Answered (cuadro : Cuadro) : Turno Route Unit → Prop
  | .request route _ => route ≠ .manual ∧ route ≠ .tirar
  | .iterate _ =>
      ¬ (cuadro.falling = true ∧ cuadro.adentro = true ∧
        cuadro.currentRepeticiones = 1)

/-- The iteration of a falling picture which does not end the fall. -/
theorem loop_shaking {cuadro : Cuadro} (falling : cuadro.falling = true)
    (more : cuadro.stroke.currentRepeticiones ≠ 0) :
    loop () cuadro = cuadro.stroke := by
  rw [loop, if_pos falling]
  exact if_neg more

theorem loop_fallen {cuadro : Cuadro} (falling : cuadro.falling = true)
    (last : cuadro.stroke.currentRepeticiones = 0) :
    loop () cuadro = handleReset cuadro.stroke := by
  rw [loop, if_pos falling]
  exact if_pos last

theorem loop_hanging {cuadro : Cuadro} (hanging : cuadro.falling = false) :
    loop () cuadro = cuadro := by
  rw [loop, if_neg (by simp [hanging])]

theorem stroke_out (cuadro : Cuadro) : cuadro.stroke.out = cuadro.out := by
  unfold stroke
  split <;> rfl

theorem stroke_currentRepeticiones (cuadro : Cuadro) :
    cuadro.stroke.currentRepeticiones =
      if cuadro.adentro = true then cuadro.currentRepeticiones - 1
      else cuadro.currentRepeticiones := by
  cases adentro : cuadro.adentro <;> simp [stroke, adentro]

theorem shaking_loop {cuadro : Cuadro} (shaking : cuadro.Shaking) :
    (loop () cuadro).Shaking := by
  cases falling : cuadro.falling with
  | false =>
      rw [loop_hanging falling]
      exact shaking
  | true =>
      by_cases last : cuadro.stroke.currentRepeticiones = 0
      · rw [loop_fallen falling last]
        intro still
        cases still
      · rw [loop_shaking falling last]
        intro _
        have range := shaking falling
        rw [stroke_currentRepeticiones] at last ⊢
        split
        · rename_i adentro
          rw [if_pos adentro] at last
          omega
        · exact range

theorem shaking_step (cuadro : Cuadro) (turno : Turno Route Unit)
    (shaking : cuadro.Shaking) : (node.machine.step cuadro turno).Shaking := by
  have started : (1 : Int) ≤ repeticiones ∧ repeticiones ≤ repeticiones := by
    decide
  cases turno with
  | request route sample =>
      cases route with
      | root => exact shaking
      | test => exact shaking
      | reset =>
          intro falling
          cases falling
      | manual => exact fun _ => started
      | tirar => exact fun _ => started
  | iterate sample =>
      have silent : Shaking { cuadro with out := [] } := shaking
      exact shaking_loop silent

theorem sends_loop (cuadro : Cuadro) :
    sends (loop () cuadro).out = sends cuadro.out +
      if cuadro.falling = true ∧ cuadro.stroke.currentRepeticiones = 0 then 1
      else 0 := by
  cases falling : cuadro.falling with
  | false => simp [loop_hanging falling]
  | true =>
      by_cases last : cuadro.stroke.currentRepeticiones = 0
      · rw [loop_fallen falling last, if_pos ⟨rfl, last⟩]
        simp [handleReset, emit, stroke_out, NodeEvent.isSend]
      · rw [loop_shaking falling last, stroke_out,
          if_neg (fun ends => last ends.2), Nat.add_zero]

/-- The iteration which ends the fall withdraws the solenoid for the last
time. -/
theorem Shaking.ends_iff {cuadro : Cuadro} (shaking : cuadro.Shaking) :
    cuadro.falling = true ∧ cuadro.stroke.currentRepeticiones = 0 ↔
      cuadro.falling = true ∧ cuadro.adentro = true ∧
        cuadro.currentRepeticiones = 1 := by
  apply and_congr_right
  intro falling
  have range := shaking falling
  rw [stroke_currentRepeticiones]
  split
  · rename_i adentro
    constructor
    · exact fun last => ⟨adentro, by omega⟩
    · exact fun last => by omega
  · rename_i afuera
    constructor
    · exact fun last => by omega
    · exact fun last => absurd last.1 afuera

theorem answers_iff (cuadro : Cuadro) (shaking : cuadro.Shaking)
    (turno : Turno Route Unit) :
    node.Answers cuadro turno ↔ Answered cuadro turno := by
  cases turno with
  | request route sample =>
      rw [WifiNode.answers_request]
      cases route with
      | root => exact iff_of_true (sends_root info) (by simp [Answered])
      | test => exact iff_of_true (sends_test info) (by simp [Answered])
      | reset => exact iff_of_true rfl (by simp [Answered])
      | manual => exact iff_of_false Nat.zero_ne_one (by simp [Answered])
      | tirar => exact iff_of_false Nat.zero_ne_one (by simp [Answered])
  | iterate sample =>
      rw [WifiNode.answers_iterate]
      have silent : Shaking { cuadro with out := [] } := shaking
      have answered := sends_loop { cuadro with out := [] }
      change sends (loop () { cuadro with out := [] }).out = 0 ↔ ¬ _
      rw [answered, if_congr silent.ends_iff rfl rfl]
      split
      · rename_i ends
        exact iff_of_false (by simp) (fun goesOn => goesOn ends)
      · rename_i goesOn
        exact iff_of_true rfl goesOn

end Cuadro

namespace CuadroRFID

/-- `/manual` is not answered. -/
def Answered : Turno Route Sample → Prop
  | .request route _ => route ≠ .manual
  | .iterate _ => True

theorem sends_judge (sample : Sample) (cuadro : CuadroRFID) :
    sends (judge sample cuadro).out = sends cuadro.out := by
  unfold judge
  split
  · simp [emit, NodeEvent.isSend, List.range_succ]
  · simp [emit, NodeEvent.isSend, List.range_succ]

theorem answers_iff (cuadro : CuadroRFID) (turno : Turno Route Sample) :
    node.Answers cuadro turno ↔ Answered turno := by
  cases turno with
  | request route sample =>
      rw [WifiNode.answers_request]
      cases route with
      | root => exact iff_of_true (sends_root info) (by simp [Answered])
      | test => exact iff_of_true (sends_test info) (by simp [Answered])
      | reset => exact iff_of_true rfl (by simp [Answered])
      | manual => exact iff_of_false Nat.zero_ne_one (by simp [Answered])
  | iterate sample =>
      rw [WifiNode.answers_iterate]
      apply iff_of_true
      · change sends (loop sample { cuadro with out := [] }).out = 0
        unfold loop
        split
        · split
          · rfl
          · split
            · rfl
            · exact sends_judge sample _
        · rfl
      · trivial

end CuadroRFID

namespace WifiHelperMapa

/-- Every turn of the helper is answered as it should be. -/
theorem answers (helper : WifiHelperMapa) (turno : Turno Route Text) :
    node.Answers helper turno := by
  cases turno with
  | request route sample =>
      rw [WifiNode.answers_request]
      cases route <;> rfl
  | iterate sample =>
      rw [WifiNode.answers_iterate]
      change sends (loop sample { helper with out := [] }).out = 0
      unfold loop
      dsimp only
      split <;> rfl

end WifiHelperMapa

/-! ## The telephone -/

namespace Telefono

/-- `/manual` is not answered, and the iteration which finds a wrong number
answers. -/
def Answered (telefono : Telefono) : Turno Route Sample → Prop
  | .request route _ => route ≠ .manual
  | .iterate sample =>
      ¬ (telefono.done = false ∧ ¬ telefono.age 4 sample > resetTime ∧
        objectivenum.length ≤ (telefono.numero sample).length ∧
        telefono.numero sample ≠ objectivenum)

/-- The responses among some effects. -/
def response (event : NodeEvent) : Option Unit :=
  if event.isSend then some () else none

theorem unprinted_response : Unprinted response :=
  fun _ => rfl

theorem sends_eq_length (events : List NodeEvent) :
    sends events = (events.filterMap response).length := by
  induction events with
  | nil => rfl
  | cons event events ih =>
      rw [sends_cons, ih, List.filterMap_cons]
      cases isSend : event.isSend <;> simp [response, isSend]

/-- The number is complete, wrong and not late. -/
def Wrong (now : UInt32) (telefono : Telefono) : Prop :=
  telefono.done = false ∧ ¬ telefono.elapsed now > resetTime ∧
    objectivenum.length ≤ telefono.fullnum.length ∧
    telefono.fullnum ≠ objectivenum

/-- The last block of an iteration answers a wrong number. -/
theorem response_verdict (telefono : Telefono) :
    (verdict telefono).said response = telefono.said response ++
      if telefono.done = false ∧
          objectivenum.length ≤ telefono.fullnum.length ∧
          telefono.fullnum ≠ objectivenum then [()]
      else [] := by
  unfold verdict
  by_cases right : telefono.fullnum = objectivenum ∧ telefono.done = false
  · rw [if_pos right, if_neg (fun wrong => wrong.2.2 right.1)]
    exact said_report unprinted_response "WIN" "Got it!" telefono
  · rw [if_neg right]
    by_cases wrong : telefono.fullnum.length + 1 > objectivenum.length ∧
        telefono.done = false
    · have different : telefono.fullnum ≠ objectivenum :=
        fun equal => right ⟨equal, wrong.2⟩
      rw [if_pos wrong, if_pos ⟨wrong.2, by omega, different⟩,
        said_handleReset unprinted_response, said_report unprinted_response]
      exact congrArg (· ++ [()]) (List.append_nil _)
    · rw [if_neg wrong, if_neg, List.append_nil]
      rintro ⟨isOpen, long, _⟩
      exact wrong ⟨by omega, isOpen⟩

/-- Only a wrong number is answered at the end of an iteration. -/
theorem response_judge (now : UInt32) (telefono : Telefono)
    (silent : telefono.said response = []) :
    (verdict (telefono.timeOut now)).said response = [] ↔
      ¬ telefono.Wrong now := by
  rw [response_verdict, said_timeOut unprinted_response rfl, silent,
    timeOut_done, timeOut_fullnum, List.nil_append]
  by_cases late : telefono.elapsed now > resetTime ∧ telefono.done = false
  · rw [if_pos late]
    apply iff_of_true
    · exact if_neg (fun wrong => by simp [objectivenum] at wrong)
    · exact fun wrong => wrong.2.1 late.1
  · rw [if_neg late]
    split
    · rename_i wrong
      apply iff_of_false
      · simp
      · exact fun right => right
          ⟨wrong.1, fun old => late ⟨old, wrong.1⟩, wrong.2⟩
    · rename_i right
      apply iff_of_true
      · rfl
      · exact fun wrong => right ⟨wrong.1, wrong.2.2⟩

theorem answers_iff (telefono : Telefono) (turno : Turno Route Sample) :
    node.Answers telefono turno ↔ Answered telefono turno := by
  cases turno with
  | request route sample =>
      rw [WifiNode.answers_request]
      cases route with
      | root => exact iff_of_true (sends_root info) (by simp [Answered])
      | test => exact iff_of_true (sends_test info) (by simp [Answered])
      | reset => exact iff_of_true rfl (by simp [Answered])
      | manual => exact iff_of_false Nat.zero_ne_one (by simp [Answered])
  | iterate sample =>
      have silent : (heard sample { telefono with out := [] }).said response =
          [] := by
        rw [heard, said_watchHook unprinted_response rfl rfl, escucha,
          said_debounce, said_noteChange, said_completeDigit unprinted_response]
        rfl
      have judged := response_judge (sample.millis 4) _ silent
      have age := @age_congr { telefono with out := [] } telefono rfl rfl 4 sample
      rw [Wrong, heard_done, heard_elapsed, heard_fullnum, numero_silence, age]
        at judged
      rw [WifiNode.answers_iterate, sends_eq_length, List.length_eq_zero_iff]
      exact judged

end Telefono

/-! ## All nodes -/

inductive Nodo where
  | telefono
  | trueno
  | velador
  | silla
  | portal
  | cuadro
  | cuadroRFID
  | mapa
  deriving DecidableEq

namespace Nodo

abbrev Global : Nodo → Type
  | telefono => Telefono
  | trueno => Trueno
  | velador => Velador
  | silla => Silla
  | portal => Portal
  | cuadro => Cuadro
  | cuadroRFID => CuadroRFID
  | mapa => WifiHelperMapa

abbrev Route : Nodo → Type
  | telefono => Telefono.Route
  | trueno => Trueno.Route
  | velador => Velador.Route
  | silla => Silla.Route
  | portal => Portal.Route
  | cuadro => Cuadro.Route
  | cuadroRFID => CuadroRFID.Route
  | mapa => WifiHelperMapa.Route

abbrev Sample : Nodo → Type
  | telefono => Telefono.Sample
  | trueno => Trueno.Sample
  | velador => Velador.Sample
  | silla => Bool
  | portal => Unit
  | cuadro => Unit
  | cuadroRFID => CuadroRFID.Sample
  | mapa => Text

def node : (nodo : Nodo) → WifiNode nodo.Global nodo.Route nodo.Sample
  | telefono => Telefono.node
  | trueno => Trueno.node
  | velador => Velador.node
  | silla => Silla.node
  | portal => Portal.node
  | cuadro => Cuadro.node
  | cuadroRFID => CuadroRFID.node
  | mapa => WifiHelperMapa.node

/-- The turns of a node which keep the discipline. -/
def Answered : (nodo : Nodo) → nodo.Global → Turno nodo.Route nodo.Sample → Prop
  | telefono => Telefono.Answered
  | trueno => fun _ => Trueno.Answered
  | velador => fun _ => Velador.Answered
  | silla => fun _ _ => True
  | portal => fun _ _ => True
  | cuadro => Cuadro.Answered
  | cuadroRFID => fun _ => CuadroRFID.Answered
  | mapa => fun _ _ => True

theorem discipline (nodo : Nodo) : nodo.node.Discipline nodo.Answered := by
  cases nodo with
  | telefono => exact fun telefono _ => telefono.answers_iff
  | trueno => exact fun trueno _ => trueno.answers_iff
  | velador => exact fun velador _ => velador.answers_iff
  | silla => exact fun silla _ turno => iff_of_true (silla.answers turno) trivial
  | portal =>
      exact fun portal _ turno => iff_of_true (portal.answers turno) trivial
  | cuadro =>
      intro cuadro reachable
      have hanging : Cuadro.node.setup.Shaking := by
        intro falling
        cases falling
      exact cuadro.answers_iff
        (reachable.invariant _ Cuadro.shaking_step hanging)
  | cuadroRFID => exact fun cuadro _ => cuadro.answers_iff
  | mapa => exact fun helper _ turno => iff_of_true (helper.answers turno) trivial

end Nodo

/-- In every run of every node exactly these turns keep the discipline. -/
theorem http_discipline (nodo : Nodo)
    (turnos : List (Turno nodo.Route nodo.Sample))
    (turno : Turno nodo.Route nodo.Sample) :
    nodo.node.Answers (nodo.node.after turnos) turno ↔
      nodo.Answered (nodo.node.after turnos) turno :=
  nodo.discipline _ ⟨turnos, rfl⟩ turno

/-- A request which is not answered, one which is answered twice, and an iteration
which answers. -/
theorem discipline_broken :
    ¬ Telefono.node.Answers Telefono.node.setup
        (.request .manual ⟨600, fun _ => 1000⟩) ∧
      ¬ Velador.node.Answers Velador.node.setup (.request .reset ⟨0, 0⟩) ∧
      ¬ Cuadro.node.Answers
        (Cuadro.node.after
          (.request .tirar () :: List.replicate 5 (.iterate ())))
        (.iterate ()) := by
  decide +kernel

end Salsipuedes

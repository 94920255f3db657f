import Salsipuedes.Bajada
import Salsipuedes.Linked
import Salsipuedes.MaquinaSalida
import Salsipuedes.Subida

/-!
# The machine and its helper

The two sketches joined by their serial link: what the helper prints is what the
machine reads, and what the machine prints is what the helper reads.  The machine
waits for `win` or `manual` to release the exit, but its helper has no route which
prints one of them, and nothing else that it prints can be cut into one of them:
the exit is locked at every point of every run, so the game can not be won.
-/

namespace Salsipuedes

/-- What an operation of the machine puts on `Serial1`. -/
def Maquina.Event.bytes (event : Maquina.Event) : Text :=
  event.serial1?.elim [] String.toList

/-- A turn in which these bytes are available on `Serial`. -/
def WifiHelperMaquina.arrive (turno : Turno Route Sample) (chunk : Text) :
    Turno Route Sample :=
  match turno with
  | .request route sample => .request route { sample with serial := chunk }
  | .iterate sample => .iterate { sample with serial := chunk }

/-- The helper at its end of the link. -/
def WifiHelperMaquina.endpoint (encendido : Boot) :
    Endpoint WifiHelperMaquina (Turno Route Sample) NodeEvent
      (Turno Route Sample) Char where
  machine := (node encendido).machine
  sample := arrive
  poll _ := Turno.poll Sample.serial
  bytes := NodeEvent.bytes
  poll_sample _ turno chunk := by
    cases turno with
    | request route sample => exact .inl rfl
    | iterate sample => exact .inr rfl

namespace Maquina

/-- The machine at its end of the link. -/
def endpoint (Button : Type) [Bounce Button] :
    Endpoint (Config Button) Sample Event Sample Char where
  machine := machine Button
  sample sample chunk := { sample with serial1 := chunk }
  poll := polled
  bytes := Event.bytes
  poll_sample config sample chunk := by
    obtain ⟨control, maquina⟩ := config
    cases control with
    | incoming => exact .inr rfl
    | waiting startTime currentMove =>
        dsimp only [polled]
        split
        · exact .inr rfl
        · exact .inl rfl
    | _ => exact .inl rfl

end Maquina

/-- The helper, the machine, and the bytes which are on their way. -/
abbrev Enlace (Button : Type) :=
  Linked WifiHelperMaquina (Config Button) Char

namespace Enlace

/-- A turn of the helper, or an operation of the machine. -/
abbrev Paso :=
  Linked.Move (Turno WifiHelperMaquina.Route WifiHelperMaquina.Sample)
    Maquina.Sample

variable {Button : Type} [Bounce Button]

/-- Both sketches have run their `setup`. -/
def powerUp (Button : Type) [Bounce Button] (encendido : WifiHelperMaquina.Boot)
    (boot : Maquina.Sample) : Enlace Button where
  first := (WifiHelperMaquina.node encendido).setup
  second := Maquina.setup boot
  onward := (WifiHelperMaquina.node encendido).setup.out.flatMap NodeEvent.bytes
  back := (Maquina.setup boot : Config Button).maquina.out.flatMap
    Maquina.Event.bytes

/-- Both sketches run: requests and datagrams reach the helper, players act, and
the bytes take their time. -/
def machine (Button : Type) [Bounce Button]
    (encendido : WifiHelperMaquina.Boot) :
    MealyMachine (Enlace Button) Paso (NodeEvent ⊕ Maquina.Event) :=
  Linked.machine (WifiHelperMaquina.endpoint encendido)
    (Maquina.endpoint Button)

/-- The state after some steps from power-up. -/
def after (Button : Type) [Bounce Button] (encendido : WifiHelperMaquina.Boot)
    (boot : Maquina.Sample) (pasos : List Paso) : Enlace Button :=
  (machine Button encendido).run (powerUp Button encendido boot) pasos

/-- The exit is released. -/
def Released (enlace : Enlace Button) : Prop :=
  enlace.second.maquina.yaGano = true ∧
    enlace.second.maquina.botonSalida = low

/-- The game can be won from here. -/
def Winnable (encendido : WifiHelperMaquina.Boot) (enlace : Enlace Button) :
    Prop :=
  ∃ pasos, ((machine Button encendido).run enlace pasos).Released

/-! ## The locked exit -/

/-- What the machine has in its buffer. -/
def buffer (config : Config Button) : Text :=
  config.maquina.incomingData

/-- The exit is locked, and neither what the machine has read nor what is on its
way to it has a word which releases the exit. -/
structure Locked (enlace : Enlace Button) : Prop where
  stream : Sound (enlace.stream buffer)
  tracks : ∃ partida, Maquina.Tracks enlace.second partida
  locked : enlace.second.maquina.yaGano = false

theorem powerUp_locked (encendido : WifiHelperMaquina.Boot)
    (boot : Maquina.Sample) : (powerUp Button encendido boot).Locked where
  stream := Sound.flatMap (WifiHelperMaquina.bootLog_sound encendido)
  tracks := ⟨_, Maquina.setup_tracks Button boot⟩
  locked := rfl

/-- The machine is dispatched no word which releases the exit. -/
theorem Locked.silent {enlace : Enlace Button} (locked : enlace.Locked)
    (sample : Maquina.Sample) (arrived : Nat) {text : Text}
    (received : .received text ∈ (Maquina.machine Button).emit enlace.second
      (enlace.secondInput (Maquina.endpoint Button) sample arrived)) :
    text ≠ "win".toList ∧ text ≠ "manual".toList := by
  have member : text ∈ ((Maquina.machine Button).emit enlace.second
      (enlace.secondInput (Maquina.endpoint Button) sample arrived)).filterMap
        Maquina.Event.received? :=
    List.mem_filterMap.mpr ⟨_, received, rfl⟩
  rw [Maquina.polls.dispatched_eq trivial member]
  exact locked.stream.trim_ne
    (enlace.read_prefix (Maquina.endpoint Button) buffer sample arrived)

theorem Locked.step {encendido : WifiHelperMaquina.Boot}
    {enlace : Enlace Button} (locked : enlace.Locked) (paso : Paso) :
    ((machine Button encendido).step enlace paso).Locked := by
  obtain ⟨partida, tracks⟩ := locked.tracks
  refine ⟨?_, ?_, ?_⟩
  · refine Linked.stream_step Sound.append
      (fun whole part => whole.suffix part)
      (WifiHelperMaquina.turno_sound encendido) ?_ locked.stream paso
    exact fun config sample =>
      Maquina.polls.incomingData_suffix config trivial
  · cases paso with
    | first turno arrived => exact ⟨partida, tracks⟩
    | second sample arrived =>
        obtain ⟨action, steps⟩ := Maquina.step_tracks tracks
          (enlace.secondInput (Maquina.endpoint Button) sample arrived)
        exact ⟨_, steps.tracks⟩
  · cases paso with
    | first turno arrived => exact locked.locked
    | second sample arrived =>
        apply Bool.eq_false_of_not_eq_true
        intro released
        rcases Maquina.release_step tracks _ locked.locked released
          with win | ⟨manual, -⟩
        · exact (locked.silent sample arrived win).1 rfl
        · exact (locked.silent sample arrived manual).2 rfl

theorem Locked.run {encendido : WifiHelperMaquina.Boot}
    {enlace : Enlace Button} (locked : enlace.Locked) (pasos : List Paso) :
    ((machine Button encendido).run enlace pasos).Locked := by
  have preserved : ∀ (enlace : Enlace Button) (paso : Paso), enlace.Locked →
      ((machine Button encendido).step enlace paso).Locked :=
    fun _ paso before => before.step paso
  exact (machine Button encendido).run_invariant preserved locked pasos

theorem Locked.not_winnable {encendido : WifiHelperMaquina.Boot}
    {enlace : Enlace Button} (locked : enlace.Locked) :
    ¬ Winnable encendido enlace := by
  rintro ⟨pasos, released, -⟩
  rw [(locked.run pasos).locked] at released
  cases released

/-- From no state that the two sketches can reach is the exit ever released. -/
theorem exit_out_of_reach (encendido : WifiHelperMaquina.Boot)
    (boot : Maquina.Sample) (pasos : List Paso) :
    ¬ Winnable encendido (after Button encendido boot pasos) :=
  ((powerUp_locked encendido boot).run pasos).not_winnable

/-- Right after power-up. -/
theorem game_unwinnable :
    ¬ ∀ (encendido : WifiHelperMaquina.Boot) (boot : Maquina.Sample)
      (pasos : List Paso),
      Winnable encendido (after StableButton encendido boot pasos) := by
  intro claim
  exact (powerUp_locked arranque .reposo).not_winnable
    (claim arranque .reposo [])

end Enlace

end Salsipuedes

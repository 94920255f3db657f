import Salsipuedes.MapaLeds
import Salsipuedes.MaquinaReceptor
import Salsipuedes.StableButton
import Salsipuedes.WifiHelperMapa
import Salsipuedes.WifiHelperMaquina

/-!
# Receivers

The machine, the map and the two helpers frame their serial link with the same
loop, in a counter of 16 or of 32 bits.  Each of them polls a receiver with an
idle limit of 25, so all of them recover every list of messages.
-/

namespace Salsipuedes

open IdleReceiver

/-! ## Map -/

namespace MapaLeds

variable {Button : Type}

/-- The map after it has read the bytes which are available. -/
def polled (serial : Text) (mapa : MapaLeds Button) : MapaLeds Button :=
  { mapa with toIdleReceiver := mapa.toIdleReceiver.receive 16 serial }

/-- The message which a poll of the link completes. -/
def completed (serial : Text) (mapa : MapaLeds Button) : Option Text :=
  if (polled serial mapa).toIdleReceiver.complete 25 then
    some (trim (polled serial mapa).incomingData)
  else
    none

/-- A complete message is printed and trimmed before it is dispatched. -/
def announce (mapa : MapaLeds Button) : MapaLeds Button :=
  let mapa := mapa.emit (.print "I received: ")
  let mapa := mapa.emit (.println (String.ofList mapa.incomingData))
  { mapa with incomingData := trim mapa.incomingData }

def forget (mapa : MapaLeds Button) : MapaLeds Button :=
  { mapa with toIdleReceiver := mapa.toIdleReceiver.clear }

/-- A poll dispatches the message which it completes, and nothing else. -/
theorem checkIncoming_completed (serial : Text) (mapa : MapaLeds Button) :
    checkIncoming serial mapa =
      match completed serial mapa with
      | some text => forget (dispatch text (announce (polled serial mapa)))
      | none => polled serial mapa := by
  unfold checkIncoming completed
  dsimp only
  by_cases due : (polled serial mapa).toIdleReceiver.complete 25 = true
  · have here := due
    rw [polled] at here
    rw [if_pos here, if_pos due]
    rfl
  · have here := due
    rw [polled] at here
    rw [if_neg here, if_neg due]
    rfl

theorem dispatch_receiver (text : Text) (mapa : MapaLeds Button) :
    (dispatch text mapa).toIdleReceiver = mapa.toIdleReceiver := by
  unfold dispatch
  dsimp only
  split <;> split <;> rfl

theorem checkIncoming_receiver (serial : Text) (mapa : MapaLeds Button) :
    (checkIncoming serial mapa).toIdleReceiver =
      (Maquina.receptor 16).step mapa.toIdleReceiver serial := by
  unfold checkIncoming
  dsimp only [Maquina.receptor, dispatcher, IdleReceiver.machine]
  split
  · dsimp only [handleMessage]
    rw [dispatch_receiver]
    rfl
  · rfl

variable [Bounce Button]

omit [Bounce Button] in
theorem press_receiver (which : Fin 4) (name : String)
    (mapa : MapaLeds Button) :
    (press which name mapa).toIdleReceiver = mapa.toIdleReceiver :=
  rfl

theorem checkButtons_receiver (mapa : MapaLeds Button) :
    (checkButtons mapa).toIdleReceiver = mapa.toIdleReceiver := by
  have pressed (rose : Bool) (which : Fin 4) (name : String)
      (mapa : MapaLeds Button) :
      (if rose = true then press which name mapa else mapa).toIdleReceiver =
        mapa.toIdleReceiver := by
    split
    · exact press_receiver which name mapa
    · rfl
  unfold checkButtons
  dsimp only
  rw [pressed, pressed, pressed, pressed]

theorem loop_receiver (sample : Sample) (mapa : MapaLeds Button) :
    (loop sample mapa).toIdleReceiver =
      (Maquina.receptor 16).step mapa.toIdleReceiver sample.serial := by
  unfold loop
  dsimp only
  rw [checkIncoming_receiver]
  congr 1
  split <;> exact checkButtons_receiver _

/-- The texts which an iteration dispatches. -/
def dispatched (mapa : MapaLeds Button) (sample : Sample) : List Text :=
  (completed sample.serial mapa).toList

/-- The map polls its link with a 16-bit counter. -/
theorem polls :
    Polls ((machine Button).reporting dispatched) MapaLeds.toIdleReceiver
      (fun _ sample => some sample.serial) some trim 16 25 fun _ => True := by
  intro mapa sample _
  refine ⟨loop_receiver sample _, ?_⟩
  change [(dispatched mapa sample).filterMap some] =
    [(Option.map trim (if (polled sample.serial mapa).toIdleReceiver.complete 25
      then some (polled sample.serial mapa).incomingData else none)).toList]
  rw [List.filterMap_some]
  unfold dispatched completed
  by_cases due :
      (polled sample.serial mapa).toIdleReceiver.complete 25 = true
  · rw [if_pos due, if_pos due]
    rfl
  · rw [if_neg due, if_neg due]
    rfl

end MapaLeds

/-! ## Helpers -/

/-- What a node reads in a turn of `loop`. -/
def Turno.poll {Route Sample : Type} (serial : Sample → Text) :
    Turno Route Sample → Option Text
  | .request _ _ => none
  | .iterate sample => some (serial sample)

namespace WifiHelperMapa

/-- The helper of the map polls its link with a 32-bit counter. -/
theorem polls :
    Polls node.machine WifiHelperMapa.toIdleReceiver (fun _ => Turno.poll id)
      NodeEvent.packet? trim 32 25 fun _ => True := by
  intro helper turno _
  cases turno with
  | request route sample => cases route <;> exact ⟨rfl, rfl⟩
  | iterate serial =>
      dsimp only [Turno.poll, id, WifiNode.machine, WifiNode.perform, node, loop,
        dispatcher, IdleReceiver.machine]
      split <;> exact ⟨rfl, rfl⟩

end WifiHelperMapa

namespace WifiHelperMaquina

/-- The sketch is not restarted. -/
def KeepsOn : Turno Route Sample → Prop
  | .request .reset _ => False
  | _ => True

theorem packetLog_packets (packet : Packet) :
    (packetLog packet).filterMap NodeEvent.packet? = [] :=
  rfl

theorem udpRead_packets (packet : Option Packet) (helper : WifiHelperMaquina) :
    (udpRead packet helper).toIdleReceiver = helper.toIdleReceiver ∧
      (udpRead packet helper).out.filterMap NodeEvent.packet? =
        helper.out.filterMap NodeEvent.packet? := by
  cases packet with
  | none => exact ⟨rfl, rfl⟩
  | some packet =>
      refine ⟨rfl, ?_⟩
      change (helper.out ++ packetLog packet).filterMap _ = _
      rw [List.filterMap_append, packetLog_packets, List.append_nil]

theorem forward_packets (serial : Text) (helper : WifiHelperMaquina) :
    (forward serial helper).toIdleReceiver =
        (Maquina.receptor 32).step helper.toIdleReceiver serial ∧
      (forward serial helper).out.filterMap NodeEvent.packet? =
        helper.out.filterMap NodeEvent.packet? ++
          ((Maquina.receptor 32).emit helper.toIdleReceiver serial).flatten := by
  unfold forward
  dsimp only [Maquina.receptor, dispatcher, IdleReceiver.machine]
  split
  · refine ⟨rfl, ?_⟩
    simp [emit, NodeEvent.packet?]
  · exact ⟨rfl, (List.append_nil _).symm⟩

/-- The helper of the machine polls its link with a 32-bit counter, until it is
restarted. -/
theorem polls (boot : Boot) :
    Polls (node boot).machine WifiHelperMaquina.toIdleReceiver
      (fun _ => Turno.poll Sample.serial) NodeEvent.packet? trim 32 25
      KeepsOn := by
  intro helper turno keepsOn
  cases turno with
  | request route sample =>
      cases route with
      | reset => exact keepsOn.elim
      | root | test | on | off | son | soff | trueno => exact ⟨rfl, rfl⟩
  | iterate sample =>
      obtain ⟨untouched, quiet⟩ :=
        udpRead_packets sample.packet { helper with out := [] }
      obtain ⟨moved, sent⟩ := forward_packets sample.serial
        (udpRead sample.packet { helper with out := [] })
      rw [untouched] at moved sent
      refine ⟨moved, ?_⟩
      change [(forward sample.serial (udpRead sample.packet
        { helper with out := [] })).out.filterMap NodeEvent.packet?] = _
      rw [sent, quiet]
      simp [Maquina.receptor, dispatcher, IdleReceiver.machine]

end WifiHelperMaquina

/-! ## Framing -/

/-- The machine, the map and both helpers recover every list of messages, and
what the map recovers is what it dispatches. -/
theorem messages_framed (Button : Type) [Bounce Button]
    (boot : WifiHelperMaquina.Boot) :
    Recovers (Maquina.machine Button) (fun config => config.maquina.toIdleReceiver)
        Maquina.polled Maquina.Event.received? trim 25 (fun _ => True) ∧
      Recovers ((MapaLeds.machine Button).reporting MapaLeds.dispatched)
        MapaLeds.toIdleReceiver (fun _ sample => some sample.serial) some trim 25
        (fun _ => True) ∧
      (∀ (serial : Text) (mapa : MapaLeds Button),
        MapaLeds.checkIncoming serial mapa =
          match MapaLeds.completed serial mapa with
          | some text =>
              (MapaLeds.dispatch text
                (mapa.polled serial).announce).forget
          | none => mapa.polled serial) ∧
      Recovers WifiHelperMapa.node.machine WifiHelperMapa.toIdleReceiver
        (fun _ => Turno.poll id) NodeEvent.packet? trim 25 (fun _ => True) ∧
      Recovers (WifiHelperMaquina.node boot).machine
        WifiHelperMaquina.toIdleReceiver
        (fun _ => Turno.poll WifiHelperMaquina.Sample.serial)
        NodeEvent.packet? trim 25 WifiHelperMaquina.KeepsOn := by
  have wide16 : 2 * (25 + 1) < 2 ^ 16 := by norm_num
  have wide32 : 2 * (25 + 1) < 2 ^ 32 := by norm_num
  refine ⟨Maquina.polls.recovers wide16 (by norm_num),
    MapaLeds.polls.recovers wide16 (by norm_num),
    MapaLeds.checkIncoming_completed,
    WifiHelperMapa.polls.recovers wide32 (by norm_num),
    (WifiHelperMaquina.polls boot).recovers wide32 (by norm_num)⟩

/-- An alarm which arrives in two pieces, after a silence in which the counter
has wrapped around. -/
theorem messages_framed_alarma :
    let delivery : Delivery Char 25 :=
      ⟨"ala".toList, [(24, "rma\n".toList)], 25, by decide, by decide, by decide,
        by decide⟩
    let helper : WifiHelperMapa := ⟨⟨[], -2147483648⟩, []⟩
    (WifiHelperMapa.node.machine.trace helper
      (delivery.polls.map Turno.iterate)).filterMap NodeEvent.packet? =
        ["alarma".toList] := by
  intro delivery helper
  obtain ⟨-, -, -, recovers, -⟩ := messages_framed StableButton
    ⟨0, 0, fun _ => 0, true⟩
  obtain ⟨-, -, sent⟩ := recovers helper (delivery.polls.map Turno.iterate) 0
    [delivery] rfl (fun _ _ => trivial) (by decide)
  rw [sent]
  decide

end Salsipuedes

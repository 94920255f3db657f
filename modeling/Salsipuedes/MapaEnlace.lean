import Salsipuedes.EnlaceEntrega

/-!
# The map and its helper

The two sketches joined by their serial link, with the log which the helper
prints on it.  However the link cuts what the helper prints, the alarm is not
switched more often than it was requested.  When the link is used with patience,
the alarm is on exactly when the last request which switches it was `/alarma`.
-/

namespace Salsipuedes

open WifiHelperMaquina (Boot Packet bootLog packetLog ajenas)

namespace WifiHelperMapa

/-- What a turn samples: a datagram and the bytes which are available on
`Serial`. -/
structure Sample where
  packet : Option Packet
  serial : Text

/-- The helper with everything that it prints: the lines of `connectWifi` and
`connectUDP`, and those of `UDPRead`, which it shares with the helper of the
machine. -/
def logged (boot : Boot) : WifiNode WifiHelperMapa Route Sample where
  setup := { setup with out := bootLog boot }
  handle route sample := handle route sample.serial
  loop sample helper :=
    loop sample.serial
      { helper with out := helper.out ++ sample.packet.elim [] packetLog }
  out := WifiHelperMapa.out
  silence helper := { helper with out := [] }

/-- A turn in which these bytes are available on `Serial`. -/
def arrive (turno : Turno Route Sample) (chunk : Text) : Turno Route Sample :=
  match turno with
  | .request route sample => .request route { sample with serial := chunk }
  | .iterate sample => .iterate { sample with serial := chunk }

/-- The helper at its end of the link. -/
def endpoint (boot : Boot) :
    Endpoint WifiHelperMapa (Turno Route Sample) NodeEvent
      (Turno Route Sample) Char where
  machine := (logged boot).machine
  sample := arrive
  poll _ := Turno.poll Sample.serial
  bytes := NodeEvent.bytes
  poll_sample _ turno chunk := by
    cases turno with
    | request route sample => exact .inl rfl
    | iterate sample => exact .inr rfl

/-! ## What the helper prints -/

/-- The command which the handler of a route prints. -/
def Route.command : Route → Text
  | .root | .test => []
  | .reset => "reset".toList
  | .alarma => "alarma".toList

/-- The lines which the handler of a route prints. -/
def Route.lines : Route → List NodeEvent
  | .root => info.root
  | .test => info.test
  | route => [.println (String.ofList route.command)]

/-- The words which switch the alarm. -/
def interruptores : List Text :=
  ["reset".toList, "alarma".toList]

variable {word : Text}

theorem interruptores_ajenas (member : word ∈ interruptores) : word ∈ ajenas := by
  revert word
  decide

theorem lines_print (member : word ∈ interruptores) (route : Route) :
    Ends word (route.lines.flatMap NodeEvent.bytes) ∧
      occurrences word (route.lines.flatMap NodeEvent.bytes) =
        (decide (route.command = word)).toNat := by
  cases route <;> revert word <;> decide

/-- The effects of a request. -/
theorem handle_bytes (boot : Boot) (helper : WifiHelperMapa) (route : Route)
    (sample : Sample) :
    ((logged boot).machine.emit helper (.request route sample)).flatMap
      NodeEvent.bytes = route.lines.flatMap NodeEvent.bytes := by
  cases route <;> rfl

/-- The effects of an iteration. -/
theorem loop_bytes (boot : Boot) (helper : WifiHelperMapa) (sample : Sample) :
    ((logged boot).machine.emit helper (.iterate sample)).flatMap
      NodeEvent.bytes =
        (sample.packet.elim [] packetLog).flatMap NodeEvent.bytes := by
  change (loop sample.serial { helper with
    out := [] ++ sample.packet.elim [] packetLog }).out.flatMap _ = _
  unfold loop
  dsimp only
  split
  · simp [emit, NodeEvent.bytes]
  · rfl

/-- A request which switches the alarm with a word. -/
def asks (word : Text) : Turno Route Sample → Bool
  | .request route _ => decide (route.command = word)
  | .iterate _ => false

/-- What a turn of the helper prints has the word only if it is asked for. -/
theorem turno_prints (member : word ∈ interruptores) (boot : Boot)
    (helper : WifiHelperMapa) (turno : Turno Route Sample) :
    let text := ((logged boot).machine.emit helper turno).flatMap NodeEvent.bytes
    Ends word text ∧ occurrences word text ≤ (asks word turno).toNat := by
  dsimp only
  cases turno with
  | request route sample =>
      rw [handle_bytes]
      exact ⟨(lines_print member route).1, (lines_print member route).2.le⟩
  | iterate sample =>
      rw [loop_bytes]
      have foreign : Foreign word
          ((sample.packet.elim [] packetLog).flatMap NodeEvent.bytes) := by
        cases sample.packet with
        | none => exact Foreign.nil
        | some packet =>
            exact WifiHelperMaquina.packetLog_foreign
              (interruptores_ajenas member) packet
      exact ⟨foreign.ends, foreign.absent.le⟩

/-- The word with which a turn switches the alarm. -/
def requested? : Turno Route Sample → Option Text
  | .request .reset _ => some "reset".toList
  | .request .alarma _ => some "alarma".toList
  | .request .root _ | .request .test _ | .iterate _ => none

theorem ordered_nil : Wire.ordered trim interruptores [] = [] := by
  decide

/-- A turn prints the word with which it switches the alarm, and no other. -/
theorem turno_ordered (boot : Boot) (helper : WifiHelperMapa)
    (turno : Turno Route Sample) :
    Wire.ordered trim interruptores
        (((logged boot).machine.emit helper turno).flatMap NodeEvent.bytes) =
      (requested? turno).toList := by
  cases turno with
  | request route sample =>
      rw [handle_bytes]
      cases route with
      | root | test =>
          change Wire.ordered trim interruptores _ = []
          decide
      | reset | alarma =>
          change Wire.ordered trim interruptores _ = [_]
          decide
  | iterate sample =>
      rw [loop_bytes]
      cases sample.packet with
      | none => exact ordered_nil
      | some packet =>
          exact WifiHelperMaquina.packetLog_ordered packet (by decide)

end WifiHelperMapa

namespace MapaLeds

variable {Button : Type} [Bounce Button]

/-- The map at its end of the link. -/
def endpoint (Button : Type) [Bounce Button] :
    Endpoint (MapaLeds Button) Sample NodeEvent Sample Char where
  machine := machine Button
  sample sample chunk := { sample with serial := chunk }
  poll _ sample := some sample.serial
  bytes := NodeEvent.bytes
  poll_sample _ _ _ := .inr rfl

/-- The alarm after a text is dispatched. -/
def conmuta (alarma : Bool) (text : Text) : Bool :=
  if text = "alarma".toList then true
  else if text = "reset".toList then false
  else alarma

omit [Bounce Button] in
theorem dispatch_alarma (text : Text) (mapa : MapaLeds Button) :
    (dispatch text mapa).alarma = conmuta mapa.alarma text := by
  unfold dispatch conmuta
  dsimp only
  by_cases reset : text = "reset".toList
  · subst reset
    rfl
  by_cases alarma : text = "alarma".toList
  · subst alarma
    rfl
  rw [if_neg reset, if_neg alarma, if_neg alarma, if_neg reset]

omit [Bounce Button] in
/-- A poll switches the alarm with the message which it completes. -/
theorem checkIncoming_alarma (serial : Text) (mapa : MapaLeds Button) :
    (checkIncoming serial mapa).alarma =
      (completed serial mapa).toList.foldl conmuta mapa.alarma := by
  rw [checkIncoming_completed]
  cases completed serial mapa with
  | none => rfl
  | some text => exact dispatch_alarma text (polled serial mapa).announce

omit [Bounce Button] in
/-- Which message is completed depends on the receiver only. -/
theorem completed_congr (serial : Text) {first second : MapaLeds Button}
    (same : first.toIdleReceiver = second.toIdleReceiver) :
    completed serial first = completed serial second := by
  have depends (mapa : MapaLeds Button) : completed serial mapa =
      if (mapa.toIdleReceiver.receive 16 serial).complete 25 then
        some (trim (mapa.toIdleReceiver.receive 16 serial).incomingData)
      else none :=
    rfl
  rw [depends, depends, same]

/-- The alarm is switched by what is dispatched, and by nothing else. -/
theorem step_alarma (mapa : MapaLeds Button) (sample : Sample) :
    ((machine Button).step mapa sample).alarma =
      (dispatched mapa sample).foldl conmuta mapa.alarma := by
  let checked := checkButtons (updateButtons sample { mapa with out := [] })
  have sameAlarma : checked.alarma = mapa.alarma :=
    (checkButtons_pos (updateButtons sample { mapa with out := [] })).2
  have sameReceiver : checked.toIdleReceiver = mapa.toIdleReceiver :=
    checkButtons_receiver (updateButtons sample { mapa with out := [] })
  let lit := if checked.alarma = true then
    updateStrip { checked with redLeds := high } else checked
  have kept : lit.alarma = mapa.alarma ∧
      lit.toIdleReceiver = mapa.toIdleReceiver := by
    dsimp only [lit]
    split
    · exact ⟨sameAlarma, sameReceiver⟩
    · exact ⟨sameAlarma, sameReceiver⟩
  change (checkIncoming sample.serial lit).alarma = _
  rw [checkIncoming_alarma, kept.1, completed_congr sample.serial kept.2]
  rfl

/-- The alarm after some dispatched texts. -/
theorem foldl_conmuta (texts : List Text) (alarma : Bool) :
    texts.foldl conmuta alarma =
      ((texts.filter (· ∈ WifiHelperMapa.interruptores)).getLast?.elim alarma
        fun last => decide (last = "alarma".toList)) := by
  induction texts using List.reverseRecOn with
  | nil => rfl
  | append_singleton texts text ih =>
      rw [List.foldl_append, List.foldl_cons, List.foldl_nil, List.filter_append,
        List.getLast?_append, ih, conmuta]
      by_cases alarma : text = "alarma".toList
      · subst alarma
        rfl
      by_cases reset : text = "reset".toList
      · subst reset
        rfl
      have other : text ∉ WifiHelperMapa.interruptores := by
        intro member
        rcases List.mem_cons.mp member with same | member
        · exact reset same
        · exact alarma (List.mem_singleton.mp member)
      rw [if_neg alarma, if_neg reset, List.filter_cons_of_neg (by simpa)]
      rfl

end MapaLeds

/-- The helper, the map, and the bytes which are on their way. -/
abbrev MapaEnlace (Button : Type) :=
  Linked WifiHelperMapa (MapaLeds Button) Char

namespace MapaEnlace

/-- A turn of the helper, or an iteration of the map. -/
abbrev Paso :=
  Linked.Move (Turno WifiHelperMapa.Route WifiHelperMapa.Sample) MapaLeds.Sample

variable {Button : Type} [Bounce Button]

/-- Both sketches have run their `setup`. -/
def powerUp (Button : Type) [Bounce Button] (encendido : Boot)
    (boot : MapaLeds.Sample) : MapaEnlace Button where
  first := (WifiHelperMapa.logged encendido).setup
  second := MapaLeds.setup boot
  onward := (bootLog encendido).flatMap NodeEvent.bytes
  back := []

/-- Both sketches run, and the bytes take their time. -/
def machine (Button : Type) [Bounce Button] (encendido : Boot) :
    MealyMachine (MapaEnlace Button) Paso (NodeEvent ⊕ NodeEvent) :=
  Linked.machine (WifiHelperMapa.endpoint encendido) (MapaLeds.endpoint Button)

/-- The link from the helper to the map. -/
def downlink (Button : Type) [Bounce Button] (encendido : Boot) :
    Wire (machine Button encendido) Char :=
  Linked.onwardWire (WifiHelperMapa.endpoint encendido)
    (MapaLeds.endpoint Button) (fun mapa => mapa.incomingData) fun mapa _ =>
      MapaLeds.polls.incomingData_suffix mapa trivial

/-- The texts which the map dispatches in a step. -/
def handled (enlace : MapaEnlace Button) : Paso → List Text
  | .first _ _ => []
  | .second sample arrived => MapaLeds.dispatched enlace.second
      (enlace.secondInput (MapaLeds.endpoint Button) sample arrived)

/-- A request which switches the alarm with a word. -/
def Paso.asks (word : Text) : Paso → Bool
  | .first turno _ => WifiHelperMapa.asks word turno
  | .second _ _ => false

/-- The word with which a step switches the alarm. -/
def Paso.requested? : Paso → Option Text
  | .first turno _ => WifiHelperMapa.requested? turno
  | .second _ _ => none

/-- What the map dispatches in a step is what it takes off the link. -/
theorem handled_pieces (encendido : Boot) (enlace : MapaEnlace Button)
    (paso : Paso) :
    handled enlace paso =
      (Wire.piece ((downlink Button encendido).taken enlace paso)).map trim := by
  cases paso with
  | first turno arrived => rfl
  | second sample arrived =>
      refine Eq.trans ?_ (MapaLeds.polls.pieces enlace.second trivial)
      exact (List.filterMap_some).symm

/-- Whatever the helper has printed and however it was cut, the alarm has not been
switched on more often than `/alarma` was requested, nor off more often than
`/reset`. -/
theorem alarms_requested {word : Text}
    (member : word ∈ WifiHelperMapa.interruptores) (encendido : Boot)
    (boot : MapaLeds.Sample) (pasos : List Paso) :
    ((machine Button encendido).readings handled
        (powerUp Button encendido boot) pasos).count word ≤
      pasos.countP (Paso.asks word) := by
  have known := WifiHelperMapa.interruptores_ajenas member
  have nonempty := WifiHelperMaquina.ajenas_ne_nil known
  have tallies : (downlink Button encendido).Tallies word (fun _ => True)
      (fun enlace paso => (handled enlace paso).countP (· == word))
      (fun _ paso => (Paso.asks word paso).toNat) := by
    refine ⟨fun _ _ _ => trivial, fun enlace paso => ?_, fun enlace paso _ => ?_,
      fun enlace paso _ => ?_⟩
    · rw [handled_pieces encendido]
      exact Wire.count_process_le trim_isInfix nonempty _
    · cases paso with
      | first turno arrived =>
          exact (WifiHelperMapa.turno_prints member encendido _ _).1
      | second sample arrived => exact Foreign.nil.ends
    · cases paso with
      | first turno arrived =>
          have prints := (WifiHelperMapa.turno_prints member encendido
            enlace.first (enlace.firstInput
              (WifiHelperMapa.endpoint encendido) turno arrived)).2
          cases turno <;> exact prints
      | second sample arrived => exact Nat.zero_le _
  have started : Foreign word
      ((downlink Button encendido).stream (powerUp Button encendido boot)) :=
    Foreign.flatMap (WifiHelperMaquina.bootLog_foreign known encendido)
  have once := tallies.at_most_once trivial started pasos
  rw [MealyMachine.total_inputs, MealyMachine.total_readings] at once
  exact once

/-- An iteration of the map which finds what has arrived, and the idle ones after
it. -/
def escucha : List Paso :=
  .second (MapaLeds.poll []) 1000 ::
    List.replicate 25 (.second (MapaLeds.poll []) 0)

/-- A request which the map has time for, after the log of the power-up. -/
def pide (route : WifiHelperMapa.Route) : List Paso :=
  escucha ++ .first (.request route ⟨none, []⟩) 0 :: escucha

/-- A requested alarm is dispatched once. -/
theorem alarms_requested_alarma :
    ((machine StableButton arranque).readings handled
      (powerUp StableButton arranque (MapaLeds.poll [])) (pide .alarma)).count
        "alarma".toList = 1 := by
  have once := @alarms_requested StableButton _ "alarma".toList (by decide)
    arranque (MapaLeds.poll []) (pide .alarma)
  have asked : (pide .alarma).countP (Paso.asks "alarma".toList) = 1 := by
    decide +kernel
  have dispatched : 0 < ((machine StableButton arranque).readings handled
      (powerUp StableButton arranque (MapaLeds.poll [])) (pide .alarma)).count
        "alarma".toList := by
    decide +kernel
  omega

/-- The alarm of the map after a run. -/
theorem run_alarma (encendido : Boot) (enlace : MapaEnlace Button)
    (pasos : List Paso) :
    ((machine Button encendido).run enlace pasos).second.alarma =
      ((machine Button encendido).readings handled enlace pasos).foldl
        MapaLeds.conmuta enlace.second.alarma := by
  induction pasos generalizing enlace with
  | nil => rfl
  | cons paso pasos ih =>
      have here : ((machine Button encendido).step enlace paso).second.alarma =
          (handled enlace paso).foldl MapaLeds.conmuta enlace.second.alarma := by
        cases paso with
        | first turno arrived => rfl
        | second sample arrived => exact MapaLeds.step_alarma enlace.second _
      rw [MealyMachine.run_cons, ih, here, ← List.foldl_append]
      rfl

theorem downlink_ordered (encendido : Boot) (enlace : MapaEnlace Button)
    (paso : Paso) :
    Wire.ordered trim WifiHelperMapa.interruptores
        ((downlink Button encendido).printed enlace paso) =
      paso.requested?.toList := by
  cases paso with
  | second sample arrived => exact WifiHelperMapa.ordered_nil
  | first turno arrived =>
      refine (WifiHelperMapa.turno_ordered encendido enlace.first _).trans ?_
      cases turno with
      | request route sample => cases route <;> rfl
      | iterate sample => rfl

/-- On a link which is used with patience, once nothing is on its way to the map,
the alarm is on exactly if the last request to switch it was `/alarma`. -/
theorem alarm_follows_requests (encendido : Boot) (boot : MapaLeds.Sample)
    {pasos : List Paso}
    (patient : (machine Button encendido).Along
      (downlink Button encendido).Patient (powerUp Button encendido boot) pasos)
    (arrived : (downlink Button encendido).stream ((machine Button
      encendido).run (powerUp Button encendido boot) pasos) = []) :
    ((machine Button encendido).run (powerUp Button encendido boot)
        pasos).second.alarma = true ↔
      (pasos.filterMap Paso.requested?).getLast? = some "alarma".toList := by
  have started : (downlink Button encendido).stream
      (powerUp Button encendido boot) =
        (bootLog encendido).flatMap NodeEvent.bytes :=
    rfl
  have silent : Wire.ordered trim WifiHelperMapa.interruptores ((downlink Button
      encendido).stream (powerUp Button encendido boot)) = [] := by
    rw [started]
    exact WifiHelperMaquina.bootLog_ordered encendido (by decide)
  have inOrder := Wire.handled_in_order WifiHelperMapa.ordered_nil
    (handled_pieces encendido)
    (fun enlace paso (_ : True) => downlink_ordered encendido enlace paso)
    silent patient (fun _ _ => trivial)
  rw [arrived, WifiHelperMapa.ordered_nil, List.append_nil] at inOrder
  rw [run_alarma, MapaLeds.foldl_conmuta, inOrder]
  cases (pasos.filterMap Paso.requested?).getLast? with
  | none => simp [powerUp, MapaLeds.setup]
  | some last => simp

/-- After the log of the power-up, a requested alarm is on. -/
theorem alarm_follows_alarma :
    ((machine StableButton arranque).run
      (powerUp StableButton arranque (MapaLeds.poll []))
        (pide .alarma)).second.alarma = true :=
  (@alarm_follows_requests StableButton _ arranque (MapaLeds.poll [])
    (pide .alarma) (by decide +kernel) (by decide +kernel)).mpr
      (by decide +kernel)

end MapaEnlace

end Salsipuedes

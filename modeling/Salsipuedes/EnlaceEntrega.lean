import Salsipuedes.Enlace
import Salsipuedes.Registro
import Salsipuedes.Wire

/-!
# Delivery between the machine and its helper

The two sketches joined by their serial link, in any order of their steps and
however the bytes are cut.  A command which the machine handles was requested from
the helper, and a report which the helper sends was printed by the machine, each
of them for itself.  When the link is used with patience, the machine handles the
requested commands one by one and in order.
-/

namespace Salsipuedes

namespace WifiHelperMaquina

/-- The command which the handler of a route prints. -/
def Route.command : Route → Text
  | .root | .test => []
  | .reset => "reset".toList
  | .on => "on".toList
  | .off => "off".toList
  | .son => "son".toList
  | .soff => "soff".toList
  | .trueno => "trueno".toList

/-- A request for a command which contains the word. -/
def asks (word : Text) : Turno Route Sample → Bool
  | .request route _ => decide (word <:+: route.command)
  | .iterate _ => false

variable {word : Text}

/-- The lines which the handler of a route prints, before the sketch restarts. -/
def Route.lines : Route → List NodeEvent
  | .root => info.root
  | .test => info.test
  | route => [.println (String.ofList route.command)]

theorem lines_print (member : word ∈ ajenas) (route : Route) :
    Ends word (route.lines.flatMap NodeEvent.bytes) ∧
      occurrences word (route.lines.flatMap NodeEvent.bytes) =
        (decide (word <:+: route.command)).toNat := by
  cases route <;> revert word <;> decide

/-- What a turn of the helper prints has the word only if it is asked for. -/
theorem turno_prints (member : word ∈ ajenas) (boot : Boot)
    (helper : WifiHelperMaquina) (turno : Turno Route Sample) :
    let text := ((node boot).machine.emit helper turno).flatMap NodeEvent.bytes
    Ends word text ∧ occurrences word text ≤ (asks word turno).toNat := by
  cases turno with
  | request route sample =>
      obtain ⟨ends, occurs⟩ := lines_print member route
      cases route with
      | reset =>
          have log := Foreign.flatMap (bootLog_foreign member sample.boot)
          have text : ((node boot).machine.emit helper
              (.request .reset sample)).flatMap NodeEvent.bytes =
              Route.reset.lines.flatMap NodeEvent.bytes ++
                (bootLog sample.boot).flatMap NodeEvent.bytes :=
            rfl
          rw [text]
          refine ⟨ends.append log.ends, ?_⟩
          rw [ends.occurrences_append, log.absent]
          exact occurs.le
      | root | test | on | off | son | soff | trueno => exact ⟨ends, occurs.le⟩
  | iterate sample =>
      have foreign : Foreign word ((forward sample.serial (udpRead sample.packet
          { helper with out := [] })).out.flatMap NodeEvent.bytes) := by
        rw [forward_bytes]
        cases sample.packet with
        | none => exact Foreign.nil
        | some packet => exact packetLog_foreign member packet
      exact ⟨foreign.ends, foreign.absent.le⟩

/-- The buffer of the helper is what is left of what it has read. -/
theorem incomingData_suffix (boot : Boot) (helper : WifiHelperMaquina)
    (turno : Turno Route Sample) :
    ((node boot).machine.step helper turno).incomingData <:+
      helper.incomingData ++ (Turno.poll Sample.serial turno).getD [] := by
  cases turno with
  | request route sample =>
      cases route with
      | reset => exact List.nil_suffix
      | root | test | on | off | son | soff | trueno =>
          exact (polls boot).incomingData_suffix helper trivial
  | iterate sample => exact (polls boot).incomingData_suffix helper trivial

end WifiHelperMaquina

namespace Enlace

open WifiHelperMaquina (ajenas asks)

variable {Button : Type} [Bounce Button]

/-! ## Commands -/

/-- The link from the helper to the machine. -/
def downlink (Button : Type) [Bounce Button]
    (encendido : WifiHelperMaquina.Boot) :
    Wire (machine Button encendido) Char :=
  Linked.onwardWire (WifiHelperMaquina.endpoint encendido)
    (Maquina.endpoint Button) buffer fun config _ =>
      Maquina.polls.incomingData_suffix config trivial

/-- A request for a command which contains the word. -/
def Paso.asks (word : Text) : Paso → Bool
  | .first turno _ => WifiHelperMaquina.asks word turno
  | .second _ _ => false

/-- The texts which the machine handles. -/
def handled? : NodeEvent ⊕ Maquina.Event → Option Text
  | .inl _ => none
  | .inr event => event.received?

theorem handled_map_inr (events : List Maquina.Event) :
    (events.map (Sum.inr : Maquina.Event → NodeEvent ⊕ Maquina.Event)).filterMap
        handled? = events.filterMap Maquina.Event.received? := by
  rw [List.filterMap_map]
  rfl

theorem handled_map_inl (events : List NodeEvent) :
    (events.map (Sum.inl : NodeEvent → NodeEvent ⊕ Maquina.Event)).filterMap
        handled? = [] := by
  rw [List.filterMap_map]
  exact List.filterMap_eq_nil_iff.mpr fun _ _ => rfl

/-- What the machine handles in a step is what it takes off the link. -/
theorem handled_pieces (encendido : WifiHelperMaquina.Boot)
    (enlace : Enlace Button) (paso : Paso) :
    ((machine Button encendido).emit enlace paso).filterMap handled? =
      (Wire.piece ((downlink Button encendido).taken enlace paso)).map trim := by
  cases paso with
  | first turno arrived =>
      exact (handled_map_inl _).trans rfl
  | second sample arrived =>
      refine (handled_map_inr _).trans ?_
      exact Maquina.polls.pieces enlace.second trivial

/-- Whatever the helper has printed and however it was cut, the machine has not
handled a command more often than it was requested.  Only `on` can be cut out of
the log. -/
theorem commands_requested {word : Text} (member : word ∈ ajenas)
    (encendido : WifiHelperMaquina.Boot) (boot : Maquina.Sample)
    (pasos : List Paso) :
    (((machine Button encendido).trace (powerUp Button encendido boot)
        pasos).filterMap handled?).count word ≤ pasos.countP (Paso.asks word) := by
  have nonempty := WifiHelperMaquina.ajenas_ne_nil member
  have tallies : (downlink Button encendido).Tallies word (fun _ => True)
      (fun enlace paso => ((machine Button encendido).emit enlace paso).countP
        fun event => handled? event == some word)
      (fun _ paso => (Paso.asks word paso).toNat) := by
    refine ⟨fun _ _ _ => trivial, fun enlace paso => ?_, fun enlace paso _ => ?_,
      fun enlace paso _ => ?_⟩
    · rw [← List.count_filterMap, handled_pieces]
      exact Wire.count_process_le trim_isInfix nonempty _
    · cases paso with
      | first turno arrived =>
          exact (WifiHelperMaquina.turno_prints member encendido _ _).1
      | second sample arrived => exact Foreign.nil.ends
    · cases paso with
      | first turno arrived =>
          have prints := (WifiHelperMaquina.turno_prints member encendido
            enlace.first (enlace.firstInput
              (WifiHelperMaquina.endpoint encendido) turno arrived)).2
          cases turno <;> exact prints
      | second sample arrived => exact Nat.zero_le _
  have started : Foreign word
      ((downlink Button encendido).stream (powerUp Button encendido boot)) :=
    Foreign.flatMap (WifiHelperMaquina.bootLog_foreign member encendido)
  have once := tallies.at_most_once trivial started pasos
  rw [MealyMachine.total_inputs, MealyMachine.total_events,
    ← List.count_filterMap] at once
  exact once

/-- The operations of an iteration in which so many bytes have arrived. -/
def vuelta (arrived : Nat) : List Paso :=
  [.second .reposo 0, .second .reposo 0, .second .reposo 0,
    .second .reposo arrived]

/-- An iteration which finds what has arrived, and the idle polls after it. -/
def escucha : List Paso :=
  vuelta 1000 ++ (List.replicate 25 (vuelta 0)).flatten

/-- A request which the machine has time for. -/
def pide (route : WifiHelperMaquina.Route) : List Paso :=
  .first (.request route ⟨none, [], arranque⟩) 0 :: escucha

/-- A request for thunder is handled once. -/
theorem commands_requested_trueno :
    (((machine StableButton arranque).trace
        (powerUp StableButton arranque .reposo) (escucha ++ pide .trueno)).filterMap
          handled?).count "trueno".toList = 1 := by
  have once := @commands_requested StableButton _ "trueno".toList (by decide)
    arranque .reposo (escucha ++ pide .trueno)
  have asked : (escucha ++ pide .trueno).countP (Paso.asks "trueno".toList) =
      1 := by
    decide +kernel
  have handled : 0 < (((machine StableButton arranque).trace
      (powerUp StableButton arranque .reposo)
        (escucha ++ pide .trueno)).filterMap handled?).count
          "trueno".toList := by
    decide +kernel
  omega

/-! ## Reports -/

end Enlace

namespace Maquina

/-- A text of the protocol has a word of the protocol only if it is the word. -/
theorem vocabulary_prints {word message : String} (member : word ∈ vocabulary)
    (known : message ∈ vocabulary) :
    Ends word.toList message.toList ∧
      occurrences word.toList message.toList =
        if message == word then 1 else 0 := by
  have table : ∀ word ∈ vocabulary, ∀ message ∈ vocabulary,
      Ends word.toList message.toList ∧
        occurrences word.toList message.toList =
          if message == word then 1 else 0 := by
    decide
  exact table word member message known

/-- Some words of the protocol, one after the other. -/
theorem messages_occurrences {word : String} (member : word ∈ vocabulary)
    {messages : List String} (known : ∀ message ∈ messages, message ∈ vocabulary) :
    Ends word.toList (messages.flatMap String.toList) ∧
      occurrences word.toList (messages.flatMap String.toList) =
        messages.count word := by
  induction messages with
  | nil => exact ⟨trivial, rfl⟩
  | cons message messages ih =>
      obtain ⟨ends, occurs⟩ :=
        vocabulary_prints member (known message List.mem_cons_self)
      obtain ⟨later, rest⟩ :=
        ih fun other other_mem => known other (List.mem_cons_of_mem _ other_mem)
      rw [List.flatMap_cons, ends.occurrences_append, occurs, rest,
        List.count_cons, Nat.add_comm]
      exact ⟨ends.append later, rfl⟩

variable {Button : Type} [Bounce Button]

theorem prints_known {config : Config Button} {partida : Partida}
    (tracks : Tracks config partida) (sample : Sample) :
    ∀ message ∈ prints config sample, message ∈ vocabulary := by
  rcases prints_cases tracks sample with ⟨none, -⟩ | ⟨single, -⟩ | ⟨twice, -⟩
  · rw [none]
    exact List.forall_mem_nil _
  · obtain ⟨message, known, one⟩ := single
    rw [one]
    exact List.forall_mem_singleton.mpr known
  · rw [twice]
    decide

theorem emit_bytes (config : Config Button) (sample : Sample) :
    ((machine Button).emit config sample).flatMap Event.bytes =
      (prints config sample).flatMap String.toList := by
  rw [prints]
  generalize (machine Button).emit config sample = events
  induction events with
  | nil => rfl
  | cons event events ih =>
      rw [List.flatMap_cons, ih]
      cases event <;> rfl

/-- What an operation prints has a word as often as it sends it. -/
theorem prints_occurrences {word : String} (member : word ∈ vocabulary)
    {config : Config Button} {partida : Partida} (tracks : Tracks config partida)
    (sample : Sample) :
    let text := ((machine Button).emit config sample).flatMap Event.bytes
    Ends word.toList text ∧
      occurrences word.toList text = (prints config sample).count word := by
  dsimp only
  rw [emit_bytes]
  exact messages_occurrences member (prints_known tracks sample)

end Maquina

namespace WifiHelperMaquina

/-- The log has no datagrams. -/
theorem bootLog_packets (boot : Boot) :
    (bootLog boot).filterMap NodeEvent.packet? = [] := by
  have dots (tries : Nat) :
      (connecting tries).filterMap NodeEvent.packet? = [] := by
    simp [connecting, NodeEvent.packet?]
  have failed : (List.replicate boot.failed (connecting 62)).flatten.filterMap
      NodeEvent.packet? = [] := by
    rw [List.filterMap_flatten, List.map_replicate, dots]
    exact List.flatten_replicate_nil
  have server : (serverLog boot.udp).filterMap NodeEvent.packet? = [] := rfl
  rw [bootLog, List.filterMap_append, List.filterMap_append,
    List.filterMap_append, failed, dots, server]
  rfl

/-- What the helper sends in a turn is cut out of what it takes off the link. -/
theorem count_packets_le {word : Text} (nonempty : word ≠ []) (boot : Boot)
    (helper : WifiHelperMaquina) (turno : Turno Route Sample) :
    (((node boot).machine.emit helper turno).filterMap
        NodeEvent.packet?).count word ≤
      occurrences word (Linked.forgotten
        (helper.incomingData ++ (Turno.poll Sample.serial turno).getD [])
        ((node boot).machine.step helper turno).incomingData) := by
  by_cases keepsOn : KeepsOn turno
  · rw [(polls boot).pieces helper keepsOn]
    exact Wire.count_process_le trim_isInfix nonempty _
  · have silent : ((node boot).machine.emit helper turno).filterMap
        NodeEvent.packet? = [] := by
      cases turno with
      | request route sample =>
          cases route with
          | reset => exact bootLog_packets sample.boot
          | root | test | on | off | son | soff | trueno =>
              exact absurd trivial keepsOn
      | iterate sample => exact absurd trivial keepsOn
    rw [silent]
    exact Nat.zero_le _

end WifiHelperMaquina

namespace Enlace

variable {Button : Type} [Bounce Button]

/-- The link from the machine to the helper. -/
def uplink (Button : Type) [Bounce Button]
    (encendido : WifiHelperMaquina.Boot) :
    Wire (machine Button encendido) Char :=
  Linked.backWire (WifiHelperMaquina.endpoint encendido)
    (Maquina.endpoint Button) (fun helper => helper.incomingData)
    (WifiHelperMaquina.incomingData_suffix encendido)

/-- The datagrams which the helper sends. -/
def sent? : NodeEvent ⊕ Maquina.Event → Option Text
  | .inl event => event.packet?
  | .inr _ => none

/-- The words which the machine prints. -/
def reported? : NodeEvent ⊕ Maquina.Event → Option String
  | .inl _ => none
  | .inr event => event.serial1?

theorem sent_map_inl (events : List NodeEvent) :
    (events.map (Sum.inl : NodeEvent → NodeEvent ⊕ Maquina.Event)).filterMap
        sent? = events.filterMap NodeEvent.packet? := by
  rw [List.filterMap_map]
  rfl

theorem sent_map_inr (events : List Maquina.Event) :
    (events.map (Sum.inr : Maquina.Event → NodeEvent ⊕ Maquina.Event)).filterMap
        sent? = [] := by
  rw [List.filterMap_map]
  exact List.filterMap_eq_nil_iff.mpr fun _ _ => rfl

theorem reported_map_inr (events : List Maquina.Event) :
    (events.map (Sum.inr : Maquina.Event → NodeEvent ⊕ Maquina.Event)).filterMap
        reported? = events.filterMap Maquina.Event.serial1? := by
  rw [List.filterMap_map]
  rfl

/-- The machine is somewhere in a game. -/
def Playing (enlace : Enlace Button) : Prop :=
  ∃ partida, Maquina.Tracks enlace.second partida

theorem Playing.step (encendido : WifiHelperMaquina.Boot)
    {enlace : Enlace Button} (playing : enlace.Playing) (paso : Paso) :
    ((machine Button encendido).step enlace paso).Playing := by
  obtain ⟨partida, tracks⟩ := playing
  cases paso with
  | first turno arrived => exact ⟨partida, tracks⟩
  | second sample arrived =>
      obtain ⟨action, steps⟩ := Maquina.step_tracks tracks
        (enlace.secondInput (Maquina.endpoint Button) sample arrived)
      exact ⟨_, steps.tracks⟩

/-- However the link and the idle polls of the helper cut and join the words, a
word is not sent to the game controller more often than the machine printed it,
and the game controller is told of no win that has not happened. -/
theorem reports_printed {word : String} (member : word ∈ Maquina.vocabulary)
    (encendido : WifiHelperMaquina.Boot) (boot : Maquina.Sample)
    (pasos : List Paso) :
    (((machine Button encendido).trace (powerUp Button encendido boot)
        pasos).filterMap sent?).count word.toList ≤
      (((machine Button encendido).trace (powerUp Button encendido boot)
        pasos).filterMap reported?).count word := by
  have nonempty : word.toList ≠ [] := by
    revert word
    decide
  have tallies : (uplink Button encendido).Tallies word.toList Playing
      (fun enlace paso => ((machine Button encendido).emit enlace paso).countP
        fun event => sent? event == some word.toList)
      (fun enlace paso => ((machine Button encendido).emit enlace paso).countP
        fun event => reported? event == some word) := by
    refine ⟨fun _ paso playing => playing.step encendido paso,
      fun enlace paso => ?_, fun enlace paso playing => ?_,
      fun enlace paso playing => ?_⟩
    · rw [← List.count_filterMap]
      cases paso with
      | first turno arrived =>
          change List.count _ ((List.map Sum.inl _).filterMap sent?) ≤ _
          rw [sent_map_inl]
          exact WifiHelperMaquina.count_packets_le nonempty encendido _ _
      | second sample arrived =>
          change List.count _ ((List.map Sum.inr _).filterMap sent?) ≤ _
          rw [sent_map_inr]
          exact Nat.zero_le _
    · cases paso with
      | first turno arrived => exact Foreign.nil.ends
      | second sample arrived =>
          obtain ⟨partida, tracks⟩ := playing
          exact (Maquina.prints_occurrences member tracks _).1
    · rw [← List.count_filterMap]
      cases paso with
      | first turno arrived => exact Nat.zero_le _
      | second sample arrived =>
          obtain ⟨partida, tracks⟩ := playing
          change _ ≤ List.count _ ((List.map Sum.inr _).filterMap reported?)
          rw [reported_map_inr]
          exact (Maquina.prints_occurrences member tracks _).2.le
  have started : Foreign word.toList
      ((uplink Button encendido).stream (powerUp Button encendido boot)) :=
    Foreign.nil
  have once := tallies.at_most_once
    ⟨_, Maquina.setup_tracks Button boot⟩ started pasos
  rw [MealyMachine.total_events, MealyMachine.total_events,
    ← List.count_filterMap, ← List.count_filterMap] at once
  exact once

/-- The plug is put in, and the helper has time for the report. -/
def enchufa : List Paso :=
  List.replicate 100 (.second .enchufado 0) ++
    List.replicate 26 (.first (.iterate ⟨none, [], arranque⟩) 1000)

/-- A plug which is put in is reported once. -/
theorem reports_printed_enchufa :
    (((machine StableButton arranque).trace
        (powerUp StableButton arranque .reposo) enchufa).filterMap
          sent?).count "ON".toList = 1 := by
  have once := @reports_printed StableButton _ "ON" (by decide) arranque .reposo
    enchufa
  have printed : (((machine StableButton arranque).trace
      (powerUp StableButton arranque .reposo) enchufa).filterMap
        reported?).count "ON" = 1 := by
    decide +kernel
  have sent : 0 < (((machine StableButton arranque).trace
      (powerUp StableButton arranque .reposo) enchufa).filterMap
        sent?).count "ON".toList := by
    decide +kernel
  omega

end Enlace

/-! ## Patience -/

/-- A character which is not a space is not trimmed away. -/
theorem mem_trim {text : Text} {character : Char} (member : character ∈ text)
    (visible : isSpace character = false) : character ∈ trim text := by
  have kept {text : Text} (member : character ∈ text) :
      character ∈ text.dropWhile isSpace := by
    rw [← List.takeWhile_append_dropWhile (p := isSpace) (l := text),
      List.mem_append] at member
    rcases member with space | rest
    · simp [List.mem_takeWhile_imp space] at visible
    · exact rest
  exact List.mem_reverse.mpr (kept (List.mem_reverse.mpr (kept member)))

/-- A text with a character which no command has is no command. -/
theorem ordered_of_mem {commands : List Text} {text : Text} {character : Char}
    (member : character ∈ text) (visible : isSpace character = false)
    (foreign : ∀ command ∈ commands, character ∉ command) :
    Wire.ordered trim commands text = [] :=
  if_neg fun command => foreign _ command (mem_trim member visible)

theorem Maquina.ordered_nil : Wire.ordered trim Maquina.commands [] = [] := by
  decide

namespace WifiHelperMaquina

instance : (turno : Turno Route Sample) → Decidable (KeepsOn turno)
  | .request .reset _ => isFalse id
  | .request .root _ | .request .test _ | .request .on _ | .request .off _
  | .request .son _ | .request .soff _ | .request .trueno _ | .iterate _ =>
      isTrue trivial

/-- The command which a turn requests. -/
def requested? : Turno Route Sample → Option Text
  | .request .root _ | .request .test _ | .iterate _ => none
  | .request route _ => some route.command

/-- The commands have no capital letters, and the log has some. -/
theorem bootLog_ordered {commands : List Text} (boot : Boot)
    (foreign : ∀ command ∈ commands, 'C' ∉ command) :
    Wire.ordered trim commands ((bootLog boot).flatMap NodeEvent.bytes) = [] := by
  have line : NodeEvent.print "Connecting" ∈ bootLog boot := by
    simp [bootLog, connecting]
  have letter : 'C' ∈ (NodeEvent.print "Connecting").bytes := by decide
  exact ordered_of_mem (List.mem_flatMap_of_mem line letter) (by decide) foreign

theorem packetLog_ordered {commands : List Text} (packet : Packet)
    (foreign : ∀ command ∈ commands, 'R' ∉ command) :
    Wire.ordered trim commands ((packetLog packet).flatMap NodeEvent.bytes) =
      [] := by
  have line : NodeEvent.print "Received packet of size " ∈ packetLog packet := by
    simp [packetLog, senderLog]
  have letter : 'R' ∈ (NodeEvent.print "Received packet of size ").bytes := by
    decide
  exact ordered_of_mem (List.mem_flatMap_of_mem line letter) (by decide) foreign

/-- A turn prints the command which it requests, and no other. -/
theorem turno_ordered (boot : Boot) (helper : WifiHelperMaquina)
    {turno : Turno Route Sample} (keepsOn : KeepsOn turno) :
    Wire.ordered trim Maquina.commands
        (((node boot).machine.emit helper turno).flatMap NodeEvent.bytes) =
      (requested? turno).toList := by
  cases turno with
  | request route sample =>
      cases route with
      | reset => exact keepsOn.elim
      | root =>
          change Wire.ordered trim Maquina.commands
            (info.root.flatMap NodeEvent.bytes) = []
          decide
      | test =>
          change Wire.ordered trim Maquina.commands
            (info.test.flatMap NodeEvent.bytes) = []
          decide
      | on | off | son | soff | trueno =>
          change Wire.ordered trim Maquina.commands (_ ++ (_ ++ [])) = [_]
          decide
  | iterate sample =>
      change Wire.ordered trim Maquina.commands
        ((forward sample.serial (udpRead sample.packet
          { helper with out := [] })).out.flatMap NodeEvent.bytes) = []
      rw [forward_bytes]
      cases sample.packet with
      | none => exact Maquina.ordered_nil
      | some packet => exact packetLog_ordered packet (by decide)

end WifiHelperMaquina

namespace Enlace

variable {Button : Type} [Bounce Button]

/-- The command which a step requests. -/
def Paso.requested? : Paso → Option Text
  | .first turno _ => WifiHelperMaquina.requested? turno
  | .second _ _ => none

/-- The helper is not restarted. -/
def Paso.KeepsOn : Paso → Prop
  | .first turno _ => WifiHelperMaquina.KeepsOn turno
  | .second _ _ => True

instance : (paso : Paso) → Decidable paso.KeepsOn
  | .first turno _ => inferInstanceAs (Decidable (WifiHelperMaquina.KeepsOn turno))
  | .second _ _ => isTrue trivial

/-- What a step prints for the machine is what it requests. -/
theorem downlink_ordered (encendido : WifiHelperMaquina.Boot)
    (enlace : Enlace Button) {paso : Paso} (keepsOn : paso.KeepsOn) :
    Wire.ordered trim Maquina.commands
        ((downlink Button encendido).printed enlace paso) =
      paso.requested?.toList := by
  cases paso with
  | second sample arrived => exact Maquina.ordered_nil
  | first turno arrived =>
      have arrives : WifiHelperMaquina.KeepsOn
          (enlace.firstInput (WifiHelperMaquina.endpoint encendido) turno
            arrived) := by
        cases turno with
        | request route sample => cases route <;> exact keepsOn
        | iterate sample => trivial
      refine (WifiHelperMaquina.turno_ordered encendido enlace.first
        arrives).trans ?_
      cases turno with
      | request route sample => cases route <;> rfl
      | iterate sample => rfl

/-- On a link which is used with patience, the machine handles the commands which
are requested from the helper one by one and in their order, and only the last
one can still be on its way. -/
theorem requests_handled (encendido : WifiHelperMaquina.Boot)
    (boot : Maquina.Sample) {pasos : List Paso}
    (patient : (machine Button encendido).Along
      (downlink Button encendido).Patient (powerUp Button encendido boot) pasos)
    (keepsOn : ∀ paso ∈ pasos, paso.KeepsOn) :
    (((machine Button encendido).trace (powerUp Button encendido boot)
          pasos).filterMap handled?).filter (· ∈ Maquina.commands) ++
        Wire.ordered trim Maquina.commands ((downlink Button encendido).stream
          (after Button encendido boot pasos)) =
      pasos.filterMap Paso.requested? := by
  have started : (downlink Button encendido).stream
      (powerUp Button encendido boot) =
        (WifiHelperMaquina.bootLog encendido).flatMap NodeEvent.bytes :=
    rfl
  have silent : Wire.ordered trim Maquina.commands ((downlink Button
      encendido).stream (powerUp Button encendido boot)) = [] := by
    rw [started]
    exact WifiHelperMaquina.bootLog_ordered encendido (by decide)
  rw [MealyMachine.filterMap_trace]
  exact Wire.handled_in_order Maquina.ordered_nil (handled_pieces encendido)
    (fun enlace _ => downlink_ordered encendido enlace) silent patient keepsOn

/-- After the log of the power-up, `on` is handled. -/
theorem requests_handled_on :
    (((machine StableButton arranque).trace
        (powerUp StableButton arranque .reposo) (escucha ++ pide .on)).filterMap
          handled?).filter (· ∈ Maquina.commands) = ["on".toList] := by
  have arrives : (downlink StableButton arranque).stream
      (after StableButton arranque .reposo (escucha ++ pide .on)) = [] := by
    decide +kernel
  have handled := @requests_handled StableButton _ arranque .reposo
    (escucha ++ pide .on) (by decide +kernel) (by decide +kernel)
  rw [arrives, Maquina.ordered_nil, List.append_nil] at handled
  rw [handled]
  decide +kernel

end Enlace

end Salsipuedes

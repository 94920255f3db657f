import Salsipuedes.MaquinaState

/-!
# Nodes of the WiFi network

A node runs a web server and sends datagrams to the game controller.  Its sketch
consists of one handler for each route, which answers a request, and of the body
of `loop`, which runs after the server has had its turn.  This file fixes what a
node is, the machine whose inputs are requests and iterations, and the handlers
which all nodes share.
-/

namespace Salsipuedes

open Maquina (CRGB)

/-- What a node does to the outside: it answers requests with text, sends
datagrams to the game controller, prints on `Serial` and plays its LEDs and its
buzzer. -/
inductive NodeEvent where
  | send (code : Nat) (content : String)
  | packet (message : Text)
  | print (text : String)
  | println (line : String)
  | show (leds : List CRGB) (brightness : Nat)
  | tone (frequency : Int) (duration : Option Int)
  | noTone
  deriving DecidableEq

/-- A call of `server.send`. -/
def NodeEvent.isSend : NodeEvent → Bool
  | .send _ _ => true
  | _ => false

/-- The message of a datagram. -/
def NodeEvent.packet? : NodeEvent → Option Text
  | .packet message => some message
  | _ => none

/-- The message of a datagram which is one of two. -/
def NodeEvent.among (first second : Text) : NodeEvent → Option Text
  | .packet message =>
      if message = first ∨ message = second then some message else none
  | _ => none

theorem NodeEvent.mem_among_iff {first second message : Text}
    {events : List NodeEvent} (one : message = first ∨ message = second) :
    message ∈ events.filterMap (NodeEvent.among first second) ↔
      NodeEvent.packet message ∈ events := by
  rw [List.mem_filterMap]
  constructor
  · rintro ⟨event, member, shown⟩
    cases event with
    | packet text =>
        by_cases chosen : text = first ∨ text = second
        · rw [NodeEvent.among, if_pos chosen] at shown
          exact Option.some.inj shown ▸ member
        · rw [NodeEvent.among, if_neg chosen] at shown
          cases shown
    | send code content => cases shown
    | print text => cases shown
    | println line => cases shown
    | «show» leds brightness => cases shown
    | tone frequency duration => cases shown
    | noTone => cases shown
  · exact fun member => ⟨_, member, if_pos one⟩

/-- What happens to a node next: its server handles a request to one of its
routes, or the body of `loop` runs. -/
inductive Turno (Route Sample : Type) where
  | request (route : Route) (sample : Sample)
  | iterate (sample : Sample)

/-- The sketch of a node: its globals after `setup`, its handlers, the body of
`loop`, and the effects which its globals have collected. -/
structure WifiNode (Global Route Sample : Type) where
  setup : Global
  handle : Route → Sample → Global → Global
  loop : Sample → Global → Global
  out : Global → List NodeEvent
  silence : Global → Global

namespace WifiNode

variable {Global Route Sample : Type} (node : WifiNode Global Route Sample)

def perform : Turno Route Sample → Global → Global
  | .request route sample => node.handle route sample
  | .iterate sample => node.loop sample

/-- The node as a machine which emits the effects of each turn. -/
def machine : MealyMachine Global (Turno Route Sample) NodeEvent where
  step global turno := node.perform turno (node.silence global)
  emit global turno := node.out (node.perform turno (node.silence global))

/-- The globals after some turns from power-up. -/
def after (turnos : List (Turno Route Sample)) : Global :=
  node.machine.run node.setup turnos

/-- How many responses a turn sends. -/
def responses (global : Global) (turno : Turno Route Sample) : Nat :=
  (node.machine.emit global turno).countP NodeEvent.isSend

/-- A request is answered exactly once, and nothing else is. -/
def Answers (global : Global) : Turno Route Sample → Prop
  | .request route sample => node.responses global (.request route sample) = 1
  | .iterate sample => node.responses global (.iterate sample) = 0

instance (global : Global) (turno : Turno Route Sample) :
    Decidable (node.Answers global turno) :=
  match turno with
  | .request _ _ => inferInstanceAs (Decidable (_ = 1))
  | .iterate _ => inferInstanceAs (Decidable (_ = 0))

/-- In every reachable state the turns which keep the discipline are those which
meet a condition. -/
def Discipline (Answered : Global → Turno Route Sample → Prop) : Prop :=
  ∀ global, node.machine.Reachable node.setup global →
    ∀ turno, node.Answers global turno ↔ Answered global turno

end WifiNode

/-- What a node says about itself: its description, its name, the list of its
methods and its ports. -/
structure NodeInfo where
  description : String
  controllerId : String
  methods : String
  pcRemotePort : Nat
  localPort : Nat

/-- The message of `handleRoot`. -/
def NodeInfo.message (info : NodeInfo) : String :=
  info.description ++ info.controllerId ++ "\n\n metodos: \n" ++ info.methods ++
    "manda a puerto: \n" ++ toString info.pcRemotePort ++
    "\n recibe en puerto: \n" ++ toString info.localPort

/-- The effects of `handleRoot`, which is the same in every node. -/
def NodeInfo.root (info : NodeInfo) : List NodeEvent :=
  [.send 200 info.message, .println "root request", .println "root request"]

/-- The effects of `handleTest`, which is the same in every node. -/
def NodeInfo.test (info : NodeInfo) : List NodeEvent :=
  [.send 200 info.controllerId, .println "testing request"]

end Salsipuedes

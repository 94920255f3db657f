import Salsipuedes.IdleFraming
import Salsipuedes.WifiNode

/-!
# The helper of the machine

The `wifi-helper-maquina` sketch is the link between the game controller and the
machine: everything it prints on `Serial` is read by the machine, its commands as
well as its log, and what the machine prints is framed by idle polls and sent as
datagrams.
-/

namespace Salsipuedes

structure WifiHelperMaquina extends IdleReceiver Char where
  out : List NodeEvent
  deriving DecidableEq

namespace WifiHelperMaquina

/-- What `setup` waits for: rounds in which the network is not found, after each
of which the sketch restarts, then some tries, and the answer of the UDP stack. -/
structure Boot where
  failed : Nat
  tries : Nat
  localIP : Nat → UInt8
  udp : Bool

/-- A datagram which `UDPRead` finds: its size, its sender, and the first two
bytes of the buffer after it was read. -/
structure Packet where
  size : Nat
  remoteIP : Nat → UInt8
  remotePort : Nat
  byte0 : UInt8
  byte1 : UInt8

/-- What a turn samples: a datagram, the bytes which are available on `Serial`,
and, in case the sketch restarts, what it waits for. -/
structure Sample where
  packet : Option Packet
  serial : Text
  boot : Boot

inductive Route where
  | root
  | test
  | reset
  | on
  | off
  | son
  | soff
  | trueno
  deriving DecidableEq

def ssid : String := "NICTOPIA"

def info : NodeInfo where
  description := "detecta iman\n\n"
  controllerId := "hab13maquina"
  methods := "/test /reset  \n\n"
  pcRemotePort := 1304
  localPort := 1304

def emit (event : NodeEvent) (helper : WifiHelperMaquina) :
    WifiHelperMaquina :=
  { helper with out := helper.out ++ [event] }

/-- Several effects, one after the other. -/
def emitAll (events : List NodeEvent) (helper : WifiHelperMaquina) :
    WifiHelperMaquina :=
  { helper with out := helper.out ++ events }

/-! ## Serial output -/

/-- The byte which `printNumber` makes of a digit: those after `9` are counted
from `A` on. -/
def digitByte (digit : Nat) : Char :=
  Char.ofNat ((if digit < 10 then digit + 48 else digit + 55) % 256)

/-- `Serial.print` of a number in a base.  It ends at a zero byte. -/
def printNumber (number base : Nat) : String :=
  if number = 0 then "0"
  else String.ofList (((Nat.digits base number).reverse.map digitByte).takeWhile
    (· ≠ Char.ofNat 0))

/-- The base which `Serial.print` makes of its parameter, a byte above 1. -/
def printBase (base : Nat) : Nat :=
  if base % 256 < 2 then 10 else base % 256

/-- Four bytes in decimal, with a separator after each but the last. -/
def printIP (bytes : Nat → UInt8) : List NodeEvent :=
  [.print (printNumber (bytes 0).toNat 10), .print ".",
    .print (printNumber (bytes 1).toNat 10), .print ".",
    .print (printNumber (bytes 2).toNat 10), .print ".",
    .print (printNumber (bytes 3).toNat 10)]

/-- The lines of `connectWifi` until the network is found or the sketch gives
up. -/
def connecting (tries : Nat) : List NodeEvent :=
  .println "" :: .println "Connecting to WiFi" :: .print "Connecting" ::
    List.replicate tries (.print ".")

/-- The lines of `connectWifi` about the network which was found. -/
def connectedLog (localIP : Nat → UInt8) : List NodeEvent :=
  .println "" :: .print "Connected to " :: .println ssid ::
    .print "IP address: " :: (printIP localIP).concat (.println "")

/-- The lines about the server and about `connectUDP`.  The quote in the second
of them is three bytes of the source file. -/
def serverLog (udp : Bool) : List NodeEvent :=
  [.println "HTTP server started", .println "",
    .println "Connecting to UDP\u00e2\u0080\u009d",
    .println (if udp = true then "Connection successful"
      else "Connection failed")]

/-- Everything that `setup` prints. -/
def bootLog (boot : Boot) : List NodeEvent :=
  (List.replicate boot.failed (connecting 62)).flatten ++
    connecting boot.tries ++ connectedLog boot.localIP ++ serverLog boot.udp

/-- What `UDPRead` prints about where a datagram comes from. -/
def senderLog (packet : Packet) : List NodeEvent :=
  .println "" :: .print "Received packet of size " ::
    .println (printNumber packet.size 10) :: .print "From " ::
    (printIP packet.remoteIP ++
      [.print ", port ", .println (printNumber packet.remotePort 10)])

/-- What `UDPRead` prints about the first bytes of a datagram.  The size of the
datagram serves as the base. -/
def contentsLog (packet : Packet) : List NodeEvent :=
  [.println "Contents:",
    .println (printNumber (packet.byte0.toNat * 256 + packet.byte1.toNat) 10),
    .print "Packet contents: [",
    .print (printNumber packet.byte0.toNat (printBase packet.size)),
    .println "]"]

/-- Everything that `UDPRead` prints about a datagram. -/
def packetLog (packet : Packet) : List NodeEvent :=
  senderLog packet ++ contentsLog packet

/-! ## Handlers -/

/-- Power-up, after the effects of what came before. -/
def restart (boot : Boot) (before : List NodeEvent) : WifiHelperMaquina where
  incomingData := []
  lastCharTime := 0
  out := before ++ bootLog boot

/-- The handler ends with a restart of the sketch. -/
def handleReset (boot : Boot) (helper : WifiHelperMaquina) :
    WifiHelperMaquina :=
  restart boot (helper.emitAll
    [.send 200 "reset", .println "reset", .send 200 "OFF"]).out

/-- The handlers of the commands answer with their word and print it. -/
def handleCommand (word : String) (helper : WifiHelperMaquina) :
    WifiHelperMaquina :=
  helper.emitAll [.send 200 word, .println word]

def handleOn (helper : WifiHelperMaquina) : WifiHelperMaquina :=
  handleCommand "on" helper

def handleSOn (helper : WifiHelperMaquina) : WifiHelperMaquina :=
  handleCommand "son" helper

def handleOff (helper : WifiHelperMaquina) : WifiHelperMaquina :=
  handleCommand "off" helper

def handleSOff (helper : WifiHelperMaquina) : WifiHelperMaquina :=
  handleCommand "soff" helper

def handleTrueno (helper : WifiHelperMaquina) : WifiHelperMaquina :=
  handleCommand "trueno" helper

def handle (route : Route) (sample : Sample) (helper : WifiHelperMaquina) :
    WifiHelperMaquina :=
  match route with
  | .root => helper.emitAll info.root
  | .test => helper.emitAll info.test
  | .reset => handleReset sample.boot helper
  | .on => handleOn helper
  | .off => handleOff helper
  | .son => handleSOn helper
  | .soff => handleSOff helper
  | .trueno => handleTrueno helper

/-! ## Loop -/

def udpRead (packet : Option Packet) (helper : WifiHelperMaquina) :
    WifiHelperMaquina :=
  match packet with
  | some packet => helper.emitAll (packetLog packet)
  | none => helper

/-- What the machine printed is sent on when its link has been idle. -/
def forward (serial : Text) (helper : WifiHelperMaquina) :
    WifiHelperMaquina :=
  let helper :=
    { helper with
      toIdleReceiver := helper.toIdleReceiver.receive 32 serial }
  if helper.toIdleReceiver.complete 25 then
    let helper := helper.emit (.packet (trim helper.incomingData))
    { helper with toIdleReceiver := helper.toIdleReceiver.clear }
  else
    helper

/-- The body of `loop`. -/
def loop (sample : Sample) (helper : WifiHelperMaquina) : WifiHelperMaquina :=
  forward sample.serial (udpRead sample.packet helper)

def node (boot : Boot) : WifiNode WifiHelperMaquina Route Sample where
  setup := restart boot []
  handle := handle
  loop := loop
  out := WifiHelperMaquina.out
  silence helper := { helper with out := [] }

end WifiHelperMaquina

end Salsipuedes

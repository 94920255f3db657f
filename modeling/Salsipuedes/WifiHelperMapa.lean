import Salsipuedes.IdleFraming
import Salsipuedes.WifiNode

/-!
# The helper of the map

The `wifi-helper-mapa` sketch is the link between the game controller and the
map, which has no network of its own: what it prints on `Serial` is read by the
map, and what the map prints is framed by idle polls and sent as datagrams.
-/

namespace Salsipuedes

structure WifiHelperMapa extends IdleReceiver Char where
  out : List NodeEvent
  deriving DecidableEq

namespace WifiHelperMapa

inductive Route where
  | root
  | test
  | reset
  | alarma
  deriving DecidableEq

def info : NodeInfo where
  description := "mapa con luces y alarma \n\n"
  controllerId := "androMapa"
  methods := "/test /reset /alarma \n\n"
  pcRemotePort := 7001
  localPort := 7001

def emit (event : NodeEvent) (helper : WifiHelperMapa) : WifiHelperMapa :=
  { helper with out := helper.out ++ [event] }

/-! ## Handlers -/

def handleReset (helper : WifiHelperMapa) : WifiHelperMapa :=
  (helper.emit (.send 200 "reset")).emit (.println "reset")

def handleAlarma (helper : WifiHelperMapa) : WifiHelperMapa :=
  (helper.emit (.send 200 "alarma")).emit (.println "alarma")

def handle (route : Route) (_ : Text) (helper : WifiHelperMapa) :
    WifiHelperMapa :=
  match route with
  | .root => { helper with out := helper.out ++ info.root }
  | .test => { helper with out := helper.out ++ info.test }
  | .reset => handleReset helper
  | .alarma => handleAlarma helper

/-! ## Loop -/

/-- The body of `loop`, with the bytes which are available on `Serial`. -/
def loop (serial : Text) (helper : WifiHelperMapa) : WifiHelperMapa :=
  let helper :=
    { helper with
      toIdleReceiver := helper.toIdleReceiver.receive 32 serial }
  if helper.toIdleReceiver.complete 25 then
    let helper := helper.emit (.packet (trim helper.incomingData))
    { helper with toIdleReceiver := helper.toIdleReceiver.clear }
  else
    helper

def setup : WifiHelperMapa where
  incomingData := []
  lastCharTime := 0
  out := []

def node : WifiNode WifiHelperMapa Route Text where
  setup := setup
  handle := handle
  loop := loop
  out := WifiHelperMapa.out
  silence helper := { helper with out := [] }

end WifiHelperMapa

end Salsipuedes

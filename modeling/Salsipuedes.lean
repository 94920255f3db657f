import Salsipuedes.MealyMachine
import Salsipuedes.ArduinoCore
import Salsipuedes.IdleFraming
import Salsipuedes.MaquinaState
import Salsipuedes.MaquinaIncoming
import Salsipuedes.MaquinaLoop
import Salsipuedes.MaquinaMarcos
import Salsipuedes.MaquinaPartida
import Salsipuedes.MaquinaSimulation
import Salsipuedes.MaquinaRuns
import Salsipuedes.EventHistory
import Salsipuedes.MaquinaFlow
import Salsipuedes.MaquinaSalida
import Salsipuedes.MaquinaWins
import Salsipuedes.MaquinaStage
import Salsipuedes.MaquinaInterrupcion
import Salsipuedes.StableButton
import Salsipuedes.MaquinaReset
import Salsipuedes.MaquinaCuentas
import Salsipuedes.MaquinaEnchufe
import Salsipuedes.MaquinaMando
import Salsipuedes.MaquinaTrueno
import Salsipuedes.MaquinaGiro
import Salsipuedes.MaquinaTurbina
import Salsipuedes.MaquinaRadio
import Salsipuedes.MaquinaPlazo
import Salsipuedes.Telefono
import Salsipuedes.Alternation
import Salsipuedes.TelefonoTubo
import Salsipuedes.TelefonoDisco
import Salsipuedes.TelefonoManual
import Salsipuedes.TelefonoColgado
import Salsipuedes.Portal
import Salsipuedes.PortalAnillo
import Salsipuedes.PortalOffline
import Salsipuedes.Silla
import Salsipuedes.Cuadro
import Salsipuedes.CuadroRFID
import Salsipuedes.Trueno
import Salsipuedes.Velador
import Salsipuedes.WifiHelperMapa
import Salsipuedes.WifiDisciplina
import Salsipuedes.MapaLeds
import Salsipuedes.WifiHelperMaquina
import Salsipuedes.MaquinaReceptor
import Salsipuedes.MaquinaMemoria
import Salsipuedes.Receptores
import Salsipuedes.Subida
import Salsipuedes.Impresion
import Salsipuedes.Bajada
import Salsipuedes.Linked
import Salsipuedes.Enlace
import Salsipuedes.Occurrences
import Salsipuedes.Registro
import Salsipuedes.Wire
import Salsipuedes.EnlaceEntrega
import Salsipuedes.MapaEnlace
import Salsipuedes.MaquinaTablero
import Salsipuedes.MaquinaVuelta
import Salsipuedes.MaquinaBrillo
import Salsipuedes.MaquinaVictoria
import Salsipuedes.TelefonoReintento
import Salsipuedes.MapaBitacora
import Salsipuedes.TruenoTormenta

import Salsipuedes.EventHistory
import Salsipuedes.WifiNode

/-!
# The picture with a card reader

The `RFID-cuadro` sketch reads cards until it has seen the right one, which
lights a laser, and reports every card.  The reader is not part of the
repository, so an iteration samples its answers.
-/

namespace Salsipuedes

structure CuadroRFID where
  validado : Bool
  laser : Bool
  out : List NodeEvent
  deriving DecidableEq

namespace CuadroRFID

/-- What an iteration asks the reader: whether there is a new card, whether its
serial number can be read, what it answers when the number is read once more, and the
first four bytes of the number after that. -/
structure Sample where
  newCard : Bool
  readSerial : Bool
  currentCode : Bool
  uidByte : Nat → Nat

inductive Route where
  | root
  | test
  | reset
  | manual
  deriving DecidableEq

def byte0 : Nat := 50
def byte1 : Nat := 247
def byte2 : Nat := 172
def byte3 : Nat := 213

def info : NodeInfo where
  description := "detecta rfid y prende laser"
  controllerId := "hab13cuadro"
  methods := "/test /reset /manual - responde  WIN FAIL \n\n"
  pcRemotePort := 1303
  localPort := 1303

def emit (event : NodeEvent) (cuadro : CuadroRFID) : CuadroRFID :=
  { cuadro with out := cuadro.out ++ [event] }

/-! ## Handlers -/

def handleReset (cuadro : CuadroRFID) : CuadroRFID :=
  let cuadro := cuadro.emit (.send 200 "reset")
  let cuadro := cuadro.emit (.println "reset")
  { cuadro with laser := low, validado := false }.emit .noTone

def handleManual (cuadro : CuadroRFID) : CuadroRFID :=
  { cuadro with laser := high }.emit (.tone 70 (some 600))

def handle (route : Route) (_ : Sample) (cuadro : CuadroRFID) : CuadroRFID :=
  match route with
  | .root => { cuadro with out := cuadro.out ++ info.root }
  | .test => { cuadro with out := cuadro.out ++ info.test }
  | .reset => handleReset cuadro
  | .manual => handleManual cuadro

/-! ## Loop -/

/-- The answer of the reader as a string. -/
def code (currentCode : Bool) : String :=
  if currentCode then "1" else "0"

/-- The serial number of a card, printed and compared. -/
def judge (sample : Sample) (cuadro : CuadroRFID) : CuadroRFID :=
  let cuadro := cuadro.emit (.println (code sample.currentCode))
  let cuadro := (List.range 4).foldl
    (fun cuadro i => cuadro.emit (.println (toString (sample.uidByte i))))
    cuadro
  if sample.uidByte 0 = byte0 ∧ sample.uidByte 1 = byte1 ∧
      sample.uidByte 2 = byte2 ∧ sample.uidByte 3 = byte3 then
    let cuadro := cuadro.emit (.println "WIN")
    let cuadro := cuadro.emit (.tone 70 (some 600))
    let cuadro := { cuadro with laser := high }.emit (.packet "WIN".toList)
    { cuadro with validado := true }
  else
    let cuadro := cuadro.emit (.println "FAIL")
    cuadro.emit (.packet "FAIL".toList)

/-- The body of `loop`. -/
def loop (sample : Sample) (cuadro : CuadroRFID) : CuadroRFID :=
  if cuadro.validado = false then
    if sample.newCard = false then cuadro
    else if sample.readSerial = false then cuadro
    else judge sample cuadro
  else
    cuadro

def setup : CuadroRFID where
  validado := false
  laser := low
  out := []

def node : WifiNode CuadroRFID Route Sample where
  setup := setup
  handle := handle
  loop := loop
  out := CuadroRFID.out
  silence cuadro := { cuadro with out := [] }

/-! ## Verdicts -/

open EventHistory

def win : Text := "WIN".toList
def fail : Text := "FAIL".toList

/-- The picture has been solved. -/
def isWin (event : NodeEvent) : Bool :=
  event = .packet win

/-- The picture has been reset. -/
def isReset (event : NodeEvent) : Bool :=
  event = .send 200 "reset"

/-- The buzzer sounds. -/
def sounds (event : NodeEvent) : Bool :=
  event = .tone 70 (some 600)

/-- A datagram. -/
def isPacket (event : NodeEvent) : Bool :=
  event.packet?.isSome

/-- The globals follow from what has been emitted, nothing has been sent between a
`WIN` and the next reset, and everything that has been sent is a verdict. -/
structure Records (history : List NodeEvent) (cuadro : CuadroRFID) : Prop where
  validado : cuadro.validado = marked isWin isReset false history
  laser : cuadro.laser = marked sounds isReset false history
  barred : Barred isWin isReset isPacket false history
  verdicts : ∀ event ∈ history, isPacket event = true →
    event = .packet win ∨ event = .packet fail

/-- What a turn adds to a history. -/
theorem Records.append {history events : List NodeEvent}
    {before after : CuadroRFID} (records : Records history before)
    (validado : after.validado = marked isWin isReset before.validado events)
    (laser : after.laser = marked sounds isReset before.laser events)
    (barred : Barred isWin isReset isPacket before.validado events)
    (verdicts : ∀ event ∈ events, isPacket event = true →
      event = .packet win ∨ event = .packet fail) :
    Records (history ++ events) after := by
  refine ⟨?_, ?_, ?_, fun event member => ?_⟩
  · rw [marked_append, ← records.validado, validado]
  · rw [marked_append, ← records.laser, laser]
  · rw [barred_append, ← records.validado]
    exact ⟨records.barred, barred⟩
  · rcases List.mem_append.mp member with earlier | now
    · exact records.verdicts event earlier
    · exact verdicts event now

/-- An event which neither sends, nor sounds, nor resets. -/
def Neutral (event : NodeEvent) : Prop :=
  isPacket event = false ∧ sounds event = false ∧ isReset event = false

instance (event : NodeEvent) : Decidable (Neutral event) :=
  inferInstanceAs (Decidable (_ ∧ _ ∧ _))

/-- Events of no consequence. -/
theorem Records.neutral {history events : List NodeEvent}
    {before after : CuadroRFID} (records : Records history before)
    (validado : after.validado = before.validado)
    (laser : after.laser = before.laser)
    (neutral : ∀ event ∈ events, Neutral event) :
    Records (history ++ events) after := by
  have noWin : ∀ event ∈ events, isWin event = false := by
    intro event member
    by_contra won
    obtain rfl : event = .packet win := by simpa [isWin] using won
    exact Bool.noConfusion (neutral _ member).1
  refine records.append ?_ ?_ (barred_of_other (fun event member =>
    (neutral event member).1) _) fun event member packet =>
      Bool.noConfusion ((neutral event member).1.symm.trans packet)
  · rw [validado]
    exact (marked_of_neutral (fun event member =>
      ⟨noWin event member, (neutral event member).2.2⟩) _).symm
  · rw [laser]
    exact (marked_of_neutral (fun event member =>
      (neutral event member).2) _).symm

/-- What is printed about a card. -/
def prints (sample : Sample) : List NodeEvent :=
  .println (code sample.currentCode) ::
    (List.range 4).map fun i => .println (toString (sample.uidByte i))

/-- A card which is read is judged while no `WIN` has been sent. -/
theorem judge_records {history : List NodeEvent} {cuadro : CuadroRFID}
    (records : Records history cuadro) (unsolved : cuadro.validado = false)
    (sample : Sample) :
    Records (history ++ (judge sample { cuadro with out := [] }).out)
      (judge sample { cuadro with out := [] }) := by
  have printed : (List.range 4).foldl
      (fun cuadro i => cuadro.emit (.println (toString (sample.uidByte i))))
      (emit (.println (code sample.currentCode)) { cuadro with out := [] }) =
        { cuadro with out := prints sample } := rfl
  have neutral : ∀ event ∈ prints sample, Neutral event := by
    intro event member
    rcases List.mem_cons.mp member with rfl | number
    · exact ⟨rfl, rfl, rfl⟩
    · obtain ⟨i, -, rfl⟩ := List.mem_map.mp number
      exact ⟨rfl, rfl, rfl⟩
  have shown : Records (history ++ prints sample)
      { cuadro with out := prints sample } :=
    records.neutral rfl rfl neutral
  have judged {events : List NodeEvent} {after : CuadroRFID}
      (next : Records ((history ++ prints sample) ++ events) after)
      (out : after.out = prints sample ++ events) :
      Records (history ++ after.out) after := by
    rw [out, ← List.append_assoc]
    exact next
  unfold judge
  dsimp only
  rw [printed]
  split
  · refine judged (shown.append rfl rfl ?_ ?_) (List.append_assoc _ _ _)
    · exact ⟨fun _ => unsolved, fun _ => unsolved, fun _ => unsolved, trivial⟩
    · decide
  · refine judged (shown.append rfl rfl ?_ ?_) (List.append_assoc _ _ _)
    · exact ⟨fun _ => unsolved, fun _ => unsolved, trivial⟩
    · decide

theorem step_records {history : List NodeEvent} {cuadro : CuadroRFID}
    (records : Records history cuadro) (turno : Turno Route Sample) :
    Records (history ++ node.machine.emit cuadro turno)
      (node.machine.step cuadro turno) := by
  cases turno with
  | request route sample =>
      cases route with
      | root =>
          refine records.neutral rfl rfl ?_
          change ∀ event ∈ info.root, Neutral event
          decide +kernel
      | test =>
          refine records.neutral rfl rfl ?_
          change ∀ event ∈ info.test, Neutral event
          decide +kernel
      | reset =>
          have silent : ∀ event ∈ (handleReset setup).out,
              isPacket event = false := by
            decide
          exact records.append rfl rfl (barred_of_other silent _)
            fun event member packet =>
              Bool.noConfusion ((silent event member).symm.trans packet)
      | manual =>
          have silent : ∀ event ∈ (handleManual setup).out,
              isPacket event = false := by
            decide
          exact records.append rfl rfl (barred_of_other silent _)
            fun event member packet =>
              Bool.noConfusion ((silent event member).symm.trans packet)
  | iterate sample =>
      have idle : Records (history ++ []) { cuadro with out := [] } :=
        records.neutral rfl rfl fun _ member => absurd member List.not_mem_nil
      change Records (history ++ (loop sample { cuadro with out := [] }).out)
        (loop sample { cuadro with out := [] })
      unfold loop
      split
      · rename_i unsolved
        split
        · exact idle
        · split
          · exact idle
          · exact judge_records records unsolved sample
      · exact idle

/-- In every run, with any cards and any requests at any time: every datagram is a
verdict, none is sent between a `WIN` and the next reset, and the laser is lit exactly
when the buzzer has sounded since the last reset, for a card or for `/manual`. -/
theorem verdicts_until_win (turnos : List (Turno Route Sample)) :
    let history := node.machine.trace node.setup turnos
    (∀ event ∈ history, isPacket event = true →
        event = .packet win ∨ event = .packet fail) ∧
      Barred isWin isReset isPacket false history ∧
      ((node.after turnos).validado = true ↔
        marked isWin isReset false history = true) ∧
      ((node.after turnos).laser = high ↔
        marked sounds isReset false history = true) := by
  have preserved : ∀ history (cuadro : CuadroRFID) (turno : Turno Route Sample),
      Records history cuadro →
      Records (history ++ node.machine.emit cuadro turno)
        (node.machine.step cuadro turno) :=
    fun _ _ turno records => step_records records turno
  have start : Records [] node.setup :=
    ⟨rfl, rfl, trivial, fun _ member => absurd member List.not_mem_nil⟩
  obtain ⟨validado, laser, barred, verdicts⟩ :=
    node.machine.history_invariant preserved start turnos
  refine ⟨verdicts, barred, ?_, ?_⟩
  · rw [WifiNode.after, validado, List.nil_append]
  · rw [WifiNode.after, laser, List.nil_append]

end CuadroRFID

end Salsipuedes

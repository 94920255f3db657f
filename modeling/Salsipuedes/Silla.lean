import Salsipuedes.Alternation
import Salsipuedes.WifiNode

/-!
# The electric chair

The `silla-electrica` sketch watches the contact of a chair once it has been
armed, and reports that somebody sits down and gets up.  The first is noticed
with `sillaOnOld`, the second with a count of the iterations without contact, and
the two do not know of each other: a short loss of contact is reported as a second
`SILLA ON`.  The messages are in turns exactly in the runs which never let one of
the two see an edge that the other has not seen.  The operator's override sets the
same variables, but the next iteration reads the contact again.
-/

namespace Salsipuedes

structure Silla where
  sillaOn : Bool
  sillaOnOld : Bool
  offCounter : Int
  lista : Bool
  plasma : Bool
  out : List NodeEvent
  deriving DecidableEq

namespace Silla

inductive Route where
  | root
  | test
  | reset
  | manual
  | lista
  deriving DecidableEq

def info : NodeInfo where
  description := "Si hace contacto en la silla, manda WIN\n\n"
  controllerId := "hab13silla"
  methods := "/test /reset /manual /lista  \n\n"
  pcRemotePort := 1302
  localPort := 1302

def emit (event : NodeEvent) (silla : Silla) : Silla :=
  { silla with out := silla.out ++ [event] }

def on : Text := "SILLA ON".toList
def off : Text := "SILLA OFF".toList

/-! ## Handlers -/

def handleReset (silla : Silla) : Silla :=
  let silla := silla.emit (.send 200 "reset")
  let silla := silla.emit (.println "reset")
  let silla := silla.emit (.packet off)
  { silla with
    sillaOn := false
    sillaOnOld := false
    plasma := false
    lista := false }

def handleManual (silla : Silla) : Silla :=
  { silla with
    lista := true
    sillaOn := true
    sillaOnOld := false
    offCounter := 0
    plasma := true }.emit (.send 200 "manual")

def handleLista (silla : Silla) : Silla :=
  { ({ silla with plasma := true }.emit (.send 200 "listo")) with
    lista := true }

def handle (route : Route) (_ : Bool) (silla : Silla) : Silla :=
  match route with
  | .root => { silla with out := silla.out ++ info.root }
  | .test => { silla with out := silla.out ++ info.test }
  | .reset => handleReset silla
  | .manual => handleManual silla
  | .lista => handleLista silla

/-! ## Loop -/

/-- The chair has just been occupied. -/
def announce (silla : Silla) : Silla :=
  if silla.sillaOnOld = false then
    let silla := silla.emit (.packet on)
    let silla := silla.emit (.println "silla se acaba de prender")
    { silla with
      plasma := true
      sillaOnOld := true }
  else
    silla

/-- Contact on an armed chair, or an iteration without. -/
def sense (silla : Silla) : Silla :=
  if silla.lista = true ∧ silla.sillaOn = true then
    { silla.announce with offCounter := 0 }
  else
    { silla with
      offCounter := toInt 32 (silla.offCounter + 1)
      sillaOnOld := false }

/-- The chair has been without contact for the off delay. -/
def reportOff (silla : Silla) : Silla :=
  if silla.offCounter = 50 then
    let silla := silla.emit (.packet off)
    silla.emit (.println "silla se acaba de apagar")
  else
    silla

/-- The body of `loop`, with the contact that it reads. -/
def loop (contact : Bool) (silla : Silla) : Silla :=
  reportOff (sense { silla with sillaOn := contact })

def setup : Silla where
  sillaOn := false
  sillaOnOld := false
  offCounter := 0
  lista := false
  plasma := false
  out := []

def node : WifiNode Silla Route Bool where
  setup := setup
  handle := handle
  loop := loop
  out := Silla.out
  silence silla := { silla with out := [] }

/-! ## The messages of the chair -/

/-- Whether somebody sits on the chair: since contact was seen, neither the off
delay has passed without contact nor has there been a reset request. -/
def watch (silla : Silla) (turno : Turno Route Bool) (occupied : Bool) : Bool :=
  match turno with
  | .request .reset _ => false
  | .request _ _ => occupied
  | .iterate contact =>
      if silla.lista = true ∧ contact = true then true
      else if toInt 32 (silla.offCounter + 1) = 50 then false
      else occupied

/-- Contact is only noticed on a chair which was free, and the end of the off
delay and a reset request only come when somebody sits on it. -/
def InStep (pair : Silla × Bool) : Turno Route Bool → Prop
  | .request .reset _ => pair.2 = true
  | .request _ _ => True
  | .iterate contact =>
      if pair.1.lista = true ∧ contact = true then
        pair.1.sillaOnOld = false → pair.2 = false
      else
        toInt 32 (pair.1.offCounter + 1) = 50 → pair.2 = true

/-- A contact which has been reported comes from an occupied chair. -/
def Reported (pair : Silla × Bool) : Prop :=
  pair.1.sillaOnOld = true → pair.2 = true

section Iterations

variable {silla : Silla}

theorem reportOff_none (early : silla.offCounter ≠ 50) :
    reportOff silla = silla := by
  rw [reportOff, if_neg early]

theorem sense_contact (isOn : silla.lista = true ∧ silla.sillaOn = true) :
    reportOff (sense silla) = { silla.announce with offCounter := 0 } := by
  rw [sense, if_pos isOn, reportOff_none (by decide : (0 : Int) ≠ 50)]

theorem sense_free (isOff : ¬ (silla.lista = true ∧ silla.sillaOn = true)) :
    sense silla =
      { silla with
        offCounter := toInt 32 (silla.offCounter + 1)
        sillaOnOld := false } := by
  rw [sense, if_neg isOff]

theorem reportOff_sillaOnOld (silla : Silla) :
    (reportOff silla).sillaOnOld = silla.sillaOnOld := by
  unfold reportOff
  split <;> rfl

end Iterations

theorem reported_step (pair : Silla × Bool) (turno : Turno Route Bool)
    (reported : Reported pair) :
    Reported ((node.machine.observe watch).step pair turno) := by
  cases turno with
  | request route contact =>
      cases route with
      | root => exact reported
      | test => exact reported
      | reset => exact fun old => absurd old Bool.false_ne_true
      | manual => exact fun old => absurd old Bool.false_ne_true
      | lista => exact reported
  | iterate contact =>
      intro old
      by_cases isOn : pair.1.lista = true ∧ contact = true
      · exact if_pos isOn
      · have clear : (loop contact { pair.1 with out := [] }).sillaOnOld =
            false := by
          rw [loop, reportOff_sillaOnOld, sense_free isOn]
        exact absurd (clear.symm.trans old) Bool.false_ne_true

/-- Each turn reports an edge or nothing. -/
theorem turns_silla (pair : Silla × Bool) (turno : Turno Route Bool)
    (reported : Reported pair) :
    Turns on off pair.2
      (((node.machine.observe watch).emit pair turno).filterMap
        (NodeEvent.among on off))
      ((node.machine.observe watch).step pair turno).2
      (InStep pair turno) := by
  cases turno with
  | request route contact =>
      cases route with
      | root => exact Turns.quiet trivial
      | test => exact Turns.quiet trivial
      | reset => exact Turns.off Iff.rfl
      | manual => exact Turns.quiet trivial
      | lista => exact Turns.quiet trivial
  | iterate contact =>
      let before : Silla := { pair.1 with out := [], sillaOn := contact }
      change Turns on off pair.2
        ((reportOff (sense before)).out.filterMap (NodeEvent.among on off))
        (watch pair.1 (.iterate contact) pair.2)
        (if pair.1.lista = true ∧ contact = true then
          pair.1.sillaOnOld = false → pair.2 = false
        else toInt 32 (pair.1.offCounter + 1) = 50 → pair.2 = true)
      by_cases isOn : pair.1.lista = true ∧ contact = true
      · have watched : watch pair.1 (.iterate contact) pair.2 = true :=
          if_pos isOn
        rw [sense_contact isOn, if_pos isOn, watched, announce]
        by_cases fresh : pair.1.sillaOnOld = false
        · have first : before.sillaOnOld = false := fresh
          rw [if_pos first]
          apply Turns.on
          simp [fresh]
        · have known : ¬ before.sillaOnOld = false := fresh
          have occupied : pair.2 = true := reported (by simpa using fresh)
          rw [if_neg known, occupied]
          apply Turns.quiet
          exact fun free => absurd free fresh
      · rw [sense_free isOn, if_neg isOn]
        by_cases due : toInt 32 (pair.1.offCounter + 1) = 50
        · have watched : watch pair.1 (.iterate contact) pair.2 = false :=
            (if_neg isOn).trans (if_pos due)
          rw [watched, reportOff]
          have last : toInt 32 (before.offCounter + 1) = 50 := due
          rw [if_pos last]
          apply Turns.off
          simp [due]
        · have watched : watch pair.1 (.iterate contact) pair.2 = pair.2 :=
            (if_neg isOn).trans (if_neg due)
          rw [watched, reportOff_none due]
          apply Turns.quiet
          exact fun last => absurd last due

/-- The messages of a run are in turns exactly when every turn is in step. -/
theorem messages_alternate (turnos : List (Turno Route Bool)) :
    Alternates on off ((node.machine.trace node.setup turnos).filterMap
        (NodeEvent.among on off)) ↔
      (node.machine.observe watch).Along InStep (node.setup, false) turnos := by
  have initially : Reported (node.setup, false) := by
    intro old
    cases old
  rw [← node.machine.trace_observe watch node.setup false turnos]
  exact (node.machine.observe watch).alternates_trace_iff (by decide) Reported
    reported_step turns_silla initially turnos

/-- A short loss of contact is reported as a second contact. -/
theorem messages_repeat :
    ¬ Alternates on off ((node.machine.trace node.setup
        [.request .lista false, .iterate true, .iterate false,
          .iterate true]).filterMap (NodeEvent.among on off)) := by
  decide +kernel

/-! ## The operator's override -/

/-- The messages of a history. -/
def messages (history : List NodeEvent) : List Text :=
  history.filterMap (NodeEvent.among on off)

/-- A contact which has been reported is the last message. -/
def ReportedLast (history : List NodeEvent) (silla : Silla) : Prop :=
  silla.sillaOnOld = true → (messages history).getLast? = some on

theorem messages_append (first second : List NodeEvent) :
    messages (first ++ second) = messages first ++ messages second :=
  List.filterMap_append

theorem reportedLast_step (history : List NodeEvent) (silla : Silla)
    (turno : Turno Route Bool) (reported : ReportedLast history silla) :
    ReportedLast (history ++ node.machine.emit silla turno)
      (node.machine.step silla turno) := by
  -- A turn without messages which keeps `sillaOnOld` changes nothing.
  have silent : messages (node.machine.emit silla turno) = [] →
      (node.machine.step silla turno).sillaOnOld = silla.sillaOnOld →
      ReportedLast (history ++ node.machine.emit silla turno)
        (node.machine.step silla turno) := by
    intro quiet same old
    rw [messages_append, quiet, List.append_nil]
    exact reported (same.symm.trans old)
  cases turno with
  | request route contact =>
      cases route with
      | root => exact silent rfl rfl
      | test => exact silent rfl rfl
      | reset => exact fun old => absurd old Bool.false_ne_true
      | manual => exact fun old => absurd old Bool.false_ne_true
      | lista => exact silent rfl rfl
  | iterate contact =>
      let before : Silla := { silla with out := [], sillaOn := contact }
      have step : node.machine.step silla (.iterate contact) =
          reportOff (sense before) := rfl
      have sent : node.machine.emit silla (.iterate contact) =
          (reportOff (sense before)).out := rfl
      by_cases isOn : silla.lista = true ∧ contact = true
      · have seen : reportOff (sense before) =
            { before.announce with offCounter := 0 } := sense_contact isOn
        by_cases fresh : silla.sillaOnOld = false
        · have announced : messages (reportOff (sense before)).out = [on] := by
            have first : before.sillaOnOld = false := fresh
            rw [seen, announce, if_pos first]
            rfl
          intro _
          rw [messages_append, sent, announced, List.getLast?_concat]
        · have known : before.announce = before := if_neg fresh
          apply silent
          · rw [sent, seen, known]
            rfl
          · rw [step, seen, known]
      · intro old
        rw [step, reportOff_sillaOnOld, sense_free isOn] at old
        exact absurd old Bool.false_ne_true

/-- A `/manual` request and one iteration send what an iteration of an armed chair
with contact does, which is `SILLA ON`, and leave what it leaves. -/
def Overrides (silla : Silla) (contact : Bool) : Prop :=
  let manual := node.machine.step silla (.request .manual contact)
  let armed := { silla with lista := true }
  NodeEvent.packet on ∈ node.machine.emit manual (.iterate contact) ∧
    node.machine.emit manual (.iterate contact) =
      node.machine.emit armed (.iterate true) ∧
    node.machine.step manual (.iterate contact) =
      node.machine.step armed (.iterate true)

instance (silla : Silla) (contact : Bool) :
    Decidable (silla.Overrides contact) :=
  inferInstanceAs (Decidable (_ ∧ _))

/-- Contact on a free chair which is armed. -/
theorem step_contact {silla : Silla} (armed : silla.lista = true)
    (free : silla.sillaOnOld = false) :
    node.machine.step silla (.iterate true) =
      { silla with
        sillaOn := true
        sillaOnOld := true
        offCounter := 0
        plasma := true
        out := [.packet on, .println "silla se acaba de prender"] } := by
  let before : Silla := { silla with out := [], sillaOn := true }
  have isOn : before.lista = true ∧ before.sillaOn = true := ⟨armed, rfl⟩
  have first : before.sillaOnOld = false := free
  have seen := sense_contact isOn
  rw [announce, if_pos first] at seen
  exact seen

/-- Whatever the operator sets, the iteration reads the contact again. -/
theorem overrides_iff {silla : Silla} (free : silla.sillaOnOld = false)
    (contact : Bool) : silla.Overrides contact ↔ contact = true := by
  cases contact with
  | true =>
      have overridden : node.machine.step
          (node.machine.step silla (.request .manual true)) (.iterate true) =
          node.machine.step { silla with lista := true } (.iterate true) := by
        let armed : Silla := { silla with lista := true }
        have freeArmed : armed.sillaOnOld = false := free
        rw [step_contact rfl rfl, step_contact rfl freeArmed]
        rfl
      refine iff_of_true ⟨?_, congrArg Silla.out overridden, overridden⟩ rfl
      exact List.mem_cons_self
  | false =>
      have quiet : node.machine.emit
          (node.machine.step silla (.request .manual false))
            (.iterate false) = [] := rfl
      refine iff_of_false (fun overrides => ?_) Bool.false_ne_true
      have sent := overrides.1
      rw [quiet] at sent
      exact List.not_mem_nil sent

/-- While the last message is not `SILLA ON`, the operator's override works exactly
when the chair is occupied anyway. -/
theorem manual_overrides (turnos : List (Turno Route Bool)) (contact : Bool)
    (last : (messages (node.machine.trace node.setup turnos)).getLast? ≠
      some on) :
    (node.after turnos).Overrides contact ↔ contact = true := by
  have initially : ReportedLast [] node.setup := fun old =>
    absurd old Bool.false_ne_true
  have reported := node.machine.history_invariant reportedLast_step initially
    turnos
  apply overrides_iff
  exact Bool.eq_false_iff.mpr fun old => last (reported old)

/-- A chair which is armed, taken and left. -/
def dejada : List (Turno Route Bool) :=
  .request .lista false :: .iterate true ::
    List.replicate 50 (.iterate false)

/-- An override of a chair which was left, and is taken at that moment. -/
theorem manual_overrides_dejada :
    messages (node.machine.trace node.setup dejada) = [on, off] ∧
      (node.after dejada).Overrides true := by
  have last : (messages (node.machine.trace node.setup dejada)).getLast? ≠
      some on := by
    decide +kernel
  exact ⟨by decide +kernel, (manual_overrides dejada true last).mpr rfl⟩

/-- The override of a free chair sends nothing. -/
theorem manual_does_not_override :
    (messages (node.machine.trace node.setup [])).getLast? ≠ some on ∧
      ¬ (node.after []).Overrides false := by
  decide +kernel

end Silla

end Salsipuedes

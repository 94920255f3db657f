import Salsipuedes.MapaLeds

/-!
# The log of the map

Everything that the map prints goes to its helper.  A reader of this log knows the
lamps and whether the alarm is on: the line after `I received: ` repeats a message,
whatever it says, and every other line is about what the map does.
-/

namespace Salsipuedes

namespace MapaLeds

/-- What a reader of the log knows: the lamps, whether the alarm is on, and whether
the next line repeats a message. -/
structure Bitacora where
  leds : List Bool
  alarma : Bool
  eco : Bool
  deriving DecidableEq

namespace Bitacora

attribute [local instance] fourButtons

/-- The button which is printed under a name. -/
def button? (name : String) : Option (Fin 4) :=
  if name = "button1" then some 0
  else if name = "button2" then some 1
  else if name = "button3" then some 2
  else if name = "button4" then some 3
  else none

def readPrint (text : String) (bitacora : Bitacora) : Bitacora :=
  if text = "I received: " then { bitacora with eco := true }
  else match button? text with
    | some which => { bitacora with leds := pattern which }
    | none => bitacora

def readLine (line : String) (bitacora : Bitacora) : Bitacora :=
  if bitacora.eco = true then { bitacora with eco := false }
  else if line = "doiing a reset" then
    { bitacora with leds := List.replicate 4 low, alarma := false }
  else if line = "alarma" then { bitacora with alarma := true }
  else bitacora

def read (bitacora : Bitacora) : NodeEvent → Bitacora
  | .print text => readPrint text bitacora
  | .println line => readLine line bitacora
  | _ => bitacora

end Bitacora

section Log

variable {Button : Type}

/-- What there is to know of the map between two iterations. -/
def bitacora (mapa : MapaLeds Button) : Bitacora where
  leds := mapa.leds
  alarma := mapa.alarma
  eco := false

/-- What a reader who knew something before the current iteration knows by now. -/
def told (before : Bitacora) (mapa : MapaLeds Button) : Bitacora :=
  mapa.out.foldl Bitacora.read before

/-- The reader has followed the iteration so far. -/
def Follows (before : Bitacora) (mapa : MapaLeds Button) : Prop :=
  told before mapa = mapa.bitacora

variable {before : Bitacora} {mapa : MapaLeds Button}

theorem told_emit (before : Bitacora) (event : NodeEvent)
    (mapa : MapaLeds Button) :
    told before (mapa.emit event) = (told before mapa).read event :=
  List.foldl_append

/-- A line which repeats no message and is no command says nothing. -/
theorem readLine_other {line : String} {known : Bitacora}
    (ahead : known.eco = false) (noReset : line ≠ "doiing a reset")
    (noAlarma : line ≠ "alarma") : known.readLine line = known := by
  rw [Bitacora.readLine, if_neg (by simp [ahead]), if_neg noReset,
    if_neg noAlarma]

theorem follows_press {which : Fin 4} {name : String}
    (named : Bitacora.button? name = some which) (isName : name ≠ "I received: ")
    (follows : Follows before mapa) : Follows before (press which name mapa) := by
  have reads (known : Bitacora) :
      known.read (.print name) = { known with leds := pattern which } := by
    rw [Bitacora.read, Bitacora.readPrint, if_neg isName, named]
  have pressed : told before (mapa.emit (.println "pressed button")) =
      mapa.bitacora := by
    rw [told_emit, follows]
    exact readLine_other rfl (by decide) (by decide)
  have lamps : told before (press which name mapa) =
      (List.replicate 4 (NodeEvent.print name)).foldl Bitacora.read
        (told before (mapa.emit (.println "pressed button"))) :=
    List.foldl_append
  rw [Follows, lamps, pressed]
  simp only [List.replicate_succ, List.replicate_zero, List.foldl_cons,
    List.foldl_nil, reads]
  rfl

theorem follows_checkButtons [Bounce Button] (follows : Follows before mapa) :
    Follows before (checkButtons mapa) := by
  have pressed (rose : MapaLeds Button → Bool) (which : Fin 4) (name : String)
      (named : Bitacora.button? name = some which)
      (isName : name ≠ "I received: ") {mapa : MapaLeds Button}
      (follows : Follows before mapa) :
      Follows before
        (if rose mapa = true then press which name mapa else mapa) := by
    split
    · exact follows_press named isName follows
    · exact follows
  have first := pressed (fun mapa => Bounce.rose mapa.buttons0) 0 "button1" rfl
    (by decide) follows
  have second := pressed (fun mapa => Bounce.rose mapa.buttons1) 1 "button2" rfl
    (by decide) first
  have third := pressed (fun mapa => Bounce.rose mapa.buttons2) 2 "button3" rfl
    (by decide) second
  exact pressed (fun mapa => Bounce.rose mapa.buttons3) 3 "button4" rfl
    (by decide) third

theorem follows_handleReset (follows : Follows before mapa) :
    Follows before (handleReset mapa) := by
  have said := told_emit before (.println "doiing a reset") mapa
  rw [follows] at said
  exact said

theorem follows_handleAlarma (follows : Follows before mapa) :
    Follows before (handleAlarma mapa) := by
  have said := told_emit before (.println "alarma") mapa
  rw [follows] at said
  exact said

theorem follows_dispatch (text : Text) (follows : Follows before mapa) :
    Follows before (dispatch text mapa) := by
  have reset : Follows before
      (if text = "reset".toList then handleReset mapa else mapa) := by
    split
    · exact follows_handleReset follows
    · exact follows
  unfold dispatch
  dsimp only
  split
  · exact follows_handleAlarma reset
  · exact reset

/-- The text of a message is repeated in a line which is skipped, whatever it
says. -/
theorem follows_handleMessage (follows : Follows before mapa) :
    Follows before (handleMessage mapa) := by
  let heard := (mapa.emit (.print "I received: ")).emit
    (.println (String.ofList mapa.incomingData))
  have skips : Follows before heard := by
    have echoes : (mapa.bitacora.read (.print "I received: ")).read
        (.println (String.ofList mapa.incomingData)) = mapa.bitacora := rfl
    rw [Follows, told_emit, told_emit, follows, echoes]
    rfl
  exact follows_dispatch _ skips

theorem follows_checkIncoming (serial : Text) (follows : Follows before mapa) :
    Follows before (checkIncoming serial mapa) := by
  unfold checkIncoming
  dsimp only
  split
  · exact follows_handleMessage follows
  · exact follows

/-- Every iteration can be followed. -/
theorem step_follows [Bounce Button] (mapa : MapaLeds Button)
    (sample : Sample) :
    ((machine Button).emit mapa sample).foldl Bitacora.read mapa.bitacora =
      ((machine Button).step mapa sample).bitacora := by
  have starts : Follows mapa.bitacora
      (updateButtons sample { mapa with out := [] }) := rfl
  have buttons := follows_checkButtons starts
  refine follows_checkIncoming sample.serial ?_
  split
  · exact buttons
  · exact buttons

/-- The red lamps are lit by the alarm alone. -/
def Glows (mapa : MapaLeds Button) : Prop :=
  mapa.redLeds = high → mapa.alarma = true

theorem glows_checkButtons [Bounce Button] (glows : Glows mapa) :
    Glows (checkButtons mapa) := by
  unfold checkButtons
  dsimp only
  repeat' split
  all_goals exact glows

theorem glows_dispatch (text : Text) (glows : Glows mapa) :
    Glows (dispatch text mapa) := by
  have reset : Glows
      (if text = "reset".toList then handleReset mapa else mapa) := by
    split
    · exact fun lit => absurd lit Bool.false_ne_true
    · exact glows
  unfold dispatch
  dsimp only
  split
  · exact fun _ => rfl
  · exact reset

theorem glows_checkIncoming (serial : Text) (glows : Glows mapa) :
    Glows (checkIncoming serial mapa) := by
  unfold checkIncoming
  dsimp only
  split
  · exact glows_dispatch _ glows
  · exact glows

theorem step_glows [Bounce Button] (mapa : MapaLeds Button) (sample : Sample)
    (glows : Glows mapa) : Glows ((machine Button).step mapa sample) := by
  have starts : Glows (updateButtons sample { mapa with out := [] }) := glows
  have buttons := glows_checkButtons starts
  refine glows_checkIncoming sample.serial ?_
  split
  · rename_i isOn
    exact fun _ => isOn
  · exact buttons

end Log

/-- What the map has printed since power-up tells its lamps and its alarm, in every
run and whatever the messages say which it repeats.  The red lamps are only lit
while the alarm is on. -/
theorem log_tells_lamps (Button : Type) [Bounce Button] (first : Sample)
    (samples : List Sample) :
    let mapa := (machine Button).run (setup first) samples
    ((machine Button).trace (setup first) samples).foldl Bitacora.read
        ⟨List.replicate 4 low, false, false⟩ = ⟨mapa.leds, mapa.alarma, false⟩ ∧
      (mapa.redLeds = high → mapa.alarma = true) := by
  intro mapa
  have dark : Glows (setup first : MapaLeds Button) :=
    fun lit => absurd lit Bool.false_ne_true
  exact ⟨(machine Button).trace_foldl Bitacora.read bitacora step_follows
    (setup first) samples, (machine Button).run_invariant step_glows dark samples⟩

/-- A message may look like a line of the log. -/
example : ([.print "I received: ", .println "alarma"] : List NodeEvent).foldl
    Bitacora.read ⟨pattern 0, false, false⟩ = ⟨pattern 0, false, false⟩ := by
  decide

end MapaLeds

end Salsipuedes

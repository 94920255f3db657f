import Salsipuedes.Alternation
import Salsipuedes.Telefono

/-!
# What the telephone tells the game controller

The words about the handset, `UP` and `DOWN`, are sent in turns, and a right
number silences the verdicts, `WIN` and `FAIL`, until the next reset request.  A
verdict while the handset is down is not ruled out: the level of the hook is the
level of a pulse, so that a telephone which starts on its hook counts a digit.
-/

namespace Salsipuedes

namespace Telefono

def up : Text := "UP".toList
def down : Text := "DOWN".toList
def win : Text := "WIN".toList
def fail : Text := "FAIL".toList

/-- What the current turn has emitted, as far as a selection shows it. -/
def said {Letter : Type} (letter : NodeEvent → Option Letter)
    (telefono : Telefono) : List Letter :=
  telefono.out.filterMap letter

section Said

variable {Letter : Type} {letter : NodeEvent → Option Letter}

theorem said_emit (event : NodeEvent) (telefono : Telefono) :
    (telefono.emit event).said letter =
      telefono.said letter ++ (letter event).toList := by
  simp only [said, emit, List.filterMap_append]
  cases chosen : letter event <;> simp [chosen]

/-- A selection which does not show what is printed. -/
def Unprinted (letter : NodeEvent → Option Letter) : Prop :=
  ∀ line, letter (.println line) = none

theorem said_report (unprinted : Unprinted letter) (message line : String)
    (telefono : Telefono) :
    (report message line telefono).said letter =
      telefono.said letter ++ (letter (.packet message.toList)).toList := by
  rw [report, said_emit, said_emit, unprinted, Option.toList_none,
    List.append_nil]

theorem said_completeDigit (unprinted : Unprinted letter) (now : UInt32)
    (telefono : Telefono) :
    (telefono.completeDigit now).said letter = telefono.said letter := by
  unfold completeDigit
  split
  · refine (said_emit (.println _) _).trans ?_
    rw [unprinted, Option.toList_none, List.append_nil]
    rfl
  · rfl

theorem said_noteChange (reading : Nivel) (now : UInt32)
    (telefono : Telefono) :
    (telefono.noteChange reading now).said letter = telefono.said letter := by
  unfold noteChange
  split <;> rfl

theorem said_debounce (reading : Nivel) (now : UInt32)
    (telefono : Telefono) :
    (telefono.debounce reading now).said letter = telefono.said letter := by
  unfold debounce
  repeat' split
  all_goals rfl

theorem said_watchHook (unprinted : Unprinted letter)
    (noDown : letter (.packet down) = none)
    (noUp : letter (.packet up) = none) (reading : Nivel) (now : UInt32)
    (telefono : Telefono) :
    (telefono.watchHook reading now).said letter = telefono.said letter := by
  unfold watchHook
  split
  · split
    · refine (said_report unprinted "DOWN" "hanging phone" telefono).trans ?_
      exact (congrArg (_ ++ ·.toList) noDown).trans (List.append_nil _)
    · split
      · refine (said_report unprinted "UP" "phone up" telefono).trans ?_
        exact (congrArg (_ ++ ·.toList) noUp).trans (List.append_nil _)
      · rfl
  · rfl

theorem said_timeOut (unprinted : Unprinted letter)
    (noFail : letter (.packet fail) = none) (now : UInt32)
    (telefono : Telefono) :
    (telefono.timeOut now).said letter = telefono.said letter := by
  unfold timeOut
  split
  · split
    · refine (said_report unprinted "FAIL" "reset number" _).trans ?_
      exact (congrArg (_ ++ ·.toList) noFail).trans (List.append_nil _)
    · rfl
  · rfl

theorem said_handleReset (unprinted : Unprinted letter)
    (telefono : Telefono) :
    (handleReset telefono).said letter =
      telefono.said letter ++ (letter (.send 200 "reset")).toList := by
  have printed : (handleReset telefono).said letter =
      (telefono.emit (.send 200 "reset")).said letter ++
        (letter (.println "reset")).toList :=
    said_emit (.println "reset") _
  rw [printed, said_emit, unprinted, Option.toList_none, List.append_nil]

theorem unprinted_among (first second : Text) :
    Unprinted (NodeEvent.among first second) :=
  fun _ => rfl

end Said

/-! ## What an iteration touches -/

theorem completeDigit_frame (now : UInt32) (telefono : Telefono) :
    ∃ pending count printed, telefono.completeDigit now =
      { telefono with
        needToPrint := pending
        count := count
        fullnum :=
          if telefono.DigitDue now then
            telefono.fullnum ++ decimal (telefono.count.tmod 10)
          else
            telefono.fullnum
        out := printed } := by
  unfold completeDigit
  split <;> exact ⟨_, _, _, rfl⟩

theorem noteChange_frame (reading : Nivel) (now : UInt32) (telefono : Telefono) :
    telefono.noteChange reading now =
      { telefono with
        lastStateChangeTime :=
          if reading ≠ telefono.lastState then now.toInt32
          else telefono.lastStateChangeTime } := by
  unfold noteChange
  split <;> rfl

theorem debounce_frame (reading : Nivel) (now : UInt32) (telefono : Telefono) :
    ∃ taken count pending, telefono.debounce reading now =
      { telefono with
        trueState := taken
        count := count
        needToPrint := pending } := by
  unfold debounce
  repeat' split
  all_goals exact ⟨_, _, _, rfl⟩

/-- The hook, if it turns, turns the handset and clears the number. -/
theorem watchHook_frame (reading : Nivel) (now : UInt32) (telefono : Telefono) :
    let turns := telefono.elapsed now > hangPhoneTime ∧
      (telefono.HangsUp reading ∨ telefono.LiftsUp reading)
    ∃ printed, telefono.watchHook reading now =
      { telefono with
        fullnum := if turns then [] else telefono.fullnum
        tuboUp := if turns then !telefono.tuboUp else telefono.tuboUp
        out := printed } := by
  intro turns
  unfold watchHook
  by_cases late : telefono.elapsed now > hangPhoneTime
  · rw [if_pos late]
    by_cases hung : telefono.HangsUp reading
    · have turned : turns := ⟨late, .inl hung⟩
      rw [if_pos hung, if_pos turned, if_pos turned, hung.2]
      exact ⟨_, rfl⟩
    · rw [if_neg hung]
      by_cases lifted : telefono.LiftsUp reading
      · have turned : turns := ⟨late, .inr lifted⟩
        rw [if_pos lifted, if_pos turned, if_pos turned, lifted.2]
        exact ⟨_, rfl⟩
      · have still : ¬ turns := fun turned => turned.2.elim hung lifted
        rw [if_neg lifted, if_neg still, if_neg still]
        exact ⟨_, rfl⟩
  · have still : ¬ turns := fun turned => late turned.1
    rw [if_neg late, if_neg still, if_neg still]
    exact ⟨_, rfl⟩

theorem timeOut_frame (now : UInt32) (telefono : Telefono) :
    ∃ printed, telefono.timeOut now =
      { telefono with
        fullnum :=
          if telefono.elapsed now > resetTime ∧ telefono.done = false then []
          else telefono.fullnum
        out := printed } := by
  unfold timeOut
  split
  · split
    · exact ⟨_, rfl⟩
    · rename_i empty
      have blank : telefono.fullnum = [] :=
        List.eq_nil_of_length_eq_zero (by omega)
      rw [← blank]
      exact ⟨_, rfl⟩
  · exact ⟨_, rfl⟩

/-- The last change of the level, as an iteration knows it. -/
def lastChange (sample : Sample) (telefono : Telefono) : Int32 :=
  (telefono.noteChange (nivel sample.analogin)
    (sample.millis 1)).lastStateChangeTime

/-- The time since that change, at the `place`-th reading of the clock. -/
def age (place : Nat) (sample : Sample) (telefono : Telefono) : UInt32 :=
  (telefono.noteChange (nivel sample.analogin) (sample.millis 1)).elapsed
    (sample.millis place)

/-- The hook turns in an iteration, and clears the number. -/
abbrev TurnsHook (sample : Sample) (telefono : Telefono) : Prop :=
  telefono.age 3 sample > hangPhoneTime ∧
    (telefono.HangsUp (nivel sample.analogin) ∨
      telefono.LiftsUp (nivel sample.analogin))

/-- The number which an iteration judges. -/
def numero (sample : Sample) (telefono : Telefono) : Text :=
  if telefono.TurnsHook sample then []
  else (telefono.completeDigit (sample.millis 0)).fullnum

/-- The state of an iteration before it looks at the hook. -/
def escucha (sample : Sample) (telefono : Telefono) : Telefono :=
  debounce (nivel sample.analogin) (sample.millis 2)
    (noteChange (nivel sample.analogin) (sample.millis 1)
      (completeDigit (sample.millis 0) telefono))

/-- The state of an iteration before it looks at the number. -/
def heard (sample : Sample) (telefono : Telefono) : Telefono :=
  watchHook (nivel sample.analogin) (sample.millis 3) (telefono.escucha sample)

theorem age_eq (place : Nat) (sample : Sample) (telefono : Telefono) :
    telefono.age place sample =
      sample.millis place - (telefono.lastChange sample).toUInt32 :=
  rfl

theorem lastChange_eq (sample : Sample) (telefono : Telefono) :
    telefono.lastChange sample =
      if nivel sample.analogin ≠ telefono.lastState then
        (sample.millis 1).toInt32
      else
        telefono.lastStateChangeTime := by
  rw [lastChange, noteChange_frame]

theorem escucha_frame (sample : Sample) (telefono : Telefono) :
    ∃ pending count taken printed, telefono.escucha sample =
      { telefono with
        needToPrint := pending
        count := count
        trueState := taken
        lastStateChangeTime := telefono.lastChange sample
        fullnum := (telefono.completeDigit (sample.millis 0)).fullnum
        out := printed } := by
  obtain ⟨_, _, _, dialled⟩ := telefono.completeDigit_frame (sample.millis 0)
  obtain ⟨_, _, _, settled⟩ := debounce_frame (nivel sample.analogin)
    (sample.millis 2) (noteChange (nivel sample.analogin) (sample.millis 1)
      (telefono.completeDigit (sample.millis 0)))
  rw [escucha, settled, noteChange_frame, lastChange_eq, dialled]
  exact ⟨_, _, _, _, rfl⟩

theorem heard_frame (sample : Sample) (telefono : Telefono) :
    ∃ pending count taken printed, telefono.heard sample =
      { telefono with
        needToPrint := pending
        count := count
        trueState := taken
        lastStateChangeTime := telefono.lastChange sample
        fullnum := telefono.numero sample
        tuboUp :=
          if telefono.TurnsHook sample then !telefono.tuboUp
          else telefono.tuboUp
        out := printed } := by
  obtain ⟨_, _, _, _, before⟩ := telefono.escucha_frame sample
  obtain ⟨_, hooked⟩ := watchHook_frame (nivel sample.analogin)
    (sample.millis 3) (telefono.escucha sample)
  rw [heard, hooked, before]
  exact ⟨_, _, _, _, rfl⟩

/-! ## The handset -/

theorem timeOut_tuboUp (now : UInt32) (telefono : Telefono) :
    (telefono.timeOut now).tuboUp = telefono.tuboUp := by
  obtain ⟨_, same⟩ := telefono.timeOut_frame now
  rw [same]

theorem timeOut_fullnum (now : UInt32) (telefono : Telefono) :
    (telefono.timeOut now).fullnum =
      if telefono.elapsed now > resetTime ∧ telefono.done = false then []
      else telefono.fullnum := by
  obtain ⟨_, same⟩ := telefono.timeOut_frame now
  rw [same]

theorem timeOut_done (now : UInt32) (telefono : Telefono) :
    (telefono.timeOut now).done = telefono.done := by
  obtain ⟨_, same⟩ := telefono.timeOut_frame now
  rw [same]

theorem verdict_tuboUp (telefono : Telefono) :
    (verdict telefono).tuboUp = telefono.tuboUp := by
  unfold verdict
  repeat' split
  all_goals rfl

theorem verdict_said_tubo (telefono : Telefono) :
    (verdict telefono).said (NodeEvent.among up down) =
      telefono.said (NodeEvent.among up down) := by
  have unprinted := unprinted_among up down
  have noWin : NodeEvent.among up down (.packet "WIN".toList) = none := by
    decide
  have noFail : NodeEvent.among up down (.packet "FAIL".toList) = none := by
    decide
  unfold verdict
  split
  · refine (said_report unprinted "WIN" "Got it!" telefono).trans ?_
    rw [noWin, Option.toList_none, List.append_nil]
  · split
    · rw [said_handleReset unprinted, said_report unprinted, noFail,
        Option.toList_none, List.append_nil]
      exact List.append_nil _
    · rfl

/-- Only the hook turns the handset, and it says so. -/
theorem turns_watchHook (reading : Nivel) (now : UInt32)
    {telefono : Telefono} (silent : telefono.said (NodeEvent.among up down) = []) :
    Turns up down telefono.tuboUp
      ((telefono.watchHook reading now).said (NodeEvent.among up down))
      (telefono.watchHook reading now).tuboUp True := by
  by_cases late : telefono.elapsed now > hangPhoneTime
  · by_cases hung : reading = .high ∧ telefono.tuboUp = true
    · have sent : (telefono.watchHook reading now).said
          (NodeEvent.among up down) = [down] := by
        rw [watchHook, if_pos late, if_pos hung]
        refine (said_report (unprinted_among up down) "DOWN" "hanging phone"
          telefono).trans ?_
        rw [silent]
        rfl
      have turned : (telefono.watchHook reading now).tuboUp = false := by
        rw [watchHook, if_pos late, if_pos hung]
      rw [sent, turned]
      exact Turns.off (by simp [hung.2])
    · by_cases lifted : reading = .descolgado ∧ telefono.tuboUp = false
      · have sent : (telefono.watchHook reading now).said
            (NodeEvent.among up down) = [up] := by
          rw [watchHook, if_pos late, if_neg hung, if_pos lifted]
          refine (said_report (unprinted_among up down) "UP" "phone up"
            telefono).trans ?_
          rw [silent]
          rfl
        have turned : (telefono.watchHook reading now).tuboUp = true := by
          rw [watchHook, if_pos late, if_neg hung, if_pos lifted]
        rw [sent, turned]
        exact Turns.on (by simp [lifted.2])
      · rw [watchHook, if_pos late, if_neg hung, if_neg lifted, silent]
        exact Turns.quiet trivial
  · rw [watchHook, if_neg late, silent]
    exact Turns.quiet trivial

/-- Each turn is in turn with the handset. -/
theorem turns_tubo (telefono : Telefono) (turno : Turno Route Sample) :
    Turns up down telefono.tuboUp
      ((node.machine.emit telefono turno).filterMap
        (NodeEvent.among up down))
      (node.machine.step telefono turno).tuboUp True := by
  cases turno with
  | request route sample =>
      cases route <;> exact Turns.quiet trivial
  | iterate sample =>
      let reading := nivel sample.analogin
      let heard := escucha sample { telefono with out := [] }
      have silent : heard.said (NodeEvent.among up down) = [] := by
        dsimp only [heard, escucha]
        rw [said_debounce, said_noteChange,
          said_completeDigit (unprinted_among up down)]
        rfl
      have same : heard.tuboUp = telefono.tuboUp := by
        obtain ⟨_, _, _, _, before⟩ :=
          escucha_frame sample { telefono with out := [] }
        dsimp only [heard]
        rw [before]
      have turns := turns_watchHook reading (sample.millis 3) silent
      rw [same] at turns
      have sent : (node.machine.emit telefono (.iterate sample)).filterMap
          (NodeEvent.among up down) =
          (heard.watchHook reading (sample.millis 3)).said
            (NodeEvent.among up down) := by
        change (verdict (timeOut (sample.millis 4)
          (heard.watchHook reading (sample.millis 3)))).said
            (NodeEvent.among up down) = _
        rw [verdict_said_tubo,
          said_timeOut (unprinted_among up down) (by decide)]
      have turned : (node.machine.step telefono (.iterate sample)).tuboUp =
          (heard.watchHook reading (sample.millis 3)).tuboUp := by
        change (verdict (timeOut (sample.millis 4)
          (heard.watchHook reading (sample.millis 3)))).tuboUp = _
        rw [verdict_tuboUp, timeOut_tuboUp]
      rw [sent, turned]
      exact turns

/-! ## Verdicts -/

/-- The verdicts of the current turn. -/
def verdictos (telefono : Telefono) : List Text :=
  telefono.said (NodeEvent.among win fail)

theorem verdictos_report (message line : String) (telefono : Telefono) :
    (report message line telefono).verdictos = telefono.verdictos ++
      (NodeEvent.among win fail (.packet message.toList)).toList :=
  said_report (unprinted_among win fail) message line telefono

theorem verdictos_handleReset (telefono : Telefono) :
    (handleReset telefono).verdictos = telefono.verdictos :=
  (said_handleReset (unprinted_among win fail) telefono).trans
    (List.append_nil _)

/-- There is nothing to say about the number: it has been right, or it is empty,
or it is incomplete and not late. -/
def Calm (now : UInt32) (telefono : Telefono) : Prop :=
  telefono.done = true ∨ telefono.fullnum = [] ∨
    telefono.fullnum.length < objectivenum.length ∧
      ¬ telefono.elapsed now > resetTime

/-- The end of an iteration is calm, or sends one verdict. -/
theorem judge_cases (now : UInt32) (telefono : Telefono) :
    (telefono.Calm now ∧ verdict (telefono.timeOut now) = telefono) ∨
      (¬ telefono.Calm now ∧
        (verdict (telefono.timeOut now)).verdictos =
          telefono.verdictos ++ [fail] ∧
        (verdict (telefono.timeOut now)).fullnum = [] ∧
        (verdict (telefono.timeOut now)).done = false) ∨
      (¬ telefono.Calm now ∧
        (verdict (telefono.timeOut now)).verdictos =
          telefono.verdictos ++ [win] ∧
        (verdict (telefono.timeOut now)).done = true) := by
  cases finished : telefono.done with
  | true =>
      have onTime : telefono.timeOut now = telefono := by
        rw [timeOut, if_neg (by simp [finished])]
      have same : verdict telefono = telefono := by
        rw [verdict, if_neg (by simp [finished]), if_neg (by simp [finished])]
      rw [onTime]
      exact .inl ⟨.inl finished, same⟩
  | false =>
      by_cases empty : telefono.fullnum = []
      · have onTime : telefono.timeOut now = telefono := by
          unfold timeOut
          split
          · rw [if_neg (by simp [empty])]
          · rfl
        have same : verdict telefono = telefono := by
          rw [verdict, if_neg (by simp [empty, objectivenum]),
            if_neg (by simp [empty, objectivenum])]
        rw [onTime]
        exact .inl ⟨.inr (.inl empty), same⟩
      · have digits : telefono.fullnum.length > 0 :=
          List.length_pos_iff.mpr empty
        by_cases late : telefono.elapsed now > resetTime
        · have failed : verdict (telefono.timeOut now) =
              report "FAIL" "reset number" { telefono with fullnum := [] } := by
            rw [timeOut, if_pos ⟨late, finished⟩, if_pos digits]
            rfl
          refine .inr (.inl ⟨?_, ?_, ?_, ?_⟩)
          · simp [Calm, finished, empty, late]
          · rw [failed, verdictos_report]
            rfl
          · rw [failed]
            rfl
          · rw [failed]
            exact finished
        · have onTime : telefono.timeOut now = telefono := by
            rw [timeOut, if_neg (by simp [late])]
          rw [onTime]
          by_cases right : telefono.fullnum = objectivenum
          · have won : verdict telefono =
                { report "WIN" "Got it!" telefono with done := true } := by
              rw [verdict, if_pos ⟨right, finished⟩]
            refine .inr (.inr ⟨?_, ?_, ?_⟩)
            · simp [Calm, finished, right, objectivenum]
            · rw [won]
              exact verdictos_report "WIN" "Got it!" telefono
            · rw [won]
          · by_cases short : telefono.fullnum.length < objectivenum.length
            · have same : verdict telefono = telefono := by
                rw [verdict, if_neg (by simp [right]),
                  if_neg (by rintro ⟨long, _⟩; omega)]
              exact .inl ⟨.inr (.inr ⟨short, late⟩), same⟩
            · have failed : verdict telefono =
                  handleReset (report "FAIL" "wrong number" telefono) := by
                rw [verdict, if_neg (by simp [right]),
                  if_pos ⟨by omega, finished⟩]
              refine .inr (.inl ⟨?_, ?_, ?_, ?_⟩)
              · simp [Calm, finished, empty, short]
              · rw [failed, verdictos_handleReset, verdictos_report]
                rfl
              · rw [failed]
                rfl
              · rw [failed]
                rfl

/-- The four parts of an iteration before it looks at the number. -/
theorem heard_eq {sample : Sample}
    {telefono dialled noted settled hooked : Telefono}
    (dials : telefono.completeDigit (sample.millis 0) = dialled)
    (notes : dialled.noteChange (nivel sample.analogin) (sample.millis 1) =
      noted)
    (settles : noted.debounce (nivel sample.analogin) (sample.millis 2) =
      settled)
    (hooks : settled.watchHook (nivel sample.analogin) (sample.millis 3) =
      hooked) : telefono.heard sample = hooked := by
  rw [heard, escucha, dials, notes, settles, hooks]

theorem loop_eq (sample : Sample) (telefono : Telefono) :
    loop sample telefono =
      { verdict (timeOut (sample.millis 4) (telefono.heard sample)) with
        lastState := nivel sample.analogin } :=
  rfl

theorem verdictos_heard (sample : Sample) (telefono : Telefono) :
    (telefono.heard sample).verdictos = telefono.verdictos := by
  have unprinted := unprinted_among win fail
  rw [verdictos, heard, said_watchHook unprinted (by decide) (by decide),
    escucha, said_debounce, said_noteChange, said_completeDigit unprinted]
  rfl

theorem heard_done (sample : Sample) (telefono : Telefono) :
    (telefono.heard sample).done = telefono.done := by
  obtain ⟨_, _, _, _, hears⟩ := telefono.heard_frame sample
  rw [hears]

/-- The verdicts of a turn. -/
def verdicts (telefono : Telefono) (turno : Turno Route Sample) : List Text :=
  (node.machine.emit telefono turno).filterMap (NodeEvent.among win fail)

/-- An iteration sends no verdict, or `FAIL` about a number which is then
cleared, or `WIN`, after which the number is done. -/
theorem iterate_cases (telefono : Telefono) (sample : Sample) :
    let next := node.machine.step telefono (.iterate sample)
    let before := heard sample { telefono with out := [] }
    (before.Calm (sample.millis 4) ∧
        verdicts telefono (.iterate sample) = [] ∧
        next.fullnum = before.fullnum ∧ next.done = telefono.done) ∨
      (¬ before.Calm (sample.millis 4) ∧
        verdicts telefono (.iterate sample) = [fail] ∧
        next.fullnum = [] ∧ next.done = false) ∨
      (¬ before.Calm (sample.millis 4) ∧
        verdicts telefono (.iterate sample) = [win] ∧ next.done = true) := by
  intro next before
  have silent : before.verdictos = [] :=
    verdictos_heard sample { telefono with out := [] }
  have finished : before.done = telefono.done :=
    heard_done sample { telefono with out := [] }
  have judged : next = { verdict (timeOut (sample.millis 4) before) with
      lastState := nivel sample.analogin } :=
    loop_eq sample { telefono with out := [] }
  have sent : verdicts telefono (.iterate sample) =
      (verdict (timeOut (sample.millis 4) before)).verdictos := rfl
  rcases judge_cases (sample.millis 4) before with
    ⟨calm, same⟩ | ⟨noisy, failed, cleared, open'⟩ | ⟨noisy, won, closed⟩
  · refine .inl ⟨calm, ?_, ?_, ?_⟩
    · rw [sent, same, silent]
    · rw [judged, same]
    · rw [judged, same]
      exact finished
  · refine .inr (.inl ⟨noisy, ?_, ?_, ?_⟩)
    · rw [sent, failed, silent, List.nil_append]
    · rw [judged]
      exact cleared
    · rw [judged]
      exact open'
  · refine .inr (.inr ⟨noisy, ?_, ?_⟩)
    · rw [sent, won, silent, List.nil_append]
    · rw [judged]
      exact closed

/-- A turn which is not a reset request. -/
def KeepsNumber : Turno Route Sample → Prop
  | .request route _ => route ≠ .reset
  | .iterate _ => True

theorem verdicts_request (telefono : Telefono) (route : Route)
    (sample : Sample) : verdicts telefono (.request route sample) = [] := by
  cases route <;> rfl

theorem done_request {telefono : Telefono} {route : Route} (sample : Sample)
    (keeps : route ≠ .reset) :
    (node.machine.step telefono (.request route sample)).done =
      telefono.done := by
  cases route with
  | reset => exact absurd rfl keeps
  | root => rfl
  | test => rfl
  | manual => rfl

/-- Once the number is done, only a reset request opens it again. -/
theorem done_silent {telefono : Telefono} {turno : Turno Route Sample}
    (finished : telefono.done = true) (keeps : KeepsNumber turno) :
    verdicts telefono turno = [] ∧
      (node.machine.step telefono turno).done = true := by
  cases turno with
  | request route sample =>
      exact ⟨verdicts_request telefono route sample,
        (done_request sample keeps).trans finished⟩
  | iterate sample =>
      have calm : (heard sample { telefono with out := [] }).Calm
          (sample.millis 4) :=
        .inl ((heard_done sample { telefono with out := [] }).trans finished)
      rcases iterate_cases telefono sample with
        ⟨_, silent, _, same⟩ | ⟨noisy, _⟩ | ⟨noisy, _⟩
      · exact ⟨silent, same.trans finished⟩
      · exact absurd calm noisy
      · exact absurd calm noisy

theorem trace_verdicts_done {telefono : Telefono}
    (finished : telefono.done = true) {turnos : List (Turno Route Sample)}
    (keep : ∀ turno ∈ turnos, KeepsNumber turno) :
    (node.machine.trace telefono turnos).filterMap
      (NodeEvent.among win fail) = [] := by
  induction turnos generalizing telefono with
  | nil => rfl
  | cons turno turnos ih =>
      obtain ⟨silent, same⟩ :=
        done_silent finished (keep turno List.mem_cons_self)
      rw [MealyMachine.trace_cons, List.filterMap_append,
        ih same fun other member => keep other (List.mem_cons_of_mem _ member),
        List.append_nil]
      exact silent

/-- Without a reset request nothing is said about a number after `WIN`. -/
theorem win_is_last (telefono : Telefono) {turnos : List (Turno Route Sample)}
    (keep : ∀ turno ∈ turnos, KeepsNumber turno) {before after : List Text}
    (sent : (node.machine.trace telefono turnos).filterMap
      (NodeEvent.among win fail) = before ++ win :: after) :
    after = [] := by
  induction turnos generalizing telefono before with
  | nil => simp at sent
  | cons turno turnos ih =>
      have later : ∀ other ∈ turnos, KeepsNumber other := fun other member =>
        keep other (List.mem_cons_of_mem _ member)
      rw [MealyMachine.trace_cons, List.filterMap_append] at sent
      change verdicts telefono turno ++ _ = _ at sent
      have quiet : verdicts telefono turno = [] → after = [] := by
        intro silent
        rw [silent, List.nil_append] at sent
        exact ih _ later sent
      cases turno with
      | request route sample =>
          exact quiet (verdicts_request telefono route sample)
      | iterate sample =>
          rcases iterate_cases telefono sample with
            ⟨_, silent, _⟩ | ⟨_, failed, _⟩ | ⟨_, won, finished⟩
          · exact quiet silent
          · rw [failed] at sent
            cases before with
            | nil => exact absurd (List.cons.inj sent).1 (by decide)
            | cons first before =>
                exact ih _ later (List.cons.inj sent).2
          · rw [won, trace_verdicts_done finished later, List.append_nil] at sent
            cases before with
            | nil => exact (List.cons.inj sent).2.symm
            | cons first before =>
                have none := (List.cons.inj sent).2
                simp at none

/-- The number of an iteration which leaves it open is incomplete. -/
theorem iterate_open {telefono : Telefono} {sample : Sample}
    (isOpen : (node.machine.step telefono (.iterate sample)).done = false) :
    (node.machine.step telefono (.iterate sample)).fullnum.length <
      objectivenum.length := by
  rcases iterate_cases telefono sample with
    ⟨calm, _, same, kept⟩ | ⟨_, _, cleared, _⟩ | ⟨_, _, finished⟩
  · rw [same]
    rcases calm with finished | empty | ⟨short, _⟩
    · rw [heard_done] at finished
      rw [kept] at isOpen
      exact absurd (isOpen.symm.trans finished) Bool.false_ne_true
    · rw [empty]
      decide
    · exact short
  · rw [cleared]
    decide
  · exact absurd (isOpen.symm.trans finished) Bool.false_ne_true

/-- The protocol of the telephone: the handset goes up and down in turns,
nothing is said about a number between `WIN` and the next reset request, and an
iteration leaves an open number incomplete. -/
theorem messages_in_order (turnos : List (Turno Route Sample)) :
    Alternates up down ((node.machine.trace node.setup turnos).filterMap
      (NodeEvent.among up down)) ∧
    (∀ first later, turnos = first ++ later →
      (∀ turno ∈ later, KeepsNumber turno) →
      ∀ before after, (node.machine.trace (node.after first) later).filterMap
        (NodeEvent.among win fail) = before ++ win :: after → after = []) ∧
    (∀ first sample, turnos = first ++ [.iterate sample] →
      (node.after turnos).done = false →
      (node.after turnos).fullnum.length < objectivenum.length) := by
  refine ⟨?_, ?_, ?_⟩
  · have always : node.machine.Along (fun _ _ => True) node.setup turnos :=
      node.machine.along_of_forall (fun _ _ => trivial) _ _
    exact (node.machine.alternates_trace_iff (by decide) (fun _ => True)
      (fun _ _ _ => trivial) (fun telefono turno _ => turns_tubo telefono turno)
      trivial turnos).mpr always
  · intro first later _ keep before after sent
    exact win_is_last _ keep sent
  · rintro first sample rfl isOpen
    have last : node.after (first ++ [.iterate sample]) =
        node.machine.step (node.after first) (.iterate sample) :=
      node.machine.run_append node.setup first [.iterate sample]
    rw [last] at isOpen ⊢
    exact iterate_open isOpen

/-! ## Verdicts while the handset is down -/

/-- A turn brings no digits to an open number while the handset is down: an iteration
completes none, and the operator does not overwrite it. -/
def NothingDialled (telefono : Telefono) : Turno Route Sample → Prop
  | .request route _ =>
      telefono.tuboUp = false → telefono.done = false → route ≠ .manual
  | .iterate sample =>
      telefono.tuboUp = false → telefono.done = false →
        ¬ telefono.DigitDue (sample.millis 0)

/-- Verdicts are sent by iterations which start with the handset up. -/
def VerdictsUp (telefono : Telefono) : Turno Route Sample → Prop
  | .request route sample => verdicts telefono (.request route sample) = []
  | .iterate sample =>
      telefono.tuboUp = false → verdicts telefono (.iterate sample) = []

/-- While the handset is down there is no number to judge. -/
def Blank (telefono : Telefono) : Prop :=
  telefono.tuboUp = false → telefono.done = false → telefono.fullnum = []

theorem completeDigit_fullnum (now : UInt32) (telefono : Telefono) :
    (telefono.completeDigit now).fullnum =
      if telefono.DigitDue now then
        telefono.fullnum ++ decimal (telefono.count.tmod 10)
      else
        telefono.fullnum := by
  obtain ⟨_, _, _, dialled⟩ := telefono.completeDigit_frame now
  rw [dialled]

/-- The time since the last change depends on the level and its stamp alone. -/
theorem age_congr {first second : Telefono}
    (level : first.lastState = second.lastState)
    (stamp : first.lastStateChangeTime = second.lastStateChangeTime)
    (place : Nat) (sample : Sample) :
    first.age place sample = second.age place sample := by
  rw [age_eq, age_eq, lastChange_eq, lastChange_eq, level, stamp]

theorem turnsHook_congr {first second : Telefono}
    (level : first.lastState = second.lastState)
    (stamp : first.lastStateChangeTime = second.lastStateChangeTime)
    (handset : first.tuboUp = second.tuboUp) (sample : Sample) :
    first.TurnsHook sample ↔ second.TurnsHook sample := by
  unfold TurnsHook HangsUp LiftsUp
  rw [age_congr level stamp, handset]

/-- What was emitted before does not matter to the number. -/
theorem numero_silence (telefono : Telefono) (sample : Sample) :
    numero sample { telefono with out := [] } = telefono.numero sample := by
  have turns :=
    @turnsHook_congr { telefono with out := [] } telefono rfl rfl rfl sample
  rw [numero, completeDigit_fullnum, numero, completeDigit_fullnum]
  exact if_congr turns rfl rfl

theorem heard_elapsed (place : Nat) (sample : Sample) (telefono : Telefono) :
    (telefono.heard sample).elapsed (sample.millis place) =
      telefono.age place sample := by
  obtain ⟨_, _, _, _, hears⟩ := telefono.heard_frame sample
  rw [hears]
  rfl

theorem heard_fullnum (sample : Sample) (telefono : Telefono) :
    (telefono.heard sample).fullnum = telefono.numero sample := by
  obtain ⟨_, _, _, _, hears⟩ := telefono.heard_frame sample
  rw [hears]

theorem heard_tuboUp (sample : Sample) (telefono : Telefono) :
    (telefono.heard sample).tuboUp =
      if telefono.TurnsHook sample then !telefono.tuboUp else telefono.tuboUp := by
  obtain ⟨_, _, _, _, hears⟩ := telefono.heard_frame sample
  rw [hears]

theorem iterate_tuboUp (telefono : Telefono) (sample : Sample) :
    (node.machine.step telefono (.iterate sample)).tuboUp =
      if telefono.TurnsHook sample then !telefono.tuboUp else telefono.tuboUp := by
  have judged : (node.machine.step telefono (.iterate sample)).tuboUp =
      (verdict (timeOut (sample.millis 4)
        (heard sample { telefono with out := [] }))).tuboUp :=
    rfl
  have turns :=
    @turnsHook_congr { telefono with out := [] } telefono rfl rfl rfl sample
  rw [judged, verdict_tuboUp, timeOut_tuboUp, heard_tuboUp]
  exact if_congr turns rfl rfl

/-- Without a new digit an iteration judges no more than the number it finds. -/
theorem numero_of_not_due {telefono : Telefono} {sample : Sample}
    (notDue : ¬ telefono.DigitDue (sample.millis 0))
    (blank : telefono.fullnum = []) : telefono.numero sample = [] := by
  rw [numero, completeDigit_fullnum, if_neg notDue, blank, ite_self]

/-- What an iteration with the handset down makes of an open number: it stays as it
is, without a verdict, only if it is empty or incomplete and not late. -/
theorem calm_iff (telefono : Telefono) (sample : Sample) :
    (heard sample { telefono with out := [] }).Calm (sample.millis 4) ↔
      telefono.done = true ∨ telefono.numero sample = [] ∨
        (telefono.numero sample).length < objectivenum.length ∧
          ¬ telefono.age 4 sample > resetTime := by
  have age := @age_congr { telefono with out := [] } telefono rfl rfl 4 sample
  rw [Calm, heard_done, heard_elapsed, heard_fullnum, numero_silence, age]

/-- A blank telephone sends no verdict while its handset is down. -/
theorem Blank.verdictsUp {telefono : Telefono} {turno : Turno Route Sample}
    (blank : Blank telefono) (nothing : NothingDialled telefono turno) :
    VerdictsUp telefono turno := by
  cases turno with
  | request route sample => exact verdicts_request telefono route sample
  | iterate sample =>
      intro isDown
      have calm : (heard sample { telefono with out := [] }).Calm
          (sample.millis 4) := by
        rw [calm_iff]
        cases finished : telefono.done with
        | true => exact .inl rfl
        | false =>
            exact .inr (.inl (numero_of_not_due (nothing isDown finished)
              (blank isDown finished)))
      rcases iterate_cases telefono sample with
        ⟨-, silent, -⟩ | ⟨noisy, -⟩ | ⟨noisy, -⟩
      · exact silent
      · exact absurd calm noisy
      · exact absurd calm noisy

/-- And it stays blank: hanging up clears the number, and with the handset down no
digit is added to it. -/
theorem Blank.step {telefono : Telefono} {turno : Turno Route Sample}
    (blank : Blank telefono) (nothing : NothingDialled telefono turno) :
    Blank (node.machine.step telefono turno) := by
  cases turno with
  | request route sample =>
      cases route with
      | root => exact blank
      | test => exact blank
      | reset => exact fun _ _ => rfl
      | manual => exact fun isDown isOpen => absurd rfl (nothing isDown isOpen)
  | iterate sample =>
      intro isDown isOpen
      rcases iterate_cases telefono sample with
        ⟨-, -, same, kept⟩ | ⟨-, -, cleared, -⟩ | ⟨-, -, finished⟩
      · rw [iterate_tuboUp] at isDown
        rw [same, heard_fullnum, numero_silence]
        by_cases turns : telefono.TurnsHook sample
        · exact if_pos turns
        · rw [if_neg turns] at isDown
          rw [kept] at isOpen
          exact numero_of_not_due (nothing isDown isOpen) (blank isDown isOpen)
      · exact cleared
      · exact absurd (isOpen.symm.trans finished) Bool.false_ne_true

/-- An iteration at one time, with the telephone on its hook. -/
def colgado (time : UInt32) : Turno Route Sample :=
  .iterate { analogin := 1023, millis := fun _ => time }

section Digits

variable {telefono : Telefono}

theorem decimal_ne_nil (value : Int) : decimal value ≠ [] := by
  unfold decimal
  split
  · simp
  · exact Nat.toDigits_ne_nil

theorem completeDigit_ne_nil {now : UInt32}
    (digits : telefono.fullnum ≠ [] ∨ telefono.DigitDue now) :
    (telefono.completeDigit now).fullnum ≠ [] := by
  rw [completeDigit_fullnum]
  split
  · exact List.append_ne_nil_of_right_ne_nil _ (decimal_ne_nil _)
  · rename_i notDue
    exact digits.resolve_right notDue

theorem verdicts_eq_nil_iff (telefono : Telefono) (sample : Sample) :
    verdicts telefono (.iterate sample) = [] ↔
      telefono.done = true ∨ telefono.numero sample = [] ∨
        (telefono.numero sample).length < objectivenum.length ∧
          ¬ telefono.age 4 sample > resetTime := by
  rw [← calm_iff]
  rcases iterate_cases telefono sample with
    ⟨quiet, silent, -⟩ | ⟨noisy, failed, -⟩ | ⟨noisy, won, -⟩
  · exact iff_of_true silent quiet
  · exact iff_of_false (by simp [failed]) noisy
  · exact iff_of_false (by simp [won]) noisy

/-- An iteration without a verdict keeps an open number. -/
theorem kept_of_silent {sample : Sample} (isOpen : telefono.done = false)
    (silent : verdicts telefono (.iterate sample) = []) :
    let next := node.machine.step telefono (.iterate sample)
    next.fullnum = telefono.numero sample ∧ next.done = false := by
  rcases iterate_cases telefono sample with
    ⟨-, -, same, kept⟩ | ⟨-, failed, -⟩ | ⟨-, won, -⟩
  · exact ⟨same.trans ((heard_fullnum _ _).trans (numero_silence telefono sample)),
      kept.trans isOpen⟩
  · exact absurd (silent.symm.trans failed) (by simp)
  · exact absurd (silent.symm.trans won) (by simp)

/-- The hook does not turn while the handset lies on it. -/
theorem not_turnsHook {time : UInt32} (isDown : telefono.tuboUp = false) :
    ¬ telefono.TurnsHook { analogin := 1023, millis := fun _ => time } := by
  rintro ⟨-, hung | lifted⟩
  · exact Bool.false_ne_true (isDown.symm.trans hung.2)
  · exact absurd lifted.1 (by simp [nivel])

/-- An iteration which is late for a telephone which has been on its hook. -/
theorem late_on_hook (level : telefono.lastState = .high) :
    telefono.age 4 { analogin := 1023, millis := fun _ =>
      telefono.lastStateChangeTime.toUInt32 + (resetTime + 1) } > resetTime := by
  have same : nivel 1023 = telefono.lastState := level.symm
  rw [age_eq, lastChange_eq, if_neg (not_not.mpr same), UInt32.add_comm,
    UInt32.add_sub_cancel]
  decide

/-- A number which is left when the handset is down is judged there: after two
iterations which are far enough apart a verdict has been sent. -/
theorem judged_on_hook (isDown : telefono.tuboUp = false)
    (isOpen : telefono.done = false) (digits : telefono.fullnum ≠ []) :
    ∃ time, ¬ node.machine.Along VerdictsUp telefono [colgado 0, colgado time] := by
  let next := node.machine.step telefono (colgado 0)
  refine ⟨next.lastStateChangeTime.toUInt32 + (resetTime + 1), ?_⟩
  rintro ⟨first, second, -⟩
  obtain ⟨number, stillOpen⟩ := kept_of_silent isOpen (first isDown)
  have here := @not_turnsHook telefono 0 isDown
  have stillDown : next.tuboUp = false := by
    change (node.machine.step telefono (colgado 0)).tuboUp = false
    rw [colgado, iterate_tuboUp, if_neg here]
    exact isDown
  have nonempty : next.fullnum ≠ [] := by
    have same : next.fullnum = _ := number
    rw [same, numero, if_neg here]
    exact completeDigit_ne_nil (.inl digits)
  have silent := (verdicts_eq_nil_iff next _).mp (second stillDown)
  rw [numero, if_neg (not_turnsHook stillDown)] at silent
  rcases silent with finished | empty | ⟨-, inTime⟩
  · exact Bool.false_ne_true (stillOpen.symm.trans finished)
  · exact completeDigit_ne_nil (.inl nonempty) empty
  · exact inTime (late_on_hook rfl)

/-- A digit which comes while the handset is down, and stays down, leads to a
verdict. -/
theorem dialled_down {turno : Turno Route Sample}
    (something : ¬ NothingDialled telefono turno)
    (stays : (node.machine.step telefono turno).tuboUp = false) :
    ∃ later, ¬ node.machine.Along VerdictsUp telefono (turno :: later) := by
  cases turno with
  | request route sample =>
      simp only [NothingDialled, not_forall, not_not] at something
      obtain ⟨isDown, isOpen, rfl⟩ := something
      have digits : objectivenum ≠ [] := by decide
      obtain ⟨time, judged⟩ := @judged_on_hook
        (node.machine.step telefono (.request .manual sample)) isDown isOpen digits
      exact ⟨[colgado 0, colgado time], fun along => judged along.2⟩
  | iterate sample =>
      simp only [NothingDialled, not_forall, not_not] at something
      obtain ⟨isDown, isOpen, due⟩ := something
      by_cases silent : verdicts telefono (.iterate sample) = []
      · obtain ⟨number, stillOpen⟩ := kept_of_silent isOpen silent
        have still : ¬ telefono.TurnsHook sample := by
          intro turns
          rw [iterate_tuboUp, if_pos turns, isDown] at stays
          exact absurd stays (by decide)
        have nonempty : telefono.numero sample ≠ [] := by
          rw [numero, if_neg still]
          exact completeDigit_ne_nil (.inr due)
        obtain ⟨time, judged⟩ := judged_on_hook stays stillOpen (by
          rw [number]
          exact nonempty)
        exact ⟨[colgado 0, colgado time], fun along => judged along.2⟩
      · exact ⟨[], fun along => silent (along.1 isDown)⟩

end Digits

/-- In a run in which no digit comes while the handset is down all verdicts are sent
with the handset up, and a telephone whose handset is down has no number.  A digit
which comes while the handset is down, and is not cleared at once because the handset
is lifted, leads to a verdict with the handset down. -/
theorem verdicts_handset_up (turnos : List (Turno Route Sample)) :
    (node.machine.Along NothingDialled node.setup turnos →
      node.machine.Along VerdictsUp node.setup turnos ∧
        Blank (node.after turnos)) ∧
    ∀ turno, ¬ NothingDialled (node.after turnos) turno →
      (node.after (turnos ++ [turno])).tuboUp = false →
      ∃ later, ¬ node.machine.Along VerdictsUp node.setup
        (turnos ++ turno :: later) := by
  have keeps (telefono : Telefono) (turno : Turno Route Sample)
      (nothing : NothingDialled telefono turno) (blank : Blank telefono) :
      Blank (node.machine.step telefono turno) :=
    blank.step nothing
  have initially : Blank node.setup := fun _ _ => rfl
  refine ⟨fun nothing => ⟨?_, ?_⟩, ?_⟩
  · exact node.machine.along_of_invariant keeps
      (fun _ _ nothing blank => Blank.verdictsUp blank nothing) initially nothing
  · exact MealyMachine.Along.invariant _ keeps initially nothing
  · intro turno something stays
    have last : node.after (turnos ++ [turno]) =
        node.machine.step (node.after turnos) turno :=
      node.machine.run_append node.setup turnos [turno]
    rw [last] at stays
    obtain ⟨later, judged⟩ := dialled_down something stays
    refine ⟨later, fun along => judged ?_⟩
    exact ((node.machine.along_append VerdictsUp node.setup turnos _).mp along).2

/-- A telephone which is switched on with its handset down counts the level of
the hook as a pulse, and gives the digit up as a wrong number. -/
theorem verdict_handset_down :
    ¬ node.machine.Along VerdictsUp node.setup
      [colgado 1000, colgado 1020, colgado 1200, colgado 2001001] := by
  intro along
  have silent := along.2.2.2.1 (by decide +kernel)
  revert silent
  decide +kernel

end Telefono

end Salsipuedes

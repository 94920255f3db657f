import Salsipuedes.MaquinaRuns
import Salsipuedes.StableButton

/-!
# The time limit of a move

`waitForButton` keeps the time of its call in a signed integer and subtracts it
from the unsigned clock.  Both are taken modulo `2 ^ 32`, so that the difference is
the true time since the call, whenever the call is made and however often the clock
wraps around before it.
-/

namespace Salsipuedes.Maquina.Plazo

/-- One poll of `waitForButton`: the true time since the call, and what the poll
samples. -/
structure Sondeo where
  elapsed : Nat
  sample : Sample

/-- The clock which the polls read, since a call at `entry`. -/
def Timed (entry : UInt32) (polls : List Sondeo) : Prop :=
  ∀ poll ∈ polls, poll.elapsed < 2 ^ 32 ∧
    poll.sample.millis = entry + UInt32.ofNat poll.elapsed

theorem Timed.mono {entry : UInt32} {part all : List Sondeo}
    (timed : Timed entry all) (among : part ⊆ all) : Timed entry part :=
  fun poll member => timed poll (among member)

/-- The comparison of the polling loop is one of true times. -/
theorem inTime_iff (entry : UInt32) {poll : Sondeo}
    (timed : Timed entry [poll]) :
    poll.sample.millis - entry.toInt32.toUInt32 < entryTimeLimit ↔
      poll.elapsed < entryTimeLimit.toNat := by
  obtain ⟨bounded, clock⟩ := timed poll (List.mem_singleton_self poll)
  have difference : poll.sample.millis - entry.toInt32.toUInt32 =
      UInt32.ofNat poll.elapsed := by
    rw [clock, UInt32.toUInt32_toInt32, UInt32.add_comm,
      UInt32.add_sub_cancel]
  rw [difference, UInt32.lt_iff_toNat_lt, UInt32.toNat_ofNat',
    Nat.mod_eq_of_lt bounded]

section Polls

variable {Button : Type} [Bounce Button]

/-- The commands and the buttons of a poll: the button which it reports, and the
globals after it. -/
def polled (sample : Sample) (maquina : Maquina Button) :
    Nat × Maquina Button :=
  checkButton sample (checkIncoming sample { maquina with out := [] })

/-- The globals after some polls which report no button. -/
def afterPolls (maquina : Maquina Button) (polls : List Sondeo) :
    Maquina Button :=
  polls.foldl (fun maquina poll => (polled poll.sample maquina).2) maquina

/-- Polls within the time limit which report no button. -/
def Unanswered : Maquina Button → List Sondeo → Prop
  | _, [] => True
  | maquina, poll :: polls =>
      poll.elapsed < entryTimeLimit.toNat ∧
        (polled poll.sample maquina).1 = choiceNone ∧
        Unanswered (polled poll.sample maquina).2 polls

/-- All of some checks, made while the button is to be released, still report a
button. -/
def held : Maquina Button → List Sample → Bool
  | _, [] => true
  | maquina, sample :: samples =>
      let (pressed, next) := checkButton sample { maquina with out := [] }
      pressed != choiceNone && held next samples

/-- What an operation makes `waitForButton` return. -/
def returned (config : Config Button) (sample : Sample) : Option Nat :=
  let maquina := { config.maquina with out := [] }
  match config.control with
  | .waiting startTime currentMove =>
      (pollButton sample startTime currentMove maquina).1.returned
  | .releasing button currentMove =>
      (pollRelease sample button currentMove maquina).1.returned
  | _ => none

theorem returned_waiting (startTime : Int32) (currentMove : Nat)
    (maquina : Maquina Button) (sample : Sample) :
    returned ⟨.waiting startTime currentMove, maquina⟩ sample =
      if InTime startTime sample then none else some choiceNone := by
  dsimp only [returned, pollButton]
  split
  · split <;> rfl
  · rfl

theorem inTime_of_goesOn {startTime : Int32} {currentMove : Nat}
    {maquina : Maquina Button} {sample : Sample}
    (goesOn : returned ⟨.waiting startTime currentMove, maquina⟩ sample = none) :
    InTime startTime sample := by
  rw [returned_waiting] at goesOn
  by_contra late
  exact Option.some_ne_none _ ((if_neg late).symm.trans goesOn)

theorem returned_releasing (button currentMove : Nat) (maquina : Maquina Button)
    (sample : Sample) :
    returned ⟨.releasing button currentMove, maquina⟩ sample =
      if (checkButton sample { maquina with out := [] }).1 = choiceNone then
        some button
      else none := by
  dsimp only [returned, pollRelease]
  by_cases free : (checkButton sample { maquina with out := [] }).1 = choiceNone
  · rw [if_pos free, if_neg (not_not.mpr free)]
    rfl
  · rw [if_neg free, if_pos free]
    rfl

theorem pressed_of_goesOn {button currentMove : Nat} {maquina : Maquina Button}
    {sample : Sample}
    (goesOn : returned ⟨.releasing button currentMove, maquina⟩ sample = none) :
    (checkButton sample { maquina with out := [] }).1 ≠ choiceNone := by
  rw [returned_releasing] at goesOn
  exact fun free => Option.some_ne_none _ ((if_pos free).symm.trans goesOn)

section Asks

variable {config : Config Button} {sample : Sample} {currentMove choice : Nat}

/-- A call which does not return stays at its control points. -/
theorem asks_step (asks : config.control.Asks currentMove)
    (goesOn : returned config sample = none) :
    ((machine Button).step config sample).control.Asks currentMove := by
  obtain ⟨control, maquina⟩ := config
  cases control with
  | choosing move => exact asks
  | waiting startTime move =>
      change (waitPoll sample startTime move _).control.Asks currentMove
      rw [waitPoll_eq, if_pos (inTime_of_goesOn goesOn)]
      dsimp only
      split <;> exact asks
  | releasing button move =>
      change (releasePoll sample button move _).control.Asks currentMove
      rw [releasePoll_eq]
      dsimp only
      rw [if_pos (pressed_of_goesOn goesOn)]
      exact asks
  | loopStart | knobs | radio | simon | attract | rayos | turbina | enchufe
  | incoming => exact asks.elim

omit [Bounce Button] in
theorem resumeMemory_returns {paso : Paso × Maquina Button}
    (returns : paso.1.returned = some choice) :
    resumeMemory sample currentMove paso =
      choose sample choice currentMove paso.2 := by
  obtain ⟨next, after⟩ := paso
  cases next with
  | goesOn control => exact absurd returns (Option.some_ne_none _).symm
  | returns button =>
      obtain rfl : button = choice := Option.some.inj returns
      rfl

/-- What a call returns is given to `choose`, with the moves as they are. -/
theorem step_returns (asks : config.control.Asks currentMove)
    (returns : returned config sample = some choice) :
    ∃ after : Maquina Button, after.tablero = config.maquina.tablero ∧
      (machine Button).step config sample =
        choose sample choice currentMove after := by
  obtain ⟨control, maquina⟩ := config
  cases control with
  | choosing move => exact absurd returns (Option.some_ne_none _).symm
  | waiting startTime move =>
      subst asks
      refine ⟨_, ?_, resumeMemory_returns returns⟩
      have late : ¬ InTime startTime sample := fun inTime =>
        Option.some_ne_none _ (returns.symm.trans
          ((returned_waiting ..).trans (if_pos inTime)))
      rw [pollButton, if_neg late]
      rfl
  | releasing button move =>
      subst asks
      refine ⟨_, ?_, resumeMemory_returns returns⟩
      dsimp only [pollRelease]
      split <;> rfl
  | loopStart | knobs | radio | simon | attract | rayos | turbina | enchufe
  | incoming => exact asks.elim

end Asks

/-- What `waitForButton` returns first in a run. -/
def answer : Config Button → List Sample → Option Nat
  | _, [] => none
  | config, sample :: samples =>
      (returned config sample).or
        (answer ((machine Button).step config sample) samples)

theorem answer_append (config : Config Button) (first second : List Sample) :
    answer config (first ++ second) =
      (answer config first).or
        (answer ((machine Button).run config first) second) := by
  induction first generalizing config with
  | nil => rfl
  | cons sample samples ih =>
      rw [List.cons_append, answer, ih, answer, Option.or_assoc]
      rfl

/-- What a run answers first is given to `choose` by the operation which returns
it. -/
theorem run_answers {config : Config Button} {currentMove choice : Nat}
    (asks : config.control.Asks currentMove) {samples : List Sample}
    (answers : answer config samples = some choice) :
    ∃ first sample later, ∃ after : Maquina Button,
      samples = first ++ sample :: later ∧ answer config first = none ∧
        (machine Button).run config (first ++ [sample]) =
          choose sample choice currentMove after := by
  induction samples generalizing config with
  | nil => exact absurd answers (Option.some_ne_none _).symm
  | cons sample samples ih =>
      rw [answer] at answers
      cases here : returned config sample with
      | some button =>
          rw [here, Option.some_or] at answers
          obtain rfl := Option.some.inj answers
          obtain ⟨after, -, step⟩ := step_returns asks here
          exact ⟨[], sample, samples, after, rfl, rfl, step⟩
      | none =>
          rw [here, Option.none_or] at answers
          obtain ⟨first, last, later, after, split, goesOn, run⟩ :=
            ih (asks_step asks here) answers
          refine ⟨sample :: first, last, later, after, by rw [split]; rfl, ?_, run⟩
          rw [answer, here, goesOn]
          rfl

variable {entry : UInt32} (currentMove : Nat)

/-- A poll within the limit reports a button, or the loop goes on. -/
theorem step_inTime {poll : Sondeo} (timed : Timed entry [poll])
    (early : poll.elapsed < entryTimeLimit.toNat) (maquina : Maquina Button) :
    returned ⟨.waiting entry.toInt32 currentMove, maquina⟩ poll.sample = none ∧
      (machine Button).step ⟨.waiting entry.toInt32 currentMove, maquina⟩
          poll.sample =
        let (button, next) := polled poll.sample maquina
        if button ≠ choiceNone then
          ⟨.releasing button currentMove, toner button 150 next⟩
        else
          ⟨.waiting entry.toInt32 currentMove, next⟩ := by
  have inTime := (inTime_iff entry timed).mpr early
  constructor
  · exact (returned_waiting ..).trans (if_pos inTime)
  · change waitPoll poll.sample entry.toInt32 currentMove _ = _
    rw [waitPoll_eq, if_pos inTime]
    rfl

/-- While the polls are quiet, the loop goes on. -/
theorem run_quiet {polls : List Sondeo} (timed : Timed entry polls)
    {maquina : Maquina Button} (quiet : Unanswered maquina polls) :
    answer ⟨.waiting entry.toInt32 currentMove, maquina⟩
        (polls.map Sondeo.sample) = none ∧
      (machine Button).run ⟨.waiting entry.toInt32 currentMove, maquina⟩
          (polls.map Sondeo.sample) =
        ⟨.waiting entry.toInt32 currentMove, afterPolls maquina polls⟩ := by
  induction polls generalizing maquina with
  | nil => exact ⟨rfl, rfl⟩
  | cons poll polls ih =>
      obtain ⟨early, silent, later⟩ := quiet
      have here : Timed entry [poll] := timed.mono (by simp)
      obtain ⟨goesOn, step⟩ := step_inTime currentMove here early maquina
      have next : (machine Button).step
          ⟨.waiting entry.toInt32 currentMove, maquina⟩ poll.sample =
          ⟨.waiting entry.toInt32 currentMove, (polled poll.sample maquina).2⟩ :=
        step.trans (if_neg (not_not.mpr silent))
      obtain ⟨noAnswer, last⟩ := ih
        (timed.mono (List.subset_cons_self _ _)) later
      rw [List.map_cons, answer, goesOn, next, MealyMachine.run_cons, next]
      exact ⟨noAnswer, last⟩

/-- A button which was reported is returned at the first check that finds no
button. -/
theorem answer_releasing (button : Nat) (maquina : Maquina Button)
    (samples : List Sample) :
    answer ⟨.releasing button currentMove, maquina⟩ samples =
      if held maquina samples = true then none else some button := by
  induction samples generalizing maquina with
  | nil => rfl
  | cons sample samples ih =>
      let check := checkButton sample { maquina with out := [] }
      have holds : held maquina (sample :: samples) =
          (check.1 != choiceNone && held check.2 samples) := rfl
      have returns : returned ⟨.releasing button currentMove, maquina⟩ sample =
          if check.1 = choiceNone then some button else none :=
        returned_releasing ..
      rw [answer, returns, holds]
      by_cases free : check.1 = choiceNone
      · rw [if_pos free, free]
        rfl
      · have step : (machine Button).step
            ⟨.releasing button currentMove, maquina⟩ sample =
            ⟨.releasing button currentMove, check.2⟩ :=
          (releasePoll_eq ..).trans (if_pos free)
        have pressed : (check.1 != choiceNone) = true :=
          bne_iff_ne.mpr free
        rw [if_neg free, step, ih, pressed, Bool.true_and, Option.none_or]

/-- One poll decides by the true time: within the limit a button is taken, to be
returned when it is released, and without one the loop goes on; past the limit the
call returns no button. -/
theorem answer_poll {poll : Sondeo} (timed : Timed entry [poll])
    (maquina : Maquina Button) (later : List Sample) :
    let report := polled poll.sample maquina
    answer ⟨.waiting entry.toInt32 currentMove, maquina⟩
        (poll.sample :: later) =
      if poll.elapsed < entryTimeLimit.toNat then
        if report.1 = choiceNone then
          answer ⟨.waiting entry.toInt32 currentMove, report.2⟩ later
        else if held (toner report.1 150 report.2) later = true then none
        else some report.1
      else some choiceNone := by
  intro report
  rw [answer]
  by_cases early : poll.elapsed < entryTimeLimit.toNat
  · obtain ⟨goesOn, step⟩ := step_inTime currentMove timed early maquina
    rw [if_pos early, goesOn, Option.none_or, step]
    by_cases silent : report.1 = choiceNone
    · rw [if_pos silent]
      exact congrArg (answer · later) (if_neg (not_not.mpr silent))
    · rw [if_neg silent, ← answer_releasing currentMove]
      exact congrArg (answer · later) (if_pos silent)
  · have late : ¬ poll.sample.millis - entry.toInt32.toUInt32 <
        entryTimeLimit := fun inTime =>
      early ((inTime_iff entry timed).mp inTime)
    have returns : returned ⟨.waiting entry.toInt32 currentMove, maquina⟩
        poll.sample = some choiceNone := (returned_waiting ..).trans (if_neg late)
    rw [if_neg early, returns]
    rfl

/-- The button which a poll reports after some others. -/
def report (maquina : Maquina Button) (before : List Sondeo) (poll : Sondeo) :
    Nat × Maquina Button :=
  polled poll.sample (afterPolls maquina before)

/-- Some polls are quiet, or there is a first one which is late or reports a
button. -/
theorem unanswered_or_decided (maquina : Maquina Button) (polls : List Sondeo) :
    Unanswered maquina polls ∨ ∃ before poll later,
      polls = before ++ poll :: later ∧ Unanswered maquina before ∧
      (entryTimeLimit.toNat ≤ poll.elapsed ∨
        poll.elapsed < entryTimeLimit.toNat ∧
          (report maquina before poll).1 ≠ choiceNone) := by
  induction polls generalizing maquina with
  | nil => exact .inl trivial
  | cons poll polls ih =>
      by_cases early : poll.elapsed < entryTimeLimit.toNat
      · by_cases silent : (polled poll.sample maquina).1 = choiceNone
        · rcases ih (polled poll.sample maquina).2 with
            quiet | ⟨before, next, later, split, quiet, decides⟩
          · exact .inl ⟨early, silent, quiet⟩
          · exact .inr ⟨poll :: before, next, later, by rw [split]; rfl,
              ⟨early, silent, quiet⟩, decides⟩
        · exact .inr ⟨[], poll, polls, rfl, trivial, .inr ⟨early, silent⟩⟩
      · exact .inr ⟨[], poll, polls, rfl, trivial, .inl (not_lt.mp early)⟩

section Calls

variable {call : Sample} {maquina : Maquina Button}

/-- While its polls are quiet, a call has not returned. -/
theorem answer_quiet {polls : List Sondeo} (timed : Timed call.millis polls)
    (quiet : Unanswered { maquina with out := [] } polls) :
    answer ⟨.choosing currentMove, maquina⟩
        (call :: polls.map Sondeo.sample) = none ∧
      (machine Button).run ⟨.choosing currentMove, maquina⟩
          (call :: polls.map Sondeo.sample) =
        ⟨.waiting call.millis.toInt32 currentMove,
          afterPolls { maquina with out := [] } polls⟩ :=
  run_quiet currentMove timed quiet

theorem answer_split {before later : List Sondeo} {poll : Sondeo}
    (timed : Timed call.millis (before ++ poll :: later))
    (quiet : Unanswered { maquina with out := [] } before) :
    answer ⟨.choosing currentMove, maquina⟩
        (call :: (before ++ poll :: later).map Sondeo.sample) =
      answer ⟨.waiting call.millis.toInt32 currentMove,
          afterPolls { maquina with out := [] } before⟩
        (poll.sample :: later.map Sondeo.sample) := by
  have timedBefore : Timed call.millis before :=
    timed.mono (List.subset_append_left _ _)
  obtain ⟨silent, arrives⟩ := answer_quiet currentMove timedBefore quiet
  rw [List.map_append, List.map_cons, ← List.cons_append, answer_append, silent,
    Option.none_or, arrives]

/-- A poll past the limit ends the call without a button. -/
theorem answer_late {before later : List Sondeo} {poll : Sondeo}
    (timed : Timed call.millis (before ++ poll :: later))
    (quiet : Unanswered { maquina with out := [] } before)
    (late : entryTimeLimit.toNat ≤ poll.elapsed) :
    answer ⟨.choosing currentMove, maquina⟩
        (call :: (before ++ poll :: later).map Sondeo.sample) =
      some choiceNone := by
  have timedPoll : Timed call.millis [poll] := timed.mono (by simp)
  rw [answer_split currentMove timed quiet, answer_poll currentMove timedPoll,
    if_neg (not_lt.mpr late)]

/-- A button which is reported within the limit is returned when it is released. -/
theorem answer_found {before later : List Sondeo} {poll : Sondeo}
    (timed : Timed call.millis (before ++ poll :: later))
    (quiet : Unanswered { maquina with out := [] } before)
    (early : poll.elapsed < entryTimeLimit.toNat) {button : Nat}
    {next : Maquina Button}
    (reports : report { maquina with out := [] } before poll = (button, next))
    (found : button ≠ choiceNone) :
    answer ⟨.choosing currentMove, maquina⟩
        (call :: (before ++ poll :: later).map Sondeo.sample) =
      if held (toner button 150 next) (later.map Sondeo.sample) = true then none
      else some button := by
  have timedPoll : Timed call.millis [poll] := timed.mono (by simp)
  rw [report] at reports
  rw [answer_split currentMove timed quiet, answer_poll currentMove timedPoll,
    if_pos early, reports, if_neg found]

/-- What a call returns is decided by its first poll which is not quiet. -/
theorem answer_cases {polls : List Sondeo} (timed : Timed call.millis polls)
    {button : Nat}
    (returns : answer ⟨.choosing currentMove, maquina⟩
      (call :: polls.map Sondeo.sample) = some button) :
    let entered : Maquina Button := { maquina with out := [] }
    (button = choiceNone ∧ ∃ before poll later,
      polls = before ++ poll :: later ∧ Unanswered entered before ∧
        entryTimeLimit.toNat ≤ poll.elapsed) ∨
    (button ≠ choiceNone ∧ ∃ before poll later next,
      polls = before ++ poll :: later ∧ Unanswered entered before ∧
        poll.elapsed < entryTimeLimit.toNat ∧
        report entered before poll = (button, next) ∧
        held (toner button 150 next) (later.map Sondeo.sample) = false) := by
  intro entered
  rcases unanswered_or_decided entered polls with
    quiet | ⟨before, poll, later, split, quiet, late | ⟨early, found⟩⟩
  · have goesOn := (answer_quiet currentMove timed quiet).1
    exact absurd (goesOn.symm.trans returns) (Option.some_ne_none _).symm
  · subst split
    have decided := answer_late currentMove timed quiet late
    exact .inl ⟨(Option.some.inj (decided.symm.trans returns)).symm,
      before, poll, later, rfl, quiet, late⟩
  · subst split
    cases reported : report entered before poll with
    | mk taken next =>
        rw [reported] at found
        have decided :=
          answer_found currentMove timed quiet early reported found
        cases pressed : held (toner taken 150 next)
            (later.map Sondeo.sample) with
        | true =>
            rw [pressed] at decided
            exact absurd (decided.symm.trans returns)
              (Option.some_ne_none _).symm
        | false =>
            rw [pressed] at decided
            obtain rfl := Option.some.inj (decided.symm.trans returns)
            exact .inr ⟨found, before, poll, later, next, rfl, quiet, early,
              reported, pressed⟩

end Calls

/-- Whenever `waitForButton` is called, it goes on as long as its polls are within
the limit by the true time and report no button.  It returns no button exactly when
after such polls one is past the limit, and it returns a button exactly when after
such polls one within the limit reports it and it is released later.  What it returns
first is what `playMemory` goes on with. -/
theorem wait_for_button_timed {call : Sample} {polls : List Sondeo}
    (timed : Timed call.millis polls) (maquina : Maquina Button) :
    let result := answer ⟨.choosing currentMove, maquina⟩
      (call :: polls.map Sondeo.sample)
    let entered : Maquina Button := { maquina with out := [] }
    (Unanswered entered polls → result = none ∧
      (machine Button).run ⟨.choosing currentMove, maquina⟩
          (call :: polls.map Sondeo.sample) =
        ⟨.waiting call.millis.toInt32 currentMove, afterPolls entered polls⟩) ∧
    (result = some choiceNone ↔
      ∃ before poll later, polls = before ++ poll :: later ∧
        Unanswered entered before ∧ entryTimeLimit.toNat ≤ poll.elapsed) ∧
    (∀ button ≠ choiceNone, result = some button ↔
      ∃ before poll later next, polls = before ++ poll :: later ∧
        Unanswered entered before ∧ poll.elapsed < entryTimeLimit.toNat ∧
        report entered before poll = (button, next) ∧
        held (toner button 150 next) (later.map Sondeo.sample) = false) ∧
    ∀ choice, result = some choice →
      ∃ first sample later, ∃ after : Maquina Button,
        call :: polls.map Sondeo.sample = first ++ sample :: later ∧
        answer ⟨.choosing currentMove, maquina⟩ first = none ∧
        (machine Button).run ⟨.choosing currentMove, maquina⟩
            (first ++ [sample]) = choose sample choice currentMove after := by
  intro result entered
  have asks : Control.Asks currentMove (.choosing currentMove) := rfl
  refine ⟨answer_quiet currentMove timed, ⟨fun returns => ?_, ?_⟩,
    fun button found => ⟨fun returns => ?_, ?_⟩,
    fun choice answers => run_answers asks answers⟩
  · exact ((answer_cases currentMove timed returns).resolve_right fun other =>
      other.1 rfl).2
  · rintro ⟨before, poll, later, rfl, quiet, late⟩
    exact answer_late currentMove timed quiet late
  · exact ((answer_cases currentMove timed returns).resolve_left fun other =>
      found other.1).2
  · rintro ⟨before, poll, later, next, rfl, quiet, early, reports, released⟩
    have decided :=
      answer_found currentMove timed quiet early reports found
    rw [released] at decided
    exact decided

end Polls

/-- A call 100 ms before the clock wraps around. -/
def tarde : Sample :=
  { Sample.reposo with millis := 4294967196 }

/-- Two polls after the clock has wrapped around, within the limit and past it. -/
def vuelta : List Sondeo :=
  [⟨7999, { Sample.reposo with millis := 7899 }⟩,
    ⟨8000, { Sample.reposo with millis := 7900 }⟩]

theorem wait_for_button_wraps :
    answer ⟨.choosing 0, (powerUp tarde : Maquina StableButton)⟩
      (tarde :: vuelta.map Sondeo.sample) = some choiceNone := by
  have timed : Timed tarde.millis vuelta := by
    intro poll member
    simp only [vuelta, List.mem_cons, List.not_mem_nil, or_false] at member
    rcases member with rfl | rfl <;> exact ⟨by decide, by decide⟩
  have waits := wait_for_button_timed 0 timed
    (powerUp tarde : Maquina StableButton)
  exact waits.2.1.mpr ⟨[⟨7999, { Sample.reposo with millis := 7899 }⟩],
    ⟨8000, { Sample.reposo with millis := 7900 }⟩, [], rfl,
    ⟨by decide, rfl, trivial⟩, by decide⟩

end Salsipuedes.Maquina.Plazo

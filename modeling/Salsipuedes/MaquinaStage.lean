import Salsipuedes.MaquinaWins

/-!
# The stage counter

`gamesWon` is redundant: it counts the advances of a game, whose flags are kept
separately.  In terms of the history of a run it is the number of solved puzzles
and granted stages since the game was last cleared.  It agrees with the flags
unless the game was switched on by the operator, and it stays within the stages
that can be shown unless the operator granted too many of them.  A puzzle which is
solved after a granted stage is counted all the same.
-/

namespace Salsipuedes.Maquina

open EventHistory

/-- A puzzle is solved, or the operator asks for a stage. -/
def Event.advances : Event → Bool
  | .serial1 message => message ∈ ["ON", "KWIN", "RWIN", "SWIN"]
  | .received text => decide (text = "manual".toList)
  | _ => false

/-- The operator switches the game on. -/
def Event.switchesOn (event : Event) : Bool :=
  decide (event = .received "on".toList)

/-- The operator asks for a stage. -/
def Event.grants (event : Event) : Bool :=
  decide (event = .received "manual".toList)

/-- A puzzle is solved. -/
def Event.solves (event : Event) : Bool :=
  decide (∃ puzzle, event.announces puzzle = true)

theorem Event.visible_of_advances (event : Event)
    (relevant : event.advances = true ∨ event.clears = true) :
    event.visible = true := by
  rcases relevant with advances | clears
  · cases event with
    | serial1 message => rfl
    | received text => rfl
    | _ => simp [Event.advances] at advances
  · exact @Event.visible_of_relevant .enchufe event (.inr clears)

theorem Event.visible_of_received (text : Text) (event : Event)
    (relevant : decide (event = .received text) = true ∨ event.clears = true) :
    event.visible = true := by
  rcases relevant with received | clears
  · rw [decide_eq_true_eq] at received
    rw [received]
    rfl
  · exact @Event.visible_of_relevant .enchufe event (.inr clears)

theorem Event.visible_of_grants (event : Event)
    (relevant : event.grants = true ∨ event.clears = true) :
    event.visible = true :=
  Event.visible_of_received "manual".toList event relevant

theorem Event.visible_of_switches (event : Event)
    (relevant : event.switchesOn = true ∨ event.clears = true) :
    event.visible = true :=
  Event.visible_of_received "on".toList event relevant

theorem Event.visible_of_solves (event : Event) (solves : event.solves = true) :
    event.visible = true := by
  obtain ⟨puzzle, announces⟩ := of_decide_eq_true solves
  exact Event.visible_of_relevant event (.inl announces)

namespace Partida

theorem advance_neutral {stage : Int} {event : Event}
    (member : event ∈ advance stage) :
    event.advances = false ∧ event.clears = false ∧
      event.switchesOn = false := by
  unfold advance at member
  split at member <;> simp only [List.mem_cons, List.not_mem_nil, or_false]
    at member
  · subst member
    exact ⟨rfl, rfl, rfl⟩
  · rcases member with rfl | rfl <;> exact ⟨rfl, rfl, rfl⟩

theorem tally_advance (stage : Int) (count : Nat) :
    tally Event.advances Event.clears count (advance stage) = count :=
  tally_of_neutral
    (fun _ member => ⟨(advance_neutral member).1, (advance_neutral member).2.1⟩)
    count

/-- The other texts change neither the puzzles nor the grants of a game. -/
theorem command_keeps {partida : Partida} {text : Text}
    (unlocked : text ∉ locking) (notWin : text ≠ "win".toList)
    (notManual : text ≠ "manual".toList) :
    (partida.command text).solved = partida.solved ∧
      (partida.command text).skips = partida.skips ∧
      (partida.command text).forced = partida.forced := by
  simp only [locking, List.mem_cons, List.not_mem_nil, or_false, not_or]
    at unlocked
  rw [command, if_neg unlocked.1, if_neg unlocked.2.1, if_neg unlocked.2.2,
    if_neg notWin]
  split
  · unfold sillaOn
    split <;> exact ⟨rfl, rfl, rfl⟩
  split
  · exact ⟨rfl, rfl, rfl⟩
  split
  · exact ⟨rfl, rfl, rfl⟩
  · exact ⟨rfl, rfl, rfl⟩

theorem stage_command {partida : Partida} {count : Nat}
    (counted : partida.stage = count) (text : Text) :
    (partida.command text).stage =
      tally Event.advances Event.clears count
        (partida.report (.command text)) := by
  by_cases reset : text = "reset".toList
  · subst reset
    rfl
  by_cases on : text = "on".toList
  · subst on
    rfl
  by_cases off : text = "off".toList
  · subst off
    rfl
  by_cases win : text = "win".toList
  · subst win
    rfl
  by_cases manual : text = "manual".toList
  · subst manual
    change Partida.stage (if partida.stage > 3 then finished else partida.skip) =
      tally Event.advances Event.clears (count + 1)
        (if partida.stage > 3 then [.console "winnnnning" [], .serial1 "OFF"]
          else advance (partida.stage + 1))
    split
    · rfl
    · rw [tally_advance, stage_skip, counted]
      rfl
  have unlocked : text ∉ locking := by
    simp only [locking, List.mem_cons, List.not_mem_nil, or_false, not_or]
    exact ⟨reset, on, off⟩
  have heard : Event.clears (.received text) = false := decide_eq_false unlocked
  have asked : Event.advances (.received text) = false := by
    rw [Event.advances, decide_eq_false manual]
  have same : (partida.command text).stage = partida.stage := by
    obtain ⟨solved, skips, forced⟩ := @command_keeps partida text unlocked win manual
    rw [stage, solved, skips, forced, stage]
  rw [same, counted, report, if_neg reset, if_neg win, if_neg manual]
  simp [tally, heard, asked]

/-- The stage is the number of advances since the game was last cleared. -/
theorem stage_act {partida : Partida} {action : Action} {count : Nat}
    (enabled : partida.Enabled action) (counted : partida.stage = count) :
    (partida.act action).stage =
      tally Event.advances Event.clears count (partida.report action) := by
  cases action with
  | idle => exact counted
  | lose => exact counted
  | unplug => rfl
  | solve puzzle =>
      rw [act, stage_solve enabled, counted]
      cases puzzle with
      | enchufe =>
          change (count : Int) + 1 = tally Event.advances Event.clears (count + 1)
            (advance (partida.stage + 1))
          rw [tally_advance]
          rfl
      | knobs | radio | simon =>
          change (count : Int) + 1 = tally Event.advances Event.clears (count + 1)
            (advance (partida.stage + 1))
          rw [tally_advance]
          rfl
  | command text => exact stage_command counted text

/-- What an action says about stages is about the stage which it reaches. -/
theorem report_console {partida : Partida} {action : Action} {line : String}
    {values : List Int} (enabled : partida.Enabled action)
    (member : .console line values ∈ partida.report action) :
    line ∈ ["enchufe on", "enchufe off", "winnnnning"] ∨
      1 ≤ (partida.act action).stage ∧
        .console line values ∈ advance (partida.act action).stage := by
  have nonneg := partida.stage_nonneg
  cases action with
  | idle => simp [report] at member
  | lose => simp [report] at member
  | unplug =>
      left
      simp only [report, List.mem_cons, List.not_mem_nil, or_false,
        Event.console.injEq, reduceCtorEq, false_or] at member
      simp [member.1]
  | solve puzzle =>
      rw [act, stage_solve enabled]
      cases puzzle with
      | enchufe =>
          simp only [report, List.mem_cons, Event.console.injEq, reduceCtorEq,
            false_or] at member
          rcases member with plugged | member
          · simp [plugged.1]
          · exact .inr ⟨by omega, member⟩
      | knobs | radio | simon =>
          right
          refine ⟨by omega, ?_⟩
          simpa [report] using member
  | command text =>
      simp only [report, List.mem_cons, reduceCtorEq, false_or] at member
      split at member
      · simp at member
      split at member
      · left
        simp only [List.mem_cons, List.not_mem_nil, or_false,
          Event.console.injEq, reduceCtorEq] at member
        simp [member.1]
      split at member
      · rename_i manual
        subst manual
        have granted : partida.act (.command "manual".toList) =
            if partida.stage > 3 then finished else partida.skip := rfl
        rw [granted]
        split at member
        · left
          simp only [List.mem_cons, List.not_mem_nil, or_false,
            Event.console.injEq, reduceCtorEq] at member
          simp [member.1]
        · rename_i last
          right
          rw [if_neg last, stage_skip]
          exact ⟨by omega, member⟩
      · simp at member

/-- The operator has granted a stage of this game. -/
def granted (partida : Partida) : Bool :=
  decide (0 < partida.skips)

/-- The exit is released by a text. -/
def Finishes (partida : Partida) (text : Text) : Prop :=
  text = "win".toList ∨ text = "manual".toList ∧ partida.stage > 3

/-- Whether a text was received since the game was last cleared, after the report
of a command. -/
theorem marked_command (asked : Text) (flag : Bool) (partida : Partida)
    (text : Text) :
    marked (fun event => decide (event = .received asked)) Event.clears flag
        (partida.report (.command text)) = true ↔
      ¬ partida.Finishes text ∧
        (text = asked ∨ text ∉ locking ∧ flag = true) := by
  have begun : next (fun event => decide (event = .received asked)) Event.clears
      flag (.received text) = true ↔
        text = asked ∨ text ∉ locking ∧ flag = true := by
    by_cases same : text = asked
    · simp [next, same]
    · by_cases locks : text ∈ locking <;> simp [next, Event.clears, same, locks]
  rw [← begun, report, marked]
  generalize next (fun event => decide (event = .received asked)) Event.clears
    flag (.received text) = heard
  by_cases reset : text = "reset".toList
  · subst reset
    simp [marked, next, Event.clears, Finishes]
  rw [if_neg reset]
  by_cases win : text = "win".toList
  · subst win
    simp [marked, next, Event.clears, Finishes]
  rw [if_neg win]
  by_cases manual : text = "manual".toList
  · subst manual
    rw [if_pos rfl]
    by_cases last : partida.stage > 3
    · rw [if_pos last]
      simp [marked, next, Event.clears, Finishes, last]
    · have plain : marked (fun event => decide (event = .received asked))
          Event.clears heard (advance (partida.stage + 1)) = heard :=
        marked_of_neutral (fun event member =>
          ⟨decide_eq_false fun received =>
            received_advance _ asked (received ▸ member),
            (mem_advance member .enchufe).2⟩) heard
      rw [if_neg last, plain]
      simp [Finishes, last]
  · rw [if_neg manual, marked]
    exact ⟨fun marks => ⟨fun ends => ends.elim win fun asks => manual asks.1,
      marks⟩, And.right⟩

/-- What a command leaves of the grants and of the switch. -/
theorem command_marks (partida : Partida) (text : Text) :
    ((partida.command text).granted = true ↔
      ¬ partida.Finishes text ∧ (text = "manual".toList ∨
        text ∉ locking ∧ partida.granted = true)) ∧
    ((partida.command text).forced = true ↔
      ¬ partida.Finishes text ∧ (text = "on".toList ∨
        text ∉ locking ∧ partida.forced = true)) := by
  by_cases locks : text ∈ locking
  · simp only [locking, List.mem_cons, List.not_mem_nil, or_false] at locks
    rcases locks with rfl | rfl | rfl
    · simp [command, fresh, granted, locking, Finishes]
    · simp [command, switchedOn, granted, locking, Finishes]
    · simp [command, fresh, granted, locking, Finishes]
  by_cases win : text = "win".toList
  · subst win
    simp [command, finished, granted, Finishes]
  by_cases manual : text = "manual".toList
  · subst manual
    have granted : partida.command "manual".toList =
        if partida.stage > 3 then finished else partida.skip := rfl
    rw [granted]
    by_cases last : partida.stage > 3
    · simp [last, finished, Partida.granted, Finishes]
    · simp [last, skip, Partida.granted, Finishes, locking]
  · obtain ⟨-, skips, forced⟩ := command_keeps locks win manual
    have goesOn : ¬ partida.Finishes text := fun ends =>
      ends.elim win fun asks => manual asks.1
    have notOn : text ≠ "on".toList := fun on => locks (on ▸ by simp [locking])
    rw [Partida.granted, skips, forced, ← Partida.granted]
    simp only [goesOn, manual, locks, notOn, not_false_eq_true, false_or,
      true_and, and_self]

/-- Whether a stage was granted, and whether the operator switched the game on, is
decided by the events since the last one which cleared it. -/
theorem act_marks (partida : Partida) (action : Action) :
    (partida.act action).granted =
        marked Event.grants Event.clears partida.granted
          (partida.report action) ∧
      (partida.act action).forced =
        marked Event.switchesOn Event.clears partida.forced
          (partida.report action) := by
  cases action with
  | idle => exact ⟨rfl, rfl⟩
  | lose => exact ⟨rfl, rfl⟩
  | unplug => exact ⟨rfl, rfl⟩
  | solve puzzle =>
      have plain (asked : Text) (flag : Bool) :
          marked (fun event => decide (event = .received asked)) Event.clears flag
            (partida.report (.solve puzzle)) = flag := by
        obtain ⟨lines, reported, neutral⟩ := partida.report_solve puzzle puzzle
        have silent : ∀ text, .received text ∉ partida.report (.solve puzzle) :=
          fun text member => by
            simpa using command_of_received member
        refine marked_of_neutral (fun event member => ⟨?_, ?_⟩) flag
        · exact decide_eq_false fun received => silent asked (received ▸ member)
        · rw [reported] at member
          rcases List.mem_cons.mp member with rfl | member
          · rfl
          · exact (neutral event member).2
      have same : (partida.solve puzzle).granted = partida.granted ∧
          (partida.solve puzzle).forced = partida.forced := by
        unfold solve
        split <;> exact ⟨rfl, rfl⟩
      exact ⟨same.1.trans (plain "manual".toList _).symm,
        same.2.trans (plain "on".toList _).symm⟩
  | command text =>
      obtain ⟨granted, forced⟩ := partida.command_marks text
      exact ⟨Bool.eq_iff_iff.mpr
          (granted.trans (marked_command "manual".toList _ _ _).symm),
        Bool.eq_iff_iff.mpr (forced.trans (marked_command "on".toList _ _ _).symm)⟩

/-- What an action says about a solved puzzle. -/
theorem solves_report {partida : Partida} {action : Action} {event : Event}
    (member : event ∈ partida.report action) (solves : event.solves = true) :
    ∃ puzzle, action = .solve puzzle := by
  obtain ⟨puzzle, announces⟩ := of_decide_eq_true solves
  cases action with
  | solve solved => exact ⟨solved, rfl⟩
  | idle => exact absurd member List.not_mem_nil
  | lose =>
      rw [List.mem_singleton.mp member, announces_fail] at announces
      exact absurd announces Bool.false_ne_true
  | unplug =>
      simp only [report, List.mem_cons, List.not_mem_nil, or_false] at member
      rcases member with rfl | rfl | rfl
      · rw [announces_off] at announces
        exact absurd announces Bool.false_ne_true
      · exact absurd announces Bool.false_ne_true
      · rw [announces_off] at announces
        exact absurd announces Bool.false_ne_true
  | command text =>
      rw [report_command partida text puzzle event member] at announces
      exact absurd announces Bool.false_ne_true

/-- A report has its solved puzzle before everything that ends or grants a stage. -/
theorem barred_report (partida : Partida) (action : Action) (flag : Bool) :
    Barred Event.grants Event.clears Event.solves flag (partida.report action) ↔
      ((∃ puzzle, action = .solve puzzle) → flag = false) := by
  constructor
  · rintro barred ⟨puzzle, rfl⟩
    obtain ⟨lines, reported, -⟩ := partida.report_solve puzzle puzzle
    rw [reported] at barred
    exact barred.1 (decide_eq_true ⟨puzzle, by simp [announces_word]⟩)
  · intro idle
    by_cases solve : ∃ puzzle, action = .solve puzzle
    · rw [idle solve]
      obtain ⟨puzzle, rfl⟩ := solve
      obtain ⟨lines, reported, -⟩ := partida.report_solve puzzle puzzle
      rw [reported]
      refine ⟨fun _ => rfl, barred_of_other ?_ _⟩
      intro event member
      rw [Event.solves, decide_eq_false_iff_not]
      rintro ⟨other, announces⟩
      obtain ⟨sameLines, same, neutral⟩ := partida.report_solve puzzle other
      obtain rfl := (List.cons.inj (reported.symm.trans same)).2
      rw [(neutral event member).1] at announces
      exact Bool.false_ne_true announces
    · refine barred_of_other ?_ flag
      intro event member
      by_contra solves
      exact solve (solves_report member (by simpa using solves))

theorem stage_le_command {partida : Partida} (within : partida.stage ≤ 4)
    (text : Text) : (partida.command text).stage ≤ 4 := by
  have cleared : fresh.stage = 0 ∧ switchedOn.stage = 0 ∧ finished.stage = 0 :=
    ⟨rfl, rfl, rfl⟩
  by_cases locks : text ∈ locking
  · simp only [locking, List.mem_cons, List.not_mem_nil, or_false] at locks
    rcases locks with rfl | rfl | rfl
    · exact cleared.1.le.trans (by decide)
    · exact cleared.2.1.le.trans (by decide)
    · exact cleared.1.le.trans (by decide)
  by_cases win : text = "win".toList
  · subst win
    exact cleared.2.2.le.trans (by decide)
  by_cases manual : text = "manual".toList
  · subst manual
    change Partida.stage (if partida.stage > 3 then finished else partida.skip) ≤ 4
    split
    · exact cleared.2.2.le.trans (by decide)
    · rw [stage_skip]
      omega
  · obtain ⟨solved, skips, forced⟩ := command_keeps locks win manual
    rw [stage, solved, skips, forced]
    exact within

/-- A game in which no puzzle is solved after a granted stage stays within the
stages. -/
theorem stage_le_act {partida : Partida} {action : Action}
    (enabled : partida.Enabled action) (within : partida.stage ≤ 4)
    (first : (∃ puzzle, action = .solve puzzle) → partida.granted = false) :
    (partida.act action).stage ≤ 4 := by
  cases action with
  | idle => exact within
  | lose => exact within
  | unplug => exact (by decide : fresh.stage ≤ 4)
  | solve puzzle =>
      have none : partida.skips = 0 := by
        simpa [granted] using first ⟨puzzle, rfl⟩
      have same : (partida.solve puzzle).skips = partida.skips := by
        unfold solve
        split <;> rfl
      have few : (partida.solve puzzle).solved.card ≤ 4 := Finset.card_le_univ _
      rw [act, stage, same, none]
      omega
  | command text => exact stage_le_command within text

end Partida

/-- The number of flags which are set. -/
def Progreso.flags (progreso : Progreso) : Nat :=
  [progreso.enchufada, progreso.knobsWon, progreso.radioWon,
    progreso.simonWon].count true

theorem Partida.flags_progreso (partida : Partida) :
    partida.progreso.flags = partida.solved.card := by
  have counted : ∀ solved : Finset Puzzle,
      [decide (Puzzle.enchufe ∈ solved), decide (Puzzle.knobs ∈ solved),
        decide (Puzzle.radio ∈ solved),
        decide (Puzzle.simon ∈ solved)].count true = solved.card := by
    decide
  exact counted partida.solved

variable {Button : Type} [Bounce Button]

/-- The stage counter is the number of advances since the last clearing. -/
theorem gamesWon_tally (boot : Sample) (inputs : List Sample) :
    (after Button boot inputs).maquina.gamesWon =
      tally Event.advances Event.clears 0
        ((machine Button).trace (setup boot) inputs) := by
  have preserved : ∀ (history : List Event) (config : Config Button)
      (sample : Sample),
      (∃ partida, Tracks config partida ∧ partida.stage =
        tally Event.advances Event.clears 0 history) →
      ∃ partida, Tracks ((machine Button).step config sample) partida ∧
        partida.stage = tally Event.advances Event.clears 0
          (history ++ (machine Button).emit config sample) := by
    rintro history config sample ⟨partida, tracks, counted⟩
    obtain ⟨action, steps⟩ := step_tracks tracks sample
    refine ⟨_, steps.tracks, ?_⟩
    rw [Partida.stage_act steps.enabled counted, ← steps.visible,
      tally_filter Event.visible_of_advances, tally_append]
  have initially : ∃ partida, Tracks (setup boot : Config Button) partida ∧
      partida.stage = tally Event.advances Event.clears 0 [] :=
    ⟨.fresh, setup_tracks Button boot, rfl⟩
  obtain ⟨partida, tracks, counted⟩ :=
    (machine Button).history_invariant preserved initially inputs
  rw [after, tracks.shows.progreso]
  exact counted

/-- The console lines of a run are the fixed ones of the plug and of the exit,
or they are about the stage which the run has then reached. -/
theorem console_stage {boot : Sample} {inputs : List Sample} {line : String}
    {values : List Int}
    (member : .console line values ∈
      (machine Button).trace (setup boot) inputs)
    (visible : (Event.console line values).visible = true) :
    line ∈ ["enchufe on", "enchufe off", "winnnnning"] ∨
      ∃ first, first <+: inputs ∧
        1 ≤ (after Button boot first).maquina.gamesWon ∧
        .console line values ∈
          Partida.advance (after Button boot first).maquina.gamesWon := by
  obtain ⟨first, sample, rest, split, emitted⟩ :=
    (machine Button).mem_trace member
  obtain ⟨partida, tracks⟩ := after_tracks Button boot first
  obtain ⟨action, steps⟩ := step_tracks tracks sample
  have reported := (steps.mem_emit visible).mp emitted
  rcases Partida.report_console steps.enabled reported with fixed | reached
  · exact .inl fixed
  · right
    have next : after Button boot (first ++ [sample]) =
        (machine Button).step (after Button boot first) sample := by
      rw [after_append]
      rfl
    have counted : (after Button boot (first ++ [sample])).maquina.gamesWon =
        (partida.act action).stage := by
      rw [next, steps.tracks.shows.progreso]
      rfl
    refine ⟨first ++ [sample], ?_, by rw [counted]; exact reached.1,
      by rw [counted]; exact reached.2⟩
    rw [split]
    simp

/-- A step is barred by a granted stage when it solves a puzzle. -/
theorem Steps.barred_iff {config : Config Button} {partida : Partida}
    {sample : Sample} {action : Partida.Action}
    (steps : Steps config partida sample action) (flag : Bool) :
    Barred Event.grants Event.clears Event.solves flag
        ((machine Button).emit config sample) ↔
      ((∃ puzzle, action = .solve puzzle) → flag = false) := by
  rw [← barred_filter Event.visible_of_grants Event.visible_of_solves,
    steps.visible, Partida.barred_report]

/-- What the history of a run says about the game which it has reached: whether a
stage was granted, whether the game was switched on, and that its stage is one which
the room can show if no puzzle was solved after a granted stage. -/
theorem accounts (boot : Sample) (inputs : List Sample) :
    ∃ partida, Tracks (after Button boot inputs) partida ∧
      partida.granted = marked Event.grants Event.clears false
        ((machine Button).trace (setup boot) inputs) ∧
      partida.forced = marked Event.switchesOn Event.clears false
        ((machine Button).trace (setup boot) inputs) ∧
      (Barred Event.grants Event.clears Event.solves false
          ((machine Button).trace (setup boot) inputs) → partida.stage ≤ 4) := by
  have preserved : ∀ (history : List Event) (config : Config Button)
      (sample : Sample),
      (∃ partida, Tracks config partida ∧
        partida.granted = marked Event.grants Event.clears false history ∧
        partida.forced = marked Event.switchesOn Event.clears false history ∧
        (Barred Event.grants Event.clears Event.solves false history →
          partida.stage ≤ 4)) →
      ∃ partida, Tracks ((machine Button).step config sample) partida ∧
        partida.granted = marked Event.grants Event.clears false
          (history ++ (machine Button).emit config sample) ∧
        partida.forced = marked Event.switchesOn Event.clears false
          (history ++ (machine Button).emit config sample) ∧
        (Barred Event.grants Event.clears Event.solves false
            (history ++ (machine Button).emit config sample) →
          partida.stage ≤ 4) := by
    rintro history config sample ⟨partida, tracks, granted, forced, within⟩
    obtain ⟨action, steps⟩ := step_tracks tracks sample
    obtain ⟨grants, switches⟩ := partida.act_marks action
    rw [← steps.visible, marked_filter Event.visible_of_grants] at grants
    rw [← steps.visible, marked_filter Event.visible_of_switches] at switches
    refine ⟨_, steps.tracks, ?_, ?_, ?_⟩
    · rw [marked_append, ← granted, grants]
    · rw [marked_append, ← forced, switches]
    · rw [barred_append, ← granted, steps.barred_iff]
      rintro ⟨before, first⟩
      exact Partida.stage_le_act steps.enabled (within before) first
  have initially : ∃ partida, Tracks (setup boot : Config Button) partida ∧
      partida.granted = marked Event.grants Event.clears false [] ∧
      partida.forced = marked Event.switchesOn Event.clears false [] ∧
      (Barred Event.grants Event.clears Event.solves false [] →
        partida.stage ≤ 4) :=
    ⟨.fresh, setup_tracks Button boot, rfl, rfl, fun _ => by decide⟩
  exact (machine Button).history_invariant preserved initially inputs

/-- A game of a run in which the operator grants no stage: whether it was
switched on is a matter of the last clearing. -/
theorem accounted (boot : Sample) {inputs : List Sample}
    (notGranted : ∀ event ∈ (machine Button).trace (setup boot) inputs,
      event.grants = false) :
    ∃ partida, Tracks (after Button boot inputs) partida ∧
      partida.skips = 0 ∧
      partida.forced = marked Event.switchesOn Event.clears false
        ((machine Button).trace (setup boot) inputs) := by
  obtain ⟨partida, tracks, granted, forced, -⟩ := @accounts Button _ boot inputs
  refine ⟨partida, tracks, ?_, forced⟩
  have none : partida.granted = false := by
    rw [granted, Bool.eq_false_iff, ne_eq, marked_of_unmarked notGranted]
    exact fun marks => Bool.false_ne_true marks.1
  simpa [Partida.granted] using none

/-- Without granted stages, the counter agrees with the flags exactly in the
games which the operator did not switch on. -/
theorem gamesWon_flags {boot : Sample} {inputs : List Sample}
    (notGranted : ∀ event ∈ (machine Button).trace (setup boot) inputs,
      event.grants = false) :
    (after Button boot inputs).maquina.gamesWon =
        (after Button boot inputs).maquina.toProgreso.flags ↔
      marked Event.switchesOn Event.clears false
        ((machine Button).trace (setup boot) inputs) = false := by
  obtain ⟨partida, tracks, skips, forced⟩ := accounted boot notGranted
  rw [tracks.shows.progreso, partida.flags_progreso, ← forced]
  change partida.stage = _ ↔ _
  rw [Partida.stage, skips]
  cases partida.forced <;> simp

/-- Where no puzzle was solved after a granted stage, the counter is at most the number
of puzzles. -/
theorem gamesWon_le {boot : Sample} {inputs : List Sample}
    (barred : Barred Event.grants Event.clears Event.solves false
      ((machine Button).trace (setup boot) inputs)) :
    (after Button boot inputs).maquina.gamesWon ≤ 4 := by
  obtain ⟨partida, tracks, -, -, within⟩ := @accounts Button _ boot inputs
  rw [tracks.shows.progreso]
  exact within barred

/-- A step which solves a puzzle in a game with a granted stage leaves the counter. -/
def CountsOnce (Button : Type) [Bounce Button] (boot : Sample)
    (first : List Sample) (sample : Sample) : Prop :=
  marked Event.grants Event.clears false
      ((machine Button).trace (setup boot) first) = true →
    (∃ event ∈ (machine Button).emit (after Button boot first) sample,
      event.solves = true) →
    (after Button boot (first ++ [sample])).maquina.gamesWon =
      (after Button boot first).maquina.gamesWon

/-- Every solved puzzle is counted, so it has to come before the granted stages of its
game. -/
theorem countsOnce_iff (boot : Sample) (first : List Sample) (sample : Sample) :
    CountsOnce Button boot first sample ↔
      Barred Event.grants Event.clears Event.solves
        (marked Event.grants Event.clears false
          ((machine Button).trace (setup boot) first))
        ((machine Button).emit (after Button boot first) sample) := by
  obtain ⟨partida, tracks, granted, -, -⟩ := @accounts Button _ boot first
  obtain ⟨action, steps⟩ := step_tracks tracks sample
  have next : (after Button boot (first ++ [sample])).maquina.gamesWon =
      (partida.act action).stage := by
    rw [after_append]
    exact congrArg Progreso.gamesWon steps.tracks.shows.progreso
  have here : (after Button boot first).maquina.gamesWon = partida.stage :=
    congrArg Progreso.gamesWon tracks.shows.progreso
  have solves : (∃ event ∈ (machine Button).emit (after Button boot first) sample,
      event.solves = true) ↔ ∃ puzzle, action = .solve puzzle := by
    constructor
    · rintro ⟨event, member, solves⟩
      exact Partida.solves_report
        ((steps.mem_emit (Event.visible_of_solves event solves)).mp member) solves
    · rintro ⟨puzzle, rfl⟩
      obtain ⟨lines, reported, -⟩ := partida.report_solve puzzle puzzle
      refine ⟨.serial1 (Partida.word puzzle), (steps.mem_emit rfl).mpr ?_, ?_⟩
      · rw [reported]
        exact List.mem_cons_self
      · exact decide_eq_true ⟨puzzle, by simp [Partida.announces_word]⟩
  rw [CountsOnce, solves, next, here, ← granted, steps.barred_iff]
  constructor
  · rintro same ⟨puzzle, rfl⟩
    by_contra grants
    have counted := Partida.stage_solve steps.enabled
    have same := same (by simpa using grants) ⟨puzzle, rfl⟩
    rw [Partida.act, counted] at same
    omega
  · intro first grants solved
    rw [first solved] at grants
    exact absurd grants Bool.false_ne_true

/-- No puzzle is counted after a granted stage exactly in the runs which solve none
after a granted stage of the same game. -/
theorem countsOnce_prefixes (boot : Sample) (inputs : List Sample) :
    (∀ first sample, first ++ [sample] <+: inputs →
        CountsOnce Button boot first sample) ↔
      Barred Event.grants Event.clears Event.solves false
        ((machine Button).trace (setup boot) inputs) := by
  induction inputs using List.reverseRecOn with
  | nil => simp [Barred, MealyMachine.trace_nil]
  | append_singleton inputs last ih =>
      rw [MealyMachine.trace_append, barred_append, ← ih, MealyMachine.trace_cons,
        MealyMachine.trace_nil, List.append_nil]
      constructor
      · intro once
        refine ⟨fun first sample before => once first sample
          (before.trans (List.prefix_append _ _)), ?_⟩
        exact (countsOnce_iff boot inputs last).mp
          (once inputs last List.prefix_rfl)
      · rintro ⟨once, here⟩ first sample before
        rcases List.prefix_concat_iff.mp before with whole | shorter
        · obtain ⟨rfl, rfl⟩ := List.append_inj' whole rfl |>.imp_right
            fun equal => (List.cons.inj equal).1
          exact (countsOnce_iff boot first sample).mpr here
        · exact once first sample shorter

/-- The counter stays within the stages, `rayoAvanza` is entered with a stage which the
room can show, and it never finds a weird value. -/
def ShowsStages (Button : Type) [Bounce Button] (boot : Sample)
    (inputs : List Sample) : Prop :=
  (∀ first, first <+: inputs →
    0 ≤ (after Button boot first).maquina.gamesWon ∧
      (after Button boot first).maquina.gamesWon ≤ 4) ∧
  (∀ stage, .console "rayo avanza. gamesWon:" [stage] ∈
      (machine Button).trace (setup boot) inputs →
    1 ≤ stage ∧ stage ≤ 4) ∧
  (∀ values, .console "got weird value for gamesWon:" values ∉
    (machine Button).trace (setup boot) inputs)

/-- The stages stay within what the room can show exactly in the runs in none of
whose games more than four puzzles were solved and stages granted. -/
theorem showsStages_iff (boot : Sample) (inputs : List Sample) :
    ShowsStages Button boot inputs ↔
      ∀ first, first <+: inputs →
        tally Event.advances Event.clears 0
          ((machine Button).trace (setup boot) first) ≤ 4 := by
  constructor
  · rintro ⟨bounded, -, -⟩ first before
    have counted := @gamesWon_tally Button _ boot first
    have := (bounded first before).2
    omega
  · intro few
    have bounded : ∀ first, first <+: inputs →
        0 ≤ (after Button boot first).maquina.gamesWon ∧
          (after Button boot first).maquina.gamesWon ≤ 4 := by
      intro first before
      have counted := @gamesWon_tally Button _ boot first
      have := few first before
      omega
    refine ⟨bounded, ?_, ?_⟩
    · intro stage member
      rcases console_stage member rfl with fixed | ⟨first, before, reached, said⟩
      · simp at fixed
      · have := bounded first before
        rw [Partida.advance, if_pos ⟨reached, this.2⟩, List.mem_singleton,
          Event.console.injEq, List.cons.injEq] at said
        omega
    · intro values member
      rcases console_stage member rfl with fixed | ⟨first, before, reached, said⟩
      · simp at fixed
      · have := bounded first before
        rw [Partida.advance, if_pos ⟨reached, this.2⟩] at said
        simp at said

/-- The stages stay within what the room can show, and no puzzle is counted after a
granted stage of its game, exactly in the runs in which none is solved after one; this
includes every run in which the operator grants none. -/
theorem stages_shown (boot : Sample) (inputs : List Sample) :
    (ShowsStages Button boot inputs ∧
        (∀ first sample, first ++ [sample] <+: inputs →
          CountsOnce Button boot first sample) ↔
      Barred Event.grants Event.clears Event.solves false
        ((machine Button).trace (setup boot) inputs)) ∧
      ((∀ event ∈ (machine Button).trace (setup boot) inputs,
          event.grants = false) →
        Barred Event.grants Event.clears Event.solves false
          ((machine Button).trace (setup boot) inputs)) := by
  refine ⟨⟨fun shown => (countsOnce_prefixes boot inputs).mp shown.2, ?_⟩, ?_⟩
  · intro barred
    refine ⟨(showsStages_iff boot inputs).mpr ?_,
      (countsOnce_prefixes boot inputs).mpr barred⟩
    rintro first ⟨rest, rfl⟩
    rw [MealyMachine.trace_append, barred_append] at barred
    have counted := @gamesWon_tally Button _ boot first
    have within := gamesWon_le barred.1
    omega
  · intro notGranted
    apply (countsOnce_prefixes boot inputs).mp
    rintro first sample ⟨rest, rfl⟩ grants
    have earlier : ∀ event ∈ (machine Button).trace (setup boot) first,
        event.grants = false := by
      intro event member
      apply notGranted event
      rw [MealyMachine.trace_append, MealyMachine.trace_append]
      exact List.mem_append_left _ (List.mem_append_left _ member)
    exact absurd ((marked_of_unmarked earlier false).mp grants).1
      Bool.false_ne_true

/-- Four granted stages and then the plug. -/
def excess : List Sample :=
  (List.replicate 4 (deliver .reposo "manual")).flatten ++
    (List.replicate 25 (iteration .enchufado [])).flatten

/-- A granted stage is counted again when its puzzle is solved. -/
theorem stages_exceeded :
    ¬ ∀ (boot : Sample) (inputs : List Sample),
      (after StableButton boot inputs).maquina.gamesWon ≤ 4 ∧
        ∀ values, .console "got weird value for gamesWon:" values ∉
          (machine StableButton).trace (setup boot) inputs := by
  intro claim
  have bounded := (claim .reposo excess).1
  revert bounded
  decide +kernel

end Salsipuedes.Maquina

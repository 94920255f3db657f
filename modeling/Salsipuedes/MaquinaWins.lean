import Salsipuedes.EventHistory
import Salsipuedes.MaquinaSalida

/-!
# Win messages

The guards which prevent a second report of a puzzle stand far from the code
which sends it.  In terms of the game they say that a puzzle is solved at most
once, so in the history of a run every report of a puzzle is separated from the
next report of the same puzzle by the start of another game.
-/

namespace Salsipuedes.Maquina

open EventHistory

/-- The word of a puzzle is sent. -/
def Event.announces (puzzle : Puzzle) (event : Event) : Bool :=
  decide (event = .serial1 (Partida.word puzzle))

/-- A game ends: it is cleared by the operator or by unplugging, or the exit is
released. -/
def Event.clears : Event → Bool
  | .received text => decide (text ∈ Partida.locking)
  | .console line _ => line = "enchufe off" || line = "winnnnning"
  | _ => false

theorem Event.visible_of_relevant {puzzle : Puzzle} (event : Event)
    (relevant : event.announces puzzle = true ∨ event.clears = true) :
    event.visible = true := by
  cases event with
  | serial1 message => rfl
  | received message => rfl
  | console line values =>
      rcases relevant with announces | clears
      · simp [Event.announces] at announces
      · simp only [Event.clears, Bool.or_eq_true, decide_eq_true_eq] at clears
        rcases clears with rfl | rfl <;> rfl
  | _ => simp [Event.announces, Event.clears] at relevant

namespace Partida

theorem word_injective {first second : Puzzle}
    (same : word first = word second) : first = second := by
  cases first <;> cases second <;> first | rfl | simp [word] at same

theorem announces_word {first second : Puzzle} :
    Event.announces first (.serial1 (word second)) = decide (second = first) := by
  rw [Event.announces, decide_eq_decide, Event.serial1.injEq]
  exact ⟨word_injective, congrArg word⟩

theorem announces_off (puzzle : Puzzle) :
    Event.announces puzzle (.serial1 "OFF") = false := by
  cases puzzle <;> simp [Event.announces, word]

theorem announces_fail (puzzle : Puzzle) :
    Event.announces puzzle (.serial1 "SFAIL") = false := by
  cases puzzle <;> simp [Event.announces, word]

theorem mem_advance {stage : Int} {event : Event}
    (member : event ∈ advance stage) (puzzle : Puzzle) :
    event.announces puzzle = false ∧ event.clears = false := by
  unfold advance at member
  split at member <;> simp only [List.mem_cons, List.not_mem_nil, or_false]
    at member
  · subst member
    exact ⟨rfl, rfl⟩
  · rcases member with rfl | rfl <;> exact ⟨rfl, rfl⟩

theorem solved_solve {partida : Partida} {puzzle : Puzzle}
    (can : partida.CanSolve puzzle) :
    (partida.solve puzzle).solved = insert puzzle partida.solved := by
  rw [solve, dif_pos can]

/-- The report of a solved puzzle begins with its word; the rest of it neither
announces a puzzle nor ends a game. -/
theorem report_solve (partida : Partida) (solved puzzle : Puzzle) :
    ∃ lines, partida.report (.solve solved) = .serial1 (word solved) :: lines ∧
      ∀ event ∈ lines,
        event.announces puzzle = false ∧ event.clears = false := by
  have plain : ∀ event ∈ advance (partida.stage + 1),
      event.announces puzzle = false ∧ event.clears = false :=
    fun event member => mem_advance member puzzle
  cases solved with
  | enchufe =>
      refine ⟨_, rfl, ?_⟩
      intro event member
      rcases List.mem_cons.mp member with rfl | member
      · exact ⟨rfl, rfl⟩
      · exact plain event member
  | knobs => exact ⟨_, rfl, plain⟩
  | radio => exact ⟨_, rfl, plain⟩
  | simon => exact ⟨_, rfl, plain⟩

/-- Only solving a puzzle announces it. -/
theorem report_command (partida : Partida) (text : Text) (puzzle : Puzzle) :
    ∀ event ∈ partida.report (.command text), event.announces puzzle = false := by
  intro event member
  rcases List.mem_cons.mp member with rfl | member
  · rfl
  split at member
  · rw [List.mem_singleton.mp member]
    exact announces_off puzzle
  split at member
  · simp only [List.mem_cons, List.not_mem_nil, or_false] at member
    rcases member with rfl | rfl
    · rfl
    · exact announces_off puzzle
  split at member
  · split at member
    · simp only [List.mem_cons, List.not_mem_nil, or_false] at member
      rcases member with rfl | rfl
      · rfl
      · exact announces_off puzzle
    · exact (mem_advance member puzzle).1
  · simp at member

theorem solved_sillaOn (partida : Partida) :
    partida.sillaOn.solved = partida.solved := by
  unfold sillaOn
  split <;> rfl

/-- A text which does not end the game does not change what is solved. -/
theorem solved_command {partida : Partida} {text : Text}
    (going : ∀ event ∈ partida.report (.command text), event.clears = false) :
    (partida.command text).solved = partida.solved := by
  have heard := going (.received text) List.mem_cons_self
  simp only [Event.clears, decide_eq_false_iff_not, locking, List.mem_cons,
    List.not_mem_nil, or_false, not_or] at heard
  have kept : ¬ .console "winnnnning" [] ∈ partida.report (.command text) :=
    fun member => by simpa [Event.clears] using going _ member
  rw [report, if_neg heard.1] at kept
  unfold command
  rw [if_neg heard.1, if_neg heard.2.1, if_neg heard.2.2]
  split
  · rename_i win
    rw [if_pos win] at kept
    simp at kept
  rename_i win
  rw [if_neg win] at kept
  split
  · exact solved_sillaOn partida
  split
  · rfl
  split
  · rfl
  split
  · rename_i manual
    rw [if_pos manual] at kept
    split at kept
    · simp at kept
    · rename_i last
      rw [if_neg last]
      rfl
  · rfl

/-- A report does not announce a puzzle which was announced in the same game,
and what it leaves announced is marked as solved. -/
theorem report_separated {partida : Partida} {action : Action} {flag : Bool}
    (puzzle : Puzzle) (enabled : partida.Enabled action)
    (announced : flag = true → puzzle ∈ partida.solved) :
    Separated (Event.announces puzzle) Event.clears flag
        (partida.report action) ∧
      (marked (Event.announces puzzle) Event.clears flag
        (partida.report action) = true → puzzle ∈ (partida.act action).solved) := by
  cases action with
  | idle => exact ⟨trivial, announced⟩
  | lose =>
      have unmarked : ∀ event ∈ partida.report .lose,
          event.announces puzzle = false := by
        intro event member
        rw [List.mem_singleton.mp member]
        exact announces_fail puzzle
      refine ⟨separated_of_unmarked unmarked flag, ?_⟩
      rw [marked_of_unmarked unmarked]
      exact fun before => announced before.1
  | unplug =>
      have unmarked : ∀ event ∈ partida.report .unplug,
          event.announces puzzle = false := by
        intro event member
        simp only [report, List.mem_cons, List.not_mem_nil, or_false] at member
        rcases member with rfl | rfl | rfl
        · exact announces_off puzzle
        · rfl
        · exact announces_off puzzle
      refine ⟨separated_of_unmarked unmarked flag, ?_⟩
      rw [marked_of_unmarked unmarked]
      intro before
      simpa [Event.clears] using
        before.2 (.console "enchufe off" []) (by simp [report])
  | solve other =>
      obtain ⟨lines, reported, plain⟩ := partida.report_solve other puzzle
      have unmarked : ∀ event ∈ lines, event.announces puzzle = false :=
        fun event member => (plain event member).1
      rw [reported, Separated, marked, marked_of_unmarked unmarked, act,
        solved_solve enabled, next, announces_word]
      refine ⟨⟨?_, separated_of_unmarked unmarked _⟩, ?_⟩
      · intro same
        rw [decide_eq_true_eq] at same
        subst same
        by_contra before
        exact enabled.1 (announced (by simpa using before))
      · rintro ⟨still, -⟩
        by_cases same : other = puzzle
        · subst same
          exact Finset.mem_insert_self _ _
        · rw [decide_eq_false same] at still
          exact Finset.mem_insert_of_mem
            (announced (by simpa [Event.clears] using still))
  | command text =>
      have unmarked := partida.report_command text puzzle
      refine ⟨separated_of_unmarked unmarked flag, ?_⟩
      rw [marked_of_unmarked unmarked, act]
      rintro ⟨before, going⟩
      rw [solved_command going]
      exact announced before

/-- The number of times an action announces a puzzle other than the plug. -/
theorem count_report {partida : Partida} {action : Action} {puzzle : Puzzle}
    (enabled : partida.Enabled action) (notPlug : puzzle ≠ .enchufe) :
    (partida.report action).countP (Event.announces puzzle) =
      if puzzle ∉ partida.solved ∧ puzzle ∈ (partida.act action).solved then 1
      else 0 := by
  have silent {events : List Event}
      (unmarked : ∀ event ∈ events, event.announces puzzle = false) :
      events.countP (Event.announces puzzle) = 0 := by
    rw [List.countP_eq_zero]
    exact fun event member => by simp [unmarked event member]
  cases action with
  | idle => simp [report, act]
  | lose => simp [report, act, announces_fail]
  | unplug =>
      have line : Event.announces puzzle (.console "enchufe off" []) = false :=
        rfl
      simp [report, act, announces_off, line, fresh]
  | solve other =>
      obtain ⟨lines, reported, plain⟩ := partida.report_solve other puzzle
      rw [reported, List.countP_cons, announces_word, act,
        solved_solve enabled, silent fun event member => (plain event member).1]
      by_cases same : other = puzzle
      · subst same
        simp [enabled.1]
      · have other : puzzle ≠ other := fun equal => same equal.symm
        simp [same, other]
  | command text =>
      rw [silent (partida.report_command text puzzle), if_neg]
      rintro ⟨before, after⟩
      exact notMem_command notPlug text before after

end Partida

/-- The flag of a puzzle. -/
def Progreso.solved (progreso : Progreso) : Puzzle → Bool
  | .enchufe => progreso.enchufada
  | .knobs => progreso.knobsWon
  | .radio => progreso.radioWon
  | .simon => progreso.simonWon

theorem Shows.solved {Button : Type} {maquina : Maquina Button}
    {partida : Partida} (shows : Shows maquina partida) (puzzle : Puzzle) :
    maquina.toProgreso.solved puzzle = decide (puzzle ∈ partida.solved) := by
  rw [shows.progreso]
  cases puzzle <;> rfl

variable {Button : Type} [Bounce Button]

/-- In a run from power-up every announcement of a puzzle is separated from the
next one by the end of a game. -/
theorem trace_separated (boot : Sample) (inputs : List Sample)
    (puzzle : Puzzle) :
    Separated (Event.announces puzzle) Event.clears false
      ((machine Button).trace (setup boot) inputs) := by
  have preserved : ∀ (history : List Event) (config : Config Button)
      (sample : Sample),
      (∃ partida, Tracks config partida ∧
        Separated (Event.announces puzzle) Event.clears false history ∧
        (marked (Event.announces puzzle) Event.clears false history = true →
          puzzle ∈ partida.solved)) →
      ∃ partida, Tracks ((machine Button).step config sample) partida ∧
        Separated (Event.announces puzzle) Event.clears false
          (history ++ (machine Button).emit config sample) ∧
        (marked (Event.announces puzzle) Event.clears false
          (history ++ (machine Button).emit config sample) = true →
            puzzle ∈ partida.solved) := by
    rintro history config sample ⟨partida, tracks, separated, announced⟩
    obtain ⟨action, steps⟩ := step_tracks tracks sample
    have report := Partida.report_separated puzzle steps.enabled announced
    rw [← steps.visible, separated_filter Event.visible_of_relevant,
      marked_filter Event.visible_of_relevant] at report
    refine ⟨_, steps.tracks, ?_, ?_⟩
    · rw [separated_append]
      exact ⟨separated, report.1⟩
    · rw [marked_append]
      exact report.2
  have initially : ∃ partida, Tracks (setup boot : Config Button) partida ∧
      Separated (Event.announces puzzle) Event.clears false [] ∧
      (marked (Event.announces puzzle) Event.clears false [] = true →
        puzzle ∈ partida.solved) :=
    ⟨.fresh, setup_tracks Button boot, trivial, by simp [marked]⟩
  obtain ⟨partida, -, separated, -⟩ :=
    (machine Button).history_invariant preserved initially inputs
  exact separated

/-- A step announces a puzzle other than the plug exactly when its flag goes
up. -/
theorem step_announces {config : Config Button} {partida : Partida}
    (tracks : Tracks config partida) (sample : Sample) {puzzle : Puzzle}
    (notPlug : puzzle ≠ .enchufe) :
    ((machine Button).emit config sample).countP (Event.announces puzzle) =
      if config.maquina.toProgreso.solved puzzle = false ∧
          ((machine Button).step config sample).maquina.toProgreso.solved
            puzzle = true then 1
      else 0 := by
  obtain ⟨action, steps⟩ := step_tracks tracks sample
  have counted := Partida.count_report steps.enabled notPlug
  rw [← steps.visible, List.countP_filter] at counted
  have relevant : ∀ event ∈ (machine Button).emit config sample,
      ((event.announces puzzle && event.visible) = true ↔
        event.announces puzzle = true) := by
    intro event _
    rw [Bool.and_eq_true, and_iff_left_iff_imp]
    exact fun announces => Event.visible_of_relevant event (.inl announces)
  rw [List.countP_congr relevant] at counted
  rw [counted, tracks.shows.solved, steps.tracks.shows.solved]
  simp only [decide_eq_false_iff_not, decide_eq_true_eq]

/-- The win messages of every run: each is sent exactly when its flag goes up,
and between two of the same kind a game ends. -/
theorem wins_reported (boot : Sample) (inputs : List Sample) :
    (∀ sample, ∀ puzzle ∈ [Puzzle.knobs, Puzzle.radio, Puzzle.simon],
      let before := after Button boot inputs
      ((machine Button).emit before sample).countP (Event.announces puzzle) =
        if before.maquina.toProgreso.solved puzzle = false ∧
            ((machine Button).step before sample).maquina.toProgreso.solved
              puzzle = true then 1
        else 0) ∧
      ∀ puzzle before between rest,
        (machine Button).trace (setup boot) inputs =
          before ++ Event.serial1 (Partida.word puzzle) :: between ++
            Event.serial1 (Partida.word puzzle) :: rest →
        ∃ event ∈ between, event.clears = true := by
  constructor
  · intro sample puzzle member
    obtain ⟨partida, tracks⟩ := after_tracks Button boot inputs
    apply step_announces tracks sample
    rintro rfl
    simp at member
  · intro puzzle before between rest split
    have separated := @trace_separated Button _ boot inputs puzzle
    rw [split] at separated
    apply separated.stop_between <;> simp [Event.announces]

end Salsipuedes.Maquina

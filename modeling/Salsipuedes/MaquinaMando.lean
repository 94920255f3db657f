import Salsipuedes.MaquinaEnchufe

/-!
# Switching the machine on and off

The operator can switch the machine on or off against the plug.  The plug keeps
being read: a position which agrees with the plug lasts, and one which does not
lasts until the debouncer has counted fifty calls.
-/

namespace Salsipuedes.Maquina

variable {Button : Type}

/-- The command which switches the machine to a position. -/
def switchWord (position : Bool) : String :=
  if position = true then "on" else "off"

/-- The plug stays at a level and no command is handled. -/
def Untouched (level : Bool) (watched : Config Button × List (Option Bool))
    (sample : Sample) : Prop :=
  sample.enchufe = level ∧
    ∀ text ∈ commands, heard watched.1 sample ≠ some text

instance (level : Bool) (watched : Config Button × List (Option Bool))
    (sample : Sample) : Decidable (Untouched level watched sample) :=
  inferInstanceAs (Decidable (_ ∧ _))

/-- The position some calls after it was commanded: the plug takes over at the
call which is due, if it is at another level. -/
def position (commanded level : Bool) (due calls : Nat) : Bool :=
  if level = commanded ∨ calls < due then commanded else level

section Position

variable {commanded level : Bool} {due calls : Nat}

theorem position_of_agrees (agrees : level = commanded) :
    position commanded level due calls = commanded :=
  if_pos (.inl agrees)

theorem position_of_early (early : calls < due) :
    position commanded level due calls = commanded :=
  if_pos (.inr early)

theorem position_of_late (differs : level ≠ commanded) (late : due ≤ calls) :
    position commanded level due calls = level :=
  if_neg (by simp [differs, late])

/-- The change which a call announces is the one which is due. -/
theorem position_changes (announced : Bool) :
    position commanded level due calls = !announced ∧
        position commanded level due (calls + 1) = announced ↔
      announced = level ∧ level ≠ commanded ∧ calls + 1 = due := by
  by_cases agrees : level = commanded
  · rw [position_of_agrees agrees, position_of_agrees agrees]
    cases announced <;> cases commanded <;> simp [agrees]
  by_cases early : calls < due
  · rw [position_of_early early]
    by_cases last : calls + 1 = due
    · rw [position_of_late agrees last.ge]
      cases announced <;> cases level <;> cases commanded <;> simp_all
    · rw [position_of_early (by omega)]
      cases announced <;> cases commanded <;> simp [last]
  · rw [position_of_late agrees (by omega), position_of_late agrees (by omega)]
    have notDue : ¬ calls + 1 = due := by omega
    cases announced <;> cases level <;> simp [notDue]

end Position

/-- The globals of the plug some calls after a position was commanded. -/
structure Cuentas.Holds (cuentas : Cuentas) (commanded level : Bool)
    (due calls : Nat) : Prop where
  locked : cuentas.yaGano = false
  placed : cuentas.enchufada = position commanded level due calls
  counted : level ≠ commanded → calls < due →
    cuentas.enchufeCounter + due = 50 + calls

namespace Cuentas

variable {cuentas : Cuentas} {commanded level : Bool} {due calls : Nat}

theorem Holds.plug (holds : cuentas.Holds commanded level due calls) :
    (cuentas.plug level).Holds commanded level due (calls + 1) := by
  obtain ⟨locked, placed, counted⟩ := holds
  have going : ¬ cuentas.yaGano = true := by simp [locked]
  unfold Cuentas.plug
  rw [if_neg going]
  by_cases agrees : level = commanded
  · rw [position_of_agrees agrees, ← agrees] at placed
    rw [if_pos placed.symm]
    refine ⟨locked, ?_, fun differs => absurd agrees differs⟩
    rw [position_of_agrees agrees, ← agrees]
    exact placed
  by_cases early : calls < due
  · have count := counted agrees early
    rw [position_of_early early] at placed
    rw [if_neg (by rw [placed]; exact agrees)]
    by_cases last : calls + 1 = due
    · rw [if_pos (by omega)]
      exact ⟨locked, (position_of_late agrees last.ge).symm,
        fun _ later => by omega⟩
    · rw [if_neg (by omega)]
      refine ⟨locked, ?_, fun _ _ => by push_cast; omega⟩
      rw [position_of_early (by omega)]
      exact placed
  · rw [position_of_late agrees (by omega)] at placed
    rw [if_pos placed.symm]
    refine ⟨locked, ?_, fun _ later => by omega⟩
    rw [position_of_late agrees (by omega)]
    exact placed

theorem handle_unknown {text : Text} (unknown : text ∉ commands)
    (cuentas : Cuentas) (stage : Int) : cuentas.handle stage text = cuentas := by
  simp only [commands, List.mem_cons, List.not_mem_nil, or_false, not_or]
    at unknown
  obtain ⟨reset, on, off, win, -, -, -, manual⟩ := unknown
  have notWon : ¬ (text = "win".toList ∨
      (text = "manual".toList ∧ stage > 3)) := by
    rintro (rfl | ⟨rfl, -⟩)
    · exact win rfl
    · exact manual rfl
  rw [Cuentas.handle, if_neg reset, if_neg on, if_neg off, if_neg notWon]

end Cuentas

theorem Flow.callsPlug {partida : Partida} {before after : Control}
    {action : Partida.Action} (flow : Flow partida before action after)
    (plug : action = .solve .enchufe ∨ action = .unplug) :
    before.callsPlug = true := by
  cases flow with
  | plugged | unplugged | enchufe => rfl
  | knobs puzzle | radio puzzle =>
      rcases puzzle with rfl | rfl <;> simp at plug
  | poll poll | press poll | incoming poll =>
      rcases poll with rfl | ⟨text, rfl⟩ <;> simp at plug
  | _ => simp at plug

theorem report_unknown {text : Text} (unknown : text ∉ commands)
    (partida : Partida) :
    partida.report (.command text) = [.received text] := by
  simp only [commands, List.mem_cons, List.not_mem_nil, or_false, not_or]
    at unknown
  obtain ⟨reset, -, -, win, -, -, -, manual⟩ := unknown
  rw [Partida.report, if_neg reset, if_neg win, if_neg manual]

section Steps

variable [Bounce Button] {config : Config Button} {sample : Sample}

/-- Without a command nothing but a call of `checkEnchufe` moves the plug. -/
theorem step_untouched (calls : config.control.callsPlug = false)
    (unheard : ∀ text ∈ commands, heard config sample ≠ some text) :
    let after := ((machine Button).step config sample).maquina.cuentas
    let before := config.maquina.cuentas
    after.enchufada = before.enchufada ∧ after.yaGano = before.yaGano ∧
      after.enchufeCounter = before.enchufeCounter := by
  have unread := step_unread sample calls
  cases message : heard config sample with
  | none =>
      rw [message] at unread
      exact unread
  | some text =>
      have unknown : text ∉ commands := fun known => unheard text known message
      simp only [message, Cuentas.handle_unknown unknown] at unread
      exact unread

/-- Without a command nothing but a call of `checkEnchufe` announces a level. -/
theorem untouched_silent {partida : Partida} (tracks : Tracks config partida)
    (calls : config.control.callsPlug = false)
    (unheard : ∀ text ∈ commands, heard config sample ≠ some text)
    (level : Bool) :
    .serial1 (plugWord level) ∉ (machine Button).emit config sample := by
  obtain ⟨action, steps⟩ := step_tracks tracks sample
  have advances : ∀ stage, .serial1 (plugWord level) ∉ Partida.advance stage := by
    intro stage
    unfold Partida.advance
    split <;> simp
  rw [steps.mem_emit rfl]
  cases action with
  | idle => simp [Partida.report]
  | lose => cases level <;> simp [Partida.report, plugWord]
  | unplug => simp [steps.flow.callsPlug (.inr rfl)] at calls
  | solve puzzle =>
      cases puzzle with
      | enchufe => simp [steps.flow.callsPlug (.inl rfl)] at calls
      | knobs | radio | simon =>
          cases level <;>
            simpa [Partida.report, Partida.word, plugWord] using advances _
  | command text =>
      have handled : heard config sample = some text := by
        rw [← received_iff_heard tracks, steps.mem_emit rfl]
        exact partida.received_mem_report text
      have unknown : text ∉ commands := fun known => unheard text known handled
      rw [report_unknown unknown]
      simp

end Steps

/-! ## Runs -/

section Runs

variable [Bounce Button] {commanded level : Bool} {due : Nat}

/-- The position of the machine after some calls of `checkEnchufe`. -/
structure Placed (commanded level : Bool) (due : Nat)
    (watched : Config Button × List (Option Bool)) : Prop where
  tracks : ∃ partida, Tracks watched.1 partida
  holds : watched.1.maquina.cuentas.Holds commanded level due watched.2.length

/-- One step moves the position as the debouncer is due, and announces it. -/
theorem Placed.step {watched : Config Button × List (Option Bool)}
    (placed : Placed commanded level due watched) {sample : Sample}
    (untouched : Untouched level watched sample) :
    let next := (observed Button).step watched sample
    Placed commanded level due next ∧ watched.2.length ≤ next.2.length ∧
      ∀ announced, .serial1 (plugWord announced) ∈
          (observed Button).emit watched sample ↔
        announced = level ∧ level ≠ commanded ∧ watched.2.length < due ∧
          due ≤ next.2.length := by
  obtain ⟨config, lecturas⟩ := watched
  obtain ⟨⟨partida, tracks⟩, holds⟩ := placed
  obtain ⟨level_eq, unheard⟩ := untouched
  obtain ⟨action, steps⟩ := step_tracks tracks sample
  simp only [observed, MealyMachine.observe_step, anota]
  by_cases calls : config.control.callsPlug = true
  · have plug := @step_plug _ _ _ sample _ tracks calls
    have after := holds.plug
    have before := holds.placed
    rw [level_eq] at plug
    rw [← plug] at after
    rw [if_pos calls]
    refine ⟨⟨⟨_, steps.tracks⟩, by simpa using after⟩, by simp, ?_⟩
    intro announced
    have moved := after.placed
    refine (plug_announced tracks calls sample announced).trans ?_
    change config.maquina.cuentas.enchufada = _ ∧
      ((machine Button).step config sample).maquina.cuentas.enchufada = _ ↔ _
    rw [before, moved, position_changes, List.length_append, List.length_singleton]
    constructor
    · rintro ⟨same, differs, last⟩
      replace last : lecturas.length + 1 = due := last
      exact ⟨same, differs, by omega, last.ge⟩
    · rintro ⟨same, differs, early, late⟩
      replace early : lecturas.length < due := early
      exact ⟨same, differs, by dsimp only; omega⟩
  · have unread : config.control.callsPlug = false := by simpa using calls
    have kept := step_untouched unread unheard
    have silent := untouched_silent tracks unread unheard
    rw [if_neg calls]
    obtain ⟨enchufada, yaGano, counter⟩ := kept
    refine ⟨⟨⟨_, steps.tracks⟩, ?_⟩, Nat.le_refl _, ?_⟩
    · exact ⟨yaGano.trans holds.locked, enchufada.trans holds.placed,
        counter.symm ▸ holds.counted⟩
    · intro announced
      refine iff_of_false (silent announced) ?_
      rintro ⟨-, -, early, late⟩
      omega

/-- While nobody touches the room, the commanded position lasts until the
debouncer is due, if the plug is at the other level, and for ever, if not. -/
theorem Placed.run {watched : Config Button × List (Option Bool)}
    (placed : Placed commanded level due watched) {later : List Sample}
    (untouched : (observed Button).Along (Untouched level) watched later) :
    let last := (observed Button).run watched later
    Placed commanded level due last ∧ watched.2.length ≤ last.2.length ∧
      ∀ announced, .serial1 (plugWord announced) ∈
          (observed Button).trace watched later ↔
        announced = level ∧ level ≠ commanded ∧ watched.2.length < due ∧
          due ≤ last.2.length := by
  induction later generalizing watched with
  | nil =>
      refine ⟨placed, Nat.le_refl _, fun announced => iff_of_false (by simp) ?_⟩
      rintro ⟨-, -, early, late⟩
      simp only [MealyMachine.run_nil] at late
      omega
  | cons sample later ih =>
      obtain ⟨next, grows, emits⟩ := placed.step untouched.1
      obtain ⟨last, growsOn, traces⟩ := ih next untouched.2
      refine ⟨last, grows.trans growsOn, fun announced => ?_⟩
      rw [MealyMachine.trace_cons, List.mem_append, emits, traces]
      simp only [MealyMachine.run_cons] at growsOn ⊢
      constructor
      · rintro (⟨same, differs, early, late⟩ | ⟨same, differs, early, late⟩)
        · exact ⟨same, differs, early, late.trans growsOn⟩
        · exact ⟨same, differs, by omega, late⟩
      · rintro ⟨same, differs, early, late⟩
        by_cases here : due ≤ ((observed Button).step watched sample).2.length
        · exact .inl ⟨same, differs, early, here⟩
        · exact .inr ⟨same, differs, by omega, late⟩

/-- A command which switches the machine sets the position and leaves a partial
count, which is empty after `on`. -/
theorem handle_switch {cuentas : Cuentas} (inRange : cuentas.InRange)
    (stage : Int) (commanded : Bool) :
    let after := cuentas.handle stage (switchWord commanded).toList
    after.yaGano = false ∧ after.enchufada = commanded ∧
      (commanded = true → after.enchufeCounter = 0) ∧ after.InRange := by
  have kept := inRange.handle stage (switchWord commanded).toList
  cases commanded with
  | true => exact ⟨rfl, rfl, fun _ => rfl, kept⟩
  | false => exact ⟨rfl, rfl, by simp, kept⟩

/-- After such a command the machine is in its position, and the debouncer is
due after at most fifty calls. -/
theorem switch_placed {config : Config Button} {partida : Partida}
    (tracks : Tracks config partida) (inRange : config.maquina.cuentas.InRange)
    {sample : Sample}
    (handled : heard config sample = some (switchWord commanded).toList)
    (level : Bool) :
    ∃ due, 1 ≤ due ∧ due ≤ 50 ∧ (commanded = true → due = 50) ∧
      Placed commanded level due ((machine Button).step config sample, []) := by
  obtain ⟨action, steps⟩ := step_tracks tracks sample
  have unread : config.control.callsPlug = false := by
    cases calls : config.control with
    | loopStart | enchufe => simp [heard, calls] at handled
    | _ => rfl
  obtain ⟨enchufada, yaGano, counter⟩ := step_unread sample unread
  obtain ⟨locked, switched, cleared, nonneg, early⟩ :=
    handle_switch inRange config.maquina.gamesWon commanded
  simp only [handled] at enchufada yaGano counter
  rw [← counter] at cleared nonneg early
  generalize left : ((machine Button).step config
    sample).maquina.cuentas.enchufeCounter = count at cleared nonneg early
  refine ⟨(50 - count).toNat, by omega, by omega, fun on => ?_, ?_⟩
  · have := cleared on
    omega
  · refine ⟨⟨_, steps.tracks⟩, yaGano.trans locked, ?_, fun _ _ => ?_⟩
    · rw [position_of_early (by simp only [List.length_nil]; omega)]
      exact enchufada.trans switched
    · simp only [List.length_nil]
      omega

/-- A position agrees with an untouched plug for ever, and otherwise until the
debouncer takes the level of the plug: at the fiftieth call after `on`, and at
the fiftieth at the latest after `off`. -/
theorem switch_holds (boot : Sample) (inputs : List Sample) {sample : Sample}
    {commanded : Bool}
    (handled : heard (after Button boot inputs) sample =
      some (switchWord commanded).toList) (level : Bool) :
    let start := (machine Button).step (after Button boot inputs) sample
    ∃ due, 1 ≤ due ∧ due ≤ 50 ∧ (commanded = true → due = 50) ∧
      ∀ later, (observed Button).Along (Untouched level) (start, []) later →
        let calls := ((observed Button).run (start, []) later).2.length
        ((machine Button).run start later).maquina.enchufada =
            position commanded level due calls ∧
          ∀ announced, .serial1 (plugWord announced) ∈
              (machine Button).trace start later ↔
            announced = level ∧ level ≠ commanded ∧ due ≤ calls := by
  obtain ⟨partida, tracks⟩ := after_tracks Button boot inputs
  obtain ⟨due, positive, bounded, full, placed⟩ := switch_placed tracks
    (after_inRange boot inputs) handled level
  refine ⟨due, positive, bounded, full, fun later untouched => ?_⟩
  obtain ⟨last, -, traces⟩ := placed.run untouched
  have runs := (machine Button).run_observe anota
    ((machine Button).step (after Button boot inputs) sample) [] later
  have sent := (machine Button).trace_observe anota
    ((machine Button).step (after Button boot inputs) sample) [] later
  constructor
  · rw [← runs]
    exact last.holds.placed
  · intro announced
    rw [← sent]
    refine (traces announced).trans ?_
    constructor
    · rintro ⟨same, differs, -, late⟩
      exact ⟨same, differs, late⟩
    · rintro ⟨same, differs, late⟩
      exact ⟨same, differs, positive, late⟩

end Runs

/-- The operator switches the machine on while nothing is plugged in: it is
still on after 24 calls of `checkEnchufe`. -/
theorem switch_holds_reposo :
    ((machine StableButton).run
      ((machine StableButton).step
        (after StableButton .reposo (deliver .reposo "on").dropLast) .reposo)
      (List.replicate 96 .reposo)).maquina.enchufada = true := by
  obtain ⟨due, -, -, full, holds⟩ := @switch_holds StableButton _ .reposo
    (deliver .reposo "on").dropLast .reposo true (by decide +kernel) low
  obtain ⟨placed, -⟩ := holds (List.replicate 96 .reposo) (by decide +kernel)
  rw [placed, full rfl]
  decide +kernel

/-- The same machine is off after fifty calls, although the plug has not
changed and nothing was received. -/
theorem switch_not_held :
    let start := after StableButton .reposo (deliver .reposo "on")
    start.maquina.yaGano = false ∧ start.maquina.enchufada = true ∧
      (observed StableButton).Along (Untouched low) (start, [])
        (List.replicate 200 .reposo) ∧
      ((machine StableButton).run start
        (List.replicate 200 .reposo)).maquina.enchufada = false := by
  decide +kernel

end Salsipuedes.Maquina

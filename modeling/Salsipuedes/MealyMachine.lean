import Mathlib.Data.List.Basic
import Mathlib.Tactic.Common

/-!
# Machines driven by a list of inputs

A sketch has no inputs other than what it samples while it runs.  Each of its
observable operations is one transition of a deterministic machine which reads
one sample and emits the effects of that operation.  This file collects the
induction rules for such machines: invariants, invariants of the emitted
history, invariants under a condition on the steps, counters and ranks which the
steps lower, continuations which lead to a goal, observers, games against what is
drawn, agreement of two runs, and simulation by a specification machine.
-/

namespace Salsipuedes

/-- A deterministic machine which reads an input and emits a list of events in
each step. -/
structure MealyMachine (State Input Event : Type*) where
  step : State → Input → State
  emit : State → Input → List Event

namespace MealyMachine

variable {State Input Event : Type*} (machine : MealyMachine State Input Event)

/-- The state after a list of inputs. -/
def run (state : State) (inputs : List Input) : State :=
  inputs.foldl machine.step state

/-- Everything emitted while a list of inputs is read. -/
def trace : State → List Input → List Event
  | _, [] => []
  | state, input :: inputs =>
      machine.emit state input ++ trace (machine.step state input) inputs

/-- Every step of the run meets a condition on the state before it and its
input. -/
def Along (Guard : State → Input → Prop) : State → List Input → Prop
  | _, [] => True
  | state, input :: inputs =>
      Guard state input ∧ Along Guard (machine.step state input) inputs

/-- A condition which can be decided at each step can be decided along a run. -/
instance decidableAlong (Guard : State → Input → Prop)
    [∀ state input, Decidable (Guard state input)] :
    (state : State) → (inputs : List Input) →
      Decidable (machine.Along Guard state inputs)
  | _, [] => isTrue trivial
  | state, input :: inputs =>
      have := decidableAlong Guard (machine.step state input) inputs
      inferInstanceAs (Decidable (_ ∧ _))

/-- The states a run from `first` can be in. -/
def Reachable (first : State) (state : State) : Prop :=
  ∃ inputs, state = machine.run first inputs

section Runs

@[simp]
theorem run_nil (state : State) : machine.run state [] = state :=
  rfl

@[simp]
theorem run_cons (state : State) (input : Input) (inputs : List Input) :
    machine.run state (input :: inputs) =
      machine.run (machine.step state input) inputs :=
  rfl

theorem run_append (state : State) (first second : List Input) :
    machine.run state (first ++ second) =
      machine.run (machine.run state first) second := by
  simp [run]

@[simp]
theorem trace_nil (state : State) : machine.trace state [] = [] :=
  rfl

@[simp]
theorem trace_cons (state : State) (input : Input) (inputs : List Input) :
    machine.trace state (input :: inputs) =
      machine.emit state input ++
        machine.trace (machine.step state input) inputs :=
  rfl

theorem trace_append (state : State) (first second : List Input) :
    machine.trace state (first ++ second) =
      machine.trace state first ++
        machine.trace (machine.run state first) second := by
  induction first generalizing state with
  | nil => rfl
  | cons input inputs ih => simp [ih]

/-- Everything emitted in a run is emitted by one of its steps. -/
theorem mem_trace {state : State} {inputs : List Input} {event : Event}
    (member : event ∈ machine.trace state inputs) :
    ∃ first input rest, inputs = first ++ input :: rest ∧
      event ∈ machine.emit (machine.run state first) input := by
  induction inputs generalizing state with
  | nil => simp at member
  | cons input inputs ih =>
      rw [trace_cons, List.mem_append] at member
      rcases member with here | later
      · exact ⟨[], input, inputs, rfl, here⟩
      · obtain ⟨first, next, rest, split, emitted⟩ := ih later
        exact ⟨input :: first, next, rest, by rw [split]; rfl, emitted⟩

theorem along_append (Guard : State → Input → Prop) (state : State)
    (first second : List Input) :
    machine.Along Guard state (first ++ second) ↔
      machine.Along Guard state first ∧
        machine.Along Guard (machine.run state first) second := by
  induction first generalizing state with
  | nil => simp [Along]
  | cons input inputs ih => simp [Along, ih, and_assoc]

theorem Reachable.step {first state : State}
    (reachable : machine.Reachable first state) (input : Input) :
    machine.Reachable first (machine.step state input) := by
  obtain ⟨inputs, rfl⟩ := reachable
  exact ⟨inputs ++ [input], by simp [run_append]⟩

theorem Reachable.run {first state : State}
    (reachable : machine.Reachable first state) (inputs : List Input) :
    machine.Reachable first (machine.run state inputs) := by
  obtain ⟨before, rfl⟩ := reachable
  exact ⟨before ++ inputs, (machine.run_append first before inputs).symm⟩

end Runs

section Invariants

/-- An invariant of the state and of everything emitted so far. -/
theorem history_invariant {Invariant : List Event → State → Prop}
    (preserved : ∀ history state input, Invariant history state →
      Invariant (history ++ machine.emit state input)
        (machine.step state input))
    {history : List Event} {state : State}
    (initially : Invariant history state) (inputs : List Input) :
    Invariant (history ++ machine.trace state inputs)
      (machine.run state inputs) := by
  induction inputs generalizing history state with
  | nil => simpa using initially
  | cons input inputs ih =>
      simpa [List.append_assoc] using
        ih (preserved history state input initially)

theorem run_invariant {Invariant : State → Prop}
    (preserved : ∀ state input, Invariant state →
      Invariant (machine.step state input))
    {state : State} (initially : Invariant state) (inputs : List Input) :
    Invariant (machine.run state inputs) := by
  induction inputs generalizing state with
  | nil => exact initially
  | cons input inputs ih => exact ih (preserved state input initially)

theorem Reachable.invariant {Invariant : State → Prop}
    (preserved : ∀ state input, Invariant state →
      Invariant (machine.step state input))
    {first state : State} (initially : Invariant first)
    (reachable : machine.Reachable first state) : Invariant state := by
  obtain ⟨inputs, rfl⟩ := reachable
  exact machine.run_invariant preserved initially inputs

theorem along_of_forall {Guard : State → Input → Prop}
    (holds : ∀ state input, Guard state input) (state : State)
    (inputs : List Input) : machine.Along Guard state inputs := by
  induction inputs generalizing state with
  | nil => trivial
  | cons input inputs ih => exact ⟨holds state input, ih _⟩

/-- A condition on the steps implies every weaker one. -/
theorem Along.mono {Guard Goal : State → Input → Prop}
    (implies : ∀ state input, Guard state input → Goal state input)
    {state : State} {inputs : List Input}
    (along : machine.Along Guard state inputs) :
    machine.Along Goal state inputs := by
  induction inputs generalizing state with
  | nil => trivial
  | cons input inputs ih => exact ⟨implies state input along.1, ih along.2⟩

/-- An invariant which the steps that meet a condition keep holds at the end of every
run of such steps. -/
theorem Along.invariant {Guard : State → Input → Prop} {Invariant : State → Prop}
    (preserved : ∀ state input, Guard state input → Invariant state →
      Invariant (machine.step state input))
    {state : State} (initially : Invariant state) {inputs : List Input}
    (along : machine.Along Guard state inputs) :
    Invariant (machine.run state inputs) := by
  induction inputs generalizing state with
  | nil => exact initially
  | cons input inputs ih =>
      exact ih (preserved state input along.1 initially) along.2

/-- What an invariant and a condition imply about each step holds along every
run whose steps meet the condition. -/
theorem along_of_invariant {Guard Goal : State → Input → Prop}
    {Invariant : State → Prop}
    (preserved : ∀ state input, Guard state input → Invariant state →
      Invariant (machine.step state input))
    (implies : ∀ state input, Guard state input → Invariant state →
      Goal state input)
    {state : State} (initially : Invariant state) {inputs : List Input}
    (along : machine.Along Guard state inputs) :
    machine.Along Goal state inputs := by
  induction inputs generalizing state with
  | nil => trivial
  | cons input inputs ih =>
      exact ⟨implies state input along.1 initially,
        ih (preserved state input along.1 initially) along.2⟩

/-- Two conditions which an invariant makes equivalent, and of which one keeps
the invariant, hold along the same runs. -/
theorem along_iff_of_invariant {Goal Guard : State → Input → Prop}
    {Invariant : State → Prop}
    (equivalent : ∀ state input, Invariant state →
      (Goal state input ↔ Guard state input))
    (preserved : ∀ state input, Guard state input → Invariant state →
      Invariant (machine.step state input))
    {state : State} (initially : Invariant state) (inputs : List Input) :
    machine.Along Goal state inputs ↔ machine.Along Guard state inputs := by
  induction inputs generalizing state with
  | nil => exact Iff.rfl
  | cons input inputs ih =>
      have here := equivalent state input initially
      constructor
      · rintro ⟨goal, later⟩
        have guard := here.mp goal
        exact ⟨guard, (ih (preserved state input guard initially)).mp later⟩
      · rintro ⟨guard, later⟩
        exact ⟨here.mpr guard,
          (ih (preserved state input guard initially)).mpr later⟩

/-- A run which waits for an input, and says something when it comes: before it
and after it nothing is said. -/
theorem run_switch {Reading Letter : Type*} (encode : Reading → Input)
    (letter : Event → Option Letter) (word : List Letter)
    (Allowed Awaited : Reading → Prop) (Before After : State → Prop)
    (waits : ∀ state reading, Allowed reading → Before state →
      ¬ Awaited reading → Before (machine.step state (encode reading)) ∧
        (machine.emit state (encode reading)).filterMap letter = [])
    (switches : ∀ state reading, Allowed reading → Before state →
      Awaited reading → After (machine.step state (encode reading)) ∧
        (machine.emit state (encode reading)).filterMap letter = word)
    (rests : ∀ state reading, Allowed reading → After state →
      After (machine.step state (encode reading)) ∧
        (machine.emit state (encode reading)).filterMap letter = [])
    {state : State} (before : Before state) {readings : List Reading}
    (allowed : ∀ reading ∈ readings, Allowed reading)
    (comes : ∃ reading ∈ readings, Awaited reading) :
    After (machine.run state (readings.map encode)) ∧
      (machine.trace state (readings.map encode)).filterMap letter = word := by
  have rested : ∀ (later : List Reading) (state : State), After state →
      (∀ reading ∈ later, Allowed reading) →
      After (machine.run state (later.map encode)) ∧
        (machine.trace state (later.map encode)).filterMap letter = [] := by
    intro later
    induction later with
    | nil => exact fun state after _ => ⟨after, rfl⟩
    | cons reading later ih =>
        intro state after laterAllowed
        obtain ⟨next, quiet⟩ := rests state reading
          (laterAllowed reading List.mem_cons_self) after
        obtain ⟨last, rest⟩ := ih _ next fun other member =>
          laterAllowed other (List.mem_cons_of_mem _ member)
        refine ⟨last, ?_⟩
        rw [List.map_cons, trace_cons, List.filterMap_append, quiet, rest]
        rfl
  induction readings generalizing state with
  | nil => simp at comes
  | cons reading readings ih =>
      have here := allowed reading List.mem_cons_self
      have later : ∀ other ∈ readings, Allowed other := fun other member =>
        allowed other (List.mem_cons_of_mem _ member)
      rw [List.map_cons, trace_cons, run_cons, List.filterMap_append]
      by_cases awaited : Awaited reading
      · obtain ⟨after, sent⟩ := switches state reading here before awaited
        obtain ⟨last, rest⟩ := rested readings _ after later
        exact ⟨last, by rw [sent, rest, List.append_nil]⟩
      · obtain ⟨next, quiet⟩ := waits state reading here before awaited
        have comesLater : ∃ other ∈ readings, Awaited other := by
          obtain ⟨other, member, isAwaited⟩ := comes
          rcases List.mem_cons.mp member with rfl | member
          · exact absurd isAwaited awaited
          · exact ⟨other, member, isAwaited⟩
        obtain ⟨last, sent⟩ := ih next later comesLater
        exact ⟨last, by rw [quiet, sent, List.nil_append]⟩

end Invariants

section Counting

/-- How many steps of a run start in a state of a kind. -/
def visits (kind : State → Bool) : State → List Input → Nat
  | _, [] => 0
  | state, input :: inputs =>
      (kind state).toNat + visits kind (machine.step state input) inputs

variable {machine} {Guard : State → Input → Prop}
variable {Invariant : State → Prop} {kind : State → Bool}

/-- A counter which the steps of a kind lower, and no other step changes, is
lowered by their number until it is zero. -/
theorem Along.countdown (counter : State → Nat)
    (preserved : ∀ state input, Guard state input → Invariant state →
      Invariant (machine.step state input))
    (counts : ∀ state input, Guard state input → Invariant state →
      counter (machine.step state input) = counter state - (kind state).toNat)
    {state : State} (initially : Invariant state) {inputs : List Input}
    (along : machine.Along Guard state inputs) :
    counter (machine.run state inputs) =
      counter state - machine.visits kind state inputs := by
  induction inputs generalizing state with
  | nil => rfl
  | cons input inputs ih =>
      have here := counts state input along.1 initially
      have later := ih (preserved state input along.1 initially) along.2
      rw [run_cons, later, here, visits, Nat.sub_sub]

/-- A rank which no step short of the goal raises, and which the steps of a kind
lower, leads to the goal within as many steps of that kind.  The invariant may end
with the goal. -/
theorem Along.reaches_once (Goal : State → Input → Prop) (rank : State → Nat)
    (preserved : ∀ state input, Guard state input → Invariant state →
      ¬ Goal state input → Invariant (machine.step state input))
    (lowers : ∀ state input, Guard state input → Invariant state →
      ¬ Goal state input →
      rank (machine.step state input) + (kind state).toNat ≤ rank state)
    {state : State} (initially : Invariant state) {inputs : List Input}
    (along : machine.Along Guard state inputs)
    (long : rank state < machine.visits kind state inputs) :
    ∃ first input rest, inputs = first ++ input :: rest ∧
      Invariant (machine.run state first) ∧
      Goal (machine.run state first) input := by
  induction inputs generalizing state with
  | nil => simp [visits] at long
  | cons input inputs ih =>
      by_cases here : Goal state input
      · exact ⟨[], input, inputs, rfl, initially, here⟩
      · have lower := lowers state input along.1 initially here
        have next := preserved state input along.1 initially here
        rw [visits] at long
        obtain ⟨first, later, rest, split, still, goal⟩ :=
          ih next along.2 (by omega)
        exact ⟨input :: first, later, rest, by rw [split]; rfl, still, goal⟩

/-- A rank which no step short of the goal raises, and which the steps of a kind
lower, leads to the goal within as many steps of that kind. -/
theorem Along.reaches (Goal : State → Input → Prop) (rank : State → Nat)
    (preserved : ∀ state input, Guard state input → Invariant state →
      Invariant (machine.step state input))
    (lowers : ∀ state input, Guard state input → Invariant state →
      ¬ Goal state input →
      rank (machine.step state input) + (kind state).toNat ≤ rank state)
    {state : State} (initially : Invariant state) {inputs : List Input}
    (along : machine.Along Guard state inputs)
    (long : rank state < machine.visits kind state inputs) :
    ∃ first input rest, inputs = first ++ input :: rest ∧
      Goal (machine.run state first) input := by
  obtain ⟨first, input, rest, split, -, goal⟩ := Along.reaches_once Goal rank
    (fun state input guard holds _ => preserved state input guard holds) lowers
    initially along long
  exact ⟨first, input, rest, split, goal⟩

/-- A rank which the steps of a kind lower until a goal is met: a run is divided at
the first state which meets it, after at most as many steps of that kind. -/
theorem Along.settles (Goal : State → Prop) (rank : State → Nat)
    (preserved : ∀ state input, Guard state input → Invariant state →
      Invariant (machine.step state input))
    (lowers : ∀ state input, Guard state input → Invariant state → ¬ Goal state →
      rank (machine.step state input) + (kind state).toNat ≤ rank state)
    {state : State} (initially : Invariant state) {inputs : List Input}
    (along : machine.Along Guard state inputs) :
    ∃ first rest, inputs = first ++ rest ∧
      machine.visits kind state first ≤ rank state ∧
      (rest = [] ∨ Goal (machine.run state first)) := by
  induction inputs generalizing state with
  | nil => exact ⟨[], [], rfl, Nat.zero_le _, .inl rfl⟩
  | cons input inputs ih =>
      by_cases here : Goal state
      · exact ⟨[], input :: inputs, rfl, Nat.zero_le _, .inr here⟩
      · have lower := lowers state input along.1 initially here
        obtain ⟨first, rest, split, few, goal⟩ :=
          ih (preserved state input along.1 initially) along.2
        refine ⟨input :: first, rest, by rw [split]; rfl, ?_, goal⟩
        rw [visits]
        omega

end Counting

section Continuations

/-- From every state of `First` some inputs lead to a state of `Last`, and
everything emitted on the way is allowed. -/
def Leads (Allowed : Event → Prop) (First Last : State → Prop) : Prop :=
  ∀ state, First state → ∃ inputs,
    (∀ event ∈ machine.trace state inputs, Allowed event) ∧
      Last (machine.run state inputs)

variable {machine} {Allowed : Event → Prop}
variable {First Second Last : State → Prop}

theorem Leads.of_imp (implies : ∀ state, First state → Last state) :
    machine.Leads Allowed First Last :=
  fun state first => ⟨[], by simp, implies state first⟩

/-- One step which is possible from every state of `First`. -/
theorem Leads.of_step
    (steps : ∀ state, First state → ∃ input,
      (∀ event ∈ machine.emit state input, Allowed event) ∧
        Last (machine.step state input)) :
    machine.Leads Allowed First Last := by
  intro state first
  obtain ⟨input, allowed, last⟩ := steps state first
  exact ⟨[input], by simpa using allowed, last⟩

theorem Leads.trans (left : machine.Leads Allowed First Second)
    (right : machine.Leads Allowed Second Last) :
    machine.Leads Allowed First Last := by
  intro state first
  obtain ⟨inputs, allowed, second⟩ := left state first
  obtain ⟨more, moreAllowed, last⟩ := right _ second
  refine ⟨inputs ++ more, ?_, by rw [run_append]; exact last⟩
  intro event member
  rw [trace_append, List.mem_append] at member
  rcases member with before | after
  · exact allowed event before
  · exact moreAllowed event after

/-- A condition on the first state which does not change can be assumed. -/
theorem Leads.of_forall {Index : Sort*} {Family : Index → State → Prop}
    (each : ∀ index, machine.Leads Allowed (Family index) Last) :
    machine.Leads Allowed (fun state => ∃ index, Family index state) Last := by
  rintro state ⟨index, first⟩
  exact each index state first

/-- A counter which can always be lowered can be lowered to zero. -/
theorem Leads.countdown {Counted : Nat → State → Prop}
    (lower : ∀ count, machine.Leads Allowed (Counted (count + 1))
      (Counted count)) (count : Nat) :
    machine.Leads Allowed (Counted count) (Counted 0) := by
  induction count with
  | zero => exact Leads.of_imp fun _ counted => counted
  | succ count ih => exact (lower count).trans ih

end Continuations

section Observation

variable {Ghost : Type*} (watch : State → Input → Ghost → Ghost)

/-- A machine together with what an observer notes about its steps. -/
def observe : MealyMachine (State × Ghost) Input Event where
  step pair input := (machine.step pair.1 input, watch pair.1 input pair.2)
  emit pair input := machine.emit pair.1 input

@[simp]
theorem observe_step (pair : State × Ghost) (input : Input) :
    (machine.observe watch).step pair input =
      (machine.step pair.1 input, watch pair.1 input pair.2) :=
  rfl

/-- The observer does not disturb the machine. -/
theorem run_observe (state : State) (ghost : Ghost) (inputs : List Input) :
    ((machine.observe watch).run (state, ghost) inputs).1 =
      machine.run state inputs := by
  induction inputs generalizing state ghost with
  | nil => rfl
  | cons input inputs ih =>
      rw [run_cons, run_cons]
      exact ih (machine.step state input) (watch state input ghost)

theorem exists_run_observe (state : State) (ghost : Ghost)
    (inputs : List Input) :
    ∃ later, (machine.observe watch).run (state, ghost) inputs =
      (machine.run state inputs, later) :=
  ⟨_, Prod.ext (machine.run_observe watch state ghost inputs) rfl⟩

theorem trace_observe (state : State) (ghost : Ghost) (inputs : List Input) :
    (machine.observe watch).trace (state, ghost) inputs =
      machine.trace state inputs := by
  induction inputs generalizing state ghost with
  | nil => rfl
  | cons input inputs ih =>
      rw [trace_cons, trace_cons]
      exact congrArg _ (ih (machine.step state input) (watch state input ghost))

/-- A reader of the events who follows every step follows every run. -/
theorem trace_foldl {View : Type*} (read : View → Event → View)
    (view : State → View)
    (follows : ∀ state input,
      (machine.emit state input).foldl read (view state) =
        view (machine.step state input)) (state : State)
    (inputs : List Input) :
    (machine.trace state inputs).foldl read (view state) =
      view (machine.run state inputs) := by
  induction inputs generalizing state with
  | nil => rfl
  | cons input inputs ih =>
      rw [trace_cons, run_cons, List.foldl_append, follows, ih]

end Observation

section Components

variable {Part Reading Report : Type*}

/-- The machine with other reports of its steps. -/
def reporting (reports : State → Input → List Report) :
    MealyMachine State Input Report where
  step := machine.step
  emit := reports

/-- Everything that the steps of a run read. -/
def readings (reads : State → Input → List Reading) : State → List Input →
    List Reading :=
  (machine.reporting reads).trace

/-- What is read does not depend on the state. -/
theorem readings_eq_filterMap (read : Input → Option Reading) (state : State)
    (inputs : List Input) :
    machine.readings (fun _ input => (read input).toList) state inputs =
      inputs.filterMap read := by
  induction inputs generalizing state with
  | nil => rfl
  | cons input inputs ih =>
      change (read input).toList ++ machine.readings _ _ inputs = _
      rw [ih]
      cases found : read input with
      | none => rw [List.filterMap_cons_none found, Option.toList_none,
          List.nil_append]
      | some reading => rw [List.filterMap_cons_some found]; rfl

/-- Each step on an allowed input moves a part of the state as a component does
on what the step reads, and reports what the component emits. -/
def Embeds (component : MealyMachine Part Reading Report) (part : State → Part)
    (reads : State → Input → List Reading)
    (reports : State → Input → List Report) (Allowed : Input → Prop) : Prop :=
  ∀ state input, Allowed input →
    part (machine.step state input) =
        component.run (part state) (reads state input) ∧
      reports state input = component.trace (part state) (reads state input)

/-- A run moves the part as the component does on everything that is read. -/
theorem Embeds.run {machine : MealyMachine State Input Event}
    {component : MealyMachine Part Reading Report}
    {part : State → Part} {reads : State → Input → List Reading}
    {reports : State → Input → List Report} {Allowed : Input → Prop}
    (embeds : machine.Embeds component part reads reports Allowed)
    (state : State) {inputs : List Input}
    (allowed : ∀ input ∈ inputs, Allowed input) :
    part (machine.run state inputs) =
        component.run (part state) (machine.readings reads state inputs) ∧
      (machine.reporting reports).trace state inputs =
        component.trace (part state) (machine.readings reads state inputs) := by
  induction inputs generalizing state with
  | nil => exact ⟨rfl, rfl⟩
  | cons input inputs ih =>
      obtain ⟨here, reported⟩ := embeds state input (allowed input (by simp))
      obtain ⟨later, rest⟩ := ih (machine.step state input) fun other member =>
        allowed other (List.mem_cons_of_mem _ member)
      rw [here] at later rest
      constructor
      · rw [run_cons, later, ← run_append]
        rfl
      · rw [trace_cons]
        change reports state input ++
          (machine.reporting reports).trace (machine.step state input) inputs = _
        rw [reported, rest, ← trace_append]
        rfl

end Components

section Games

variable {Move Draw : Type*}

/-- Whoever makes the moves leads the machine to a goal whatever is drawn, and keeps it
where it is to stay on the way.  A move is made before its draw is known. -/
inductive Forces (input : Move → Draw → Input) (Stay Goal : State → Prop) :
    State → Prop where
  | done {state : State} (goal : Goal state) : Forces input Stay Goal state
  | move {state : State} (stay : Stay state) (move : Move)
      (next : ∀ draw, Forces input Stay Goal
        (machine.step state (input move draw))) : Forces input Stay Goal state

end Games

section Agreement

/-- Two runs on the same inputs agree on everything they emit when related
states emit the same and stay related. -/
theorem trace_eq_of_related {Related : State → State → Prop}
    (preserved : ∀ first second input, Related first second →
      machine.emit first input = machine.emit second input ∧
        Related (machine.step first input) (machine.step second input))
    {first second : State} (related : Related first second)
    (inputs : List Input) :
    machine.trace first inputs = machine.trace second inputs ∧
      Related (machine.run first inputs) (machine.run second inputs) := by
  induction inputs generalizing first second with
  | nil => exact ⟨rfl, related⟩
  | cons input inputs ih =>
      obtain ⟨emits, steps⟩ := preserved first second input related
      obtain ⟨traces, runs⟩ := ih steps
      exact ⟨by rw [trace_cons, trace_cons, emits, traces], runs⟩

end Agreement

section Simulation

variable {Spec Action : Type*}

/-- Forward simulation.  If every step of the machine from a related pair is
matched by one enabled action of the specification, then every run is matched
by a run of enabled actions with the same visible events. -/
theorem simulation (spec : MealyMachine Spec Action Event)
    {Enabled : Spec → Action → Prop} {Related : State → Spec → Prop}
    {visible : Event → Bool}
    (simulates : ∀ state abstract input, Related state abstract →
      ∃ action, Enabled abstract action ∧
        Related (machine.step state input) (spec.step abstract action) ∧
        (machine.emit state input).filter visible =
          spec.emit abstract action)
    {state : State} {abstract : Spec} (related : Related state abstract)
    (inputs : List Input) :
    ∃ actions, spec.Along Enabled abstract actions ∧
      Related (machine.run state inputs) (spec.run abstract actions) ∧
      (machine.trace state inputs).filter visible =
        spec.trace abstract actions := by
  induction inputs generalizing state abstract with
  | nil => exact ⟨[], trivial, related, rfl⟩
  | cons input inputs ih =>
      obtain ⟨action, enabled, stepRelated, emits⟩ :=
        simulates state abstract input related
      obtain ⟨actions, along, runRelated, traces⟩ := ih stepRelated
      refine ⟨action :: actions, ⟨enabled, along⟩, runRelated, ?_⟩
      rw [trace_cons, List.filter_append, emits, traces, trace_cons]

end Simulation

end MealyMachine

end Salsipuedes

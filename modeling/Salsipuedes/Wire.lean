import Salsipuedes.IdleFraming
import Salsipuedes.Linked
import Salsipuedes.Occurrences

/-!
# What a link carries

Whatever the order in which two machines joined by a link take their steps, what
has been printed is what the reader has taken off its buffer, followed by what it
still holds and what is on its way.  A word is therefore never dispatched more
often than it was printed.  When every text is printed on an idle link and nothing
is taken before all of it has arrived, the reader takes the texts as they were
printed.
-/

namespace Salsipuedes

/-- A machine which has a link in it: what is in transit, what a step prints, and
what a step takes out of the transit for good. -/
structure Wire {State Input Event : Type*}
    (machine : MealyMachine State Input Event) (Byte : Type*) where
  stream : State → List Byte
  printed : State → Input → List Byte
  taken : State → Input → List Byte
  conserves : ∀ state input,
    taken state input ++ stream (machine.step state input) =
      stream state ++ printed state input

namespace Wire

variable {State Input Event Byte : Type*}
variable {machine : MealyMachine State Input Event} (wire : Wire machine Byte)

/-- Nothing is lost, invented or reordered. -/
theorem conserved (state : State) (inputs : List Input) :
    machine.readings wire.taken state inputs ++
        wire.stream (machine.run state inputs) =
      wire.stream state ++ machine.readings wire.printed state inputs := by
  induction inputs generalizing state with
  | nil => exact (List.append_nil _).symm
  | cons input inputs ih =>
      calc
        wire.taken state input ++
                machine.readings wire.taken (machine.step state input) inputs ++
              wire.stream (machine.run (machine.step state input) inputs)
            = wire.taken state input ++
                (wire.stream (machine.step state input) ++
                  machine.readings wire.printed (machine.step state input)
                    inputs) := by
              rw [List.append_assoc, ih]
        _ = wire.stream state ++ (wire.printed state input ++
              machine.readings wire.printed (machine.step state input)
                inputs) := by
              rw [← List.append_assoc, wire.conserves, List.append_assoc]

end Wire

section Readings

variable {State Input Event Reading Report Item : Type*}
variable {machine : MealyMachine State Input Event}

variable (machine) in
theorem MealyMachine.map_readings (make : Reading → Item)
    (reads : State → Input → List Reading) (state : State)
    (inputs : List Input) :
    (machine.readings reads state inputs).map make =
      machine.readings (fun state input => (reads state input).map make) state
        inputs := by
  induction inputs generalizing state with
  | nil => rfl
  | cons input inputs ih =>
      change (reads state input ++ machine.readings reads
        (machine.step state input) inputs).map make = _
      rw [List.map_append, ih]
      rfl

variable (machine) in
/-- What is picked from the events of a run is picked step by step. -/
theorem MealyMachine.filterMap_trace (pick : Event → Option Item)
    (state : State) (inputs : List Input) :
    (machine.trace state inputs).filterMap pick =
      machine.readings
        (fun state input => (machine.emit state input).filterMap pick) state
        inputs := by
  induction inputs generalizing state with
  | nil => rfl
  | cons input inputs ih =>
      rw [trace_cons, List.filterMap_append, ih]
      rfl

variable (machine) in
/-- What is made of the readings of each step is picked from its input. -/
theorem MealyMachine.readings_flatMap {pick : Input → Option Item}
    {reads : State → Input → List Reading} {make : Reading → List Item}
    {Allowed : Input → Prop}
    (picks : ∀ state input, Allowed input →
      (reads state input).flatMap make = (pick input).toList)
    (state : State) {inputs : List Input}
    (allowed : ∀ input ∈ inputs, Allowed input) :
    (machine.readings reads state inputs).flatMap make =
      inputs.filterMap pick := by
  induction inputs generalizing state with
  | nil => rfl
  | cons input inputs ih =>
      have here := picks state input (allowed input List.mem_cons_self)
      have later := ih (machine.step state input) fun other member =>
        allowed other (List.mem_cons_of_mem _ member)
      change (reads state input ++ machine.readings reads
        (machine.step state input) inputs).flatMap make = _
      rw [List.flatMap_append, here, later]
      cases found : pick input with
      | none => rw [List.filterMap_cons_none found]; rfl
      | some item => rw [List.filterMap_cons_some found]; rfl

end Readings

section Totals

variable {State Input Event : Type*} (machine : MealyMachine State Input Event)

/-- The sum of a weight of the steps of a run. -/
def MealyMachine.total (weight : State → Input → Nat) : State → List Input → Nat
  | _, [] => 0
  | state, input :: inputs =>
      weight state input + total weight (machine.step state input) inputs

theorem MealyMachine.total_inputs (mark : Input → Bool) (state : State)
    (inputs : List Input) :
    machine.total (fun _ input => (mark input).toNat) state inputs =
      inputs.countP mark := by
  induction inputs generalizing state with
  | nil => rfl
  | cons input inputs ih =>
      rw [total, ih, List.countP_cons, Nat.add_comm]
      cases mark input <;> rfl

theorem MealyMachine.total_readings {Reading : Type*}
    (reads : State → Input → List Reading) (mark : Reading → Bool)
    (state : State) (inputs : List Input) :
    machine.total (fun state input => (reads state input).countP mark) state
        inputs =
      (machine.readings reads state inputs).countP mark := by
  induction inputs generalizing state with
  | nil => rfl
  | cons input inputs ih =>
      change _ = (reads state input ++ machine.readings reads
        (machine.step state input) inputs).countP mark
      rw [total, ih, List.countP_append]

theorem MealyMachine.total_events (mark : Event → Bool) (state : State)
    (inputs : List Input) :
    machine.total (fun state input => (machine.emit state input).countP mark)
        state inputs =
      (machine.trace state inputs).countP mark :=
  machine.total_readings machine.emit mark state inputs

end Totals

namespace Wire

variable {State Input Event Byte : Type*}
variable {machine : MealyMachine State Input Event} (wire : Wire machine Byte)

section Words

variable [DecidableEq Byte] {word : List Byte}

/-- What is counted as taken is cut out of what is taken, and what is printed has
the word no more often than is counted as printed. -/
structure Tallies (word : List Byte) (Invariant : State → Prop)
    (taken printed : State → Input → Nat) : Prop where
  preserved : ∀ state input, Invariant state →
    Invariant (machine.step state input)
  cut : ∀ state input,
    taken state input ≤ occurrences word (wire.taken state input)
  ends : ∀ state input, Invariant state → Ends word (wire.printed state input)
  prints : ∀ state input, Invariant state →
    occurrences word (wire.printed state input) ≤ printed state input

variable {wire} {Invariant : State → Prop} {taken printed : State → Input → Nat}

theorem Tallies.taken_le (tallies : wire.Tallies word Invariant taken printed)
    (state : State) (inputs : List Input) :
    machine.total taken state inputs ≤
      occurrences word (machine.readings wire.taken state inputs) := by
  induction inputs generalizing state with
  | nil => exact Nat.le_refl 0
  | cons input inputs ih =>
      calc
        taken state input +
              machine.total taken (machine.step state input) inputs
            ≤ occurrences word (wire.taken state input) +
                occurrences word (machine.readings wire.taken
                  (machine.step state input) inputs) :=
              Nat.add_le_add (tallies.cut state input) (ih _)
        _ ≤ _ := occurrences_append_le word _ _

theorem Tallies.le_printed (tallies : wire.Tallies word Invariant taken printed)
    {state : State} (initially : Invariant state) (inputs : List Input) :
    occurrences word (machine.readings wire.printed state inputs) ≤
      machine.total printed state inputs := by
  induction inputs generalizing state with
  | nil => exact Nat.le_refl 0
  | cons input inputs ih =>
      calc
        occurrences word (wire.printed state input ++
              machine.readings wire.printed (machine.step state input) inputs)
            = occurrences word (wire.printed state input) +
                occurrences word (machine.readings wire.printed
                  (machine.step state input) inputs) :=
              (tallies.ends state input initially).occurrences_append _
        _ ≤ _ := Nat.add_le_add (tallies.prints state input initially)
              (ih (tallies.preserved state input initially))

/-- A word is taken at most as often as it was printed, however the link cuts
and joins the texts. -/
theorem Tallies.at_most_once
    (tallies : wire.Tallies word Invariant taken printed) {state : State}
    (initially : Invariant state) (start : Foreign word (wire.stream state))
    (inputs : List Input) :
    machine.total taken state inputs ≤ machine.total printed state inputs := by
  have whole := congrArg (occurrences word) (wire.conserved state inputs)
  rw [start.ends.occurrences_append, start.absent, Nat.zero_add] at whole
  calc
    machine.total taken state inputs
        ≤ occurrences word (machine.readings wire.taken state inputs) :=
          tallies.taken_le state inputs
    _ ≤ occurrences word (machine.readings wire.taken state inputs ++
          wire.stream (machine.run state inputs)) :=
          Nat.le_of_add_right_le (occurrences_append_le word _ _)
    _ = occurrences word (machine.readings wire.printed state inputs) := whole
    _ ≤ machine.total printed state inputs :=
          tallies.le_printed initially inputs

end Words

section Patience

/-- The text, if there is one. -/
def piece (text : List Byte) : List (List Byte) :=
  if text = [] then [] else [text]

/-- A step prints only when nothing is in transit, and takes nothing before all
of it has arrived. -/
def Patient (state : State) (input : Input) : Prop :=
  (wire.printed state input = [] ∨ wire.stream state = []) ∧
    (wire.taken state input = [] ∨
      wire.stream (machine.step state input) = [])

instance (state : State) (input : Input) :
    Decidable (wire.Patient state input) :=
  inferInstanceAs (Decidable ((_ ∨ _) ∧ (_ ∨ _)))

variable {wire}

theorem Patient.pieces {state : State} {input : Input}
    (patient : wire.Patient state input) :
    piece (wire.taken state input) ++
        piece (wire.stream (machine.step state input)) =
      piece (wire.stream state) ++ piece (wire.printed state input) := by
  have whole := wire.conserves state input
  rcases patient with ⟨silent | idle, untouched | drained⟩
  · rw [silent, untouched, List.nil_append, List.append_nil] at whole
    rw [silent, untouched, whole]
    exact (List.append_nil _).symm
  · rw [silent, drained, List.append_nil, List.append_nil] at whole
    rw [silent, drained, whole]
  · rw [idle, untouched, List.nil_append, List.nil_append] at whole
    rw [idle, untouched, whole]
  · rw [idle, drained, List.nil_append, List.append_nil] at whole
    rw [idle, drained, whole]
    exact List.append_nil _

/-- On a link which is used with patience the texts are taken one by one, as they
were printed; the last one may still be in transit. -/
theorem delivered {state : State} {inputs : List Input}
    (patient : machine.Along wire.Patient state inputs) :
    machine.readings (fun state input => piece (wire.taken state input)) state
          inputs ++ piece (wire.stream (machine.run state inputs)) =
      piece (wire.stream state) ++
        machine.readings (fun state input => piece (wire.printed state input))
          state inputs := by
  induction inputs generalizing state with
  | nil => exact (List.append_nil _).symm
  | cons input inputs ih =>
      obtain ⟨here, later⟩ := patient
      calc
        piece (wire.taken state input) ++ machine.readings _
                (machine.step state input) inputs ++
              piece (wire.stream (machine.run (machine.step state input)
                inputs))
            = piece (wire.taken state input) ++
                (piece (wire.stream (machine.step state input)) ++
                  machine.readings _ (machine.step state input) inputs) := by
              rw [List.append_assoc, ih later]
        _ = piece (wire.stream state) ++ (piece (wire.printed state input) ++
              machine.readings _ (machine.step state input) inputs) := by
              rw [← List.append_assoc, here.pieces, List.append_assoc]

end Patience

section Commands

variable [DecidableEq Byte] {process : List Byte → List Byte}
variable {commands : List (List Byte)}

/-- The command which a text is once it is processed, if it is one. -/
def ordered (process : List Byte → List Byte) (commands : List (List Byte))
    (text : List Byte) : List (List Byte) :=
  if process text ∈ commands then [process text] else []

theorem filter_map_process (texts : List (List Byte)) :
    (texts.map process).filter (· ∈ commands) =
      texts.flatMap (ordered process commands) := by
  induction texts with
  | nil => rfl
  | cons text texts ih =>
      rw [List.map_cons, List.filter_cons, ih, List.flatMap_cons, ordered]
      by_cases member : process text ∈ commands
      · rw [if_pos (decide_eq_true member), if_pos member]
        rfl
      · rw [if_neg (by simpa using member), if_neg member]
        rfl

theorem flatMap_piece (silent : ordered process commands [] = [])
    (text : List Byte) :
    (piece text).flatMap (ordered process commands) =
      ordered process commands text := by
  unfold piece
  split
  · rename_i empty
    rw [empty, silent]
    rfl
  · exact List.append_nil _

/-- A word which is cut out of what is taken occurs in it. -/
theorem count_process_le (cuts : ∀ text, process text <:+: text)
    {word : List Byte} (nonempty : word ≠ []) (text : List Byte) :
    ((piece text).map process).count word ≤ occurrences word text := by
  unfold piece
  split
  · exact Nat.zero_le _
  · rw [List.map_singleton, List.count_singleton]
    split
    · rename_i cut
      have same : process text = word := by simpa using cut
      exact occurrences_pos nonempty (same ▸ cuts text)
    · exact Nat.zero_le _

/-- On a link which is used with patience, a reader which handles what it takes
handles the commands which are requested, in order; the last one may still be in
transit. -/
theorem handled_in_order {wire : Wire machine Byte}
    {handled : State → Input → List (List Byte)} {requested : Input → Option (List Byte)}
    {Allowed : Input → Prop} (silent : ordered process commands [] = [])
    (handles : ∀ state input,
      handled state input = (piece (wire.taken state input)).map process)
    (prints : ∀ state input, Allowed input →
      ordered process commands (wire.printed state input) =
        (requested input).toList)
    {state : State} (start : ordered process commands (wire.stream state) = [])
    {inputs : List Input} (patient : machine.Along wire.Patient state inputs)
    (allowed : ∀ input ∈ inputs, Allowed input) :
    (machine.readings handled state inputs).filter (· ∈ commands) ++
        ordered process commands (wire.stream (machine.run state inputs)) =
      inputs.filterMap requested := by
  have taken : machine.readings handled state inputs = (machine.readings
      (fun state input => piece (wire.taken state input)) state inputs).map
        process := by
    have whole := machine.map_readings process
      (fun state input => piece (wire.taken state input)) state inputs
    rw [whole]
    congr 1
    funext state input
    exact handles state input
  have delivered := congrArg (List.flatMap (ordered process commands))
    (delivered patient)
  rw [List.flatMap_append, List.flatMap_append, flatMap_piece silent,
    flatMap_piece silent, start, List.nil_append] at delivered
  rw [taken, filter_map_process, delivered]
  refine machine.readings_flatMap (fun state input allowed => ?_) state allowed
  rw [flatMap_piece silent]
  exact prints state input allowed

end Commands

end Wire

/-! ## The links of two machines -/

namespace Linked

variable {First FirstInput FirstEvent FirstOutside : Type*}
variable {Second SecondInput SecondEvent SecondOutside Byte : Type*}
variable (left : Endpoint First FirstInput FirstEvent FirstOutside Byte)
variable (right : Endpoint Second SecondInput SecondEvent SecondOutside Byte)

/-- What a step forgets of what it had read. -/
def forgotten (whole kept : List Byte) : List Byte :=
  whole.take (whole.length - kept.length)

theorem forgotten_append {whole kept : List Byte} (suffix : kept <:+ whole) :
    forgotten whole kept ++ kept = whole :=
  List.suffix_iff_eq_append.mp suffix

/-- The link on which the second machine reads what the first one prints. -/
def onwardWire (buffer : Second → List Byte)
    (kept : ∀ state input, buffer (right.machine.step state input) <:+
      buffer state ++ (right.poll state input).getD []) :
    Wire (machine left right) Byte where
  stream := stream buffer
  printed linked
    | .first outside arrived =>
        (left.machine.emit linked.first
          (linked.firstInput left outside arrived)).flatMap left.bytes
    | .second _ _ => []
  taken linked
    | .first _ _ => []
    | .second outside arrived =>
        let input := linked.secondInput right outside arrived
        forgotten (buffer linked.second ++
            (right.poll linked.second input).getD [])
          (buffer (right.machine.step linked.second input))
  conserves linked move := by
    cases move with
    | first outside arrived =>
        exact (List.append_assoc (buffer linked.second) linked.onward _).symm
    | second outside arrived =>
        let input := linked.secondInput right outside arrived
        calc
          _ = forgotten _ _ ++ (buffer (right.machine.step linked.second input) ++
                linked.onward.drop
                  ((right.poll linked.second input).getD []).length) :=
              rfl
          _ = buffer linked.second ++ ((right.poll linked.second input).getD [] ++
                linked.onward.drop
                  ((right.poll linked.second input).getD []).length) := by
              rw [← List.append_assoc, forgotten_append (kept _ _),
                List.append_assoc]
          _ = linked.stream buffer ++ [] := by
              rw [linked.read_append_drop right outside arrived, stream,
                List.append_nil]

/-- What a step of the first machine reads is the beginning of what is on its way
back. -/
theorem back_append_drop (linked : Linked First Second Byte)
    (outside : FirstOutside) (arrived : Nat) :
    let read := (left.poll linked.first
      (linked.firstInput left outside arrived)).getD []
    read ++ linked.back.drop read.length = linked.back := by
  rcases left.poll_sample linked.first outside (linked.back.take arrived)
    with silent | found
  · rw [firstInput, silent]
    rfl
  · rw [firstInput, found, Option.getD_some]
    dsimp only
    rw [List.length_take]
    rcases Nat.le_total arrived linked.back.length with some | all
    · rw [Nat.min_eq_left some, List.take_append_drop]
    · rw [Nat.min_eq_right all, List.take_of_length_le all, List.drop_length,
        List.append_nil]

/-- The link on which the first machine reads what the second one prints. -/
def backWire (buffer : First → List Byte)
    (kept : ∀ state input, buffer (left.machine.step state input) <:+
      buffer state ++ (left.poll state input).getD []) :
    Wire (machine left right) Byte where
  stream linked := buffer linked.first ++ linked.back
  printed linked
    | .first _ _ => []
    | .second outside arrived =>
        (right.machine.emit linked.second
          (linked.secondInput right outside arrived)).flatMap right.bytes
  taken linked
    | .first outside arrived =>
        let input := linked.firstInput left outside arrived
        forgotten (buffer linked.first ++
            (left.poll linked.first input).getD [])
          (buffer (left.machine.step linked.first input))
    | .second _ _ => []
  conserves linked move := by
    cases move with
    | second outside arrived =>
        exact (List.append_assoc (buffer linked.first) linked.back _).symm
    | first outside arrived =>
        let input := linked.firstInput left outside arrived
        calc
          _ = forgotten _ _ ++ (buffer (left.machine.step linked.first input) ++
                linked.back.drop
                  ((left.poll linked.first input).getD []).length) :=
              rfl
          _ = buffer linked.first ++ ((left.poll linked.first input).getD [] ++
                linked.back.drop
                  ((left.poll linked.first input).getD []).length) := by
              rw [← List.append_assoc, forgotten_append (kept _ _),
                List.append_assoc]
          _ = (buffer linked.first ++ linked.back) ++ [] := by
              rw [linked.back_append_drop left outside arrived, List.append_nil]

end Linked

/-! ## Receivers -/

namespace IdleReceiver

variable {State Input Event Byte Report : Type*}
variable {machine : MealyMachine State Input Event}
variable {receiver : State → IdleReceiver Byte}
variable {poll : State → Input → Option (List Byte)}
variable {dispatched : Event → Option Report} {process : List Byte → Report}
variable {width limit : Nat} {Allowed : Input → Prop}

/-- What a step dispatches is what it takes out of the buffer. -/
theorem Polls.pieces
    (polls : Polls machine receiver poll dispatched process width limit Allowed)
    (state : State) {input : Input} (allowed : Allowed input) :
    (machine.emit state input).filterMap dispatched =
      (Wire.piece (Linked.forgotten
        ((receiver state).incomingData ++ (poll state input).getD [])
        (receiver (machine.step state input)).incomingData)).map process := by
  have here := polls state input allowed
  cases found : poll state input with
  | none =>
      rw [found] at here
      rw [here.1, here.2]
      simp [Linked.forgotten, Wire.piece]
  | some chunk =>
      rw [found] at here
      obtain ⟨moved, single⟩ := here
      have received := receive_incomingData width chunk (receiver state)
      dsimp only [dispatcher, IdleReceiver.machine] at moved single
      rw [List.map_singleton] at single
      rw [(List.cons.inj single).1, moved, Option.getD_some, ← received]
      split
      · rename_i complete
        have nonempty : ((receiver state).receive width chunk).incomingData ≠
            [] := by
          intro empty
          simp [IdleReceiver.complete, empty] at complete
        simp [Linked.forgotten, Wire.piece, clear, nonempty]
      · simp [Linked.forgotten, Wire.piece]

end IdleReceiver

end Salsipuedes

import Mathlib
import Salsipuedes.MealyMachine

/-!
# Framing a byte stream by idle polls

A link without delimiters can still carry messages if the receiver closes a
message after enough polls in which nothing arrived.  The receiver counts the
polls since the last byte in a machine integer which overflows while the link
is silent.  This file defines that receiver and proves that any list of
messages is recovered, however each one is cut into chunks, as long as the
gaps inside a message are shorter than the limit and the gaps after it are not.
-/

namespace Salsipuedes

/-- The buffer of a receiver and its count of polls since the last byte. -/
structure IdleReceiver (Byte : Type*) where
  incomingData : List Byte
  lastCharTime : Int
  deriving DecidableEq

namespace IdleReceiver

variable {Byte : Type*}

/-- Read the bytes which are available and count the poll, in an integer of
`width` bits. -/
def receive (width : Nat) (chunk : List Byte)
    (receiver : IdleReceiver Byte) : IdleReceiver Byte :=
  let receiver := chunk.foldl
    (fun receiver byte =>
      { incomingData := receiver.incomingData ++ [byte], lastCharTime := 0 })
    receiver
  { receiver with
    lastCharTime := (receiver.lastCharTime + 1).bmod (2 ^ width) }

/-- Something was received and the link has been silent for long enough. -/
def complete (limit : Nat) (receiver : IdleReceiver Byte) : Bool :=
  !receiver.incomingData.isEmpty && limit < receiver.lastCharTime

def clear (receiver : IdleReceiver Byte) : IdleReceiver Byte :=
  { receiver with incomingData := [] }

/-- The receiver as a machine which reads the chunk available at each poll and
emits whether, and with which message, the poll closes a frame. -/
def machine (Byte : Type*) (width limit : Nat) :
    MealyMachine (IdleReceiver Byte) (List Byte) (Option (List Byte)) where
  step receiver chunk :=
    let receiver := receiver.receive width chunk
    if receiver.complete limit then receiver.clear else receiver
  emit receiver chunk :=
    let receiver := receiver.receive width chunk
    [if receiver.complete limit then some receiver.incomingData else none]

@[simp]
theorem receive_nil (width : Nat) (receiver : IdleReceiver Byte) :
    receiver.receive width [] =
      ⟨receiver.incomingData,
        (receiver.lastCharTime + 1).bmod (2 ^ width)⟩ :=
  rfl

theorem receive_incomingData (width : Nat) (chunk : List Byte)
    (receiver : IdleReceiver Byte) :
    (receiver.receive width chunk).incomingData =
      receiver.incomingData ++ chunk := by
  unfold receive
  dsimp only
  induction chunk generalizing receiver with
  | nil => simp
  | cons byte chunk ih =>
      rw [List.foldl_cons, ih, List.append_assoc]
      rfl

theorem receive_of_ne_nil (width : Nat) (wide : 2 < 2 ^ width)
    (receiver : IdleReceiver Byte) {chunk : List Byte}
    (nonempty : chunk ≠ []) :
    receiver.receive width chunk = ⟨receiver.incomingData ++ chunk, 1⟩ := by
  have folded : ∀ (bytes : List Byte) (before : IdleReceiver Byte), bytes ≠ [] →
      bytes.foldl
        (fun receiver byte =>
          { incomingData := receiver.incomingData ++ [byte], lastCharTime := 0 })
        before = ⟨before.incomingData ++ bytes, 0⟩ := by
    intro bytes
    induction bytes with
    | nil => simp
    | cons byte bytes ih =>
        intro before _
        by_cases last : bytes = []
        · simp [last]
        · rw [List.foldl_cons, ih _ last]
          simp
  have one : Int.bmod 1 (2 ^ width) = 1 := by
    apply Int.bmod_eq_of_le <;> omega
  simp [receive, folded chunk receiver nonempty, one]

section Frames

variable {width limit : Nat}

/-- An empty poll on a buffer which is not yet due. -/
theorem step_nil_of_early (wide : 2 * (limit + 1) < 2 ^ width)
    (data : List Byte) (idle : Nat) (early : idle < limit) :
    (machine Byte width limit).step ⟨data, idle⟩ [] = ⟨data, idle + 1⟩ ∧
      (machine Byte width limit).emit ⟨data, idle⟩ [] = [none] := by
  have counted : ((idle : Int) + 1).bmod (2 ^ width) = idle + 1 := by
    apply Int.bmod_eq_of_le <;> omega
  have notDue : complete limit (⟨data, idle + 1⟩ : IdleReceiver Byte) = false := by
    simp [complete]
    omega
  constructor <;> simp [machine, counted, notDue]

/-- Empty polls which do not yet complete the message only count. -/
theorem empty_polls (wide : 2 * (limit + 1) < 2 ^ width) (data : List Byte)
    (count idle : Nat) (early : idle + count ≤ limit) :
    (machine Byte width limit).run ⟨data, idle⟩ (List.replicate count []) =
        ⟨data, (idle + count : Nat)⟩ ∧
      (machine Byte width limit).trace ⟨data, idle⟩ (List.replicate count []) =
        List.replicate count none := by
  induction count generalizing idle with
  | zero => simp
  | succ count ih =>
      obtain ⟨stepped, emitted⟩ :=
        step_nil_of_early wide data idle (by omega)
      obtain ⟨runs, traces⟩ := ih (idle + 1) (by omega)
      rw [List.replicate_succ, MealyMachine.run_cons, MealyMachine.trace_cons,
        stepped, emitted]
      push_cast at runs traces ⊢
      refine ⟨?_, by rw [traces]; rfl⟩
      rw [runs]
      congr 1
      omega

/-- While nothing has been received the counter may wrap around: no poll
closes a frame. -/
theorem silent_polls (Byte : Type*) (width limit count : Nat) (idle : Int) :
    ∃ later : Int,
      (machine Byte width limit).run ⟨[], idle⟩ (List.replicate count []) =
          ⟨[], later⟩ ∧
        (machine Byte width limit).trace ⟨[], idle⟩ (List.replicate count []) =
          List.replicate count none := by
  induction count generalizing idle with
  | zero => exact ⟨idle, by simp⟩
  | succ count ih =>
      obtain ⟨later, runs, traces⟩ := ih ((idle + 1).bmod (2 ^ width))
      refine ⟨later, ?_, ?_⟩
      · simpa [List.replicate_succ, machine, complete] using runs
      · simpa [List.replicate_succ, machine, complete] using traces

theorem chunk_poll (wide : 2 * (limit + 1) < 2 ^ width) (positive : 0 < limit)
    (data : List Byte) (idle : Int) {chunk : List Byte}
    (nonempty : chunk ≠ []) :
    (machine Byte width limit).step ⟨data, idle⟩ chunk = ⟨data ++ chunk, 1⟩ ∧
      (machine Byte width limit).emit ⟨data, idle⟩ chunk = [none] := by
  have received := receive_of_ne_nil width (by omega) ⟨data, idle⟩ nonempty
  have notDue :
      complete limit (⟨data ++ chunk, 1⟩ : IdleReceiver Byte) = false := by
    simp [complete]
    omega
  constructor <;> simp [machine, received, notDue]

/-- The poll which completes a message. -/
theorem closing_poll (wide : 2 * (limit + 1) < 2 ^ width) {data : List Byte}
    (nonempty : data ≠ []) :
    (machine Byte width limit).step ⟨data, limit⟩ [] = ⟨[], limit + 1⟩ ∧
      (machine Byte width limit).emit ⟨data, limit⟩ [] = [some data] := by
  have counted : ((limit : Int) + 1).bmod (2 ^ width) = limit + 1 := by
    apply Int.bmod_eq_of_le <;> omega
  have due :
      complete limit (⟨data, limit + 1⟩ : IdleReceiver Byte) = true := by
    simp [complete, nonempty]
  constructor <;> simp [machine, counted, due, clear]

end Frames

end IdleReceiver

/-- One message on its way to a receiver: the polls which find a chunk of it,
the empty polls between them, and the empty polls after it. -/
structure Delivery (Byte : Type*) (limit : Nat) where
  first : List Byte
  rest : List (Nat × List Byte)
  quiet : Nat
  first_ne_nil : first ≠ []
  rest_ne_nil : ∀ piece ∈ rest, piece.2 ≠ []
  gap_lt : ∀ piece ∈ rest, piece.1 < limit
  limit_le : limit ≤ quiet

namespace Delivery

variable {Byte : Type*} {limit : Nat}

def message (delivery : Delivery Byte limit) : List Byte :=
  delivery.first ++ delivery.rest.flatMap Prod.snd

/-- What the receiver finds at each poll after the first chunk. -/
def laterPolls (rest : List (Nat × List Byte)) : List (List Byte) :=
  rest.flatMap fun piece => List.replicate piece.1 [] ++ [piece.2]

def polls (delivery : Delivery Byte limit) : List (List Byte) :=
  delivery.first :: laterPolls delivery.rest ++
    List.replicate delivery.quiet []

/-- What the receiver is to report at each of these polls: the message at the
`limit`-th empty poll after its last chunk, and nothing at any other. -/
def frames (delivery : Delivery Byte limit) : List (Option (List Byte)) :=
  List.replicate (1 + (laterPolls delivery.rest).length + (limit - 1)) none ++
    some delivery.message :: List.replicate (delivery.quiet - limit) none

theorem message_ne_nil (delivery : Delivery Byte limit) :
    delivery.message ≠ [] := by
  simp [message, delivery.first_ne_nil]

end Delivery

namespace IdleReceiver

variable {Byte : Type*} {width limit : Nat}

theorem later_polls (wide : 2 * (limit + 1) < 2 ^ width) (positive : 0 < limit)
    (rest : List (Nat × List Byte)) (rest_ne_nil : ∀ piece ∈ rest, piece.2 ≠ [])
    (gap_lt : ∀ piece ∈ rest, piece.1 < limit) (data : List Byte) :
    (machine Byte width limit).run ⟨data, 1⟩ (Delivery.laterPolls rest) =
        ⟨data ++ rest.flatMap Prod.snd, 1⟩ ∧
      (machine Byte width limit).trace ⟨data, 1⟩ (Delivery.laterPolls rest) =
        List.replicate (Delivery.laterPolls rest).length none := by
  induction rest generalizing data with
  | nil => simp [Delivery.laterPolls]
  | cons piece rest ih =>
      obtain ⟨gap, chunk⟩ := piece
      have short := gap_lt (gap, chunk) (by simp)
      have nonempty := rest_ne_nil (gap, chunk) (by simp)
      obtain ⟨gapRun, gapTrace⟩ :=
        empty_polls wide data gap 1 (by simp at short; omega)
      obtain ⟨stepped, emitted⟩ :=
        chunk_poll wide positive data ((1 + gap : Nat) : Int) nonempty
      obtain ⟨runs, traces⟩ := ih
        (fun piece member => rest_ne_nil piece (List.mem_cons_of_mem _ member))
        (fun piece member => gap_lt piece (List.mem_cons_of_mem _ member))
        (data ++ chunk)
      have split : Delivery.laterPolls ((gap, chunk) :: rest) =
          List.replicate gap [] ++ chunk :: Delivery.laterPolls rest := by
        simp [Delivery.laterPolls]
      rw [Nat.cast_one] at gapRun gapTrace
      rw [split, MealyMachine.run_append, MealyMachine.trace_append, gapRun,
        gapTrace, MealyMachine.run_cons, MealyMachine.trace_cons, stepped,
        emitted, runs, traces]
      constructor
      · simp
      · simp [← List.replicate_succ, List.replicate_append_replicate]

/-- One message is reported exactly once, at the `limit`-th empty poll after
its last chunk. -/
theorem delivery_polls (wide : 2 * (limit + 1) < 2 ^ width)
    (positive : 0 < limit) (delivery : Delivery Byte limit) (idle : Int) :
    ∃ later : Int,
      (machine Byte width limit).run ⟨[], idle⟩ delivery.polls = ⟨[], later⟩ ∧
        (machine Byte width limit).trace ⟨[], idle⟩ delivery.polls =
          delivery.frames := by
  obtain ⟨stepped, emitted⟩ :=
    chunk_poll wide positive [] idle delivery.first_ne_nil
  obtain ⟨laterRun, laterTrace⟩ := later_polls wide positive delivery.rest
    delivery.rest_ne_nil delivery.gap_lt delivery.first
  obtain ⟨waitRun, waitTrace⟩ := empty_polls wide delivery.message (limit - 1) 1
    (by omega)
  obtain ⟨closed, reported⟩ := closing_poll wide delivery.message_ne_nil
  obtain ⟨later, quietRun, quietTrace⟩ :=
    silent_polls Byte width limit (delivery.quiet - limit) (limit + 1)
  have quiet : List.replicate delivery.quiet ([] : List Byte) =
      List.replicate (limit - 1) [] ++ [] ::
        List.replicate (delivery.quiet - limit) [] := by
    rw [← List.replicate_succ, ← List.replicate_add]
    have := delivery.limit_le
    congr 1
    omega
  have due : 1 + (limit - 1) = limit := by omega
  rw [due] at waitRun
  refine ⟨later, ?_, ?_⟩
  · simp only [Delivery.polls, quiet, List.cons_append, MealyMachine.run_cons,
      MealyMachine.run_append, stepped, List.nil_append, laterRun]
    rw [show delivery.first ++ delivery.rest.flatMap Prod.snd =
      delivery.message from rfl, ← Nat.cast_one, waitRun, closed, quietRun]
  · simp only [Delivery.polls, quiet, List.cons_append, MealyMachine.trace_cons,
      MealyMachine.trace_append, stepped, emitted, List.nil_append, laterRun,
      laterTrace]
    rw [show delivery.first ++ delivery.rest.flatMap Prod.snd =
      delivery.message from rfl, ← Nat.cast_one, waitRun, waitTrace, closed,
      reported, quietTrace]
    simp only [Delivery.frames, List.replicate_add, List.replicate_one,
      List.append_assoc]
    rfl

/-- Every list of messages is recovered, in order, whatever the counter was
when the first one began. -/
theorem deliveries_polls (wide : 2 * (limit + 1) < 2 ^ width)
    (positive : 0 < limit) (lead : Nat)
    (deliveries : List (Delivery Byte limit)) (idle : Int) :
    ∃ later : Int,
      (machine Byte width limit).run ⟨[], idle⟩
          (List.replicate lead [] ++ deliveries.flatMap Delivery.polls) =
            ⟨[], later⟩ ∧
        (machine Byte width limit).trace ⟨[], idle⟩
          (List.replicate lead [] ++ deliveries.flatMap Delivery.polls) =
            List.replicate lead none ++
              deliveries.flatMap Delivery.frames := by
  obtain ⟨start, leadRun, leadTrace⟩ :=
    silent_polls Byte width limit lead idle
  rw [MealyMachine.run_append, MealyMachine.trace_append, leadRun, leadTrace]
  clear leadRun leadTrace
  induction deliveries generalizing start with
  | nil => exact ⟨start, by simp⟩
  | cons delivery deliveries ih =>
      obtain ⟨between, runs, traces⟩ :=
        delivery_polls wide positive delivery start
      obtain ⟨later, restRun, restTrace⟩ := ih between
      refine ⟨later, ?_, ?_⟩
      · rw [List.flatMap_cons, MealyMachine.run_append, runs, restRun]
      · rw [List.flatMap_cons, MealyMachine.trace_append, runs, traces]
        rw [List.append_cancel_left_eq] at restTrace ⊢
        rw [restTrace, List.flatMap_cons]

end IdleReceiver

namespace Delivery

variable {Byte Report : Type*} {limit : Nat}

/-- What is to be processed at each poll of a delivery. -/
def processed (process : List Byte → Report) (delivery : Delivery Byte limit) :
    List (List Report) :=
  delivery.frames.map fun frame => (frame.map process).toList

end Delivery

namespace IdleReceiver

variable {Byte : Type*} {width limit : Nat}

section Dispatch

variable {Report : Type*} (process : List Byte → Report)

/-- A receiver which processes each complete message: it emits what it has
processed at each poll. -/
def dispatcher (width limit : Nat) :
    MealyMachine (IdleReceiver Byte) (List Byte) (List Report) where
  step := (machine Byte width limit).step
  emit receiver chunk :=
    ((machine Byte width limit).emit receiver chunk).map fun frame =>
      (frame.map process).toList

theorem trace_dispatcher (receiver : IdleReceiver Byte)
    (polls : List (List Byte)) :
    (dispatcher process width limit).trace receiver polls =
      ((machine Byte width limit).trace receiver polls).map fun frame =>
        (frame.map process).toList := by
  induction polls generalizing receiver with
  | nil => rfl
  | cons chunk polls ih =>
      rw [MealyMachine.trace_cons, MealyMachine.trace_cons, List.map_append]
      exact congrArg _ (ih _)

/-- Every list of messages is processed, in order, each at the `limit`-th empty
poll after its last chunk. -/
theorem dispatches (wide : 2 * (limit + 1) < 2 ^ width) (positive : 0 < limit)
    (lead : Nat) (deliveries : List (Delivery Byte limit)) (idle : Int) :
    ∃ later : Int,
      (dispatcher process width limit).run ⟨[], idle⟩
          (List.replicate lead [] ++ deliveries.flatMap Delivery.polls) =
            ⟨[], later⟩ ∧
        (dispatcher process width limit).trace ⟨[], idle⟩
          (List.replicate lead [] ++ deliveries.flatMap Delivery.polls) =
            List.replicate lead [] ++
              deliveries.flatMap (Delivery.processed process) := by
  obtain ⟨later, runs, traces⟩ :=
    deliveries_polls wide positive lead deliveries idle
  refine ⟨later, runs, ?_⟩
  rw [trace_dispatcher, traces, List.map_append, List.map_replicate,
    List.map_flatMap]
  rfl

end Dispatch

section Machines

variable {State Input Event Report : Type*}
variable (machine : MealyMachine State Input Event)
variable (receiver : State → IdleReceiver Byte)
variable (poll : State → Input → Option (List Byte))
variable (dispatched : Event → Option Report)

/-- What a step dispatches, if it polls the link. -/
def reports (state : State) (input : Input) : List (List Report) :=
  (poll state input).toList.map fun _ =>
    (machine.emit state input).filterMap dispatched

/-- The machine has a receiver: a step which polls the link moves the receiver,
and dispatches what it completes, and any other step leaves the receiver alone
and dispatches nothing. -/
def Polls (process : List Byte → Report) (width limit : Nat)
    (Allowed : Input → Prop) : Prop :=
  ∀ state input, Allowed input →
    match poll state input with
    | some chunk =>
        receiver (machine.step state input) =
            (dispatcher process width limit).step (receiver state) chunk ∧
          [(machine.emit state input).filterMap dispatched] =
            (dispatcher process width limit).emit (receiver state) chunk
    | none =>
        receiver (machine.step state input) = receiver state ∧
          (machine.emit state input).filterMap dispatched = []

/-- Whatever the idle counter of an empty receiver is, a run which finds the
polls of a list of messages processes each of them once, in order, at the
`limit`-th empty poll after its last chunk, and leaves the receiver empty. -/
def Recovers (process : List Byte → Report) (limit : Nat)
    (Allowed : Input → Prop) : Prop :=
  ∀ (state : State) (inputs : List Input) (lead : Nat)
    (deliveries : List (Delivery Byte limit)),
    (receiver state).incomingData = [] →
    (∀ input ∈ inputs, Allowed input) →
    machine.readings (fun state input => (poll state input).toList) state
        inputs =
      List.replicate lead [] ++ deliveries.flatMap Delivery.polls →
    (receiver (machine.run state inputs)).incomingData = [] ∧
      (machine.reporting (reports machine poll dispatched)).trace state inputs =
        List.replicate lead [] ++
          deliveries.flatMap (Delivery.processed process) ∧
      (machine.trace state inputs).filterMap dispatched =
        deliveries.map fun delivery => process delivery.message

variable {machine receiver poll dispatched}
variable {process : List Byte → Report} {Allowed : Input → Prop}

theorem Polls.embeds
    (polls : Polls machine receiver poll dispatched process width limit
      Allowed) :
    machine.Embeds (dispatcher process width limit) receiver
      (fun state input => (poll state input).toList)
      (reports machine poll dispatched) Allowed := by
  intro state input allowed
  have here := polls state input allowed
  dsimp only [reports]
  cases found : poll state input with
  | none =>
      rw [found] at here
      exact ⟨here.1, rfl⟩
  | some chunk =>
      rw [found] at here
      refine ⟨here.1, ?_⟩
      simpa using here.2

/-- Everything that a run dispatches, it dispatches at a poll. -/
theorem Polls.flatten_reports
    (polls : Polls machine receiver poll dispatched process width limit Allowed)
    (state : State) {inputs : List Input}
    (allowed : ∀ input ∈ inputs, Allowed input) :
    ((machine.reporting (reports machine poll dispatched)).trace state
        inputs).flatten =
      (machine.trace state inputs).filterMap dispatched := by
  induction inputs generalizing state with
  | nil => rfl
  | cons input inputs ih =>
      have here := polls state input (allowed input (by simp))
      have later := ih (machine.step state input) fun other member =>
        allowed other (List.mem_cons_of_mem _ member)
      have flat : (reports machine poll dispatched state input).flatten =
          (machine.emit state input).filterMap dispatched := by
        unfold reports
        cases found : poll state input with
        | none =>
            rw [found] at here
            exact here.2.symm
        | some chunk => simp
      rw [MealyMachine.trace_cons, MealyMachine.trace_cons, List.flatten_append,
        List.filterMap_append, ← later]
      exact congrArg (· ++ _) flat

/-- What is left in the buffer is a suffix of what was read. -/
theorem Polls.incomingData_suffix
    (polls : Polls machine receiver poll dispatched process width limit Allowed)
    (state : State) {input : Input} (allowed : Allowed input) :
    (receiver (machine.step state input)).incomingData <:+
      (receiver state).incomingData ++ (poll state input).getD [] := by
  have here := polls state input allowed
  cases found : poll state input with
  | none =>
      rw [found] at here
      rw [here.1, Option.getD_none, List.append_nil]
  | some chunk =>
      rw [found] at here
      rw [here.1, Option.getD_some, ← receive_incomingData width]
      dsimp only [dispatcher, IdleReceiver.machine]
      split
      · exact List.nil_suffix
      · exact List.suffix_refl _

/-- What is dispatched is what was read. -/
theorem Polls.dispatched_eq
    (polls : Polls machine receiver poll dispatched process width limit Allowed)
    {state : State} {input : Input} (allowed : Allowed input) {report : Report}
    (member : report ∈ (machine.emit state input).filterMap dispatched) :
    report = process
      ((receiver state).incomingData ++ (poll state input).getD []) := by
  have here := polls state input allowed
  cases found : poll state input with
  | none =>
      rw [found] at here
      rw [here.2] at member
      exact absurd member List.not_mem_nil
  | some chunk =>
      rw [found] at here
      have single := here.2
      dsimp only [dispatcher, IdleReceiver.machine] at single
      rw [List.map_singleton] at single
      rw [(List.cons.inj single).1] at member
      rw [Option.getD_some, ← receive_incomingData width]
      split at member
      · simpa using member
      · simp at member

theorem Polls.recovers
    (polls : Polls machine receiver poll dispatched process width limit Allowed)
    (wide : 2 * (limit + 1) < 2 ^ width) (positive : 0 < limit) :
    Recovers machine receiver poll dispatched process limit Allowed := by
  intro state inputs lead deliveries empty allowed found
  have start : receiver state = ⟨[], (receiver state).lastCharTime⟩ := by
    rw [← empty]
  obtain ⟨moved, reported⟩ := polls.embeds.run state allowed
  obtain ⟨later, runs, traces⟩ := dispatches process wide positive lead
    deliveries (receiver state).lastCharTime
  rw [found, start] at moved reported
  rw [runs] at moved
  rw [traces] at reported
  refine ⟨by rw [moved], reported, ?_⟩
  have flat (delivery : Delivery Byte limit) :
      (delivery.processed process).flatten = [process delivery.message] := by
    simp [Delivery.processed, Delivery.frames]
  rw [← polls.flatten_reports state allowed, reported, List.flatten_append,
    List.flatten_replicate_nil, List.nil_append]
  clear found runs traces reported
  induction deliveries with
  | nil => rfl
  | cons delivery deliveries ih =>
      rw [List.flatMap_cons, List.flatten_append, ih, flat]
      rfl

/-- The receiver holds some data, and has counted no more polls since their last
byte than the limit. -/
def Holds (limit : Nat) (data : List Byte) (receiver : IdleReceiver Byte) : Prop :=
  ∃ idle : Nat, idle ≤ limit ∧ receiver = ⟨data, idle⟩

/-- A receiver which holds something has not counted too far. -/
theorem step_holds (wide : 2 * (limit + 1) < 2 ^ width) (positive : 0 < limit)
    {receiver : IdleReceiver Byte} (chunk : List Byte)
    (holds : receiver.incomingData = [] ∨ ∃ data, receiver.Holds limit data) :
    let next := (IdleReceiver.machine Byte width limit).step receiver chunk
    next.incomingData = [] ∨ ∃ data, next.Holds limit data := by
  obtain ⟨before, idle⟩ := receiver
  dsimp only
  by_cases more : chunk = []
  · subst more
    rcases holds with empty | ⟨data, count, early, equal⟩
    · obtain rfl : before = [] := empty
      exact .inl (by simp [IdleReceiver.machine, complete])
    · rw [equal]
      rcases Nat.lt_or_eq_of_le early with early | rfl
      · rw [(step_nil_of_early wide data count early).1]
        exact .inr ⟨data, count + 1, early, rfl⟩
      · by_cases empty : data = []
        · subst empty
          exact .inl (by simp [IdleReceiver.machine, complete])
        · rw [(closing_poll wide empty).1]
          exact .inl rfl
  · rw [(chunk_poll wide positive before idle more).1]
    exact .inr ⟨before ++ chunk, 1, positive, rfl⟩

/-- A receiver which starts empty never counts too far with something in it. -/
theorem Polls.run_holds
    (polls : Polls machine receiver poll dispatched process width limit Allowed)
    (wide : 2 * (limit + 1) < 2 ^ width) (positive : 0 < limit) {state : State}
    (holds : (receiver state).incomingData = [] ∨
      ∃ data, (receiver state).Holds limit data)
    {inputs : List Input} (allowed : ∀ input ∈ inputs, Allowed input) :
    (receiver (machine.run state inputs)).incomingData = [] ∨
      ∃ data, (receiver (machine.run state inputs)).Holds limit data := by
  induction inputs generalizing state with
  | nil => exact holds
  | cons input inputs ih =>
      have later : ∀ other ∈ inputs, Allowed other := fun other member =>
        allowed other (List.mem_cons_of_mem _ member)
      refine ih ?_ later
      have here := polls state input (allowed input List.mem_cons_self)
      cases found : poll state input with
      | none =>
          rw [found] at here
          rw [here.1]
          exact holds
      | some chunk =>
          rw [found] at here
          rw [here.1]
          exact step_holds wide positive chunk holds

/-- A machine which makes a bounded number of steps of a kind between two polls
processes what it holds within a bounded number of such steps, if nothing more
comes. -/
theorem Polls.answers
    (polls : Polls machine receiver poll dispatched process width limit Allowed)
    (wide : 2 * (limit + 1) < 2 ^ width) {Invariant : State → Prop}
    {kind : State → Bool} (rank : State → Nat) (bound : Nat)
    (preserved : ∀ state input, Allowed input → Invariant state →
      Invariant (machine.step state input))
    (bounded : ∀ state, Invariant state → rank state ≤ bound)
    (lowers : ∀ state input, Allowed input → Invariant state →
      poll state input = none →
      rank (machine.step state input) + (kind state).toNat ≤ rank state)
    {state : State} (initially : Invariant state) {data : List Byte}
    (nonempty : data ≠ []) (holds : (receiver state).Holds limit data)
    {inputs : List Input}
    (quiet : machine.Along (fun state input =>
      Allowed input ∧ (poll state input).getD [] = []) state inputs)
    (long : (limit + 1) * (bound + 1) ≤ machine.visits kind state inputs) :
    ∃ first input rest, inputs = first ++ input :: rest ∧
      (machine.emit (machine.run state first) input).filterMap dispatched =
        [process data] := by
  -- Each poll before the last one costs a whole stretch between two polls.
  let far (state : State) : Nat :=
    (limit - (receiver state).lastCharTime.toNat) * (bound + 1) + rank state
  have polled : ∀ state input,
      (Allowed input ∧ (poll state input).getD [] = []) →
      Invariant state ∧ (receiver state).Holds limit data →
      (machine.emit state input).filterMap dispatched ≠ [process data] →
      (Invariant (machine.step state input) ∧
          (receiver (machine.step state input)).Holds limit data) ∧
        far (machine.step state input) + (kind state).toNat ≤ far state := by
    rintro state input ⟨allowed, silent⟩ ⟨invariant, idle, early, held⟩ waits
    have here := polls state input allowed
    have next := preserved state input allowed invariant
    cases found : poll state input with
    | none =>
        rw [found] at here
        have lower := lowers state input allowed invariant found
        refine ⟨⟨next, idle, early, here.1.trans held⟩, ?_⟩
        dsimp only [far]
        rw [here.1]
        omega
    | some chunk =>
        rw [found] at here silent
        obtain rfl : chunk = [] := silent
        rw [held] at here
        rcases Nat.lt_or_eq_of_le early with early | rfl
        · obtain ⟨counted, -⟩ := step_nil_of_early wide data idle early
          have moved : receiver (machine.step state input) = ⟨data, idle + 1⟩ :=
            here.1.trans counted
          refine ⟨⟨next, idle + 1, early, moved⟩, ?_⟩
          have stretch := bounded _ next
          have single := Bool.toNat_le (kind state)
          obtain ⟨polls, left⟩ : ∃ polls, limit - idle = polls + 1 :=
            ⟨limit - idle - 1, by omega⟩
          have counted : ((idle : Int) + 1).toNat = idle + 1 := by omega
          have fewer : limit - (idle + 1) = polls := by omega
          dsimp only [far]
          rw [moved, held]
          dsimp only
          rw [counted, fewer, Int.toNat_natCast, left, Nat.succ_mul]
          omega
        · have closed := here.2
          have emitted := (closing_poll wide nonempty).2
          dsimp only [dispatcher] at closed
          rw [emitted] at closed
          exact absurd (List.cons.inj closed).1 waits
  obtain ⟨idle, early, held⟩ := id holds
  have near : far state < machine.visits kind state inputs := by
    have stretch := bounded state initially
    have counted : limit - ((idle : Int)).toNat ≤ limit := Nat.sub_le _ _
    have rounds := Nat.mul_le_mul_right (bound + 1) counted
    rw [Nat.succ_mul] at long
    dsimp only [far]
    rw [held]
    dsimp only
    omega
  obtain ⟨first, input, rest, split, -, answered⟩ :=
    MealyMachine.Along.reaches_once
      (fun state input =>
        (machine.emit state input).filterMap dispatched = [process data]) far
      (fun state input guard holds short =>
        (polled state input guard holds short).1)
      (fun state input guard holds short =>
        (polled state input guard holds short).2)
      ⟨initially, holds⟩ quiet near
  exact ⟨first, input, rest, split, answered⟩

end Machines

end IdleReceiver

end Salsipuedes

import Salsipuedes.MealyMachine

/-!
# Machines joined by two links

Two machines print bytes for each other.  What one of them has printed and the
other one has not read yet is on its way: a step of the reader finds the first
bytes of it, as many as have arrived, and takes them off the link if it polls it.
Nothing is lost, changed or reordered, but a message can arrive in any pieces.
This file defines the joint machine and proves what a reader can have in its
buffer when everything that is printed for it has a property which concatenation
and suffixes keep.
-/

namespace Salsipuedes

/-- A machine at the end of a link: what it samples besides the bytes which have
arrived, which of its steps read them, and what its events print. -/
structure Endpoint (State Input Event Outside Byte : Type*) where
  machine : MealyMachine State Input Event
  sample : Outside → List Byte → Input
  poll : State → Input → Option (List Byte)
  bytes : Event → List Byte
  poll_sample : ∀ state outside chunk,
    poll state (sample outside chunk) = none ∨
      poll state (sample outside chunk) = some chunk

/-- Two machines, what is on its way to the second one, and what is on its way
back to the first one. -/
structure Linked (First Second Byte : Type*) where
  first : First
  second : Second
  onward : List Byte
  back : List Byte

namespace Linked

/-- One of the machines takes a step, when so many bytes have arrived. -/
inductive Move (FirstOutside SecondOutside : Type*) where
  | first (outside : FirstOutside) (arrived : Nat)
  | second (outside : SecondOutside) (arrived : Nat)

variable {First FirstInput FirstEvent FirstOutside : Type*}
variable {Second SecondInput SecondEvent SecondOutside Byte : Type*}
variable (left : Endpoint First FirstInput FirstEvent FirstOutside Byte)
variable (right : Endpoint Second SecondInput SecondEvent SecondOutside Byte)

/-- What the first machine samples in a step. -/
def firstInput (linked : Linked First Second Byte) (outside : FirstOutside)
    (arrived : Nat) : FirstInput :=
  left.sample outside (linked.back.take arrived)

/-- What the second machine samples in a step. -/
def secondInput (linked : Linked First Second Byte) (outside : SecondOutside)
    (arrived : Nat) : SecondInput :=
  right.sample outside (linked.onward.take arrived)

def stepFirst (linked : Linked First Second Byte) (input : FirstInput) :
    Linked First Second Byte where
  first := left.machine.step linked.first input
  second := linked.second
  onward := linked.onward ++
    (left.machine.emit linked.first input).flatMap left.bytes
  back := linked.back.drop ((left.poll linked.first input).getD []).length

def stepSecond (linked : Linked First Second Byte) (input : SecondInput) :
    Linked First Second Byte where
  first := linked.first
  second := right.machine.step linked.second input
  onward := linked.onward.drop
    ((right.poll linked.second input).getD []).length
  back := linked.back ++
    (right.machine.emit linked.second input).flatMap right.bytes

/-- The two machines together, in any order of their steps. -/
def machine : MealyMachine (Linked First Second Byte)
    (Move FirstOutside SecondOutside) (FirstEvent ⊕ SecondEvent) where
  step linked
    | .first outside arrived =>
        linked.stepFirst left (linked.firstInput left outside arrived)
    | .second outside arrived =>
        linked.stepSecond right (linked.secondInput right outside arrived)
  emit linked
    | .first outside arrived =>
        (left.machine.emit linked.first
          (linked.firstInput left outside arrived)).map Sum.inl
    | .second outside arrived =>
        (right.machine.emit linked.second
          (linked.secondInput right outside arrived)).map Sum.inr

/-- What a step of the second machine reads is the beginning of what is on its
way, and what stays on its way is the rest. -/
theorem read_append_drop (linked : Linked First Second Byte)
    (outside : SecondOutside) (arrived : Nat) :
    let read := (right.poll linked.second
      (linked.secondInput right outside arrived)).getD []
    read ++ linked.onward.drop read.length = linked.onward := by
  rcases right.poll_sample linked.second outside (linked.onward.take arrived)
    with silent | found
  · rw [secondInput, silent]
    rfl
  · rw [secondInput, found, Option.getD_some]
    dsimp only
    rw [List.length_take]
    rcases Nat.le_total arrived linked.onward.length with some | all
    · rw [Nat.min_eq_left some, List.take_append_drop]
    · rw [Nat.min_eq_right all, List.take_of_length_le all, List.drop_length,
        List.append_nil]

section Streams

variable {buffer : Second → List Byte}

/-- What the second machine has read and what is on its way to it. -/
def stream (buffer : Second → List Byte) (linked : Linked First Second Byte) :
    List Byte :=
  buffer linked.second ++ linked.onward

/-- What is in the buffer when a step has read begins the stream. -/
theorem read_prefix (buffer : Second → List Byte)
    (linked : Linked First Second Byte) (outside : SecondOutside)
    (arrived : Nat) :
    buffer linked.second ++ (right.poll linked.second
        (linked.secondInput right outside arrived)).getD [] <+:
      linked.stream buffer := by
  refine ⟨linked.onward.drop (List.length ((right.poll linked.second
    (linked.secondInput right outside arrived)).getD [])), ?_⟩
  rw [List.append_assoc, read_append_drop right, stream]

variable {left right}

/-- A step of the second machine takes nothing out of the stream but what its
buffer forgets. -/
theorem stepSecond_suffix {linked : Linked First Second Byte}
    {input : SecondInput}
    (reads : let read := (right.poll linked.second input).getD []
      read ++ linked.onward.drop read.length = linked.onward)
    (forgets : buffer (right.machine.step linked.second input) <:+
      buffer linked.second ++ (right.poll linked.second input).getD []) :
    (linked.stepSecond right input).stream buffer <:+ linked.stream buffer := by
  dsimp only at reads
  obtain ⟨forgotten, whole⟩ := forgets
  refine ⟨forgotten, ?_⟩
  dsimp only [stream, stepSecond]
  rw [← List.append_assoc, whole, List.append_assoc, reads]

/-- A property of what is printed holds of the stream, as long as the buffer
forgets only what was read first. -/
theorem stream_step {Good : List Byte → Prop}
    (append : ∀ {before after}, Good before → Good after →
      Good (before ++ after))
    (suffix : ∀ {part whole}, Good whole → part <:+ whole → Good part)
    (printed : ∀ state input,
      Good ((left.machine.emit state input).flatMap left.bytes))
    (kept : ∀ state input, buffer (right.machine.step state input) <:+
      buffer state ++ (right.poll state input).getD [])
    {linked : Linked First Second Byte} (good : Good (linked.stream buffer))
    (move : Move FirstOutside SecondOutside) :
    Good (((machine left right).step linked move).stream buffer) := by
  cases move with
  | first outside arrived =>
      have longer := append good
        (printed linked.first (linked.firstInput left outside arrived))
      rw [stream, List.append_assoc] at longer
      exact longer
  | second outside arrived =>
      exact suffix good (stepSecond_suffix
        (linked.read_append_drop right outside arrived) (kept linked.second _))

end Streams

end Linked

end Salsipuedes

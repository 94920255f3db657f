import Salsipuedes.MealyMachine

/-!
# Alternating messages

Two messages alternate when neither is ever repeated.  A machine whose messages
turn a flag on and off sends them in turns exactly when it never sends a message
which leaves the flag as it is.
-/

namespace Salsipuedes

variable {Letter : Type*}

/-- The letters are `first` and `second` in turns, beginning with `first`. -/
def Alternates (first second : Letter) : List Letter → Prop
  | [] => True
  | letter :: letters => letter = first ∧ Alternates second first letters

instance decidableAlternates [DecidableEq Letter] (first second : Letter) :
    (letters : List Letter) → Decidable (Alternates first second letters)
  | [] => isTrue trivial
  | _ :: letters =>
      have := decidableAlternates second first letters
      inferInstanceAs (Decidable (_ ∧ _))

/-- Turns which begin with `second` if the flag is set, with `first` if not. -/
def AlternatesFrom (first second : Letter) (flag : Bool)
    (letters : List Letter) : Prop :=
  match flag with
  | false => Alternates first second letters
  | true => Alternates second first letters

/-- One step says nothing and keeps the flag, or says `first` and sets it, or
says `second` and clears it.  The step is in turn if it changes the flag when it
says something. -/
inductive Turns (first second : Letter) (flag : Bool) :
    List Letter → Bool → Prop → Prop where
  | quiet {InTurn : Prop} (inTurn : InTurn) :
      Turns first second flag [] flag InTurn
  | on {InTurn : Prop} (inTurn : InTurn ↔ flag = false) :
      Turns first second flag [first] true InTurn
  | off {InTurn : Prop} (inTurn : InTurn ↔ flag = true) :
      Turns first second flag [second] false InTurn

theorem Turns.alternatesFrom {first second : Letter} (distinct : first ≠ second)
    {flag next : Bool} {said : List Letter} {InTurn : Prop}
    (turns : Turns first second flag said next InTurn)
    (letters : List Letter) :
    AlternatesFrom first second flag (said ++ letters) ↔
      InTurn ∧ AlternatesFrom first second next letters := by
  cases turns with
  | quiet inTurn => simp [inTurn]
  | on inTurn =>
      rw [inTurn]
      cases flag <;> simp [AlternatesFrom, Alternates, distinct]
  | off inTurn =>
      rw [inTurn]
      cases flag <;> simp [AlternatesFrom, Alternates, distinct.symm]

namespace MealyMachine

variable {State Input Event : Type*} (machine : MealyMachine State Input Event)

/-- If every step from a state of the invariant is one of the three kinds, then
a run says its two messages in turns exactly when each step is in turn. -/
theorem alternates_trace_iff {first second : Letter} (distinct : first ≠ second)
    {letter : Event → Option Letter} {flag : State → Bool}
    {Guard : State → Input → Prop} (Invariant : State → Prop)
    (preserved : ∀ state input, Invariant state →
      Invariant (machine.step state input))
    (turns : ∀ state input, Invariant state →
      Turns first second (flag state)
        ((machine.emit state input).filterMap letter)
        (flag (machine.step state input)) (Guard state input))
    {state : State} (initially : Invariant state) (inputs : List Input) :
    AlternatesFrom first second (flag state)
        ((machine.trace state inputs).filterMap letter) ↔
      machine.Along Guard state inputs := by
  induction inputs generalizing state with
  | nil => cases flagEq : flag state <;> simp [AlternatesFrom, Alternates, Along]
  | cons input inputs ih =>
      have step := turns state input initially
      rw [trace_cons, List.filterMap_append, step.alternatesFrom distinct,
        ih (preserved state input initially)]
      rfl

end MealyMachine

end Salsipuedes

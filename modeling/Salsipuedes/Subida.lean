import Salsipuedes.MaquinaEnchufe
import Salsipuedes.Receptores

/-!
# From the machine to the game controller

The machine prints its messages on `Serial1` without a delimiter, and its helper
sends a datagram for each message which the idle polls of its own loop separate.
Every operation of the machine prints at most one word, but for an accepted
unplugging: `checkEnchufe` prints its word and so does the handler it calls.
-/

namespace Salsipuedes

namespace Maquina

/-- The words of the protocol. -/
def vocabulary : List String :=
  ["ON", "OFF", "KWIN", "RWIN", "SWIN", "SFAIL"]

def Event.serial1? : Event → Option String
  | .serial1 message => some message
  | _ => none

section Words

variable {Button : Type} [Bounce Button]

/-- What an operation prints on `Serial1`. -/
def prints (config : Config Button) (sample : Sample) : List String :=
  ((machine Button).emit config sample).filterMap Event.serial1?

/-- The prints of an operation, if there are any. -/
def burst (config : Config Button) (sample : Sample) : List (List String) :=
  if prints config sample = [] then [] else [prints config sample]

/-- The prints of each operation of a run which prints. -/
def bursts (Button : Type) [Bounce Button] (boot : Sample)
    (inputs : List Sample) : List (List String) :=
  ((machine Button).reporting burst).trace (setup boot) inputs

/-- The word of the event which an operation announces. -/
def word (burst : List String) : Text :=
  (burst.headD "").toList

/-- A call of `checkEnchufe` accepts that the plug is out. -/
def AcceptsUnplug (config : Config Button) (sample : Sample) : Prop :=
  config.control.callsPlug = true ∧ config.maquina.yaGano = false ∧
    config.maquina.enchufada = true ∧ sample.enchufe = false ∧
    config.maquina.enchufeCounter + 1 = 50

instance (config : Config Button) (sample : Sample) :
    Decidable (AcceptsUnplug config sample) :=
  inferInstanceAs (Decidable (_ ∧ _))

def KeepsPlug (config : Config Button) (sample : Sample) : Prop :=
  ¬ AcceptsUnplug config sample

instance (config : Config Button) (sample : Sample) :
    Decidable (KeepsPlug config sample) :=
  inferInstanceAs (Decidable (¬ _))

/-- The prints of an operation which announces an event with one word. -/
def Single (burst : List String) : Prop :=
  ∃ message ∈ vocabulary, burst = [message]

/-! ## Operations -/

omit [Bounce Button] in
/-- What an action of the game prints. -/
theorem Partida.report_prints (partida : Partida) (action : Partida.Action) :
    (partida.report action).filterMap Event.serial1? = [] ∧ action ≠ .unplug ∨
      Single ((partida.report action).filterMap Event.serial1?) ∧
        action ≠ .unplug ∨
      (partida.report action).filterMap Event.serial1? = ["OFF", "OFF"] ∧
        action = .unplug := by
  have advances (stage : Int) :
      (Partida.advance stage).filterMap Event.serial1? = [] := by
    unfold Partida.advance
    split <;> rfl
  cases action with
  | idle => exact .inl ⟨rfl, by simp⟩
  | lose => exact .inr (.inl ⟨⟨"SFAIL", by decide, rfl⟩, by simp⟩)
  | unplug => exact .inr (.inr ⟨rfl, rfl⟩)
  | solve puzzle =>
      refine .inr (.inl ⟨⟨Partida.word puzzle, by cases puzzle <;> decide, ?_⟩,
        by simp⟩)
      have stage := advances (partida.stage + 1)
      cases puzzle <;>
        simp only [Partida.report, Partida.word, List.filterMap_cons,
          Event.serial1?, stage]
  | command text =>
      have off : Single ["OFF"] := ⟨"OFF", by decide, rfl⟩
      unfold Partida.report
      rw [List.filterMap_cons_none rfl]
      split
      · exact .inr (.inl ⟨off, by simp⟩)
      split
      · exact .inr (.inl ⟨off, by simp⟩)
      split
      · split
        · exact .inr (.inl ⟨off, by simp⟩)
        · exact .inl ⟨advances _, by simp⟩
      · exact .inl ⟨rfl, by simp⟩

variable {config : Config Button} {partida : Partida} {sample : Sample}
variable {action : Partida.Action}

theorem Steps.prints_eq (steps : Steps config partida sample action) :
    prints config sample =
      (partida.report action).filterMap Event.serial1? := by
  rw [← steps.visible, List.filterMap_filter]
  apply List.filterMap_congr
  intro event _
  cases event with
  | console line values => simp [Event.serial1?]
  | _ => rfl

/-- The plug of a game is taken out exactly by the call which accepts it. -/
theorem Steps.unplug_iff (tracks : Tracks config partida)
    (steps : Steps config partida sample action) :
    action = .unplug ↔ AcceptsUnplug config sample := by
  have before : config.maquina.enchufada =
      decide (Puzzle.enchufe ∈ partida.solved) := by
    rw [tracks.shows.progreso]
    rfl
  have after : ((machine Button).step config sample).maquina.enchufada =
      decide (Puzzle.enchufe ∈ (partida.act action).solved) := by
    rw [steps.tracks.shows.progreso]
    rfl
  have plugs (calls : config.control.callsPlug = true) :
      ((machine Button).step config sample).maquina.enchufada =
        (config.maquina.cuentas.plug sample.enchufe).enchufada :=
    congrArg Cuentas.enchufada (step_plug tracks calls)
  constructor
  · rintro rfl
    have calls : config.control.callsPlug = true := by
      have flow := steps.flow
      generalize config.control = control at flow ⊢
      generalize ((machine Button).step config sample).control = later at flow
      cases flow with
      | plugged | unplugged | enchufe => rfl
      | knobs puzzle | radio puzzle => simp at puzzle
      | poll poll | press poll | incoming poll =>
          simp [Partida.Action.OfPoll] at poll
    have solved : Puzzle.enchufe ∈ partida.solved := steps.enabled
    have plugged : config.maquina.enchufada = true := by simp [before, solved]
    have out : ((machine Button).step config sample).maquina.enchufada = false := by
      rw [after]
      rfl
    rw [plugs calls] at out
    unfold Cuentas.plug at out
    split at out
    · exact absurd out (by simp [cuentas, plugged])
    rename_i going
    split at out
    · exact absurd out (by simp [cuentas, plugged])
    split at out
    · rename_i last
      exact ⟨calls, by simpa [cuentas] using going, plugged, out, last⟩
    · exact absurd out (by simp [cuentas, plugged])
  · rintro ⟨calls, locked, plugged, now, last⟩
    have out : ((machine Button).step config sample).maquina.enchufada = false := by
      have going : ¬ config.maquina.cuentas.yaGano = true := by
        simp [cuentas, locked]
      have changed : ¬ sample.enchufe = config.maquina.cuentas.enchufada := by
        simp [cuentas, now, plugged]
      have due : config.maquina.cuentas.enchufeCounter + 1 = 50 := last
      rw [plugs calls, Cuentas.plug, if_neg going, if_neg changed, if_pos due]
      exact now
    have solved : Puzzle.enchufe ∈ partida.solved := by
      simpa [plugged] using before
    rcases steps.flow.ofPlug calls with rfl | rfl | rfl
    · rw [after] at out
      exact absurd solved (of_decide_eq_false out)
    · exact absurd solved steps.enabled.1
    · rfl

/-- An operation prints nothing or one word, unless it accepts that the plug is
out. -/
theorem prints_cases (tracks : Tracks config partida) (sample : Sample) :
    prints config sample = [] ∧ KeepsPlug config sample ∨
      Single (prints config sample) ∧ KeepsPlug config sample ∨
      prints config sample = ["OFF", "OFF"] ∧ ¬ KeepsPlug config sample := by
  obtain ⟨action, steps⟩ := step_tracks tracks sample
  rw [steps.prints_eq, KeepsPlug, not_not, ← steps.unplug_iff tracks]
  exact Partida.report_prints partida action

/-- In a run the plug stays accepted as long as every operation which prints
does so with one word. -/
theorem bursts_single (tracks : Tracks config partida) (inputs : List Sample) :
    (∀ printed ∈ ((machine Button).reporting burst).trace config inputs,
        Single printed ∨ printed = ["OFF", "OFF"]) ∧
      ((machine Button).Along KeepsPlug config inputs ↔
        ∀ printed ∈ ((machine Button).reporting burst).trace config inputs,
          Single printed) := by
  induction inputs generalizing config partida with
  | nil => simp [MealyMachine.Along]
  | cons sample inputs ih =>
      obtain ⟨action, steps⟩ := step_tracks tracks sample
      obtain ⟨words, along⟩ := ih steps.tracks
      have double : ¬ Single ["OFF", "OFF"] := by
        rintro ⟨message, -, equal⟩
        simp at equal
      have said : ((machine Button).reporting burst).trace config
          (sample :: inputs) = burst config sample ++
            ((machine Button).reporting burst).trace
              ((machine Button).step config sample) inputs := rfl
      rw [said, MealyMachine.Along, along]
      unfold burst
      rcases prints_cases tracks sample with
        ⟨quiet, keeps⟩ | ⟨single, keeps⟩ | ⟨unplugs, takes⟩
      · rw [if_pos quiet, List.nil_append]
        exact ⟨words, and_iff_right keeps⟩
      · have spoken : prints config sample ≠ [] := by
          obtain ⟨message, -, equal⟩ := single
          simp [equal]
        rw [if_neg spoken]
        constructor
        · intro printed member
          rcases List.mem_cons.mp member with rfl | member
          · exact .inl single
          · exact words printed member
        · simp [keeps, single]
      · rw [unplugs, if_neg (by simp)]
        constructor
        · intro printed member
          rcases List.mem_cons.mp member with rfl | member
          · exact .inr rfl
          · exact words printed member
        · simp [takes, double]

end Words

end Maquina

/-! ## Schedules -/

open Maquina (bursts word vocabulary Single KeepsPlug)

/-- What the helper finds of the prints of one operation: the bytes of a print
come without a gap of 25 empty polls, but its prints may be kept apart. -/
def Carries (printed : List String) (arrivals : List (Delivery Char 25)) : Prop :=
  ∃ groups : List (List String), groups.flatten = printed ∧
    (∀ group ∈ groups, group ≠ []) ∧
    arrivals.map Delivery.message =
      groups.map fun group => group.flatMap String.toList

/-- The helper, which is not restarted, finds the prints of one operation after
the other. -/
def Schedules (printed : List (List String))
    (turnos : List (Turno WifiHelperMaquina.Route WifiHelperMaquina.Sample)) :
    Prop :=
  (∀ turno ∈ turnos, WifiHelperMaquina.KeepsOn turno) ∧
    ∃ lead arrivals, List.Forall₂ Carries printed arrivals ∧
      turnos.filterMap (Turno.poll WifiHelperMaquina.Sample.serial) =
        List.replicate lead [] ++ arrivals.flatten.flatMap Delivery.polls

/-- The datagrams which the helper sends after power-up. -/
def payloads (encendido : WifiHelperMaquina.Boot)
    (turnos : List (Turno WifiHelperMaquina.Route WifiHelperMaquina.Sample)) :
    List Text :=
  ((WifiHelperMaquina.node encendido).machine.trace
    (WifiHelperMaquina.node encendido).setup turnos).filterMap NodeEvent.packet?

/-- There is one datagram for each operation which printed, with the word of its
event, which is a word of the protocol. -/
def Uplinked (printed : List (List String)) (sent : List Text) : Prop :=
  sent = printed.map word ∧ ∀ payload ∈ sent, payload ∈ vocabulary.map String.toList

/-- What is sent when the messages of some deliveries have arrived. -/
def forwarded (arrivals : List (Delivery Char 25)) : List Text :=
  arrivals.map fun delivery => trim delivery.message

/-- What the helper sends is what has arrived. -/
theorem payloads_forwarded {printed : List (List String)}
    {turnos : List (Turno WifiHelperMaquina.Route WifiHelperMaquina.Sample)}
    (scheduled : Schedules printed turnos) (encendido : WifiHelperMaquina.Boot) :
    ∃ arrivals, List.Forall₂ Carries printed arrivals ∧
      payloads encendido turnos = arrivals.flatMap forwarded := by
  obtain ⟨keepsOn, lead, arrivals, carried, found⟩ := scheduled
  have recovers := (WifiHelperMaquina.polls encendido).recovers
    (by norm_num : 2 * (25 + 1) < 2 ^ 32) (by norm_num)
  obtain ⟨-, -, sent⟩ := recovers (WifiHelperMaquina.node encendido).setup turnos
    lead arrivals.flatten rfl keepsOn (by
      rw [MealyMachine.readings_eq_filterMap, found])
  refine ⟨arrivals, carried, ?_⟩
  rw [payloads, sent, List.map_flatten]
  rfl

theorem trim_word {message : String} (known : message ∈ vocabulary) :
    trim message.toList = message.toList := by
  revert message
  decide +kernel

section Groups

variable {Item : Type} {groups : List (List Item)} {first second : Item}

/-- The first group of some items begins with the first of them. -/
theorem groups_of_cons {rest : List Item} (flat : groups.flatten = first :: rest)
    (nonempty : ∀ group ∈ groups, group ≠ []) :
    ∃ group others, groups = (first :: group) :: others ∧
      group ++ others.flatten = rest ∧ ∀ other ∈ others, other ≠ [] := by
  cases groups with
  | nil => simp at flat
  | cons group others =>
      have later : ∀ other ∈ others, other ≠ [] := fun other member =>
        nonempty other (List.mem_cons_of_mem _ member)
      cases group with
      | nil => exact absurd rfl (nonempty [] List.mem_cons_self)
      | cons item group =>
          rw [List.flatten_cons, List.cons_append] at flat
          obtain ⟨rfl, rest⟩ := List.cons.inj flat
          exact ⟨group, others, rfl, rest, later⟩

theorem groups_of_nil (flat : groups.flatten = [])
    (nonempty : ∀ group ∈ groups, group ≠ []) : groups = [] := by
  cases groups with
  | nil => rfl
  | cons group others =>
      rw [List.flatten_cons, List.append_eq_nil_iff] at flat
      exact absurd flat.1 (nonempty group List.mem_cons_self)

theorem groups_of_single (flat : groups.flatten = [first])
    (nonempty : ∀ group ∈ groups, group ≠ []) : groups = [[first]] := by
  obtain ⟨group, others, rfl, rest, later⟩ := groups_of_cons flat nonempty
  obtain ⟨rfl, empty⟩ := List.append_eq_nil_iff.mp rest
  rw [groups_of_nil empty later]

/-- Two items are together or apart. -/
theorem groups_of_pair (flat : groups.flatten = [first, second])
    (nonempty : ∀ group ∈ groups, group ≠ []) :
    groups = [[first, second]] ∨ groups = [[first], [second]] := by
  obtain ⟨group, others, rfl, rest, later⟩ := groups_of_cons flat nonempty
  cases group with
  | nil =>
      rw [List.nil_append] at rest
      rw [groups_of_single rest later]
      exact .inr rfl
  | cons item group =>
      obtain ⟨rfl, last⟩ := List.cons.inj rest
      obtain ⟨rfl, empty⟩ := List.append_eq_nil_iff.mp last
      rw [groups_of_nil empty later]
      exact .inl rfl

end Groups

section Arrivals

variable {arrivals : List (Delivery Char 25)}

theorem forwarded_of_groups {groups : List (List String)}
    (messages : arrivals.map Delivery.message =
      groups.map fun group => group.flatMap String.toList) :
    forwarded arrivals =
      groups.map fun group => trim (group.flatMap String.toList) := by
  have forward := congrArg (List.map trim) messages
  rw [List.map_map, List.map_map] at forward
  exact forward

/-- The prints of an operation which says one word arrive as that word. -/
theorem Carries.single {message : String} (carries : Carries [message] arrivals)
    (known : message ∈ vocabulary) : forwarded arrivals = [message.toList] := by
  obtain ⟨groups, flat, nonempty, messages⟩ := carries
  rw [forwarded_of_groups messages, groups_of_single flat nonempty]
  simpa using trim_word known

/-- The two prints of an accepted unplugging are glued together, or they arrive
as two messages. -/
theorem Carries.double (carries : Carries ["OFF", "OFF"] arrivals) :
    forwarded arrivals = ["OFFOFF".toList] ∨
      forwarded arrivals = ["OFF".toList, "OFF".toList] := by
  obtain ⟨groups, flat, nonempty, messages⟩ := carries
  rw [forwarded_of_groups messages]
  rcases groups_of_pair flat nonempty with rfl | rfl
  · exact .inl (by decide)
  · exact .inr (by decide)

end Arrivals

section Payloads

variable {printed : List (List String)}
variable {arrivals : List (List (Delivery Char 25))}

/-- Operations which print one word are announced with it. -/
theorem forwarded_of_single (carried : List.Forall₂ Carries printed arrivals)
    (single : ∀ burst ∈ printed, Single burst) :
    Uplinked printed (arrivals.flatMap forwarded) := by
  induction carried with
  | nil => exact ⟨rfl, by simp⟩
  | @cons burst arrived printed arrivals carries _ ih =>
      obtain ⟨same, known⟩ := ih fun other member =>
        single other (List.mem_cons_of_mem _ member)
      obtain ⟨message, member, rfl⟩ := single burst List.mem_cons_self
      rw [List.flatMap_cons, carries.single member]
      refine ⟨by rw [same]; rfl, ?_⟩
      intro payload sent
      rcases List.mem_cons.mp sent with rfl | sent
      · exact List.mem_map_of_mem member
      · exact known payload sent

/-- When all datagrams are words of the protocol there is one for each
operation, and one more for each accepted unplugging. -/
theorem length_forwarded (carried : List.Forall₂ Carries printed arrivals)
    (words : ∀ burst ∈ printed, Single burst ∨ burst = ["OFF", "OFF"])
    (known : ∀ payload ∈ arrivals.flatMap forwarded,
      payload ∈ vocabulary.map String.toList) :
    printed.length ≤ (arrivals.flatMap forwarded).length ∧
      ((arrivals.flatMap forwarded).length = printed.length →
        ∀ burst ∈ printed, Single burst) := by
  induction carried with
  | nil => simp
  | @cons burst arrived printed arrivals carries _ ih =>
      rw [List.flatMap_cons] at known ⊢
      obtain ⟨shorter, equal⟩ :=
        ih (fun other member => words other (List.mem_cons_of_mem _ member))
          (fun payload sent => known payload (List.mem_append_right _ sent))
      rw [List.length_append, List.length_cons]
      rcases words burst List.mem_cons_self with single | rfl
      · obtain ⟨message, member, same⟩ := single
        rw [same] at carries
        rw [carries.single member, List.length_singleton]
        refine ⟨by omega, fun lengths other inside => ?_⟩
        rcases List.mem_cons.mp inside with rfl | inside
        · exact ⟨message, member, same⟩
        · exact equal (by omega) other inside
      · rcases carries.double with glued | apart
        · have foreign := known "OFFOFF".toList (by simp [glued])
          exact absurd foreign (by decide)
        · rw [apart, List.length_cons, List.length_singleton]
          exact ⟨by omega, fun lengths => by omega⟩

theorem uplinked_iff (carried : List.Forall₂ Carries printed arrivals)
    (words : ∀ burst ∈ printed, Single burst ∨ burst = ["OFF", "OFF"]) :
    Uplinked printed (arrivals.flatMap forwarded) ↔
      ∀ burst ∈ printed, Single burst := by
  constructor
  · rintro ⟨same, known⟩
    apply (length_forwarded carried words known).2
    rw [same, List.length_map]
  · exact forwarded_of_single carried

end Payloads

/-- Under every schedule, the datagrams are the words of the operations which
printed, one for each, exactly in the runs in which no unplugging is accepted. -/
theorem payloads_words {Button : Type} [Bounce Button] (boot : Maquina.Sample)
    (inputs : List Maquina.Sample) (encendido : WifiHelperMaquina.Boot)
    {turnos : List (Turno WifiHelperMaquina.Route WifiHelperMaquina.Sample)}
    (scheduled : Schedules (bursts Button boot inputs) turnos) :
    Uplinked (bursts Button boot inputs) (payloads encendido turnos) ↔
      (Maquina.machine Button).Along KeepsPlug (Maquina.setup boot) inputs := by
  obtain ⟨arrivals, carried, sent⟩ := payloads_forwarded scheduled encendido
  obtain ⟨words, along⟩ := Maquina.bursts_single
    (Maquina.setup_tracks Button boot) inputs
  rw [sent, along]
  exact uplinked_iff carried words

/-- The power-up of the helper, and its turns when nothing but some polls of its
link happens. -/
def arranque : WifiHelperMaquina.Boot :=
  ⟨0, 0, fun _ => 0, true⟩

def polling (found : List Text) :
    List (Turno WifiHelperMaquina.Route WifiHelperMaquina.Sample) :=
  found.map fun serial => .iterate ⟨none, serial, arranque⟩

theorem keepsOn_polling (found : List Text) :
    ∀ turno ∈ polling found, WifiHelperMaquina.KeepsOn turno := by
  intro turno member
  obtain ⟨serial, -, rfl⟩ := List.mem_map.mp member
  trivial

/-- The word of a plug which is put in arrives in two pieces. -/
def arrivalOn : Delivery Char 25 :=
  ⟨"O".toList, [(3, "N".toList)], 25, by decide, by decide, by decide, by decide⟩

/-- The two words of a plug which is taken out are found by the same poll. -/
def arrivalOff : Delivery Char 25 :=
  ⟨"OFFOFF".toList, [], 25, by decide, by simp, by simp, by decide⟩

/-- The plug is put in. -/
theorem payloads_words_enchufado :
    payloads arranque (polling arrivalOn.polls) = ["ON".toList] := by
  let inputs := (List.replicate 25
    (Maquina.iteration .enchufado [])).flatten
  have said : bursts StableButton .reposo inputs = [["ON"]] := by
    decide +kernel
  have scheduled : Schedules (bursts StableButton .reposo inputs)
      (polling arrivalOn.polls) := by
    refine ⟨keepsOn_polling _, 0, [[arrivalOn]], ?_, by decide +kernel⟩
    rw [said]
    exact .cons ⟨[["ON"]], rfl, by simp, by decide +kernel⟩ .nil
  have uplinked := (payloads_words .reposo inputs arranque scheduled).mpr
    (by decide +kernel)
  rw [uplinked.1, said]
  rfl

/-- The plug is put in and taken out again. -/
theorem payloads_glued :
    ¬ ∀ (boot : Maquina.Sample) (inputs : List Maquina.Sample)
      (encendido : WifiHelperMaquina.Boot)
      (turnos : List (Turno WifiHelperMaquina.Route WifiHelperMaquina.Sample)),
      Schedules (bursts StableButton boot inputs) turnos →
        Uplinked (bursts StableButton boot inputs)
          (payloads encendido turnos) := by
  intro claim
  let inputs := (List.replicate 25 (Maquina.iteration .enchufado [])).flatten ++
    List.replicate 200 .reposo
  have said : bursts StableButton .reposo inputs = [["ON"], ["OFF", "OFF"]] := by
    decide +kernel
  let turnos := polling (arrivalOn.polls ++ arrivalOff.polls)
  have scheduled : Schedules (bursts StableButton .reposo inputs) turnos := by
    refine ⟨keepsOn_polling _, 0, [[arrivalOn], [arrivalOff]], ?_,
      by decide +kernel⟩
    rw [said]
    exact .cons ⟨[["ON"]], rfl, by simp, by decide +kernel⟩
      (.cons ⟨[["OFF", "OFF"]], rfl, by simp, by decide +kernel⟩ .nil)
  obtain ⟨-, known⟩ := claim .reposo inputs arranque turnos scheduled
  have glued := known "OFFOFF".toList (by decide +kernel)
  revert glued
  decide

end Salsipuedes

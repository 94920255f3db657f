import Salsipuedes.TelefonoDisco

/-!
# Hanging up

A handset on the hook reads like a tick of the dial.  The sketch counts a pulse
after 10 ms, appends the digit after 100 ms, and clears the number when the level
has lasted for 300 ms.  A number which that digit completes is wrong before it is
cleared, and a level which is old when its pulse is counted has its number cleared
before the digit is appended.
-/

namespace Salsipuedes

namespace Telefono

/-- The readings of a second in which the handset lies on the hook.  The first and
the last are at most 100 ms away from the ends of the second. -/
structure Colgado where
  first : Lectura
  second : Lectura
  later : List Lectura
  hung : ∀ lectura ∈ first :: second :: later, lectura.nivel = .high
  spaced : (first :: second :: later).IsChain fun lectura next =>
    lectura.time + 15 ≤ next.time ∧ next.time ≤ lectura.time + 100
  lasts : ∃ lectura ∈ later, first.time + 800 ≤ lectura.time
  brief : ∀ lectura ∈ later, lectura.time ≤ first.time + 1000

def Colgado.lecturas (colgado : Colgado) : List Lectura :=
  colgado.first :: colgado.second :: colgado.later

/-- The datagrams of some readings are some words, and the number ends empty. -/
def Ends (words : List Text) (telefono : Telefono) (lecturas : List Lectura) :
    Prop :=
  packets (node.machine.trace telefono (lecturas.map Lectura.turno)) = words ∧
    (node.machine.run telefono (lecturas.map Lectura.turno)).fullnum = []

/-- For how long the line has been `high` at a reading which finds it so. -/
def highFor (time : Nat) (telefono : Telefono) : Nat :=
  if telefono.lastState = .high then
    (telefono.elapsed (UInt32.ofNat time)).toNat
  else 0

/-- The level does not count as a pulse, because it was taken over before, or the
hang-up clears what its pulse does: at its first reading the level is at most 300 ms
old, and the digit leaves the number incomplete or comes with the hang-up. -/
def ClearsNumber (telefono : Telefono) (colgado : Colgado) : Prop :=
  let age := telefono.highFor colgado.first.time
  telefono.trueState = .high ∨
    age ≤ hangPhoneTime.toNat ∧
      (telefono.fullnum.length + 1 < objectivenum.length ∨
        hangPhoneTime.toNat <
          age + (colgado.second.time - colgado.first.time))

instance (telefono : Telefono) (colgado : Colgado) :
    Decidable (telefono.ClearsNumber colgado) :=
  inferInstanceAs (Decidable (_ ∨ _ ∧ (_ ∨ _)))

/-! ## Endings -/

section Endings

variable {telefono : Telefono} {lectura : Lectura} {lecturas : List Lectura}
  {words spoken : List Text}

theorem ends_cons
    (sent : packets (node.machine.emit telefono lectura.turno) = spoken) :
    Ends (spoken ++ words) telefono (lectura :: lecturas) ↔
      Ends words (node.machine.step telefono lectura.turno) lecturas := by
  rw [Ends, List.map_cons, MealyMachine.trace_cons, packets,
    List.filterMap_append]
  change packets (node.machine.emit telefono lectura.turno) ++ _ = _ ∧ _ ↔ _
  rw [sent, List.append_cancel_left_eq]
  rfl

theorem ends_quiet
    (quiet : packets (node.machine.emit telefono lectura.turno) = []) :
    Ends words telefono (lectura :: lecturas) ↔
      Ends words (node.machine.step telefono lectura.turno) lecturas :=
  ends_cons quiet

/-- A word which is sent is among the words of the ending. -/
theorem not_ends {word : Text} (unsaid : word ∉ words)
    (sends : word ∈ packets (node.machine.emit telefono lectura.turno)) :
    ¬ Ends words telefono (lectura :: lecturas) := by
  rintro ⟨sent, _⟩
  apply unsaid
  rw [← sent, List.map_cons, MealyMachine.trace_cons, packets,
    List.filterMap_append]
  exact List.mem_append_left _ sends

end Endings

/-! ## The handset on the hook -/

/-- The telephone with its handset on the hook, after the hang-up. -/
def abajo (stamp : Int32) (number : Text) (count : Nat) : Telefono :=
  { linea .high .high stamp number count with tuboUp := false }

section Down

variable {telefono : Telefono} {lectura : Lectura} {stamp : Int32}
  {number : Text} {count : Nat}

/-- An iteration after the hang-up, with its digit completed or not. -/
theorem loop_abajo (hung : lectura.nivel = .high) {next : Text} {left : Nat}
    {printed : List NodeEvent}
    (dials : (abajo stamp number count).completeDigit
      (UInt32.ofNat lectura.time) =
        { abajo stamp next left with out := printed })
    (short : next.length < objectivenum.length) :
    loop lectura.sample (abajo stamp number count) =
      timeOut (UInt32.ofNat lectura.time)
        { abajo stamp next left with out := printed } := by
  let dialled : Telefono := { abajo stamp next left with out := printed }
  have read : nivel lectura.sample.analogin = .high := hung
  have hooked : watchHook .high (UInt32.ofNat lectura.time) dialled =
      dialled := by
    unfold watchHook
    split
    · rw [if_neg (fun both => Bool.false_ne_true both.2),
        if_neg (fun both => absurd both.1 (by decide))]
    · rfl
  have hears : (abajo stamp number count).heard lectura.sample = dialled := by
    rw [← read] at hooked
    exact heard_eq dials (noteChange_same read _) (debounce_same read _) hooked
  rw [loop_eq, hears, read]
  have calm : (dialled.timeOut (UInt32.ofNat lectura.time)).fullnum.length <
      objectivenum.length := by
    rw [timeOut_fullnum]
    split
    · decide
    · exact short
  have judged := verdict_of_incomplete (.inr calm)
  change { verdict (dialled.timeOut (UInt32.ofNat lectura.time)) with
    lastState := .high } = _
  rw [judged]
  unfold timeOut
  repeat' split
  all_goals rfl

theorem step_abajo (starts : telefono.quieto = abajo stamp number count)
    (hung : lectura.nivel = .high) {next : Text} {left : Nat}
    {printed : List NodeEvent}
    (dials : (abajo stamp number count).completeDigit
      (UInt32.ofNat lectura.time) =
        { abajo stamp next left with out := printed })
    (silent : packets printed = []) (short : next.length < objectivenum.length) :
    packets (node.machine.emit telefono lectura.turno) = [] ∧
        (node.machine.step telefono lectura.turno).quieto =
          abajo stamp next left ∨
      next ≠ [] ∧
        fail ∈ packets (node.machine.emit telefono lectura.turno) := by
  rw [emit_turno, step_turno, starts, loop_abajo hung dials short]
  unfold timeOut
  split
  · split
    · rename_i nonempty
      refine .inr ⟨List.ne_nil_of_length_pos nonempty, ?_⟩
      simp [report, emit, packets, NodeEvent.packet?, fail]
    · exact .inl ⟨silent, rfl⟩
  · exact .inl ⟨silent, rfl⟩

/-- With no pulse pending, no digit is completed. -/
theorem abajo_idle (stamp : Int32) (number : Text) (now : UInt32) :
    (abajo stamp number 0).completeDigit now =
      { abajo stamp number 0 with out := [] } :=
  if_neg (fun both => Bool.false_ne_true both.2)

variable {lecturas : List Lectura}

theorem fullnum_of_quieto {value : Telefono} (here : telefono.quieto = value) :
    telefono.fullnum = value.fullnum := by
  rw [← here]
  rfl

/-- After a hang-up which left nothing pending, nothing is sent. -/
theorem ends_abajo (starts : telefono.quieto = abajo stamp [] 0)
    (hung : ∀ lectura ∈ lecturas, lectura.nivel = .high) :
    Ends [] telefono lecturas := by
  induction lecturas generalizing telefono with
  | nil => exact ⟨rfl, fullnum_of_quieto starts⟩
  | cons lectura lecturas ih =>
      obtain ⟨here, others⟩ := List.forall_mem_cons.mp hung
      rcases step_abajo starts here (abajo_idle stamp [] _) rfl
        (by decide) with ⟨quiet, next⟩ | ⟨nonempty, _⟩
      · rw [ends_quiet quiet]
        exact ih next others
      · exact absurd rfl nonempty

/-- A digit which was completed after the hang-up stays, or is given up. -/
theorem not_ends_digit (starts : telefono.quieto = abajo stamp number 0)
    (hung : ∀ lectura ∈ lecturas, lectura.nivel = .high)
    (nonempty : number ≠ []) (short : number.length < objectivenum.length) :
    ¬ Ends [] telefono lecturas := by
  induction lecturas generalizing telefono with
  | nil =>
      exact fun ends =>
        nonempty ((fullnum_of_quieto starts).symm.trans ends.2)
  | cons lectura lecturas ih =>
      obtain ⟨here, others⟩ := List.forall_mem_cons.mp hung
      rcases step_abajo starts here (abajo_idle stamp number _) rfl
        short with ⟨quiet, next⟩ | ⟨_, sends⟩
      · rw [ends_quiet quiet]
        exact ih next others
      · exact not_ends (List.not_mem_nil) sends

/-- A pulse which was counted when the handset was hung up becomes a digit. -/
theorem not_ends_pulse (starts : telefono.quieto = abajo stamp [] 1)
    (hung : ∀ lectura ∈ lecturas, lectura.nivel = .high)
    (late : ∃ lectura ∈ lecturas,
      (abajo stamp [] 1).elapsed (UInt32.ofNat lectura.time) >
        dialHasFinishedRotatingAfterMs) :
    ¬ Ends [] telefono lecturas := by
  induction lecturas generalizing telefono with
  | nil => simp at late
  | cons lectura lecturas ih =>
      obtain ⟨here, others⟩ := List.forall_mem_cons.mp hung
      by_cases complete : (abajo stamp [] 1).elapsed
          (UInt32.ofNat lectura.time) > dialHasFinishedRotatingAfterMs
      · have spelled : decimal (((1 : Nat) : Int).tmod 10) = "1".toList := by
          decide
        have dials : (abajo stamp [] 1).completeDigit
            (UInt32.ofNat lectura.time) =
            { abajo stamp "1".toList 0 with
              out := [.println (String.ofList "1".toList)] } := by
          rw [completeDigit, if_pos ⟨complete, rfl⟩]
          simp only [abajo, linea, spelled, emit]
          rfl
        rcases step_abajo starts here dials rfl (by decide) with
          ⟨quiet, next⟩ | ⟨_, sends⟩
        · rw [ends_quiet quiet]
          exact not_ends_digit next others (by decide) (by decide)
        · exact not_ends (List.not_mem_nil) sends
      · have dials : (abajo stamp [] 1).completeDigit
            (UInt32.ofNat lectura.time) = { abajo stamp [] 1 with out := [] } :=
          if_neg (fun both => complete both.1)
        have later := (List.exists_mem_cons_iff ..).mp late
        rcases step_abajo starts here dials rfl (by decide) with
          ⟨quiet, next⟩ | ⟨nonempty, _⟩
        · rw [ends_quiet quiet]
          exact ih next others (later.resolve_left complete)
        · exact absurd rfl nonempty

end Down

/-! ## The hang-up -/

section HangUp

variable {telefono : Telefono} {lectura : Lectura} {stable : Nivel}
  {stamp : Int32} {number : Text} {count : Nat}

/-- The reading at which the handset counts as hung up.  The number is cleared with
a digit which it completes, but not with a pulse which it counts. -/
theorem step_down
    (starts : telefono.quieto = linea .high stable stamp number count)
    (hung : lectura.nivel = .high)
    (late : (linea .high stable stamp number count).elapsed
      (UInt32.ofNat lectura.time) > hangPhoneTime) :
    packets (node.machine.emit telefono lectura.turno) = [down] ∧
      (node.machine.step telefono lectura.turno).quieto =
        abajo stamp [] (counted .high stable 0) := by
  have complete : (linea .high stable stamp number count).elapsed
      (UInt32.ofNat lectura.time) > dialHasFinishedRotatingAfterMs :=
    UInt32.lt_trans (by decide) late
  obtain ⟨next, printed, silent, dials⟩ : ∃ next printed,
      packets printed = [] ∧
        (linea .high stable stamp number count).completeDigit
            (UInt32.ofNat lectura.time) =
          { linea .high stable stamp next 0 with out := printed } := by
    by_cases pending : (linea .high stable stamp number count).needToPrint = true
    · exact ⟨_, [.println _], rfl, if_pos ⟨complete, pending⟩⟩
    · have none : count = 0 := by simpa [linea] using pending
      subst none
      exact ⟨number, [], rfl, completeDigit_none _⟩
  let dialled : Telefono :=
    { linea .high stable stamp next 0 with out := printed }
  let heard : Telefono :=
    { linea .high .high stamp next (counted .high stable 0) with
      out := printed }
  have hears : debounce .high (UInt32.ofNat lectura.time) dialled = heard :=
    debounce_old printed (UInt32.lt_trans (by decide) late) (by decide)
  let ended : Telefono :=
    { report "DOWN" "hanging phone" heard with
      fullnum := []
      tuboUp := false }
  have hangs : watchHook .high (UInt32.ofNat lectura.time) heard = ended :=
    (if_pos late).trans (if_pos ⟨rfl, rfl⟩)
  have read : nivel lectura.sample.analogin = .high := hung
  have all : (linea .high stable stamp number count).heard lectura.sample =
      ended := by
    rw [← read] at hears hangs
    exact heard_eq dials (noteChange_same read _) hears hangs
  have inTime : timeOut (UInt32.ofNat lectura.time) ended = ended := by
    unfold timeOut
    split
    · exact if_neg (Nat.lt_irrefl 0)
    · rfl
  have judged : verdict ended = ended :=
    verdict_of_incomplete
      (.inr (by decide : ([] : Text).length < objectivenum.length))
  have loops : loop lectura.sample (linea .high stable stamp number count) =
      ended := by
    rw [loop_eq, all, read]
    change { verdict (ended.timeOut (UInt32.ofNat lectura.time)) with
      lastState := .high } = _
    rw [inTime, judged]
    rfl
  rw [emit_turno, step_turno, starts, loops]
  constructor
  · change packets (printed ++ _ ++ _) = _
    rw [packets, List.append_assoc, List.filterMap_append]
    exact congrArg (· ++ [down]) silent
  · rfl

variable {since : Nat} {lecturas : List Lectura}

/-- A reading of the handset on the hook, before the clock has wrapped around since
the level was new. -/
def Hung (since : Nat) (lectura : Lectura) : Prop :=
  lectura.nivel = .high ∧ since ≤ lectura.time ∧ lectura.time < since + 2 ^ 32

/-- The handset counts as hung up at a reading. -/
def Late (since : Nat) (lectura : Lectura) : Prop :=
  since + hangPhoneTime.toNat < lectura.time

theorem late_iff (stable : Nivel) (number : Text) (count : Nat)
    (hung : Hung since lectura) :
    (linea .high stable (reloj since) number count).elapsed
        (UInt32.ofNat lectura.time) > hangPhoneTime ↔ Late since lectura :=
  elapsed_gt_iff rfl hung.2.1 hung.2.2

/-- A reading before the hang-up, when no digit is completed. -/
theorem step_hung
    (starts : telefono.quieto = linea .high stable (reloj since) number count)
    (hung : Hung since lectura) (early : ¬ Late since lectura)
    (incomplete : count = 0 ∨
      lectura.time ≤ since + dialHasFinishedRotatingAfterMs.toNat)
    (short : number.length < objectivenum.length) (few : count < 2 ^ 31 - 1) :
    (node.machine.step telefono lectura.turno).quieto =
        heldLinea .high stable since lectura.time number count ∧
      packets (node.machine.emit telefono lectura.turno) = [] := by
  have hook : hangPhoneTime.toNat = 300 := rfl
  have limit : resetTime.toNat = 2000000 := rfl
  have notYet : lectura.time ≤ since + hangPhoneTime.toNat := not_lt.mp early
  have dials : (linea .high stable (reloj since) number count).completeDigit
      (UInt32.ofNat lectura.time) =
        linea .high stable (reloj since) number count := by
    rcases incomplete with rfl | soon
    · exact completeDigit_none _
    · exact completeDigit_early hung.2.1 soon
  apply reads starts (loop_again hung.1 dials hung.2.1 (fun _ => notYet)
    (by omega) short few)
  obtain ⟨_, _, held⟩ :=
    heldLinea_eq .high stable since lectura.time number count
  rw [held]
  rfl

/-- A hang-up with no pulse of its own. -/
theorem ends_hangUp
    (starts : telefono.quieto = linea .high .high (reloj since) number count)
    (hung : Hung since lectura) (late : Late since lectura)
    (later : ∀ other ∈ lecturas, Hung since other) :
    Ends [down] telefono (lectura :: lecturas) := by
  obtain ⟨sent, next⟩ :=
    step_down starts hung.1 ((late_iff .high number count hung).mpr late)
  have none : counted .high .high 0 = 0 := if_neg (fun both => both.2 rfl)
  rw [none] at next
  exact (ends_cons sent).mpr
    (ends_abajo next fun other member => (later other member).1)

/-- With nothing pending, the number waits for the hang-up. -/
theorem ends_settled
    (starts : telefono.quieto = linea .high .high (reloj since) number 0)
    (short : number.length < objectivenum.length)
    (hung : ∀ lectura ∈ lecturas, Hung since lectura)
    (late : ∃ lectura ∈ lecturas, Late since lectura) :
    Ends [down] telefono lecturas := by
  induction lecturas generalizing telefono with
  | nil => simp at late
  | cons lectura lecturas ih =>
      obtain ⟨here, others⟩ := List.forall_mem_cons.mp hung
      by_cases hangs : Late since lectura
      · exact ends_hangUp starts here hangs others
      · have later := (List.exists_mem_cons_iff ..).mp late
        obtain ⟨next, quiet⟩ :=
          step_hung starts here hangs (.inl rfl) short (by decide)
        rw [heldLinea_stable] at next
        exact (ends_quiet quiet).mpr
          (ih next others (later.resolve_left hangs))

theorem append_uno_ne (number : Text) :
    number ++ "1".toList ≠ objectivenum := by
  intro equal
  have last := congrArg List.getLast? equal
  rw [List.getLast?_append] at last
  have one : some '1' = objectivenum.getLast? := last
  revert one
  decide

/-- The reading at which the digit of the pulse is complete: its number is wrong if
it is full and not cleared at once. -/
theorem ends_complete
    (starts : telefono.quieto = linea .high .high (reloj since) number 1)
    (hung : Hung since lectura)
    (complete : since + dialHasFinishedRotatingAfterMs.toNat < lectura.time)
    (later : ∀ other ∈ lecturas, Hung since other)
    (late : ∃ other ∈ lectura :: lecturas, Late since other) :
    Ends [down] telefono (lectura :: lecturas) ↔
      number.length + 1 < objectivenum.length ∨ Late since lectura := by
  have hook : hangPhoneTime.toNat = 300 := rfl
  have limit : resetTime.toNat = 2000000 := rfl
  have size : (number ++ "1".toList).length = number.length + 1 :=
    List.length_append
  by_cases hangs : Late since lectura
  · exact iff_of_true (ends_hangUp starts hung hangs later) (.inr hangs)
  · have notYet : lectura.time ≤ since + hangPhoneTime.toNat := not_lt.mp hangs
    have spelled : decimal (((1 : Nat) : Int).tmod 10) = "1".toList := by decide
    obtain ⟨dialled, answered⟩ := step_complete starts hung.1 (.inl rfl)
      (fun _ => notYet) complete (by omega) one_pos spelled
    rw [or_iff_left hangs]
    by_cases more : (number ++ "1".toList).length < objectivenum.length
    · rw [answer, if_pos more] at answered
      rw [Dialled, if_pos more] at dialled
      rw [ends_quiet answered]
      have rest := (List.exists_mem_cons_iff ..).mp late
      exact iff_of_true
        (ends_settled dialled more later (rest.resolve_left hangs))
        (size ▸ more)
    · rw [answer, if_neg more, if_neg (append_uno_ne number)] at answered
      have sends : fail ∈ packets (node.machine.emit telefono lectura.turno) :=
        answered ▸ List.mem_singleton_self fail
      exact iff_of_false (not_ends (by decide) sends) (size ▸ more)

/-- With the pulse pending and the readings close, its digit is complete before the
hang-up. -/
theorem ends_pending
    (starts : telefono.quieto = linea .high .high (reloj since) number 1)
    (short : number.length < objectivenum.length)
    (hung : ∀ lectura ∈ lecturas, Hung since lectura)
    {last : Lectura} (recent : last.time ≤ since + 200)
    (close : (last :: lecturas).IsChain fun lectura next =>
      next.time ≤ lectura.time + 100)
    (late : ∃ lectura ∈ lecturas, Late since lectura) :
    Ends [down] telefono lecturas ↔
      number.length + 1 < objectivenum.length := by
  have digit : dialHasFinishedRotatingAfterMs.toNat = 100 := rfl
  have hook : hangPhoneTime.toNat = 300 := rfl
  induction lecturas generalizing telefono last with
  | nil => simp at late
  | cons lectura lecturas ih =>
      rw [List.isChain_cons_cons] at close
      obtain ⟨here, others⟩ := List.forall_mem_cons.mp hung
      have early : ¬ Late since lectura := by
        unfold Late
        omega
      by_cases complete :
          since + dialHasFinishedRotatingAfterMs.toNat < lectura.time
      · rw [ends_complete starts here complete others late,
          or_iff_left early]
      · have soon := not_lt.mp complete
        have later := (List.exists_mem_cons_iff ..).mp late
        obtain ⟨next, quiet⟩ :=
          step_hung starts here early (.inr soon) short (by decide)
        rw [heldLinea_stable] at next
        rw [ends_quiet quiet]
        exact ih next others (by omega) close.2 (later.resolve_left early)

end HangUp

/-! ## A second on the hook -/

namespace Colgado

variable (colgado : Colgado)

/-- The clock of the readings goes on, and not for longer than a second. -/
theorem after_first {lectura : Lectura}
    (member : lectura ∈ colgado.second :: colgado.later) :
    colgado.first.time ≤ lectura.time ∧
      lectura.time ≤ colgado.first.time + 1000 := by
  have spaced := colgado.spaced
  constructor
  · have rising : colgado.lecturas.IsChain fun lectura next =>
        lectura.time ≤ next.time :=
      spaced.imp fun _ _ gap => by omega
    have ordered := List.isChain_iff_pairwise.mp rising
    exact (List.pairwise_cons.mp ordered).1 lectura member
  · rw [List.isChain_cons_cons] at spaced
    rcases List.mem_cons.mp member with rfl | later
    · omega
    · exact colgado.brief lectura later

end Colgado

section Second

variable {telefono : Telefono} {colgado : Colgado} {stable : Nivel}
  {number : Text} {since : Nat}

/-- A pulse which is counted with the hang-up is complete within the second. -/
theorem completes_later (order : since ≤ colgado.first.time)
    (span : colgado.first.time < since + 2 ^ 32)
    (late : Late since colgado.first) :
    ∃ lectura ∈ colgado.second :: colgado.later,
      (abajo (reloj since) [] 1).elapsed (UInt32.ofNat lectura.time) >
        dialHasFinishedRotatingAfterMs := by
  have digit : dialHasFinishedRotatingAfterMs.toNat = 100 := rfl
  have hook : hangPhoneTime.toNat = 300 := rfl
  have age (lectura : Lectura) (later : since ≤ lectura.time) :
      (abajo (reloj since) [] 1).elapsed (UInt32.ofNat lectura.time) >
          dialHasFinishedRotatingAfterMs ↔
        100 < (lectura.time - since) % 2 ^ 32 := by
    rw [gt_iff_lt, UInt32.lt_iff_toNat_lt, elapsed_toNat rfl later, digit]
  have next := (List.isChain_cons_cons.mp colgado.spaced).1
  obtain ⟨last, member, lasts⟩ := colgado.lasts
  have brief := colgado.brief last member
  unfold Late at late
  -- The clock may wrap around between the first two readings.
  by_cases wraps : colgado.second.time < since + 2 ^ 32
  · refine ⟨colgado.second, List.mem_cons_self, ?_⟩
    rw [age _ (by omega)]
    omega
  · refine ⟨last, List.mem_cons_of_mem _ member, ?_⟩
    rw [age _ (by omega)]
    omega

theorem hung_of_early (order : since ≤ colgado.first.time)
    (early : ¬ Late since colgado.first) :
    ∀ lectura ∈ colgado.lecturas, Hung since lectura := by
  intro lectura member
  have hook : hangPhoneTime.toNat = 300 := rfl
  unfold Late at early
  refine ⟨colgado.hung lectura member, ?_⟩
  rcases List.mem_cons.mp member with rfl | later
  · omega
  · have bounds := colgado.after_first later
    omega

theorem late_later (colgado : Colgado) (order : since ≤ colgado.first.time) :
    ∃ lectura ∈ colgado.later, Late since lectura := by
  have hook : hangPhoneTime.toNat = 300 := rfl
  obtain ⟨last, member, lasts⟩ := colgado.lasts
  exact ⟨last, member, by unfold Late; omega⟩

/-- The pulse of the hang-up is counted at the first reading or at the second one,
and its digit is complete at one after that. -/
theorem ends_pulse
    (starts : telefono.quieto = linea .high stable (reloj since) number 0)
    (order : since ≤ colgado.first.time) (fresh : stable ≠ .high)
    (early : ¬ Late since colgado.first)
    (short : number.length < objectivenum.length) :
    Ends [down] telefono colgado.lecturas ↔
      number.length + 1 < objectivenum.length ∨ Late since colgado.second := by
  have delay : debounceDelay.toNat = 10 := rfl
  have digit : dialHasFinishedRotatingAfterMs.toNat = 100 := rfl
  have hook : hangPhoneTime.toNat = 300 := rfl
  have hung := hung_of_early order early
  obtain ⟨hungFirst, hungRest⟩ := List.forall_mem_cons.mp hung
  obtain ⟨hungSecond, hungLater⟩ := List.forall_mem_cons.mp hungRest
  have lateLater := late_later colgado order
  have lateRest : ∃ lectura ∈ colgado.second :: colgado.later,
      Late since lectura :=
    (List.exists_mem_cons_iff ..).mpr (.inr lateLater)
  obtain ⟨gap, laterGaps⟩ := List.isChain_cons_cons.mp colgado.spaced
  have close : (colgado.second :: colgado.later).IsChain fun lectura next =>
      next.time ≤ lectura.time + 100 :=
    laterGaps.imp fun _ _ gap => gap.2
  have one : counted .high stable 0 = 1 := if_pos ⟨rfl, fresh⟩
  obtain ⟨next, quiet⟩ := step_hung starts hungFirst early
    (.inl rfl) short (by decide)
  have rest : Ends [down] telefono colgado.lecturas ↔
      Ends [down] (node.machine.step telefono colgado.first.turno)
        (colgado.second :: colgado.later) := ends_quiet quiet
  rw [rest]
  rw [heldLinea, one] at next
  by_cases counts : since + debounceDelay.toNat < colgado.first.time
  · rw [if_pos counts] at next
    by_cases recent : colgado.first.time ≤ since + 200
    · have before : ¬ Late since colgado.second := by
        unfold Late
        omega
      rw [or_iff_left before]
      exact ends_pending next short hungRest recent
        (List.isChain_cons_cons.mpr ⟨gap.2, close⟩) lateRest
    · exact ends_complete next hungSecond (by omega) hungLater lateRest
  · rw [if_neg counts] at next
    have before : ¬ Late since colgado.second := by
      unfold Late
      omega
    obtain ⟨nextOne, quietOne⟩ := step_hung next hungSecond before
      (.inl rfl) short (by decide)
    rw [heldLinea, one, if_pos (by omega)] at nextOne
    rw [ends_quiet quietOne, or_iff_left before]
    exact ends_pending nextOne short hungLater (by omega) close lateLater

/-- A second on the hook, from a level which was new at `since`. -/
theorem ends_linea
    (starts : telefono.quieto = linea .high stable (reloj since) number 0)
    (order : since ≤ colgado.first.time)
    (span : colgado.first.time < since + 2 ^ 32)
    (short : number.length < objectivenum.length) :
    Ends [down] telefono colgado.lecturas ↔
      stable = .high ∨ ¬ Late since colgado.first ∧
        (number.length + 1 < objectivenum.length ∨
          Late since colgado.second) := by
  obtain ⟨here, high⟩ := List.forall_mem_cons.mp colgado.hung
  have hungFirst : Hung since colgado.first := ⟨here, order, span⟩
  by_cases late : Late since colgado.first
  · obtain ⟨sent, next⟩ := step_down starts hungFirst.1
      ((late_iff stable number 0 hungFirst).mpr late)
    have rest : Ends [down] telefono colgado.lecturas ↔
        Ends [] (node.machine.step telefono colgado.first.turno)
          (colgado.second :: colgado.later) := ends_cons sent
    rw [rest, or_iff_left (fun both => both.1 late)]
    by_cases settled : stable = .high
    · rw [counted, if_neg (fun both => both.2 settled)] at next
      exact iff_of_true (ends_abajo next high) settled
    · rw [counted, if_pos ⟨rfl, settled⟩] at next
      exact iff_of_false
        (not_ends_pulse next high (completes_later order span late)) settled
  · by_cases settled : stable = .high
    · subst settled
      obtain ⟨last, member, lasts⟩ := late_later colgado order
      exact iff_of_true (ends_settled starts short (hung_of_early order late)
        ⟨last, List.mem_cons_of_mem _ (List.mem_cons_of_mem _ member), lasts⟩)
        (.inl rfl)
    · rw [or_iff_right settled, and_iff_right late]
      exact ends_pulse starts order settled late short

end Second

/-! ## The clock wraps around -/

/-- The same reading when the clock has wrapped around once more. -/
def Lectura.vuelta (lectura : Lectura) : Lectura :=
  { lectura with time := lectura.time + 2 ^ 32 }

theorem ofNat_vuelta (time : Nat) :
    UInt32.ofNat (time + 2 ^ 32) = UInt32.ofNat time := by
  apply UInt32.toNat_inj.mp
  rw [UInt32.toNat_ofNat', UInt32.toNat_ofNat', Nat.add_mod_right]

theorem Lectura.vuelta_turno (lectura : Lectura) :
    lectura.vuelta.turno = lectura.turno := by
  have clock := ofNat_vuelta lectura.time
  rw [turno, turno, sample, sample, vuelta, clock]

namespace Colgado

variable (colgado : Colgado)

def vuelta : Colgado where
  first := colgado.first.vuelta
  second := colgado.second.vuelta
  later := colgado.later.map Lectura.vuelta
  hung := by
    change ∀ lectura ∈ colgado.lecturas.map Lectura.vuelta, _
    rw [List.forall_mem_map]
    exact colgado.hung
  spaced := by
    change (colgado.lecturas.map Lectura.vuelta).IsChain _
    rw [List.isChain_map]
    exact colgado.spaced.imp fun lectura next gap => by
      unfold Lectura.vuelta
      dsimp only
      omega
  lasts := by
    obtain ⟨last, member, lasts⟩ := colgado.lasts
    exact ⟨last.vuelta, List.mem_map_of_mem member, by
      unfold Lectura.vuelta
      dsimp only
      omega⟩
  brief := by
    rw [List.forall_mem_map]
    intro lectura member
    have brief := colgado.brief lectura member
    unfold Lectura.vuelta
    dsimp only
    omega

theorem ends_vuelta (words : List Text) (telefono : Telefono) :
    Ends words telefono colgado.vuelta.lecturas ↔
      Ends words telefono colgado.lecturas := by
  have same : colgado.vuelta.lecturas.map Lectura.turno =
      colgado.lecturas.map Lectura.turno := by
    change (colgado.lecturas.map Lectura.vuelta).map Lectura.turno = _
    rw [List.map_map]
    exact List.map_congr_left fun lectura _ => lectura.vuelta_turno
  rw [Ends, Ends, same]

end Colgado

/-- An ending depends on the first iteration alone. -/
theorem ends_congr {telefono other : Telefono} {words : List Text}
    {lectura : Lectura} {lecturas : List Lectura}
    (same : loop lectura.sample telefono.quieto =
      loop lectura.sample other.quieto) :
    Ends words telefono (lectura :: lecturas) ↔
      Ends words other (lectura :: lecturas) := by
  rw [Ends, Ends, List.map_cons, MealyMachine.trace_cons,
    MealyMachine.trace_cons, MealyMachine.run_cons, MealyMachine.run_cons,
    emit_turno, emit_turno, step_turno, step_turno, same]

/-- A change of the level is its first reading at that level. -/
theorem loop_fresh {level stable : Nivel} {stamp : Int32} {number : Text}
    {lectura : Lectura} (changes : lectura.nivel ≠ level)
    (short : number.length < objectivenum.length) :
    loop lectura.sample (linea level stable stamp number 0) =
      loop lectura.sample
        (linea lectura.nivel stable (reloj lectura.time) number 0) := by
  have again : loop lectura.sample
      (linea lectura.nivel stable (reloj lectura.time) number 0) =
      heldLinea lectura.nivel stable lectura.time lectura.time number 0 :=
    loop_again rfl (completeDigit_none _) (le_refl lectura.time)
      (fun _ => Nat.le_add_right _ _) (Nat.le_add_right _ _) short (by decide)
  rw [loop_change changes (completeDigit_none _) short, again, heldLinea,
    if_neg (by omega)]

/-- A handset which is put down is found as if its level had been new at the first
reading before. -/
theorem Colgado.ends_fresh (colgado : Colgado) {telefono : Telefono}
    {level stable : Nivel} {stamp : Int32} {number : Text}
    (starts : telefono.quieto = linea level stable stamp number 0)
    (lifted : level ≠ .high) (short : number.length < objectivenum.length)
    (words : List Text) :
    Ends words telefono colgado.lecturas ↔
      Ends words (linea .high stable (reloj colgado.first.time) number 0)
        colgado.lecturas := by
  have hung : colgado.first.nivel = .high :=
    colgado.hung _ List.mem_cons_self
  have changes : colgado.first.nivel ≠ level := by
    rw [hung]
    exact lifted.symm
  apply ends_congr
  rw [starts, loop_fresh changes short, hung]
  rfl

/-! ## Pending pulses -/

/-- Without a pulse to print none is counted. -/
def Uncounted (telefono : Telefono) : Prop :=
  telefono.needToPrint = false → telefono.count = 0

theorem uncounted_loop (sample : Sample) {telefono : Telefono}
    (uncounted : Uncounted telefono) : Uncounted (loop sample telefono) := by
  have dialled : Uncounted (telefono.completeDigit (sample.millis 0)) := by
    unfold completeDigit
    split
    · exact fun _ => rfl
    · exact uncounted
  have noted : Uncounted (noteChange (nivel sample.analogin) (sample.millis 1)
      (telefono.completeDigit (sample.millis 0))) := by
    unfold noteChange
    split <;> exact dialled
  have heard : Uncounted (telefono.heard sample) := by
    unfold Telefono.heard watchHook escucha debounce
    repeat' split
    all_goals first
      | exact noted
      | exact fun printed => absurd printed.symm Bool.false_ne_true
  have judged : Uncounted (timeOut (sample.millis 4) (telefono.heard sample)) := by
    unfold timeOut
    repeat' split
    all_goals exact heard
  rw [loop_eq]
  unfold verdict
  repeat' split
  · exact judged
  · exact fun _ => rfl
  · exact judged

theorem uncounted_step (telefono : Telefono) (turno : Turno Route Sample)
    (uncounted : Uncounted telefono) :
    Uncounted (node.machine.step telefono turno) := by
  cases turno with
  | request route sample =>
      cases route with
      | root | test | manual => exact uncounted
      | reset => exact fun _ => rfl
  | iterate sample => exact uncounted_loop sample uncounted

theorem quieto_linea {telefono : Telefono} (isUp : telefono.tuboUp = true)
    (isOpen : telefono.done = false) (idle : telefono.needToPrint = false)
    (uncounted : Uncounted telefono) :
    telefono.quieto = linea telefono.lastState telefono.trueState
      telefono.lastStateChangeTime telefono.fullnum 0 := by
  have none := uncounted idle
  cases telefono
  dsimp only at isUp isOpen idle none
  subst isUp isOpen idle none
  rfl

/-- The time at which a level was new which is `high` at a reading. -/
theorem reloj_highFor {telefono : Telefono} (time : Nat)
    (high : telefono.lastState = .high) :
    reloj (time + 2 ^ 32 - telefono.highFor time) =
      telefono.lastStateChangeTime := by
  have age : telefono.highFor time =
      (telefono.elapsed (UInt32.ofNat time)).toNat := if_pos high
  have bound := (telefono.elapsed (UInt32.ofNat time)).toNat_lt
  have clock : UInt32.ofNat time =
      telefono.lastStateChangeTime.toUInt32 +
        telefono.elapsed (UInt32.ofNat time) := by
    rw [elapsed, UInt32.add_comm, UInt32.sub_add_cancel]
  have stamp : UInt32.ofNat time - telefono.elapsed (UInt32.ofNat time) =
      telefono.lastStateChangeTime.toUInt32 := by
    nth_rewrite 1 [clock]
    exact UInt32.add_sub_cancel _ _
  rw [age, reloj, UInt32.ofNat_sub (by omega), ofNat_vuelta,
    UInt32.ofNat_toNat, stamp, Int32.toInt32_toUInt32]

theorem highFor_lt (time : Nat) (telefono : Telefono) :
    telefono.highFor time < 2 ^ 32 := by
  unfold highFor
  split
  · exact (telefono.elapsed (UInt32.ofNat time)).toNat_lt
  · decide

/-- A handset which is put down between two digits is reported by one `DOWN`, and
nothing is left of the number, exactly when its level does not count as a pulse or
the number is cleared before that pulse completes it. -/
theorem hang_up (turnos : List (Turno Route Sample))
    (isUp : (node.after turnos).tuboUp = true)
    (isOpen : (node.after turnos).done = false)
    (idle : (node.after turnos).needToPrint = false)
    (short : (node.after turnos).fullnum.length < objectivenum.length)
    (colgado : Colgado) :
    Ends [down] (node.after turnos) colgado.lecturas ↔
      (node.after turnos).ClearsNumber colgado := by
  have uncounted : Uncounted (node.after turnos) :=
    node.machine.run_invariant uncounted_step (fun _ => rfl) turnos
  have starts := quieto_linea isUp isOpen idle uncounted
  revert short starts
  generalize node.after turnos = telefono
  intro short starts
  have hook : hangPhoneTime.toNat = 300 := rfl
  have bound := highFor_lt colgado.first.time telefono
  have gap := (List.isChain_cons_cons.mp colgado.spaced).1
  let since := colgado.first.time + 2 ^ 32 - telefono.highFor colgado.first.time
  have start : since =
      colgado.first.time + 2 ^ 32 - telefono.highFor colgado.first.time := rfl
  have firstTime : colgado.vuelta.first.time = colgado.first.time + 2 ^ 32 := rfl
  have secondTime : colgado.vuelta.second.time = colgado.second.time + 2 ^ 32 :=
    rfl
  have onTime : ¬ Late since colgado.vuelta.first ↔
      telefono.highFor colgado.first.time ≤ hangPhoneTime.toNat := by
    unfold Late
    omega
  have late : Late since colgado.vuelta.second ↔
      hangPhoneTime.toNat < telefono.highFor colgado.first.time +
        (colgado.second.time - colgado.first.time) := by
    unfold Late
    omega
  have ends {other : Telefono} (here : other.quieto =
      linea .high telefono.trueState (reloj since) telefono.fullnum 0) :
      Ends [down] other colgado.vuelta.lecturas ↔
        telefono.ClearsNumber colgado := by
    rw [ends_linea here (by omega) (by omega) short, onTime, late]
    rfl
  rw [← colgado.ends_vuelta]
  by_cases high : telefono.lastState = .high
  · rw [high, ← reloj_highFor colgado.first.time high] at starts
    exact ends starts
  · have zero : telefono.highFor colgado.first.time = 0 := if_neg high
    have fresh : since = colgado.vuelta.first.time := by omega
    rw [colgado.vuelta.ends_fresh starts high short, ← fresh]
    exact ends rfl

/-- A second on the hook which is read every 100 ms. -/
def segundo : Colgado where
  first := ⟨3500, 1023⟩
  second := ⟨3600, 1023⟩
  later := (List.range 8).map fun i => ⟨3700 + 100 * i, 1023⟩
  hung := by decide
  spaced := by decide
  lasts := by decide
  brief := by decide

instance (words : List Text) (telefono : Telefono) (lecturas : List Lectura) :
    Decidable (Ends words telefono lecturas) :=
  inferInstanceAs (Decidable (_ ∧ _))

/-- With one digit dialled, the digit of the hang-up is cleared with it. -/
theorem hang_up_unUno :
    (node.after unUno).fullnum = ['1'] ∧
      Ends [down] (node.after unUno) segundo.lecturas := by
  have cleared : (node.after unUno).ClearsNumber segundo := by
    decide +kernel
  exact ⟨by decide +kernel, (hang_up unUno (by decide +kernel) (by decide +kernel)
    (by decide +kernel) (by decide +kernel) segundo).mpr cleared⟩

/-- With two digits dialled, the digit of the hang-up makes the number a wrong
one. -/
theorem hang_up_fails :
    let telefono := node.after dosUnos
    telefono.tuboUp = true ∧ telefono.done = false ∧
      telefono.needToPrint = false ∧
      telefono.fullnum.length < objectivenum.length ∧
      packets (node.machine.trace telefono
        (segundo.lecturas.map Lectura.turno)) = [fail, down] ∧
      ¬ Ends [down] telefono segundo.lecturas := by
  decide +kernel

end Telefono

end Salsipuedes

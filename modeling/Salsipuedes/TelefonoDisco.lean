import Mathlib.Data.List.Flatten
import Mathlib.Data.List.Chain
import Salsipuedes.TelefonoTubo

/-!
# Dialling

A digit is dialled by the line leaving its rest and going `high` once for each
pulse.  What the sketch sees of it is a list of stretches of the line at one
level, each with its own readings.  When the stretches are long enough to be
debounced and follow each other fast enough, the sketch decodes the digits.
-/

namespace Salsipuedes

namespace Telefono

/-- One reading of the line, at one value of the clock. -/
structure Lectura where
  time : Nat
  analogin : Int

def Lectura.nivel (lectura : Lectura) : Nivel :=
  Telefono.nivel lectura.analogin

/-- What an iteration samples when its clock reads one value. -/
def Lectura.sample (lectura : Lectura) : Sample where
  analogin := lectura.analogin
  millis := fun _ => UInt32.ofNat lectura.time

/-- The iteration which takes a reading. -/
def Lectura.turno (lectura : Lectura) : Turno Route Sample :=
  .iterate lectura.sample

/-- The clock of the readings does not go back. -/
def Ordered (lecturas : List Lectura) : Prop :=
  lecturas.Pairwise fun lectura next => lectura.time ≤ next.time

/-- A stretch of the line at one level: the reading which first sees the level
and the ones which see it again. -/
structure Tramo where
  first : Lectura
  later : List Lectura
  steady : ∀ lectura ∈ later, lectura.nivel = first.nivel

namespace Tramo

def nivel (tramo : Tramo) : Nivel :=
  tramo.first.nivel

def lecturas (tramo : Tramo) : List Lectura :=
  tramo.first :: tramo.later

/-- The level is seen again more than `time` after it was first seen. -/
def Lasts (time : Nat) (tramo : Tramo) : Prop :=
  ∃ lectura ∈ tramo.later, tramo.first.time + time < lectura.time

/-- The next change of the level comes at most 100 ms after this one. -/
def Prompt (tramo next : Tramo) : Prop :=
  next.first.time ≤ tramo.first.time + dialHasFinishedRotatingAfterMs.toNat

end Tramo

/-- The pulses of a digit. -/
def pulses (value : Nat) : Nat :=
  if value = 0 then 10 else value

/-- A cleanly dialled digit: stretches of the line, among them one `high` for
each pulse, and the rest which follows. -/
structure Digito where
  value : Nat
  tramos : List Tramo
  rest : Tramo
  isDigit : value < 10
  ticks : (tramos.map Tramo.nivel).count .high = pulses value
  debounced : ∀ tramo ∈ tramos, tramo.Lasts debounceDelay.toNat
  prompt : (tramos ++ [rest]).IsChain Tramo.Prompt
  resting : rest.nivel ≠ .high
  rested : rest.Lasts dialHasFinishedRotatingAfterMs.toNat
  brief : ∀ lectura ∈ rest.later,
    lectura.time < rest.first.time + resetTime.toNat

/-- All stretches of a digit. -/
def Digito.todos (digito : Digito) : List Tramo :=
  digito.tramos ++ [digito.rest]

/-- The digits as the sketch appends them to its number. -/
def cifras (digitos : List Digito) : Text :=
  digitos.flatMap fun digito => decimal digito.value

/-- The readings while digits are dialled, after some of the line at rest.  The
clock does not go back, and each stretch is a change of the level. -/
structure Discado where
  before : List Lectura
  digitos : List Digito
  resting : ∀ lectura ∈ before, lectura.nivel = .descolgado
  changes : (.descolgado ::
    (digitos.flatMap Digito.todos).map Tramo.nivel).IsChain (· ≠ ·)
  ordered : Ordered ((digitos.flatMap Digito.todos).flatMap Tramo.lecturas)

def Discado.lecturas (discado : Discado) : List Lectura :=
  discado.before ++
    (discado.digitos.flatMap Digito.todos).flatMap Tramo.lecturas

/-- The handset is up, the line is at rest, and nothing has been dialled. -/
structure Ready (telefono : Telefono) : Prop where
  tuboUp : telefono.tuboUp = true
  done : telefono.done = false
  fullnum : telefono.fullnum = []
  count : telefono.count = 0
  needToPrint : telefono.needToPrint = false
  lastState : telefono.lastState = .descolgado
  trueState : telefono.trueState = .descolgado

/-- The datagrams among some effects. -/
def packets (events : List NodeEvent) : List Text :=
  events.filterMap NodeEvent.packet?

/-! ## One reading -/

def reloj (time : Nat) : Int32 :=
  (UInt32.ofNat time).toInt32

theorem elapsed_toNat {telefono : Telefono} {since time : Nat}
    (stamped : telefono.lastStateChangeTime = reloj since)
    (order : since ≤ time) :
    (telefono.elapsed (UInt32.ofNat time)).toNat = (time - since) % 2 ^ 32 := by
  have difference : UInt32.ofNat time - UInt32.ofNat since =
      UInt32.ofNat (time - since) := (UInt32.ofNat_sub order).symm
  rw [elapsed, stamped, reloj, UInt32.toUInt32_toInt32, difference,
    UInt32.toNat_ofNat']

theorem elapsed_gt_iff {telefono : Telefono} {since time : Nat}
    {bound : UInt32} (stamped : telefono.lastStateChangeTime = reloj since)
    (order : since ≤ time) (span : time < since + 2 ^ 32) :
    telefono.elapsed (UInt32.ofNat time) > bound ↔
      since + bound.toNat < time := by
  rw [gt_iff_lt, UInt32.lt_iff_toNat_lt, elapsed_toNat stamped order,
    Nat.mod_eq_of_lt (by omega)]
  omega

/-- The telephone in the middle of a number, with its handset up. -/
def linea (level stable : Nivel) (stamp : Int32) (number : Text)
    (count : Nat) : Telefono where
  tuboUp := true
  needToPrint := decide (0 < count)
  count := count
  lastState := level
  trueState := stable
  lastStateChangeTime := stamp
  fullnum := number
  done := false
  out := []

/-- The globals without the effects of the last turn. -/
def quieto (telefono : Telefono) : Telefono :=
  { telefono with out := [] }

theorem step_turno (telefono : Telefono) (lectura : Lectura) :
    node.machine.step telefono lectura.turno =
      loop lectura.sample telefono.quieto :=
  rfl

theorem emit_turno (telefono : Telefono) (lectura : Lectura) :
    node.machine.emit telefono lectura.turno =
      (loop lectura.sample telefono.quieto).out :=
  rfl

/-- A pulse is counted when the level is stable. -/
theorem watchHook_up {reading : Nivel} {now : UInt32} {telefono : Telefono}
    (isUp : telefono.tuboUp = true)
    (noHang : reading = .high → ¬ telefono.elapsed now > hangPhoneTime) :
    telefono.watchHook reading now = telefono := by
  unfold watchHook
  split
  · rename_i late
    rw [if_neg (fun hung => noHang hung.1 late), if_neg (by simp [isUp])]
  · rfl

/-- A reading which does not change the level is not noted. -/
theorem noteChange_same {reading : Nivel} {telefono : Telefono}
    (same : reading = telefono.lastState) (now : UInt32) :
    telefono.noteChange reading now = telefono :=
  if_neg (not_not.mpr same)

/-- A level which was taken over before does not count again. -/
theorem debounce_same {reading : Nivel} {telefono : Telefono}
    (same : reading = telefono.trueState) (now : UInt32) :
    telefono.debounce reading now = telefono := by
  unfold debounce
  split
  · exact if_neg (not_not.mpr same)
  · rfl

/-- An iteration without a hang-up, and in time. -/
theorem loop_eq_verdict (sample : Sample) {telefono dialled heard : Telefono}
    (dials : telefono.completeDigit (sample.millis 0) = dialled)
    (hears : debounce (nivel sample.analogin) (sample.millis 2)
      (noteChange (nivel sample.analogin) (sample.millis 1) dialled) = heard)
    (isUp : heard.tuboUp = true)
    (noHang : nivel sample.analogin = .high →
      ¬ heard.elapsed (sample.millis 3) > hangPhoneTime)
    (onTime : heard.done = true ∨ heard.fullnum = [] ∨
      ¬ heard.elapsed (sample.millis 4) > resetTime) :
    loop sample telefono =
      { verdict heard with lastState := nivel sample.analogin } := by
  have inTime : heard.timeOut (sample.millis 4) = heard := by
    unfold timeOut
    rcases onTime with finished | empty | early
    · rw [if_neg (by simp [finished])]
    · split
      · rw [if_neg (by simp [empty])]
      · rfl
    · rw [if_neg (fun late => early late.1)]
  rw [loop_eq, Telefono.heard, escucha, dials, hears, watchHook_up isUp noHang,
    inTime]

theorem verdict_of_incomplete {telefono : Telefono}
    (calm : telefono.done = true ∨
      telefono.fullnum.length < objectivenum.length) :
    verdict telefono = telefono := by
  unfold verdict
  rcases calm with finished | short
  · rw [if_neg (by simp [finished]), if_neg (by simp [finished])]
  · rw [if_neg (by rintro ⟨right, _⟩; rw [right] at short; omega),
      if_neg (by rintro ⟨long, _⟩; omega)]

/-- The pulses after a stable level: a new `high` is one more. -/
def counted (level stable : Nivel) (count : Nat) : Nat :=
  if level = .high ∧ stable ≠ .high then count + 1 else count

section Linea

variable {level stable : Nivel} {stamp : Int32} {number : Text} {count : Nat}
variable {lectura : Lectura}

theorem completeDigit_none (now : UInt32) :
    (linea level stable stamp number 0).completeDigit now =
      linea level stable stamp number 0 := by
  rw [completeDigit, if_neg (by simp [linea])]

theorem completeDigit_early {since time : Nat} (order : since ≤ time)
    (early : time ≤ since + dialHasFinishedRotatingAfterMs.toNat) :
    (linea level stable (reloj since) number count).completeDigit
        (UInt32.ofNat time) =
      linea level stable (reloj since) number count := by
  have bound : dialHasFinishedRotatingAfterMs.toNat = 100 := rfl
  rw [completeDigit, if_neg]
  rintro ⟨late, _⟩
  have := (elapsed_gt_iff rfl order (by omega)).mp late
  omega

theorem debounce_early {since time : Nat} (order : since ≤ time)
    (early : ¬ since + debounceDelay.toNat < time)
    {telefono : Telefono} (stamped : telefono.lastStateChangeTime = reloj since)
    (reading : Nivel) :
    telefono.debounce reading (UInt32.ofNat time) = telefono := by
  have bound : debounceDelay.toNat = 10 := rfl
  rw [debounce, if_neg]
  exact fun late => early ((elapsed_gt_iff stamped order (by omega)).mp late)

/-- A level which is old enough is taken over, and a new `high` is counted. -/
theorem debounce_old {now : UInt32} (printed : List NodeEvent)
    (old : (linea level stable stamp number count).elapsed now > debounceDelay)
    (few : count < 2 ^ 31 - 1) :
    debounce level now { linea level stable stamp number count with
      out := printed } =
      { linea level level stamp number (counted level stable count) with
        out := printed } := by
  let before : Telefono :=
    { linea level stable stamp number count with out := printed }
  have late : before.elapsed now > debounceDelay := old
  by_cases same : level = stable
  · subst same
    rw [counted, if_neg (by simp)]
    exact debounce_same rfl now
  · have fresh : level ≠ before.trueState := same
    rw [debounce, if_pos late, if_pos fresh]
    by_cases pulse : level = .high
    · subst pulse
      have more : toInt 32 ((count : Int) + 1) = ((count + 1 : Nat) : Int) := by
        rw [toInt_of_small (by omega) (by omega)]
        rfl
      rw [if_pos rfl, counted, if_pos ⟨rfl, fun eq => same eq.symm⟩]
      simp only [linea, more]
      simp
    · rw [if_neg pulse, counted, if_neg (by simp [pulse])]
      rfl

theorem debounce_late {since time : Nat}
    (late : since + debounceDelay.toNat < time)
    (span : time < since + 2 ^ 32) (few : count < 2 ^ 31 - 1) :
    (linea level stable (reloj since) number count).debounce level
        (UInt32.ofNat time) =
      linea level level (reloj since) number (counted level stable count) :=
  debounce_old [] ((elapsed_gt_iff rfl (by omega) span).mpr late) few

/-- A reading which changes the level, before the digit is complete. -/
theorem loop_change (changes : lectura.nivel ≠ level)
    (incomplete : (linea level stable stamp number count).completeDigit
      (UInt32.ofNat lectura.time) = linea level stable stamp number count)
    (short : number.length < objectivenum.length) :
    loop lectura.sample (linea level stable stamp number count) =
      linea lectura.nivel stable (reloj lectura.time) number count := by
  have noted : noteChange lectura.nivel (UInt32.ofNat lectura.time)
      (linea level stable stamp number count) =
      linea level stable (reloj lectura.time) number count := by
    rw [noteChange]
    exact if_pos changes
  have young : ∀ bound : UInt32,
      ¬ (linea level stable (reloj lectura.time) number count).elapsed
        (UInt32.ofNat lectura.time) > bound := by
    intro bound late
    have := (elapsed_gt_iff rfl (le_refl lectura.time) (by omega)).mp late
    omega
  have hears : debounce lectura.nivel (UInt32.ofNat lectura.time)
      (noteChange lectura.nivel (UInt32.ofNat lectura.time)
        (linea level stable stamp number count)) =
      linea level stable (reloj lectura.time) number count := by
    rw [noted, debounce, if_neg (young _)]
  rw [loop_eq_verdict lectura.sample incomplete hears rfl (fun _ => young _)
    (.inr (.inr (young _))), verdict_of_incomplete (.inr short)]
  rfl

/-- The level and the pulses after the level was seen again. -/
def heldLinea (level stable : Nivel) (since time : Nat) (number : Text)
    (count : Nat) : Telefono :=
  if since + debounceDelay.toNat < time then
    linea level level (reloj since) number (counted level stable count)
  else
    linea level stable (reloj since) number count

theorem hears_again (stable : Nivel) (number : Text) {since : Nat}
    (same : lectura.nivel = level)
    (order : since ≤ lectura.time) (span : lectura.time < since + 2 ^ 32)
    (few : count < 2 ^ 31 - 1) :
    debounce lectura.nivel (UInt32.ofNat lectura.time)
        (noteChange lectura.nivel (UInt32.ofNat lectura.time)
          (linea level stable (reloj since) number count)) =
      heldLinea level stable since lectura.time number count := by
  have noted : noteChange lectura.nivel (UInt32.ofNat lectura.time)
      (linea level stable (reloj since) number count) =
      linea level stable (reloj since) number count :=
    noteChange_same same _
  rw [noted, same, heldLinea]
  split
  · rename_i late
    exact debounce_late late span few
  · rename_i early
    exact debounce_early order early rfl level

theorem heldLinea_eq (level stable : Nivel) (since time : Nat) (number : Text)
    (count : Nat) :
    ∃ stable' count', heldLinea level stable since time number count =
      linea level stable' (reloj since) number count' := by
  unfold heldLinea
  split
  · exact ⟨_, _, rfl⟩
  · exact ⟨_, _, rfl⟩

/-- A reading which sees the level again, before the digit is complete. -/
theorem loop_again {since : Nat} (same : lectura.nivel = level)
    (incomplete : (linea level stable (reloj since) number count).completeDigit
      (UInt32.ofNat lectura.time) =
        linea level stable (reloj since) number count)
    (order : since ≤ lectura.time)
    (noHang : level = .high → lectura.time ≤ since + hangPhoneTime.toNat)
    (onTime : lectura.time ≤ since + resetTime.toNat)
    (short : number.length < objectivenum.length) (few : count < 2 ^ 31 - 1) :
    loop lectura.sample (linea level stable (reloj since) number count) =
      heldLinea level stable since lectura.time number count := by
  have limit : resetTime.toNat = 2000000 := rfl
  have span : lectura.time < since + 2 ^ 32 := by omega
  have hears := hears_again stable number same order span few
  obtain ⟨stable', count', held⟩ :=
    heldLinea_eq level stable since lectura.time number count
  rw [held] at hears ⊢
  rw [loop_eq_verdict lectura.sample incomplete hears rfl, verdict_of_incomplete (.inr short)]
  · rw [← same]
    rfl
  · intro high late
    have := (elapsed_gt_iff rfl order span).mp late
    have := noHang (same.symm.trans high)
    omega
  · right
    right
    intro late
    have := (elapsed_gt_iff rfl order span).mp late
    omega

end Linea

/-- A turn which reads the line and sends no datagram. -/
theorem reads {telefono before after : Telefono} {lectura : Lectura}
    (starts : telefono.quieto = before)
    (loops : loop lectura.sample before = after) (silent : after.out = []) :
    (node.machine.step telefono lectura.turno).quieto = after ∧
      packets (node.machine.emit telefono lectura.turno) = [] := by
  rw [step_turno, emit_turno, starts, loops, silent]
  constructor
  · rw [quieto, ← silent]
  · rfl

theorem heldLinea_stable (level : Nivel) (since time : Nat) (number : Text)
    (count : Nat) :
    heldLinea level level since time number count =
      linea level level (reloj since) number count := by
  have same : counted level level count = count := by
    rw [counted, if_neg (by simp)]
  rw [heldLinea, same, ite_self]

/-- A reading of a stretch at most `span` after its first one. -/
def Tramo.Within (span : Nat) (tramo : Tramo) (lectura : Lectura) : Prop :=
  lectura.nivel = tramo.nivel ∧ tramo.first.time ≤ lectura.time ∧
    lectura.time ≤ tramo.first.time + span

/-- A stretch of the line within a digit: its level is taken over, and a pulse
is counted. -/
theorem run_tramo {telefono : Telefono} {tramo : Tramo} {level : Nivel}
    {stamp : Int32} {number : Text} {count : Nat}
    (starts : telefono.quieto = linea level level stamp number count)
    (changes : tramo.nivel ≠ level)
    (incomplete : (linea level level stamp number count).completeDigit
      (UInt32.ofNat tramo.first.time) = linea level level stamp number count)
    (short : number.length < objectivenum.length)
    (few : count + 1 < 2 ^ 31 - 1)
    (lasts : tramo.Lasts debounceDelay.toNat)
    (within : ∀ lectura ∈ tramo.later,
      tramo.Within dialHasFinishedRotatingAfterMs.toNat lectura) :
    (node.machine.run telefono (tramo.lecturas.map Lectura.turno)).quieto =
        linea tramo.nivel tramo.nivel (reloj tramo.first.time) number
          (counted tramo.nivel level count) ∧
      packets (node.machine.trace telefono
        (tramo.lecturas.map Lectura.turno)) = [] := by
  have digit : dialHasFinishedRotatingAfterMs.toNat = 100 := rfl
  have hang : hangPhoneTime.toNat = 300 := rfl
  have limit : resetTime.toNat = 2000000 := rfl
  have more : counted tramo.nivel level count < 2 ^ 31 - 1 := by
    unfold counted
    split <;> omega
  obtain ⟨first, silent⟩ :=
    reads starts (loop_change changes incomplete short) rfl
  have again : ∀ (stable : Nivel) (pulses : Nat) (current : Telefono)
      (lectura : Lectura), pulses < 2 ^ 31 - 1 →
      tramo.Within dialHasFinishedRotatingAfterMs.toNat lectura →
      current.quieto =
        linea tramo.nivel stable (reloj tramo.first.time) number pulses →
      (node.machine.step current lectura.turno).quieto =
          heldLinea tramo.nivel stable tramo.first.time lectura.time number
            pulses ∧
        packets (node.machine.emit current lectura.turno) = [] := by
    rintro stable pulses current lectura small ⟨same, order, early⟩ here
    apply reads here (loop_again same (completeDigit_early order early) order
      (by omega) (by omega) short small)
    obtain ⟨_, _, held⟩ := heldLinea_eq tramo.nivel stable tramo.first.time
      lectura.time number pulses
    rw [held]
    rfl
  obtain ⟨last, quiet⟩ := node.machine.run_switch Lectura.turno
    NodeEvent.packet? [] (tramo.Within dialHasFinishedRotatingAfterMs.toNat)
    (fun lectura => tramo.first.time + debounceDelay.toNat < lectura.time)
    (fun current => current.quieto =
      linea tramo.nivel level (reloj tramo.first.time) number count)
    (fun current => current.quieto =
      linea tramo.nivel tramo.nivel (reloj tramo.first.time) number
        (counted tramo.nivel level count))
    (by
      intro current lectura allowed here early
      have held := again level count current lectura (by omega) allowed here
      rwa [heldLinea, if_neg early] at held)
    (by
      intro current lectura allowed here late
      have held := again level count current lectura (by omega) allowed here
      rwa [heldLinea, if_pos late] at held)
    (by
      intro current lectura allowed here
      have held := again _ _ current lectura more allowed here
      rwa [heldLinea_stable] at held)
    first within lasts
  refine ⟨last, ?_⟩
  rw [Tramo.lecturas, List.map_cons, MealyMachine.trace_cons, packets,
    List.filterMap_append]
  exact (congrArg₂ _ silent quiet).trans (List.append_nil _)

/-! ## The rest after a digit -/

/-- The telephone after a digit: nothing is pending, and the number is `number`. -/
def reposo (level stable : Nivel) (stamp : Int32) (number : Text)
    (done : Bool) : Telefono :=
  { linea level stable stamp number 0 with done := done }

theorem loop_reposo (stable : Nivel) (stamp : Int32) {level : Nivel}
    {number : Text} {done : Bool} {lectura : Lectura}
    (same : lectura.nivel = level)
    (resting : level ≠ .high) (settled : done = true ∨ number = []) :
    ∃ stable', (stable' = level ∨ stable' = stable) ∧
      loop lectura.sample (reposo level stable stamp number done) =
        reposo level stable' stamp number done := by
  have dials : (reposo level stable stamp number done).completeDigit
      (UInt32.ofNat lectura.time) = reposo level stable stamp number done := by
    rw [completeDigit, if_neg (by simp [reposo, linea])]
  have noted : noteChange lectura.nivel (UInt32.ofNat lectura.time)
      (reposo level stable stamp number done) =
      reposo level stable stamp number done :=
    noteChange_same same _
  have hears : ∃ stable', (stable' = level ∨ stable' = stable) ∧
      debounce lectura.nivel (UInt32.ofNat lectura.time)
      (noteChange lectura.nivel (UInt32.ofNat lectura.time)
        (reposo level stable stamp number done)) =
      reposo level stable' stamp number done := by
    rw [noted, debounce, same, if_neg resting]
    split
    · split
      · exact ⟨level, .inl rfl, rfl⟩
      · exact ⟨stable, .inr rfl, rfl⟩
    · exact ⟨stable, .inr rfl, rfl⟩
  obtain ⟨stable', which, hears⟩ := hears
  refine ⟨stable', which, ?_⟩
  have calm : (reposo level stable' stamp number done).done = true ∨
      (reposo level stable' stamp number done).fullnum.length <
        objectivenum.length := by
    rcases settled with finished | empty
    · exact .inl finished
    · subst empty
      exact .inr (by simp [reposo, linea, objectivenum])
  rw [loop_eq_verdict lectura.sample dials hears rfl
    (fun high => absurd (same.symm.trans high) resting)
    (by rcases settled with finished | empty
        · exact .inl finished
        · exact .inr (.inl empty)), verdict_of_incomplete calm]
  rw [← same]
  rfl

/-- The datagrams about a number to which a digit has been added. -/
def answer (number : Text) : List Text :=
  if number.length < objectivenum.length then []
  else if number = objectivenum then [win]
  else [fail]

/-- The telephone after a digit has been added: it goes on with an incomplete
number, keeps the right one and clears a wrong one. -/
def Dialled (level : Nivel) (stamp : Int32) (number : Text)
    (telefono : Telefono) : Prop :=
  if number.length < objectivenum.length then
    telefono.quieto = linea level level stamp number 0
  else if number = objectivenum then
    ∃ stable stamp, telefono.quieto = reposo level stable stamp number true
  else
    ∃ stable stamp, telefono.quieto = reposo level stable stamp [] false

/-- The reading at which a digit is complete, before a hang-up. -/
theorem step_complete {telefono : Telefono} {lectura : Lectura}
    {level stable : Nivel} {since : Nat} {number digit : Text} {count : Nat}
    (starts : telefono.quieto =
      linea level stable (reloj since) number count)
    (same : lectura.nivel = level) (settled : level = stable ∨ level ≠ .high)
    (noHang : level = .high → lectura.time ≤ since + hangPhoneTime.toNat)
    (late : since + dialHasFinishedRotatingAfterMs.toNat < lectura.time)
    (onTime : lectura.time ≤ since + resetTime.toNat) (pending : 0 < count)
    (spelled : decimal ((count : Int).tmod 10) = digit) :
    Dialled level (reloj since) (number ++ digit)
        (node.machine.step telefono lectura.turno) ∧
      packets (node.machine.emit telefono lectura.turno) =
        answer (number ++ digit) := by
  have bound : dialHasFinishedRotatingAfterMs.toNat = 100 := rfl
  have delay : debounceDelay.toNat = 10 := rfl
  have limit : resetTime.toNat = 2000000 := rfl
  have order : since ≤ lectura.time := by omega
  have span : lectura.time < since + 2 ^ 32 := by omega
  let printed : List NodeEvent :=
    [.println (String.ofList (number ++ digit))]
  have dials : (linea level stable (reloj since) number count).completeDigit
      (UInt32.ofNat lectura.time) =
      { linea level stable (reloj since) (number ++ digit) 0 with
        out := printed } := by
    have complete : (linea level stable (reloj since) number count).elapsed
        (UInt32.ofNat lectura.time) > dialHasFinishedRotatingAfterMs ∧
        (linea level stable (reloj since) number count).needToPrint = true :=
      ⟨(elapsed_gt_iff rfl order span).mpr late, by simp [linea, pending]⟩
    rw [completeDigit, if_pos complete]
    simp only [linea, spelled, emit]
    rfl
  have hears : debounce lectura.nivel (UInt32.ofNat lectura.time)
      (noteChange lectura.nivel (UInt32.ofNat lectura.time)
        { linea level stable (reloj since) (number ++ digit) 0 with
          out := printed }) =
      { linea level level (reloj since) (number ++ digit) 0 with
        out := printed } := by
    have noted : noteChange lectura.nivel (UInt32.ofNat lectura.time)
        { linea level stable (reloj since) (number ++ digit) 0 with
          out := printed } =
        { linea level stable (reloj since) (number ++ digit) 0 with
          out := printed } :=
      noteChange_same same _
    have none : counted level stable 0 = 0 :=
      if_neg fun pulse => settled.elim (fun kept => pulse.2 (kept ▸ pulse.1))
        (fun other => other pulse.1)
    have taken := debounce_old printed
      (show (linea level stable (reloj since) (number ++ digit) 0).elapsed
        (UInt32.ofNat lectura.time) > debounceDelay from
          (elapsed_gt_iff rfl order span).mpr (by omega)) (by decide)
    rw [none] at taken
    rw [noted, same]
    exact taken
  have judged := loop_eq_verdict lectura.sample dials hears rfl
    (fun high old => by
      have := (elapsed_gt_iff rfl order span).mp old
      have := noHang (same.symm.trans high)
      omega)
    (.inr (.inr fun old => by
      have := (elapsed_gt_iff rfl order span).mp old
      omega))
  have read : nivel lectura.sample.analogin = level := same
  rw [step_turno, emit_turno, starts, judged, read, Dialled, answer]
  by_cases short : (number ++ digit).length < objectivenum.length
  · rw [if_pos short, if_pos short, verdict_of_incomplete (.inr short)]
    exact ⟨rfl, rfl⟩
  · rw [if_neg short, if_neg short]
    by_cases right : number ++ digit = objectivenum
    · rw [if_pos right, if_pos right, verdict]
      rw [if_pos ⟨right, rfl⟩]
      exact ⟨⟨level, reloj since, rfl⟩, rfl⟩
    · rw [if_neg right, if_neg right, verdict]
      rw [if_neg (fun equal => right equal.1), if_pos ⟨by
        change _ < (number ++ digit).length + 1
        omega, rfl⟩]
      exact ⟨⟨.low, 0, rfl⟩, rfl⟩

/-- A further reading of the rest changes nothing. -/
theorem step_dialled {telefono : Telefono} {lectura : Lectura} {level : Nivel}
    {since : Nat} {number : Text}
    (dialled : Dialled level (reloj since) number telefono)
    (same : lectura.nivel = level) (resting : level ≠ .high)
    (order : since ≤ lectura.time)
    (onTime : lectura.time ≤ since + resetTime.toNat) :
    Dialled level (reloj since) number
        (node.machine.step telefono lectura.turno) ∧
      packets (node.machine.emit telefono lectura.turno) = [] := by
  unfold Dialled at *
  by_cases short : number.length < objectivenum.length
  · rw [if_pos short] at *
    have dials : (linea level level (reloj since) number 0).completeDigit
        (UInt32.ofNat lectura.time) =
        linea level level (reloj since) number 0 :=
      completeDigit_none _
    have loops := loop_again same dials order
      (fun high => absurd high resting) onTime short (by decide)
    rw [heldLinea_stable] at loops
    exact reads dialled loops rfl
  · rw [if_neg short] at *
    by_cases right : number = objectivenum
    · rw [if_pos right] at *
      obtain ⟨stable, stamp, here⟩ := dialled
      obtain ⟨stable', _, loops⟩ :=
        loop_reposo stable stamp same resting (.inl rfl)
      obtain ⟨next, quiet⟩ := reads here loops rfl
      exact ⟨⟨stable', stamp, next⟩, quiet⟩
    · rw [if_neg right] at *
      obtain ⟨stable, stamp, here⟩ := dialled
      obtain ⟨stable', _, loops⟩ :=
        @loop_reposo stable stamp level [] false lectura same resting (.inr rfl)
      obtain ⟨next, quiet⟩ := reads here loops rfl
      exact ⟨⟨stable', stamp, next⟩, quiet⟩

/-- The rest after a digit: once it has lasted, the digit is added. -/
theorem run_rest {telefono : Telefono} {rest : Tramo} {level : Nivel}
    {stamp : Int32} {number digit : Text} {count : Nat}
    (starts : telefono.quieto = linea level level stamp number count)
    (changes : rest.nivel ≠ level) (resting : rest.nivel ≠ .high)
    (incomplete : (linea level level stamp number count).completeDigit
      (UInt32.ofNat rest.first.time) = linea level level stamp number count)
    (short : number.length < objectivenum.length) (pending : 0 < count)
    (few : count < 2 ^ 31 - 1)
    (spelled : decimal ((count : Int).tmod 10) = digit)
    (lasts : rest.Lasts dialHasFinishedRotatingAfterMs.toNat)
    (within : ∀ lectura ∈ rest.later, rest.Within resetTime.toNat lectura) :
    Dialled rest.nivel (reloj rest.first.time) (number ++ digit)
        (node.machine.run telefono (rest.lecturas.map Lectura.turno)) ∧
      packets (node.machine.trace telefono
        (rest.lecturas.map Lectura.turno)) = answer (number ++ digit) := by
  obtain ⟨first, silent⟩ :=
    reads starts (loop_change changes incomplete short) rfl
  obtain ⟨last, answered⟩ := node.machine.run_switch Lectura.turno
    NodeEvent.packet? (answer (number ++ digit))
    (rest.Within resetTime.toNat)
    (fun lectura => rest.first.time + dialHasFinishedRotatingAfterMs.toNat <
      lectura.time)
    (fun current => ∃ stable, current.quieto =
      linea rest.nivel stable (reloj rest.first.time) number count)
    (Dialled rest.nivel (reloj rest.first.time) (number ++ digit))
    (by
      rintro current lectura ⟨same, order, onTime⟩ ⟨stable, here⟩ early
      have dials : (linea rest.nivel stable (reloj rest.first.time) number
          count).completeDigit (UInt32.ofNat lectura.time) =
          linea rest.nivel stable (reloj rest.first.time) number count :=
        completeDigit_early order (Nat.le_of_not_lt early)
      have kept : counted rest.nivel stable count = count := by
        rw [counted, if_neg (by simp [resting])]
      have loops := loop_again same dials order
        (fun high => absurd high resting) onTime short few
      rw [heldLinea, kept] at loops
      split at loops
      · obtain ⟨next, quiet⟩ := reads here loops rfl
        exact ⟨⟨_, next⟩, quiet⟩
      · obtain ⟨next, quiet⟩ := reads here loops rfl
        exact ⟨⟨_, next⟩, quiet⟩)
    (by
      rintro current lectura ⟨same, order, onTime⟩ ⟨stable, here⟩ late
      exact step_complete here same (.inr resting)
        (fun high => absurd high resting) late onTime pending spelled)
    (by
      rintro current lectura ⟨same, order, onTime⟩ dialled
      exact step_dialled dialled same resting order onTime)
    ⟨_, first⟩ within lasts
  refine ⟨last, ?_⟩
  rw [Tramo.lecturas, List.map_cons, MealyMachine.trace_cons, packets,
    List.filterMap_append]
  exact (congrArg₂ _ silent answered).trans (List.nil_append _)

/-! ## Digits -/

theorem counted_of_ne {level stable : Nivel} (changes : level ≠ stable)
    (count : Nat) :
    counted level stable count = count + [level].count .high := by
  unfold counted
  by_cases pulse : level = .high
  · subst pulse
    rw [if_pos ⟨rfl, changes.symm⟩, List.count_singleton_self]
  · rw [if_neg (by simp [pulse]), List.count_eq_zero_of_not_mem]
    · rfl
    · simpa [eq_comm] using pulse

/-- The readings of a stretch lie before the digit would be complete, when the
next one begins promptly. -/
theorem Tramo.within_of_prompt {tramo next : Tramo} {later : List Lectura}
    (ordered : Ordered (tramo.lecturas ++ later)) (follows : next.first ∈ later)
    (prompt : tramo.Prompt next) :
    tramo.first.time ≤ next.first.time ∧
      ∀ lectura ∈ tramo.later,
        tramo.Within dialHasFinishedRotatingAfterMs.toNat lectura := by
  rw [Ordered, List.pairwise_append] at ordered
  obtain ⟨here, -, across⟩ := ordered
  rw [Tramo.lecturas, List.pairwise_cons] at here
  refine ⟨across tramo.first List.mem_cons_self next.first follows, ?_⟩
  intro lectura member
  have before := across lectura (List.mem_cons_of_mem _ member) next.first
    follows
  exact ⟨tramo.steady lectura member, here.1 lectura member,
    Nat.le_trans before prompt⟩

/-- The stretches of a digit, from some of them on. -/
theorem run_todos {rest : Tramo} {tramos : List Tramo} {telefono : Telefono}
    {level : Nivel} {stamp : Int32} {number digit : Text} {count : Nat}
    (starts : telefono.quieto = linea level level stamp number count)
    (incomplete : ∀ tramo ∈ (tramos ++ [rest]).head?,
      (linea level level stamp number count).completeDigit
        (UInt32.ofNat tramo.first.time) =
          linea level level stamp number count)
    (changes : (level :: (tramos ++ [rest]).map Tramo.nivel).IsChain (· ≠ ·))
    (prompt : (tramos ++ [rest]).IsChain Tramo.Prompt)
    (ordered : Ordered ((tramos ++ [rest]).flatMap Tramo.lecturas))
    (debounced : ∀ tramo ∈ tramos, tramo.Lasts debounceDelay.toNat)
    (resting : rest.nivel ≠ .high)
    (rested : rest.Lasts dialHasFinishedRotatingAfterMs.toNat)
    (brief : ∀ lectura ∈ rest.later,
      lectura.time < rest.first.time + resetTime.toNat)
    (short : number.length < objectivenum.length)
    (pending : 0 < count + (tramos.map Tramo.nivel).count .high)
    (few : count + (tramos.map Tramo.nivel).count .high < 2 ^ 31 - 2)
    (spelled : decimal (((count + (tramos.map Tramo.nivel).count .high :
      Nat) : Int).tmod 10) = digit) :
    Dialled rest.nivel (reloj rest.first.time) (number ++ digit)
        (node.machine.run telefono
          (((tramos ++ [rest]).flatMap Tramo.lecturas).map Lectura.turno)) ∧
      packets (node.machine.trace telefono
        (((tramos ++ [rest]).flatMap Tramo.lecturas).map Lectura.turno)) =
        answer (number ++ digit) := by
  induction tramos generalizing telefono level stamp count with
  | nil =>
      have within : ∀ lectura ∈ rest.later,
          rest.Within resetTime.toNat lectura := by
        intro lectura member
        simp only [Ordered, Tramo.lecturas, List.nil_append,
          List.flatMap_singleton, List.pairwise_cons] at ordered
        exact ⟨rest.steady lectura member, ordered.1 lectura member,
          Nat.le_of_lt (brief lectura member)⟩
      have change : rest.nivel ≠ level := by
        simpa [eq_comm] using changes
      have run := run_rest starts change resting
        (incomplete rest (by simp)) short pending (by simp at few; omega)
        spelled rested within
      simpa using run
  | cons tramo tramos ih =>
      rw [List.cons_append] at changes prompt ordered ⊢
      rw [List.map_cons, List.isChain_cons_cons] at changes
      rw [List.isChain_cons] at prompt
      rw [List.flatMap_cons] at ordered
      obtain ⟨change, laterChanges⟩ := changes
      obtain ⟨promptly, laterPrompt⟩ := prompt
      have laterOrdered := (List.pairwise_append.mp ordered).2.1
      have nonempty : tramos ++ [rest] ≠ [] := by simp
      obtain ⟨next, others, follows⟩ := List.exists_cons_of_ne_nil nonempty
      have nextPrompt : tramo.Prompt next := promptly next (by simp [follows])
      have nextMember : next.first ∈
          (tramos ++ [rest]).flatMap Tramo.lecturas := by
        simp [follows, Tramo.lecturas]
      obtain ⟨firstNext, within⟩ :=
        Tramo.within_of_prompt ordered nextMember nextPrompt
      have total : count + ((tramo :: tramos).map Tramo.nivel).count .high =
          count + [tramo.nivel].count .high +
            (tramos.map Tramo.nivel).count .high := by
        rw [List.map_cons, ← List.singleton_append, List.count_append,
          Nat.add_assoc]
      rw [total] at pending few spelled
      obtain ⟨state, quiet⟩ := run_tramo starts change.symm
        (incomplete tramo (by simp)) short (by omega)
        (debounced tramo List.mem_cons_self) within
      rw [counted_of_ne change.symm] at state
      have early : ∀ other ∈ (tramos ++ [rest]).head?,
          (linea tramo.nivel tramo.nivel (reloj tramo.first.time) number
            (count + [tramo.nivel].count .high)).completeDigit
              (UInt32.ofNat other.first.time) =
            linea tramo.nivel tramo.nivel (reloj tramo.first.time) number
              (count + [tramo.nivel].count .high) := by
        intro other member
        rw [follows, List.head?_cons, Option.mem_some] at member
        subst member
        exact completeDigit_early firstNext nextPrompt
      obtain ⟨dialled, answered⟩ := ih state early laterChanges laterPrompt
        laterOrdered
        (fun other member => debounced other (List.mem_cons_of_mem _ member))
        pending few spelled
      rw [List.flatMap_cons, List.map_append, MealyMachine.run_append,
        MealyMachine.trace_append, packets, List.filterMap_append]
      exact ⟨dialled, (congrArg₂ _ quiet answered).trans (List.nil_append _)⟩

theorem pulses_pos (value : Nat) : 0 < pulses value := by
  unfold pulses
  split <;> omega

theorem pulses_le {value : Nat} (digit : value < 10) : pulses value ≤ 10 := by
  unfold pulses
  split <;> omega

theorem decimal_pulses {value : Nat} (digit : value < 10) :
    decimal ((pulses value : Int).tmod 10) = decimal value := by
  revert value
  decide

theorem decimal_length {value : Nat} (digit : value < 10) :
    (decimal value).length = 1 := by
  revert value
  decide

theorem cifras_length (digitos : List Digito) :
    (cifras digitos).length = digitos.length := by
  induction digitos with
  | nil => rfl
  | cons digito digitos ih =>
      rw [cifras, List.flatMap_cons, List.length_append,
        decimal_length digito.isDigit, List.length_cons, Nat.add_comm]
      exact congrArg (· + 1) ih

/-- Clean digits are decoded one after the other. -/
theorem run_digitos {digitos : List Digito} {telefono : Telefono}
    {level : Nivel} {stamp : Int32} {number : Text}
    (starts : telefono.quieto = linea level level stamp number 0)
    (changes : (level ::
      (digitos.flatMap Digito.todos).map Tramo.nivel).IsChain (· ≠ ·))
    (ordered :
      Ordered ((digitos.flatMap Digito.todos).flatMap Tramo.lecturas))
    (short : number.length < objectivenum.length)
    (few : number.length + digitos.length ≤ objectivenum.length) :
    (∃ level stamp, Dialled level stamp (number ++ cifras digitos)
        (node.machine.run telefono
          (((digitos.flatMap Digito.todos).flatMap Tramo.lecturas).map
            Lectura.turno))) ∧
      packets (node.machine.trace telefono
        (((digitos.flatMap Digito.todos).flatMap Tramo.lecturas).map
          Lectura.turno)) = answer (number ++ cifras digitos) := by
  induction digitos generalizing telefono level stamp number with
  | nil =>
      rw [cifras, List.flatMap_nil, List.append_nil, answer, if_pos short]
      refine ⟨⟨level, stamp, ?_⟩, rfl⟩
      rw [Dialled, if_pos short]
      exact starts
  | cons digito digitos ih =>
      rw [List.flatMap_cons] at changes ordered ⊢
      have shape : level :: (digito.todos ++
          digitos.flatMap Digito.todos).map Tramo.nivel =
          (level :: digito.tramos.map Tramo.nivel) ++ digito.rest.nivel ::
            (digitos.flatMap Digito.todos).map Tramo.nivel := by
        simp [Digito.todos]
      rw [shape, List.isChain_split] at changes
      obtain ⟨here, laterChanges⟩ := changes
      have hereChanges : (level ::
          (digito.tramos ++ [digito.rest]).map Tramo.nivel).IsChain
            (· ≠ ·) := by
        simpa using here
      rw [Ordered, List.flatMap_append, List.pairwise_append] at ordered
      obtain ⟨hereOrdered, laterOrdered, _⟩ := ordered
      have digit := digito.isDigit
      have ticks := digito.ticks
      have some := pulses_pos digito.value
      have ten := pulses_le digit
      have spelled : decimal
          (((0 + (digito.tramos.map Tramo.nivel).count .high : Nat) :
            Int).tmod 10) = decimal digito.value := by
        rw [Nat.zero_add, ticks, decimal_pulses digit]
      obtain ⟨dialled, answered⟩ := run_todos starts
        (fun _ _ => completeDigit_none _) hereChanges digito.prompt hereOrdered
        digito.debounced digito.resting digito.rested digito.brief short
        (by omega) (by omega) spelled
      have longer : (number ++ decimal digito.value).length =
          number.length + 1 := by
        rw [List.length_append, decimal_length digit]
      have total : number ++ cifras (digito :: digitos) =
          (number ++ decimal digito.value) ++ cifras digitos := by
        rw [cifras, List.flatMap_cons, ← List.append_assoc]
        rfl
      rw [List.length_cons] at few
      rw [total, List.flatMap_append, List.map_append,
        MealyMachine.run_append, MealyMachine.trace_append, packets,
        List.filterMap_append]
      by_cases more : (number ++ decimal digito.value).length <
          objectivenum.length
      · rw [answer, if_pos more] at answered
        rw [Dialled, if_pos more] at dialled
        obtain ⟨last, rest⟩ := ih dialled laterChanges laterOrdered more
          (by omega)
        exact ⟨last, (congrArg₂ _ answered rest).trans (List.nil_append _)⟩
      · have none : digitos = [] := by
          rw [← List.length_eq_zero_iff]
          omega
        subst none
        rw [cifras, List.flatMap_nil, List.append_nil]
        exact ⟨⟨_, _, dialled⟩,
          (congrArg₂ _ answered rfl).trans (List.append_nil _)⟩

/-- The line at rest with its handset up. -/
theorem run_before {lecturas : List Lectura} {telefono : Telefono}
    {stamp : Int32}
    (starts : telefono.quieto = linea .descolgado .descolgado stamp [] 0)
    (resting : ∀ lectura ∈ lecturas, lectura.nivel = .descolgado) :
    (node.machine.run telefono (lecturas.map Lectura.turno)).quieto =
        linea .descolgado .descolgado stamp [] 0 ∧
      packets (node.machine.trace telefono
        (lecturas.map Lectura.turno)) = [] := by
  induction lecturas generalizing telefono with
  | nil => exact ⟨starts, rfl⟩
  | cons lectura lecturas ih =>
      obtain ⟨stable, which, loops⟩ := @loop_reposo .descolgado stamp
        .descolgado [] false lectura (resting lectura List.mem_cons_self)
        (by decide) (.inr rfl)
      have same : stable = .descolgado := which.elim id id
      subst same
      obtain ⟨next, quiet⟩ := reads starts loops rfl
      obtain ⟨last, rest⟩ := ih next fun other member =>
        resting other (List.mem_cons_of_mem _ member)
      rw [List.map_cons, MealyMachine.run_cons, MealyMachine.trace_cons,
        packets, List.filterMap_append]
      exact ⟨last, (congrArg₂ _ quiet rest).trans (List.nil_append _)⟩

/-- The handset is up, the line is at rest, and up to three digits are dialled
cleanly.  Then the number is made of these digits, nothing is pending after the
last rest, and three digits are answered by `WIN` if they are the right ones and
by one `FAIL`, which clears them, if not. -/
theorem digits_decoded {telefono : Telefono} (ready : Ready telefono)
    (discado : Discado)
    (few : discado.digitos.length ≤ objectivenum.length) :
    let last := node.machine.run telefono
      (discado.lecturas.map Lectura.turno)
    let sent := packets (node.machine.trace telefono
      (discado.lecturas.map Lectura.turno))
    last.count = 0 ∧ last.needToPrint = false ∧
      (discado.digitos.length < objectivenum.length →
        last.fullnum = cifras discado.digitos ∧ last.done = false ∧
          sent = []) ∧
      (discado.digitos.length = objectivenum.length →
        if cifras discado.digitos = objectivenum then
          last.fullnum = objectivenum ∧ last.done = true ∧ sent = [win]
        else
          last.fullnum = [] ∧ last.done = false ∧ sent = [fail]) := by
  intro last sent
  have starts : telefono.quieto =
      linea .descolgado .descolgado telefono.lastStateChangeTime [] 0 := by
    cases telefono
    obtain ⟨rfl, rfl, rfl, rfl, rfl, rfl, rfl⟩ := ready
    rfl
  obtain ⟨rested, quiet⟩ := run_before starts discado.resting
  obtain ⟨⟨level, stamp, dialled⟩, answered⟩ := run_digitos rested
    discado.changes discado.ordered (by decide) (by simpa using few)
  rw [List.nil_append] at dialled answered
  have ends : last = node.machine.run
      (node.machine.run telefono (discado.before.map Lectura.turno))
      (((discado.digitos.flatMap Digito.todos).flatMap Tramo.lecturas).map
        Lectura.turno) := by
    rw [← MealyMachine.run_append, ← List.map_append]
    rfl
  have answers : sent = answer (cifras discado.digitos) := by
    change packets (node.machine.trace telefono
      ((discado.before ++ _).map Lectura.turno)) = _
    rw [List.map_append, MealyMachine.trace_append, packets,
      List.filterMap_append]
    exact (congrArg₂ _ quiet answered).trans (List.nil_append _)
  rw [← ends] at dialled
  have length := cifras_length discado.digitos
  have field : ∀ {value : Telefono}, last.quieto = value →
      last.count = value.count ∧ last.needToPrint = value.needToPrint ∧
        last.fullnum = value.fullnum ∧ last.done = value.done := by
    rintro value rfl
    exact ⟨rfl, rfl, rfl, rfl⟩
  unfold Dialled at dialled
  rw [answers, answer]
  by_cases short : (cifras discado.digitos).length < objectivenum.length
  · rw [if_pos short] at dialled ⊢
    obtain ⟨count, pending, number, isOpen⟩ := field dialled
    exact ⟨count, pending, fun _ => ⟨number, isOpen, rfl⟩, by omega⟩
  · rw [if_neg short] at dialled ⊢
    by_cases right : cifras discado.digitos = objectivenum
    · rw [if_pos right] at dialled ⊢
      obtain ⟨stable, stamp, state⟩ := dialled
      obtain ⟨count, pending, number, finished⟩ := field state
      refine ⟨count, pending, by omega, fun _ => ?_⟩
      rw [if_pos right]
      exact ⟨number.trans right, finished, rfl⟩
    · rw [if_neg right] at dialled ⊢
      obtain ⟨stable, stamp, state⟩ := dialled
      obtain ⟨count, pending, number, isOpen⟩ := field state
      refine ⟨count, pending, by omega, fun _ => ?_⟩
      rw [if_neg right]
      exact ⟨number, isOpen, rfl⟩

/-- A stretch which is read three times. -/
def tramo (analogin : Int) (time : Nat) : Tramo where
  first := ⟨time, analogin⟩
  later := [⟨time + 15, analogin⟩, ⟨time + 30, analogin⟩]
  steady := by simp [Lectura.nivel]

/-- The rest after a digit. -/
def descanso (time : Nat) : Tramo where
  first := ⟨time, 600⟩
  later := [⟨time + 15, 600⟩, ⟨time + 120, 600⟩]
  steady := by simp [Lectura.nivel]

/-- The digit 1: the dial is turned, and goes back with one pulse. -/
def uno (time : Nat) : Digito where
  value := 1
  tramos := [tramo 0 time, tramo 1023 (time + 60)]
  rest := descanso (time + 120)
  isDigit := by decide
  ticks := rfl
  debounced := by
    intro stretch member
    have shape : ∃ analogin start, stretch = tramo analogin start := by
      simp only [List.mem_cons, List.not_mem_nil, or_false] at member
      rcases member with rfl | rfl
      · exact ⟨_, _, rfl⟩
      · exact ⟨_, _, rfl⟩
    obtain ⟨analogin, start, rfl⟩ := shape
    exact ⟨⟨start + 15, analogin⟩, by simp [tramo],
      Nat.add_lt_add_left (by decide) start⟩
  prompt := by
    have bound : dialHasFinishedRotatingAfterMs.toNat = 100 := rfl
    simp [List.isChain_cons_cons, Tramo.Prompt, tramo, descanso, bound]
  resting := (by decide : Nivel.descolgado ≠ .high)
  rested := ⟨⟨time + 120 + 120, 600⟩, by simp [descanso],
    Nat.add_lt_add_left (by decide) (time + 120)⟩
  brief := by
    have bound : resetTime.toNat = 2000000 := rfl
    simp [descanso, bound]

/-- The handset is lifted. -/
def levanta : List (Turno Route Sample) :=
  [Lectura.turno ⟨1000, 600⟩, Lectura.turno ⟨1400, 600⟩]

/-- The handset is lifted, and a one is dialled. -/
def unUno : List (Turno Route Sample) :=
  levanta ++ ((uno 2000).todos.flatMap Tramo.lecturas).map Lectura.turno

/-- The handset is lifted, and two ones are dialled. -/
def dosUnos : List (Turno Route Sample) :=
  unUno ++ ((uno 3000).todos.flatMap Tramo.lecturas).map Lectura.turno

/-- The number 111. -/
def unos : Discado where
  before := [⟨900, 600⟩]
  digitos := [uno 1000, uno 2000, uno 3000]
  resting := by decide
  changes := by decide
  ordered := by
    unfold Ordered
    decide

/-- The telephone as it is when its handset has just been lifted. -/
def alzado : Telefono :=
  { setup with
    tuboUp := true
    lastState := .descolgado
    trueState := .descolgado }

theorem digits_decoded_unos :
    packets (node.machine.trace alzado (unos.lecturas.map Lectura.turno)) =
      [fail] := by
  have ready : Ready alzado := ⟨rfl, rfl, rfl, rfl, rfl, rfl, rfl⟩
  have decoded := digits_decoded ready unos (by decide)
  have judged := decoded.2.2.2 rfl
  rw [if_neg (by decide)] at judged
  exact judged.2.2

end Telefono

end Salsipuedes

import Salsipuedes.TelefonoColgado

/-!
# Dialling again

Whatever was dialled before, a caller who lays the handset on the hook for a
second, lifts it for a second and dials has his number judged on its own.  A level
which lasts is found old by an iteration, which turns the hook; a number which is
judged on the way sets the clock of the level back once, and not twice.
-/

namespace Salsipuedes

namespace Telefono

/-- The readings of a line which stays at one level for a second. -/
structure Sostenido (level : Nivel) where
  first : Lectura
  later : List Lectura
  steady : ∀ lectura ∈ first :: later, lectura.nivel = level
  spaced : (first :: later).IsChain fun lectura next =>
    lectura.time ≤ next.time ∧ next.time ≤ lectura.time + 100
  lasts : ∃ lectura ∈ first :: later, first.time + 1000 ≤ lectura.time

def Sostenido.lecturas {level : Nivel} (sostenido : Sostenido level) :
    List Lectura :=
  sostenido.first :: sostenido.later

/-- A caller starts again: the handset lies on the hook, it is lifted, and a whole
number is dialled. -/
structure Llamada where
  hook : Sostenido .high
  lift : Sostenido .descolgado
  discado : Discado
  complete : discado.digitos.length = objectivenum.length

/-- The readings before the number is dialled. -/
def Llamada.before (llamada : Llamada) : List Lectura :=
  llamada.hook.lecturas ++ llamada.lift.lecturas

/-- A reading finds its level older than it takes to turn the hook. -/
def Old (telefono : Telefono) (lectura : Lectura) : Prop :=
  telefono.age 3 lectura.sample > hangPhoneTime

theorem age_quieto (place : Nat) (lectura : Lectura) (telefono : Telefono) :
    telefono.quieto.age place lectura.sample = telefono.age place lectura.sample :=
  @age_congr telefono.quieto telefono rfl rfl place lectura.sample

theorem old_quieto (lectura : Lectura) (telefono : Telefono) :
    telefono.quieto.Old lectura ↔ telefono.Old lectura := by
  rw [Old, Old, age_quieto]

/-! ## Young levels -/

section Young

variable {telefono : Telefono} {lectura : Lectura}

theorem escucha_stamp (lectura : Lectura) (telefono : Telefono) :
    (telefono.escucha lectura.sample).lastStateChangeTime =
      telefono.lastChange lectura.sample := by
  obtain ⟨_, _, _, _, hears⟩ := telefono.escucha_frame lectura.sample
  rw [hears]

/-- A young level neither turns the hook nor makes the number late. -/
theorem loop_young (young : ¬ telefono.Old lectura) :
    loop lectura.sample telefono =
      { verdict (telefono.escucha lectura.sample) with
        lastState := lectura.nivel } := by
  have hang : hangPhoneTime.toNat = 300 := rfl
  have limit : resetTime.toNat = 2000000 := rfl
  have early : ¬ (telefono.escucha lectura.sample).elapsed
      (UInt32.ofNat lectura.time) > hangPhoneTime := by
    rw [elapsed, escucha_stamp]
    exact young
  have onTime : ¬ (telefono.escucha lectura.sample).elapsed
      (UInt32.ofNat lectura.time) > resetTime := by
    rw [gt_iff_lt, UInt32.lt_iff_toNat_lt] at early ⊢
    omega
  have hears : telefono.heard lectura.sample = telefono.escucha lectura.sample := by
    change watchHook lectura.nivel (UInt32.ofNat lectura.time)
      (telefono.escucha lectura.sample) = _
    rw [watchHook, if_neg early]
  have judges : (telefono.escucha lectura.sample).timeOut
      (lectura.sample.millis 4) = telefono.escucha lectura.sample := by
    rw [timeOut, if_neg fun late => onTime late.1]
  rw [loop_eq, hears, judges]
  rfl

/-- The line is at a level at which no number is completed any more: at most one
digit comes from the level, and it stands alone. -/
def Settled (level : Nivel) (telefono : Telefono) : Prop :=
  telefono.lastState = level ∧
    (telefono.fullnum = [] ∧
        (telefono.needToPrint = false ∨ telefono.trueState = level) ∨
      telefono.fullnum.length < objectivenum.length ∧
        telefono.needToPrint = false ∧ telefono.trueState = level)

theorem Settled.short {level : Nivel} (settled : Settled level telefono) :
    telefono.fullnum.length < objectivenum.length := by
  rcases settled.2 with ⟨empty, _⟩ | ⟨short, _⟩
  · rw [empty]
    decide
  · exact short

/-- A digit has one character, and a negative one has two. -/
theorem decimal_tmod_length (value : Int) :
    (decimal (value.tmod 10)).length < objectivenum.length := by
  have least : -10 < value.tmod 10 := Int.lt_tmod_of_pos value (by decide)
  have most : value.tmod 10 < 10 := Int.tmod_lt_of_pos value (by decide)
  generalize value.tmod 10 = digit at least most
  interval_cases digit <;> decide

theorem completeDigit_settled {level : Nivel} (now : UInt32)
    (settled : Settled level telefono) :
    Settled level (telefono.completeDigit now) := by
  obtain ⟨same, rest⟩ := settled
  unfold completeDigit
  split
  · rename_i completes
    rcases rest with ⟨empty, idle | taken⟩ | ⟨_, idle, _⟩
    · exact absurd (idle.symm.trans completes.2) Bool.false_ne_true
    · refine ⟨same, .inr ⟨?_, rfl, taken⟩⟩
      change (telefono.fullnum ++ decimal _).length < _
      rw [empty]
      exact decimal_tmod_length _
    · exact absurd (idle.symm.trans completes.2) Bool.false_ne_true
  · exact ⟨same, rest⟩

theorem debounce_settled {level : Nivel} (now : UInt32)
    (settled : Settled level telefono) :
    Settled level (telefono.debounce level now) := by
  obtain ⟨same, rest⟩ := settled
  unfold debounce
  split
  · split
    · rename_i changes
      -- A level which is only taken over now has not been appended.
      rcases rest with ⟨empty, _⟩ | ⟨_, _, taken⟩
      · dsimp only
        split
        all_goals exact ⟨same, .inl ⟨empty, .inr rfl⟩⟩
      · exact absurd taken.symm changes
    · exact ⟨same, rest⟩
  · exact ⟨same, rest⟩

theorem escucha_settled (settled : Settled lectura.nivel telefono) :
    Settled lectura.nivel (telefono.escucha lectura.sample) := by
  have dialled := completeDigit_settled (lectura.sample.millis 0) settled
  have read : nivel lectura.sample.analogin = lectura.nivel := rfl
  rw [escucha, read, noteChange_same dialled.1.symm]
  exact debounce_settled _ dialled

/-- While its level is young a settled line stays settled, and its clock runs. -/
theorem loop_settled (settled : Settled lectura.nivel telefono)
    (young : ¬ telefono.Old lectura) :
    Settled lectura.nivel (loop lectura.sample telefono) ∧
      (loop lectura.sample telefono).lastStateChangeTime =
        telefono.lastChange lectura.sample := by
  have next := escucha_settled settled
  have calm := verdict_of_incomplete (.inr next.short)
  rw [loop_young young, calm]
  exact ⟨⟨rfl, next.2⟩, escucha_stamp lectura telefono⟩

/-- A number is found right, or wrong and cleared, or goes on. -/
theorem verdict_cases (telefono : Telefono) :
    (verdict telefono).done = true ∨
      ((verdict telefono).done = telefono.done ∧
          (verdict telefono).tuboUp = telefono.tuboUp) ∧
        (verdict telefono).fullnum = [] ∧
        (verdict telefono).needToPrint = false ∨
      verdict telefono = telefono := by
  unfold verdict
  split
  · exact .inl rfl
  · split
    · rename_i wrong
      exact .inr (.inl ⟨⟨wrong.2.symm, rfl⟩, rfl, rfl⟩)
    · exact .inr (.inr rfl)

/-- While its level is young the clock of a line runs on, unless the number is
judged: it is right, or the clock is set back and the line settled. -/
theorem loop_unsettled (young : ¬ telefono.Old lectura) :
    let next := loop lectura.sample telefono
    next.done = true ∨
      (next.done = telefono.done ∧ next.tuboUp = telefono.tuboUp) ∧
        next.lastState = lectura.nivel ∧
        (Settled lectura.nivel next ∨
          next.lastStateChangeTime = telefono.lastChange lectura.sample) := by
  intro next
  have judged : next = { verdict (telefono.escucha lectura.sample) with
      lastState := lectura.nivel } := loop_young young
  obtain ⟨_, _, _, _, hears⟩ := telefono.escucha_frame lectura.sample
  have isUp : (telefono.escucha lectura.sample).tuboUp = telefono.tuboUp := by
    rw [hears]
  have isDone : (telefono.escucha lectura.sample).done = telefono.done := by
    rw [hears]
  have stamp := escucha_stamp lectura telefono
  rw [judged]
  rcases verdict_cases (telefono.escucha lectura.sample) with
    won | ⟨⟨open', up'⟩, empty, idle⟩ | same
  · exact .inl won
  · exact .inr ⟨⟨open'.trans isDone, up'.trans isUp⟩, rfl,
      .inl ⟨rfl, .inl ⟨empty, .inl idle⟩⟩⟩
  · rw [same]
    exact .inr ⟨⟨isDone, isUp⟩, rfl, .inr stamp⟩

/-- The clock of a level runs with the readings. -/
theorem age_next {next : Telefono} {other : Lectura}
    (young : ¬ telefono.Old lectura) (same : next.lastState = other.nivel)
    (stamp : next.lastStateChangeTime = telefono.lastChange lectura.sample)
    (order : lectura.time ≤ other.time)
    (soon : other.time ≤ lectura.time + 100) :
    (next.age 3 other.sample).toNat =
      (telefono.age 3 lectura.sample).toNat + (other.time - lectura.time) := by
  have hang : hangPhoneTime.toNat = 300 := rfl
  have change : next.lastChange other.sample = next.lastStateChangeTime :=
    (lastChange_eq ..).trans (if_neg (not_not.mpr same.symm))
  have clock : UInt32.ofNat other.time =
      UInt32.ofNat lectura.time + UInt32.ofNat (other.time - lectura.time) := by
    rw [← UInt32.ofNat_add, Nat.add_sub_cancel' order]
  have ages : next.age 3 other.sample =
      telefono.age 3 lectura.sample +
        UInt32.ofNat (other.time - lectura.time) := by
    rw [age_eq, age_eq, change, stamp]
    change UInt32.ofNat other.time - _ = UInt32.ofNat lectura.time - _ + _
    rw [clock, UInt32.sub_eq_add_neg, UInt32.sub_eq_add_neg,
      UInt32.add_assoc, UInt32.add_comm (UInt32.ofNat (_ - _)),
      ← UInt32.add_assoc]
  rw [Old, gt_iff_lt, UInt32.lt_iff_toNat_lt] at young
  rw [ages, UInt32.toNat_add, UInt32.toNat_ofNat',
    Nat.mod_eq_of_lt (a := other.time - lectura.time) (by omega),
    Nat.mod_eq_of_lt (by omega)]

/-- The time for which a line still has to stay at its level.  One which is not
settled has 400 ms more to wait, in which its clock may be set back. -/
theorem wait_next {other last : Lectura} {extra : Nat}
    (young : ¬ telefono.Old lectura) (same : lectura.nivel = other.nivel)
    (order : lectura.time ≤ other.time)
    (soon : other.time ≤ lectura.time + 100)
    (wait : Settled lectura.nivel telefono ∨ 400 ≤ extra)
    (enough : 300 + extra + lectura.time <
      (telefono.age 3 lectura.sample).toNat + last.time) :
    let next := loop lectura.sample telefono
    next.done = true ∨ ∃ extra,
      (Settled lectura.nivel next ∨ 400 ≤ extra) ∧
        300 + extra + other.time <
          (next.age 3 other.sample).toNat + last.time := by
  intro next
  have hang : hangPhoneTime.toNat = 300 := rfl
  have age : (telefono.age 3 lectura.sample).toNat ≤ 300 := by
    rw [Old, gt_iff_lt, UInt32.lt_iff_toNat_lt] at young
    omega
  have runs (level : next.lastState = lectura.nivel)
      (stamp : next.lastStateChangeTime = telefono.lastChange lectura.sample) :
      300 + extra + other.time < (next.age 3 other.sample).toNat + last.time := by
    rw [age_next young (level.trans same) stamp order soon]
    omega
  have settles (settled : Settled lectura.nivel telefono) :=
    loop_settled settled young
  have judges := loop_unsettled young
  change next.done = true ∨ _ ∧ next.lastState = _ ∧
    (Settled _ next ∨ next.lastStateChangeTime = _) at judges
  change _ → Settled _ next ∧ next.lastStateChangeTime = _ at settles
  clear_value next
  rcases wait with settled | long
  · obtain ⟨still, stamp⟩ := settles settled
    exact .inr ⟨extra, .inl still, runs still.1 stamp⟩
  · rcases judges with won | ⟨_, level, settled | stamp⟩
    · exact .inl won
    · exact .inr ⟨0, .inl settled, by omega⟩
    · exact .inr ⟨extra, .inr long, runs level stamp⟩

end Young

/-! ## Stretches -/

section Stretches

variable {level : Nivel} {Before Goal : Telefono → Prop}

/-- What the readings at a level keep. -/
theorem run_kept
    (keeps : ∀ telefono (lectura : Lectura), lectura.nivel = level →
      Goal telefono →
      Goal (node.machine.step telefono lectura.turno))
    {lecturas : List Lectura}
    (steady : ∀ lectura ∈ lecturas, lectura.nivel = level)
    {telefono : Telefono} (goal : Goal telefono) :
    Goal (node.machine.run telefono (lecturas.map Lectura.turno)) := by
  induction lecturas generalizing telefono with
  | nil => exact goal
  | cons lectura lecturas ih =>
      exact ih (fun other member => steady other (List.mem_cons_of_mem _ member))
        (keeps telefono lectura (steady lectura List.mem_cons_self) goal)

/-- A line which stays at a level reaches what an old level brings about.  A line
which is not settled may have its clock set back once, which takes longer. -/
theorem run_steady
    (finished : ∀ telefono, telefono.done = true → Goal telefono)
    (keeps : ∀ telefono (lectura : Lectura), lectura.nivel = level →
      Goal telefono →
      Goal (node.machine.step telefono lectura.turno))
    (waits : ∀ telefono (lectura : Lectura), lectura.nivel = level →
      Before telefono → ¬ telefono.Old lectura →
      Goal (node.machine.step telefono lectura.turno) ∨
        Before (node.machine.step telefono lectura.turno))
    (meets : ∀ telefono (lectura : Lectura), lectura.nivel = level →
      Before telefono → telefono.Old lectura →
      Goal (node.machine.step telefono lectura.turno))
    {first : Lectura} {later : List Lectura}
    (steady : ∀ lectura ∈ first :: later, lectura.nivel = level)
    (spaced : (first :: later).IsChain fun lectura next =>
      lectura.time ≤ next.time ∧ next.time ≤ lectura.time + 100)
    {telefono : Telefono} (before : Before telefono) {extra : Nat}
    (wait : Settled level telefono ∨ 400 ≤ extra)
    (enough : ∃ lectura ∈ first :: later, 300 + extra + first.time <
      (telefono.age 3 first.sample).toNat + lectura.time) :
    Goal (node.machine.run telefono ((first :: later).map Lectura.turno)) := by
  induction later generalizing first telefono extra with
  | nil =>
      have here := steady first List.mem_cons_self
      obtain ⟨lectura, member, enough⟩ := enough
      rw [List.mem_singleton] at member
      subst member
      apply meets telefono lectura here before
      rw [Old, gt_iff_lt, UInt32.lt_iff_toNat_lt]
      have hang : hangPhoneTime.toNat = 300 := rfl
      omega
  | cons other later ih =>
      have here := steady first List.mem_cons_self
      have rest : ∀ lectura ∈ other :: later, lectura.nivel = level :=
        fun lectura member => steady lectura (List.mem_cons_of_mem _ member)
      obtain ⟨⟨order, soon⟩, spaced⟩ := List.isChain_cons_cons.mp spaced
      rw [List.map_cons, MealyMachine.run_cons]
      by_cases old : telefono.Old first
      · exact run_kept keeps rest (meets telefono first here before old)
      rcases waits telefono first here before old with goal | next
      · exact run_kept keeps rest goal
      obtain ⟨lectura, member, enough⟩ := enough
      have ahead : lectura ∈ other :: later := by
        rcases List.mem_cons.mp member with rfl | ahead
        · rw [Old, gt_iff_lt, UInt32.lt_iff_toNat_lt] at old
          have hang : hangPhoneTime.toNat = 300 := rfl
          omega
        · exact ahead
      have same : first.nivel = other.nivel :=
        here.trans (rest other List.mem_cons_self).symm
      rw [← here] at wait
      have young : ¬ telefono.quieto.Old first := by rwa [old_quieto]
      rw [← age_quieto] at enough
      have waiting : Settled first.nivel telefono.quieto ∨ 400 ≤ extra := wait
      rcases wait_next young same order soon waiting enough with
        won | ⟨extra, wait, enough⟩
      · exact run_kept keeps rest (finished _ won)
      · rw [here] at wait
        exact ih rest spaced next wait ⟨lectura, ahead, enough⟩

end Stretches

/-! ## Hanging up and lifting -/

section Hook

variable {telefono : Telefono} {lectura : Lectura}

/-- A telephone whose number goes on, and which has counted no pulse in vain. -/
def Open (telefono : Telefono) : Prop :=
  telefono.done = false ∧ Uncounted telefono

/-- The handset is down, or the number has been right. -/
def Hooked (telefono : Telefono) : Prop :=
  (telefono.tuboUp = false ∧ Uncounted telefono) ∨ telefono.done = true

/-- The handset is up and nothing is dialled, or the number has been right. -/
def Lifted (telefono : Telefono) : Prop :=
  (∃ stamp, telefono.quieto = linea .descolgado .descolgado stamp [] 0) ∨
    telefono.done = true

/-- A turn which does not end a number leaves it open. -/
theorem step_open (isOpen : Open telefono) (young : ¬ telefono.Old lectura) :
    (node.machine.step telefono lectura.turno).done = true ∨
      Open (node.machine.step telefono lectura.turno) ∧
        (node.machine.step telefono lectura.turno).tuboUp = telefono.tuboUp := by
  have uncounted := uncounted_step telefono lectura.turno isOpen.2
  have same : ¬ telefono.quieto.Old lectura := by rwa [old_quieto]
  rcases loop_unsettled same with won | ⟨⟨still, hook⟩, _⟩
  · exact .inl won
  · exact .inr ⟨⟨still.trans isOpen.1, uncounted⟩, hook⟩

theorem step_done (lectura : Lectura) (finished : telefono.done = true) :
    (node.machine.step telefono lectura.turno).done = true :=
  have keeps : KeepsNumber lectura.turno := trivial
  (done_silent finished keeps).2

theorem step_hooked (hung : lectura.nivel = .high) (hooked : Hooked telefono) :
    Hooked (node.machine.step telefono lectura.turno) := by
  rcases hooked with ⟨isDown, uncounted⟩ | finished
  · refine .inl ⟨?_, uncounted_step telefono lectura.turno uncounted⟩
    have still : ¬ telefono.TurnsHook lectura.sample := by
      rintro ⟨-, hangs | lifts⟩
      · exact Bool.false_ne_true (isDown.symm.trans hangs.2)
      · exact absurd (hung.symm.trans lifts.1) (by decide)
    exact ((iterate_tuboUp telefono lectura.sample).trans (if_neg still)).trans
      isDown
  · exact .inr (step_done lectura finished)

/-- An old level of the hook is a handset which is down. -/
theorem step_hangs (hung : lectura.nivel = .high) (isOpen : Open telefono)
    (old : telefono.Old lectura) :
    Hooked (node.machine.step telefono lectura.turno) := by
  cases hook : telefono.tuboUp with
  | true =>
      have turns : telefono.TurnsHook lectura.sample :=
        ⟨old, .inl ⟨hung, hook⟩⟩
      have down := (iterate_tuboUp telefono lectura.sample).trans (if_pos turns)
      rw [hook] at down
      exact .inl ⟨down, uncounted_step telefono lectura.turno isOpen.2⟩
  | false =>
      exact step_hooked hung (.inl ⟨hook, isOpen.2⟩)

theorem run_hook (isOpen : Open telefono) (hook : Sostenido .high) :
    Hooked (node.machine.run telefono (hook.lecturas.map Lectura.turno)) := by
  obtain ⟨lectura, member, lasts⟩ := hook.lasts
  refine run_steady (fun _ finished => .inr finished)
    (fun _ _ hung => step_hooked hung) (fun _ _ _ isOpen young => ?_)
    (fun _ _ => step_hangs) hook.steady hook.spaced isOpen (.inr (le_refl 400))
    ⟨lectura, member, by omega⟩
  rcases step_open isOpen young with won | ⟨still, _⟩
  · exact .inl (.inr won)
  · exact .inr still

/-- Nothing is pending once a level is older than a digit takes. -/
theorem completeDigit_late (now : UInt32) (uncounted : Uncounted telefono)
    (late : telefono.elapsed now > dialHasFinishedRotatingAfterMs) :
    ∃ number printed, telefono.completeDigit now =
      { telefono with
        needToPrint := false
        count := 0
        fullnum := number
        out := printed } := by
  unfold completeDigit
  by_cases pending : telefono.needToPrint = true
  · rw [if_pos ⟨late, pending⟩]
    exact ⟨_, _, rfl⟩
  · rw [if_neg fun completes => pending completes.2]
    have idle := Bool.eq_false_iff.mpr pending
    have none := uncounted idle
    refine ⟨telefono.fullnum, telefono.out, ?_⟩
    rw [← idle, ← none]

/-- The line at rest is taken over without a pulse. -/
theorem debounce_rest {now : UInt32}
    (late : telefono.elapsed now > debounceDelay) :
    telefono.debounce .descolgado now =
      { telefono with trueState := .descolgado } := by
  rw [debounce, if_pos late]
  split
  · exact if_neg (by decide)
  · rename_i taken
    rw [not_not.mp taken]

/-- An old level was found before, and is measured from the last change. -/
theorem old_iff : telefono.Old lectura ↔
    lectura.nivel = telefono.lastState ∧
      telefono.elapsed (UInt32.ofNat lectura.time) > hangPhoneTime := by
  rw [Old, age_eq, lastChange_eq]
  split
  · rename_i changes
    have none : UInt32.ofNat lectura.time -
        (UInt32.ofNat lectura.time).toInt32.toUInt32 = 0 := by
      rw [UInt32.toUInt32_toInt32, UInt32.sub_self]
    change UInt32.ofNat lectura.time -
      (UInt32.ofNat lectura.time).toInt32.toUInt32 > hangPhoneTime ↔ _
    rw [none]
    exact iff_of_false (by decide) fun both => changes both.1
  · rename_i same
    exact (and_iff_right (not_not.mp same)).symm

/-- A telephone which has just been lifted, with nothing dialled. -/
def levantado (telefono : Telefono) : Telefono :=
  { report "UP" "phone up" telefono with
    fullnum := []
    tuboUp := true }

theorem watchHook_lifts {now : UInt32} (isDown : telefono.tuboUp = false)
    (late : telefono.elapsed now > hangPhoneTime) :
    telefono.watchHook .descolgado now = levantado telefono := by
  rw [watchHook, if_pos late, if_neg (by simp), if_pos ⟨rfl, isDown⟩]
  rfl

theorem heard_lifts {dialled : Telefono}
    (dials : telefono.completeDigit (UInt32.ofNat lectura.time) = dialled)
    (lifted : lectura.nivel = .descolgado)
    (same : dialled.lastState = .descolgado) (isDown : dialled.tuboUp = false)
    (late : dialled.elapsed (UInt32.ofNat lectura.time) > hangPhoneTime) :
    telefono.heard lectura.sample =
      levantado { dialled with trueState := .descolgado } := by
  have settles : dialled.debounce .descolgado (UInt32.ofNat lectura.time) =
      { dialled with trueState := .descolgado } :=
    debounce_rest (UInt32.lt_trans (by decide) late)
  have notes : dialled.noteChange .descolgado (UInt32.ofNat lectura.time) =
      dialled := noteChange_same same.symm _
  change watchHook lectura.nivel _ (debounce lectura.nivel _
    (noteChange lectura.nivel _ (telefono.completeDigit _))) = _
  rw [lifted]
  refine (congrArg _ (congrArg _ (congrArg _ dials))).trans ?_
  refine (congrArg _ ((congrArg _ notes).trans settles)).trans ?_
  refine watchHook_lifts isDown ?_
  rw [elapsed] at late ⊢
  exact late

/-- An old level off the hook is a handset which is lifted: nothing is left of what
was dialled before. -/
theorem step_lifts (lifted : lectura.nivel = .descolgado)
    (isOpen : Open telefono) (isDown : telefono.tuboUp = false)
    (old : telefono.Old lectura) :
    Lifted (node.machine.step telefono lectura.turno) := by
  obtain ⟨same, aged⟩ := old_iff.mp old
  have digit : telefono.quieto.elapsed (UInt32.ofNat lectura.time) >
      dialHasFinishedRotatingAfterMs := UInt32.lt_trans (by decide) aged
  have uncounted : Uncounted telefono.quieto := isOpen.2
  obtain ⟨number, printed, dials⟩ :=
    completeDigit_late (UInt32.ofNat lectura.time) uncounted digit
  have hears := heard_lifts dials lifted (lifted.symm.trans same).symm isDown
    aged
  refine .inl ⟨telefono.lastStateChangeTime, ?_⟩
  change (loop lectura.sample telefono.quieto).quieto = _
  rw [loop_eq, hears]
  rcases judge_cases (lectura.sample.millis 4) (levantado _) with
    ⟨_, judged⟩ | ⟨noisy, _⟩ | ⟨noisy, _⟩
  · rw [judged]
    have read : nivel lectura.sample.analogin = .descolgado := lifted
    have still := isOpen.1
    rw [read]
    cases telefono
    cases still
    rfl
  · exact absurd (.inr (.inl rfl)) noisy
  · exact absurd (.inr (.inl rfl)) noisy

theorem step_lifted (lifted : lectura.nivel = .descolgado)
    (isLifted : Lifted telefono) :
    Lifted (node.machine.step telefono lectura.turno) := by
  rcases isLifted with ⟨stamp, starts⟩ | finished
  · have resting : ∀ other ∈ [lectura], other.nivel = .descolgado :=
      List.forall_mem_singleton.mpr lifted
    exact .inl ⟨stamp, (run_before starts resting).1⟩
  · exact .inr (step_done lectura finished)

theorem run_lift (hooked : Hooked telefono) (lift : Sostenido .descolgado) :
    Lifted (node.machine.run telefono (lift.lecturas.map Lectura.turno)) := by
  rcases hooked with ⟨isDown, uncounted⟩ | finished
  · cases isOpen : telefono.done with
    | true =>
        exact run_kept (fun _ _ => step_lifted) lift.steady (.inr isOpen)
    | false =>
        obtain ⟨lectura, member, lasts⟩ := lift.lasts
        let Before (telefono : Telefono) : Prop :=
          Open telefono ∧ telefono.tuboUp = false
        have before : Before telefono := ⟨⟨isOpen, uncounted⟩, isDown⟩
        refine run_steady (fun _ finished => .inr finished)
          (fun _ _ => step_lifted) (fun _ _ _ waits young => ?_)
          (fun _ _ lifted waits => step_lifts lifted waits.1 waits.2)
          lift.steady lift.spaced before (.inr (le_refl 400))
          ⟨lectura, member, by omega⟩
        rcases step_open waits.1 young with won | ⟨still, same⟩
        · exact .inl (.inr won)
        · exact .inr ⟨still, same.trans waits.2⟩
  · exact run_kept (fun _ _ => step_lifted) lift.steady (.inr finished)

end Hook

/-- A number which is done in a run without requests has been answered. -/
theorem win_of_done {telefono : Telefono} (isOpen : telefono.done = false)
    {lecturas : List Lectura}
    (finished : (node.machine.run telefono
      (lecturas.map Lectura.turno)).done = true) :
    win ∈ packets (node.machine.trace telefono
      (lecturas.map Lectura.turno)) := by
  induction lecturas generalizing telefono with
  | nil => exact absurd (isOpen.symm.trans finished) Bool.false_ne_true
  | cons lectura lecturas ih =>
      rw [List.map_cons, MealyMachine.run_cons] at finished
      rw [List.map_cons, MealyMachine.trace_cons, packets,
        List.filterMap_append, List.mem_append]
      rcases iterate_cases telefono lectura.sample with
        ⟨_, _, _, same⟩ | ⟨_, _, _, open'⟩ | ⟨_, said, _⟩
      · exact .inr (ih (same.trans isOpen) finished)
      · exact .inr (ih open' finished)
      · have member : win ∈ verdicts telefono (.iterate lectura.sample) := by
          rw [said]
          exact List.mem_singleton_self win
        have event := (NodeEvent.mem_among_iff (.inl rfl)).mp member
        exact .inl (List.mem_filterMap.mpr ⟨_, event, rfl⟩)

/-- A whole number which is dialled from rest is answered. -/
theorem run_discado {telefono : Telefono} {stamp : Int32}
    (starts : telefono.quieto = linea .descolgado .descolgado stamp [] 0)
    (discado : Discado)
    (complete : discado.digitos.length = objectivenum.length) :
    let dialled := discado.lecturas.map Lectura.turno
    packets (node.machine.trace telefono dialled) =
        [if cifras discado.digitos = objectivenum then win else fail] ∧
      ((node.machine.run telefono dialled).done = true ↔
        cifras discado.digitos = objectivenum) := by
  intro dialled
  obtain ⟨rested, quiet⟩ := run_before starts discado.resting
  obtain ⟨⟨level, stamp, state⟩, answered⟩ := run_digitos rested
    discado.changes discado.ordered (by decide)
    (by rw [complete]; exact Nat.zero_add _ ▸ le_refl _)
  have long : ¬ (cifras discado.digitos).length < objectivenum.length := by
    rw [cifras_length, complete]
    exact lt_irrefl _
  have split : dialled = discado.before.map Lectura.turno ++
      ((discado.digitos.flatMap Digito.todos).flatMap Tramo.lecturas).map
        Lectura.turno := List.map_append
  rw [List.nil_append, Dialled, if_neg long, ← MealyMachine.run_append,
    ← split] at state
  rw [List.nil_append, answer, if_neg long] at answered
  constructor
  · rw [split, MealyMachine.trace_append, packets, List.filterMap_append]
    refine (congrArg₂ _ quiet answered).trans ?_
    split <;> rfl
  · split at state
    · rename_i right
      obtain ⟨_, _, state⟩ := state
      exact iff_of_true (congrArg Telefono.done state) right
    · rename_i wrong
      obtain ⟨_, _, state⟩ := state
      refine iff_of_false (fun won => ?_) wrong
      exact Bool.false_ne_true ((congrArg Telefono.done state).symm.trans won)

/-- Whatever was dialled and requested before, a caller who hangs up for a second,
lifts the handset for a second and dials a number cleanly is answered for these
digits alone: by `WIN` if they are right, by one `FAIL` if they are not.  Only a
number which turns out to be right before he dials comes first. -/
theorem number_dialled_again (turnos : List (Turno Route Sample))
    (isOpen : (node.after turnos).done = false) (llamada : Llamada) :
    let before := llamada.before.map Lectura.turno
    let dialled := llamada.discado.lecturas.map Lectura.turno
    let last := node.machine.run (node.after turnos) (before ++ dialled)
    win ∈ packets (node.machine.trace (node.after turnos) before) ∨
      packets (node.machine.trace
          (node.machine.run (node.after turnos) before) dialled) =
        [if cifras llamada.discado.digitos = objectivenum then win else fail] ∧
      (last.done = true ↔ cifras llamada.discado.digitos = objectivenum) := by
  intro before dialled last
  let ready := node.machine.run (node.after turnos) before
  have uncounted : Uncounted (node.after turnos) :=
    node.machine.run_invariant uncounted_step (fun _ => rfl) turnos
  have hooked := run_hook ⟨isOpen, uncounted⟩ llamada.hook
  have isLifted : Lifted ready := by
    have lifted := run_lift hooked llamada.lift
    rwa [← MealyMachine.run_append, ← List.map_append] at lifted
  rcases isLifted with ⟨stamp, starts⟩ | finished
  · refine .inr ?_
    have ends : last = node.machine.run ready dialled :=
      node.machine.run_append _ _ _
    obtain ⟨answered, state⟩ := run_discado starts llamada.discado
      llamada.complete
    rw [ends]
    exact ⟨answered, state⟩
  · exact .inl (win_of_done isOpen finished)

/-- A second of the line at one level, read every 100 ms. -/
def cadaDecima (analogin : Int) (time : Nat) : List Lectura :=
  (List.range 10).map fun i => ⟨time + 100 * (i + 1), analogin⟩

/-- The handset is put down in the middle of a number, and 111 is dialled. -/
def otraVez : Llamada where
  hook :=
    { first := ⟨5000, 1023⟩
      later := cadaDecima 1023 5000
      steady := by decide
      spaced := by decide
      lasts := by decide }
  lift :=
    { first := ⟨6100, 600⟩
      later := cadaDecima 600 6100
      steady := by decide
      spaced := by decide
      lasts := by decide }
  discado := unos
  complete := rfl

theorem number_dialled_again_unos :
    packets (node.machine.trace (node.machine.run (node.after dosUnos)
      (otraVez.before.map Lectura.turno))
      (unos.lecturas.map Lectura.turno)) = [fail] := by
  have isOpen : (node.after dosUnos).done = false := by decide +kernel
  have unsaid : win ∉ packets (node.machine.trace (node.after dosUnos)
      (otraVez.before.map Lectura.turno)) := by decide +kernel
  exact ((number_dialled_again dosUnos isOpen otraVez).resolve_left unsaid).1

end Telefono

end Salsipuedes

import Salsipuedes.MaquinaMando

/-!
# The brightness of the thunder

The thunder swells and fades by one unit per step and is reduced with the
remainder of C, which keeps the sign of the dividend.  Its intensity therefore
stays in the range of a brightness exactly as long as no step lets it fade at
zero.
-/

namespace Salsipuedes.Maquina

variable {Button : Type}

/-- The thunder strikes at the control point of this configuration. -/
def Strikes (config : Config Button) : Prop :=
  config.control = .rayos ∧ config.maquina.luzRayos = true ∧
    config.maquina.sillaOn = false

/-- The quarters of the effect in which the thunder fades. -/
def Fades (tiempoRayos : Int) : Prop :=
  (totalRayos / 2 < tiempoRayos ∧ tiempoRayos ≤ totalRayos / 4 * 3) ∨
    tiempoRayos ≤ totalRayos / 4

/-- A strike which lets the thunder fade at intensity zero. -/
def FadesAtZero (config : Config Button) : Prop :=
  Strikes config ∧ Fades config.maquina.tiempoRayos ∧
    config.maquina.intensidadRayos = 0

/-- An intensity in the range of the effect. -/
def InScale (intensidadRayos : Int) : Prop :=
  0 ≤ intensidadRayos ∧ intensidadRayos ≤ 127

/-- The intensity is in its range before and after a step, the brightness which a
strike sets is the value which was computed, and it is the brightness after the step
unless the effect is over. -/
def KeepsBrightness [Bounce Button] (config : Config Button) (sample : Sample) :
    Prop :=
  let next := (machine Button).step config sample
  InScale config.maquina.intensidadRayos ∧ InScale next.maquina.intensidadRayos ∧
    (Strikes config →
      ((strike config.maquina).brightness : Int) = struck config.maquina ∧
        next.maquina.brightness =
          if config.maquina.tiempoRayos - 1 < 1 then toByte baseBrightness
          else (strike config.maquina).brightness)

instance (config : Config Button) : Decidable (Strikes config) :=
  inferInstanceAs (Decidable (_ ∧ _ ∧ _))

instance (tiempoRayos : Int) : Decidable (Fades tiempoRayos) :=
  inferInstanceAs (Decidable ((_ ∧ _) ∨ _))

instance (config : Config Button) : Decidable (FadesAtZero config) :=
  inferInstanceAs (Decidable (_ ∧ _ ∧ _))

instance (intensidadRayos : Int) : Decidable (InScale intensidadRayos) :=
  inferInstanceAs (Decidable (_ ∧ _))

instance [Bounce Button] (config : Config Button) (sample : Sample) :
    Decidable (KeepsBrightness config sample) :=
  inferInstanceAs (Decidable (_ ∧ _ ∧ (_ → _ ∧ _)))

/-! ## One strike -/

theorem nextIntensidad_of_fades {tiempoRayos : Int} (fades : Fades tiempoRayos)
    (intensidadRayos : Int) :
    nextIntensidad tiempoRayos intensidadRayos = intensidadRayos - 1 := by
  unfold Fades at fades
  unfold nextIntensidad
  rw [show totalRayos / 2 = 750 from rfl, show totalRayos / 4 = 375 from rfl]
    at *
  split
  · omega
  split
  · rfl
  split
  · omega
  · rfl

theorem nextIntensidad_of_swells {tiempoRayos : Int}
    (swells : ¬ Fades tiempoRayos) (intensidadRayos : Int) :
    nextIntensidad tiempoRayos intensidadRayos = intensidadRayos + 1 := by
  unfold Fades at swells
  unfold nextIntensidad
  rw [show totalRayos / 2 = 750 from rfl, show totalRayos / 4 = 375 from rfl]
    at *
  split
  · rfl
  split
  · omega
  split
  · rfl
  · omega

/-- The remainder of a nonnegative intensity is an intensity. -/
theorem inScale_tmod {intensidad : Int} (nonneg : 0 ≤ intensidad) :
    InScale (intensidad.tmod 128) := by
  have lower : 0 ≤ intensidad.tmod 128 := Int.tmod_nonneg 128 nonneg
  have upper : intensidad.tmod 128 < 128 := Int.tmod_lt_of_pos _ (by decide)
  exact ⟨lower, by omega⟩

theorem toByte_inScale {intensidad : Int} (inScale : InScale intensidad) :
    (toByte intensidad : Int) = intensidad := by
  obtain ⟨lower, upper⟩ := inScale
  unfold toByte
  omega

theorem struck_inScale {config : Config Button} (strikes : Strikes config)
    (inScale : InScale config.maquina.intensidadRayos)
    (notZero : ¬ FadesAtZero config) : InScale (struck config.maquina) := by
  obtain ⟨lower, upper⟩ := inScale
  apply inScale_tmod
  by_cases fades : Fades config.maquina.tiempoRayos
  · have : config.maquina.intensidadRayos ≠ 0 :=
      fun zero => notZero ⟨strikes, fades, zero⟩
    rw [nextIntensidad_of_fades fades]
    omega
  · rw [nextIntensidad_of_swells fades]
    omega

/-- A strike at intensity zero passes a negative value, which arrives as the
highest brightness. -/
theorem struck_of_fadesAtZero {config : Config Button}
    (zero : FadesAtZero config) :
    struck config.maquina = -1 ∧ (strike config.maquina).brightness = 255 := by
  obtain ⟨-, fades, silent⟩ := zero
  have negative : struck config.maquina = -1 := by
    rw [struck, nextIntensidad_of_fades fades, silent]
    rfl
  refine ⟨negative, ?_⟩
  change toByte (struck config.maquina) = 255
  rw [negative]
  rfl

/-! ## Runs -/

section Runs

variable [Bounce Button]

theorem KeepsBrightness.notZero {config : Config Button} {sample : Sample}
    (keeps : KeepsBrightness config sample) : ¬ FadesAtZero config := by
  intro zero
  obtain ⟨negative, byte⟩ := struck_of_fadesAtZero zero
  have same := (keeps.2.2 zero.1).1
  rw [byte, negative] at same
  simp at same

omit [Bounce Button] in
theorem rayoPega_brightness {maquina : Maquina Button}
    (free : maquina.sillaOn = false) :
    (rayoPega maquina).brightness =
      if maquina.tiempoRayos - 1 < 1 then toByte baseBrightness
      else (strike maquina).brightness := by
  rw [rayoPega, if_pos free]
  exact apply_ite (fun maquina : Maquina Button => maquina.brightness) _ _ _

/-- After a strike the brightness is the one which it set, until the effect ends. -/
theorem step_brightness {config : Config Button} (strikes : Strikes config)
    (sample : Sample) :
    ((machine Button).step config sample).maquina.brightness =
      if config.maquina.tiempoRayos - 1 < 1 then toByte baseBrightness
      else (strike config.maquina).brightness := by
  obtain ⟨atRayos, lit, free⟩ := strikes
  simp only [machine, operation, atRayos]
  rw [if_pos lit]
  exact rayoPega_brightness free

/-- Only a strike changes the intensity. -/
theorem step_intensidad {config : Config Button} (sample : Sample)
    {partida : Partida} (tracks : Tracks config partida) :
    ((machine Button).step config sample).maquina.intensidadRayos =
      if config.control = .rayos ∧ config.maquina.luzRayos = true then
        golpe config.maquina
      else
        config.maquina.intensidadRayos := by
  have plugged (cuentas : Cuentas) (now : Bool) :
      (cuentas.plug now).intensidadRayos = cuentas.intensidadRayos := by
    unfold Cuentas.plug
    repeat' split
    all_goals rfl
  have handled (cuentas : Cuentas) (stage : Int) (text : Text) :
      (cuentas.handle stage text).intensidadRayos =
        cuentas.intensidadRayos := by
    unfold Cuentas.handle
    repeat' split
    all_goals rfl
  change ((machine Button).step config sample).maquina.cuentas.intensidadRayos = _
  by_cases rayos : config.control = .rayos
  · rw [step_rayos rayos]
    by_cases lit : config.maquina.luzRayos = true
    · rw [if_pos lit, if_pos ⟨rayos, lit⟩]
    · rw [if_neg lit, if_neg (fun strikes => lit strikes.2)]
      rfl
  rw [if_neg (fun strikes => rayos strikes.1)]
  by_cases calls : config.control.callsPlug = true
  · rw [step_plug tracks calls, plugged]
    rfl
  by_cases radio : config.control = .radio
  · rw [step_radio radio]
    split <;> rfl
  · rw [step_heard (by simpa using calls) radio rayos]
    split
    · exact handled _ _ _
    · rfl

/-- The intensity after a step which does not fade at zero. -/
theorem step_inScale {config : Config Button} {sample : Sample}
    {partida : Partida} (tracks : Tracks config partida)
    (inScale : InScale config.maquina.intensidadRayos)
    (notZero : ¬ FadesAtZero config) :
    InScale ((machine Button).step config sample).maquina.intensidadRayos := by
  rw [step_intensidad sample tracks]
  split
  · rename_i lit
    unfold golpe
    split
    · rename_i free
      split
      · exact ⟨by decide, by decide⟩
      · exact struck_inScale ⟨lit.1, lit.2, free⟩ inScale notZero
    · exact inScale
  · exact inScale

/-- The thunder keeps to the range of a brightness along a run exactly when no
step of the run lets it fade at zero. -/
theorem brightness_in_range (boot : Sample) (inputs : List Sample) :
    (machine Button).Along KeepsBrightness (setup boot) inputs ↔
      (machine Button).Along (fun config _ => ¬ FadesAtZero config)
        (setup boot) inputs := by
  constructor
  · exact MealyMachine.Along.mono _ fun _ _ keeps => keeps.notZero
  · have preserved (config : Config Button) (sample : Sample)
        (notZero : ¬ FadesAtZero config)
        (holds : (∃ partida, Tracks config partida) ∧
          InScale config.maquina.intensidadRayos) :
        (∃ partida, Tracks ((machine Button).step config sample) partida) ∧
          InScale
            ((machine Button).step config sample).maquina.intensidadRayos := by
      obtain ⟨⟨partida, tracks⟩, inScale⟩ := holds
      obtain ⟨action, steps⟩ := step_tracks tracks sample
      exact ⟨⟨_, steps.tracks⟩, step_inScale tracks inScale notZero⟩
    have keeps (config : Config Button) (sample : Sample)
        (notZero : ¬ FadesAtZero config)
        (holds : (∃ partida, Tracks config partida) ∧
          InScale config.maquina.intensidadRayos) :
        KeepsBrightness config sample :=
      ⟨holds.2, (preserved config sample notZero holds).2, fun strikes =>
        ⟨toByte_inScale (struck_inScale strikes holds.2 notZero),
          step_brightness strikes sample⟩⟩
    exact (machine Button).along_of_invariant preserved keeps
      ⟨⟨_, setup_tracks Button boot⟩, (by decide : InScale 30)⟩

end Runs

/-- One `trueno` while the machine is plugged in: the thunder swells from 30 for
375 steps, passing 128 three times, fades from 21 and goes below zero. -/
theorem brightness_wraps :
    ¬ (machine StableButton).Along KeepsBrightness (setup .reposo)
      (deliver .enchufado "trueno" ++ List.replicate 3200 .enchufado) := by
  decide +kernel

end Salsipuedes.Maquina

import Salsipuedes.Impresion
import Salsipuedes.MaquinaRuns
import Salsipuedes.Receptores

/-!
# From the game controller to the machine

Everything that the machine reads on `Serial1` was printed by its helper.  The
machine releases the exit only when it reads `win` or `manual`, but however what
the helper prints is cut into messages, neither of them is ever among them: no
print has the adjacent characters with which they begin, and none that ends with
the first of these is the end of a turn.
-/

namespace Salsipuedes

/-! ## Sound text -/

/-- Two adjacent characters which do not begin `win` or `manual`. -/
def Adjoins (first second : Char) : Prop :=
  ¬ (first = 'w' ∧ second = 'i') ∧ ¬ (first = 'm' ∧ second = 'a')

instance (first second : Char) : Decidable (Adjoins first second) :=
  inferInstanceAs (Decidable (_ ∧ _))

/-- A text which has no `wi` and no `ma`, whatever follows it. -/
structure Sound (text : Text) : Prop where
  chain : text.IsChain Adjoins
  ends : text.getLast? ≠ some 'w' ∧ text.getLast? ≠ some 'm'

instance (text : Text) : Decidable (Sound text) :=
  decidable_of_iff (text.IsChain Adjoins ∧
      text.getLast? ≠ some 'w' ∧ text.getLast? ≠ some 'm')
    ⟨fun ⟨chain, ends⟩ => ⟨chain, ends⟩, fun ⟨chain, ends⟩ => ⟨chain, ends⟩⟩

namespace Sound

theorem nil : Sound [] :=
  ⟨.nil, by simp⟩

theorem append {first second : Text} (left : Sound first)
    (right : Sound second) : Sound (first ++ second) := by
  constructor
  · refine left.chain.append right.chain ?_
    intro last final next _
    have final : first.getLast? = some last := final
    constructor
    · rintro ⟨rfl, -⟩
      exact left.ends.1 final
    · rintro ⟨rfl, -⟩
      exact left.ends.2 final
  · rw [List.getLast?_append]
    cases ending : second.getLast? with
    | none => exact left.ends
    | some last =>
        rw [Option.some_or, ← ending]
        exact right.ends

theorem suffix {first second : Text} (sound : Sound second)
    (suffix : first <:+ second) : Sound first := by
  refine ⟨sound.chain.suffix suffix, ?_⟩
  obtain ⟨before, rfl⟩ := suffix
  have ends := sound.ends
  rw [List.getLast?_append] at ends
  cases ending : first.getLast? with
  | none => simp
  | some last =>
      rw [ending, Option.some_or] at ends
      exact ends

theorem flatMap {Item : Type} {items : List Item} {text : Item → Text}
    (each : ∀ item ∈ items, Sound (text item)) :
    Sound (items.flatMap text) := by
  induction items with
  | nil => exact nil
  | cons item items ih =>
      rw [List.flatMap_cons]
      exact (each item List.mem_cons_self).append
        (ih fun other member => each other (List.mem_cons_of_mem _ member))

/-- A text without the first characters of `win` and `manual`. -/
theorem of_plain {text : Text}
    (plain : ∀ character ∈ text, character ≠ 'w' ∧ character ≠ 'm') :
    Sound text := by
  constructor
  · induction text with
    | nil => exact .nil
    | cons first text ih =>
        refine List.IsChain.cons
          (ih fun other member => plain other (List.mem_cons_of_mem _ member)) ?_
        intro next _
        obtain ⟨notW, notM⟩ := plain first List.mem_cons_self
        exact ⟨fun both => notW both.1, fun both => notM both.1⟩
  · constructor
    · intro final
      exact (plain 'w' (List.mem_of_getLast? final)).1 rfl
    · intro final
      exact (plain 'm' (List.mem_of_getLast? final)).2 rfl

/-- Neither word can be cut out of a sound text, wherever the cut is. -/
theorem trim_ne {text whole : Text} (sound : Sound whole)
    (cut : text <+: whole) :
    trim text ≠ "win".toList ∧ trim text ≠ "manual".toList := by
  have begun : text.IsChain Adjoins := List.IsChain.prefix sound.chain cut
  have chain := begun.infix (trim_isInfix text)
  constructor
  · intro equal
    rw [equal] at chain
    revert chain
    decide
  · intro equal
    rw [equal] at chain
    revert chain
    decide

end Sound

/-! ## What the helper prints -/

namespace WifiHelperMaquina

theorem digitByte_plain {digit : Nat} (small : digit < 16) :
    digitByte digit ≠ 'w' ∧ digitByte digit ≠ 'm' := by
  revert digit
  decide

/-- After any character, a closing bracket begins nothing. -/
theorem closing_sound {last : Text} (single : last.length ≤ 1) :
    Sound (last ++ "]\r\n".toList) := by
  have bracket : Sound "]\r\n".toList := by decide
  match last, single with
  | [], _ => exact bracket
  | [unit], _ =>
      refine ⟨List.IsChain.cons bracket.chain ?_, bracket.ends⟩
      intro next first
      obtain rfl : ']' = next := by simpa using first
      exact ⟨fun both => absurd both.2 (by decide),
        fun both => absurd both.2 (by decide)⟩

theorem sound_logged : Logged Sound where
  append := Sound.append
  digits := by
    intro text shown
    apply Sound.of_plain
    intro character member
    obtain ⟨digit, small, rfl⟩ := shown character member
    exact digitByte_plain small
  closing := closing_sound
  fixed := by decide

/-- Every effect in a list prints a sound text. -/
abbrev SoundLog (events : List NodeEvent) : Prop :=
  ∀ event ∈ events, Sound event.bytes

theorem SoundLog.append {first second : List NodeEvent}
    (left : SoundLog first) (right : SoundLog second) :
    SoundLog (first ++ second) :=
  List.forall_mem_append.mpr ⟨left, right⟩

theorem bootLog_sound (boot : Boot) : SoundLog (bootLog boot) :=
  sound_logged.bootLog boot

/-- A datagram which is sent prints nothing. -/
theorem forward_bytes (serial : Text) (helper : WifiHelperMaquina) :
    (forward serial helper).out.flatMap NodeEvent.bytes =
      helper.out.flatMap NodeEvent.bytes := by
  unfold forward
  dsimp only
  split
  · simp [emit, NodeEvent.bytes]
  · rfl

/-- Everything that the helper prints in a turn. -/
theorem turno_sound (boot : Boot) (helper : WifiHelperMaquina)
    (turno : Turno Route Sample) :
    Sound (((node boot).machine.emit helper turno).flatMap NodeEvent.bytes) := by
  cases turno with
  | request route sample =>
      cases route with
      | reset =>
          refine Sound.flatMap (SoundLog.append ?_ (bootLog_sound sample.boot))
          change SoundLog [.send 200 "reset", .println "reset", .send 200 "OFF"]
          decide
      | root =>
          refine Sound.flatMap ?_
          change SoundLog info.root
          decide
      | test | on | off | son | soff | trueno =>
          refine Sound.flatMap ?_
          change SoundLog [_, _]
          decide
  | iterate sample =>
      change Sound ((forward sample.serial (udpRead sample.packet
        { helper with out := [] })).out.flatMap NodeEvent.bytes)
      rw [forward_bytes]
      cases sample.packet with
      | none => exact Sound.nil
      | some packet => exact sound_logged.packetLog packet

end WifiHelperMaquina

end Salsipuedes

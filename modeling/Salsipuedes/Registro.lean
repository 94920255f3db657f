import Salsipuedes.Impresion
import Salsipuedes.Occurrences

/-!
# The log of the helpers

The helpers print their log on the same link as their commands: the lines of
`connectWifi` and `connectUDP` at power-up, and those of `UDPRead` about every
datagram.  None of the words below occurs in the log, wherever it is cut and
whatever is printed next.  The word `on` is not among them, because `Connection`
has it.
-/

namespace Salsipuedes.WifiHelperMaquina

/-- The commands which the log does not contain. -/
def ajenas : List Text :=
  ["reset".toList, "off".toList, "son".toList, "soff".toList, "trueno".toList,
    "alarma".toList]

variable {word : Text}

theorem ajenas_ne_nil (member : word ∈ ajenas) : word ≠ [] := by
  revert word
  decide

/-- No digit but the last one of a number can be a letter of a word. -/
theorem digitByte_notMem (member : word ∈ ajenas) {digit : Nat}
    (small : digit < 16) : digitByte digit ∉ word := by
  revert word digit
  decide

theorem newline_notMem (member : word ∈ ajenas) : '\n' ∉ word := by
  revert word
  decide

/-- After any character, a closing bracket. -/
theorem closing_absent (member : word ∈ ajenas) {last : Text}
    (single : last.length ≤ 1) :
    occurrences word (last ++ "]\r\n".toList) = 0 := by
  have bracket : occurrences word "]\r\n".toList = 0 ∧
      ¬ word.tail <+: "]\r\n".toList := by
    revert word
    decide
  match last, single with
  | [], _ => exact bracket.1
  | [unit], _ =>
      have other : ¬ word <+: unit :: "]\r\n".toList := by
        intro begins
        cases word with
        | nil => exact bracket.2 (List.nil_prefix)
        | cons head word => exact bracket.2 (List.cons_prefix_cons.mp begins).2
      rw [List.singleton_append, occurrences, decide_eq_false other, bracket.1]
      rfl

/-- The lines of the log which are the same every time have none of the words. -/
theorem fijas_foreign (member : word ∈ ajenas) :
    ∀ event ∈ fijas, Foreign word event.bytes := by
  revert word
  decide

theorem foreign_logged (member : word ∈ ajenas) : Logged (Foreign word) where
  append := Foreign.append
  digits := by
    intro text shown
    apply Foreign.of_letters (ajenas_ne_nil member)
    intro letter inText
    obtain ⟨digit, small, rfl⟩ := shown letter inText
    exact digitByte_notMem member small
  closing := by
    intro last single
    refine ⟨?_, closing_absent member single⟩
    have ends := Ends.of_last (newline_notMem member) (last ++ "]\r".toList)
    simpa using ends
  fixed := fijas_foreign member

/-- Every effect in a list prints a text which is foreign to the word. -/
abbrev ForeignLog (word : Text) (events : List NodeEvent) : Prop :=
  ∀ event ∈ events, Foreign word event.bytes

theorem bootLog_foreign (member : word ∈ ajenas) (boot : Boot) :
    ForeignLog word (bootLog boot) :=
  (foreign_logged member).bootLog boot

theorem packetLog_foreign (member : word ∈ ajenas) (packet : Packet) :
    Foreign word ((packetLog packet).flatMap NodeEvent.bytes) :=
  (foreign_logged member).packetLog packet

end Salsipuedes.WifiHelperMaquina

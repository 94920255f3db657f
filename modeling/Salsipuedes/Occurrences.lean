import Mathlib.Data.List.Basic
import Mathlib.Data.List.Infix
import Mathlib.Tactic.Common

/-!
# Occurrences of a word in a text

A text which is printed in pieces can be cut into messages anywhere, so a word
can be cut out of it wherever it occurs.  This file counts the positions at which
a word begins.  Cutting a text loses occurrences but never makes one, and joining
texts makes one only where a text ends inside the word.
-/

namespace Salsipuedes

variable {Letter : Type*}

/-- No end of the text is the beginning of the word, except for the word. -/
def Ends (word : List Letter) : List Letter → Prop
  | [] => True
  | first :: text =>
      (first :: text <+: word → first :: text = word) ∧ Ends word text

/-- A text which ends with a letter that the word does not have. -/
theorem Ends.of_last {word : List Letter} {last : Letter} (foreign : last ∉ word)
    (text : List Letter) : Ends word (text ++ [last]) := by
  induction text with
  | nil => exact ⟨fun begins => absurd (begins.subset (by simp)) foreign, trivial⟩
  | cons first text ih =>
      refine ⟨fun begins => absurd (begins.subset ?_) foreign, ih⟩
      simp

theorem Ends.append {word first second : List Letter} (left : Ends word first)
    (right : Ends word second) : Ends word (first ++ second) := by
  induction first with
  | nil => exact right
  | cons letter first ih =>
      refine ⟨fun begins => ?_, ih left.2⟩
      have whole := left.1 ((List.prefix_append _ second).trans begins)
      refine begins.eq_of_length_le ?_
      rw [← whole]
      simp

variable [DecidableEq Letter]

instance decidableEnds (word : List Letter) :
    (text : List Letter) → Decidable (Ends word text)
  | [] => isTrue trivial
  | _ :: text =>
      have := decidableEnds word text
      inferInstanceAs (Decidable (_ ∧ _))

/-- How often a word begins in a text. -/
def occurrences (word : List Letter) : List Letter → Nat
  | [] => 0
  | first :: text =>
      (decide (word <+: first :: text)).toNat + occurrences word text

variable {word : List Letter}

@[simp]
theorem occurrences_nil : occurrences word [] = 0 :=
  rfl

/-- A word which begins in a piece begins in the whole text. -/
theorem occurrences_append_le (word first second : List Letter) :
    occurrences word first + occurrences word second ≤
      occurrences word (first ++ second) := by
  induction first with
  | nil => simp
  | cons letter first ih =>
      have kept : (decide (word <+: letter :: first)).toNat ≤
          (decide (word <+: letter :: (first ++ second))).toNat := by
        by_cases begins : word <+: letter :: first
        · have longer : word <+: letter :: (first ++ second) :=
            begins.trans (List.prefix_append (letter :: first) second)
          rw [decide_eq_true longer]
          exact Bool.toNat_le _
        · simp [begins]
      rw [List.cons_append, occurrences, occurrences]
      omega

/-- Where a text does not end inside the word, joining adds no occurrence. -/
theorem Ends.occurrences_append {first : List Letter} (ends : Ends word first)
    (second : List Letter) :
    occurrences word (first ++ second) =
      occurrences word first + occurrences word second := by
  induction first with
  | nil => simp
  | cons letter first ih =>
      have same : word <+: letter :: (first ++ second) ↔
          word <+: letter :: first := by
        have part : letter :: first <+: letter :: (first ++ second) :=
          List.prefix_append (letter :: first) second
        refine ⟨fun begins => ?_, fun begins => begins.trans part⟩
        rcases List.prefix_or_prefix_of_prefix begins part with whole | cut
        · exact whole
        · rw [ends.1 cut]
      rw [List.cons_append, occurrences, occurrences, ih ends.2,
        decide_eq_decide.mpr same]
      omega

/-- A word which is cut out of a text occurs in it. -/
theorem occurrences_pos {text : List Letter} (nonempty : word ≠ [])
    (cut : word <:+: text) : 0 < occurrences word text := by
  obtain ⟨before, after, rfl⟩ := cut
  have whole := occurrences_append_le word (before ++ word) after
  have front := occurrences_append_le word before word
  have self : 0 < occurrences word word := by
    cases word with
    | nil => exact absurd rfl nonempty
    | cons first word =>
        rw [occurrences, decide_eq_true List.prefix_rfl, Bool.toNat_true]
        exact Nat.lt_add_right _ Nat.one_pos
  omega

/-- The word does not occur in the text, nor where another text follows it. -/
structure Foreign (word text : List Letter) : Prop where
  ends : Ends word text
  absent : occurrences word text = 0

instance (word text : List Letter) : Decidable (Foreign word text) :=
  decidable_of_iff (Ends word text ∧ occurrences word text = 0)
    ⟨fun ⟨ends, absent⟩ => ⟨ends, absent⟩, fun ⟨ends, absent⟩ => ⟨ends, absent⟩⟩

namespace Foreign

theorem nil : Foreign word [] :=
  ⟨trivial, rfl⟩

theorem append {first second : List Letter} (left : Foreign word first)
    (right : Foreign word second) : Foreign word (first ++ second) where
  ends := left.ends.append right.ends
  absent := by rw [left.ends.occurrences_append, left.absent, right.absent]

theorem flatMap {Item : Type*} {items : List Item} {text : Item → List Letter}
    (each : ∀ item ∈ items, Foreign word (text item)) :
    Foreign word (items.flatMap text) := by
  induction items with
  | nil => exact nil
  | cons item items ih =>
      rw [List.flatMap_cons]
      exact (each item List.mem_cons_self).append
        (ih fun other member => each other (List.mem_cons_of_mem _ member))

/-- A text none of whose letters is in the word. -/
theorem of_letters {text : List Letter} (nonempty : word ≠ [])
    (letters : ∀ letter ∈ text, letter ∉ word) : Foreign word text := by
  induction text with
  | nil => exact nil
  | cons letter text ih =>
      obtain ⟨ends, absent⟩ :=
        ih fun other member => letters other (List.mem_cons_of_mem _ member)
      have notHere : letter ∉ word := letters letter List.mem_cons_self
      refine ⟨⟨fun begins => ?_, ends⟩, ?_⟩
      · exact absurd (begins.subset List.mem_cons_self) notHere
      · have other : ¬ word <+: letter :: text := by
          cases word with
          | nil => exact absurd rfl nonempty
          | cons head word =>
              rw [List.cons_prefix_cons]
              rintro ⟨rfl, -⟩
              exact notHere List.mem_cons_self
        rw [occurrences, decide_eq_false other, absent]
        rfl

end Foreign

end Salsipuedes

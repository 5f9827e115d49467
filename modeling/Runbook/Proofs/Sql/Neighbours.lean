import Mathlib.Data.List.Infix
import Runbook.Proofs.Sql.Numbering

namespace Runbook.Sql

/-- A slot behind the text is read as one. Behind a letter, digit or underscore it would be the rest
of a word, and behind a dollar sign the two signs would open a quote. -/
def StandsFree (before : List Char) : Prop :=
  ∀ c, before.getLast? = some c → Text.isWord c = false ∧ c ≠ '$'

theorem standsFree_append {front text : List Char} (nonempty : text ≠ []) :
    StandsFree (front ++ text) ↔ StandsFree text := by
  rw [StandsFree, StandsFree, List.getLast?_append_of_ne_nil front nonempty]

theorem not_standsFree_of_endsWord {text : List Char} (h : Lexeme.endsWord text = true) :
    ¬StandsFree text := by
  intro free
  obtain ⟨c, last, word⟩ := (Option.any_eq_true _ _).mp h
  rw [(free c last).1] at word
  cases word

namespace Lexeme

theorem Cut.element {before s : List Char} {earlier later : List Lexeme} {lexeme : Lexeme}
    (h : Cut before (earlier ++ lexeme :: later) s) :
    Element (before ++ earlier.flatMap Lexeme.source) lexeme (later.flatMap Lexeme.source) := by
  induction earlier generalizing before s with
  | nil =>
    cases h with
    | next element later =>
      rw [later.source]
      simpa using element
  | cons first earlier ih =>
    cases h with
    | next _ later => simpa using ih later

theorem standsFree_shown_iff (names : List String) {before after : List Char} {lexeme : Lexeme}
    (h : Element before lexeme after) :
    StandsFree (lexeme.shown names) ↔ StandsFree lexeme.source := by
  cases lexeme with
  | verbatim text => exact Iff.rfl
  | parameter name =>
    exact iff_of_false (not_standsFree_of_endsWord (endsWord_slot _))
      (not_standsFree_of_endsWord h.endsWord_parameter)

/-- The elements before a parameter end in the same way in the source and in the text. -/
theorem Cut.standsFree_iff (names : List String) {s : List Char} {earlier later : List Lexeme}
    (h : Cut [] (earlier ++ later) s) :
    StandsFree (earlier.flatMap (shown names)) ↔
      StandsFree (earlier.flatMap Lexeme.source) := by
  rcases List.eq_nil_or_concat earlier with rfl | ⟨front, last, rfl⟩
  · exact Iff.rfl
  · rw [List.concat_eq_append] at h ⊢
    rw [List.append_assoc] at h
    have element := h.element
    simp only [List.flatMap_append, List.flatMap_singleton]
    rw [standsFree_append (element.shown_ne_nil names), standsFree_append element.source_ne_nil]
    exact standsFree_shown_iff names element

end Lexeme

namespace Scan

open Lexeme

/-- A parameter becomes a slot wherever it stands, and the slot stands free exactly when the
parameter does: behind a word, another parameter or a dollar sign it does not. -/
theorem slot_standsFree_iff {sql : String} {earlier later : List Lexeme} {name : List Char}
    (cut : Cut [] (earlier ++ .parameter name :: later) sql.toList) :
    sql.toList = earlier.flatMap source ++ ('@' :: name) ++ later.flatMap source ∧
    (ofText sql).text.toList = earlier.flatMap (shown (ofText sql).names) ++
      slot ((ofText sql).names.idxOf (.ofList name) + 1) ++
        later.flatMap (shown (ofText sql).names) ∧
    (StandsFree (earlier.flatMap (shown (ofText sql).names)) ↔
      StandsFree (earlier.flatMap source)) := by
  have lexemes : earlier ++ .parameter name :: later = Lexeme.ofText sql := cut_iff.mp cut
  refine ⟨?_, ?_, cut.standsFree_iff _⟩
  · rw [← cut.source]
    simp [Lexeme.source]
  · rw [ofText_text, ← lexemes]
    simp [Lexeme.shown]

/-- A parameter that ends where the next one begins does not let its slot stand free. -/
theorem slot_standsFree_iff_adjacent :
    Cut [] ([.parameter ['a']] ++ .parameter ['b'] :: []) "@a@b".toList ∧
      ofText "@a@b" = ⟨"$1$2", ["a", "b"]⟩ ∧ ¬StandsFree ['$', '1'] := by
  have cut : Cut [] ([.parameter ['a']] ++ .parameter ['b'] :: []) "@a@b".toList :=
    cut_iff.mpr (by decide +kernel)
  have scan : ofText "@a@b" = ⟨"$1$2", ["a", "b"]⟩ := by decide +kernel
  obtain ⟨-, -, stands⟩ := slot_standsFree_iff cut
  rw [scan] at stands
  exact ⟨cut, scan, stands.not.mpr (not_standsFree_of_endsWord (by decide))⟩

/-- A slot right behind a word is taken for the rest of the word. -/
theorem limit_glued :
    Cut [] ("limit".toList.map (fun c => .verbatim [c]) ++ .parameter ['n'] :: []) "limit@n".toList ∧
      ofText "limit@n" = ⟨"limit$1", ["n"]⟩ ∧ ¬StandsFree "limit".toList := by
  refine ⟨cut_iff.mpr (by decide +kernel), by decide +kernel, ?_⟩
  exact not_standsFree_of_endsWord (by decide)

end Scan

end Runbook.Sql

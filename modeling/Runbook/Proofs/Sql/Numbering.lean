import Runbook.Proofs.FirstAppearance
import Runbook.Proofs.Sql.Scanning

namespace Runbook.Sql

namespace Lexeme

def name? : Lexeme → Option String
  | verbatim _ => none
  | parameter name => some (.ofList name)

def shown (names : List String) : Lexeme → List Char
  | verbatim text => text
  | parameter name => Scan.slot (names.idxOf (.ofList name) + 1)

theorem endsWord_shown (names : List String) {before after : List Char} {lexeme : Lexeme}
    (h : Element before lexeme after) : endsWord (lexeme.shown names) = endsWord lexeme.source := by
  cases lexeme with
  | verbatim text => rfl
  | parameter name => exact (endsWord_slot _).trans h.endsWord_parameter.symm

theorem Element.shown_ne_nil (names : List String) {before after : List Char} {lexeme : Lexeme}
    (h : Element before lexeme after) : lexeme.shown names ≠ [] := by
  cases lexeme with
  | verbatim text => exact h.source_ne_nil
  | parameter name => exact List.cons_ne_nil _ _

/-- Wherever an element begins, what was written up to there ends in a word exactly when the source
does. -/
theorem Cut.endsWord_written (names : List String) {before s : List Char} {lexemes : List Lexeme}
    (h : Cut before lexemes s) {earlier later : List Lexeme} (eq : lexemes = earlier ++ later)
    {written : List Char} (same : endsWord written = endsWord before) :
    endsWord (written ++ earlier.flatMap (shown names)) =
      endsWord (before ++ earlier.flatMap Lexeme.source) := by
  induction h generalizing earlier written with
  | done =>
    obtain ⟨rfl, _⟩ := List.append_eq_nil_iff.mp eq.symm
    simpa using same
  | @next before after lexeme lexemes element _ ih =>
    cases earlier with
    | nil => simpa using same
    | cons first earlier =>
      obtain ⟨rfl, rest⟩ := List.cons.inj eq
      have ends :
          endsWord (written ++ lexeme.shown names) = endsWord (before ++ lexeme.source) := by
        rw [endsWord_append (element.shown_ne_nil names), endsWord_append element.source_ne_nil]
        exact endsWord_shown names element
      rw [List.flatMap_cons, List.flatMap_cons, ← List.append_assoc, ← List.append_assoc]
      exact ih rest ends

end Lexeme

namespace Scan

open Lexeme

theorem place_eraseDups (seen : List String) (name : String) :
    place seen.eraseDups name =
      ((seen ++ [name]).eraseDups.idxOf name, (seen ++ [name]).eraseDups) := by
  rw [eraseDups_concat]
  unfold place
  by_cases known : name ∈ seen
  · rw [if_pos (List.mem_eraseDups.mpr known), if_pos known]
  · have absent : name ∉ seen.eraseDups := fun h => known (List.mem_eraseDups.mp h)
    rw [if_neg absent, if_neg known, List.idxOf_append_of_notMem absent]
    simp

theorem number_eq (seen : List String) (lexemes : List Lexeme) :
    number seen.eraseDups lexemes =
      (lexemes.flatMap (shown (seen ++ lexemes.filterMap name?).eraseDups),
        (seen ++ lexemes.filterMap name?).eraseDups) := by
  induction lexemes generalizing seen with
  | nil => simp [number]
  | cons lexeme lexemes ih =>
    cases lexeme with
    | verbatim text =>
      have whole :
          (Lexeme.verbatim text :: lexemes).filterMap name? = lexemes.filterMap name? := rfl
      rw [number, ih, whole, List.flatMap_cons, shown]
    | parameter name =>
      have whole : seen ++ (Lexeme.parameter name :: lexemes).filterMap name? =
          (seen ++ [String.ofList name]) ++ lexemes.filterMap name? := by
        simp [name?]
      have stable : ((seen ++ [String.ofList name]) ++ lexemes.filterMap name?).eraseDups.idxOf
          (.ofList name) = (seen ++ [String.ofList name]).eraseDups.idxOf (.ofList name) := by
        rw [List.eraseDups_append]
        exact List.idxOf_append_of_mem (by simp)
      rw [number, place_eraseDups]
      dsimp only
      rw [ih, whole, List.flatMap_cons, shown, stable]

theorem ofText_names (sql : String) :
    (ofText sql).names = ((Lexeme.ofText sql).filterMap name?).eraseDups := by
  have read := number_eq [] (Lexeme.ofText sql)
  simp only [List.eraseDups_nil, List.nil_append] at read
  rw [ofText_eq, read]

theorem mem_ofText_names {sql name : String} :
    name ∈ (ofText sql).names ↔ Lexeme.parameter name.toList ∈ Lexeme.ofText sql := by
  rw [ofText_names, List.mem_eraseDups, List.mem_filterMap]
  constructor
  · rintro ⟨lexeme, member, named⟩
    cases lexeme with
    | verbatim text => cases named
    | parameter chars =>
      cases named
      simpa using member
  · intro member
    exact ⟨_, member, by simp [name?]⟩

theorem ofText_text (sql : String) :
    (ofText sql).text.toList = (Lexeme.ofText sql).flatMap (shown (ofText sql).names) := by
  have read := number_eq [] (Lexeme.ofText sql)
  simp only [List.eraseDups_nil, List.nil_append] at read
  rw [ofText_names, ofText_eq, read, String.toList_ofList]

/-- The text is cut into elements in one way. The parameters among them are replaced by the slots of
their names, and every other element stays as it is. Whether a word precedes an element can be seen
from what was written as well as from the source. -/
theorem ofText_cut (sql : String) :
    ∃ lexemes : List Lexeme, (∀ others, Cut [] others sql.toList ↔ others = lexemes) ∧
      (ofText sql).text.toList = lexemes.flatMap (shown (ofText sql).names) ∧
      (∀ name, name ∈ (ofText sql).names ↔ Lexeme.parameter name.toList ∈ lexemes) ∧
      ∀ earlier later, lexemes = earlier ++ later →
        endsWord (earlier.flatMap (shown (ofText sql).names)) =
          endsWord (earlier.flatMap source) := by
  refine ⟨Lexeme.ofText sql, fun others => cut_iff, ofText_text sql,
    fun name => mem_ofText_names, fun earlier later eq => ?_⟩
  have cut : Cut [] (Lexeme.ofText sql) sql.toList := cut_iff.mpr rfl
  exact cut.endsWord_written (ofText sql).names eq rfl

/-- A parameter with its number, and the piece between it and the next one. -/
structure Mark where
  name : String
  number : Nat
  after : List Char

namespace Mark

def source (mark : Mark) : List Char := '@' :: mark.name.toList ++ mark.after

def shown (mark : Mark) : List Char := slot mark.number ++ mark.after

end Mark

def marked (names : List String) : List Lexeme → List Char × List Mark
  | [] => ([], [])
  | .verbatim text :: rest => (text ++ (marked names rest).1, (marked names rest).2)
  | .parameter name :: rest =>
    ([], ⟨.ofList name, names.idxOf (.ofList name) + 1, (marked names rest).1⟩ ::
      (marked names rest).2)

theorem marked_source (names : List String) (lexemes : List Lexeme) :
    (marked names lexemes).1 ++ (marked names lexemes).2.flatMap Mark.source =
      lexemes.flatMap Lexeme.source := by
  induction lexemes with
  | nil => rfl
  | cons lexeme lexemes ih =>
    cases lexeme with
    | verbatim text => simp [marked, ← ih, Lexeme.source]
    | parameter name => simp [marked, ← ih, Lexeme.source, Mark.source]

theorem marked_shown (names : List String) (lexemes : List Lexeme) :
    (marked names lexemes).1 ++ (marked names lexemes).2.flatMap Mark.shown =
      lexemes.flatMap (Lexeme.shown names) := by
  induction lexemes with
  | nil => rfl
  | cons lexeme lexemes ih =>
    cases lexeme with
    | verbatim text => simp [marked, ← ih, Lexeme.shown]
    | parameter name => simp [marked, ← ih, Lexeme.shown, Mark.shown]

theorem marked_names (names : List String) (lexemes : List Lexeme) :
    (marked names lexemes).2.map Mark.name = lexemes.filterMap name? := by
  induction lexemes with
  | nil => rfl
  | cons lexeme lexemes ih =>
    cases lexeme with
    | verbatim text => exact ih
    | parameter name => simp [marked, ih, name?]

theorem marked_prefix (names : List String) (lexemes : List Lexeme) :
    (marked names lexemes).1 <+: lexemes.flatMap Lexeme.source :=
  ⟨_, marked_source names lexemes⟩

/-- The name of a parameter is a name, its number is that of its name, and it ends where the source
goes on with something else. -/
structure Mark.Sound (names : List String) (mark : Mark) : Prop where
  named : IsName mark.name.toList
  apart : EndsName mark.after
  number : mark.number = names.idxOf mark.name + 1

theorem marked_sound (names : List String) {before s : List Char} {lexemes : List Lexeme}
    (h : Cut before lexemes s) : ∀ mark ∈ (marked names lexemes).2, mark.Sound names := by
  induction h with
  | done => simp [marked]
  | @next before after lexeme lexemes element later ih =>
    cases lexeme with
    | verbatim text => exact ih
    | parameter name =>
      cases element with
      | formed form =>
        cases form with
        | parameter named longest =>
          intro mark hm
          rcases List.mem_cons.mp hm with rfl | hm
          · refine ⟨by simpa using named, fun c hc => longest c ?_, rfl⟩
            obtain ⟨back, whole⟩ := marked_prefix names lexemes
            rw [later.source] at whole
            rw [← whole, List.head?_append, hc]
            rfl
          · exact ih mark hm

/-- The text is the source with each parameter replaced by its slot, whose digits do not run into
what follows. The names of the slots are those of the parameters, in the order of their first
appearance. -/
theorem ofText_marked (sql : String) :
    ∃ (front : List Char) (marks : List Mark),
      sql.toList = front ++ marks.flatMap Mark.source ∧
      (ofText sql).text.toList = front ++ marks.flatMap Mark.shown ∧
      (∀ lexemes, Cut [] lexemes sql.toList →
        lexemes.filterMap name? = marks.map Mark.name) ∧
      (∀ mark ∈ marks, IsName mark.name.toList ∧ EndsName mark.after ∧ 1 ≤ mark.number ∧
        (ofText sql).names[mark.number - 1]? = some mark.name) ∧
      (ofText sql).names.Nodup ∧
      (∀ name ∈ (ofText sql).names, ∃ mark ∈ marks, mark.name = name) ∧
      ((ofText sql).names.Pairwise fun a b =>
        (marks.map Mark.name).idxOf a < (marks.map Mark.name).idxOf b) ∧
      ∀ earlier mark later, marks = earlier ++ mark :: later →
        mark.name ∉ earlier.map Mark.name →
          mark.number = (earlier.map Mark.name).eraseDups.length + 1 := by
  have cut : Cut [] (Lexeme.ofText sql) sql.toList := cut_iff.mpr rfl
  have source := marked_source (ofText sql).names (Lexeme.ofText sql)
  have shown := marked_shown (ofText sql).names (Lexeme.ofText sql)
  have named := marked_names (ofText sql).names (Lexeme.ofText sql)
  have sound := marked_sound (ofText sql).names cut
  have names := ofText_names sql
  rw [← named] at names
  rw [cut.source] at source
  rw [← ofText_text] at shown
  generalize marked (ofText sql).names (Lexeme.ofText sql) = pieces at *
  obtain ⟨front, marks⟩ := pieces
  dsimp only at names source shown named sound
  refine ⟨front, marks, source.symm, shown.symm, fun lexemes h => ?_, fun mark hm => ?_, ?_,
    fun name hn => ?_, ?_, fun earlier mark later eq new => ?_⟩
  · rw [cut_iff.mp h]
    exact named.symm
  · obtain ⟨name, apart, number⟩ := sound mark hm
    have known : mark.name ∈ (ofText sql).names := by
      rw [names]
      exact List.mem_eraseDups.mpr (List.mem_map_of_mem hm)
    refine ⟨name, apart, by omega, ?_⟩
    rw [number, Nat.add_sub_cancel]
    exact List.getElem?_idxOf known
  · rw [names]
    exact nodup_eraseDups _
  · rw [names] at hn
    exact List.mem_map.mp (List.mem_eraseDups.mp hn)
  · rw [names]
    exact pairwise_eraseDups _
  · have number := (sound mark (by simp [eq])).number
    have split : marks.map Mark.name =
        earlier.map Mark.name ++ mark.name :: later.map Mark.name := by simp [eq]
    rw [number, names, split, idxOf_eraseDups_of_notMem new]

example : ofText "@b + @a - E'\\'@c'@b" = ⟨"$1 + $2 - E'\\'@c'$1", ["b", "a"]⟩ := by
  decide +kernel

end Scan

end Runbook.Sql

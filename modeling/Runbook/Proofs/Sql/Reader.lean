import Mathlib.Data.List.Basic
import Runbook.Proofs.Text.Numerals
import Runbook.Sql.Statement

namespace Runbook

namespace Sql

/-- Takes a value off the front of a text and leaves the rest. -/
abbrev Reader (α : Type) := List Char → Option (α × List Char)

namespace Reader

def after? (keyword : String) (s : List Char) : Option (List Char) := s.dropPrefix? keyword.toList

/-- The characters up to a quote that is not doubled. -/
def quoted : Reader (List Char)
  | '"' :: '"' :: s => (quoted s).map fun (name, rest) => ('"' :: name, rest)
  | '"' :: s => some ([], s)
  | c :: s => (quoted s).map fun (name, rest) => (c :: name, rest)
  | [] => none

def name : Reader String
  | '"' :: s => (quoted s).map fun (name, rest) => (.ofList name, rest)
  | _ => none

def number : Reader Nat := fun s =>
  (Text.natural? (s.takeWhile Text.isDigit)).map fun n => (n, s.dropWhile Text.isDigit)

def slot : Reader Nat := fun s => (after? "$" s).bind number

def separated {α : Type} (separator : String) (part : Reader α) : Reader (List α) := fun s =>
  match part s with
  | none => none
  | some (value, rest) =>
    match after? separator rest with
    | none => some ([value], rest)
    | some more =>
      if more.length < s.length then
        (separated separator part more).map fun (values, rest) => (value :: values, rest)
      else none
termination_by s => s.length

def clause {α : Type} (keyword separator : String) (part : Reader α) : Reader (List α) := fun s =>
  match after? keyword s with
  | some more => separated separator part more
  | none => some ([], s)

end Reader

/-- The reader takes the text off the front of what ends with the given rest. -/
def Reads {α : Type} (reader : Reader α) (text : String) (value : α) (rest : List Char) : Prop :=
  reader (text.toList ++ rest) = some (value, rest)

def Apart (rest : List Char) : Prop := ∀ c ∈ rest.head?, c ≠ '"' ∧ Text.isDigit c = false

def Spaced (rest : List Char) : Prop := ∀ c ∈ rest.head?, c = ' '

theorem apart_append {text : String} {rest : List Char} {c : Char}
    (first : text.toList.head? = some c) (other : c ≠ '"' ∧ Text.isDigit c = false) :
    Apart (text.toList ++ rest) := by
  intro d hd
  rw [List.head?_append, first] at hd
  rw [← Option.some.inj hd]
  exact other

theorem spaced_nil : Spaced [] := by
  intro c hc
  cases hc

theorem spaced_append {text : String} {rest : List Char} (first : text.toList.head? = some ' ') :
    Spaced (text.toList ++ rest) := by
  intro c hc
  rw [List.head?_append, first] at hc
  exact (Option.some.inj hc).symm

theorem Spaced.apart {rest : List Char} (h : Spaced rest) : Apart rest := by
  intro c hc
  rw [h c hc]
  decide

namespace Reader

theorem after?_append (keyword : String) (rest : List Char) :
    after? keyword (keyword.toList ++ rest) = some rest :=
  List.dropPrefix?_append_of_beq rest (beq_self_eq_true _)

theorem eq_append_of_after? {keyword : String} {s rest : List Char}
    (h : after? keyword s = some rest) : s = keyword.toList ++ rest := by
  obtain ⟨front, eq, same⟩ := List.dropPrefix?_eq_some_iff.mp h
  rw [eq, eq_of_beq same]

theorem after?_spaced {keyword : String} {rest : List Char} {c : Char} (h : Spaced rest)
    (first : keyword.toList.head? = some c) (other : c ≠ ' ') : after? keyword rest = none := by
  cases hk : after? keyword rest with
  | none => rfl
  | some more =>
    have eq := eq_append_of_after? hk
    refine absurd (h c ?_) other
    rw [eq, List.head?_append, first]
    rfl

theorem after?_other {keyword other : String} {rest : List Char}
    (h : ¬ keyword.toList <+: other.toList) (h' : ¬ other.toList <+: keyword.toList) :
    after? keyword (other.toList ++ rest) = none := by
  cases hk : after? keyword (other.toList ++ rest) with
  | none => rfl
  | some more =>
    have eq := eq_append_of_after? hk
    rcases List.prefix_or_prefix_of_prefix (List.prefix_append other.toList rest)
      (eq ▸ List.prefix_append keyword.toList more) with short | short
    · exact absurd short h'
    · exact absurd short h

theorem quoted_doubled {rest : List Char} (apart : Apart rest) (s : List Char) :
    quoted ((s.flatMap fun c => if c = '"' then ['"', '"'] else [c]) ++ '"' :: rest) =
      some (s, rest) := by
  induction s with
  | nil =>
    cases rest with
    | nil => rfl
    | cons c rest =>
      have hc := (apart c rfl).1
      simp [quoted, hc]
  | cons c s ih =>
    by_cases hc : c = '"'
    · simp [hc, quoted, ih]
    · simp [hc, quoted, ih]

theorem reads_name {rest : List Char} (apart : Apart rest) (s : String) :
    Reads name (quoteName s) s rest := by
  have inner := quoted_doubled apart s.toList
  simp [Reads, quoteName, name, inner]

theorem reads_number {rest : List Char} (apart : Apart rest) (n : Nat) :
    Reads number (Text.decimal n) n rest := by
  have digits : ∀ c ∈ Nat.toDigits 10 n, Text.isDigit c = true :=
    fun _ => Text.isDigit_of_mem_toDigits
  have nothing : rest.takeWhile Text.isDigit = [] := by
    cases rest with
    | nil => rfl
    | cons c rest => simp [(apart c rfl).2]
  have all : rest.dropWhile Text.isDigit = rest := by
    cases rest with
    | nil => rfl
    | cons c rest => simp [(apart c rfl).2]
  simp [Reads, Text.decimal, number, List.takeWhile_append_of_pos digits,
    List.dropWhile_append_of_pos digits, nothing, all, Text.natural?_toDigits]

theorem reads_slot {rest : List Char} (apart : Apart rest) (n : Nat) :
    Reads slot (slotText n) n rest := by
  have number := reads_number apart n
  rw [Reads] at number
  rw [Reads, slotText, String.toList_append, List.append_assoc, slot, after?_append]
  exact number

theorem reads_separated {α : Type} {separator : String} {part : Reader α}
    {Follow : List Char → Prop} {values : List α} {texts : List String} {rest : List Char}
    (nonempty : separator ≠ "") (between : ∀ more, Follow (separator.toList ++ more))
    (pieces : List.Forall₂ (fun value text => ∀ more, Follow more → Reads part text value more)
      values texts)
    (filled : values ≠ []) (follow : Follow rest) (last : after? separator rest = none) :
    Reads (separated separator part) (separator.intercalate texts) values rest := by
  induction pieces with
  | nil => exact absurd rfl filled
  | @cons value text values texts first others ih =>
    rw [Reads, String.toList_intercalate, List.map_cons, separated]
    cases others with
    | nil =>
      have read := first rest follow
      rw [Reads] at read
      rw [List.map_nil, List.intercalate_singleton, read]
      simp only [last]
    | @cons _ next _ texts _ _ =>
      have tail := ih (List.cons_ne_nil _ _)
      rw [Reads, String.toList_intercalate, List.map_cons] at tail
      rw [List.map_cons, List.intercalate_cons_cons, List.append_assoc, List.append_assoc]
      have read := first _ (between
        (separator.toList.intercalate (next.toList :: texts.map String.toList) ++ rest))
      rw [Reads] at read
      have shorter : 0 < separator.toList.length :=
        List.length_pos_iff.mpr fun empty => nonempty (String.toList_eq_nil_iff.mp empty)
      rw [read]
      simp only [after?_append, List.length_append, tail, Option.map_some]
      rw [if_pos (by omega)]

theorem reads_clause {α : Type} {keyword separator : String} {part : Reader α}
    {Follow : List Char → Prop} {values : List α} {texts : List String} {rest : List Char}
    (nonempty : separator ≠ "") (between : ∀ more, Follow (separator.toList ++ more))
    (pieces : List.Forall₂ (fun value text => ∀ more, Follow more → Reads part text value more)
      values texts)
    (follow : Follow rest) (last : after? separator rest = none)
    (absent : after? keyword rest = none) :
    Reads (clause keyword separator part) (Selection.clause keyword separator texts) values
      rest := by
  cases pieces with
  | nil => simp [Reads, Selection.clause, clause, absent]
  | cons first others =>
    have read := reads_separated nonempty between (.cons first others) (List.cons_ne_nil _ _)
      follow last
    rw [Reads] at read
    rw [Reads, Selection.clause, if_neg (List.cons_ne_nil _ _), String.toList_append,
      List.append_assoc, clause, after?_append]
    exact read

end Reader

end Sql

end Runbook

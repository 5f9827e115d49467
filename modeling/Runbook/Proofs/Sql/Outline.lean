import Runbook.Proofs.Results
import Runbook.Proofs.Sql.Reader

namespace Runbook

/-- What stands between a column and the first slot, or all behind the column if there is none. -/
def Operator.lead (operator : Operator) : String :=
  operator.sql ++ if !operator.takesValue then "" else if operator.isList then " (" else " "

namespace Sql

structure Condition where
  column : String
  operator : Operator
  slots : List Nat
  deriving DecidableEq, Repr

structure Outline where
  columns : List String
  schema : Option String
  table : String
  conditions : List Condition
  orderBy : List Order
  limit : Option Nat
  deriving DecidableEq, Repr

namespace Reader

def columns : Reader (List String) := fun s =>
  match separated ", " name s with
  | some read => some read
  | none => (after? "*" s).map ([], ·)

/-- A table, with its schema in front if a point follows the first name. -/
def table : Reader (Option String × String) := fun s => do
  let (first, rest) ← name s
  match after? "." rest with
  | some more => (name more).map fun (second, rest) => ((some first, second), rest)
  | none => some ((none, first), rest)

def operator : Reader Operator := fun s => do
  let operator ← Operator.all.find? fun operator => (after? operator.lead s).isSome
  (after? operator.lead s).map (operator, ·)

def slots (operator : Operator) : Reader (List Nat) := fun s =>
  if !operator.takesValue then some ([], s)
  else if operator.isList then do
    let (slots, rest) ← separated ", " slot s
    (after? ")" rest).map (slots, ·)
  else separated ", " slot s

def condition : Reader Condition := fun s => do
  let (column, rest) ← name s
  let (operator, rest) ← (after? " " rest).bind operator
  let (slots, rest) ← slots operator rest
  return (⟨column, operator, slots⟩, rest)

def direction : Reader Direction := fun s =>
  match after? "ASC" s with
  | some rest => some (.ascending, rest)
  | none => (after? "DESC" s).map (.descending, ·)

def order : Reader Order := fun s => do
  let (column, rest) ← name s
  let (direction, rest) ← (after? " " rest).bind direction
  return (⟨column, direction⟩, rest)

def limit : Reader (Option Nat) := fun s =>
  match after? " LIMIT " s with
  | some more => (number more).map fun (n, rest) => (some n, rest)
  | none => some (none, s)

end Reader

/-- Reads a statement that is a selection, to its end. -/
def Outline.read? (text : String) : Option Outline := do
  let (columns, rest) ← (Reader.after? "SELECT " text.toList).bind Reader.columns
  let ((schema, table), rest) ← (Reader.after? " FROM " rest).bind Reader.table
  let (conditions, rest) ← Reader.clause " WHERE " " AND " Reader.condition rest
  let (orderBy, rest) ← Reader.clause " ORDER BY " ", " Reader.order rest
  let (limit, rest) ← Reader.limit rest
  if rest = [] then some ⟨columns, schema, table, conditions, orderBy, limit⟩ else none

theorem lead_eq_of_isPrefix {first second : Operator}
    (h : first.lead.toList <+: second.lead.toList) : first = second := by
  revert h
  revert first second
  have all (operator : Operator) : operator ∈ Operator.all := by cases operator <;> decide
  have free : ∀ first ∈ Operator.all, ∀ second ∈ Operator.all,
      first.lead.toList <+: second.lead.toList → first = second := by decide +kernel
  exact fun {first second} => free first (all first) second (all second)

namespace Reader

theorem reads_operator (o : Operator) (rest : List Char) : Reads operator o.lead o rest := by
  have here := after?_append o.lead rest
  have found : (Operator.all.find? fun other =>
      (after? other.lead (o.lead.toList ++ rest)).isSome) = some o := by
    cases hf : Operator.all.find? fun other =>
        (after? other.lead (o.lead.toList ++ rest)).isSome with
    | none =>
      have nothing := List.find?_eq_none.mp hf o (by cases o <;> decide)
      simp [here] at nothing
    | some other =>
      have leads := List.find?_some hf
      obtain ⟨more, hm⟩ := Option.isSome_iff_exists.mp leads
      have eq := eq_append_of_after? hm
      rcases List.prefix_or_prefix_of_prefix (List.prefix_append o.lead.toList rest)
        (eq ▸ List.prefix_append other.lead.toList more) with short | short
      · rw [lead_eq_of_isPrefix short]
      · rw [lead_eq_of_isPrefix short]
  simp [Reads, operator, found, here]

end Reader

def slotsText (operator : Operator) (numbers : List Nat) : String :=
  if operator.takesValue then
    ", ".intercalate (numbers.map slotText) ++ if operator.isList then ")" else ""
  else ""

theorem Predicate.text_eq (p : Predicate) (first : Nat) :
    p.text first = quoteName p.column ++ (" " ++ (p.operator.lead ++
      slotsText p.operator (List.range' first p.values.length))) := by
  unfold text slotsText Operator.lead
  cases p.operator.takesValue <;> cases p.operator.isList <;> simp [String.append_assoc]

def Predicate.Slotted (p : Predicate) : Prop := p.operator.takesValue = true ↔ p.values ≠ []

def Predicate.condition (first : Nat) (p : Predicate) : Condition :=
  ⟨p.column, p.operator, List.range' first p.values.length⟩

def Predicate.conditions (first : Nat) : List Predicate → List Condition
  | [] => []
  | p :: rest => p.condition first :: conditions (first + p.values.length) rest

namespace Reader

theorem reads_slots {o : Operator} {numbers : List Nat} {rest : List Char}
    (slotted : o.takesValue = true ↔ numbers ≠ []) (spaced : Spaced rest) :
    Reads (slots o) (slotsText o numbers) numbers rest := by
  have listed {rest : List Char} (apart : Apart rest) (last : after? ", " rest = none) :
      numbers ≠ [] → Reads (separated ", " slot) (", ".intercalate (numbers.map slotText))
        numbers rest := fun nonempty =>
    reads_separated (by decide) (fun _ => apart_append rfl (by decide))
      (forall₂_map_of_forall fun n _ _ apart => reads_slot apart n) nonempty apart last
  cases takes : o.takesValue with
  | false =>
    have nothing : numbers = [] := by simpa [takes] using slotted
    simp [Reads, slotsText, slots, takes, nothing]
  | true =>
    have nonempty := slotted.mp takes
    cases list : o.isList with
    | false =>
      have read := listed spaced.apart (after?_spaced spaced rfl (by decide)) nonempty
      rw [Reads] at read
      simp only [Reads, slotsText, slots, takes, list, if_true, Bool.false_eq_true, if_false,
        String.append_empty, Bool.not_true, read]
    | true =>
      have close : Apart (")".toList ++ rest) := apart_append rfl (by decide)
      have read := listed close (after?_other (by decide) (by decide)) nonempty
      rw [Reads] at read
      simp only [Reads, slotsText, slots, takes, list, if_true, Bool.false_eq_true, if_false,
        String.toList_append, List.append_assoc, Bool.not_true, read, Option.bind_eq_bind,
        Option.bind_some, after?_append, Option.map_some]

theorem reads_condition {p : Predicate} (slotted : p.Slotted) (first : Nat) {rest : List Char}
    (spaced : Spaced rest) : Reads condition (p.text first) (p.condition first) rest := by
  have column : Reads name (quoteName p.column) p.column (" ".toList ++ (p.operator.lead.toList ++
      ((slotsText p.operator (List.range' first p.values.length)).toList ++ rest))) :=
    reads_name (apart_append rfl (by decide)) p.column
  have operator := reads_operator p.operator
    ((slotsText p.operator (List.range' first p.values.length)).toList ++ rest)
  have numbers : p.operator.takesValue = true ↔ List.range' first p.values.length ≠ [] := by
    simpa [Predicate.Slotted] using slotted
  have slots := reads_slots numbers spaced
  rw [Reads] at column operator slots
  simp only [Reads, Predicate.text_eq, String.toList_append, List.append_assoc, condition, column,
    Option.bind_eq_bind, Option.bind_some, after?_append, operator, slots]
  rfl

theorem reads_conditions {ps : List Predicate} (slotted : ∀ p ∈ ps, p.Slotted) (first : Nat) :
    List.Forall₂ (fun c text => ∀ rest, Spaced rest → Reads condition text c rest)
      (Predicate.conditions first ps) (Predicate.texts first ps) := by
  induction ps generalizing first with
  | nil => exact .nil
  | cons p ps ih =>
    refine .cons (fun rest => reads_condition (slotted p (by simp)) first) (ih ?_ _)
    exact fun q hq => slotted q (List.mem_cons_of_mem _ hq)

theorem reads_direction (direction : Direction) (rest : List Char) :
    Reads Reader.direction direction.sql direction rest := by
  cases direction with
  | ascending =>
    rw [Reads, Reader.direction, Direction.sql, after?_append]
  | descending =>
    have other : after? "ASC" ("DESC".toList ++ rest) = none :=
      after?_other (by decide) (by decide)
    rw [Reads, Reader.direction, Direction.sql, other, after?_append]
    rfl

theorem reads_order (o : Order) (rest : List Char) :
    Reads order (Selection.orderText o) o rest := by
  have column : Reads name (quoteName o.column) o.column
      (" ".toList ++ (o.direction.sql.toList ++ rest)) :=
    reads_name (apart_append rfl (by decide)) o.column
  have direction := reads_direction o.direction rest
  rw [Reads] at column direction
  simp only [Reads, Selection.orderText, String.toList_append, List.append_assoc, order, column,
    Option.bind_eq_bind, Option.bind_some, after?_append, direction]
  rfl

theorem reads_columns (s : Selection) {rest : List Char} (spaced : Spaced rest) :
    Reads columns s.columnsText s.columns rest := by
  unfold Selection.columnsText
  split
  next nothing =>
    have nameless : separated ", " name ("*".toList ++ rest) = none := by
      rw [separated]
      rfl
    rw [Reads, columns, nameless, after?_append, nothing]
    rfl
  next nonempty =>
    have names : List.Forall₂ (fun c text => ∀ rest, Apart rest → Reads name text c rest)
        s.columns (s.columns.map quoteName) :=
      forall₂_map_of_forall fun c _ _ apart => reads_name apart c
    have read : Reads (separated ", " name) (", ".intercalate (s.columns.map quoteName))
        s.columns rest :=
      reads_separated (by decide) (fun _ => apart_append rfl (by decide)) names nonempty
        spaced.apart (after?_spaced spaced rfl (by decide))
    rw [Reads] at read
    rw [Reads, columns, read]

/-- The schema and the name of a table are told apart by what follows the first of them. -/
theorem reads_table (s : Selection) {rest : List Char} (spaced : Spaced rest) :
    Reads table s.tableText (s.schema, s.table) rest := by
  have second := reads_name spaced.apart s.table
  rw [Reads] at second
  unfold Selection.tableText
  cases s.schema with
  | none =>
    have single : after? "." rest = none := after?_spaced spaced rfl (by decide)
    simp only [Reads, table, second, Option.bind_eq_bind, Option.bind_some, single]
  | some schema =>
    have first : Reads name (quoteName schema) schema
        (".".toList ++ ((quoteName s.table).toList ++ rest)) :=
      reads_name (apart_append rfl (by decide)) schema
    rw [Reads] at first
    simp only [Reads, table, String.toList_append, List.append_assoc, first, second,
      Option.bind_eq_bind, Option.bind_some, after?_append, Option.map_some]

end Reader

theorem Selection.clause_eq (keyword separator : String) (parts : List String) :
    clause keyword separator parts = "" ∨
      ∃ more, clause keyword separator parts = keyword ++ more := by
  unfold clause
  split
  next => exact .inl rfl
  next => exact .inr ⟨_, rfl⟩

theorem Spaced.clause {keyword separator : String} {parts : List String} {rest : List Char}
    (h : Spaced rest) (space : keyword.toList.head? = some ' ') :
    Spaced ((Selection.clause keyword separator parts).toList ++ rest) := by
  rcases Selection.clause_eq keyword separator parts with eq | ⟨more, eq⟩
  · rw [eq]
    exact h
  · rw [eq, String.toList_append, List.append_assoc]
    exact spaced_append space

theorem Reader.after?_clause {keyword other separator : String} {parts : List String}
    {rest : List Char} (h : ¬ keyword.toList <+: other.toList)
    (h' : ¬ other.toList <+: keyword.toList) (nothing : Reader.after? keyword rest = none) :
    Reader.after? keyword ((Selection.clause other separator parts).toList ++ rest) = .none := by
  rcases Selection.clause_eq other separator parts with eq | ⟨more, eq⟩
  · rw [eq]
    exact nothing
  · rw [eq, String.toList_append, List.append_assoc]
    exact Reader.after?_other h h'

namespace Selection

def conditionsText (s : Selection) : String :=
  clause " WHERE " " AND " (Predicate.texts 1 s.predicates)

def orderByText (s : Selection) : String := clause " ORDER BY " ", " (s.orderBy.map orderText)

def limitText (s : Selection) : String := clause " LIMIT " "" (s.limit.toList.map Text.decimal)

theorem text_eq (s : Selection) :
    s.text = "SELECT " ++ (s.columnsText ++ (" FROM " ++ (s.tableText ++
      (s.conditionsText ++ (s.orderByText ++ s.limitText))))) := by
  unfold text conditionsText orderByText limitText
  cases s.limit <;> simp [clause, String.append_assoc]

theorem spaced_limitText (s : Selection) : Spaced s.limitText.toList := by
  rw [← List.append_nil s.limitText.toList]
  exact spaced_nil.clause rfl

theorem after?_limitText {keyword : String} (s : Selection)
    (h : ¬ keyword.toList <+: " LIMIT ".toList) (h' : ¬ " LIMIT ".toList <+: keyword.toList)
    (nothing : Reader.after? keyword [] = none) :
    Reader.after? keyword s.limitText.toList = .none := by
  rw [← List.append_nil s.limitText.toList]
  exact Reader.after?_clause h h' nothing

def outline (s : Selection) : Outline :=
  ⟨s.columns, s.schema, s.table, Predicate.conditions 1 s.predicates, s.orderBy, s.limit⟩

end Selection

namespace Reader

theorem reads_limitText (s : Selection) : Reads limit s.limitText s.limit [] := by
  unfold Selection.limitText
  cases s.limit with
  | none => rfl
  | some n =>
    have read : Reads number (Text.decimal n) n [] := reads_number spaced_nil.apart n
    rw [Reads, List.append_nil] at read
    have text : Selection.clause " LIMIT " "" [Text.decimal n] = " LIMIT " ++ Text.decimal n := by
      simp [Selection.clause]
    rw [Option.toList_some, List.map_singleton, text, Reads, String.toList_append, List.append_nil,
      limit, after?_append]
    simp only [read, Option.map_some]

theorem reads_orderByText (s : Selection) :
    Reads (clause " ORDER BY " ", " order) s.orderByText s.orderBy s.limitText.toList := by
  have orders : List.Forall₂ (fun o text => ∀ rest, True → Reads order text o rest)
      s.orderBy (s.orderBy.map Selection.orderText) :=
    forall₂_map_of_forall fun o _ rest _ => reads_order o rest
  exact reads_clause (by decide) (fun _ => trivial) orders trivial
    (s.after?_limitText (by decide) (by decide) rfl)
    (s.after?_limitText (by decide) (by decide) rfl)

theorem reads_conditionsText {s : Selection} (slotted : ∀ p ∈ s.predicates, p.Slotted) :
    Reads (clause " WHERE " " AND " condition) s.conditionsText
      (Predicate.conditions 1 s.predicates) (s.orderByText.toList ++ s.limitText.toList) := by
  have last : after? " AND " (s.orderByText.toList ++ s.limitText.toList) = none :=
    after?_clause (by decide) (by decide) (s.after?_limitText (by decide) (by decide) rfl)
  have absent : after? " WHERE " (s.orderByText.toList ++ s.limitText.toList) = none :=
    after?_clause (by decide) (by decide) (s.after?_limitText (by decide) (by decide) rfl)
  exact reads_clause (by decide) (fun _ => spaced_append rfl) (reads_conditions slotted 1)
    (s.spaced_limitText.clause rfl) last absent

end Reader

theorem Outline.read?_text {s : Selection} (slotted : ∀ p ∈ s.predicates, p.Slotted) :
    Outline.read? s.text = some s.outline := by
  have spaced : Spaced (s.conditionsText.toList ++ (s.orderByText.toList ++ s.limitText.toList)) :=
    (s.spaced_limitText.clause rfl).clause rfl
  have front : Spaced (" FROM ".toList ++ (s.tableText.toList ++ (s.conditionsText.toList ++
      (s.orderByText.toList ++ s.limitText.toList)))) :=
    spaced_append rfl
  have columns := Reader.reads_columns s front
  have table := Reader.reads_table s spaced
  have conditions := Reader.reads_conditionsText slotted
  have orderBy := Reader.reads_orderByText s
  have limit := Reader.reads_limitText s
  rw [Reads] at columns table conditions orderBy limit
  rw [List.append_nil] at limit
  simp only [Outline.read?, Selection.text_eq, String.toList_append, Reader.after?_append,
    Option.bind_eq_bind, Option.bind_some, columns, table, conditions, orderBy, limit, if_true,
    Selection.outline]

example : Outline.read? ("SELECT \"a\"\"b\", \"c\" FROM \"s\".\"t. FROM \"" ++
    " WHERE \"c\" IN ($1, $2) AND \"x\" IS NOT NULL AND \"$1\" <= $3 ORDER BY \"c\" DESC LIMIT 20") =
    some ⟨["a\"b", "c"], some "s", "t. FROM ",
      [⟨"c", .oneOf, [1, 2]⟩, ⟨"x", .isNotNull, []⟩, ⟨"$1", .lessEqual, [3]⟩],
      [⟨"c", .descending⟩], some 20⟩ := by
  decide +kernel

end Sql

end Runbook

import Runbook.Proofs.Sql.SameSlots
import Runbook.Proofs.Text.Items

namespace Runbook

/-- The source of the value that a filter compares with, unless it tests for NULL. -/
def Filter.source? (filter : Filter) : Option String :=
  if filter.operator.takesValue then filter.value else none

def Filter.ComesTo (values : Values) (filter : Filter) (text : String) : Prop :=
  ∃ source, filter.source? = some source ∧ (Template.parse source).resolve values = .ok text

theorem Operator.not_isPattern_of_isList {operator : Operator} (h : operator.isList = true) :
    operator.isPattern = false := by
  cases operator <;> first | rfl | cases h

theorem Operator.not_isList_of_isPattern {operator : Operator} (h : operator.isPattern = true) :
    operator.isList = false := by
  cases operator <;> first | rfl | cases h

theorem Operator.takesValue_of_isList {operator : Operator} (h : operator.isList = true) :
    operator.takesValue = true := by
  cases operator <;> first | rfl | cases h

theorem Filter.ComesTo.unique {values : Values} {filter : Filter} {text other : String}
    (h : filter.ComesTo values text) (h' : filter.ComesTo values other) : text = other := by
  obtain ⟨source, given, resolved⟩ := h
  obtain ⟨source', given', resolved'⟩ := h'
  cases Option.some.inj (given.symm.trans given')
  exact Except.ok.inj (resolved.symm.trans resolved')

namespace Sql

theorem listItems_eq_iff {text : String} {items : List String} :
    listItems text = items ↔ Text.Lists ',' text items := by
  constructor
  · intro h
    obtain ⟨nonempty, free, whole⟩ := Text.pieces_eq_iff.mp (Eq.refl (Text.pieces ',' text.toList))
    refine ⟨_, nonempty, free, ?_, Text.spread_iff.mpr h⟩
    rw [whole, String.ofList_toList]
  · rintro ⟨pieces, nonempty, free, rfl, spread⟩
    have cut := Text.pieces_eq_iff.mpr ⟨nonempty, free, rfl⟩
    rw [listItems, String.toList_ofList, cut]
    exact Text.spread_iff.mp spread

/-- The values that a text comes to where it is compared with a column: those of its items for a
list, the text itself for a pattern, and else its value as one of the column's kind. -/
inductive Compared (column : Column) (operator : Operator) (text : String) :
    List TypedValue → Prop where
  | list {items : List String} {found : List TypedValue} (list : operator.isList = true)
      (lists : Text.Lists ',' text items) (nonempty : items ≠ [])
      (each : List.Forall₂ (fun item value => column.kind.coerce item = .ok value) items found) :
    Compared column operator text found
  | pattern (pattern : operator.isPattern = true) : Compared column operator text [.text text]
  | single {value : TypedValue} (single : operator.isList = false)
      (plain : operator.isPattern = false) (coerced : column.kind.coerce text = .ok value) :
    Compared column operator text [value]

/-- The parameters of a filter on a table: none for a test for NULL, and else one for each value
that its text comes to, under the name of its column. -/
inductive Binds (table : Table) (values : Values) (filter : Filter) : List Parameter → Prop where
  | test (test : filter.operator.takesValue = false) : Binds table values filter []
  | compared {column : Column} {text : String} {found : List TypedValue}
      (takes : filter.operator.takesValue = true) (comes : filter.ComesTo values text)
      (column? : table.column? filter.column = some column)
      (compared : Compared column filter.operator text found) :
    Binds table values filter (found.map (Parameter.mk filter.column))

theorem filterValue_eq_ok_iff {filter : CheckedFilter} {text : String} {value : TypedValue} :
    filterValue filter text = .ok value ↔
      (filter.operator.isPattern = true ∧ value = .text text) ∨
        filter.operator.isPattern = false ∧ filter.column.kind.coerce text = .ok value := by
  unfold filterValue
  cases pattern : filter.operator.isPattern with
  | true => simp [eq_comm]
  | false =>
    cases filter.column.kind.coerce text with
    | ok other => simp
    | error complaint => simp

theorem filterValues_list {filter : CheckedFilter} {text : String} {found : List TypedValue}
    (list : filter.operator.isList = true) :
    filterValues filter (some text) = .ok found ↔ listItems text ≠ [] ∧
      List.Forall₂ (fun item value => filter.column.kind.coerce item = .ok value)
        (listItems text) found := by
  have plain := Operator.not_isPattern_of_isList list
  unfold filterValues
  simp only [list, if_true]
  split
  next nothing => simp [nothing]
  next items some =>
    have ne : listItems text ≠ [] := some
    rw [mapM_eq_ok_iff_forall₂]
    simp [ne, filterValue_eq_ok_iff, plain]

theorem filterValues_single {filter : CheckedFilter} {text : String} {found : List TypedValue}
    (single : filter.operator.isList = false) :
    filterValues filter (some text) = .ok found ↔
      ∃ value, filterValue filter text = .ok value ∧ [value] = found := by
  rw [← Except.map_eq_ok_iff]
  simp [filterValues, single]

theorem filterValues_eq_ok_iff {filter : CheckedFilter} {text : String}
    {found : List TypedValue} :
    filterValues filter (some text) = .ok found ↔
      Compared filter.column filter.operator text found := by
  constructor
  · intro h
    cases list : filter.operator.isList with
    | true =>
      obtain ⟨nonempty, each⟩ := (filterValues_list list).mp h
      exact .list list (listItems_eq_iff.mp rfl) nonempty each
    | false =>
      obtain ⟨value, hv, rfl⟩ := (filterValues_single list).mp h
      rcases filterValue_eq_ok_iff.mp hv with ⟨pattern, rfl⟩ | ⟨plain, coerced⟩
      · exact .pattern pattern
      · exact .single list plain coerced
  · intro h
    cases h with
    | list list lists nonempty each =>
      have same := listItems_eq_iff.mpr lists
      exact (filterValues_list list).mpr (same ▸ ⟨nonempty, each⟩)
    | pattern pattern =>
      have single := Operator.not_isList_of_isPattern pattern
      exact (filterValues_single single).mpr
        ⟨_, filterValue_eq_ok_iff.mpr (.inl ⟨pattern, rfl⟩), rfl⟩
    | single single plain coerced =>
      exact (filterValues_single single).mpr
        ⟨_, filterValue_eq_ok_iff.mpr (.inr ⟨plain, coerced⟩), rfl⟩

theorem checkFilter_eq_ok_iff_source? {table : Table} {filter : Filter} {checked : CheckedFilter} :
    checkFilter table filter = .ok checked ↔
      (filter.operator.takesValue = true → filter.value.isSome = true) ∧
      ∃ column, table.column? filter.column = some column ∧
        checked = ⟨column, filter.operator, filter.source?⟩ := checkFilter_eq_ok_iff

theorem CheckedFilter.text_eq_some_iff {values : Values} {filter : Filter} {column : Column}
    {text : String}
    (whole : CheckedFilter.missing values ⟨column, filter.operator, filter.source?⟩ = []) :
    CheckedFilter.text values ⟨column, filter.operator, filter.source?⟩ = some text ↔
      filter.ComesTo values text := by
  cases given : filter.source? with
  | none => simp [CheckedFilter.text, Filter.ComesTo, given]
  | some source =>
    have complete : (Template.parse source).missing values = [] := by
      simpa [missing, given] using whole
    have resolved := Template.resolve_batchText complete
    simp [CheckedFilter.text, Filter.ComesTo, given, resolved]

theorem predicateOf_iff_binds {table : Table} {values : Values} {filter : Filter}
    {checked : CheckedFilter} {parameters : List Parameter}
    (hf : checkFilter table filter = .ok checked) (whole : checked.missing values = []) :
    (∃ p, predicateOf checked (checked.text values) = .ok p ∧ p.parameters = parameters) ↔
      Binds table values filter parameters := by
  obtain ⟨takes, column, column?, rfl⟩ := checkFilter_eq_ok_iff_source?.mp hf
  have named := Table.column?_name column?
  have comes (text : String) : CheckedFilter.text values ⟨column, filter.operator, filter.source?⟩ =
      some text ↔ filter.ComesTo values text := CheckedFilter.text_eq_some_iff whole
  constructor
  · rintro ⟨p, hp, rfl⟩
    obtain ⟨pc, -, pv⟩ := predicateOf_eq_ok hp
    rw [Predicate.parameters, pc, named]
    cases test : filter.operator.takesValue with
    | false =>
      have nothing : [] = p.values := by
        simpa [CheckedFilter.text, Filter.source?, test, filterValues] using pv
      rw [← nothing]
      exact .test test
    | true =>
      obtain ⟨source, given⟩ := Option.isSome_iff_exists.mp (takes test)
      have ht : CheckedFilter.text values ⟨column, filter.operator, filter.source?⟩ =
          some ((Template.parse source).batchText values) := by
        simp [CheckedFilter.text, Filter.source?, test, given]
      rw [ht] at pv
      exact .compared test ((comes _).mp ht) column? (filterValues_eq_ok_iff.mp pv)
  · intro h
    cases h with
    | test test =>
      refine ⟨⟨column.name, filter.operator, []⟩, ?_, rfl⟩
      simp [predicateOf, CheckedFilter.text, Filter.source?, test, filterValues, Except.map]
    | @compared other text found _ ht other? compared =>
      cases Option.some.inj (column?.symm.trans other?)
      refine ⟨⟨column.name, filter.operator, found⟩, ?_, by rw [Predicate.parameters, named]⟩
      have computed : filterValues ⟨column, filter.operator, filter.source?⟩ (some text) =
          .ok found := filterValues_eq_ok_iff.mpr compared
      rw [predicateOf, (comes text).mpr ht, computed]
      rfl

theorem binds_of_filters {table : Table} {values : Values} {filters : List Filter}
    {checked : List CheckedFilter} {ps : List Predicate}
    (hf : List.Forall₂ (fun filter c => checkFilter table filter = .ok c) filters checked)
    (whole : ∀ c ∈ checked, c.missing values = [])
    (hp : List.Forall₂ (fun c p => predicateOf c (c.text values) = .ok p) checked ps) :
    List.Forall₂ (Binds table values) filters (ps.map Predicate.parameters) := by
  induction hf generalizing ps with
  | nil =>
    cases hp
    exact .nil
  | @cons filter c filters cs hfc _ ih =>
    obtain ⟨p, ps, hpc, hps, rfl⟩ := List.forall₂_cons_left_iff.mp hp
    have first := (predicateOf_iff_binds hfc (whole c (by simp))).mp ⟨p, hpc, rfl⟩
    exact .cons first (ih (fun other h => whole other (List.mem_cons_of_mem _ h)) hps)

/-- However the text of a list is laid out, each of its items is bound once. -/
theorem Binds.of_lists {table : Table} {values : Values} {filter : Filter}
    {parameters : List Parameter} (h : Binds table values filter parameters)
    (list : filter.operator.isList = true) {text : String} {items : List String}
    (comes : filter.ComesTo values text) (lists : Text.Lists ',' text items) :
    ∃ column, table.column? filter.column = some column ∧
      List.Forall₂ (fun item parameter => parameter.name = filter.column ∧
        column.kind.coerce item = .ok parameter.value) items parameters := by
  cases h with
  | test test =>
    have takes := Operator.takesValue_of_isList list
    rw [test] at takes
    cases takes
  | @compared column other found _ comes' column? compared =>
    cases comes.unique comes'
    refine ⟨column, column?, List.forall₂_map_right_iff.mpr ?_⟩
    cases compared with
    | list _ lists' _ each =>
      have same := (listItems_eq_iff.mpr lists).symm.trans (listItems_eq_iff.mpr lists')
      rw [same]
      exact each.imp fun _ _ coerced => ⟨rfl, coerced⟩
    | pattern pattern =>
      have single := Operator.not_isList_of_isPattern pattern
      rw [list] at single
      cases single
    | single single =>
      rw [list] at single
      cases single

/-- The parameters of a statement are those of its filters one after another, and nothing else. A
list that is written with white space around its items and blank pieces between them has a parameter
for each item. -/
theorem parameters_eq_flatten {query : GuiQuery} {inputs : List Field} {supplied : Dict String}
    {user : User} {schema : Option Schema} {statement : Statement}
    (h : compile (.gui query) inputs supplied user schema = .ok statement) :
    ∃ validated snapshot name table parts,
      Field.validateByLabel inputs supplied = .ok validated ∧ schema = some snapshot ∧
      query.table = some name ∧ snapshot.table? name = some table ∧
      let values := Validated.placeholders user validated
      List.Forall₂ (Binds table values) query.filters parts ∧
      statement.parameters = parts.flatten ∧
      ∀ filter part, (filter, part) ∈ query.filters.zip parts → filter.operator.isList = true →
        ∀ pieces items, pieces ≠ [] → (∀ piece ∈ pieces, ',' ∉ piece) →
          Text.Spread pieces items →
          filter.ComesTo values (.ofList ([','].intercalate pieces)) →
          ∃ column, table.column? filter.column = some column ∧
            List.Forall₂ (fun item parameter => parameter.name = filter.column ∧
              column.kind.coerce item = .ok parameter.value) items part := by
  obtain ⟨validated, hv, selection, hs, rfl⟩ := compile_eq_ok_iff.mp h
  obtain ⟨checked, hc, whole, hp, eq⟩ := selectionOf_eq_ok_iff.mp hs
  obtain ⟨ht, -, filters, -, -⟩ := checkQuery_eq_ok hc
  obtain ⟨snapshot, name, hsnapshot, hname, -, found⟩ := tableOf_eq_ok_iff.mp ht
  have bound := binds_of_filters filters whole hp
  refine ⟨validated, snapshot, name, checked.table, _, hv, hsnapshot, hname, found, bound,
    List.flatMap_def .., ?_⟩
  intro filter part pair list pieces items nonempty free spread comes
  have binds := (List.forall₂_iff_zip.mp bound).2 pair
  exact binds.of_lists list comes ⟨pieces, nonempty, free, rfl, spread⟩

/-- Blank pieces and the white space around the names are gone from the list, not from the pattern
that has the same text. -/
theorem parameters_eq_flatten_people :
    ∃ statement table values parts,
      compile (.gui peopleNamed) [entered] (.ofPairs [("x", " ,p ,\tq,, ")]) .anonymous
        (some (Schema.empty.add people)) = .ok statement ∧
      List.Forall₂ (Binds table values) peopleNamed.filters parts ∧
      statement.parameters = parts.flatten ∧
      parts.flatten = [⟨"name", .text "p"⟩, ⟨"name", .text "q"⟩, ⟨"name", .text " ,p ,\tq,, "⟩] := by
  have items : listItems " ,p ,\tq,, " = ["p", "q"] := by decide +kernel
  have value : (Validated.placeholders .anonymous [⟨"x", "x", .text " ,p ,\tq,, "⟩])["x"]? =
      some " ,p ,\tq,, " := rfl
  have compiled := compile_peopleNamed (by decide) value items
  obtain ⟨_, _, _, table, parts, _, _, _, _, bound, whole, _⟩ := parameters_eq_flatten compiled
  exact ⟨_, table, _, parts, compiled, bound, whole, whole.symm⟩

end Sql

end Runbook

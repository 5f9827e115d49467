import Runbook.Proofs.Batch
import Runbook.Proofs.Results
import Runbook.Sql.Compile

namespace Runbook

theorem Table.column?_name {table : Table} {name : String} {column : Column}
    (h : table.column? name = some column) : column.name = name := by
  simpa using List.find?_some h

namespace Sql

theorem tableOf_eq_ok_iff {schema : Option Schema} {name : Option String} {table : Table} :
    tableOf schema name = .ok table ↔ ∃ snapshot shown, schema = some snapshot ∧
      name = some shown ∧ Text.isBlank shown = false ∧ snapshot.table? shown = some table := by
  unfold tableOf
  cases schema with
  | none => simp [throw, throwThe, MonadExceptOf.throw]
  | some snapshot =>
    cases name with
    | none => simp [throw, throwThe, MonadExceptOf.throw]
    | some shown =>
      cases blank : Text.isBlank shown with
      | true => simp [blank, throw, throwThe, MonadExceptOf.throw, bind, Except.bind]
      | false =>
        cases found : snapshot.table? shown with
        | none => simp [blank, found, throw, throwThe, MonadExceptOf.throw]
        | some t => simp [blank, found, pure, Except.pure]

theorem columnOf_eq_ok_iff {table : Table} {name : String} {column : Column} :
    columnOf table name = .ok column ↔ table.column? name = some column := by
  unfold columnOf
  split
  next h => simp [h]
  next h => simp [h]

theorem checkFilter_eq_ok_iff {table : Table} {filter : Filter} {checked : CheckedFilter} :
    checkFilter table filter = .ok checked ↔
      (filter.operator.takesValue = true → filter.value.isSome = true) ∧
      ∃ column, table.column? filter.column = some column ∧ checked = ⟨column, filter.operator,
        if filter.operator.takesValue then filter.value else none⟩ := by
  have finish (template : Option String) :
      (columnOf table filter.column).bind (fun column => pure ⟨column, filter.operator, template⟩) =
          .ok checked ↔
        ∃ column, table.column? filter.column = some column ∧
          checked = ⟨column, filter.operator, template⟩ := by
    rw [Except.bind_eq_ok_iff]
    exact exists_congr fun column => and_congr columnOf_eq_ok_iff
      ⟨fun h => (Except.ok.inj h).symm, fun h => congrArg Except.ok h.symm⟩
  unfold checkFilter
  cases takes : filter.operator.takesValue with
  | false => simpa [bind, pure, Except.pure, Except.bind] using finish none
  | true =>
    cases value : filter.value with
    | none => simp [throw, throwThe, MonadExceptOf.throw, bind, Except.bind]
    | some template => simpa [bind, pure, Except.pure, Except.bind] using finish (some template)

theorem checkOrder_eq_ok {table : Table} {order checked : Order}
    (h : checkOrder table order = .ok checked) : checked = order := by
  obtain ⟨column, hc, h⟩ := Except.bind_eq_ok_iff.mp h
  cases h
  rw [Table.column?_name (columnOf_eq_ok_iff.mp hc)]

theorem columnName_eq_ok {table : Table} {name shown : String}
    (h : (columnOf table name).map Column.name = .ok shown) : shown = name := by
  obtain ⟨column, hc, rfl⟩ := Except.map_eq_ok_iff.mp h
  exact Table.column?_name (columnOf_eq_ok_iff.mp hc)

theorem checkQuery_eq_ok {schema : Option Schema} {query : GuiQuery} {checked : CheckedQuery}
    (h : checkQuery schema query = .ok checked) :
    tableOf schema query.table = .ok checked.table ∧ checked.columns = query.columns ∧
      List.Forall₂ (fun filter c => checkFilter checked.table filter = .ok c)
        query.filters checked.filters ∧
      checked.orderBy = query.orderBy ∧ query.limit.mapM limitOf = .ok checked.limit := by
  obtain ⟨table, ht, h⟩ := Except.bind_eq_ok_iff.mp h
  obtain ⟨columns, hc, h⟩ := Except.bind_eq_ok_iff.mp h
  obtain ⟨filters, hf, h⟩ := Except.bind_eq_ok_iff.mp h
  obtain ⟨orderBy, ho, h⟩ := Except.bind_eq_ok_iff.mp h
  obtain ⟨limit, hl, h⟩ := Except.bind_eq_ok_iff.mp h
  cases h
  refine ⟨ht, ?_, mapM_eq_ok_iff_forall₂.mp hf, ?_, hl⟩
  · simpa using map_eq_of_forall₂ (g := id)
      ((mapM_eq_ok_iff_forall₂.mp hc).imp fun _ _ => columnName_eq_ok)
  · simpa using map_eq_of_forall₂ (g := id)
      ((mapM_eq_ok_iff_forall₂.mp ho).imp fun _ _ => checkOrder_eq_ok)

namespace CheckedFilter

def text (values : Values) (filter : CheckedFilter) : Option String :=
  filter.template.map fun source => (Template.parse source).batchText values

def missing (values : Values) (filter : CheckedFilter) : List String :=
  filter.template.toList.flatMap fun source => (Template.parse source).missing values

end CheckedFilter

theorem yields_filters (values : Values) (filters : List CheckedFilter) :
    Batch.Yields (filters.mapM fun filter : CheckedFilter =>
        filter.template.mapM (Batch.resolve values))
      (filters.map (CheckedFilter.text values)) (filters.flatMap (CheckedFilter.missing values)) :=
  Batch.yields_mapM (fun filter =>
    Batch.yields_mapM_option (Batch.yields_resolve values) filter.template) filters

theorem resolveFilters_eq_ok_iff {values : Values} {filters : List CheckedFilter}
    {texts : List (Option String)} :
    resolveFilters values filters = .ok texts ↔
      (∀ filter ∈ filters, filter.missing values = []) ∧
        filters.map (CheckedFilter.text values) = texts := by
  have run := yields_filters values filters
  have whole := Batch.finish_eq_ok_iff run
  rw [List.flatMap_eq_nil_iff] at whole
  rw [← whole]
  unfold resolveFilters
  dsimp only
  split
  next h =>
    rw [h, run Batch.start]
    simp
  next h =>
    rw [h]
    simp

theorem zip_texts (values : Values) (filters : List CheckedFilter) :
    filters.zip (filters.map (CheckedFilter.text values)) =
      filters.map fun filter => (filter, filter.text values) := by
  simpa using List.zip_map' (f := id) (g := CheckedFilter.text values) (l := filters)

/-- The selection of a query: its parts are those of the checked query, and its conditions come of
the filters one by one. -/
theorem selectionOf_eq_ok_iff {values : Values} {schema : Option Schema} {query : GuiQuery}
    {selection : Selection} :
    selectionOf values schema query = .ok selection ↔
      ∃ checked, checkQuery schema query = .ok checked ∧
        (∀ filter ∈ checked.filters, filter.missing values = []) ∧
        List.Forall₂
          (fun filter predicate => predicateOf filter (filter.text values) = .ok predicate)
          checked.filters selection.predicates ∧
        selection = ⟨checked.columns, checked.table.schema, checked.table.name,
          selection.predicates, checked.orderBy, checked.limit⟩ := by
  constructor
  · intro h
    obtain ⟨checked, hc, h⟩ := Except.bind_eq_ok_iff.mp h
    obtain ⟨texts, ht, h⟩ := Except.bind_eq_ok_iff.mp h
    obtain ⟨predicates, hp, h⟩ := Except.bind_eq_ok_iff.mp h
    cases h
    obtain ⟨whole, rfl⟩ := resolveFilters_eq_ok_iff.mp ht
    rw [zip_texts, List.mapM_map] at hp
    exact ⟨checked, hc, whole, mapM_eq_ok_iff_forall₂.mp hp, rfl⟩
  · rintro ⟨checked, hc, whole, hp, hs⟩
    have ht := resolveFilters_eq_ok_iff.mpr ⟨whole, rfl⟩
    refine Except.bind_eq_ok_iff.mpr ⟨checked, hc, Except.bind_eq_ok_iff.mpr ⟨_, ht, ?_⟩⟩
    refine Except.bind_eq_ok_iff.mpr ⟨selection.predicates, ?_, congrArg Except.ok hs.symm⟩
    rw [zip_texts, List.mapM_map]
    exact mapM_eq_ok_iff_forall₂.mpr hp

def slotCount (operator : Operator) : Option String → Nat
  | none => 0
  | some text => if operator.isList then (listItems text).length else 1

theorem filterValues_length {filter : CheckedFilter} {resolved : Option String}
    {values : List TypedValue} (h : filterValues filter resolved = .ok values) :
    values.length = slotCount filter.operator resolved := by
  cases resolved with
  | none => cases h; rfl
  | some text =>
    unfold filterValues at h
    dsimp only at h
    split at h
    next list =>
      split at h
      next => cases h
      next items _ =>
        have pointwise := mapM_eq_ok_iff_forall₂.mp h
        simp [slotCount, list, pointwise.length_eq]
    next single =>
      obtain ⟨value, _, rfl⟩ := Except.map_eq_ok_iff.mp h
      simp [slotCount, single]

theorem filterValues_ne_nil {filter : CheckedFilter} {text : String} {values : List TypedValue}
    (h : filterValues filter (some text) = .ok values) : values ≠ [] := by
  unfold filterValues at h
  dsimp only at h
  split at h
  next =>
    split at h
    next => cases h
    next nonempty =>
      rintro rfl
      exact nonempty (List.forall₂_nil_right_iff.mp (mapM_eq_ok_iff_forall₂.mp h))
  next =>
    obtain ⟨value, _, rfl⟩ := Except.map_eq_ok_iff.mp h
    exact List.cons_ne_nil _ _

theorem predicateOf_eq_ok {filter : CheckedFilter} {resolved : Option String} {p : Predicate}
    (h : predicateOf filter resolved = .ok p) : p.column = filter.column.name ∧
      p.operator = filter.operator ∧ filterValues filter resolved = .ok p.values := by
  obtain ⟨values, hv, rfl⟩ := Except.map_eq_ok_iff.mp h
  exact ⟨rfl, rfl, hv⟩

theorem compile_eq_ok_iff {query : Query} {inputs : List Field} {supplied : Dict String}
    {user : User} {schema : Option Schema} {statement : Statement} :
    compile query inputs supplied user schema = .ok statement ↔
      ∃ validated, Field.validateByLabel inputs supplied = .ok validated ∧
        match query with
        | .gui query => ∃ selection,
            selectionOf (Validated.placeholders user validated) schema query = .ok selection ∧
              selection.statement = statement
        | .raw query =>
            compileRaw (Validated.placeholders user validated) validated query = .ok statement := by
  cases query with
  | gui query =>
    constructor
    · intro h
      obtain ⟨validated, hv, h⟩ := Except.bind_eq_ok_iff.mp h
      obtain ⟨selection, hs, h⟩ := Except.bind_eq_ok_iff.mp h
      exact ⟨validated, Except.mapError_eq_ok_iff.mp hv, selection, hs, Except.ok.inj h⟩
    · rintro ⟨validated, hv, selection, hs, rfl⟩
      exact Except.bind_eq_ok_iff.mpr ⟨validated, Except.mapError_eq_ok_iff.mpr hv,
        Except.bind_eq_ok_iff.mpr ⟨selection, hs, rfl⟩⟩
  | raw query =>
    constructor
    · intro h
      obtain ⟨validated, hv, h⟩ := Except.bind_eq_ok_iff.mp h
      exact ⟨validated, Except.mapError_eq_ok_iff.mp hv, h⟩
    · rintro ⟨validated, hv, h⟩
      exact Except.bind_eq_ok_iff.mpr ⟨validated, Except.mapError_eq_ok_iff.mpr hv, h⟩

end Sql

end Runbook

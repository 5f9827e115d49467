import Runbook.Proofs.Sql.Filters
import Runbook.Proofs.Template.Resolution
import Runbook.Proofs.Text.Numerals

namespace Runbook

def Table.Has (table : Table) (name : String) : Prop := ∃ column ∈ table.columns, column.name = name

/-- The limit is a number that can be written: not negative, or digits between white space that do
not overflow 64 bits. -/
def Limit.Counts : Limit → Prop
  | .number k => 0 ≤ k.toInt
  | .text s =>
    let digits := Text.trimChars s.toList
    digits ≠ [] ∧ (∀ c ∈ digits, Text.isDigit c = true) ∧ Text.decimalValue digits < 2 ^ 64

def Limit.shown : Limit → String
  | .number k => Text.signedDecimal k.toInt
  | .text s => s

namespace Filter

def absent (values : Values) (filter : Filter) : List String :=
  filter.source?.toList.flatMap fun source => (Template.parse source).absent values

/-- The column of the filter is compared with the value of the text: an item of a list or all of a
value, unless it is a pattern. -/
inductive Compares (values : Values) (filter : Filter) : String → Prop where
  | item {text item : String} {items : List String} (list : filter.operator.isList = true)
      (comes : filter.ComesTo values text) (lists : Text.Lists ',' text items)
      (member : item ∈ items) : Compares values filter item
  | whole {text : String} (single : filter.operator.isList = false)
      (plain : filter.operator.isPattern = false) (comes : filter.ComesTo values text) :
    Compares values filter text

/-- The filter has an item if it is a list, and the texts that its column is compared with are of
the column's kind. -/
structure Typed (table : Table) (values : Values) (filter : Filter) : Prop where
  items : filter.operator.isList = true →
    ∀ text, filter.ComesTo values text → ¬Text.Lists ',' text []
  kinds : ∀ raw, filter.Compares values raw → ∀ column, table.column? filter.column = some column →
    ∃ value, column.kind.coerce raw = .ok value

/-- The filters differ at most in what stands in a test for NULL. -/
inductive SameButTest (filter : Filter) : Filter → Prop where
  | same : SameButTest filter filter
  | test (test : filter.operator.takesValue = false) (value : Option String) :
    SameButTest filter { filter with value }

end Filter

namespace GuiQuery

def columnNames (query : GuiQuery) : List String :=
  query.columns ++ query.filters.map Filter.column ++ query.orderBy.map Order.column

def About (query : GuiQuery) (schema : Option Schema) (table : Table) : Prop :=
  ∃ snapshot name, schema = some snapshot ∧ query.table = some name ∧
    Text.isBlank name = false ∧ snapshot.table? name = some table

/-- The query names what there is, has a value where one is needed, and a limit that counts. -/
structure Fits (query : GuiQuery) (schema : Option Schema) (table : Table) : Prop where
  about : query.About schema table
  columns : ∀ name ∈ query.columnNames, table.Has name
  values : ∀ filter ∈ query.filters, filter.operator.takesValue = true →
    filter.value.isSome = true
  limit : ∀ limit, query.limit = some limit → limit.Counts

def Filled (query : GuiQuery) (values : Values) : Prop :=
  ∀ filter ∈ query.filters, ∀ source, filter.source? = some source →
    ∀ name ∈ (Template.parse source).placeholders, ∃ value, values[name]? = some value

end GuiQuery

namespace Sql

inductive Unfit (query : GuiQuery) (schema : Option Schema) : CompileError → Prop where
  | schemaUnavailable (unknown : schema = none) : Unfit query schema .schemaUnavailable
  | missingTable (blank : ∀ name, query.table = some name → Text.isBlank name = true) :
    Unfit query schema .missingTable
  | unknownTable {snapshot : Schema} {name : String} (given : schema = some snapshot)
      (named : query.table = some name) (unknown : snapshot.table? name = none) :
    Unfit query schema (.unknownTable name)
  | unknownColumn {table : Table} {name : String} (about : query.About schema table)
      (named : name ∈ query.columnNames) (unknown : ¬table.Has name) :
    Unfit query schema (.unknownColumn table.qualifiedName name)
  | missingFilterValue {filter : Filter} (member : filter ∈ query.filters)
      (takes : filter.operator.takesValue = true) (valueless : filter.value = none) :
    Unfit query schema (.missingFilterValue filter.column)
  | invalidLimit {limit : Limit} (given : query.limit = some limit) (invalid : ¬limit.Counts) :
    Unfit query schema (.invalidLimit limit.shown)

inductive Untyped (table : Table) (values : Values) (filter : Filter) : CompileError → Prop where
  | emptyList {text : String} (list : filter.operator.isList = true)
      (comes : filter.ComesTo values text) (empty : Text.Lists ',' text []) :
    Untyped table values filter (.emptyList filter.column)
  | invalidParameter {raw complaint : String} {column : Column}
      (compares : filter.Compares values raw) (column? : table.column? filter.column = some column)
      (other : column.kind.coerce raw = .error complaint) :
    Untyped table values filter (.invalidParameter filter.column complaint)

/-- The error tells what is wrong with the query, and nothing that is told before it is. -/
inductive Refusal (query : GuiQuery) (schema : Option Schema) (values : Values) :
    CompileError → Prop where
  | unfit {e : CompileError} (misfit : ∀ table, ¬query.Fits schema table)
      (reason : Unfit query schema e) : Refusal query schema values e
  | unresolved {table : Table} {e : Unresolved} (fits : query.Fits schema table)
      (unfilled : ¬query.Filled values)
      (names : FirstAppearances (query.filters.flatMap (Filter.absent values)) e.names) :
    Refusal query schema values (.unresolved e)
  | untyped {table : Table} {filter : Filter} {e : CompileError} (fits : query.Fits schema table)
      (filled : query.Filled values) (member : filter ∈ query.filters)
      (reason : Untyped table values filter e) : Refusal query schema values e

theorem exists_columnOf_iff {table : Table} {name : String} :
    (∃ column, columnOf table name = .ok column) ↔ table.Has name := by
  simp only [columnOf_eq_ok_iff, ← Option.isSome_iff_exists, Table.column?, List.find?_isSome,
    beq_iff_eq]
  exact Iff.rfl

theorem columnOf_eq_error {table : Table} {name : String} {e : CompileError}
    (h : columnOf table name = .error e) :
    e = .unknownColumn table.qualifiedName name ∧ ¬table.Has name := by
  constructor
  · unfold columnOf at h
    split at h
    next => cases h
    next => exact (Except.error.inj h).symm
  · intro known
    obtain ⟨column, hc⟩ := exists_columnOf_iff.mpr known
    rw [hc] at h
    cases h

theorem tableOf_eq_error {schema : Option Schema} {query : GuiQuery} {e : CompileError}
    (h : tableOf schema query.table = .error e) : Unfit query schema e := by
  cases given : schema with
  | none =>
    rw [given] at h
    cases h
    exact .schemaUnavailable rfl
  | some snapshot =>
    cases named : query.table with
    | none =>
      rw [given, named] at h
      cases h
      exact .missingTable (by simp [named])
    | some name =>
      rw [given, named] at h
      cases blank : Text.isBlank name with
      | true =>
        have failed : CompileError.missingTable = e := by
          simpa [tableOf, blank, throw, throwThe, MonadExceptOf.throw, bind, Except.bind] using h
        rw [← failed]
        exact .missingTable (by simp [named, blank])
      | false =>
        cases found : snapshot.table? name with
        | some table =>
          have ok := tableOf_eq_ok_iff.mpr ⟨snapshot, name, rfl, rfl, blank, found⟩
          rw [ok] at h
          cases h
        | none =>
          have failed : CompileError.unknownTable name = e := by
            simpa [tableOf, blank, found, throw, throwThe, MonadExceptOf.throw, bind, Except.bind,
              pure, Except.pure] using h
          rw [← failed]
          exact .unknownTable rfl named found

theorem exists_limitOf_iff {limit : Limit} : (∃ n, limitOf limit = .ok n) ↔ limit.Counts := by
  cases limit with
  | number k =>
    have low : (0 : Int64) ≤ k ↔ (0 : Int) ≤ k.toInt := Int64.le_iff_toInt_le
    by_cases h : (0 : Int64) ≤ k
    · simp [limitOf, Limit.Counts, h, low.mp h]
    · simp [limitOf, Limit.Counts, h, mt low.mpr h]
  | text s =>
    constructor
    · rintro ⟨n, h⟩
      unfold limitOf at h
      dsimp only at h
      split at h
      next m read =>
        obtain ⟨nonempty, ascii, rfl⟩ := Text.natural?_eq_decimalValue.mp read
        split at h
        next low => exact ⟨nonempty, ascii, low⟩
        next => cases h
      next => cases h
    · rintro ⟨nonempty, ascii, low⟩
      have read := Text.natural?_eq_decimalValue.mpr ⟨nonempty, ascii, rfl⟩
      exact ⟨_, by simp only [limitOf, read]; exact if_pos low⟩

theorem limitOf_eq_error {limit : Limit} {e : CompileError} (h : limitOf limit = .error e) :
    e = .invalidLimit limit.shown ∧ ¬limit.Counts := by
  constructor
  · cases limit with
    | number k =>
      unfold limitOf at h
      dsimp only at h
      split at h
      next => cases h
      next => exact (Except.error.inj h).symm
    | text s =>
      unfold limitOf at h
      dsimp only at h
      split at h
      next =>
        split at h
        next => cases h
        next => exact (Except.error.inj h).symm
      next => exact (Except.error.inj h).symm
  · intro counts
    obtain ⟨n, hn⟩ := exists_limitOf_iff.mpr counts
    rw [hn] at h
    cases h

theorem exists_columnName_iff {table : Table} {name : String} :
    (∃ shown, (columnOf table name).map Column.name = .ok shown) ↔ table.Has name := by
  rw [← exists_columnOf_iff]
  constructor
  · rintro ⟨shown, h⟩
    obtain ⟨column, hc, -⟩ := Except.map_eq_ok_iff.mp h
    exact ⟨column, hc⟩
  · rintro ⟨column, hc⟩
    exact ⟨column.name, Except.map_eq_ok_iff.mpr ⟨column, hc, rfl⟩⟩

theorem exists_checkOrder_iff {table : Table} {order : Order} :
    (∃ checked, checkOrder table order = .ok checked) ↔ table.Has order.column := by
  rw [← exists_columnOf_iff]
  constructor
  · rintro ⟨checked, h⟩
    obtain ⟨column, hc, -⟩ := Except.bind_eq_ok_iff.mp h
    exact ⟨column, hc⟩
  · rintro ⟨column, hc⟩
    exact ⟨_, Except.bind_eq_ok_iff.mpr ⟨column, hc, rfl⟩⟩

theorem exists_checkFilter_iff {table : Table} {filter : Filter} :
    (∃ checked, checkFilter table filter = .ok checked) ↔
      (filter.operator.takesValue = true → filter.value.isSome = true) ∧
        table.Has filter.column := by
  simp only [checkFilter_eq_ok_iff, ← exists_columnOf_iff, columnOf_eq_ok_iff]
  constructor
  · rintro ⟨checked, takes, column, hc, -⟩
    exact ⟨takes, column, hc⟩
  · rintro ⟨takes, column, hc⟩
    exact ⟨_, takes, column, hc, rfl⟩

theorem checkFilter_eq_error {table : Table} {filter : Filter} {e : CompileError}
    (h : checkFilter table filter = .error e) :
    (e = .missingFilterValue filter.column ∧ filter.operator.takesValue = true ∧
      filter.value = none) ∨ columnOf table filter.column = .error e := by
  have finish {template : Option String}
      (h : (columnOf table filter.column).bind
        (fun column => pure (⟨column, filter.operator, template⟩ : CheckedFilter)) = .error e) :
      columnOf table filter.column = .error e := by
    rcases Except.bind_eq_error_iff.mp h with failed | ⟨column, -, h⟩
    · exact failed
    · cases h
  unfold checkFilter at h
  cases takes : filter.operator.takesValue with
  | false =>
    rw [takes] at h
    exact .inr (finish h)
  | true =>
    cases value : filter.value with
    | none =>
      rw [takes, value] at h
      exact .inl ⟨(Except.error.inj h).symm, rfl, rfl⟩
    | some template =>
      rw [takes, value] at h
      exact .inr (finish h)

theorem exists_limits_iff {limit : Option Limit} :
    (∃ n, limit.mapM limitOf = .ok n) ↔ ∀ l, limit = some l → l.Counts := by
  cases limit with
  | none =>
    constructor
    · rintro - l ⟨⟩
    · exact fun _ => ⟨none, rfl⟩
  | some l =>
    simp only [Option.some.injEq, forall_eq', ← exists_limitOf_iff]
    constructor
    · rintro ⟨_, h⟩
      obtain ⟨n, hn, -⟩ := Except.map_eq_ok_iff.mp h
      exact ⟨n, hn⟩
    · rintro ⟨n, hn⟩
      exact ⟨some n, Except.map_eq_ok_iff.mpr ⟨n, hn, rfl⟩⟩

theorem forall_columnNames_iff {query : GuiQuery} {p : String → Prop} :
    (∀ name ∈ query.columnNames, p name) ↔ (∀ name ∈ query.columns, p name) ∧
      (∀ filter ∈ query.filters, p filter.column) ∧ ∀ order ∈ query.orderBy, p order.column := by
  simp only [GuiQuery.columnNames, List.append_assoc, List.forall_mem_append, List.forall_mem_map]

theorem exists_checkQuery_iff {schema : Option Schema} {query : GuiQuery} {table : Table} :
    (∃ checked, checkQuery schema query = .ok checked ∧ checked.table = table) ↔
      query.Fits schema table := by
  constructor
  · rintro ⟨checked, h, rfl⟩
    obtain ⟨table, ht, h⟩ := Except.bind_eq_ok_iff.mp h
    obtain ⟨columns, hc, h⟩ := Except.bind_eq_ok_iff.mp h
    obtain ⟨filters, hf, h⟩ := Except.bind_eq_ok_iff.mp h
    obtain ⟨orderBy, ho, h⟩ := Except.bind_eq_ok_iff.mp h
    obtain ⟨limit, hl, h⟩ := Except.bind_eq_ok_iff.mp h
    cases h
    have filtered := exists_mapM_eq_ok_iff.mp ⟨filters, hf⟩
    simp only [exists_checkFilter_iff] at filtered
    refine ⟨tableOf_eq_ok_iff.mp ht, forall_columnNames_iff.mpr ⟨?_, ?_, ?_⟩,
      fun filter member => (filtered filter member).1, exists_limits_iff.mp ⟨limit, hl⟩⟩
    · simpa only [exists_columnName_iff] using exists_mapM_eq_ok_iff.mp ⟨columns, hc⟩
    · exact fun filter member => (filtered filter member).2
    · simpa only [exists_checkOrder_iff] using exists_mapM_eq_ok_iff.mp ⟨orderBy, ho⟩
  · intro fits
    obtain ⟨named, filtered, ordered⟩ := forall_columnNames_iff.mp fits.columns
    have ht := tableOf_eq_ok_iff.mpr fits.about
    obtain ⟨columns, hc⟩ := exists_mapM_eq_ok_iff.mpr fun name member =>
      exists_columnName_iff.mpr (named name member)
    obtain ⟨filters, hf⟩ := exists_mapM_eq_ok_iff.mpr fun filter member =>
      exists_checkFilter_iff.mpr ⟨fits.values filter member, filtered filter member⟩
    obtain ⟨orderBy, ho⟩ := exists_mapM_eq_ok_iff.mpr fun order member =>
      exists_checkOrder_iff.mpr (ordered order member)
    obtain ⟨limit, hl⟩ := exists_limits_iff.mpr fits.limit
    refine ⟨⟨table, columns, filters, orderBy, limit⟩, ?_, rfl⟩
    simp only [checkQuery, ht, hc, hf, ho, hl, bind, Except.bind, pure, Except.pure]

theorem unfit_of_columnOf {schema : Option Schema} {query : GuiQuery} {table : Table}
    {name : String} {e : CompileError} (about : query.About schema table)
    (named : name ∈ query.columnNames) (h : columnOf table name = .error e) :
    Unfit query schema e := by
  obtain ⟨rfl, unknown⟩ := columnOf_eq_error h
  exact .unknownColumn about named unknown

theorem unfit_of_checkQuery {schema : Option Schema} {query : GuiQuery} {e : CompileError}
    (h : checkQuery schema query = .error e) : Unfit query schema e := by
  rcases Except.bind_eq_error_iff.mp h with failed | ⟨table, ht, h⟩
  · exact tableOf_eq_error failed
  have about : query.About schema table := tableOf_eq_ok_iff.mp ht
  have named : ∀ name ∈ query.columnNames, name ∈ query.columnNames := fun _ member => member
  obtain ⟨columns, filters, orders⟩ := forall_columnNames_iff.mp named
  rcases Except.bind_eq_error_iff.mp h with failed | ⟨_, -, h⟩
  · obtain ⟨name, member, failed⟩ := exists_of_mapM_eq_error failed
    exact unfit_of_columnOf about (columns name member) (Except.map_eq_error_iff.mp failed)
  rcases Except.bind_eq_error_iff.mp h with failed | ⟨_, -, h⟩
  · obtain ⟨filter, member, failed⟩ := exists_of_mapM_eq_error failed
    rcases checkFilter_eq_error failed with ⟨rfl, takes, valueless⟩ | failed
    · exact .missingFilterValue member takes valueless
    · exact unfit_of_columnOf about (filters filter member) failed
  rcases Except.bind_eq_error_iff.mp h with failed | ⟨_, -, h⟩
  · obtain ⟨order, member, failed⟩ := exists_of_mapM_eq_error failed
    rcases Except.bind_eq_error_iff.mp failed with failed | ⟨column, -, h⟩
    · exact unfit_of_columnOf about (orders order member) failed
    · cases h
  rcases Except.bind_eq_error_iff.mp h with failed | ⟨_, -, h⟩
  · cases given : query.limit with
    | none => rw [given] at failed; cases failed
    | some limit =>
      rw [given] at failed
      obtain ⟨rfl, invalid⟩ := limitOf_eq_error (Except.map_eq_error_iff.mp failed)
      exact .invalidLimit given invalid
  · cases h

def CheckedFilter.absent (values : Values) (filter : CheckedFilter) : List String :=
  filter.template.toList.flatMap fun source => (Template.parse source).absent values

theorem map_template {table : Table} {filters : List Filter} {checked : List CheckedFilter}
    (h : List.Forall₂ (fun filter c => checkFilter table filter = .ok c) filters checked) :
    checked.map CheckedFilter.template = filters.map Filter.source? := by
  have pointwise : List.Forall₂ Eq (checked.map CheckedFilter.template)
      (filters.map Filter.source?) := by
    rw [List.forall₂_map_left_iff, List.forall₂_map_right_iff]
    refine (h.imp fun filter c hc => ?_).flip
    obtain ⟨-, column, -, rfl⟩ := checkFilter_eq_ok_iff_source?.mp hc
    rfl
  rwa [List.forall₂_eq_eq_eq] at pointwise

theorem flatMap_absent {values : Values} {filters : List Filter} {checked : List CheckedFilter}
    (same : checked.map CheckedFilter.template = filters.map Filter.source?) :
    checked.flatMap (CheckedFilter.absent values) = filters.flatMap (Filter.absent values) := by
  have absent := congrArg (List.flatMap fun source : Option String =>
    source.toList.flatMap fun source => (Template.parse source).absent values) same
  rw [List.flatMap_map, List.flatMap_map] at absent
  exact absent

theorem filled_iff {query : GuiQuery} {values : Values} {checked : List CheckedFilter}
    (same : checked.map CheckedFilter.template = query.filters.map Filter.source?) :
    query.Filled values ↔ ∀ c ∈ checked, c.missing values = [] := by
  have filters : query.Filled values ↔ ∀ source? ∈ query.filters.map Filter.source?,
      ∀ source, source? = some source → (Template.parse source).missing values = [] := by
    simp only [GuiQuery.Filled, List.forall_mem_map, Template.missing_eq_nil_iff]
  rw [filters, ← same, List.forall_mem_map]
  refine forall₂_congr fun c _ => ?_
  cases given : c.template with
  | none => simp [CheckedFilter.missing, given]
  | some source => simp [CheckedFilter.missing, given]

theorem resolveFilters_eq_error {values : Values} {filters : List CheckedFilter}
    {e : CompileError} (h : resolveFilters values filters = .error e) :
    ∃ names, e = .unresolved names ∧
      FirstAppearances (filters.flatMap (CheckedFilter.absent values)) names.names := by
  have whole := yields_filters values filters
  have templates : filters.flatMap (CheckedFilter.missing values) =
      (filters.flatMap fun filter => filter.template.toList.map Template.parse).flatMap
        fun t => t.missing values := by
    simp only [List.flatMap_assoc, List.flatMap_map]
    rfl
  rw [templates] at whole
  have run := Batch.run_start whole
  simp only [List.flatMap_assoc, List.flatMap_map] at run
  unfold resolveFilters at h
  dsimp only at h
  rw [run] at h
  split at h
  next => cases h
  next names failed =>
    cases h
    exact ⟨names, rfl, firstAppearances_iff.mpr (Batch.finish_eq_error_iff.mp failed).2⟩

theorem not_comesTo_of_test {values : Values} {filter : Filter} {text : String}
    (test : filter.operator.takesValue = false) : ¬filter.ComesTo values text := by
  rintro ⟨source, given, -⟩
  simp [Filter.source?, test] at given

theorem exists_comesTo_of_compares {values : Values} {filter : Filter} {raw : String}
    (h : filter.Compares values raw) : ∃ text, filter.ComesTo values text := by
  cases h with
  | item _ comes => exact ⟨_, comes⟩
  | whole _ _ comes => exact ⟨_, comes⟩

theorem typed_of_binds {table : Table} {values : Values} {filter : Filter}
    {parameters : List Parameter} (h : Binds table values filter parameters) :
    filter.Typed table values := by
  cases h with
  | test test =>
    constructor
    · exact fun _ text comes => absurd comes (not_comesTo_of_test test)
    · intro raw compares
      obtain ⟨text, comes⟩ := exists_comesTo_of_compares compares
      exact absurd comes (not_comesTo_of_test test)
  | @compared column text found _ comes column? compared =>
    constructor
    · intro list other comes' nothing
      cases comes.unique comes'
      cases compared with
      | list _ lists nonempty =>
        exact nonempty ((listItems_eq_iff.mpr lists).symm.trans (listItems_eq_iff.mpr nothing))
      | pattern pattern => simp [Operator.not_isList_of_isPattern pattern] at list
      | single single => simp [single] at list
    · intro raw compares other column?'
      cases Option.some.inj (column?.symm.trans column?')
      cases compares with
      | @item text' _ items list comes' lists' member =>
        cases comes.unique comes'
        cases compared with
        | list _ lists _ each =>
          have same := (listItems_eq_iff.mpr lists').symm.trans (listItems_eq_iff.mpr lists)
          obtain ⟨value, -, coerced⟩ := exists_of_forall₂_left each (same ▸ member)
          exact ⟨value, coerced⟩
        | pattern pattern => simp [Operator.not_isList_of_isPattern pattern] at list
        | single single => simp [single] at list
      | whole single plain comes' =>
        cases comes.unique comes'
        cases compared with
        | list list => simp [single] at list
        | pattern pattern => simp [plain] at pattern
        | single _ _ coerced => exact ⟨_, coerced⟩

theorem filterValue_eq_error {filter : CheckedFilter} {text : String} {e : CompileError}
    (h : filterValue filter text = .error e) : filter.operator.isPattern = false ∧
      ∃ complaint, filter.column.kind.coerce text = .error complaint ∧
        e = .invalidParameter filter.column.name complaint := by
  unfold filterValue at h
  split at h
  next => cases h
  next plain =>
    split at h
    next => cases h
    next complaint failed =>
      exact ⟨by simpa using plain, complaint, failed, (Except.error.inj h).symm⟩

theorem untyped_of_predicateOf {table : Table} {values : Values} {filter : Filter}
    {checked : CheckedFilter} {e : CompileError} (hf : checkFilter table filter = .ok checked)
    (whole : checked.missing values = [])
    (h : predicateOf checked (checked.text values) = .error e) :
    Untyped table values filter e := by
  obtain ⟨-, column, column?, rfl⟩ := checkFilter_eq_ok_iff_source?.mp hf
  have named := Table.column?_name column?
  have failed := Except.map_eq_error_iff.mp h
  cases ht : CheckedFilter.text values ⟨column, filter.operator, filter.source?⟩ with
  | none =>
    rw [ht] at failed
    cases failed
  | some text =>
    have comes := (CheckedFilter.text_eq_some_iff whole).mp ht
    rw [ht, filterValues] at failed
    dsimp only at failed
    split at failed
    next list =>
      split at failed
      next nothing =>
        cases failed
        rw [named]
        exact .emptyList list comes (listItems_eq_iff.mp nothing)
      next =>
        obtain ⟨item, member, failed⟩ := exists_of_mapM_eq_error failed
        obtain ⟨-, complaint, other, rfl⟩ := filterValue_eq_error failed
        rw [named]
        exact .invalidParameter (.item list comes (listItems_eq_iff.mp rfl) member) column? other
    next single =>
      have single : filter.operator.isList = false := by simpa using single
      obtain ⟨plain, complaint, other, rfl⟩ :=
        filterValue_eq_error (Except.map_eq_error_iff.mp failed)
      rw [named]
      exact .invalidParameter (.whole single plain comes) column? other

theorem not_typed_of_untyped {table : Table} {values : Values} {filter : Filter} {e : CompileError}
    (h : Untyped table values filter e) : ¬filter.Typed table values := by
  intro typed
  cases h with
  | emptyList list comes empty => exact typed.items list _ comes empty
  | invalidParameter compares column? other =>
    obtain ⟨value, coerced⟩ := typed.kinds _ compares _ column?
    rw [coerced] at other
    cases other

theorem exists_predicateOf_iff {table : Table} {values : Values} {filter : Filter}
    {checked : CheckedFilter} (hf : checkFilter table filter = .ok checked)
    (whole : checked.missing values = []) :
    (∃ p, predicateOf checked (checked.text values) = .ok p) ↔ filter.Typed table values := by
  constructor
  · rintro ⟨p, hp⟩
    exact typed_of_binds ((predicateOf_iff_binds hf whole).mp ⟨p, hp, rfl⟩)
  · intro typed
    cases hp : predicateOf checked (checked.text values) with
    | ok p => exact ⟨p, rfl⟩
    | error e => exact absurd typed (not_typed_of_untyped (untyped_of_predicateOf hf whole hp))

theorem selectionOf_eq_error {values : Values} {schema : Option Schema} {query : GuiQuery}
    {e : CompileError} (h : selectionOf values schema query = .error e) :
    checkQuery schema query = .error e ∨ ∃ checked, checkQuery schema query = .ok checked ∧
      (resolveFilters values checked.filters = .error e ∨
        (∀ c ∈ checked.filters, c.missing values = []) ∧
          ∃ c ∈ checked.filters, predicateOf c (c.text values) = .error e) := by
  rcases Except.bind_eq_error_iff.mp h with failed | ⟨checked, hc, h⟩
  · exact .inl failed
  refine .inr ⟨checked, hc, ?_⟩
  rcases Except.bind_eq_error_iff.mp h with failed | ⟨texts, ht, h⟩
  · exact .inl failed
  obtain ⟨whole, rfl⟩ := resolveFilters_eq_ok_iff.mp ht
  refine .inr ⟨whole, ?_⟩
  rcases Except.bind_eq_error_iff.mp h with failed | ⟨_, -, h⟩
  · obtain ⟨⟨c, text⟩, member, failed⟩ := exists_of_mapM_eq_error failed
    rw [zip_texts] at member
    obtain ⟨_, hc, same⟩ := List.mem_map.mp member
    cases same
    exact ⟨c, hc, failed⟩
  · cases h

theorem refusal_of_selectionOf {values : Values} {schema : Option Schema} {query : GuiQuery}
    {e : CompileError} (h : selectionOf values schema query = .error e) :
    Refusal query schema values e := by
  rcases selectionOf_eq_error h with failed | ⟨checked, hc, h⟩
  · refine .unfit (fun table fits => ?_) (unfit_of_checkQuery failed)
    obtain ⟨checked, hc, -⟩ := exists_checkQuery_iff.mpr fits
    rw [hc] at failed
    cases failed
  have fits := exists_checkQuery_iff.mp ⟨checked, hc, rfl⟩
  obtain ⟨-, -, hf, -, -⟩ := checkQuery_eq_ok hc
  have same := map_template hf
  rcases h with failed | ⟨whole, c, member, failed⟩
  · obtain ⟨names, rfl, first⟩ := resolveFilters_eq_error failed
    rw [flatMap_absent same] at first
    refine .unresolved fits (fun filled => ?_) first
    have ok := resolveFilters_eq_ok_iff.mpr ⟨(filled_iff same).mp filled, rfl⟩
    rw [ok] at failed
    cases failed
  · obtain ⟨filter, member', hfc⟩ := exists_of_forall₂_left hf.flip member
    exact .untyped fits ((filled_iff same).mpr whole) member'
      (untyped_of_predicateOf hfc (whole c member) failed)

theorem About.unique {query : GuiQuery} {schema : Option Schema} {table other : Table}
    (h : query.About schema table) (h' : query.About schema other) : table = other :=
  Except.ok.inj ((tableOf_eq_ok_iff.mpr h).symm.trans (tableOf_eq_ok_iff.mpr h'))

theorem exists_selectionOf_iff {values : Values} {schema : Option Schema} {query : GuiQuery} :
    (∃ selection, selectionOf values schema query = .ok selection) ↔
      ∃ table, query.Fits schema table ∧ query.Filled values ∧
        ∀ filter ∈ query.filters, filter.Typed table values := by
  constructor
  · rintro ⟨selection, h⟩
    obtain ⟨checked, hc, whole, hp, -⟩ := selectionOf_eq_ok_iff.mp h
    obtain ⟨-, -, hf, -, -⟩ := checkQuery_eq_ok hc
    refine ⟨checked.table, exists_checkQuery_iff.mp ⟨checked, hc, rfl⟩,
      (filled_iff (map_template hf)).mpr whole, fun filter member => ?_⟩
    obtain ⟨c, hcm, hfc⟩ := exists_of_forall₂_left hf member
    obtain ⟨p, -, hcp⟩ := exists_of_forall₂_left hp hcm
    exact (exists_predicateOf_iff hfc (whole c hcm)).mp ⟨p, hcp⟩
  · rintro ⟨table, fits, filled, typed⟩
    cases h : selectionOf values schema query with
    | ok selection => exact ⟨selection, rfl⟩
    | error e =>
      cases refusal_of_selectionOf h with
      | unfit nothing => exact absurd fits (nothing table)
      | unresolved _ unfilled => exact absurd filled unfilled
      | untyped fits' _ member reason =>
        cases About.unique fits.about fits'.about
        exact absurd (typed _ member) (not_typed_of_untyped reason)

theorem checkFilter_sameButTest {table : Table} {filter other : Filter}
    (h : filter.SameButTest other) : checkFilter table filter = checkFilter table other := by
  cases h with
  | same => rfl
  | test test value => simp [checkFilter, test]

theorem checkQuery_sameButTest {schema : Option Schema} {query : GuiQuery} {filters : List Filter}
    (h : List.Forall₂ Filter.SameButTest query.filters filters) :
    checkQuery schema { query with filters } = checkQuery schema query := by
  have same (table : Table) :
      filters.mapM (checkFilter table) = query.filters.mapM (checkFilter table) :=
    (mapM_congr_of_forall₂ (h.imp fun _ _ => checkFilter_sameButTest)).symm
  simp only [checkQuery, same]

theorem compile_sameButTest {query : GuiQuery} {inputs : List Field} {supplied : Dict String}
    {user : User} {schema : Option Schema} {filters : List Filter}
    (h : List.Forall₂ Filter.SameButTest query.filters filters) :
    compile (.gui { query with filters }) inputs supplied user schema =
      compile (.gui query) inputs supplied user schema := by
  simp only [compile, selectionOf, checkQuery_sameButTest h]

/-- A query that is put together from parts compiles exactly when the inputs are valid, it fits a
table, its placeholders have values and these are of the kinds of the columns. Otherwise the first
of these that is not so is told. -/
theorem compile_gui_outcome (query : GuiQuery) (inputs : List Field) (supplied : Dict String)
    (user : User) (schema : Option Schema) :
    ((∃ statement, compile (.gui query) inputs supplied user schema = .ok statement) ↔
      ∃ validated table,
        List.Forall₂ (fun input v => Field.Gives input (input.entered supplied) v)
          inputs validated ∧
        query.Fits schema table ∧ query.Filled (Validated.placeholders user validated) ∧
        ∀ filter ∈ query.filters, filter.Typed table (Validated.placeholders user validated)) ∧
    (∀ e, compile (.gui query) inputs supplied user schema = .error e →
      (∃ errors input, e = .validation errors ∧ input ∈ inputs ∧
        ∃ failure, input.validate (input.entered supplied) = .error failure) ∨
      ∃ validated,
        List.Forall₂ (fun input v => Field.Gives input (input.entered supplied) v)
          inputs validated ∧
        Refusal query schema (Validated.placeholders user validated) e) ∧
    ∀ filters, List.Forall₂ Filter.SameButTest query.filters filters →
      compile (.gui { query with filters }) inputs supplied user schema =
        compile (.gui query) inputs supplied user schema := by
  simp only [← Field.validateByLabel_eq_ok_iff]
  refine ⟨?_, fun e h => ?_, fun filters => compile_sameButTest⟩
  · simp only [compile_eq_ok_iff]
    constructor
    · rintro ⟨statement, validated, hv, selection, hs, -⟩
      obtain ⟨table, compiles⟩ := exists_selectionOf_iff.mp ⟨selection, hs⟩
      exact ⟨validated, table, hv, compiles⟩
    · rintro ⟨validated, table, hv, compiles⟩
      obtain ⟨selection, hs⟩ := exists_selectionOf_iff.mpr ⟨table, compiles⟩
      exact ⟨selection.statement, validated, hv, selection, hs, rfl⟩
  · rcases Except.bind_eq_error_iff.mp h with failed | ⟨validated, hv, h⟩
    · obtain ⟨errors, invalid, rfl⟩ := Except.mapError_eq_error_iff.mp failed
      obtain ⟨⟨input, member, failure, hi⟩, -⟩ := Field.validateByLabel_eq_error_iff.mp invalid
      exact .inl ⟨errors, input, rfl, member, failure, hi⟩
    · refine .inr ⟨validated, Except.mapError_eq_ok_iff.mp hv, ?_⟩
      rcases Except.bind_eq_error_iff.mp h with failed | ⟨_, -, h⟩
      · exact refusal_of_selectionOf failed
      · cases h

/-- A placeholder that nobody knows does no harm in a test for NULL. -/
example : (compile (.gui ⟨some "people", [], [⟨"name", .isNull, some "\x7bnobody\x7d"⟩], none, []⟩)
    [] ∅ .anonymous (some (Schema.empty.add people))).map Statement.text =
      .ok "SELECT * FROM \"people\" WHERE \"name\" IS NULL" := by
  rfl

end Sql

end Runbook

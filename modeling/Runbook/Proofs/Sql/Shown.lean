import Runbook.Proofs.Sql.Outline
import Runbook.Proofs.Sql.Selecting

namespace Runbook.Sql

namespace Predicate

theorem conditions_columns (first : Nat) (ps : List Predicate) :
    (conditions first ps).map (fun c => (c.column, c.operator)) =
      ps.map fun p => (p.column, p.operator) := by
  induction ps generalizing first with
  | nil => rfl
  | cons p ps ih =>
    rw [conditions, List.map_cons, List.map_cons, ih]
    rfl

theorem conditions_slots (first : Nat) (ps : List Predicate) :
    (conditions first ps).flatMap Condition.slots =
      List.range' first (ps.flatMap parameters).length := by
  induction ps generalizing first with
  | nil => rfl
  | cons p ps ih =>
    rw [conditions, List.flatMap_cons, List.flatMap_cons, ih, List.length_append, parameters,
      List.length_map]
    exact List.range'_append_1

theorem parameters_of_slot {first i : Nat} {ps : List Predicate} {c : Condition}
    (hc : c ∈ conditions first ps) (slot : first + i ∈ c.slots) :
    ((ps.flatMap parameters)[i]?).map Parameter.name = some c.column := by
  induction ps generalizing first i with
  | nil => cases hc
  | cons p ps ih =>
    have length : p.parameters.length = p.values.length := by simp [parameters]
    rw [List.flatMap_cons]
    rcases List.mem_cons.mp hc with rfl | hc
    · have bounds := List.mem_range'_1.mp slot
      have hi : i < p.values.length := by omega
      rw [List.getElem?_append_left (by omega)]
      simp [parameters, condition, hi]
    · have hs : first + i ∈ (conditions (first + p.values.length) ps).flatMap Condition.slots :=
        List.mem_flatMap.mpr ⟨c, hc, slot⟩
      rw [conditions_slots] at hs
      have low := (List.mem_range'_1.mp hs).1
      rw [List.getElem?_append_right (by omega), length]
      have shift : first + p.values.length + (i - p.values.length) = first + i := by omega
      exact ih hc (shift ▸ slot)

end Predicate

def Denotes : Limit → Nat → Prop
  | .number k, n => k.toInt = n
  | .text s, n => Text.natural? (Text.trimChars s.toList) = some n

theorem denotes_of_limitOf {limit : Limit} {n : Nat} (h : limitOf limit = .ok n) :
    Denotes limit n := by
  cases limit with
  | number k =>
    unfold limitOf at h
    dsimp only at h
    split at h
    next low =>
      cases h
      exact (Int.toNat_of_nonneg (Int64.le_iff_toInt_le.mp low)).symm
    next => cases h
  | text s =>
    unfold limitOf at h
    dsimp only at h
    split at h
    next m read =>
      split at h
      next => cases h; exact read
      next => cases h
    next => cases h

namespace Outline

/-- The outline has all that the query asks for, of the table found for it. -/
structure Shows (outline : Outline) (query : GuiQuery) (table : Table) : Prop where
  columns : outline.columns = query.columns
  schema : outline.schema = table.schema
  table : outline.table = table.name
  conditions : outline.conditions.map (fun c => (c.column, c.operator)) =
    query.filters.map fun f => (f.column, f.operator)
  orderBy : outline.orderBy = query.orderBy
  limit : Option.Rel Denotes query.limit outline.limit

/-- The slots are the numbers of the parameters, which are for the columns of the conditions. -/
structure Numbers (outline : Outline) (parameters : List Parameter) : Prop where
  slots : outline.conditions.flatMap Condition.slots = List.range' 1 parameters.length
  names : ∀ condition ∈ outline.conditions, ∀ i, i + 1 ∈ condition.slots →
    (parameters[i]?).map Parameter.name = some condition.column

end Outline

theorem predicateOf_filter {values : Values} {table : Table} {filter : Filter} {c : CheckedFilter}
    {p : Predicate} (hf : checkFilter table filter = .ok c)
    (hp : predicateOf c (c.text values) = .ok p) :
    p.column = filter.column ∧ p.operator = filter.operator ∧ p.Slotted := by
  obtain ⟨takes, column, found, rfl⟩ := checkFilter_eq_ok_iff.mp hf
  obtain ⟨pc, po, pv⟩ := predicateOf_eq_ok hp
  refine ⟨pc.trans (Table.column?_name found), po, ?_⟩
  rw [Predicate.Slotted, po]
  dsimp only [CheckedFilter.text] at pv ⊢
  cases ht : filter.operator.takesValue with
  | false =>
    rw [ht] at pv
    have nothing : [] = p.values := Except.ok.inj pv
    simp [← nothing]
  | true =>
    obtain ⟨template, hv⟩ := Option.isSome_iff_exists.mp (takes ht)
    rw [ht, hv] at pv
    simpa using filterValues_ne_nil pv

theorem conditions_of_filters {values : Values} {table : Table} {filters : List Filter}
    {checked : List CheckedFilter} {ps : List Predicate}
    (hf : List.Forall₂ (fun filter c => checkFilter table filter = .ok c) filters checked)
    (hp : List.Forall₂ (fun c p => predicateOf c (c.text values) = .ok p) checked ps) :
    ps.map (fun p => (p.column, p.operator)) = filters.map (fun f => (f.column, f.operator)) ∧
      ∀ p ∈ ps, p.Slotted := by
  induction hf generalizing ps with
  | nil =>
    cases hp
    exact ⟨rfl, by simp⟩
  | @cons filter c filters cs hfc _ ih =>
    obtain ⟨p, ps, hpc, hps, rfl⟩ := List.forall₂_cons_left_iff.mp hp
    obtain ⟨eq, slotted⟩ := ih hps
    obtain ⟨column, operator, first⟩ := predicateOf_filter hfc hpc
    refine ⟨by rw [List.map_cons, List.map_cons, eq, column, operator], fun q hq => ?_⟩
    rcases List.mem_cons.mp hq with rfl | hq
    · exact first
    · exact slotted q hq

theorem limit_of_mapM {limit : Option Limit} {n : Option Nat}
    (h : limit.mapM limitOf = .ok n) : Option.Rel Denotes limit n := by
  cases limit with
  | none => cases h; exact .none
  | some limit =>
    obtain ⟨m, hm, rfl⟩ := Except.map_eq_ok_iff.mp h
    exact .some (denotes_of_limitOf hm)

/-- Whatever the names, a statement put together from parts shows what it was put together from. -/
theorem read?_of_compile {query : GuiQuery} {inputs : List Field} {supplied : Dict String}
    {user : User} {schema : Option Schema} {statement : Statement}
    (h : compile (.gui query) inputs supplied user schema = .ok statement) :
    ∃ outline snapshot name table, Outline.read? statement.text = some outline ∧
      schema = some snapshot ∧ query.table = some name ∧ snapshot.table? name = some table ∧
      outline.Shows query table ∧ outline.Numbers statement.parameters := by
  obtain ⟨validated, _, selection, hs, rfl⟩ := compile_eq_ok_iff.mp h
  obtain ⟨checked, hc, _, hp, eq⟩ := selectionOf_eq_ok_iff.mp hs
  obtain ⟨ht, columns, filters, orderBy, limit⟩ := checkQuery_eq_ok hc
  obtain ⟨snapshot, name, hsnapshot, hname, _, found⟩ := tableOf_eq_ok_iff.mp ht
  obtain ⟨conditions, slotted⟩ := conditions_of_filters filters hp
  refine ⟨selection.outline, snapshot, name, checked.table, Outline.read?_text slotted, hsnapshot,
    hname, found, ?_, ?_⟩
  · rw [eq]
    exact ⟨columns, rfl, rfl, (Predicate.conditions_columns 1 _).trans conditions, orderBy,
      limit_of_mapM limit⟩
  · refine ⟨Predicate.conditions_slots 1 _, fun c hc i slot => ?_⟩
    exact Predicate.parameters_of_slot hc (Nat.add_comm i 1 ▸ slot)

def hostile : Table :=
  ⟨"t\" WHERE", some "s.\"", [⟨"", "text", true, false⟩, ⟨"$1, \"", "int8[]", true, false⟩], []⟩

def hostileQuery : GuiQuery :=
  ⟨some "s.\".t\" WHERE", ["$1, \"", ""], [⟨"$1, \"", .oneOf, some "a, b"⟩, ⟨"", .isNull, none⟩],
    some (.text " 20 "), [⟨"", .descending⟩]⟩

theorem selectionOf_hostileQuery (values : Values) :
    selectionOf values (some (Schema.empty.add hostile)) hostileQuery = .ok
      ⟨["$1, \"", ""], some "s.\"", "t\" WHERE",
        [⟨"$1, \"", .oneOf, [.text "a", .text "b"]⟩, ⟨"", .isNull, []⟩],
        [⟨"", .descending⟩], some 20⟩ := by
  have table : tableOf (some (Schema.empty.add hostile)) hostileQuery.table = .ok hostile :=
    tableOf_eq_ok_iff.mpr ⟨_, _, rfl, rfl, by decide, rfl⟩
  have checked : checkQuery (some (Schema.empty.add hostile)) hostileQuery = .ok ⟨hostile,
      ["$1, \"", ""], [⟨⟨"$1, \"", "int8[]", true, false⟩, .oneOf, some "a, b"⟩,
        ⟨⟨"", "text", true, false⟩, .isNull, none⟩], [⟨"", .descending⟩], some 20⟩ := by
    unfold checkQuery
    rw [table]
    rfl
  have resolved : (Template.parse "a, b").resolve values = .ok "a, b" := by
    have parsed : Template.parse "a, b" = ⟨[.literal "a, b"]⟩ := by cbv
    rw [parsed]
    rfl
  have items : listItems "a, b" = ["a", "b"] := by decide +kernel
  refine selectionOf_eq_ok_iff.mpr ⟨_, checked, ?_, .cons ?_ (.cons rfl .nil), rfl⟩
  · intro filter hf
    rcases List.mem_pair.mp hf with rfl | rfl
    · simp [CheckedFilter.missing, (Template.resolve_eq_ok_iff.mp resolved).1]
    · rfl
  · simp only [CheckedFilter.text, Option.map_some, Template.batchText_of_resolve resolved,
      predicateOf, filterValues, items]
    rfl

theorem compile_hostileQuery :
    compile (.gui hostileQuery) [] ∅ .anonymous (some (Schema.empty.add hostile)) = .ok
      ⟨"SELECT \"$1, \"\"\", \"\" FROM \"s.\"\"\".\"t\"\" WHERE\" WHERE \"$1, \"\"\" IN ($1, $2)" ++
        " AND \"\" IS NULL ORDER BY \"\" DESC LIMIT 20",
        [⟨"$1, \"", .text "a"⟩, ⟨"$1, \"", .text "b"⟩]⟩ :=
  compile_eq_ok_iff.mpr ⟨[], rfl, _, selectionOf_hostileQuery _, rfl⟩

theorem read?_of_compile_hostileQuery :
    ∃ statement outline snapshot name table,
      compile (.gui hostileQuery) [] ∅ .anonymous (some (Schema.empty.add hostile)) =
        .ok statement ∧
      Outline.read? statement.text = some outline ∧
      some (Schema.empty.add hostile) = some snapshot ∧ hostileQuery.table = some name ∧
      snapshot.table? name = some table ∧ outline.Shows hostileQuery table ∧
      outline.Numbers statement.parameters :=
  let ⟨outline, snapshot, name, table, shown⟩ := read?_of_compile compile_hostileQuery
  ⟨_, outline, snapshot, name, table, compile_hostileQuery, shown⟩

end Runbook.Sql

import Mathlib.Data.List.Nodup
import Runbook.Proofs.Dict
import Runbook.Sql.Schema

namespace Runbook

/-- The qualified name of a table: its own, behind that of its schema and a dot if it has one. -/
inductive Table.Called (table : Table) : String → Prop where
  | alone (h : table.schema = none) : Called table table.name
  | within {schema : String} (h : table.schema = some schema) :
    Called table (schema ++ "." ++ table.name)

theorem Table.called_iff {table : Table} {name : String} :
    table.Called name ↔ table.qualifiedName = name := by
  constructor
  · rintro (h | h)
    · simp [qualifiedName, h]
    · simp [qualifiedName, h]
  · rintro rfl
    unfold qualifiedName
    split
    next h => exact .within h
    next h => exact .alone h

instance {table : Table} {name : String} : Decidable (table.Called name) :=
  decidable_of_iff _ Table.called_iff.symm

theorem Table.called_forall_iff {table other : Table} :
    (∀ name, table.Called name → ¬other.Called name) ↔
      other.qualifiedName ≠ table.qualifiedName := by
  simp only [Table.called_iff, forall_eq', ne_eq]

namespace Schema

def ofTables (tables : List Table) : Schema := tables.foldl add empty

/-- The table is added, and after it none of the same qualified name. -/
def Remains (tables : List Table) (table : Table) : Prop :=
  ∃ before after, tables = before ++ table :: after ∧
    ∀ later ∈ after, ∀ name, table.Called name → ¬later.Called name

/-- The table that a name stands for, among those that remain. -/
inductive StandsFor (tables : List Table) (name : String) (table : Table) : Prop where
  | qualified (remains : Remains tables table) (named : table.Called name)
  | bare (remains : Remains tables table) (named : table.name = name)
      (unqualified : ∀ other, Remains tables other → ¬other.Called name)
      (alone : ∀ other, Remains tables other → other.name = name → other = table)

structure LooksUp (tables : List Table) (name : String) : Prop where
  found : ∀ table, (ofTables tables).table? name = some table ↔ StandsFor tables name table
  missing : (ofTables tables).table? name = none ↔
    (∀ table, Remains tables table → ¬table.Called name) ∧
      ((∀ table, Remains tables table → table.name ≠ name) ∨
        ∃ first second, first ≠ second ∧ (Remains tables first ∧ first.name = name) ∧
          (Remains tables second ∧ second.name = name))
  /-- A table that is added under other qualified names leaves the name as it was, or makes it
  stand for nothing. -/
  kept : ∀ table added, (ofTables tables).table? name = some table →
    ¬added.Called name → (∀ qualified, table.Called qualified → ¬added.Called qualified) →
      (ofTables (tables ++ [added])).table? name =
        if table.Called name ∨ added.name ≠ name then some table else none

variable {tables : List Table} {table added : Table} {name : String}

theorem remains_iff : Remains tables table ↔ ∃ before after, tables = before ++ table :: after ∧
    ∀ later ∈ after, later.qualifiedName ≠ table.qualifiedName := by
  simp only [Remains, Table.called_forall_iff]

theorem tables_foldl_add (tables : List Table) (schema : Schema) :
    (tables.foldl add schema).tables =
      (tables.map fun table => (table.qualifiedName, table)).foldl
        (fun map pair => map.insert pair.1 pair.2) schema.tables := by
  induction tables generalizing schema with
  | nil => rfl
  | cons table tables ih => exact ih (schema.add table)

theorem tables_ofTables (tables : List Table) :
    (ofTables tables).tables = .ofPairs (tables.map fun table => (table.qualifiedName, table)) :=
  tables_foldl_add tables empty

theorem getElem?_tables_eq_some_iff :
    (ofTables tables).tables[name]? = some table ↔ Remains tables table ∧ table.Called name := by
  rw [tables_ofTables, Dict.getElem?_ofPairs_eq_some_iff, remains_iff, Table.called_iff]
  constructor
  · rintro ⟨before, after, split, others⟩
    obtain ⟨first, rest, rfl, _, split⟩ := List.map_eq_append_iff.mp split
    obtain ⟨found, last, rfl, same, rfl⟩ := List.map_eq_cons_iff.mp split
    obtain ⟨named, rfl⟩ := Prod.mk.inj same
    refine ⟨⟨first, last, rfl, fun later member => ?_⟩, named⟩
    rw [named]
    exact others _ (List.mem_map_of_mem member)
  · rintro ⟨⟨before, after, rfl, others⟩, rfl⟩
    refine ⟨before.map _, after.map _, by rw [List.map_append, List.map_cons], ?_⟩
    intro pair member
    obtain ⟨later, known, rfl⟩ := List.mem_map.mp member
    exact others later known

theorem getElem?_tables_eq_none_iff : (ofTables tables).tables[name]? = none ↔
    ∀ table, Remains tables table → ¬table.Called name := by
  rw [Option.eq_none_iff_forall_ne_some]
  refine forall_congr' fun table => ?_
  rw [ne_eq, getElem?_tables_eq_some_iff, not_and]

theorem mem_values_iff : table ∈ (ofTables tables).tables.toList.map (·.2) ↔
    Remains tables table := by
  rw [List.mem_map]
  constructor
  · rintro ⟨⟨key, found⟩, member, rfl⟩
    have filed := Std.ExtTreeMap.mem_toList_iff_getElem?_eq_some.mp member
    exact (getElem?_tables_eq_some_iff.mp filed).1
  · intro remains
    have filed := getElem?_tables_eq_some_iff.mpr ⟨remains, Table.called_iff.mpr rfl⟩
    exact ⟨_, Std.ExtTreeMap.mem_toList_iff_getElem?_eq_some.mpr filed, rfl⟩

theorem nodup_values (tables : List Table) :
    ((ofTables tables).tables.toList.map (·.2)).Nodup := by
  have keys : (ofTables tables).tables.toList.map Prod.fst =
      ((ofTables tables).tables.toList.map (·.2)).map Table.qualifiedName := by
    rw [List.map_map]
    refine List.map_congr_left fun pair member => ?_
    have filed := Std.ExtTreeMap.mem_toList_iff_getElem?_eq_some.mp member
    exact (Table.called_iff.mp (getElem?_tables_eq_some_iff.mp filed).2).symm
  have distinct := Dict.nodup_keys (ofTables tables).tables
  rw [keys] at distinct
  exact distinct.of_map _

theorem filter_eq_singleton_iff {α : Type} {xs : List α} {p : α → Bool} {x : α}
    (distinct : xs.Nodup) :
    xs.filter p = [x] ↔ (x ∈ xs ∧ p x = true) ∧ ∀ y ∈ xs, p y = true → y = x := by
  rw [← List.perm_singleton,
    List.perm_ext_iff_of_nodup (distinct.filter p) (List.nodup_singleton x)]
  simp only [List.mem_filter, List.mem_singleton]
  constructor
  · intro same
    exact ⟨(same x).mpr rfl, fun y member passes => (same y).mp ⟨member, passes⟩⟩
  · rintro ⟨here, alone⟩ y
    exact ⟨fun h => alone y h.1 h.2, fun h => h ▸ here⟩

theorem table?_eq_some_iff {schema : Schema} :
    schema.table? name = some table ↔ schema.tables[name]? = some table ∨
      schema.tables[name]? = none ∧
        (schema.tables.toList.map (·.2)).filter (·.name == name) = [table] := by
  unfold table?
  cases schema.tables[name]? with
  | some filed => simp
  | none =>
    simp only [reduceCtorEq, true_and, false_or]
    split
    next found => simp [found]
    next several =>
      simp only [reduceCtorEq, false_iff]
      exact several table

theorem table?_ofTables_eq_some_iff :
    (ofTables tables).table? name = some table ↔ StandsFor tables name table := by
  rw [table?_eq_some_iff, getElem?_tables_eq_some_iff, getElem?_tables_eq_none_iff,
    filter_eq_singleton_iff (nodup_values tables)]
  simp only [mem_values_iff, beq_iff_eq]
  constructor
  · rintro (⟨remains, named⟩ | ⟨unqualified, ⟨remains, named⟩, alone⟩)
    · exact .qualified remains named
    · exact .bare remains named unqualified alone
  · rintro (⟨remains, named⟩ | ⟨remains, named, unqualified, alone⟩)
    · exact .inl ⟨remains, named⟩
    · exact .inr ⟨unqualified, ⟨remains, named⟩, alone⟩

theorem table?_ofTables_eq_none_iff : (ofTables tables).table? name = none ↔
    (∀ table, Remains tables table → ¬table.Called name) ∧
      ((∀ table, Remains tables table → table.name ≠ name) ∨
        ∃ first second, first ≠ second ∧ (Remains tables first ∧ first.name = name) ∧
          (Remains tables second ∧ second.name = name)) := by
  rw [Option.eq_none_iff_forall_ne_some]
  simp only [ne_eq, table?_ofTables_eq_some_iff]
  constructor
  · intro nothing
    have unqualified : ∀ table, Remains tables table → ¬table.Called name :=
      fun table remains named => nothing table (.qualified remains named)
    refine ⟨unqualified, ?_⟩
    by_cases known : ∃ table, Remains tables table ∧ table.name = name
    · obtain ⟨first, remains, named⟩ := known
      -- It is not the only one, or the name would stand for it.
      have another : ∃ second, Remains tables second ∧ second.name = name ∧ second ≠ first := by
        by_contra alone
        push Not at alone
        exact nothing first (.bare remains named unqualified alone)
      obtain ⟨second, remains', named', other⟩ := another
      exact .inr ⟨first, second, fun same => other same.symm, ⟨remains, named⟩, remains', named'⟩
    · exact .inl fun table remains named => known ⟨table, remains, named⟩
  · rintro ⟨unqualified, ambiguous⟩ table stands
    cases stands with
    | qualified remains named => exact unqualified table remains named
    | bare remains named _ alone =>
      rcases ambiguous with unnamed | ⟨first, second, other, ⟨h, named⟩, h', named'⟩
      · exact unnamed table remains named
      · exact other ((alone first h named).trans (alone second h' named').symm)

theorem remains_concat_iff : Remains (tables ++ [added]) table ↔
    table = added ∨ Remains tables table ∧
      ∀ name, table.Called name → ¬added.Called name := by
  simp only [remains_iff, Table.called_forall_iff]
  constructor
  · rintro ⟨before, after, split, others⟩
    rcases List.eq_nil_or_concat after with rfl | ⟨after, last, rfl⟩
    · exact .inl (List.cons.inj (List.append_inj' split rfl).2).1.symm
    · rw [List.concat_eq_append, ← List.cons_append, ← List.append_assoc] at split
      obtain ⟨rfl, same⟩ := List.append_inj' split rfl
      obtain rfl := (List.cons.inj same).1
      refine .inr ⟨⟨before, after, rfl, fun later member => ?_⟩, ?_⟩
      · exact others later (by simp [member])
      · exact others added (by simp)
  · rintro (rfl | ⟨⟨before, after, rfl, others⟩, other⟩)
    · exact ⟨tables, [], rfl, by simp⟩
    · refine ⟨before, after ++ [added], by simp, fun later member => ?_⟩
      rcases List.mem_append.mp member with member | member
      · exact others later member
      · obtain rfl := List.mem_singleton.mp member
        exact other

theorem table?_concat (found : (ofTables tables).table? name = some table)
    (unqualified : ¬added.Called name)
    (beside : ∀ qualified, table.Called qualified → ¬added.Called qualified) :
    (ofTables (tables ++ [added])).table? name =
      if table.Called name ∨ added.name ≠ name then some table else none := by
  have still {table : Table} (remains : Remains tables table)
      (other : ∀ qualified, table.Called qualified → ¬added.Called qualified) :
      Remains (tables ++ [added]) table := remains_concat_iff.mpr (.inr ⟨remains, other⟩)
  split
  next kept =>
    rw [table?_ofTables_eq_some_iff] at found ⊢
    cases found with
    | qualified remains named => exact .qualified (still remains beside) named
    | bare remains named uncalled alone =>
      have unnamed : added.name ≠ name := kept.resolve_left (uncalled table remains)
      refine .bare (still remains beside) named (fun other h => ?_) fun other h same => ?_
      · rcases remains_concat_iff.mp h with rfl | ⟨h, _⟩
        · exact unqualified
        · exact uncalled other h
      · rcases remains_concat_iff.mp h with rfl | ⟨h, _⟩
        · exact absurd same unnamed
        · exact alone other h same
  next taken =>
    rw [not_or, not_not] at taken
    rw [table?_ofTables_eq_some_iff] at found
    rw [table?_ofTables_eq_none_iff]
    cases found with
    | qualified remains named => exact absurd named taken.1
    | bare remains named uncalled alone =>
      have last : Remains (tables ++ [added]) added := remains_concat_iff.mpr (.inl rfl)
      have other : added ≠ table := by
        rintro rfl
        exact beside _ (Table.called_iff.mpr rfl) (Table.called_iff.mpr rfl)
      refine ⟨fun other h => ?_, .inr ⟨added, table, other, ⟨last, taken.2⟩, still remains beside,
        named⟩⟩
      rcases remains_concat_iff.mp h with rfl | ⟨h, _⟩
      · exact unqualified
      · exact uncalled other h

/-- A name is looked up among the tables that remain: the one that is qualified so, or else the only
one that is called so. -/
theorem looksUp (tables : List Table) (name : String) : LooksUp tables name where
  found _ := table?_ofTables_eq_some_iff
  missing := table?_ofTables_eq_none_iff
  kept _ _ found unqualified beside := table?_concat found unqualified beside

end Schema

end Runbook

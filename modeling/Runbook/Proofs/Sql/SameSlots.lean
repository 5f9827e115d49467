import Runbook.Proofs.Field.Validation
import Runbook.Proofs.Sql.Selecting
import Runbook.Proofs.Sql.Written

namespace Runbook.Sql

namespace Predicate

/-- The conditions differ in their values at most. -/
structure SameSlots (first second : Predicate) : Prop where
  column : first.column = second.column
  operator : first.operator = second.operator
  slots : first.values.length = second.values.length

theorem text_congr {p q : Predicate} (h : SameSlots p q) (first : Nat) :
    p.text first = q.text first := by
  simp only [text, h.column, h.operator, h.slots]

theorem texts_congr {ps qs : List Predicate} (h : List.Forall₂ SameSlots ps qs) (first : Nat) :
    texts first ps = texts first qs := by
  induction h generalizing first with
  | nil => rfl
  | cons hp _ ih => rw [texts, texts, text_congr hp, hp.slots, ih]

theorem parameters_name (p : Predicate) :
    p.parameters.map Parameter.name = List.replicate p.values.length p.column := by
  rw [parameters, List.map_map]
  exact List.map_const'

theorem names_congr {ps qs : List Predicate} (h : List.Forall₂ SameSlots ps qs) :
    (ps.flatMap parameters).map Parameter.name = (qs.flatMap parameters).map Parameter.name := by
  induction h with
  | nil => rfl
  | cons hp _ ih =>
    simp only [List.flatMap_cons, List.map_append, parameters_name, hp.column, hp.slots, ih]

end Predicate

def SameItemCount (first second : Values) (filter : Filter) : Prop :=
  ∀ template s t, filter.value = some template →
    (Template.parse template).resolve first = .ok s →
    (Template.parse template).resolve second = .ok t → (listItems s).length = (listItems t).length

theorem slotCount_congr {table : Table} {filter : Filter} {checked : CheckedFilter}
    {first second : Values} (h : checkFilter table filter = .ok checked)
    (whole : checked.missing first = []) (whole' : checked.missing second = [])
    (counts : filter.operator.isList = true → SameItemCount first second filter) :
    slotCount checked.operator (checked.text first) =
      slotCount checked.operator (checked.text second) := by
  obtain ⟨takes, column, _, rfl⟩ := checkFilter_eq_ok_iff.mp h
  by_cases ht : filter.operator.takesValue = true
  · obtain ⟨template, hv⟩ := Option.isSome_iff_exists.mp (takes ht)
    simp only [CheckedFilter.missing, ht, hv, if_true, Option.toList_some, List.flatMap_cons,
      List.flatMap_nil, List.append_nil] at whole whole'
    simp only [CheckedFilter.text, ht, hv, if_true, Option.map_some, slotCount]
    by_cases list : filter.operator.isList = true
    · have same := counts list template _ _ hv (Template.resolve_batchText whole)
        (Template.resolve_batchText whole')
      simp only [list, if_true, same]
    · simp only [list, if_neg, Bool.false_eq_true, not_false_iff]
  · simp [CheckedFilter.text, ht, slotCount]

theorem selectionOf_sameSlots {first second : Values} {schema : Option Schema} {query : GuiQuery}
    {s t : Selection} (hs : selectionOf first schema query = .ok s)
    (ht : selectionOf second schema query = .ok t)
    (counts : ∀ filter ∈ query.filters, filter.operator.isList = true →
      SameItemCount first second filter) :
    List.Forall₂ Predicate.SameSlots s.predicates t.predicates ∧
      s = { t with predicates := s.predicates } := by
  obtain ⟨checked, hc, whole, hp, hs⟩ := selectionOf_eq_ok_iff.mp hs
  obtain ⟨checked', hc', whole', hq, ht⟩ := selectionOf_eq_ok_iff.mp ht
  cases Except.ok.inj (hc.symm.trans hc')
  refine ⟨?_, by rw [hs, ht]⟩
  obtain ⟨_, _, hf, _, _⟩ := checkQuery_eq_ok hc
  clear hc hc' hs ht
  -- Filters, their checked forms and the conditions of both runs are gone through side by side.
  generalize query.filters = filters at hf counts
  generalize checked.filters = checkedFilters at hf whole whole' hp hq
  generalize s.predicates = ps at hp
  generalize t.predicates = qs at hq
  induction hf generalizing ps qs with
  | nil =>
    cases hp
    cases hq
    exact .nil
  | @cons filter c filters cs hfc _ ih =>
    obtain ⟨p, ps, hpc, hps, rfl⟩ := List.forall₂_cons_left_iff.mp hp
    obtain ⟨q, qs, hqc, hqs, rfl⟩ := List.forall₂_cons_left_iff.mp hq
    obtain ⟨pc, po, pv⟩ := predicateOf_eq_ok hpc
    obtain ⟨qc, qo, qv⟩ := predicateOf_eq_ok hqc
    have same := slotCount_congr hfc (whole c (by simp)) (whole' c (by simp))
      (counts filter (by simp))
    rw [← filterValues_length pv, ← filterValues_length qv] at same
    refine .cons ⟨pc.trans qc.symm, po.trans qo.symm, same⟩ (ih ?_ ?_ ?_ ps hps qs hqs)
    · exact fun f hf => counts f (List.mem_cons_of_mem _ hf)
    · exact fun f hf => whole f (List.mem_cons_of_mem _ hf)
    · exact fun f hf => whole' f (List.mem_cons_of_mem _ hf)

def runValues (inputs : List Field) (supplied : Dict String) (user : User) :
    Except FieldErrors Values :=
  (Field.validateByLabel inputs supplied).map (Validated.placeholders user)

theorem compile_text_eq {query : Query} {inputs : List Field} {schema : Option Schema}
    {supplied supplied' : Dict String} {user user' : User} {first second : Statement}
    (h : compile query inputs supplied user schema = .ok first)
    (h' : compile query inputs supplied' user' schema = .ok second)
    (counts : ∀ gui values values', query = .gui gui →
      runValues inputs supplied user = .ok values →
      runValues inputs supplied' user' = .ok values' →
      ∀ filter ∈ gui.filters, filter.operator.isList = true →
        SameItemCount values values' filter) :
    first.text = second.text ∧
      first.parameters.map Parameter.name = second.parameters.map Parameter.name := by
  obtain ⟨validated, hv, h⟩ := compile_eq_ok_iff.mp h
  obtain ⟨validated', hv', h'⟩ := compile_eq_ok_iff.mp h'
  cases query with
  | gui query =>
    obtain ⟨s, hs, rfl⟩ := h
    obtain ⟨t, ht, rfl⟩ := h'
    have hr : runValues inputs supplied user = .ok (Validated.placeholders user validated) := by
      rw [runValues, hv]; rfl
    have hr' :
        runValues inputs supplied' user' = .ok (Validated.placeholders user' validated') := by
      rw [runValues, hv']; rfl
    obtain ⟨same, eq⟩ := selectionOf_sameSlots hs ht (counts query _ _ rfl hr hr')
    refine ⟨?_, Predicate.names_congr same⟩
    rw [eq]
    simp only [Selection.statement, Selection.text, Selection.columnsText, Selection.tableText,
      Predicate.texts_congr same]
  | raw query =>
    rw [(compileRaw_eq_ok h).2.1, (compileRaw_eq_ok h').2.1, compileRaw_names h,
      compileRaw_names h']
    exact ⟨rfl, rfl⟩

def people : Table := ⟨"people", none, [⟨"name", "text", true, false⟩], []⟩

def peopleNamed : GuiQuery :=
  ⟨some "people", [], [⟨"name", .oneOf, some "\x7bx\x7d"⟩, ⟨"name", .like, some "\x7bx\x7d"⟩],
    none, []⟩

def entered : Field := ⟨"x", "x", .text none, false, none⟩

theorem checkQuery_peopleNamed :
    checkQuery (some (Schema.empty.add people)) peopleNamed = .ok ⟨people, [],
      [⟨⟨"name", "text", true, false⟩, .oneOf, some "\x7bx\x7d"⟩,
       ⟨⟨"name", "text", true, false⟩, .like, some "\x7bx\x7d"⟩], [], none⟩ := by
  have table : tableOf (some (Schema.empty.add people)) peopleNamed.table = .ok people :=
    tableOf_eq_ok_iff.mpr ⟨_, _, rfl, rfl, by decide, rfl⟩
  unfold checkQuery
  rw [table]
  rfl

theorem resolve_entered {values : Values} {raw : String} (value : values["x"]? = some raw) :
    (Template.parse "\x7bx\x7d").resolve values = .ok raw := by
  have parsed : Template.parse "\x7bx\x7d" = ⟨[.placeholder "x"]⟩ := by cbv
  simp [parsed, Template.resolve, Template.missing, Template.placeholders, value, Unresolved.add,
    Template.fill, Template.segmentText]

theorem selectionOf_peopleNamed {values : Values} {raw first second : String}
    (value : values["x"]? = some raw) (items : listItems raw = [first, second]) :
    selectionOf values (some (Schema.empty.add people)) peopleNamed = .ok ⟨[], none, "people",
      [⟨"name", .oneOf, [.text first, .text second]⟩, ⟨"name", .like, [.text raw]⟩], [], none⟩ := by
  have resolved := resolve_entered value
  have text := Template.batchText_of_resolve resolved
  have known := (Template.resolve_eq_ok_iff.mp resolved).1
  refine selectionOf_eq_ok_iff.mpr ⟨_, checkQuery_peopleNamed, ?_, .cons ?_ (.cons ?_ .nil), rfl⟩
  · intro filter hf
    have template : filter.template = some "\x7bx\x7d" := by
      rcases List.mem_pair.mp hf with rfl | rfl <;> rfl
    simp [CheckedFilter.missing, template, known]
  · simp only [CheckedFilter.text, Option.map_some, text, predicateOf, filterValues, items]
    rfl
  · simp only [CheckedFilter.text, Option.map_some, text]
    rfl

theorem validate_entered {raw : String} (shown : Text.isBlank raw = false) :
    Field.validateByLabel [entered] (.ofPairs [("x", raw)]) = .ok [⟨"x", "x", .text raw⟩] := by
  refine Field.validateAll_eq_ok_iff.mpr (.cons ⟨rfl, rfl, ?_⟩ .nil)
  simp [Field.rawValue, entered, Dict.ofPairs, Field.validate, shown, Field.validateText]

theorem compile_peopleNamed {user : User} {raw first second : String}
    (shown : Text.isBlank raw = false)
    (value : (Validated.placeholders user [⟨"x", "x", .text raw⟩])["x"]? = some raw)
    (items : listItems raw = [first, second]) :
    compile (.gui peopleNamed) [entered] (.ofPairs [("x", raw)]) user
      (some (Schema.empty.add people)) = .ok
        ⟨"SELECT * FROM \"people\" WHERE \"name\" IN ($1, $2) AND \"name\" LIKE $3",
          [⟨"name", .text first⟩, ⟨"name", .text second⟩, ⟨"name", .text raw⟩]⟩ :=
  compile_eq_ok_iff.mpr ⟨_, validate_entered shown, _, selectionOf_peopleNamed value items, by cbv⟩

/-- What looks like SQL in a value has no more effect on the text than anything else. -/
theorem compile_text_eq_people :
    ∃ first second,
      compile (.gui peopleNamed) [entered] (.ofPairs [("x", "p, q")]) .anonymous
        (some (Schema.empty.add people)) = .ok first ∧
      compile (.gui peopleNamed) [entered] (.ofPairs [("x", "';--, $9")])
        ⟨"u", "U", "u@x.y"⟩ (some (Schema.empty.add people)) = .ok second ∧
      first.text = second.text ∧
      first.parameters.map Parameter.name = second.parameters.map Parameter.name := by
  have plain : listItems "p, q" = ["p", "q"] := by decide +kernel
  have hostile : listItems "';--, $9" = ["';--", "$9"] := by decide +kernel
  have value : (Validated.placeholders .anonymous [⟨"x", "x", .text "p, q"⟩])["x"]? =
      some "p, q" := rfl
  have value' : (Validated.placeholders ⟨"u", "U", "u@x.y"⟩
      [⟨"x", "x", .text "';--, $9"⟩])["x"]? = some "';--, $9" := rfl
  refine ⟨_, _, compile_peopleNamed (by decide) value plain,
    compile_peopleNamed (by decide) value' hostile, compile_text_eq
      (compile_peopleNamed (by decide) value plain)
      (compile_peopleNamed (by decide) value' hostile) ?_⟩
  intro gui values values' hq hr hr' filter hf list template s t ht hs hs'
  cases hq
  rw [runValues, validate_entered (by decide)] at hr hr'
  cases hr
  cases hr'
  have source : template = "\x7bx\x7d" := by
    rcases List.mem_pair.mp hf with rfl | rfl <;> exact (Option.some.inj ht).symm
  subst source
  cases (resolve_entered value).symm.trans hs
  cases (resolve_entered value').symm.trans hs'
  rw [plain, hostile]
  rfl

end Runbook.Sql

import Runbook.Proofs.Sql.Numbering
import Runbook.Proofs.Sql.Typing
import Runbook.Proofs.Template.Resolution

namespace Runbook

namespace RawQuery

def appearances (query : RawQuery) : List String :=
  (Sql.Lexeme.ofText query.sql).filterMap Sql.Lexeme.name?

def declarations (query : RawQuery) (name : String) : List Pair :=
  query.parameters.filter (·.Declares name)

def undeclared (query : RawQuery) (name : String) : Bool := (query.declarations name).isEmpty

/-- The names without a value in the declarations of the parameters: those of the first parameter
come first, in the order of its declarations. -/
def absent (query : RawQuery) (values : Values) : List String :=
  (Sql.Scan.ofText query.sql).names.flatMap fun name =>
    (query.declarations name).flatMap fun pair => (Template.parse pair.value).absent values

/-- Two declarations of the name come to different texts. -/
def Conflicts (query : RawQuery) (values : Values) (name : String) : Prop :=
  ∃ first ∈ query.declarations name, ∃ second ∈ query.declarations name, ∃ text other,
    (Template.parse first.value).resolve values = .ok text ∧
      (Template.parse second.value).resolve values = .ok other ∧ text ≠ other

def Shown (query : RawQuery) : Prop := ∃ c ∈ query.sql.toList, Text.isSpace c = false

/-- The pair is a declaration of a parameter. -/
def uses (query : RawQuery) (pair : Pair) : Bool :=
  (Sql.Scan.ofText query.sql).names.any (pair.Declares ·)

end RawQuery

namespace Sql

/-- The parameter has the value of the first declaration of its name. -/
def Bears (inputs : List Field) (supplied : Dict String) (values : Values) (query : RawQuery)
    (name : String) (parameter : Parameter) : Prop :=
  parameter.name = name ∧ ∃ pair, (query.declarations name).head? = some pair ∧
    ValueOf inputs supplied values (.parse pair.value) parameter.value

section

variable (query : RawQuery) (inputs : List Field) (supplied : Dict String) (user : User)

/-- What becomes of a written query: the first failure that applies, or else a statement. -/
inductive Ends : Except CompileError Statement → Prop where
  | validation {errors : FieldErrors}
      (failing : ∃ field ∈ inputs, ∃ e, field.validate (field.entered supplied) = .error e)
      (all : ∀ id e, errors[id]? = some e ↔
        Field.LastFailure (Field.entered supplied) inputs id e) :
    Ends (.error (.validation errors))
  | emptyStatement {validated : List Validated}
      (valid : List.Forall₂ (fun field v => Field.Gives field (field.entered supplied) v)
        inputs validated)
      (blank : ¬query.Shown) : Ends (.error .emptyStatement)
  | unresolved {validated : List Validated} {missing : Unresolved}
      (valid : List.Forall₂ (fun field v => Field.Gives field (field.entered supplied) v)
        inputs validated)
      (shown : query.Shown) (missed : query.absent (Validated.placeholders user validated) ≠ [])
      (all : FirstAppearances (query.absent (Validated.placeholders user validated))
        missing.names) :
    Ends (.error (.unresolved missing))
  | unboundParameter {validated : List Validated} {names : List String}
      (valid : List.Forall₂ (fun field v => Field.Gives field (field.entered supplied) v)
        inputs validated)
      (shown : query.Shown) (complete : query.absent (Validated.placeholders user validated) = [])
      (undeclared : ∃ name ∈ query.appearances, query.undeclared name = true)
      (all : FirstAppearances (query.appearances.filter query.undeclared) names) :
    Ends (.error (.unboundParameter names))
  | ambiguousParameter {validated : List Validated} {before after : List String} {name : String}
      (valid : List.Forall₂ (fun field v => Field.Gives field (field.entered supplied) v)
        inputs validated)
      (shown : query.Shown) (complete : query.absent (Validated.placeholders user validated) = [])
      (declared : ∀ name ∈ query.appearances, query.undeclared name = false)
      (split : (Scan.ofText query.sql).names = before ++ name :: after)
      (agree : ∀ other ∈ before, ¬query.Conflicts (Validated.placeholders user validated) other)
      (conflicts : query.Conflicts (Validated.placeholders user validated) name) :
    Ends (.error (.ambiguousParameter name))
  | compiled {validated : List Validated} {statement : Statement}
      (valid : List.Forall₂ (fun field v => Field.Gives field (field.entered supplied) v)
        inputs validated)
      (shown : query.Shown) (complete : query.absent (Validated.placeholders user validated) = [])
      (agree : ∀ name ∈ query.appearances,
        ¬query.Conflicts (Validated.placeholders user validated) name)
      (text : statement.text = (Scan.ofText query.sql).text)
      (parameters : List.Forall₂
        (Bears inputs supplied (Validated.placeholders user validated) query)
        (Scan.ofText query.sql).names statement.parameters) :
    Ends (.ok statement)

end

theorem templatesFor_eq (query : RawQuery) (name : String) :
    templatesFor query.parameters name =
      (query.declarations name).map fun pair => .parse pair.value := by
  simp only [templatesFor, RawQuery.declarations, Pair.decide_declares]

theorem undeclared_iff {query : RawQuery} {name : String} :
    query.undeclared name = true ↔ query.declarations name = [] :=
  List.isEmpty_iff

theorem isEmpty_templatesFor (query : RawQuery) (name : String) :
    (templatesFor query.parameters name).isEmpty = query.undeclared name := by
  rw [templatesFor_eq, List.isEmpty_map, RawQuery.undeclared]

theorem exists_templatesFor {query : RawQuery} {name : String}
    (declared : query.undeclared name = false) :
    ∃ first others, templatesFor query.parameters name = first :: others := by
  rw [← isEmpty_templatesFor] at declared
  exact List.exists_cons_of_ne_nil (by simpa using declared)

theorem scan_names (query : RawQuery) :
    (Scan.ofText query.sql).names = query.appearances.eraseDups :=
  Scan.ofText_names query.sql

theorem mem_scan_names {query : RawQuery} {name : String} :
    name ∈ (Scan.ofText query.sql).names ↔ name ∈ query.appearances := by
  rw [scan_names, List.mem_eraseDups]

theorem firstAppearances_undeclared {query : RawQuery} {names : List String} :
    FirstAppearances (query.appearances.filter query.undeclared) names ↔
      (Scan.ofText query.sql).names.filter query.undeclared = names := by
  rw [firstAppearances_iff, eraseDups_filter, scan_names, eq_comm]

theorem isBlank_sql_iff {query : RawQuery} : Text.isBlank query.sql = true ↔ ¬query.Shown := by
  simp [Text.isBlank, RawQuery.Shown]

/-- All names without a value are told together, as if all declarations of parameters were one. -/
theorem resolveNames_eq (values : Values) (query : RawQuery) :
    resolveNames values query.parameters (Scan.ofText query.sql).names =
      ((Batch.finish ⟨(query.absent values).eraseDups⟩).mapError .unresolved).map fun _ =>
        (Scan.ofText query.sql).names.map (boundOf values query.parameters) := by
  have whole := Batch.yields_mapM (yields_bound values query.parameters)
    (Scan.ofText query.sql).names
  rw [← List.flatMap_assoc] at whole
  have run := Batch.run_start whole
  have absent : (((Scan.ofText query.sql).names.flatMap (templatesFor query.parameters)).flatMap
      fun t => t.absent values) = query.absent values := by
    simp only [RawQuery.absent, List.flatMap_assoc, templatesFor_eq, List.flatMap_map]
  rw [absent] at run
  unfold resolveNames
  dsimp only
  rw [run]
  dsimp only
  cases Batch.finish ⟨(query.absent values).eraseDups⟩ <;> rfl

theorem absent_eq_nil_iff {query : RawQuery} {values : Values} :
    query.absent values = [] ↔ ∀ name ∈ (Scan.ofText query.sql).names,
      ∀ t ∈ templatesFor query.parameters name, t.missing values = [] := by
  simp only [RawQuery.absent, List.flatMap_eq_nil_iff, templatesFor_eq, List.forall_mem_map,
    Template.missing_eq_nil_iff_absent]

theorem conflicts_iff {query : RawQuery} {values : Values} {name : String} {first : Template}
    {others : List Template} (declared : templatesFor query.parameters name = first :: others)
    (complete : ∀ t ∈ templatesFor query.parameters name, t.missing values = []) :
    query.Conflicts values name ↔
      ∃ other ∈ others, other.batchText values ≠ first.batchText values := by
  have conflicts : query.Conflicts values name ↔
      ∃ s ∈ first :: others, ∃ t ∈ first :: others, s.batchText values ≠ t.batchText values := by
    have resolved (t) (ht : t ∈ templatesFor query.parameters name) :
        t.resolve values = .ok (t.batchText values) := Template.resolve_batchText (complete t ht)
    rw [← declared, templatesFor_eq]
    constructor
    · rintro ⟨p, hp, q, hq, text, other, ht, ho, differ⟩
      refine ⟨_, List.mem_map_of_mem hp, _, List.mem_map_of_mem hq, ?_⟩
      rwa [Template.batchText_of_resolve ht, Template.batchText_of_resolve ho]
    · rintro ⟨s, hs, t, ht, differ⟩
      have rs := resolved s (templatesFor_eq query name ▸ hs)
      have rt := resolved t (templatesFor_eq query name ▸ ht)
      obtain ⟨p, hp, rfl⟩ := List.mem_map.mp hs
      obtain ⟨q, hq, rfl⟩ := List.mem_map.mp ht
      exact ⟨p, hp, q, hq, _, _, rs, rt, differ⟩
  rw [conflicts]
  constructor
  · rintro ⟨s, hs, t, ht, differ⟩
    by_cases same : s.batchText values = first.batchText values
    · refine ⟨t, (List.mem_cons.mp ht).resolve_left ?_, fun h => differ (same.trans h.symm)⟩
      rintro rfl
      exact differ same
    · refine ⟨s, (List.mem_cons.mp hs).resolve_left ?_, same⟩
      rintro rfl
      exact same rfl
  · rintro ⟨other, ho, differ⟩
    exact ⟨other, List.mem_cons_of_mem _ ho, first, List.mem_cons_self, differ⟩

theorem conflicting_iff {text : String} {texts : List String} :
    conflicting (text :: texts) = true ↔ ∃ other ∈ texts, other ≠ text := by
  induction texts generalizing text with
  | nil => simp [conflicting]
  | cons next texts ih =>
    have adjacent : conflicting (text :: next :: texts) = true ↔
        text ≠ next ∨ conflicting (next :: texts) = true := by
      simp [conflicting]
    rw [adjacent, ih]
    by_cases same : text = next
    · simp [same]
    · simp [same, Ne.symm same]

theorem parameterOf_of_conflicts {query : RawQuery} {values : Values} (validated : List Validated)
    {name : String} (declared : query.undeclared name = false)
    (complete : ∀ t ∈ templatesFor query.parameters name, t.missing values = [])
    (conflicts : query.Conflicts values name) :
    parameterOf validated (boundOf values query.parameters name) =
      .error (.ambiguousParameter name) := by
  obtain ⟨first, others, templates⟩ := exists_templatesFor declared
  have differ := (conflicts_iff templates complete).mp conflicts
  have differ : conflicting ((first :: others).map (Template.batchText values)) = true := by
    simpa [conflicting_iff] using differ
  simp only [parameterOf, boundOf, templates, List.map_cons] at differ ⊢
  rw [if_pos differ]

theorem exists_parameterOf {query : RawQuery} {values : Values} (validated : List Validated)
    {name : String} (declared : query.undeclared name = false)
    (complete : ∀ t ∈ templatesFor query.parameters name, t.missing values = [])
    (agree : ¬query.Conflicts values name) :
    ∃ parameter, parameterOf validated (boundOf values query.parameters name) = .ok parameter := by
  obtain ⟨first, others, templates⟩ := exists_templatesFor declared
  have same := mt (conflicts_iff templates complete).mpr agree
  have same : ¬conflicting ((first :: others).map (Template.batchText values)) = true := by
    simpa [conflicting_iff] using same
  simp only [parameterOf, boundOf, templates, List.map_cons] at same ⊢
  rw [if_neg same]
  exact ⟨_, rfl⟩

theorem exists_parameterOf_iff {query : RawQuery} {values : Values} {validated : List Validated}
    {name : String} (declared : query.undeclared name = false)
    (complete : ∀ t ∈ templatesFor query.parameters name, t.missing values = []) :
    (∃ parameter, parameterOf validated (boundOf values query.parameters name) = .ok parameter) ↔
      ¬query.Conflicts values name := by
  refine ⟨fun ⟨parameter, h⟩ conflicts => ?_, exists_parameterOf validated declared complete⟩
  rw [parameterOf_of_conflicts validated declared complete conflicts] at h
  cases h

theorem parameterOf_eq_error_iff {query : RawQuery} {values : Values}
    {validated : List Validated} {name : String} {e : CompileError}
    (declared : query.undeclared name = false)
    (complete : ∀ t ∈ templatesFor query.parameters name, t.missing values = []) :
    parameterOf validated (boundOf values query.parameters name) = .error e ↔
      query.Conflicts values name ∧ e = .ambiguousParameter name := by
  by_cases conflicts : query.Conflicts values name
  · rw [parameterOf_of_conflicts validated declared complete conflicts]
    simp [conflicts, eq_comm]
  · obtain ⟨parameter, h⟩ := exists_parameterOf validated declared complete conflicts
    simp [h, conflicts]

section

variable {inputs : List Field} {supplied : Dict String} {user : User}

theorem ValueOf.unique {values : Values} {template : Template} {value other : TypedValue}
    (h : ValueOf inputs supplied values template value)
    (h' : ValueOf inputs supplied values template other) : value = other := by
  cases h with
  | @typed field _ alone first valid =>
    cases h' with
    | @typed field' _ alone' first' valid' =>
      have label : field.label = field'.label := by simpa [alone] using alone'
      obtain rfl : field = field' := by
        rw [label] at first
        exact Option.some.inj (first.symm.trans first')
      exact Except.ok.inj (valid.symm.trans valid')
    | text nothing => exact absurd alone (nothing field (List.mem_of_find?_eq_some first))
  | text nothing resolved =>
    cases h' with
    | @typed field _ alone first =>
      exact absurd alone (nothing field (List.mem_of_find?_eq_some first))
    | text _ resolved' => rw [Except.ok.inj (resolved.symm.trans resolved')]

theorem Bears.unique {query : RawQuery} {values : Values} {name : String}
    {parameter other : Parameter} (h : Bears inputs supplied values query name parameter)
    (h' : Bears inputs supplied values query name other) : parameter = other := by
  obtain ⟨named, pair, first, given⟩ := h
  obtain ⟨named', pair', first', given'⟩ := h'
  obtain rfl : pair = pair' := Option.some.inj (first.symm.trans first')
  have same := given.unique given'
  cases parameter
  cases other
  exact congrArg₂ Parameter.mk (named.trans named'.symm) same

variable {validated : List Validated} {query : RawQuery}

theorem bears_of_parameterOf {name : String} {parameter : Parameter}
    (valid : Field.validateByLabel inputs supplied = .ok validated)
    (complete : ∀ t ∈ templatesFor query.parameters name,
      t.missing (Validated.placeholders user validated) = [])
    (h : parameterOf validated
      (boundOf (Validated.placeholders user validated) query.parameters name) = .ok parameter) :
    Bears inputs supplied (Validated.placeholders user validated) query name parameter := by
  obtain ⟨pair, found, named, value⟩ := parameterOf_eq_ok h
  have declared := complete _ (mem_templatesFor_of_find? found)
  have given := valueOf_of_resolve valid (Template.resolve_batchText declared)
  rw [← value] at given
  exact ⟨named, pair, by rw [RawQuery.declarations, List.head?_filter, found], given⟩

theorem compileRaw_eq {values : Values} (shown : query.Shown) :
    compileRaw values validated query =
      ((Batch.finish ⟨(query.absent values).eraseDups⟩).mapError .unresolved).bind fun _ =>
        match (Scan.ofText query.sql).names.filter query.undeclared with
        | [] => (((Scan.ofText query.sql).names.map (boundOf values query.parameters)).mapM
            (parameterOf validated)).map fun parameters => ⟨(Scan.ofText query.sql).text, parameters⟩
        | names => .error (.unboundParameter names) := by
  have visible : Text.isBlank query.sql = false := by
    rw [← Bool.not_eq_true, isBlank_sql_iff]
    exact not_not_intro shown
  unfold compileRaw
  simp only [visible, resolveNames_eq, isEmpty_templatesFor]
  cases Batch.finish ⟨(query.absent values).eraseDups⟩ with
  | error e => rfl
  | ok => cases (Scan.ofText query.sql).names.filter query.undeclared <;> rfl

theorem Bears.declared {name : String} {values : Values} {parameter : Parameter}
    (h : Bears inputs supplied values query name parameter) : query.undeclared name = false := by
  obtain ⟨-, pair, first, -⟩ := h
  rw [← Bool.not_eq_true, undeclared_iff]
  intro nothing
  simp [nothing] at first

theorem parameterOf_eq_ok_iff {name : String} {parameter : Parameter}
    (valid : Field.validateByLabel inputs supplied = .ok validated)
    (complete : ∀ t ∈ templatesFor query.parameters name,
      t.missing (Validated.placeholders user validated) = [])
    (agree : ¬query.Conflicts (Validated.placeholders user validated) name) :
    parameterOf validated
        (boundOf (Validated.placeholders user validated) query.parameters name) = .ok parameter ↔
      Bears inputs supplied (Validated.placeholders user validated) query name parameter := by
  refine ⟨bears_of_parameterOf valid complete, fun bears => ?_⟩
  obtain ⟨other, h⟩ := exists_parameterOf validated bears.declared complete agree
  rw [h, bears.unique (bears_of_parameterOf valid complete h)]

theorem mapM_parameterOf_eq_ok_iff {names : List String} {parameters : List Parameter}
    (valid : Field.validateByLabel inputs supplied = .ok validated)
    (complete : ∀ name ∈ names, ∀ t ∈ templatesFor query.parameters name,
      t.missing (Validated.placeholders user validated) = [])
    (agree : ∀ name ∈ names, ¬query.Conflicts (Validated.placeholders user validated) name) :
    (names.mapM fun name => parameterOf validated
        (boundOf (Validated.placeholders user validated) query.parameters name)) = .ok parameters ↔
      List.Forall₂ (Bears inputs supplied (Validated.placeholders user validated) query)
        names parameters := by
  rw [mapM_eq_ok_iff_forall₂]
  induction names generalizing parameters with
  | nil => simp
  | cons name names ih =>
    rw [List.forall_mem_cons] at complete agree
    simp only [List.forall₂_cons_left_iff, ih complete.2 agree.2,
      parameterOf_eq_ok_iff valid complete.1 agree.1]

variable {values : Values} {schema : Option Schema}

theorem compile_of_valid (valid : Field.validateByLabel inputs supplied = .ok validated) :
    compile (.raw query) inputs supplied user schema =
      compileRaw (Validated.placeholders user validated) validated query := by
  rw [compile, valid]
  rfl

theorem compileRaw_of_blank (blank : ¬query.Shown) :
    compileRaw values validated query = .error .emptyStatement := by
  rw [compileRaw, if_pos (isBlank_sql_iff.mpr blank)]
  rfl

theorem compileRaw_of_missed (shown : query.Shown) (missed : query.absent values ≠ []) :
    compileRaw values validated query =
      .error (.unresolved ⟨(query.absent values).eraseDups⟩) := by
  have nonempty := eraseDups_eq_nil_iff.not.mpr missed
  rw [compileRaw_eq shown, Batch.finish_eq_error_iff.mpr ⟨nonempty, rfl⟩]
  rfl

theorem compileRaw_of_undeclared (shown : query.Shown) (complete : query.absent values = [])
    (nonempty : (Scan.ofText query.sql).names.filter query.undeclared ≠ []) :
    compileRaw values validated query =
      .error (.unboundParameter ((Scan.ofText query.sql).names.filter query.undeclared)) := by
  rw [compileRaw_eq shown, complete]
  change (match (Scan.ofText query.sql).names.filter query.undeclared with
    | [] => _
    | names => Except.error (CompileError.unboundParameter names)) = _
  split
  next nothing => exact absurd nothing nonempty
  next => rfl

theorem compileRaw_of_declared (shown : query.Shown) (complete : query.absent values = [])
    (declared : (Scan.ofText query.sql).names.filter query.undeclared = []) :
    compileRaw values validated query =
      ((Scan.ofText query.sql).names.mapM fun name =>
        parameterOf validated (boundOf values query.parameters name)).map
          fun parameters => ⟨(Scan.ofText query.sql).text, parameters⟩ := by
  rw [compileRaw_eq shown, complete, declared, List.mapM_map]
  rfl

theorem filter_undeclared_eq_nil_iff :
    (Scan.ofText query.sql).names.filter query.undeclared = [] ↔
      ∀ name ∈ query.appearances, query.undeclared name = false := by
  simp only [List.filter_eq_nil_iff, mem_scan_names, Bool.not_eq_true]

theorem compile_of_ends {result : Except CompileError Statement}
    (h : Ends query inputs supplied user result) :
    compile (.raw query) inputs supplied user schema = result := by
  cases h with
  | validation failing all =>
    rw [compile, Field.validateByLabel_eq_error_iff.mpr ⟨failing, all⟩]
    rfl
  | emptyStatement valid blank =>
    rw [compile_of_valid (Field.validateByLabel_eq_ok_iff.mpr valid), compileRaw_of_blank blank]
  | unresolved valid shown missed all =>
    rw [compile_of_valid (Field.validateByLabel_eq_ok_iff.mpr valid),
      compileRaw_of_missed shown missed, ← firstAppearances_iff.mp all]
  | unboundParameter valid shown complete undeclared all =>
    obtain rfl := firstAppearances_undeclared.mp all
    rw [compile_of_valid (Field.validateByLabel_eq_ok_iff.mpr valid),
      compileRaw_of_undeclared shown complete]
    rw [ne_eq, filter_undeclared_eq_nil_iff]
    simpa using undeclared
  | ambiguousParameter valid shown complete declared split agree conflicts =>
    rw [compile_of_valid (Field.validateByLabel_eq_ok_iff.mpr valid),
      compileRaw_of_declared shown complete (filter_undeclared_eq_nil_iff.mpr declared),
      Except.map_eq_error_iff, mapM_eq_error_iff]
    have whole := absent_eq_nil_iff.mp complete
    simp only [← mem_scan_names, split] at declared whole
    refine ⟨_, _, _, split, fun other ho => ?_, ?_⟩
    · exact exists_parameterOf _ (declared other (by simp [ho])) (whole other (by simp [ho]))
        (agree other ho)
    · exact parameterOf_of_conflicts _ (declared _ (by simp)) (whole _ (by simp)) conflicts
  | @compiled validated statement valid shown complete agree text parameters =>
    have ok := Field.validateByLabel_eq_ok_iff.mpr valid
    have declared : (Scan.ofText query.sql).names.filter query.undeclared = [] := by
      rw [List.filter_eq_nil_iff]
      intro name hn
      obtain ⟨parameter, -, bears⟩ := exists_of_forall₂_left parameters hn
      rw [bears.declared]
      simp
    rw [compile_of_valid ok, compileRaw_of_declared shown complete declared]
    have bound := (mapM_parameterOf_eq_ok_iff ok (absent_eq_nil_iff.mp complete) fun name hn =>
      agree name (mem_scan_names.mp hn)).mpr parameters
    rw [bound, ← text]
    rfl

theorem ends_compile : Ends query inputs supplied user
    (compile (.raw query) inputs supplied user schema) := by
  cases validation : Field.validateByLabel inputs supplied with
  | error errors =>
    obtain ⟨failing, all⟩ := Field.validateByLabel_eq_error_iff.mp validation
    rw [compile, validation]
    exact .validation failing all
  | ok validated =>
    have valid := Field.validateByLabel_eq_ok_iff.mp validation
    rw [compile_of_valid validation]
    by_cases shown : query.Shown
    case neg =>
      rw [compileRaw_of_blank shown]
      exact .emptyStatement valid shown
    by_cases complete : query.absent (Validated.placeholders user validated) = []
    case neg =>
      rw [compileRaw_of_missed shown complete]
      exact .unresolved valid shown complete (firstAppearances_iff.mpr rfl)
    by_cases declared : (Scan.ofText query.sql).names.filter query.undeclared = []
    case neg =>
      rw [compileRaw_of_undeclared shown complete declared]
      refine .unboundParameter valid shown complete ?_ (firstAppearances_undeclared.mpr rfl)
      rw [filter_undeclared_eq_nil_iff] at declared
      simpa using declared
    have known := filter_undeclared_eq_nil_iff.mp declared
    have whole := absent_eq_nil_iff.mp complete
    rw [compileRaw_of_declared shown complete declared]
    cases bound : (Scan.ofText query.sql).names.mapM fun name => parameterOf validated
        (boundOf (Validated.placeholders user validated) query.parameters name) with
    | ok parameters =>
      have agree : ∀ name ∈ (Scan.ofText query.sql).names,
          ¬query.Conflicts (Validated.placeholders user validated) name := by
        intro name hn
        obtain ⟨parameter, -, h⟩ := exists_of_forall₂_left (mapM_eq_ok_iff_forall₂.mp bound) hn
        exact (exists_parameterOf_iff (known name (mem_scan_names.mp hn)) (whole name hn)).mp
          ⟨parameter, h⟩
      exact .compiled valid shown complete (fun name hn => agree name (mem_scan_names.mpr hn)) rfl
        ((mapM_parameterOf_eq_ok_iff validation whole agree).mp bound)
    | error e =>
      obtain ⟨before, name, after, split, passed, failed⟩ := mapM_eq_error_iff.mp bound
      have scanned : ∀ other ∈ before ++ name :: after, query.undeclared other = false ∧
          ∀ t ∈ templatesFor query.parameters other,
            t.missing (Validated.placeholders user validated) = [] := by
        rw [← split]
        exact fun other ho => ⟨known other (mem_scan_names.mp ho), whole other ho⟩
      obtain ⟨fits, resolves⟩ := scanned name (by simp)
      obtain ⟨conflicts, rfl⟩ := (parameterOf_eq_error_iff fits resolves).mp failed
      refine .ambiguousParameter valid shown complete known split (fun other ho => ?_) conflicts
      obtain ⟨fits, resolves⟩ := scanned other (by simp [ho])
      exact (exists_parameterOf_iff fits resolves).mp (passed other ho)

theorem declarations_eq_filter_uses {name : String} (hn : name ∈ (Scan.ofText query.sql).names)
    (parameters : List Pair) :
    parameters.filter (·.Declares name) =
      (parameters.filter query.uses).filter (·.Declares name) := by
  rw [List.filter_filter]
  refine List.filter_congr fun pair _ => ?_
  by_cases declares : pair.Declares name
  · have used : query.uses pair = true := List.any_eq_true.mpr ⟨name, hn, by simpa using declares⟩
    simp [declares, used]
  · simp [declares]

variable {parameters : List Pair}

theorem declarations_congr (same : parameters.filter query.uses = query.parameters.filter query.uses)
    {name : String} (hn : name ∈ (Scan.ofText query.sql).names) :
    RawQuery.declarations { query with parameters } name = query.declarations name := by
  rw [RawQuery.declarations, declarations_eq_filter_uses hn, same,
    ← declarations_eq_filter_uses hn, RawQuery.declarations]

theorem compileRaw_congr (same : parameters.filter query.uses = query.parameters.filter query.uses) :
    compileRaw values validated { query with parameters } = compileRaw values validated query := by
  have declarations : ∀ name ∈ (Scan.ofText query.sql).names,
      RawQuery.declarations { query with parameters } name = query.declarations name :=
    fun _ => declarations_congr same
  by_cases shown : query.Shown
  case neg =>
    have shown' : ¬RawQuery.Shown { query with parameters } := shown
    rw [compileRaw_of_blank shown, compileRaw_of_blank shown']
  have shown' : RawQuery.Shown { query with parameters } := shown
  have absent : RawQuery.absent { query with parameters } values = query.absent values :=
    List.flatMap_congr fun name hn => by rw [declarations name hn]
  have undeclared : (Scan.ofText query.sql).names.filter
      (RawQuery.undeclared { query with parameters }) =
        (Scan.ofText query.sql).names.filter query.undeclared :=
    List.filter_congr fun name hn => by
      rw [RawQuery.undeclared, declarations name hn, RawQuery.undeclared]
  have bound : (Scan.ofText query.sql).names.map (boundOf values parameters) =
      (Scan.ofText query.sql).names.map (boundOf values query.parameters) := by
    refine List.map_congr_left fun name hn => ?_
    have templates : templatesFor parameters name = templatesFor query.parameters name := by
      rw [templatesFor_eq query, ← declarations name hn, ← templatesFor_eq]
    rw [boundOf, templates, boundOf]
  rw [compileRaw_eq shown, compileRaw_eq shown', absent]
  dsimp only
  rw [undeclared, bound]

theorem compile_raw_congr
    (same : parameters.filter query.uses = query.parameters.filter query.uses) :
    compile (.raw { query with parameters }) inputs supplied user schema =
      compile (.raw query) inputs supplied user schema :=
  congrArg (Except.bind _) (funext fun _ => compileRaw_congr same)

end

/-- Compilation of a written query comes to the first failure that applies, or to a statement with
the values of the first declarations. Two lists of declarations that differ only in those of names
that are no parameters come to the same. -/
theorem compile_raw_eq_iff (query : RawQuery) (inputs : List Field) (supplied : Dict String)
    (user : User) (schema : Option Schema) :
    (∀ result, compile (.raw query) inputs supplied user schema = result ↔
      Ends query inputs supplied user result) ∧
    ∀ parameters, parameters.filter query.uses = query.parameters.filter query.uses →
      compile (.raw { query with parameters }) inputs supplied user schema =
        compile (.raw query) inputs supplied user schema := by
  refine ⟨fun result => ⟨?_, compile_of_ends⟩, fun parameters => compile_raw_congr⟩
  rintro rfl
  exact ends_compile

end Sql

end Runbook

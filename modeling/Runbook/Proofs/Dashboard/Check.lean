import Runbook.Proofs.Project.Sound

namespace Runbook

/-- Fields that are told apart, each with a label to show, and with something to choose from where
one has to choose. -/
structure Field.WellFormed (fields : List Field) : Prop where
  labelled : ∀ field ∈ fields, Text.isBlank field.label = false
  labels : (fields.map Field.label).Nodup
  ids : (fields.map Field.id).Nodup
  choices : ∀ field ∈ fields, ∀ choices, field.kind = .radio choices → 2 ≤ choices.length

/-- There is what a source takes its text from. -/
inductive Board.Provides (board : Board) : Source → Prop where
  | literal (template : String) : Provides board (.literal template)
  | loadInput {id : String} (known : ∃ field ∈ board.loadInputs, field.id = id) :
    Provides board (.loadInput id)
  | actionInput {id : String} (known : ∃ field ∈ board.actionInputs, field.id = id) :
    Provides board (.actionInput id)
  | prepareOutput {path : String} (prepared : board.prepareAppId ≠ none)
      (filled : Text.isBlank path = false) :
    Provides board (.prepareOutput path)

structure Board.WellFormed (board : Board) : Prop where
  loadInputs : Field.WellFormed board.loadInputs
  actionInputs : Field.WellFormed board.actionInputs
  actions : (board.actions.map Action.id).Nodup
  targets : ∀ binding ∈ board.bindings, ∃ action ∈ board.actions, action.id = binding.actionId
  sources : ∀ binding ∈ board.bindings, board.Provides binding.source

theorem noErrors_iff_eq_nil {findings : List Finding}
    (errors : ∀ finding ∈ findings, finding.isError = true) :
    NoErrors findings ↔ findings = [] := by
  constructor
  · intro nothing
    apply List.eq_nil_iff_forall_not_mem.mpr
    intro finding member
    have := nothing finding member
    rw [errors finding member] at this
    cases this
  · rintro rfl finding ⟨⟩

namespace Field

variable {location : String} {earlier fields : List Field} {field : Field}

theorem isError_of_mem_findings {finding : Finding}
    (h : finding ∈ findings location earlier field) : finding.isError = true := by
  grind [findings, Finding.isError, Finding.error]

theorem isError_of_mem_checkFrom {finding : Finding}
    (h : finding ∈ checkFrom location earlier fields) : finding.isError = true := by
  induction fields generalizing earlier with
  | nil => cases h
  | cons field fields ih =>
    rcases List.mem_append.mp h with here | behind
    · exact isError_of_mem_findings here
    · exact ih behind

theorem isError_of_mem_check {finding : Finding} (h : finding ∈ check location fields) :
    finding.isError = true := isError_of_mem_checkFrom h

theorem findings_eq_nil_iff :
    findings location earlier field = [] ↔
      Text.isBlank field.label = false ∧ field.label ∉ earlier.map label ∧
        field.id ∉ earlier.map id ∧
        ∀ choices, field.kind = .radio choices → 2 ≤ choices.length := by
  unfold findings
  cases kind : field.kind with
  | radio choices =>
    dsimp only
    by_cases few : choices.length < 2
    · have short : ¬2 ≤ choices.length := by omega
      rw [if_pos few]
      simp [short]
    · have enough : 2 ≤ choices.length := by omega
      rw [if_neg few]
      cases blank : Text.isBlank field.label with
      | true => simp
      | false => simp [enough]
  | _ =>
    cases blank : Text.isBlank field.label with
    | true => simp
    | false => simp

theorem noErrors_findings_iff : NoErrors (findings location earlier field) ↔
    Text.isBlank field.label = false ∧ field.label ∉ earlier.map label ∧
      field.id ∉ earlier.map id ∧
      ∀ choices, field.kind = .radio choices → 2 ≤ choices.length :=
  (noErrors_iff_eq_nil fun _ => isError_of_mem_findings).trans findings_eq_nil_iff

theorem wellFormed_cons : WellFormed (field :: fields) ↔
    WellFormed fields ∧ Text.isBlank field.label = false ∧ field.label ∉ fields.map label ∧
      field.id ∉ fields.map id ∧
      ∀ choices, field.kind = .radio choices → 2 ≤ choices.length := by
  constructor
  · intro h
    obtain ⟨filled, labelled⟩ := List.forall_mem_cons.mp h.labelled
    obtain ⟨label, labels⟩ := List.nodup_cons.mp h.labels
    obtain ⟨id, ids⟩ := List.nodup_cons.mp h.ids
    obtain ⟨choice, choices⟩ := List.forall_mem_cons.mp h.choices
    exact ⟨⟨labelled, labels, ids, choices⟩, filled, label, id, choice⟩
  · rintro ⟨h, filled, label, id, choice⟩
    exact {
      labelled := List.forall_mem_cons.mpr ⟨filled, h.labelled⟩
      labels := List.nodup_cons.mpr ⟨label, h.labels⟩
      ids := List.nodup_cons.mpr ⟨id, h.ids⟩
      choices := List.forall_mem_cons.mpr ⟨choice, h.choices⟩ }

theorem apart_concat {key : Field → String} :
    (∀ other ∈ fields, key other ∉ (earlier ++ [field]).map key) ↔
      key field ∉ fields.map key ∧ ∀ other ∈ fields, key other ∉ earlier.map key := by
  simp only [List.map_append, List.map_singleton, List.mem_append, List.mem_singleton, not_or]
  constructor
  · intro h
    refine ⟨fun member => ?_, fun other ho => (h other ho).1⟩
    obtain ⟨other, ho, same⟩ := List.mem_map.mp member
    exact (h other ho).2 same
  · rintro ⟨new, others⟩ other ho
    exact ⟨others other ho, fun same => new (same ▸ List.mem_map_of_mem ho)⟩

theorem noErrors_checkFrom_iff : NoErrors (checkFrom location earlier fields) ↔
    WellFormed fields ∧ (∀ field ∈ fields, field.label ∉ earlier.map label) ∧
      ∀ field ∈ fields, field.id ∉ earlier.map id := by
  induction fields generalizing earlier with
  | nil =>
    have empty : WellFormed [] := ⟨by simp, by simp, by simp, by simp⟩
    simp [checkFrom, NoErrors, empty]
  | cons field fields ih =>
    rw [checkFrom, noErrors_append, noErrors_findings_iff, ih, apart_concat, apart_concat,
      wellFormed_cons, List.forall_mem_cons, List.forall_mem_cons]
    constructor
    · rintro ⟨⟨filled, label, id, choice⟩, wellFormed, ⟨newLabel, labels⟩, newId, ids⟩
      exact ⟨⟨wellFormed, filled, newLabel, newId, choice⟩, ⟨label, labels⟩, id, ids⟩
    · rintro ⟨⟨wellFormed, filled, newLabel, newId, choice⟩, ⟨label, labels⟩, id, ids⟩
      exact ⟨⟨filled, label, id, choice⟩, wellFormed, ⟨newLabel, labels⟩, newId, ids⟩

theorem noErrors_check_iff : NoErrors (check location fields) ↔ WellFormed fields := by
  rw [check, noErrors_checkFrom_iff]
  simp

end Field

namespace Board

variable {location : String} {board : Board}

theorem sourceProblems_eq_nil_iff {source : Source} :
    board.sourceProblems source = [] ↔ board.Provides source := by
  cases source with
  | literal template =>
    constructor
    · intro _
      exact .literal template
    · intro _
      rfl
  | loadInput id =>
    have known : board.sourceProblems (.loadInput id) = [] ↔
        ∃ field ∈ board.loadInputs, field.id = id := by
      simp [sourceProblems, Field.find?]
    rw [known]
    constructor
    · exact .loadInput
    · intro provides
      cases provides with
      | loadInput known => exact known
  | actionInput id =>
    have known : board.sourceProblems (.actionInput id) = [] ↔
        ∃ field ∈ board.actionInputs, field.id = id := by
      simp [sourceProblems, Field.find?]
    rw [known]
    constructor
    · exact .actionInput
    · intro provides
      cases provides with
      | actionInput known => exact known
  | prepareOutput path =>
    have known : board.sourceProblems (.prepareOutput path) = [] ↔
        board.prepareAppId ≠ none ∧ Text.isBlank path = false := by
      simp [sourceProblems]
    rw [known]
    constructor
    · rintro ⟨prepared, filled⟩
      exact .prepareOutput prepared filled
    · intro provides
      cases provides with
      | prepareOutput prepared filled => exact ⟨prepared, filled⟩

theorem bindingProblems_eq_nil_iff {binding : Binding} :
    board.bindingProblems binding = [] ↔
      (∃ action ∈ board.actions, action.id = binding.actionId) ∧
        board.Provides binding.source := by
  rw [bindingProblems, List.append_eq_nil_iff, sourceProblems_eq_nil_iff]
  refine and_congr_left fun _ => ?_
  simp [action?]

theorem noErrors_duplicateActions_iff :
    NoErrors (duplicateActions location board) ↔ (board.actions.map Action.id).Nodup := by
  rw [duplicateActions, noErrors_map_iff fun _ => rfl, repeated_eq_nil_iff]
  simp

theorem noErrors_unboundActions : NoErrors (unboundActions location board) := by
  intro finding member
  obtain ⟨action, _, rfl⟩ := List.mem_map.mp member
  rfl

theorem noErrors_check_iff : NoErrors (check location board) ↔ board.WellFormed := by
  rw [check, noErrors_append, noErrors_append, noErrors_append, noErrors_append,
    Field.noErrors_check_iff, Field.noErrors_check_iff, noErrors_duplicateActions_iff,
    noErrors_bindingFindings_iff]
  simp only [bindingProblems_eq_nil_iff]
  constructor
  · rintro ⟨⟨⟨⟨loadInputs, actionInputs⟩, actions⟩, bindings⟩, _⟩
    exact ⟨loadInputs, actionInputs, actions, fun binding member => (bindings binding member).1,
      fun binding member => (bindings binding member).2⟩
  · intro h
    refine ⟨⟨⟨⟨h.loadInputs, h.actionInputs⟩, h.actions⟩, ?_⟩, noErrors_unboundActions⟩
    exact fun binding member => ⟨h.targets binding member, h.sources binding member⟩

def unboundWarning (location : String) (action : Action) : Finding :=
  .warning "bindings" ("Action '" ++ action.id ++ "' has no input bindings")
    (location ++ ".actions." ++ action.id)

theorem unboundActions_eq : unboundActions location board =
    (board.actions.filter fun action => ∀ binding ∈ board.bindings,
      binding.actionId ≠ action.id).map (unboundWarning location) := by
  have same : (board.actions.filter fun action => (board.bindingsOf action.id).isEmpty) =
      board.actions.filter fun action => ∀ binding ∈ board.bindings,
        binding.actionId ≠ action.id := by
    apply List.filter_congr
    intro action _
    rw [Bool.eq_iff_iff]
    simp [bindingsOf, List.filter_eq_nil_iff]
  rw [unboundActions, same]
  rfl

theorem isError_of_mem_bindingFindings {finding : Finding}
    (h : finding ∈ bindingFindings location board) : finding.isError = true := by
  obtain ⟨indexed, _, h⟩ := List.mem_flatMap.mp h
  obtain ⟨message, _, rfl⟩ := List.mem_map.mp h
  rfl

theorem isError_of_mem_duplicateActions {finding : Finding}
    (h : finding ∈ duplicateActions location board) : finding.isError = true := by
  obtain ⟨id, _, rfl⟩ := List.mem_map.mp h
  rfl

theorem filter_warnings_of_errors {findings : List Finding}
    (errors : ∀ finding ∈ findings, finding.isError = true) :
    findings.filter (!·.isError) = [] := by
  apply List.filter_eq_nil_iff.mpr
  intro finding member
  simp [errors finding member]

theorem warnings_check : (check location board).filter (!·.isError) =
    (board.actions.filter fun action => ∀ binding ∈ board.bindings,
      binding.actionId ≠ action.id).map (unboundWarning location) := by
  have kept : (unboundActions location board).filter (!·.isError) =
      unboundActions location board := by
    apply List.filter_eq_self.mpr
    intro finding member
    simp [noErrors_unboundActions finding member]
  rw [check, List.filter_append, List.filter_append, List.filter_append, List.filter_append,
    filter_warnings_of_errors fun _ => Field.isError_of_mem_check,
    filter_warnings_of_errors fun _ => Field.isError_of_mem_check,
    filter_warnings_of_errors fun _ => isError_of_mem_duplicateActions,
    filter_warnings_of_errors fun _ => isError_of_mem_bindingFindings, kept, unboundActions_eq]
  rfl

/-- The checks find no error exactly in a well-formed dashboard; they warn of exactly the actions
without bindings, one by one; and the layout that is stored changes nothing. -/
theorem check_exact (location : String) (board : Board) :
    ((∀ finding ∈ check location board, finding.isError = false) ↔ board.WellFormed) ∧
    ((check location board).filter (!·.isError) =
      (board.actions.filter fun action => ∀ binding ∈ board.bindings,
        binding.actionId ≠ action.id).map (unboundWarning location)) ∧
    ∀ layout, check location { board with layout := layout } = check location board := by
  refine ⟨noErrors_check_iff, warnings_check, fun layout => ?_⟩
  rfl

end Board

end Runbook

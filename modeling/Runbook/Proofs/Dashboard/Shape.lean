import Runbook.Proofs.Dashboard.Check
import Runbook.Command.Check

namespace Runbook

namespace Json

variable {name other : String} {members first second : List (String × Json)}

@[simp] theorem member_nil : member name [] = none := rfl

@[simp] theorem member_cons {value : Json} : member name ((other, value) :: members) =
    (member name members).or (if other = name then some value else none) := rfl

@[simp] theorem member_append :
    member name (first ++ second) = (member name second).or (member name first) := by
  induction first with
  | nil => simp
  | cons entry first ih =>
    obtain ⟨other, value⟩ := entry
    rw [List.cons_append, member_cons, ih, member_cons, Option.or_assoc]

@[simp] theorem member_member? {value : Option Json} :
    member name (member? other value) = if other = name then value else none := by
  cases value with
  | none => simp [member?]
  | some value => simp [member?]

end Json

namespace Shape

variable {α : Type} {shape : Shape} {pointer : String} {json : Json}
  {properties : List (String × Shape)} {names : List String} {members : List (String × Json)}

theorem violations_of_holds (h : shape.holds json = true) : shape.violations pointer json = [] :=
  violations_eq_nil_iff.mpr h

theorem violations_toList_of_holds {json? : Option Json} (h : json?.all shape.holds = true) :
    json?.toList.flatMap (shape.violations pointer) = [] := by
  cases json? with
  | none => rfl
  | some json => simpa using violations_of_holds h

theorem holds_all {shapes : List Shape} :
    (all shapes).holds json = shapes.all (·.holds json) := by
  induction shapes using all.induct with
  | case1 => rfl
  | case2 shape => simp [all]
  | case3 shape rest more ih =>
    rw [all, holds, ih, List.all_cons]
    exact more

theorem violations_all {shapes : List Shape} :
    (all shapes).violations pointer json = shapes.flatMap (·.violations pointer json) := by
  induction shapes using all.induct with
  | case1 => simp [all, violations, holds]
  | case2 shape => simp [all]
  | case3 shape rest more ih =>
    rw [all, violations, ih, List.flatMap_cons]
    exact more

theorem holds_record : (record properties names).holds (.object members) =
    (properties.all (fun property => (Json.member property.1 members).all property.2.holds) &&
      names.all fun name => (Json.member name members).isSome) := by
  simp [record, holds, holds_all, JsonKind.holds, List.all_map, Function.comp_def]

theorem violations_record
    (complete : ∀ name ∈ names, (Json.member name members).isSome = true) :
    (record properties names).violations pointer (.object members) =
      properties.flatMap fun property => (Json.member property.1 members).toList.flatMap
        (property.2.violations (pointer ++ "/" ++ property.1)) := by
  have present : (all (names.map required)).violations pointer (.object members) = [] := by
    apply violations_of_holds
    simpa [holds_all, holds] using complete
  simp [record, violations, present, violations_all, holds, JsonKind.holds, List.flatMap_map]

theorem holds_listOf {write : α → Json} {xs : List α} :
    (listOf shape).holds (.array (xs.map write)) = xs.all fun x => shape.holds (write x) := by
  simp [listOf, holds, JsonKind.holds, List.all_map, Function.comp_def]

theorem violations_listOf {write : α → Json} {xs : List α} :
    (listOf shape).violations pointer (.array (xs.map write)) =
      xs.zipIdx.flatMap fun indexed =>
        shape.violations (pointer ++ "/" ++ Text.decimal indexed.2) (write indexed.1) := by
  simp [listOf, violations, holds, JsonKind.holds, List.zipIdx_map, List.flatMap_map]

@[simp] theorem holds_text (s : String) : text.holds (.string s) = true := by
  simp [text, holds, JsonKind.holds]

@[simp] theorem holds_flag (b : Bool) : flag.holds (.bool b) = true := by
  simp [flag, holds, JsonKind.holds]

@[simp] theorem holds_oneOf (words : List String) (s : String) :
    (oneOf words).holds (.string s) = words.contains s := rfl

@[simp] theorem holds_text? (text? : Option String) :
    (text?.map Json.string).all text.holds = true := by
  cases text? with
  | none => rfl
  | some s => rfl

theorem holds_texts (texts : List String) : (listOf text).holds (Json.strings texts) = true := by
  rw [Json.strings, holds_listOf]
  simp

theorem violations_filledText {s : String} : filledText.violations pointer (.string s) =
    if s = "" then [⟨pointer, complaint (.string "") (minLength 1)⟩] else [] := by
  by_cases empty : s = ""
  · subst empty
    rfl
  · have long : 1 ≤ s.length := by
      have := String.length_eq_zero_iff.not.mpr empty
      omega
    rw [if_neg empty]
    apply violations_of_holds
    simpa [filledText, holds] using long

end Shape

namespace Action

theorem holds_shape (action : Action) : shape.holds action.toJson = true := by
  simp [shape, toJson, Shape.holds_record]

end Action

namespace Binding

theorem holds_shape (binding : Binding) : shape.holds binding.toJson = true := by
  obtain ⟨actionId, input, source⟩ := binding
  cases source <;>
    simp [shape, toJson, Source.members, Source.kind, Shape.holds_record, Shape.holds]

end Binding

namespace Layout

theorem holds_shape (layout : Layout) : shape.holds layout.toJson = true := by
  have groups : ∀ group : Group, (Shape.record [("actionIds", .listOf .text), ("name", .text)]
      ["name", "actionIds"]).holds group.toJson = true := by
    intro group
    simp [Group.toJson, Shape.holds_record, Shape.holds_texts]
  simp [shape, toJson, Shape.holds_record, Shape.holds_listOf, groups]

end Layout

namespace Field

theorem holds_choiceShape (choice : Choice) : choiceShape.holds choice.toJson = true := by
  simp [choiceShape, Choice.toJson, Shape.holds_record]

def shortOptions (pointer : String) (field : Field) : List Shape.Violation :=
  match field.kind with
  | .radio choices =>
    if 2 ≤ choices.length then []
    else
      [⟨pointer ++ "/options",
        Shape.complaint (.array (choices.map Choice.toJson)) (.minItems 2)⟩]
  | _ => []

def emptyLabel (pointer : String) (field : Field) : List Shape.Violation :=
  if field.label = "" then [⟨pointer ++ "/label", Shape.complaint (.string "") (.minLength 1)⟩]
  else []

theorem holds_maxLength (n? : Option UInt64) :
    (n?.map fun n => Json.natural n.toNat).all
      (Shape.both (.minimum 0) (.kind .integer)).holds = true := by
  cases n? with
  | none => rfl
  | some n => simp [Shape.holds, Json.natural, Json.integer, JsonKind.holds]

theorem holds_options (choices : List Choice) :
    (Shape.listOf choiceShape).holds (.array (choices.map Choice.toJson)) = true := by
  simp [Shape.holds_listOf, holds_choiceShape]

theorem violations_shape {pointer : String} (field : Field) :
    shape.violations pointer field.toJson =
      shortOptions pointer field ++ emptyLabel pointer field := by
  obtain ⟨id, label, kind, required, default⟩ := field
  rw [shape, Shape.violations]
  congr 1
  -- The condition on the kind: only radio fields are held to it.
  · cases kind with
    | radio choices =>
      simp [shortOptions, toJson, FieldKind.members, FieldKind.name, Shape.violations, Shape.holds,
        String.append_assoc]
    | _ =>
      simp [shortOptions, toJson, FieldKind.members, FieldKind.name, Shape.violations, Shape.holds]
  -- The members: all but the label are written as they have to be.
  · rw [toJson, Shape.violations_record]
    · cases kind <;>
        simp [emptyLabel, FieldKind.members, FieldKind.name, Shape.violations_filledText,
          Shape.violations_of_holds, Shape.violations_toList_of_holds, holds_maxLength,
          holds_options, String.append_assoc]
    · cases kind <;> simp [FieldKind.members]

theorem shortOptions_eq_nil_iff {pointer : String} {field : Field} :
    shortOptions pointer field = [] ↔
      ∀ choices, field.kind = .radio choices → 2 ≤ choices.length := by
  unfold shortOptions
  cases field.kind with
  | radio choices =>
    by_cases enough : 2 ≤ choices.length
    · simp [enough]
    · simp [enough]
  | _ => simp

theorem emptyLabel_eq_nil_iff {pointer : String} {field : Field} :
    emptyLabel pointer field = [] ↔ field.label ≠ "" := by
  simp [emptyLabel]

theorem holds_shape_iff {field : Field} : shape.holds field.toJson = true ↔
    field.label ≠ "" ∧ ∀ choices, field.kind = .radio choices → 2 ≤ choices.length := by
  have empty : shape.violations "" field.toJson = [] ↔ shape.holds field.toJson = true :=
    Shape.violations_eq_nil_iff
  rw [← empty, violations_shape, List.append_eq_nil_iff, shortOptions_eq_nil_iff,
    emptyLabel_eq_nil_iff]
  exact and_comm

theorem pointer_of_mem_violations {pointer : String} {field : Field} {violation : Shape.Violation}
    (h : violation ∈ shape.violations pointer field.toJson) :
    violation.pointer = pointer ++ "/label" ∨ violation.pointer = pointer ++ "/options" := by
  rw [violations_shape] at h
  rcases List.mem_append.mp h with short | empty
  · right
    unfold shortOptions at short
    split at short
    · split at short
      · cases short
      · rw [List.mem_singleton.mp short]
    · cases short
  · left
    unfold emptyLabel at empty
    split at empty
    · rw [List.mem_singleton.mp empty]
    · cases empty

/-- The check of the fields is at least as strict. -/
theorem holds_shape_of_findings {location : String} {earlier : List Field} {field : Field}
    (h : findings location earlier field = []) : shape.holds field.toJson = true := by
  obtain ⟨filled, _, _, choices⟩ := findings_eq_nil_iff.mp h
  refine holds_shape_iff.mpr ⟨fun empty => ?_, choices⟩
  rw [empty] at filled
  cases filled

theorem exists_finding_of_mem_violations {pointer : String} {field : Field}
    {violation : Shape.Violation} (h : violation ∈ shape.violations pointer field.toJson)
    (location : String) (earlier : List Field) :
    ∃ finding, finding ∈ findings location earlier field := by
  apply List.exists_mem_of_ne_nil
  intro nothing
  rw [Shape.violations_of_holds (holds_shape_of_findings nothing)] at h
  cases h

theorem mem_checkFrom {location : String} {fields earlier : List Field} {field : Field} {i : Nat}
    {finding : Finding} (found : fields[i]? = some field)
    (h : finding ∈ findings location (earlier ++ fields.take i) field) :
    finding ∈ checkFrom location earlier fields := by
  induction fields generalizing earlier i with
  | nil => cases found
  | cons first rest ih =>
    cases i with
    | zero =>
      obtain rfl : first = field := by simpa using found
      apply List.mem_append_left
      simpa using h
    | succ i =>
      apply List.mem_append_right
      apply ih found
      simpa using h

end Field

namespace Board

def inputs (board : Board) : List (String × List Field) :=
  [("actionInputs", board.actionInputs), ("loadInputs", board.loadInputs)]

theorem violations_stored (board : Board) : shape.violations "" board.stored =
    (board.inputs.flatMap fun inputs => inputs.2.zipIdx.flatMap fun indexed =>
      Field.shape.violations ("/" ++ inputs.1 ++ "/" ++ Text.decimal indexed.2)
        indexed.1.toJson) ++
    if board.prepareAppId = some "" then
      [⟨"/prepareAppId", Shape.complaint (.string "") (.minLength 1)⟩]
    else [] := by
  have actions : (Shape.listOf Action.shape).holds (.array (board.actions.map Action.toJson)) =
      true := by
    simp [Shape.holds_listOf, Action.holds_shape]
  have bindings : (Shape.listOf Binding.shape).holds
      (.array (board.bindings.map Binding.toJson)) = true := by
    simp [Shape.holds_listOf, Binding.holds_shape]
  have prepare : ((board.prepareAppId.map Json.string).toList.flatMap
      (Shape.filledText.violations "/prepareAppId")) =
      if board.prepareAppId = some "" then
        [⟨"/prepareAppId", Shape.complaint (.string "") (.minLength 1)⟩]
      else [] := by
    cases board.prepareAppId with
    | none => rfl
    | some id => simp [Shape.violations_filledText]
  rw [stored, toJson, shape, Shape.violations_record]
  · simp [inputs, members, normalize, Field.listToJson, Shape.violations_of_holds, actions,
      bindings, Layout.holds_shape, Shape.violations_listOf, prepare]
  · simp [members]

theorem holds_stored_iff {board : Board} : shape.holds board.stored = true ↔
    (∀ field ∈ board.loadInputs ++ board.actionInputs, field.label ≠ "" ∧
      ∀ choices, field.kind = .radio choices → 2 ≤ choices.length) ∧
    board.prepareAppId ≠ some "" := by
  have fields (pointer : String) (fields : List Field) :
      (fields.zipIdx.flatMap fun indexed => Field.shape.violations
        (pointer ++ "/" ++ Text.decimal indexed.2) indexed.1.toJson) = [] ↔
      ∀ field ∈ fields, Field.shape.holds field.toJson = true := by
    rw [← Shape.violations_listOf, Shape.violations_eq_nil_iff, Shape.holds_listOf,
      List.all_eq_true]
  have empty : shape.violations "" board.stored = [] ↔ shape.holds board.stored = true :=
    Shape.violations_eq_nil_iff
  rw [← empty, violations_stored, List.append_eq_nil_iff]
  simp only [inputs, List.flatMap_cons, List.flatMap_nil, List.append_nil,
    List.append_eq_nil_iff, fields, Field.holds_shape_iff, List.forall_mem_append]
  constructor
  · rintro ⟨⟨actionInputs, loadInputs⟩, prepare⟩
    exact ⟨⟨loadInputs, actionInputs⟩, fun empty => by simp [empty] at prepare⟩
  · rintro ⟨⟨loadInputs, actionInputs⟩, prepare⟩
    exact ⟨⟨actionInputs, loadInputs⟩, if_neg prepare⟩

theorem cause_of_mem_violations {board : Board} {violation : Shape.Violation}
    (h : violation ∈ shape.violations "" board.stored) :
    (board.prepareAppId = some "" ∧ violation.pointer = "/prepareAppId") ∨
      ∃ inputs ∈ board.inputs, ∃ i field, inputs.2[i]? = some field ∧
        violation ∈ Field.shape.violations ("/" ++ inputs.1 ++ "/" ++ Text.decimal i)
          field.toJson := by
  rw [violations_stored] at h
  rcases List.mem_append.mp h with ofField | ofPrepare
  · right
    obtain ⟨inputs, kept, ofField⟩ := List.mem_flatMap.mp ofField
    obtain ⟨⟨field, i⟩, indexed, ofField⟩ := List.mem_flatMap.mp ofField
    exact ⟨inputs, kept, i, field, List.mem_zipIdx_iff_getElem?.mp indexed, ofField⟩
  · left
    split at ofPrepare
    next empty =>
      rw [List.mem_singleton.mp ofPrepare]
      exact ⟨empty, rfl⟩
    next => cases ofPrepare

theorem mem_check_of_inputs {location : String} {board : Board} {inputs : String × List Field}
    (kept : inputs ∈ board.inputs) {finding : Finding}
    (h : finding ∈ Field.check (location ++ "." ++ inputs.1) inputs.2) :
    finding ∈ check location board := by
  simp only [Board.inputs, List.mem_cons, List.not_mem_nil, or_false] at kept
  rw [String.append_assoc] at h
  apply List.mem_append_left
  apply List.mem_append_left
  apply List.mem_append_left
  rcases kept with rfl | rfl
  · exact List.mem_append_right _ h
  · exact List.mem_append_left _ h

end Board

theorem Dashboard.shapeFindings_eq_nil_iff {dashboard : Dashboard} :
    dashboard.shapeFindings = [] ↔ Board.shape.holds dashboard.board.stored = true := by
  rw [shapeFindings, List.map_eq_nil_iff, Shape.violations_eq_nil_iff, Board.stored]

theorem Project.mem_findings_of_field {project : Project} {dashboard : Dashboard}
    (known : dashboard ∈ project.dashboards) {inputs : String × List Field}
    (kept : inputs ∈ dashboard.board.inputs) {i : Nat} {field : Field}
    (found : inputs.2[i]? = some field) {finding : Finding}
    (h : finding ∈ Field.findings ("dashboards." ++ dashboard.id ++ "." ++ inputs.1)
      (inputs.2.take i) field) :
    finding ∈ project.findings := by
  have checked : finding ∈ dashboard.board.check ("dashboards." ++ dashboard.id) :=
    Board.mem_check_of_inputs kept (Field.mem_checkFrom found h)
  apply List.mem_append_right
  apply List.mem_append_right
  exact List.mem_flatMap.mpr ⟨dashboard, known, List.mem_append_left _ checked⟩

/-- A stored board has its shape exactly if every field has a label, every radio field has two
options, and the app that prepares has a name if there is one; it is reported if it has not. With
whatever is reported about the shape of a field, the check of the fields reports something about
that field too. -/
theorem stored_fits_exactly (project : Project) :
    (∀ board : Board, Board.shape.holds board.stored = true ↔
      (∀ field ∈ board.loadInputs ++ board.actionInputs, field.label ≠ "" ∧
        ∀ choices, field.kind = .radio choices → 2 ≤ choices.length) ∧
      board.prepareAppId ≠ some "") ∧
    (∀ dashboard : Dashboard,
      dashboard.shapeFindings = [] ↔ Board.shape.holds dashboard.board.stored = true) ∧
    ∀ dashboard ∈ project.dashboards, ∀ finding ∈ dashboard.shapeFindings,
      (dashboard.board.prepareAppId = some "" ∧
        finding.location = "dashboards." ++ dashboard.id ++ "/prepareAppId") ∨
      ∃ inputs ∈ dashboard.board.inputs, ∃ i field, inputs.2[i]? = some field ∧
        (∃ part ∈ ["/label", "/options"], finding.location =
          "dashboards." ++ dashboard.id ++ "/" ++ inputs.1 ++ "/" ++ Text.decimal i ++ part) ∧
        ∃ companion ∈ Field.findings ("dashboards." ++ dashboard.id ++ "." ++ inputs.1)
          (inputs.2.take i) field, companion ∈ project.findings := by
  refine ⟨fun board => Board.holds_stored_iff,
    fun dashboard => Dashboard.shapeFindings_eq_nil_iff,
    fun dashboard known finding reported => ?_⟩
  obtain ⟨violation, departs, rfl⟩ := List.mem_map.mp reported
  rcases Board.cause_of_mem_violations departs with ⟨empty, place⟩ | ofField
  · left
    refine ⟨empty, ?_⟩
    simp [Finding.error, place]
  · right
    obtain ⟨inputs, kept, i, field, found, departs⟩ := ofField
    obtain ⟨companion, made⟩ := Field.exists_finding_of_mem_violations departs
      ("dashboards." ++ dashboard.id ++ "." ++ inputs.1) (inputs.2.take i)
    refine ⟨inputs, kept, i, field, found, ?_, companion, made,
      project.mem_findings_of_field known kept found made⟩
    rcases Field.pointer_of_mem_violations departs with label | options
    · exact ⟨"/label", by simp, by simp [Finding.error, label, String.append_assoc]⟩
    · exact ⟨"/options", by simp, by simp [Finding.error, options, String.append_assoc]⟩

/-- A label of blanks is no label to the check of the fields, but it has the shape of one. -/
example : Field.shape.holds (Field.toJson ⟨"a", " ", .text none, true, none⟩) = true ∧
    (Field.findings "inputs" [] ⟨"a", " ", .text none, true, none⟩).length = 1 := by
  decide +kernel

end Runbook

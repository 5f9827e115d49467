import Mathlib.Logic.Relation
import Runbook.Dashboard.Binding
import Runbook.Proofs.Dict
import Runbook.Proofs.Results

namespace Runbook

/-- A binding of another action is added, removed or changed, and does not become one of the
action. -/
inductive Binding.EditedElsewhere (actionId : String) : List Binding → List Binding → Prop where
  | added (before after : List Binding) {binding : Binding} (other : binding.actionId ≠ actionId) :
    EditedElsewhere actionId (before ++ after) (before ++ binding :: after)
  | removed (before after : List Binding) {binding : Binding}
      (other : binding.actionId ≠ actionId) :
    EditedElsewhere actionId (before ++ binding :: after) (before ++ after)
  | changed (before after : List Binding) {old new : Binding} (other : old.actionId ≠ actionId)
      (still : new.actionId ≠ actionId) :
    EditedElsewhere actionId (before ++ old :: after) (before ++ new :: after)

namespace Binding

variable {actionId : String} {bindings edited : List Binding}

def ofAction (actionId : String) (bindings : List Binding) : List Binding :=
  bindings.filter (·.actionId == actionId)

theorem ofAction_append_cons {before after : List Binding} {binding : Binding}
    (other : binding.actionId ≠ actionId) :
    ofAction actionId (before ++ binding :: after) = ofAction actionId (before ++ after) := by
  simp [ofAction, other]

theorem EditedElsewhere.ofAction_eq (edit : EditedElsewhere actionId bindings edited) :
    ofAction actionId edited = ofAction actionId bindings := by
  cases edit with
  | added before after other => exact ofAction_append_cons other
  | removed before after other => exact (ofAction_append_cons other).symm
  | changed before after other still =>
    rw [ofAction_append_cons other, ofAction_append_cons still]

instance : Std.Symm (EditedElsewhere actionId) where
  symm _ _ edit := by
    cases edit with
    | added before after other => exact .removed before after other
    | removed before after other => exact .added before after other
    | changed before after other still => exact .changed before after still other

theorem edited_ofAction (before bindings : List Binding) :
    Relation.ReflTransGen (EditedElsewhere actionId) (before ++ bindings)
      (before ++ ofAction actionId bindings) := by
  induction bindings generalizing before with
  | nil => exact .refl
  | cons binding bindings ih =>
    by_cases own : binding.actionId = actionId
    · have kept : ofAction actionId (binding :: bindings) =
          binding :: ofAction actionId bindings := by simp [ofAction, own]
      rw [kept, List.append_cons before binding bindings,
        List.append_cons before binding (ofAction actionId bindings)]
      exact ih (before ++ [binding])
    · have gone : ofAction actionId (binding :: bindings) = ofAction actionId bindings := by
        simp [ofAction, own]
      rw [gone]
      exact .head (.removed before bindings own) (ih before)

theorem edited_iff :
    Relation.ReflTransGen (EditedElsewhere actionId) bindings edited ↔
      ofAction actionId edited = ofAction actionId bindings := by
  constructor
  · intro edits
    induction edits with
    | refl => rfl
    | tail _ edit ih => rw [edit.ofAction_eq, ih]
  · intro same
    have down : Relation.ReflTransGen (EditedElsewhere actionId) bindings
        (ofAction actionId bindings) := edited_ofAction [] bindings
    have up : Relation.ReflTransGen (EditedElsewhere actionId) edited
        (ofAction actionId edited) := edited_ofAction [] edited
    rw [same] at up
    exact down.trans (Std.Symm.symm _ _ up)

end Binding

/-- The text that a source comes to. Inputs are found by their ids, whatever their labels are. -/
inductive Source.Supplies (scope : Scope) : Source → String → Prop where
  | literal {template text : String}
      (resolved : (Template.parse template).resolve scope.values = .ok text) :
    Supplies scope (.literal template) text
  | loadInput {id : String} {field : Validated}
      (first : scope.load.find? (·.id == id) = some field) :
    Supplies scope (.loadInput id) field.value.render
  | actionInput {id : String} {field : Validated}
      (first : scope.action.find? (·.id == id) = some field) :
    Supplies scope (.actionInput id) field.value.render
  | prepareOutput {path text : String} {output value : Json} (captured : scope.output = some output)
      (found : output.lookup? path = some value) (shown : value.rendered? = some text) :
    Supplies scope (.prepareOutput path) text

/-- The error of an input whose source comes to nothing. -/
inductive Source.Misses (scope : Scope) (input : String) : Source → BindingError → Prop where
  | literal {template : String} {names : Unresolved}
      (missing : (Template.parse template).resolve scope.values = .error names) :
    Misses scope input (.literal template) (.unresolved input names)
  | loadInput {id : String} (unknown : ∀ field ∈ scope.load, field.id ≠ id) :
    Misses scope input (.loadInput id) (.unknownField input id)
  | actionInput {id : String} (unknown : ∀ field ∈ scope.action, field.id ≠ id) :
    Misses scope input (.actionInput id) (.unknownField input id)
  | prepareOutput {path : String}
      (nothing : ∀ output value, scope.output = some output → output.lookup? path = some value →
        value.rendered? = none) :
    Misses scope input (.prepareOutput path) (.missingPath input path)

namespace Binding

variable {scope : Scope} {binding : Binding}

theorem fieldText_eq_ok_iff {input id text : String} {fields : List Validated} :
    fieldText input id fields = .ok text ↔
      ∃ field, fields.find? (·.id == id) = some field ∧ field.value.render = text := by
  unfold fieldText Validated.byId?
  cases fields.find? (·.id == id) with
  | none => simp
  | some field => simp

theorem fieldText_eq_error_iff {input id : String} {fields : List Validated} {e : BindingError} :
    fieldText input id fields = .error e ↔
      (∀ field ∈ fields, field.id ≠ id) ∧ .unknownField input id = e := by
  unfold fieldText Validated.byId?
  cases found : fields.find? (·.id == id) with
  | none => simpa using fun _ => List.find?_eq_none.mp found
  | some field =>
    have known : ¬∀ field ∈ fields, field.id ≠ id := fun unknown =>
      unknown field (List.mem_of_find?_eq_some found) (by simpa using List.find?_some found)
    simp [known]

theorem text_eq_ok_iff {text : String} :
    binding.text scope = .ok text ↔ binding.source.Supplies scope text := by
  obtain ⟨actionId, input, source⟩ := binding
  cases source with
  | literal template =>
    rw [Binding.text, Except.mapError_eq_ok_iff]
    constructor
    · intro resolved
      exact .literal resolved
    · intro supplies
      cases supplies with
      | literal resolved => exact resolved
  | loadInput id =>
    rw [Binding.text, fieldText_eq_ok_iff]
    constructor
    · rintro ⟨field, first, rfl⟩
      exact .loadInput first
    · intro supplies
      cases supplies with
      | loadInput first => exact ⟨_, first, rfl⟩
  | actionInput id =>
    rw [Binding.text, fieldText_eq_ok_iff]
    constructor
    · rintro ⟨field, first, rfl⟩
      exact .actionInput first
    · intro supplies
      cases supplies with
      | actionInput first => exact ⟨_, first, rfl⟩
  | prepareOutput path =>
    have shown : Binding.text scope ⟨actionId, input, .prepareOutput path⟩ = .ok text ↔
        (scope.output.bind (·.lookup? path)).bind Json.rendered? = some text := by
      simp only [Binding.text]
      cases (scope.output.bind fun output => output.lookup? path).bind Json.rendered? with
      | none => simp
      | some shown => simp
    rw [shown]
    constructor
    · intro h
      obtain ⟨value, h, rendered⟩ := Option.bind_eq_some_iff.mp h
      obtain ⟨output, captured, found⟩ := Option.bind_eq_some_iff.mp h
      exact .prepareOutput captured found rendered
    · intro supplies
      cases supplies with
      | prepareOutput captured found rendered => simp [captured, found, rendered]

theorem text_eq_error_iff {e : BindingError} :
    binding.text scope = .error e ↔ binding.source.Misses scope binding.input e := by
  obtain ⟨actionId, input, source⟩ := binding
  cases source with
  | literal template =>
    rw [Binding.text, Except.mapError_eq_error_iff]
    constructor
    · rintro ⟨names, missing, rfl⟩
      exact .literal missing
    · intro misses
      cases misses with
      | literal missing => exact ⟨_, missing, rfl⟩
  | loadInput id =>
    rw [Binding.text, fieldText_eq_error_iff]
    constructor
    · rintro ⟨unknown, rfl⟩
      exact .loadInput unknown
    · intro misses
      cases misses with
      | loadInput unknown => exact ⟨unknown, rfl⟩
  | actionInput id =>
    rw [Binding.text, fieldText_eq_error_iff]
    constructor
    · rintro ⟨unknown, rfl⟩
      exact .actionInput unknown
    · intro misses
      cases misses with
      | actionInput unknown => exact ⟨unknown, rfl⟩
  | prepareOutput path =>
    have shown : Binding.text scope ⟨actionId, input, .prepareOutput path⟩ = .error e ↔
        (scope.output.bind (·.lookup? path)).bind Json.rendered? = none ∧
          .missingPath input path = e := by
      simp only [Binding.text]
      cases (scope.output.bind fun output => output.lookup? path).bind Json.rendered? with
      | none => simp
      | some shown => simp
    rw [shown]
    constructor
    · rintro ⟨nothing, rfl⟩
      refine .prepareOutput fun output value captured found => ?_
      rw [captured, Option.bind_some, found, Option.bind_some] at nothing
      exact nothing
    · intro misses
      cases misses with
      | prepareOutput nothing =>
        refine ⟨Option.bind_eq_none_iff.mpr fun value h => ?_, rfl⟩
        obtain ⟨output, captured, found⟩ := Option.bind_eq_some_iff.mp h
        exact nothing output value captured found

end Binding

namespace Validated

def lastText? (fields : List Validated) (label : String) : Option String :=
  (fields.reverse.find? (·.label == label)).map (·.value.render)

theorem getElem?_rendered (fields : List Validated) (label : String) :
    (rendered fields)[label]? = lastText? fields label := by
  rw [rendered, Dict.getElem?_ofPairs, ← List.map_reverse, lastText?]
  induction fields.reverse with
  | nil => rfl
  | cons field rest ih =>
    rw [List.map_cons, List.lookup_cons, List.find?_cons, Bool.beq_comm (a := label)]
    cases field.label == label with
    | true => rfl
    | false => exact ih

def unlabelled (field : Validated) : String × TypedValue := (field.id, field.value)

theorem byId?_eq_lookup (fields : List Validated) (id : String) :
    byId? fields id = (fields.map unlabelled).lookup id := by
  induction fields with
  | nil => rfl
  | cons field fields ih =>
    rw [byId?, List.find?_cons, List.map_cons, unlabelled, List.lookup_cons, Bool.beq_comm]
    cases id == field.id with
    | true => rfl
    | false => exact ih

end Validated

theorem User.getElem?_placeholders (user : User) (name : String) :
    (Dict.ofPairs user.placeholders)[name]? = user.placeholders.lookup name :=
  Dict.getElem?_ofPairs_of_nodup (by simp [placeholders]) name

/-- A template sees the inputs of the action before those that were loaded, and the user last. -/
theorem Scope.getElem?_values (scope : Scope) (name : String) :
    scope.values[name]? = ((Validated.lastText? scope.action name).or
      (Validated.lastText? scope.load name)).or (scope.user.placeholders.lookup name) := by
  rw [Scope.values, Validated.placeholders, Dict.getElem?_override, Dict.getElem?_override,
    Validated.getElem?_rendered, Validated.getElem?_rendered, User.getElem?_placeholders,
    Option.or_assoc]

theorem Binding.text_of_relabelled {binding : Binding} {scope relabelled : Scope}
    (load : relabelled.load.map Validated.unlabelled = scope.load.map Validated.unlabelled)
    (action : relabelled.action.map Validated.unlabelled = scope.action.map Validated.unlabelled)
    {id : String} (byId : binding.source = .loadInput id ∨ binding.source = .actionInput id) :
    binding.text relabelled = binding.text scope := by
  rcases byId with source | source
  · simp only [Binding.text, source, fieldText, Validated.byId?_eq_lookup, load]
  · simp only [Binding.text, source, fieldText, Validated.byId?_eq_lookup, action]

/-- The last of the bindings to an input supplies the text. -/
def LastBound (scope : Scope) (bindings : List Binding) (input text : String) : Prop :=
  ∃ before binding after, bindings = before ++ binding :: after ∧ binding.input = input ∧
    binding.source.Supplies scope text ∧ ∀ later ∈ after, later.input ≠ input

/-- The first of the bindings that comes to nothing has the error. -/
def FirstMissed (scope : Scope) (bindings : List Binding) (e : BindingError) : Prop :=
  ∃ before binding after, bindings = before ++ binding :: after ∧
    (∀ earlier ∈ before, ∃ text, earlier.source.Supplies scope text) ∧
    binding.source.Misses scope binding.input e

namespace Binding

variable {scope : Scope} {bindings : List Binding}

def pair (scope : Scope) (binding : Binding) : Except BindingError (String × String) :=
  (binding.text scope).map fun text => (binding.input, text)

theorem pair_eq_ok_iff {binding : Binding} {pair : String × String} :
    binding.pair scope = .ok pair ↔
      binding.input = pair.1 ∧ binding.source.Supplies scope pair.2 := by
  obtain ⟨input, text⟩ := pair
  rw [Binding.pair, Except.map_eq_ok_iff]
  constructor
  · rintro ⟨found, supplies, same⟩
    cases same
    exact ⟨rfl, text_eq_ok_iff.mp supplies⟩
  · rintro ⟨rfl, supplies⟩
    exact ⟨text, text_eq_ok_iff.mpr supplies, rfl⟩

theorem exists_pair_iff {binding : Binding} :
    (∃ pair, binding.pair scope = .ok pair) ↔ ∃ text, binding.source.Supplies scope text := by
  constructor
  · rintro ⟨pair, h⟩
    exact ⟨pair.2, (pair_eq_ok_iff.mp h).2⟩
  · rintro ⟨text, supplies⟩
    exact ⟨(binding.input, text), pair_eq_ok_iff.mpr ⟨rfl, supplies⟩⟩

theorem bindInto_eq (scope : Scope) (inputs : Dict String) (bindings : List Binding) :
    bindInto scope inputs bindings = (bindings.mapM (pair scope)).map fun pairs =>
      pairs.foldl (fun map pair => map.insert pair.1 pair.2) inputs := by
  induction bindings generalizing inputs with
  | nil => rfl
  | cons binding bindings ih =>
    rw [bindInto, List.mapM_cons, pair]
    cases binding.text scope with
    | error e => rfl
    | ok text =>
      have next : (Except.ok text >>= fun text =>
          bindInto scope (inputs.insert binding.input text) bindings) =
          bindInto scope (inputs.insert binding.input text) bindings := rfl
      rw [next, ih]
      cases bindings.mapM (pair scope) with
      | error e => rfl
      | ok pairs => rfl

theorem lastBound_iff {pairs : List (String × String)}
    (each : List.Forall₂ (fun binding p => pair scope binding = .ok p) bindings pairs)
    {input text : String} :
    LastBound scope bindings input text ↔ ∃ before after,
      pairs = before ++ (input, text) :: after ∧ ∀ pair ∈ after, pair.1 ≠ input := by
  constructor
  · intro last
    obtain ⟨before, binding, after, rfl, named, supplies, others⟩ := last
    obtain ⟨first, pair, rest, rfl, _, here, behind⟩ := exists_of_forall₂_append_cons each.flip
    have expected : Binding.pair scope binding = .ok (input, text) :=
      pair_eq_ok_iff.mpr ⟨named, supplies⟩
    have same : pair = (input, text) := Except.ok.inj (here.symm.trans expected)
    refine ⟨first, rest, by rw [same], fun other listed => ?_⟩
    obtain ⟨later, member, given⟩ := exists_of_forall₂_left behind listed
    have named : later.input = other.1 := (pair_eq_ok_iff.mp given).1
    rw [← named]
    exact others later member
  · intro last
    obtain ⟨before, after, rfl, others⟩ := last
    obtain ⟨first, binding, rest, rfl, _, here, behind⟩ := exists_of_forall₂_append_cons each
    obtain ⟨named, supplies⟩ := pair_eq_ok_iff.mp here
    refine ⟨first, binding, rest, rfl, named, supplies, fun later member => ?_⟩
    obtain ⟨pair, listed, given⟩ := exists_of_forall₂_left behind member
    rw [(pair_eq_ok_iff.mp given).1]
    exact others pair listed

end Binding

namespace Board

variable {board : Board} {actionId : String} {scope : Scope}

theorem boundInputs_eq (board : Board) (actionId : String) (scope : Scope) :
    board.boundInputs actionId scope =
      ((Binding.ofAction actionId board.bindings).mapM (Binding.pair scope)).map Dict.ofPairs :=
  Binding.bindInto_eq scope ∅ (board.bindingsOf actionId)

theorem boundInputs_eq_of_ofAction_eq {other : Board}
    (same : Binding.ofAction actionId other.bindings = Binding.ofAction actionId board.bindings) :
    other.boundInputs actionId scope = board.boundInputs actionId scope := by
  rw [boundInputs_eq, boundInputs_eq, same]

theorem exists_boundInputs_iff :
    (∃ inputs, board.boundInputs actionId scope = .ok inputs) ↔
      ∀ binding ∈ Binding.ofAction actionId board.bindings,
        ∃ text, binding.source.Supplies scope text := by
  have each : (∃ pairs, (Binding.ofAction actionId board.bindings).mapM (Binding.pair scope) =
      .ok pairs) ↔ ∀ binding ∈ Binding.ofAction actionId board.bindings,
        ∃ text, binding.source.Supplies scope text := by
    rw [exists_mapM_eq_ok_iff]
    exact forall₂_congr fun _ _ => Binding.exists_pair_iff
  rw [← each, boundInputs_eq]
  simp only [Except.map_eq_ok_iff]
  constructor
  · rintro ⟨inputs, pairs, h, _⟩
    exact ⟨pairs, h⟩
  · rintro ⟨pairs, h⟩
    exact ⟨_, pairs, h, rfl⟩

theorem mem_boundInputs_iff {inputs : Dict String}
    (bound : board.boundInputs actionId scope = .ok inputs) {input : String} :
    input ∈ inputs ↔
      ∃ binding ∈ Binding.ofAction actionId board.bindings, binding.input = input := by
  rw [boundInputs_eq] at bound
  obtain ⟨pairs, h, rfl⟩ := Except.map_eq_ok_iff.mp bound
  have each := mapM_eq_ok_iff_forall₂.mp h
  rw [Dict.mem_ofPairs]
  constructor
  · rintro ⟨pair, listed, named⟩
    obtain ⟨binding, member, given⟩ := exists_of_forall₂_left each.flip listed
    exact ⟨binding, member, (Binding.pair_eq_ok_iff.mp given).1.trans named⟩
  · rintro ⟨binding, member, named⟩
    obtain ⟨pair, listed, given⟩ := exists_of_forall₂_left each member
    exact ⟨pair, listed, (Binding.pair_eq_ok_iff.mp given).1.symm.trans named⟩

theorem getElem?_boundInputs_eq_some_iff {inputs : Dict String}
    (bound : board.boundInputs actionId scope = .ok inputs) {input text : String} :
    inputs[input]? = some text ↔
      LastBound scope (Binding.ofAction actionId board.bindings) input text := by
  rw [boundInputs_eq] at bound
  obtain ⟨pairs, h, rfl⟩ := Except.map_eq_ok_iff.mp bound
  rw [Binding.lastBound_iff (mapM_eq_ok_iff_forall₂.mp h)]
  exact Dict.getElem?_ofPairs_eq_some_iff

theorem boundInputs_eq_error_iff {e : BindingError} :
    board.boundInputs actionId scope = .error e ↔
      FirstMissed scope (Binding.ofAction actionId board.bindings) e := by
  rw [boundInputs_eq, Except.map_eq_error_iff, mapM_eq_error_iff]
  have failing (binding : Binding) : Binding.pair scope binding = .error e ↔
      binding.source.Misses scope binding.input e := by
    rw [Binding.pair, Except.map_eq_error_iff, Binding.text_eq_error_iff]
  simp only [Binding.exists_pair_iff, failing]
  exact Iff.rfl

/-- What is bound for an action, or the error, follows from the bindings of this action alone,
however the others are edited. Every input has the text of the last binding to it, and the error is
that of the first binding that comes to nothing. Templates see inputs of the action before loaded
ones, and those before the user; inputs that are bound by their ids do not depend on labels. -/
theorem bound_by_own_bindings (board : Board) (actionId : String) (scope : Scope) :
    let own := board.bindings.filter (·.actionId == actionId)
    (∀ other : Board, other.bindings.filter (·.actionId == actionId) = own →
      other.boundInputs actionId scope = board.boundInputs actionId scope) ∧
    (∀ other : Board,
      Relation.ReflTransGen (Binding.EditedElsewhere actionId) board.bindings other.bindings →
        other.boundInputs actionId scope = board.boundInputs actionId scope) ∧
    ((∃ inputs, board.boundInputs actionId scope = .ok inputs) ↔
      ∀ binding ∈ own, ∃ text, binding.source.Supplies scope text) ∧
    (∀ inputs, board.boundInputs actionId scope = .ok inputs →
      (∀ input, input ∈ inputs ↔ ∃ binding ∈ own, binding.input = input) ∧
      ∀ input text, inputs[input]? = some text ↔ LastBound scope own input text) ∧
    (∀ e, board.boundInputs actionId scope = .error e ↔ FirstMissed scope own e) ∧
    (∀ name, scope.values[name]? = ((Validated.lastText? scope.action name).or
      (Validated.lastText? scope.load name)).or (scope.user.placeholders.lookup name)) ∧
    ∀ (binding : Binding) (relabelled : Scope) (id : String),
      relabelled.load.map Validated.unlabelled = scope.load.map Validated.unlabelled →
      relabelled.action.map Validated.unlabelled = scope.action.map Validated.unlabelled →
      binding.source = .loadInput id ∨ binding.source = .actionInput id →
        binding.text relabelled = binding.text scope := by
  intro own
  refine ⟨?_, ?_, exists_boundInputs_iff, ?_, ?_, scope.getElem?_values, ?_⟩
  · intro other same
    exact boundInputs_eq_of_ofAction_eq same
  · intro other edits
    exact boundInputs_eq_of_ofAction_eq (Binding.edited_iff.mp edits)
  · intro inputs bound
    constructor
    · intro input
      exact mem_boundInputs_iff bound
    · intro input text
      exact getElem?_boundInputs_eq_some_iff bound
  · intro e
    exact boundInputs_eq_error_iff
  · intro binding relabelled id load action byId
    exact Binding.text_of_relabelled load action byId

/-- A binding that points nowhere does not block another action, where the last binding counts. -/
example : (boundInputs ⟨none, [], [], [], [⟨"close", "id", .loadInput "gone"⟩,
      ⟨"refund", "note", .literal "first"⟩, ⟨"refund", "note", .literal "last"⟩], ⟨[]⟩⟩
      "refund" ⟨[], [], none, .anonymous⟩).toOption.bind (·["note"]?) = some "last" := by
  cbv

end Board

end Runbook

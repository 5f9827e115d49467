import Mathlib.Data.List.Nodup
import Runbook.Proofs.Dict
import Runbook.Proofs.Field.Validation
import Runbook.Proofs.Sql.SameSlots
import Runbook.Proofs.Text.Items

namespace Runbook

theorem Template.single?_eq_some_iff {t : Template} {name : String} :
    t.single? = some name ↔ t.segments = [.placeholder name] := by
  unfold single?
  split
  next known h => simp [h]
  next other =>
    refine iff_of_false (by simp) fun h => ?_
    exact other name h

theorem Template.resolve_single {t : Template} {name text : String} {values : Values}
    (alone : t.segments = [.placeholder name]) (known : values[name]? = some text) :
    t.resolve values = .ok text := by
  simp [resolve, missing, placeholders, fill, segmentText, alone, known, Unresolved.add]

namespace Pair

variable {pair : Pair} {name : String}

/-- The key is the name behind any number of `@`, with white space around. -/
def Declares (pair : Pair) (name : String) : Prop :=
  ∃ front back count, pair.key.toList = front ++ (List.replicate count '@' ++ name.toList) ++ back ∧
    (∀ c ∈ front, Text.isSpace c = true) ∧ (∀ c ∈ back, Text.isSpace c = true) ∧
    Text.Trimmed (List.replicate count '@' ++ name.toList) ∧ name.toList.head? ≠ some '@'

theorem declares_iff : pair.Declares name ↔ Sql.declaredName pair = name := by
  constructor
  · rintro ⟨front, back, count, key, before, after, trimmed, signless⟩
    have bare : (List.replicate count '@' ++ name.toList).dropWhile (· == '@') = name.toList := by
      rw [List.dropWhile_append_of_pos (by simp)]
      cases letters : name.toList with
      | nil => rfl
      | cons c rest =>
        rw [letters] at signless
        exact List.dropWhile_cons_of_neg (by simpa using signless)
    rw [Sql.declaredName, key, Text.trimChars_padded before after trimmed, bare,
      String.ofList_toList]
  · rintro rfl
    obtain ⟨front, back, before, after, whole⟩ := Text.exists_padding pair.key.toList
    have trimmed := Text.trimmed_trimChars pair.key.toList
    generalize cut : Text.trimChars pair.key.toList = core at whole trimmed
    have signs : core.takeWhile (· == '@') =
        List.replicate (core.takeWhile (· == '@')).length '@' :=
      List.eq_replicate_iff.mpr ⟨rfl, fun c hc => by
        simpa using List.all_eq_true.mp List.all_takeWhile c hc⟩
    have name : (Sql.declaredName pair).toList = core.dropWhile (· == '@') := by
      rw [Sql.declaredName, String.toList_ofList, cut]
    have split : List.replicate (core.takeWhile (· == '@')).length '@' ++
        (Sql.declaredName pair).toList = core := by
      rw [← signs, name, List.takeWhile_append_dropWhile]
    rw [← split] at whole trimmed
    refine ⟨front, back, _, whole, before, after, trimmed, fun sign => ?_⟩
    have stops := List.head?_dropWhile_not (· == '@') core
    rw [← name, sign] at stops
    cases stops

instance : Decidable (pair.Declares name) := decidable_of_iff _ declares_iff.symm

theorem decide_declares : decide (pair.Declares name) = (Sql.declaredName pair == name) :=
  decide_eq_decide.mpr declares_iff

end Pair

namespace Field

theorem byLabel?_eq {raw : Field → String} {inputs : List Field} {validated : List Validated}
    (h : List.Forall₂ (fun field v => Gives field (raw field) v) inputs validated)
    (label : String) :
    Validated.byLabel? validated label =
      (inputs.find? (·.label == label)).bind
        fun field => (field.validate (raw field)).toOption := by
  unfold Validated.byLabel?
  induction h with
  | nil => rfl
  | @cons field v inputs validated gives _ ih =>
    rw [List.find?_cons, List.find?_cons, gives.label]
    cases field.label == label with
    | true => simp [gives.value, Except.toOption]
    | false => exact ih

theorem validate_text {field : Field} {most : Option UInt64} {raw : String} {value : TypedValue}
    (kind : field.kind = .text most) (shown : Text.isBlank raw = false)
    (h : field.validate raw = .ok value) : value = .text raw := by
  cases most with
  | none =>
    have read : field.validate raw = .ok (.text raw) := by
      simp [validate, kind, shown, validateText]
    exact (Except.ok.inj (read.symm.trans h)).symm
  | some most =>
    have read : field.validate raw =
        if most.toNat < raw.length then .error (.tooLong most.toNat) else .ok (.text raw) := by
      simp [validate, kind, shown, validateText]
    rw [read] at h
    split at h
    next => cases h
    next =>
      cases h
      rfl

end Field

theorem Validated.placeholders_eq_some {user : User} {validated : List Validated} {v : Validated}
    (distinct : (validated.map Validated.label).Nodup) (h : v ∈ validated) :
    (placeholders user validated)[v.label]? = some v.value.render := by
  refine Dict.getElem?_override_of_eq_some (Dict.getElem?_ofPairs_of_mem ?_ ?_)
  · rwa [List.map_map]
  · exact List.mem_map_of_mem h

namespace Sql

/-- The value that the template of a declaration gives: the typed value of the input that the
template stands for and nothing else, or the text that it resolves to. -/
inductive ValueOf (inputs : List Field) (supplied : Dict String) (values : Values)
    (template : Template) : TypedValue → Prop where
  | typed {field : Field} {value : TypedValue}
      (alone : template.segments = [.placeholder field.label])
      (first : inputs.find? (·.label == field.label) = some field)
      (valid : field.validate (field.entered supplied) = .ok value) :
    ValueOf inputs supplied values template value
  | text {text : String} (other : ∀ field ∈ inputs, template.segments ≠ [.placeholder field.label])
      (resolved : template.resolve values = .ok text) :
    ValueOf inputs supplied values template (.text text)

theorem mem_templatesFor_of_find? {parameters : List Pair} {name : String} {pair : Pair}
    (found : parameters.find? (·.Declares name) = some pair) :
    Template.parse pair.value ∈ templatesFor parameters name := by
  have declares : pair.Declares name := by simpa using List.find?_some found
  have named : (declaredName pair == name) = true := by simpa using Pair.declares_iff.mp declares
  exact List.mem_map_of_mem (List.mem_filter.mpr ⟨List.mem_of_find?_eq_some found, named⟩)

theorem parameterOf_eq_ok {validated : List Validated} {values : Values} {parameters : List Pair}
    {name : String} {parameter : Parameter}
    (h : parameterOf validated (boundOf values parameters name) = .ok parameter) :
    ∃ pair, parameters.find? (·.Declares name) = some pair ∧ parameter.name = name ∧
      parameter.value =
        ((Template.parse pair.value).single?.bind (Validated.byLabel? validated)).getD
          (.text ((Template.parse pair.value).batchText values)) := by
  have declared : (templatesFor parameters name).head? =
      (parameters.find? (·.Declares name)).map fun pair => .parse pair.value := by
    simp only [templatesFor, List.head?_map, List.head?_filter, Pair.decide_declares]
  unfold parameterOf boundOf at h
  dsimp only at h
  cases templates : templatesFor parameters name with
  | nil =>
    rw [templates] at h
    cases h
  | cons template others =>
    rw [templates] at h declared
    obtain ⟨pair, found, same⟩ := Option.map_eq_some_iff.mp declared.symm
    subst same
    rw [List.map_cons] at h
    dsimp only at h
    split at h
    next => cases h
    next =>
      cases h
      exact ⟨pair, found, rfl, rfl⟩

section

variable {inputs : List Field} {supplied : Dict String} {user : User} {validated : List Validated}

theorem valueOf_of_resolve {template : Template} {values : Values} {text : String}
    (valid : Field.validateByLabel inputs supplied = .ok validated)
    (resolved : template.resolve values = .ok text) :
    ValueOf inputs supplied values template
      ((template.single?.bind (Validated.byLabel? validated)).getD (.text text)) := by
  have byLabel := Field.byLabel?_eq (Field.validateByLabel_eq_ok_iff.mp valid)
  cases single : template.single? with
  | none =>
    refine .text (fun field _ alone => ?_) resolved
    rw [Template.single?_eq_some_iff.mpr alone] at single
    cases single
  | some label =>
    have alone := Template.single?_eq_some_iff.mp single
    rw [Option.bind_some, byLabel]
    cases found : inputs.find? (·.label == label) with
    | none =>
      refine .text (fun field member same => ?_) resolved
      have named : label = field.label := by simpa [alone] using same
      have other := List.find?_eq_none.mp found field member
      exact other (by simp [named])
    | some field =>
      have named : field.label = label := by simpa using List.find?_some found
      subst named
      obtain ⟨v, _, gives⟩ := exists_of_forall₂_left
        (Field.validateByLabel_eq_ok_iff.mp valid) (List.mem_of_find?_eq_some found)
      rw [Option.bind_some, gives.value]
      exact .typed alone found gives.value

/-- Where no two inputs share a label, the typed value of a field comes to the text that a
placeholder of its label stands for. -/
theorem resolve_of_valueOf {template : Template} {value : TypedValue}
    (valid : Field.validateByLabel inputs supplied = .ok validated)
    (distinct : (inputs.map Field.label).Nodup)
    (h : ValueOf inputs supplied (Validated.placeholders user validated) template value) :
    template.resolve (Validated.placeholders user validated) = .ok value.render := by
  have gives := Field.validateByLabel_eq_ok_iff.mp valid
  have labels : validated.map Validated.label = inputs.map Field.label :=
    map_eq_of_forall₂ (List.forall₂_map_left_iff.mpr (gives.imp fun _ _ given => given.label))
  cases h with
  | text _ resolved => exact resolved
  | @typed field value alone first known =>
    obtain ⟨v, member, given⟩ := exists_of_forall₂_left gives (List.mem_of_find?_eq_some first)
    obtain rfl : value = v.value := Except.ok.inj (known.symm.trans given.value)
    rw [← labels] at distinct
    have bound : (Validated.placeholders user validated)[v.label]? = some v.value.render :=
      Validated.placeholders_eq_some distinct member
    rw [given.label] at bound
    exact Template.resolve_single alone bound

theorem entered_of_valueOf {values : Values} {template : Template} {value : TypedValue}
    {field : Field} {most : Option UInt64} (distinct : (inputs.map Field.label).Nodup)
    (member : field ∈ inputs) (kind : field.kind = .text most)
    (alone : template.segments = [.placeholder field.label])
    (shown : Text.isBlank (field.entered supplied) = false)
    (h : ValueOf inputs supplied values template value) :
    value = .text (field.entered supplied) := by
  cases h with
  | text other _ => exact absurd alone (other field member)
  | @typed found value alone' first known =>
    have named : found.label = field.label := by simpa [alone] using alone'.symm
    have same : found = field :=
      List.inj_on_of_nodup_map distinct (List.mem_of_find?_eq_some first) member named
    subst same
    exact Field.validate_text kind shown known

end

/-- A parameter as the first declaration of its name has it. Where no two inputs share a label, its
value comes to the text of the template, and the text of an input is bound as it was entered. -/
def Declared (inputs : List Field) (supplied : Dict String) (values : Values)
    (parameters : List Pair) (name : String) (parameter : Parameter) : Prop :=
  parameter.name = name ∧
    ∃ pair, parameters.find? (·.Declares name) = some pair ∧
      ValueOf inputs supplied values (.parse pair.value) parameter.value ∧
      ((inputs.map Field.label).Nodup →
        (Template.parse pair.value).resolve values = .ok parameter.value.render ∧
        ∀ field ∈ inputs, ∀ most, field.kind = .text most →
          (Template.parse pair.value).segments = [.placeholder field.label] →
          Text.isBlank (field.entered supplied) = false →
          parameter.value = .text (field.entered supplied))

theorem compile_raw_parameters {query : RawQuery} {inputs : List Field} {supplied : Dict String}
    {user : User} {schema : Option Schema} {statement : Statement}
    (h : compile (.raw query) inputs supplied user schema = .ok statement) :
    statement.text = (Scan.ofText query.sql).text ∧
      ∃ values, runValues inputs supplied user = .ok values ∧
        List.Forall₂ (Declared inputs supplied values query.parameters)
          (Scan.ofText query.sql).names statement.parameters := by
  obtain ⟨validated, valid, compiled⟩ := compile_eq_ok_iff.mp h
  obtain ⟨_, text, whole, parameters⟩ := compileRaw_eq_ok compiled
  refine ⟨text, Validated.placeholders user validated, by rw [runValues, valid]; rfl, ?_⟩
  have aligned := (List.forall₂_and_left _ _).mpr ⟨whole, parameters⟩
  refine aligned.imp fun name parameter h => ?_
  obtain ⟨known, bound⟩ := h
  obtain ⟨pair, found, named, value⟩ := parameterOf_eq_ok bound
  have resolved := Template.resolve_batchText (known _ (mem_templatesFor_of_find? found))
  have given := valueOf_of_resolve valid resolved
  rw [← value] at given
  refine ⟨named, pair, found, given, fun distinct => ?_⟩
  refine ⟨resolve_of_valueOf valid distinct given, fun field member most kind alone shown => ?_⟩
  exact entered_of_valueOf distinct member kind alone shown given

def ticket : RawQuery :=
  ⟨"select @id, @author, @note", [⟨"@id", "\x7buserId\x7d"⟩, ⟨" note ", "no. \x7buserId\x7d"⟩,
    ⟨"author", "\x7bcurrent_user.id\x7d"⟩]⟩

def ticketInputs : List Field :=
  [⟨"user", "userId", .integer, true, none⟩, ⟨"author", "current_user.id", .text none, true, none⟩]

def ticketSupplied : Dict String := .ofPairs [("userId", "42"), ("current_user.id", " ada ")]

theorem templatesFor_ticket :
    templatesFor ticket.parameters "id" = [⟨[.placeholder "userId"]⟩] ∧
      templatesFor ticket.parameters "author" = [⟨[.placeholder "current_user.id"]⟩] ∧
      templatesFor ticket.parameters "note" =
        [⟨[.literal "no. ", .placeholder "userId"]⟩] := by
  have user : Template.parse "\x7buserId\x7d" = ⟨[.placeholder "userId"]⟩ := by cbv
  have author : Template.parse "\x7bcurrent_user.id\x7d" =
      ⟨[.placeholder "current_user.id"]⟩ := by cbv
  have note : Template.parse "no. \x7buserId\x7d" =
      ⟨[.literal "no. ", .placeholder "userId"]⟩ := by cbv
  have first : ticket.parameters.filter (declaredName · == "id") =
      [⟨"@id", "\x7buserId\x7d"⟩] := by decide
  have second : ticket.parameters.filter (declaredName · == "author") =
      [⟨"author", "\x7bcurrent_user.id\x7d"⟩] := by decide
  have third : ticket.parameters.filter (declaredName · == "note") =
      [⟨" note ", "no. \x7buserId\x7d"⟩] := by decide
  simp only [templatesFor, first, second, third, List.map_cons, List.map_nil, user, author, note,
    and_self]

theorem compile_ticket :
    compile (.raw ticket) ticketInputs ticketSupplied ⟨"u1", "Ada", "ada@x.y"⟩ none =
      .ok ⟨"select $1, $2, $3",
        [⟨"id", .integer "42"⟩, ⟨"author", .text " ada "⟩, ⟨"note", .text "no. 42"⟩]⟩ := by
  have valid : Field.validateByLabel ticketInputs ticketSupplied =
      .ok [⟨"user", "userId", .integer "42"⟩,
        ⟨"author", "current_user.id", .text " ada "⟩] := rfl
  have scan : Scan.ofText ticket.sql = ⟨"select $1, $2, $3", ["id", "author", "note"]⟩ := by
    decide +kernel
  have blank : Text.isBlank ticket.sql = false := by decide
  obtain ⟨id, author, note⟩ := templatesFor_ticket
  refine compile_eq_ok_iff.mpr ⟨_, valid, ?_⟩
  generalize values : Validated.placeholders _ _ = known
  have user : known["userId"]? = some "42" := by rw [← values]; rfl
  have name : known["current_user.id"]? = some " ada " := by rw [← values]; rfl
  have bound : resolveNames known ticket.parameters ["id", "author", "note"] =
      .ok [⟨"id", [⟨[.placeholder "userId"]⟩], ["42"]⟩,
        ⟨"author", [⟨[.placeholder "current_user.id"]⟩], [" ada "]⟩,
        ⟨"note", [⟨[.literal "no. ", .placeholder "userId"]⟩], ["no. 42"]⟩] := by
    refine resolveNames_eq_ok_iff.mpr ⟨?_, ?_⟩
    · simp [id, author, note, Template.missing, Template.placeholders, user, name, Unresolved.add]
    · simp [boundOf, id, author, note, Template.batchText, Template.resolve, Template.missing,
        Template.placeholders, Template.fill, Template.segmentText, user, name, Unresolved.add]
  change compileRaw known _ ticket = _
  simp only [compileRaw, scan, blank, bound, Bool.false_eq_true, if_false, List.filter_cons, id,
    author, note, List.isEmpty_cons, List.filter_nil]
  rfl

/-- An input that is labelled like a placeholder of the user replaces it. -/
theorem compile_raw_parameters_ticket :
    ∃ statement,
      compile (.raw ticket) ticketInputs ticketSupplied ⟨"u1", "Ada", "ada@x.y"⟩ none =
        .ok statement ∧
      statement.text = (Scan.ofText ticket.sql).text ∧
      ∃ values, runValues ticketInputs ticketSupplied ⟨"u1", "Ada", "ada@x.y"⟩ = .ok values ∧
        List.Forall₂ (Declared ticketInputs ticketSupplied values ticket.parameters)
          (Scan.ofText ticket.sql).names statement.parameters :=
  ⟨_, compile_ticket, compile_raw_parameters compile_ticket⟩

end Sql

end Runbook

import Mathlib.Data.List.Nodup
import Runbook.Proofs.Field.Validation

namespace Runbook.Field

variable {raw : Field → String} {fields other : List Field}

theorem validateAll_congr {supplied second : Field → Option String}
    (same : ∀ field ∈ fields, second field = supplied field) :
    validateAll second fields = validateAll supplied fields := by
  have raws : ∀ field ∈ fields, rawValue second field = rawValue supplied field := by
    intro field hf
    rw [rawValue, rawValue, same field hf]
  have errors : errorsOf (rawValue second) fields = errorsOf (rawValue supplied) fields :=
    List.foldl_ext _ _ _ fun errors field hf => by rw [raws field hf]
  have values : valuesOf (rawValue second) fields = valuesOf (rawValue supplied) fields :=
    List.filterMap_congr fun field hf => by rw [raws field hf]
  simp only [validateAll, errors, values]

theorem lastFailure_iff (distinct : (fields.map Field.id).Nodup) {id : String} {e : FieldError} :
    LastFailure raw fields id e ↔
      ∃ field ∈ fields, field.id = id ∧ field.validate (raw field) = .error e := by
  constructor
  · rintro ⟨before, field, after, rfl, named, fails, _⟩
    exact ⟨field, by simp, named, fails⟩
  · rintro ⟨field, hf, named, fails⟩
    obtain ⟨before, after, rfl⟩ := List.append_of_mem hf
    refine ⟨before, field, after, rfl, named, fails, fun second hs same => ?_⟩
    rw [List.map_append, List.map_cons, List.nodup_append] at distinct
    have alone := (List.nodup_cons.mp distinct.2.1).1
    exact absurd (List.mem_map.mpr ⟨second, hs, same.trans named.symm⟩) alone

theorem validateAll_error_of_perm {supplied : Field → Option String} {errors : FieldErrors}
    (distinct : (fields.map Field.id).Nodup) (perm : fields.Perm other)
    (h : validateAll supplied fields = .error errors) :
    validateAll supplied other = .error errors := by
  have distinct' : (other.map Field.id).Nodup := (perm.map Field.id).nodup_iff.mp distinct
  rw [validateAll_eq_error_iff] at h ⊢
  obtain ⟨⟨field, hf, fails⟩, entries⟩ := h
  refine ⟨⟨field, perm.mem_iff.mp hf, fails⟩, fun id e => ?_⟩
  rw [entries, lastFailure_iff distinct, lastFailure_iff distinct']
  simp only [perm.mem_iff]

def given (raw : Field → String) (field : Field) : Validated where
  id := field.id
  label := field.label
  value := (field.validate (raw field)).toOption.getD .null

theorem Gives.eq_given {field : Field} {v : Validated} (h : Gives field (raw field) v) :
    v = given raw field := by
  obtain ⟨id, label, value⟩ := v
  obtain ⟨rfl, rfl, valid⟩ := h
  simp [given, valid, Except.toOption]

theorem gives_given {field : Field} {value : TypedValue}
    (h : field.validate (raw field) = .ok value) : Gives field (raw field) (given raw field) :=
  ⟨rfl, rfl, by simp [given, h, Except.toOption]⟩

theorem eq_map_given_of_forall₂ {values : List Validated}
    (h : List.Forall₂ (fun field v => Gives field (raw field) v) fields values) :
    values = fields.map (given raw) := by
  induction h with
  | nil => rfl
  | cons gives _ ih => rw [List.map_cons, ← gives.eq_given, ← ih]

theorem forall₂_map_given
    (valid : ∀ field ∈ fields, ∃ value, field.validate (raw field) = .ok value) :
    List.Forall₂ (fun field v => Gives field (raw field) v) fields (fields.map (given raw)) := by
  rw [List.forall₂_map_right_iff, List.forall₂_same]
  intro field hf
  obtain ⟨value, h⟩ := valid field hf
  exact gives_given h

theorem validateAll_ok_of_perm {supplied : Field → Option String} {values : List Validated}
    (perm : fields.Perm other) (h : validateAll supplied fields = .ok values) :
    values = fields.map (given (rawValue supplied)) ∧
      validateAll supplied other = .ok (other.map (given (rawValue supplied))) := by
  rw [validateAll_eq_ok_iff] at h ⊢
  refine ⟨eq_map_given_of_forall₂ h, forall₂_map_given fun field hf => ?_⟩
  obtain ⟨v, _, gives⟩ := exists_of_forall₂_left h (perm.mem_iff.mpr hf)
  exact ⟨v.value, gives.value⟩

/-- What is validated for a field: what was supplied under its key, blank or not, else its default,
and else nothing. -/
def takenFor (key : Field → String) (supplied : Dict String) (field : Field) : String :=
  supplied[key field]?.getD (field.default.getD "")

/-- A list of fields is validated field by field, with what was supplied under their keys. -/
structure Fieldwise (key : Field → String)
    (validate : List Field → Dict String → Except FieldErrors (List Validated))
    (fields : List Field) (supplied : Dict String) : Prop where
  refused : (∃ errors, validate fields supplied = .error errors) ↔
    ∃ field ∈ fields, ∃ e, field.validate (takenFor key supplied field) = .error e
  errors : ∀ errors, validate fields supplied = .error errors → ∀ id e, errors[id]? = some e ↔
    ∃ field ∈ fields, field.id = id ∧ field.validate (takenFor key supplied field) = .error e
  values : ∀ values, validate fields supplied = .ok values →
    List.Forall₂ (fun field v => Gives field (takenFor key supplied field) v) fields values
  /-- The errors do not depend on the order. -/
  errorsInOrder : ∀ other errors, fields.Perm other → validate fields supplied = .error errors →
    validate other supplied = .error errors
  valuesInOrder : ∀ values, validate fields supplied = .ok values →
    ∃ give : Field → Validated, values = fields.map give ∧
      ∀ other, fields.Perm other → validate other supplied = .ok (other.map give)
  /-- What is supplied under other keys does not count. -/
  unknown : ∀ second : Dict String, (∀ field ∈ fields, second[key field]? = supplied[key field]?) →
    validate fields second = validate fields supplied

theorem validateAll_fieldwise (key : Field → String) (distinct : (fields.map Field.id).Nodup)
    (supplied : Dict String) :
    Fieldwise key (fun fields supplied => validateAll (fun field => supplied[key field]?) fields)
      fields supplied where
  refused := by
    constructor
    · rintro ⟨errors, h⟩
      exact (validateAll_eq_error_iff.mp h).1
    · rintro ⟨field, hf, e, fails⟩
      cases h : validateAll (fun field => supplied[key field]?) fields with
      | error errors => exact ⟨errors, rfl⟩
      | ok values =>
        obtain ⟨v, _, gives⟩ := exists_of_forall₂_left (validateAll_eq_ok_iff.mp h) hf
        have valid := gives.value
        rw [show rawValue (fun field => supplied[key field]?) field = takenFor key supplied field
          from rfl, fails] at valid
        cases valid
  errors errors h id e :=
    ((validateAll_eq_error_iff.mp h).2 id e).trans (lastFailure_iff distinct)
  values values h := validateAll_eq_ok_iff.mp h
  errorsInOrder other errors perm h := validateAll_error_of_perm distinct perm h
  valuesInOrder values h :=
    ⟨given (takenFor key supplied), (validateAll_ok_of_perm (.refl fields) h).1,
      fun _ perm => (validateAll_ok_of_perm perm h).2⟩
  unknown second same := validateAll_congr same

/-- Fields of different ids are validated one by one, whether values are supplied by label or by
id. -/
theorem validate_fieldwise (distinct : (fields.map Field.id).Nodup) (supplied : Dict String) :
    Fieldwise Field.label validateByLabel fields supplied ∧
      Fieldwise Field.id validateById fields supplied :=
  ⟨validateAll_fieldwise Field.label distinct supplied,
    validateAll_fieldwise Field.id distinct supplied⟩

def address : Field := ⟨"a", "address", .email, true, some "a@b.c"⟩

def number : Field := ⟨"n", "number", .integer, true, none⟩

/-- A blank that was supplied is not replaced by the default, and both failures are reported. -/
theorem validate_fieldwise_blank :
    ([address, number].map Field.id).Nodup ∧
      ∃ errors, validateByLabel [address, number] (.ofPairs [("address", " "), ("number", "x")]) =
        .error errors ∧ errors["a"]? = some .required ∧ errors["n"]? = some .invalidInteger := by
  have distinct : ([address, number].map Field.id).Nodup := by decide
  have fieldwise := (validate_fieldwise distinct
    (.ofPairs [("address", " "), ("number", "x")])).1
  have blank : address.validate (takenFor Field.label
      (.ofPairs [("address", " "), ("number", "x")]) address) = .error .required := by
    decide +kernel
  have letter : number.validate (takenFor Field.label
      (.ofPairs [("address", " "), ("number", "x")]) number) = .error .invalidInteger := by
    decide +kernel
  obtain ⟨errors, h⟩ := fieldwise.refused.mpr ⟨address, by simp, _, blank⟩
  refine ⟨distinct, errors, h, ?_, ?_⟩
  · exact (fieldwise.errors errors h "a" _).mpr ⟨address, by simp, rfl, blank⟩
  · exact (fieldwise.errors errors h "n" _).mpr ⟨number, by simp, rfl, letter⟩

end Runbook.Field

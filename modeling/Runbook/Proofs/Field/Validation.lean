import Mathlib.Data.List.Induction
import Runbook.Field.Validate
import Runbook.Proofs.Results

namespace Runbook.Field

theorem validate_cases (field : Field) (raw : String) :
    (∃ value, field.validate raw = .ok value) ∨ ∃ e, field.validate raw = .error e := by
  cases h : field.validate raw with
  | ok value => exact .inl ⟨value, rfl⟩
  | error e => exact .inr ⟨e, rfl⟩

theorem foldl_errors_isEmpty_iff (raw : Field → String) (fields : List Field)
    (errors : FieldErrors) :
    (fields.foldl (fun errors field =>
        match field.validate (raw field) with
        | .error e => errors.insert field.id e
        | .ok _ => errors) errors).isEmpty = true ↔
      errors.isEmpty = true ∧
        ∀ field ∈ fields, ∃ value, field.validate (raw field) = .ok value := by
  induction fields generalizing errors with
  | nil => simp
  | cons field fields ih =>
    rw [List.foldl_cons, ih]
    rcases field.validate_cases (raw field) with ⟨value, h⟩ | ⟨e, h⟩
    · simp [h]
    · simp [h]

theorem errorsOf_isEmpty_iff {raw : Field → String} {fields : List Field} :
    (errorsOf raw fields).isEmpty = true ↔
      ∀ field ∈ fields, ∃ value, field.validate (raw field) = .ok value :=
  (foldl_errors_isEmpty_iff raw fields ∅).trans (by simp)

structure Gives (field : Field) (raw : String) (validated : Validated) : Prop where
  id : validated.id = field.id
  label : validated.label = field.label
  value : field.validate raw = .ok validated.value

theorem valuesOf_cons {raw : Field → String} {field : Field} {fields : List Field}
    {value : TypedValue} (h : field.validate (raw field) = .ok value) :
    valuesOf raw (field :: fields) = ⟨field.id, field.label, value⟩ :: valuesOf raw fields := by
  simp [valuesOf, h]

theorem forall₂_valuesOf {raw : Field → String} {fields : List Field}
    (valid : ∀ field ∈ fields, ∃ value, field.validate (raw field) = .ok value) :
    List.Forall₂ (fun field v => Gives field (raw field) v) fields (valuesOf raw fields) := by
  induction fields with
  | nil => exact .nil
  | cons field fields ih =>
    obtain ⟨value, hv⟩ := valid field (by simp)
    rw [valuesOf_cons hv]
    exact .cons ⟨rfl, rfl, hv⟩ (ih fun f hf => valid f (List.mem_cons_of_mem _ hf))

theorem eq_valuesOf_of_forall₂ {raw : Field → String} {fields : List Field}
    {values : List Validated}
    (h : List.Forall₂ (fun field v => Gives field (raw field) v) fields values) :
    valuesOf raw fields = values := by
  induction h with
  | nil => rfl
  | @cons field v fields values hv _ ih =>
    rw [valuesOf_cons hv.value, ih, ← hv.id, ← hv.label]

theorem validateAll_eq_ok_iff {supplied : Field → Option String} {fields : List Field}
    {values : List Validated} :
    validateAll supplied fields = .ok values ↔
      List.Forall₂ (fun field v => Gives field (rawValue supplied field) v) fields values := by
  unfold validateAll
  constructor
  · intro h
    dsimp only at h
    split at h
    next nothing =>
      cases h
      exact forall₂_valuesOf (errorsOf_isEmpty_iff.mp nothing)
    next => cases h
  · intro h
    have valid : ∀ field ∈ fields, ∃ value,
        field.validate (rawValue supplied field) = .ok value := by
      intro field hf
      obtain ⟨v, _, hv⟩ := exists_of_forall₂_left h hf
      exact ⟨v.value, hv.value⟩
    rw [if_pos (errorsOf_isEmpty_iff.mpr valid), eq_valuesOf_of_forall₂ h]

/-- The last field of the id that fails has the error. -/
def LastFailure (raw : Field → String) (fields : List Field) (id : String) (e : FieldError) :
    Prop :=
  ∃ before field after, fields = before ++ field :: after ∧ field.id = id ∧
    field.validate (raw field) = .error e ∧
    ∀ other ∈ after, other.id = id → ∃ value, other.validate (raw other) = .ok value

theorem not_lastFailure_nil {raw : Field → String} {id : String} {e : FieldError} :
    ¬LastFailure raw [] id e := by
  rintro ⟨before, field, after, parts, _⟩
  simp at parts

theorem lastFailure_concat {raw : Field → String} {fields : List Field} {field : Field}
    {id : String} {e : FieldError} :
    LastFailure raw (fields ++ [field]) id e ↔
      (field.id = id ∧ field.validate (raw field) = .error e) ∨
      LastFailure raw fields id e ∧
        (field.id = id → ∃ value, field.validate (raw field) = .ok value) := by
  constructor
  · rintro ⟨before, failing, after, parts, named, fails, valid⟩
    rcases List.eq_nil_or_concat after with rfl | ⟨after, last, rfl⟩
    · obtain ⟨rfl, same⟩ := List.append_inj' parts rfl
      cases same
      exact .inl ⟨named, fails⟩
    · have parts : fields ++ [field] = (before ++ failing :: after) ++ [last] := by simpa using parts
      obtain ⟨rfl, same⟩ := List.append_inj' parts rfl
      cases same
      refine .inr ⟨⟨before, failing, after, rfl, named, fails, fun other ho => ?_⟩, ?_⟩
      · exact valid other (by simp [ho])
      · exact valid field (by simp)
  · rintro (⟨named, fails⟩ | ⟨⟨before, failing, after, rfl, named, fails, valid⟩, last⟩)
    · exact ⟨fields, field, [], rfl, named, fails, by simp⟩
    · refine ⟨before, failing, after ++ [field], by simp, named, fails, fun other ho => ?_⟩
      rcases List.mem_append.mp ho with ho | ho
      · exact valid other ho
      · rw [List.mem_singleton.mp ho]
        exact last

theorem errorsOf_concat (raw : Field → String) (fields : List Field) (field : Field) :
    errorsOf raw (fields ++ [field]) =
      match field.validate (raw field) with
      | .error e => (errorsOf raw fields).insert field.id e
      | .ok _ => errorsOf raw fields := by
  rw [errorsOf, List.foldl_append]
  rfl

theorem getElem?_errorsOf_eq_some_iff {raw : Field → String} {fields : List Field} {id : String}
    {e : FieldError} : (errorsOf raw fields)[id]? = some e ↔ LastFailure raw fields id e := by
  induction fields using List.reverseRecOn with
  | nil => simp [errorsOf, not_lastFailure_nil]
  | append_singleton fields field ih =>
    rw [errorsOf_concat, lastFailure_concat, ← ih]
    rcases field.validate_cases (raw field) with ⟨value, h⟩ | ⟨failure, h⟩
    · simp [h]
    · simp only [h, Std.ExtTreeMap.getElem?_insert, Std.LawfulEqOrd.compare_eq_iff_eq]
      by_cases same : field.id = id
      · simp [same]
      · simp [same]

theorem validateAll_eq_error_iff {supplied : Field → Option String} {fields : List Field}
    {errors : FieldErrors} :
    validateAll supplied fields = .error errors ↔
      (∃ field ∈ fields, ∃ e, field.validate (rawValue supplied field) = .error e) ∧
        ∀ id e, errors[id]? = some e ↔ LastFailure (rawValue supplied) fields id e := by
  have all : (∀ id e, errors[id]? = some e ↔ LastFailure (rawValue supplied) fields id e) ↔
      errorsOf (rawValue supplied) fields = errors := by
    simp only [← getElem?_errorsOf_eq_some_iff]
    constructor
    · intro same
      exact Std.ExtTreeMap.ext_getElem? fun id => Option.ext fun e => (same id e).symm
    · rintro rfl id e
      rfl
  have failing : (∃ field ∈ fields, ∃ e, field.validate (rawValue supplied field) = .error e) ↔
      ¬(errorsOf (rawValue supplied) fields).isEmpty = true := by
    rw [errorsOf_isEmpty_iff, not_forall]
    refine exists_congr fun field => ?_
    rcases field.validate_cases (rawValue supplied field) with ⟨value, h⟩ | ⟨e, h⟩
    · simp [h]
    · simp [h]
  rw [all, failing]
  unfold validateAll
  dsimp only
  split
  next nothing => simp [nothing]
  next nonempty => simp [nonempty]

def entered (supplied : Dict String) (field : Field) : String :=
  supplied[field.label]?.getD field.initial

theorem validateByLabel_eq_ok_iff {inputs : List Field} {supplied : Dict String}
    {validated : List Validated} :
    validateByLabel inputs supplied = .ok validated ↔
      List.Forall₂ (fun field v => Gives field (field.entered supplied) v) inputs validated :=
  validateAll_eq_ok_iff

theorem validateByLabel_eq_error_iff {inputs : List Field} {supplied : Dict String}
    {errors : FieldErrors} :
    validateByLabel inputs supplied = .error errors ↔
      (∃ field ∈ inputs, ∃ e, field.validate (field.entered supplied) = .error e) ∧
        ∀ id e, errors[id]? = some e ↔ LastFailure (entered supplied) inputs id e :=
  validateAll_eq_error_iff

end Runbook.Field

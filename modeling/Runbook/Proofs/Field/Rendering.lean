import Runbook.Proofs.Date
import Runbook.Proofs.Decimal

namespace Runbook

theorem Decimal.same_refl (n : Decimal) : n.same n := rfl

/-- Equality of values, for currencies that of their numbers. -/
def TypedValue.Same : TypedValue → TypedValue → Prop
  | .currency m, .currency n => m.same n
  | value, other => value = other

theorem TypedValue.Same.refl (value : TypedValue) : value.Same value := by
  cases value with
  | currency n => exact n.same_refl
  | _ => rfl

namespace Field

def shown (kind : FieldKind) (raw : String) : String :=
  if kind = .boolean then if raw = "true" then "true" else "false"
  else if Text.isBlank raw then ""
  else if kind = .currency ∧ (raw = "0.0" ∨ raw = "0.00") then "0"
  else raw

theorem text_of_isAmount {raw : String} {n : Decimal} (pattern : isAmount raw.toList = true)
    (h : Decimal.ofText? raw = some n) : n.text = raw ∨ raw = "0.0" ∨ raw = "0.00" := by
  rcases Decimal.chars_of_ofChars? pattern h with same | short | long
  · refine .inl ?_
    rw [Decimal.text, same, String.ofList_toList]
  · exact .inr (.inl (String.toList_injective short))
  · exact .inr (.inr (String.toList_injective long))

/-- A text that is not blank is validated as a value of this very text, unless it is a currency of
nothing with places. -/
theorem render_of_validateText {kind : FieldKind} {raw : String} {value : TypedValue}
    (h : validateText kind raw = .ok value) (other : kind ≠ .boolean) :
    value.render = raw ∨ kind = .currency ∧ (raw = "0.0" ∨ raw = "0.00") := by
  unfold validateText at h
  split at h
  case h_1 | h_2 | h_4 =>
    split at h
    next => cases h; exact .inl rfl
    next => cases h
  case h_3 =>
    split at h
    next pattern =>
      split at h
      next n read =>
        cases h
        exact (text_of_isAmount pattern read).imp_right fun long => ⟨rfl, long⟩
      next => cases h
    next => cases h
  case h_5 =>
    split at h
    next pattern =>
      split at h
      next date read =>
        cases h
        refine .inl ?_
        rw [TypedValue.render, Date.text, Date.chars_of_ofChars? pattern read, String.ofList_toList]
      next => cases h
    next => cases h
  case h_6 =>
    split at h
    next => cases h
    next => cases h; exact .inl rfl
  case h_7 => cases h; exact .inl rfl
  case h_8 => exact absurd rfl other

theorem nothing_validated {raw : String} (long : raw = "0.0" ∨ raw = "0.00") :
    ∃ n : Decimal, validateText .currency raw = .ok (.currency n) ∧ n.text = "0" ∧
      n.coefficient = 0 := by
  rcases long with rfl | rfl
  · exact ⟨⟨0, 1⟩, rfl, rfl, rfl⟩
  · exact ⟨⟨0, 2⟩, rfl, rfl, rfl⟩

theorem same_nothing {n : Decimal} (h : n.coefficient = 0) : Decimal.same ⟨0, 0⟩ n := by
  simp [Decimal.same, h]

theorem validate_eq_ok {field : Field} {raw : String} {value : TypedValue}
    (h : field.validate raw = .ok value) :
    field.kind = .boolean ∧ value = .boolean (raw == "true") ∨
    field.kind ≠ .boolean ∧ Text.isBlank raw = true ∧ field.required = false ∧ value = .null ∨
    field.kind ≠ .boolean ∧ Text.isBlank raw = false ∧ validateText field.kind raw = .ok value := by
  unfold validate at h
  split at h
  next boolean =>
    cases h
    exact .inl ⟨boolean, rfl⟩
  next other =>
    split at h
    next blank =>
      split at h
      next => cases h
      next optional =>
        cases h
        exact .inr (.inl ⟨other, blank, by simpa using optional, rfl⟩)
    next filled => exact .inr (.inr ⟨other, by simpa using filled, h⟩)

theorem validate_filled {field : Field} {raw : String} (other : field.kind ≠ .boolean)
    (filled : Text.isBlank raw = false) : field.validate raw = validateText field.kind raw := by
  rw [validate, if_neg other, if_neg (by simp [filled])]

/-- A validated value shows what was entered, and every field of the same kind that is not stricter
takes this text for the same value. -/
theorem validate_render {field : Field} {raw : String} {value : TypedValue}
    (h : field.validate raw = .ok value) :
    value.render = shown field.kind raw ∧
      ∀ second : Field, second.kind = field.kind →
        (second.required = true → field.required = true) →
        ∃ again, second.validate value.render = .ok again ∧ again.Same value := by
  rcases validate_eq_ok h with ⟨boolean, rfl⟩ | ⟨other, blank, optional, rfl⟩ |
    ⟨other, filled, valid⟩
  · -- The two texts of booleans are read back.
    have text : (TypedValue.boolean (raw == "true")).render =
        if raw = "true" then "true" else "false" := by
      simp [TypedValue.render]
    refine ⟨by rw [text, shown, if_pos boolean], fun second kind _ => ?_⟩
    refine ⟨.boolean (raw == "true"), ?_, .refl _⟩
    rw [validate, if_pos (kind.trans boolean), text]
    by_cases yes : raw = "true" <;> simp [yes]
  · refine ⟨by rw [shown, if_neg other, if_pos blank]; rfl, fun second kind lax => ?_⟩
    have optional : second.required = false := by
      cases strict : second.required with
      | true => exact absurd (lax strict) (by simp [optional])
      | false => rfl
    refine ⟨.null, ?_, .refl _⟩
    rw [validate, kind, if_neg other, optional]
    rfl
  · by_cases long : field.kind = .currency ∧ (raw = "0.0" ∨ raw = "0.00")
    · obtain ⟨n, validated, text, nothing⟩ := nothing_validated long.2
      rw [long.1, validated] at valid
      cases valid
      refine ⟨?_, fun second kind _ => ⟨.currency ⟨0, 0⟩, ?_, same_nothing nothing⟩⟩
      · rw [shown, if_neg other, if_neg (by simp [filled]), if_pos long, TypedValue.render, text]
      · rw [TypedValue.render, text, validate_filled (kind ▸ other) rfl, kind, long.1]
        rfl
    · have text := (render_of_validateText valid other).resolve_right long
      rw [text]
      refine ⟨?_, fun second kind _ => ⟨value, ?_, .refl _⟩⟩
      · rw [shown, if_neg other, if_neg (by simp [filled]), if_neg long]
      · rw [validate_filled (kind ▸ other) filled, kind, valid]

def price : Field := ⟨"p", "price", .currency, true, none⟩

/-- A price of nothing is substituted without its places, and taken by an optional field. -/
theorem validate_render_price :
    price.validate "0.00" = .ok (.currency ⟨0, 2⟩) ∧
      (TypedValue.currency ⟨0, 2⟩).render = "0" ∧
      ∃ again, Field.validate { price with required := false } "0" = .ok again ∧
        again.Same (.currency ⟨0, 2⟩) := by
  have valid : price.validate "0.00" = .ok (.currency ⟨0, 2⟩) := rfl
  obtain ⟨text, taken⟩ := validate_render valid
  exact ⟨valid, text, taken { price with required := false } rfl fun _ => rfl⟩

end Field

end Runbook

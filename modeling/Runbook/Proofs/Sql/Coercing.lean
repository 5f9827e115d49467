import Runbook.Proofs.Date
import Runbook.Proofs.Decimal.Printing
import Runbook.Proofs.Text.Items
import Runbook.Sql.Schema

namespace Runbook

/-- Equality of values, for decimals that of their numbers. -/
def TypedValue.SameNumber : TypedValue → TypedValue → Prop
  | .decimal m, .decimal n => m.same n
  | value, other => value = other

theorem TypedValue.SameNumber.refl (value : TypedValue) : value.SameNumber value := by
  cases value with
  | decimal n => exact Eq.refl (n.coefficient * _)
  | _ => rfl

namespace ColumnKind

theorem coerce_eq_ok_iff {kind : ColumnKind} {raw : String} {value : TypedValue} :
    kind.coerce raw = .ok value ↔ kind.value? raw = some value := by
  unfold coerce
  cases kind.value? raw with
  | none => simp
  | some found => simp

theorem value?_congr {kind : ColumnKind} (other : kind ≠ .text) {raw second : String}
    (same : Text.trimChars raw.toList = Text.trimChars second.toList) :
    kind.value? raw = kind.value? second := by
  cases kind with
  | text => exact absurd rfl other
  | _ => simp only [value?, same]

theorem value?_around {kind : ColumnKind} (other : kind ≠ .text) {before after : List Char}
    (raw : String) (front : ∀ c ∈ before, Text.isSpace c = true)
    (back : ∀ c ∈ after, Text.isSpace c = true) :
    kind.value? (.ofList (before ++ raw.toList ++ after)) = kind.value? raw := by
  refine value?_congr other ?_
  rw [String.toList_ofList, Text.trimChars_around raw.toList front back]

theorem integer_eq_some {raw : String} {value : TypedValue}
    (h : ColumnKind.integer.value? raw = some value) :
    value = .integer (.ofList (Text.trimChars raw.toList)) ∧
      ∃ n, Text.signedWord? 64 (Text.trimChars raw.toList) = some n := by
  obtain ⟨n, word, rfl⟩ := Option.map_eq_some_iff.mp h
  exact ⟨rfl, n, word⟩

theorem integer_again {raw : String} {value : TypedValue}
    (h : ColumnKind.integer.value? raw = some value) :
    ColumnKind.integer.value? value.render = some value := by
  obtain ⟨rfl, n, word⟩ := integer_eq_some h
  have kept : Text.trimChars (String.ofList (Text.trimChars raw.toList)).toList =
      Text.trimChars raw.toList := by
    rw [String.toList_ofList, (Text.trimmed_trimChars raw.toList).trimChars_eq]
  exact (value?_congr (by decide) kept).trans h

theorem numeric_again {raw : String} {value : TypedValue}
    (h : ColumnKind.numeric.value? raw = some value) :
    ∃ again, ColumnKind.numeric.value? value.render = some again ∧ again.SameNumber value := by
  obtain ⟨n, read, rfl⟩ := Option.map_eq_some_iff.mp h
  have range := Decimal.inRange_of_ofChars? read
  obtain ⟨again, printed, same⟩ := Decimal.exists_ofChars?_chars range
  have kept : Text.trimChars n.text.toList = n.chars := by
    rw [Decimal.text, String.toList_ofList]
    exact Text.trimChars_of_not_isSpace fun _ => Decimal.not_isSpace_of_mem_chars range
  refine ⟨.decimal again, ?_, same⟩
  simp only [TypedValue.render, value?, kept, printed, Option.map_some]

theorem date_again {raw : String} {value : TypedValue}
    (h : ColumnKind.date.value? raw = some value) :
    ColumnKind.date.value? value.render = some value := by
  obtain ⟨date, read, rfl⟩ := Option.map_eq_some_iff.mp h
  have kept : Text.trimChars date.text.toList = date.chars := by
    rw [Date.text, String.toList_ofList]
    exact Text.trimChars_of_not_isSpace fun _ => Date.not_isSpace_of_mem_chars
  simp only [TypedValue.render, value?, kept, Date.ofChars?_chars, Option.map_some]

theorem boolean_again {raw : String} {value : TypedValue}
    (h : ColumnKind.boolean.value? raw = some value) :
    ColumnKind.boolean.value? value.render = some value := by
  obtain ⟨yes, rfl⟩ : ∃ yes, value = .boolean yes := by
    unfold value? at h
    dsimp only at h
    split at h
    case h_5 => cases h
    all_goals
      cases h
      exact ⟨_, rfl⟩
  cases yes with
  | true => rfl
  | false => rfl

/-- The text of a coerced value is coerced to the same value. -/
theorem value?_render {kind : ColumnKind} {raw : String} {value : TypedValue}
    (h : kind.value? raw = some value) :
    ∃ again, kind.value? value.render = some again ∧ again.SameNumber value := by
  cases kind with
  | integer => exact ⟨value, integer_again h, .refl value⟩
  | numeric => exact numeric_again h
  | boolean => exact ⟨value, boolean_again h, .refl value⟩
  | date => exact ⟨value, date_again h, .refl value⟩
  | text =>
    cases h
    exact ⟨_, rfl, .refl _⟩

/-- The value is canonical for a text: its own text is coerced to it, and an integer, which only a
column of integers has, is a word of the number that the trimmed text denotes. -/
structure Canonical (kind : ColumnKind) (raw : String) (value : TypedValue) : Prop where
  again : ∃ again, kind.coerce value.render = .ok again ∧ again.SameNumber value
  integer : kind = .integer ↔ ∃ digits, value = .integer digits
  word : kind = .integer →
    ∃ n, Text.Denotes (Text.trimChars raw.toList) n ∧ value.int64? = some n

theorem integer_iff {kind : ColumnKind} {raw : String} {value : TypedValue}
    (h : kind.value? raw = some value) :
    kind = .integer ↔ ∃ digits, value = .integer digits := by
  constructor
  · rintro rfl
    exact ⟨_, (integer_eq_some h).1⟩
  · rintro ⟨digits, rfl⟩
    cases kind with
    | integer => rfl
    | numeric | date =>
      obtain ⟨_, _, other⟩ := Option.map_eq_some_iff.mp h
      cases other
    | boolean =>
      unfold value? at h
      dsimp only at h
      split at h
      all_goals cases h
    | text => cases h

theorem canonical_of_value? {kind : ColumnKind} {raw : String} {value : TypedValue}
    (h : kind.value? raw = some value) : Canonical kind raw value where
  again := by
    obtain ⟨again, coerced, same⟩ := value?_render h
    exact ⟨again, coerce_eq_ok_iff.mpr coerced, same⟩
  integer := integer_iff h
  word := by
    rintro rfl
    obtain ⟨rfl, n, word⟩ := integer_eq_some h
    refine ⟨n, (Text.signedWord?_eq_some_iff.mp word).1, ?_⟩
    rw [TypedValue.int64?, String.toList_ofList, word]

/-- Coercion gives canonical values, and white space around a text changes neither whether there is
a value nor which, unless the column is one of text. -/
theorem coerce_canonical (kind : ColumnKind) (raw : String) :
    (∀ value, kind.coerce raw = .ok value → Canonical kind raw value) ∧
      ∀ before after : List Char, kind ≠ .text → (∀ c ∈ before, Text.isSpace c = true) →
        (∀ c ∈ after, Text.isSpace c = true) →
        ∀ value, kind.coerce (.ofList (before ++ raw.toList ++ after)) = .ok value ↔
          kind.coerce raw = .ok value := by
  constructor
  · exact fun value coerced => canonical_of_value? (coerce_eq_ok_iff.mp coerced)
  · intro before after other front back value
    rw [coerce_eq_ok_iff, coerce_eq_ok_iff, value?_around other raw front back]

/-- A number close to nothing is printed in another way than it was written, and is the same. -/
theorem coerce_canonical_numeric :
    ColumnKind.numeric.coerce " 12e-9\n" = .ok (.decimal ⟨12, 9⟩) ∧
      (TypedValue.decimal ⟨12, 9⟩).render = "1.2E-8" ∧
      Canonical .numeric "12e-9" (.decimal ⟨12, 9⟩) := by
  have coerced : ColumnKind.numeric.coerce "12e-9" = .ok (.decimal ⟨12, 9⟩) := by decide +kernel
  obtain ⟨canonical, around⟩ := coerce_canonical .numeric "12e-9"
  have padded := (around [' '] ['\n'] (by decide) (by simp [Text.isSpace]) (by simp [Text.isSpace])
    _).mpr coerced
  exact ⟨padded, by decide +kernel, canonical _ coerced⟩

end ColumnKind

end Runbook

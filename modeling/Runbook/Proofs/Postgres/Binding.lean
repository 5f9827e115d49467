import Runbook.Postgres.Binding
import Runbook.Proofs.Decimal
import Runbook.Proofs.Field.Rendering
import Runbook.Sql.Schema

namespace Runbook

open Text (Denotes)

theorem Text.Denotes.signed {s : List Char} {n : Int} (h : Denotes s n) : Decimal.Signed s := by
  cases h with
  | plain _ ascii => exact .plain (all_isAnyDigit ascii)
  | plus _ ascii => exact .plus (all_isAnyDigit ascii)
  | minus _ ascii => exact .minus (all_isAnyDigit ascii)

def Text.Ascii (s : List Char) : Prop := ∀ c ∈ s, isAnyDigit c = true → isDigit c = true

theorem Text.Denotes.ascii {s : List Char} {n : Int} (h : Denotes s n) : Ascii s := by
  intro c hc digit
  cases h with
  | plain _ ascii => exact ascii c hc
  | plus _ ascii =>
    refine (List.mem_cons.mp hc).elim (fun same => ?_) (ascii c)
    exact absurd same (ne_of_isAnyDigit digit (by decide))
  | minus _ ascii =>
    refine (List.mem_cons.mp hc).elim (fun same => ?_) (ascii c)
    exact absurd same (ne_of_isAnyDigit digit (by decide))

theorem Field.signed_of_isInteger {s : List Char} (h : isInteger s = true) : Decimal.Signed s := by
  unfold isInteger at h
  split at h
  all_goals rw [Bool.and_eq_true] at h
  next => exact .minus h.2
  next => exact .plain h.2

theorem Field.denotes_of_isInteger {s : List Char} (h : isInteger s = true) (ascii : Text.Ascii s) :
    ∃ n, Denotes s n := by
  unfold isInteger at h
  split at h
  all_goals
    simp only [Bool.and_eq_true, decide_eq_true_eq, List.all_eq_true] at h
    obtain ⟨ne, digits⟩ := h
  next => exact ⟨_, .minus ne fun c hc => ascii c (List.mem_cons_of_mem _ hc) (digits c hc)⟩
  next => exact ⟨_, .plain ne fun c hc => ascii c hc (digits c hc)⟩

def IsWord (n : Int) : Prop := -2 ^ 63 ≤ n ∧ n < 2 ^ 63

theorem word_eq_some_iff {s : List Char} {n : Int} :
    Text.signedWord? 64 s = some n ↔ Denotes s n ∧ IsWord n :=
  Text.signedWord?_eq_some_iff

/-- Where an integer comes from: a field that accepted it, or the type of a column. -/
inductive Accepted (digits : String) : Prop where
  | entered {field : Field} {raw : String} (kind : field.kind = .integer)
      (valid : field.validate raw = .ok (.integer digits))
  | coerced {raw : String}
      (valid : ColumnKind.coerce .integer raw = .ok (.integer digits))

theorem isInteger_of_validate {field : Field} {raw digits : String} (kind : field.kind = .integer)
    (valid : field.validate raw = .ok (.integer digits)) :
    Field.isInteger digits.toList = true := by
  rcases Field.validate_eq_ok valid with ⟨_, h⟩ | ⟨_, _, _, h⟩ | ⟨_, _, h⟩
  · cases h
  · cases h
  · rw [kind, Field.validateText] at h
    split at h
    next pattern => cases h; exact pattern
    next => cases h

theorem denotes_of_coerce {raw digits : String}
    (valid : ColumnKind.coerce .integer raw = .ok (.integer digits)) :
    ∃ n, Denotes digits.toList n ∧ IsWord n := by
  unfold ColumnKind.coerce at valid
  split at valid
  next value found =>
    cases valid
    obtain ⟨n, word, same⟩ := Option.map_eq_some_iff.mp found
    cases same
    exact ⟨n, by rw [String.toList_ofList]; exact word_eq_some_iff.mp word⟩
  next => cases valid

theorem Accepted.signed {digits : String} (h : Accepted digits) : Decimal.Signed digits.toList := by
  cases h with
  | entered kind valid => exact Field.signed_of_isInteger (isInteger_of_validate kind valid)
  | coerced valid =>
    obtain ⟨_, denotes, _⟩ := denotes_of_coerce valid
    exact denotes.signed

theorem Accepted.denotes_iff {digits : String} (h : Accepted digits) :
    (∃ n, Denotes digits.toList n) ↔ Text.Ascii digits.toList := by
  refine ⟨fun ⟨_, denotes⟩ => denotes.ascii, fun ascii => ?_⟩
  cases h with
  | entered kind valid => exact Field.denotes_of_isInteger (isInteger_of_validate kind valid) ascii
  | coerced valid =>
    obtain ⟨n, denotes, _⟩ := denotes_of_coerce valid
    exact ⟨n, denotes⟩

namespace Postgres.Value

inductive Binds (s : List Char) : Except BindFault Value → Prop where
  | word {n : Int} (denotes : Denotes s n) (fits : IsWord n) : Binds s (.ok (.int8 n))
  | numeric {n : Int} (denotes : Denotes s n) (beyond : ¬ IsWord n)
      (few : (Nat.toDigits 10 n.natAbs).length ≤ 131072) : Binds s (.ok (.numeric ⟨n, 0⟩))
  | tooLong {n : Int} (denotes : Denotes s n) (beyond : ¬ IsWord n)
      (many : 131072 < (Nat.toDigits 10 n.natAbs).length) : Binds s (.error .numericRange)
  | foreign (script : ¬ Text.Ascii s) : Binds s (.error .digits)

theorem ofDecimal_whole (n : Int) :
    ofDecimal ⟨n, 0⟩ = if (Nat.toDigits 10 n.natAbs).length ≤ 131072 then .ok (.numeric ⟨n, 0⟩)
      else .error .numericRange := by
  have positive := Nat.length_toDigits_pos (b := 10) (n := n.natAbs)
  have groups : weight ⟨n, 0⟩ = ((Nat.toDigits 10 n.natAbs).length - 1) / 4 := by
    unfold weight
    rw [if_neg (by dsimp only; omega), Int.tdiv_eq_ediv_of_nonneg (by dsimp only; omega)]
    simp
  have bound : Nat.pow 2 15 = 32768 := rfl
  unfold ofDecimal
  rw [groups, bound]
  dsimp only
  congr 1
  rw [eq_iff_iff]
  omega

theorem ofTyped_of_word {digits : String} {n : Int} (denotes : Denotes digits.toList n)
    (fits : IsWord n) : ofTyped (.integer digits) = .ok (.int8 n) := by
  rw [ofTyped, TypedValue.int64?, word_eq_some_iff.mpr ⟨denotes, fits⟩]

theorem ofTyped_beyond {digits : String} (signed : Decimal.Signed digits.toList)
    (beyond : ∀ n, Denotes digits.toList n → ¬ IsWord n) :
    ofTyped (.integer digits) =
      match Text.integer? digits.toList with
      | some n => ofDecimal ⟨n, 0⟩
      | none => .error .digits := by
  have nothing : Text.signedWord? 64 digits.toList = none :=
    Option.eq_none_iff_forall_ne_some.mpr fun n word =>
      beyond n (word_eq_some_iff.mp word).1 (word_eq_some_iff.mp word).2
  rw [ofTyped, TypedValue.int64?, nothing, Decimal.ofText?, signed.ofChars?]
  cases Text.integer? digits.toList <;> rfl

/-- An accepted integer is the word that it denotes if there is one, and a decimal number if its
digits are of ASCII. Such digits are always bound, unless there are too many for the database; other
digits never are. -/
theorem binds_accepted {digits : String} (accepted : Accepted digits) :
    (∀ n, (TypedValue.integer digits).int64? = some n ↔ Denotes digits.toList n ∧ IsWord n) ∧
    (∀ d, Decimal.ofText? digits = some d ↔ ∃ n, Denotes digits.toList n ∧ d = ⟨n, 0⟩) ∧
    ((∃ n, Denotes digits.toList n) ↔ Text.Ascii digits.toList) ∧
    Binds digits.toList (ofTyped (.integer digits)) ∧
    ∀ raw, ColumnKind.coerce .integer raw = .ok (.integer digits) →
      ∃ n, ofTyped (.integer digits) = .ok (.int8 n) := by
  refine ⟨fun n => word_eq_some_iff, fun d => ?decimal, accepted.denotes_iff, ?binds, ?coerced⟩
  case decimal =>
    rw [Decimal.ofText?, accepted.signed.ofChars?, Option.map_eq_some_iff]
    exact exists_congr fun n => and_congr Text.integer?_eq_some_iff eq_comm
  case binds =>
    by_cases word : ∃ n, Denotes digits.toList n ∧ IsWord n
    · obtain ⟨n, denotes, fits⟩ := word
      rw [ofTyped_of_word denotes fits]
      exact .word denotes fits
    · have beyond : ∀ n, Denotes digits.toList n → ¬ IsWord n := fun n denotes fits =>
        word ⟨n, denotes, fits⟩
      rw [ofTyped_beyond accepted.signed beyond]
      cases read : Text.integer? digits.toList with
      | none =>
        refine .foreign fun ascii => ?_
        obtain ⟨n, denotes⟩ := accepted.denotes_iff.mpr ascii
        rw [Text.integer?_eq_some_iff.mpr denotes] at read
        cases read
      | some n =>
        have denotes := Text.integer?_eq_some_iff.mp read
        dsimp only
        rw [ofDecimal_whole]
        split
        next few => exact .numeric denotes (beyond n denotes) few
        next many => exact .tooLong denotes (beyond n denotes) (Nat.lt_of_not_le many)
  case coerced =>
    intro raw valid
    obtain ⟨n, denotes, fits⟩ := denotes_of_coerce valid
    exact ⟨n, ofTyped_of_word denotes fits⟩

def count : Field := ⟨"n", "count", .integer, true, none⟩

/-- The first number beyond the words is bound with all its digits. -/
theorem binds_accepted_beyond :
    count.validate "9223372036854775808" = .ok (.integer "9223372036854775808") ∧
      (TypedValue.integer "9223372036854775808").int64? = none ∧
      ofTyped (.integer "9223372036854775808") = .ok (.numeric ⟨9223372036854775808, 0⟩) ∧
      Binds "9223372036854775808".toList (ofTyped (.integer "9223372036854775808")) := by
  have valid : count.validate "9223372036854775808" = .ok (.integer "9223372036854775808") := rfl
  obtain ⟨_, _, _, binds, _⟩ := binds_accepted (.entered (rfl : count.kind = .integer) valid)
  exact ⟨valid, by decide +kernel, by decide +kernel, binds⟩

/-- A field takes a digit of another script for an integer, which is then neither a word nor a
decimal number, and cannot be bound. -/
theorem count_foreign :
    count.validate "５" = .ok (.integer "５") ∧ (TypedValue.integer "５").int64? = none ∧
      Decimal.ofText? "５" = none ∧ ofTyped (.integer "５") = .error .digits := by
  decide +kernel

end Postgres.Value

end Runbook

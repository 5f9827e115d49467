import Mathlib.Data.List.TakeWhile
import Runbook.Field.Validate
import Runbook.Proofs.Text.Items
import Runbook.Proofs.Text.Numerals

namespace Runbook

namespace Date

theorem trimStartChars_cons {c : Char} (s : List Char) (h : Text.isSpace c = false) :
    Text.trimStartChars (c :: s) = c :: s :=
  Text.trimStartChars_of_first fun d first => by
    cases first
    exact h

theorem trimStartChars_digits {digits : List Char} (all : digits.all Text.isAnyDigit = true)
    (nonempty : digits ≠ []) (rest : List Char) :
    Text.trimStartChars (digits ++ rest) = digits ++ rest := by
  cases digits with
  | nil => exact absurd rfl nonempty
  | cons c digits =>
    have digit := List.all_eq_true.mp all c (List.mem_cons_self ..)
    exact trimStartChars_cons _ (Text.not_isSpace_of_isAnyDigit digit)

theorem span_digits {digits rest : List Char} (ascii : digits.all Text.isDigit = true)
    (stop : ∀ c ∈ rest.head?, Text.isDigit c = false) :
    (digits ++ rest).takeWhile Text.isDigit = digits ∧
      (digits ++ rest).dropWhile Text.isDigit = rest := by
  have all := List.all_eq_true.mp ascii
  rw [List.takeWhile_append_of_pos all, List.dropWhile_append_of_pos all]
  cases rest with
  | nil => simp
  | cons c rest => simp [stop c rfl]

theorem number?_eq_some {most n : Nat} (digits rest : List Char) {left : List Char}
    (all : digits.all Text.isAnyDigit = true) (nonempty : digits ≠ []) (few : digits.length ≤ most)
    (stop : ∀ c ∈ rest.head?, Text.isAnyDigit c = false)
    (next : ∀ c ∈ left.head?, Text.isAnyDigit c = false)
    (h : number? most (digits ++ rest) = some (n, left)) :
    digits.all Text.isDigit = true ∧ n = Text.digitsFrom 0 digits ∧ left = rest := by
  have ends : rest.takeWhile Text.isDigit = [] := by
    cases rest with
    | nil => rfl
    | cons c rest =>
      refine List.takeWhile_cons_of_neg fun digit => ?_
      have other := stop c rfl
      rw [Text.isAnyDigit_of_isDigit digit] at other
      cases other
  have taken : (digits ++ rest).takeWhile Text.isDigit = digits.takeWhile Text.isDigit := by
    rw [List.takeWhile_append, ends]
    split
    next whole => simp [List.IsPrefix.eq_of_length (List.takeWhile_prefix _) whole]
    next => rfl
  have within : ((digits ++ rest).takeWhile Text.isDigit).take most =
      digits.takeWhile Text.isDigit := by
    rw [taken]
    exact List.take_of_length_le (Nat.le_trans (List.takeWhile_prefix _).length_le few)
  have behind : (digits ++ rest).drop (digits.takeWhile Text.isDigit).length =
      digits.dropWhile Text.isDigit ++ rest := by
    have parts := List.takeWhile_append_dropWhile (p := Text.isDigit) (l := digits)
    calc (digits ++ rest).drop (digits.takeWhile Text.isDigit).length
      _ = (digits.takeWhile Text.isDigit ++ (digits.dropWhile Text.isDigit ++ rest)).drop
          (digits.takeWhile Text.isDigit).length := by rw [← List.append_assoc, parts]
      _ = digits.dropWhile Text.isDigit ++ rest := List.drop_left
  simp only [number?, trimStartChars_digits all nonempty, within, behind, Option.map_eq_some_iff,
    Prod.mk.injEq] at h
  obtain ⟨_, read, rfl, rfl⟩ := h
  -- Were a digit of another script left, it would stand in front.
  have nothing : digits.dropWhile Text.isDigit = [] := by
    cases left : digits.dropWhile Text.isDigit with
    | nil => rfl
    | cons c others =>
      rw [left] at next
      have digit := List.all_eq_true.mp all c
        (List.dropWhile_subset _ (left ▸ List.mem_cons_self ..))
      rw [next c rfl] at digit
      cases digit
  have whole : digits.takeWhile Text.isDigit = digits := by
    conv_rhs => rw [← List.takeWhile_append_dropWhile (p := Text.isDigit) (l := digits), nothing,
      List.append_nil]
  rw [whole] at read
  obtain ⟨_, ascii, value⟩ := Text.natural?_eq_some_iff.mp read
  exact ⟨ascii, value.symm, by rw [nothing, List.nil_append]⟩

theorem hyphen?_eq_some {s rest : List Char} (h : hyphen? s = some rest) : s = '-' :: rest := by
  unfold hyphen? at h
  split at h
  next => cases h; rfl
  next => cases h

theorem padded_digitsFrom {digits : List Char} (h : digits.all Text.isDigit = true)
    (nonempty : digits ≠ []) : padded digits.length (Text.digitsFrom 0 digits) = digits :=
  Text.zeros_toDigits h nonempty

theorem year?_digits {c : Char} {s : List Char} (digit : Text.isAnyDigit c = true) :
    year? (c :: s) = (number? 4 (c :: s)).map fun (n, rest) => ((n : Int), rest) := by
  have untrimmed := trimStartChars_cons s (Text.not_isSpace_of_isAnyDigit digit)
  unfold year?
  dsimp only
  split
  next minus =>
    rw [untrimmed] at minus
    cases minus
    cases digit
  next plus =>
    rw [untrimmed] at plus
    cases plus
    cases digit
  next => rw [untrimmed]

theorem ofChars?_eq_some {s : List Char} {date : Date} (h : ofChars? s = some date) :
    ∃ year month day behindYear behindMonth, year? s = some (year, '-' :: behindYear) ∧
      number? 2 behindYear = some (month, '-' :: behindMonth) ∧
      number? 2 behindMonth = some (day, []) ∧ ofParts? year month day = some date := by
  obtain ⟨⟨year, s₁⟩, hyear, h⟩ := Option.bind_eq_some_iff.mp h
  obtain ⟨s₂, first, h⟩ := Option.bind_eq_some_iff.mp h
  obtain ⟨⟨month, s₃⟩, hmonth, h⟩ := Option.bind_eq_some_iff.mp h
  obtain ⟨s₄, second, h⟩ := Option.bind_eq_some_iff.mp h
  obtain ⟨⟨day, s₅⟩, hday, h⟩ := Option.bind_eq_some_iff.mp h
  dsimp only at first second h
  split at h
  next last =>
    rw [hyphen?_eq_some first] at hyear
    rw [hyphen?_eq_some second] at hmonth
    rw [last] at hday
    exact ⟨year, month, day, s₂, s₄, hyear, hmonth, hday, h⟩
  next => cases h

structure Digits (years months days : List Char) : Prop where
  years : years.all Text.isDigit = true ∧ years.length = 4
  months : months.all Text.isDigit = true ∧ months.length = 2
  days : days.all Text.isDigit = true ∧ days.length = 2

theorem digits_of_ofChars? {s : List Char} {date : Date} (pattern : Field.isDatePattern s = true)
    (h : ofChars? s = some date) :
    ∃ years months days, s = years ++ '-' :: months ++ '-' :: days ∧ Digits years months days ∧
      ofParts? (Text.digitsFrom 0 years) (Text.digitsFrom 0 months) (Text.digitsFrom 0 days) =
        some date := by
  unfold Field.isDatePattern at pattern
  split at pattern
  next a b c d e f g k =>
    obtain ⟨year, month, day, behindYear, behindMonth, hyear, hmonth, hday, h⟩ := ofChars?_eq_some h
    have digits {part : List Char} (inside : part ⊆ [a, b, c, d, e, f, g, k]) :
        part.all Text.isAnyDigit = true :=
      List.all_eq_true.mpr fun x hx => List.all_eq_true.mp pattern x (inside hx)
    have hyphen : Text.isAnyDigit '-' = false := by decide
    rw [year?_digits (List.all_eq_true.mp pattern a (by simp))] at hyear
    obtain ⟨⟨n, _⟩, hyear, eq⟩ := Option.map_eq_some_iff.mp hyear
    cases eq
    obtain ⟨years, rfl, eq⟩ := number?_eq_some [a, b, c, d]
      ['-', e, f, '-', g, k] (digits (by simp)) (by simp) (by simp) (by simp [hyphen])
      (by simp [hyphen]) hyear
    cases eq
    obtain ⟨months, rfl, eq⟩ := number?_eq_some [e, f] ['-', g, k]
      (digits (by simp)) (by simp) (by simp) (by simp [hyphen]) (by simp [hyphen]) hmonth
    cases eq
    obtain ⟨days, rfl, _⟩ := number?_eq_some [g, k] []
      (digits (by simp)) (by simp) (by simp) (by simp) (by simp) hday
    exact ⟨[a, b, c, d], [e, f], [g, k], rfl, ⟨⟨years, rfl⟩, ⟨months, rfl⟩, ⟨days, rfl⟩⟩, h⟩
  next => cases pattern

theorem chars_of_ofParts? {years months days : List Char} {date : Date}
    (digits : Digits years months days)
    (h : ofParts? (Text.digitsFrom 0 years) (Text.digitsFrom 0 months) (Text.digitsFrom 0 days) =
      some date) : date.chars = years ++ '-' :: months ++ '-' :: days := by
  obtain ⟨⟨hy, four⟩, ⟨hm, two⟩, hd, two'⟩ := digits
  unfold ofParts? at h
  split at h
  next =>
    cases h
    have nonempty {digits : List Char} {n : Nat} (length : digits.length = n + 1) : digits ≠ [] :=
      List.length_pos_iff.mp (length ▸ Nat.succ_pos n)
    have year := padded_digitsFrom hy (nonempty four)
    have month := padded_digitsFrom hm (nonempty two)
    have day := padded_digitsFrom hd (nonempty two')
    rw [four] at year
    rw [two] at month
    rw [two'] at day
    have small := Text.digitsFrom_lt hy
    rw [four] at small
    have positive : ¬ (Text.digitsFrom 0 years : Int) < 0 := by omega
    have short : ¬ 9999 < (Text.digitsFrom 0 years : Int) := by omega
    simp only [chars, yearChars, if_neg positive, if_neg short, Int.natAbs_natCast, year, month,
      day]
  next => cases h

/-- A date of the pattern is printed as it was written. -/
theorem chars_of_ofChars? {s : List Char} {date : Date} (pattern : Field.isDatePattern s = true)
    (h : ofChars? s = some date) : date.chars = s := by
  obtain ⟨years, months, days, rfl, digits, named⟩ := digits_of_ofChars? pattern h
  exact chars_of_ofParts? digits named

theorem number?_digits {most : Nat} {digits rest : List Char}
    (ascii : digits.all Text.isDigit = true) (nonempty : digits ≠ []) (few : digits.length ≤ most)
    (stop : ∀ c ∈ rest.head?, Text.isDigit c = false) :
    number? most (digits ++ rest) = some (Text.digitsFrom 0 digits, rest) := by
  have all := Text.all_isAnyDigit (List.all_eq_true.mp ascii)
  obtain ⟨taken, _⟩ := span_digits ascii stop
  rw [number?, trimStartChars_digits all nonempty, taken, List.take_of_length_le few,
    List.drop_left, Text.natural?_eq_some_iff.mpr ⟨nonempty, ascii, rfl⟩]
  rfl

theorem year?_unsigned {digits rest : List Char} (ascii : digits.all Text.isDigit = true)
    (nonempty : digits ≠ []) (few : digits.length ≤ 4)
    (stop : ∀ c ∈ rest.head?, Text.isDigit c = false) :
    year? (digits ++ rest) = some ((Text.digitsFrom 0 digits : Int), rest) := by
  have read := number?_digits ascii nonempty few stop
  obtain ⟨c, others, rfl⟩ := List.exists_cons_of_ne_nil nonempty
  have digit := List.all_eq_true.mp ascii c (List.mem_cons_self ..)
  rw [List.cons_append] at read ⊢
  rw [year?_digits (Text.isAnyDigit_of_isDigit digit), read]
  rfl

theorem hyphen_stops (s : List Char) : ∀ c ∈ ('-' :: s).head?, Text.isDigit c = false := by
  intro c first
  cases first
  rfl

theorem ofChars?_digits {years months days : List Char} (digits : Digits years months days) :
    ofChars? (years ++ '-' :: months ++ '-' :: days) = ofParts? (Text.digitsFrom 0 years)
      (Text.digitsFrom 0 months) (Text.digitsFrom 0 days) := by
  obtain ⟨⟨hy, four⟩, ⟨hm, two⟩, hd, two'⟩ := digits
  have nonempty {part : List Char} {n : Nat} (length : part.length = n + 1) : part ≠ [] :=
    List.length_pos_iff.mp (length ▸ Nat.succ_pos n)
  have month := number?_digits hm (nonempty two) (Nat.le_of_eq two) (hyphen_stops days)
  have day := @number?_digits 2 days [] hd (nonempty two') (Nat.le_of_eq two') (by simp)
  have year := year?_unsigned hy (nonempty four) (Nat.le_of_eq four)
    (hyphen_stops (months ++ '-' :: days))
  rw [List.append_nil] at day
  simp only [ofChars?, List.append_assoc, List.cons_append, year, hyphen?, month, day,
    Option.bind_eq_bind, Option.bind_some, if_pos]

theorem padded_digits (width n : Nat) :
    (padded width n).all Text.isDigit = true ∧ padded width n ≠ [] := by
  constructor
  · rw [padded, List.all_append, Bool.and_eq_true]
    exact ⟨by simp [Text.isDigit], Text.all_toDigits n⟩
  · simp [padded, Nat.toDigits_ne_nil]

theorem digitsFrom_padded (width n : Nat) : Text.digitsFrom 0 (padded width n) = n := by
  rw [padded, Text.digitsFrom_zeros, Text.digitsFrom_toDigits]

theorem length_padded {width n : Nat} (positive : 0 < width) (small : n < 10 ^ width) :
    (padded width n).length = width := by
  have short := (Nat.length_toDigits_le_iff (by decide) positive).mpr small
  rw [padded, List.length_append, List.length_replicate]
  omega

theorem number?_padded {width n : Nat} {rest : List Char} (positive : 0 < width)
    (small : n < 10 ^ width) (stop : ∀ c ∈ rest.head?, Text.isDigit c = false) :
    number? width (padded width n ++ rest) = some (n, rest) := by
  obtain ⟨ascii, nonempty⟩ := padded_digits width n
  rw [number?_digits ascii nonempty (length_padded positive small).le stop, digitsFrom_padded]

theorem year?_signed {digits rest : List Char} (ascii : digits.all Text.isDigit = true)
    (nonempty : digits ≠ []) (stop : ∀ c ∈ rest.head?, Text.isDigit c = false) :
    year? ('-' :: (digits ++ rest)) = some (-(Text.digitsFrom 0 digits : Int), rest) ∧
      year? ('+' :: (digits ++ rest)) = some ((Text.digitsFrom 0 digits : Int), rest) := by
  obtain ⟨taken, left⟩ := span_digits ascii stop
  have read : Text.natural? digits = some (Text.digitsFrom 0 digits) :=
    Text.natural?_eq_some_iff.mpr ⟨nonempty, ascii, rfl⟩
  constructor
  · rw [year?, trimStartChars_cons _ (by decide)]
    simp only [taken, left, read, Option.map_some]
  · rw [year?, trimStartChars_cons _ (by decide)]
    simp only [taken, left, read, Option.map_some]

theorem year?_yearChars (year : Int) {rest : List Char}
    (stop : ∀ c ∈ rest.head?, Text.isDigit c = false) :
    year? (yearChars year ++ rest) = some (year, rest) := by
  obtain ⟨ascii, nonempty⟩ := padded_digits 4 year.natAbs
  obtain ⟨minus, plus⟩ := year?_signed ascii nonempty stop
  rw [digitsFrom_padded] at minus plus
  unfold yearChars
  split
  next negative =>
    have value : -(year.natAbs : Int) = year := by omega
    rw [List.cons_append, minus, value]
  next positive =>
    have value : (year.natAbs : Int) = year := by omega
    split
    next => rw [List.cons_append, plus, value]
    next short =>
      have small : year.natAbs < 10 ^ 4 := by omega
      have length := length_padded (show 0 < 4 by decide) small
      rw [year?_unsigned ascii nonempty (Nat.le_of_eq length) stop, digitsFrom_padded, value]

theorem ofParts?_self (date : Date) : ofParts? date.year date.month date.day = some date :=
  dif_pos date.valid

theorem ofChars?_chars (date : Date) : ofChars? date.chars = some date := by
  have valid := date.valid
  simp only [isDay, Bool.and_eq_true, decide_eq_true_eq] at valid
  obtain ⟨⟨⟨⟨_, _⟩, months⟩, _⟩, days⟩ := valid
  have days : date.day < 10 ^ 2 := by
    unfold daysInMonth at days
    split at days
    · split at days <;> omega
    · split at days <;> omega
  have year := year?_yearChars date.year
    (hyphen_stops (padded 2 date.month ++ '-' :: padded 2 date.day))
  have month := number?_padded (show 0 < 2 by decide) (show date.month < 10 ^ 2 by omega)
    (hyphen_stops (padded 2 date.day))
  have day := @number?_padded 2 date.day [] (by decide) days (by simp)
  rw [List.append_nil] at day
  simp only [ofChars?, chars, List.append_assoc, List.cons_append, year, hyphen?, month, day,
    Option.bind_eq_bind, Option.bind_some, if_pos, ofParts?_self]

theorem not_isSpace_of_mem_chars {date : Date} {c : Char} (h : c ∈ date.chars) :
    Text.isSpace c = false := by
  have inPadded {width n : Nat} (h : c ∈ padded width n) : Text.isSpace c = false :=
    Text.not_isSpace_of_isAnyDigit
      (Text.isAnyDigit_of_isDigit (List.all_eq_true.mp (padded_digits width n).1 c h))
  have inYear (h : c ∈ yearChars date.year) : Text.isSpace c = false := by
    unfold yearChars at h
    split at h
    next =>
      rcases List.mem_cons.mp h with rfl | h
      · rfl
      · exact inPadded h
    next =>
      split at h
      next =>
        rcases List.mem_cons.mp h with rfl | h
        · rfl
        · exact inPadded h
      next => exact inPadded h
  simp only [chars, List.mem_append, List.mem_cons] at h
  rcases h with (h | rfl | h) | rfl | h
  · exact inYear h
  · rfl
  · exact inPadded h
  · rfl
  · exact inPadded h

end Date

end Runbook

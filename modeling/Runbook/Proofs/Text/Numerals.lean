import Mathlib.Data.Nat.Digits.Defs
import Runbook.Text.Digits

namespace Runbook.Text

theorem isDigit_of_mem_toDigits {n : Nat} {c : Char} (h : c ∈ Nat.toDigits 10 n) :
    isDigit c = true := Nat.isDigit_of_mem_toDigits (by decide) (by decide) h

theorem all_toDigits (n : Nat) : (Nat.toDigits 10 n).all isDigit = true :=
  List.all_eq_true.mpr fun _ => isDigit_of_mem_toDigits

theorem natural?_toDigits (n : Nat) : natural? (Nat.toDigits 10 n) = some n := by
  refine natural?_eq_some_iff.mpr ⟨Nat.toDigits_ne_nil, all_toDigits n, ?_⟩
  unfold digitsFrom digitValue
  exact Nat.ofDigitChars_eq_foldl.symm.trans Nat.ofDigitChars_ten_toDigits

theorem digitsFrom_append (n : Nat) (s t : List Char) :
    digitsFrom n (s ++ t) = digitsFrom (digitsFrom n s) t := List.foldl_append

theorem digitsFrom_eq_add (n : Nat) (s : List Char) :
    digitsFrom n s = 10 ^ s.length * n + digitsFrom 0 s := by
  have value (m : Nat) : digitsFrom m s = Nat.ofDigitChars 10 s m := Nat.ofDigitChars_eq_foldl.symm
  rw [value, value, Nat.ofDigitChars_eq_ofDigitChars_zero]

theorem digitsFrom_cons (c : Char) (s : List Char) :
    digitsFrom 0 (c :: s) = 10 ^ s.length * digitValue c + digitsFrom 0 s := by
  rw [← digitsFrom_eq_add]
  simp [digitsFrom]

theorem digitsFrom_zeros (k : Nat) (s : List Char) :
    digitsFrom 0 (List.replicate k '0' ++ s) = digitsFrom 0 s := by
  have zeros : digitsFrom 0 (List.replicate k '0') = 0 := by
    have value : digitsFrom 0 (List.replicate k '0') =
        Nat.ofDigitChars 10 (List.replicate k '0') 0 := Nat.ofDigitChars_eq_foldl.symm
    rw [value, Nat.ofDigitChars_replicate_zero, Nat.mul_zero]
  rw [digitsFrom_append, zeros]

theorem digitsFrom_toDigits (n : Nat) : digitsFrom 0 (Nat.toDigits 10 n) = n :=
  (natural?_eq_some_iff.mp (natural?_toDigits n)).2.2

theorem isDigit_iff {c : Char} : isDigit c = true ↔ 48 ≤ c.toNat ∧ c.toNat ≤ 57 := by
  simp only [isDigit, Bool.and_eq_true, decide_eq_true_eq, Char.le_def, UInt32.le_iff_toNat_le]
  exact Iff.rfl

theorem toNat_of_isDigit {c : Char} (h : isDigit c = true) :
    c.toNat = 48 + digitValue c ∧ digitValue c < 10 := by
  have range := isDigit_iff.mp h
  have zero : ('0' : Char).toNat = 48 := rfl
  unfold digitValue
  omega

theorem digitsFrom_lt {s : List Char} (h : s.all isDigit = true) :
    digitsFrom 0 s < 10 ^ s.length := by
  induction s with
  | nil => decide
  | cons c s ih =>
    rw [List.all_cons, Bool.and_eq_true] at h
    have low := ih h.2
    have digit := (toNat_of_isDigit h.1).2
    have most : 10 ^ s.length * digitValue c ≤ 10 ^ s.length * 9 := Nat.mul_le_mul_left _ (by omega)
    rw [digitsFrom_cons, List.length_cons, Nat.pow_succ]
    omega

theorem eq_of_digitsFrom_eq {s t : List Char} (hs : s.all isDigit = true)
    (ht : t.all isDigit = true) (length : s.length = t.length)
    (same : digitsFrom 0 s = digitsFrom 0 t) : s = t := by
  induction s generalizing t with
  | nil => exact (List.eq_nil_of_length_eq_zero length.symm).symm
  | cons c s ih =>
    cases t with
    | nil => cases length
    | cons d t =>
      rw [List.all_cons, Bool.and_eq_true] at hs ht
      have shorter : s.length = t.length := Nat.succ.inj length
      have low := digitsFrom_lt hs.2
      have high := digitsFrom_lt ht.2
      rw [digitsFrom_cons, digitsFrom_cons, shorter] at same
      rw [shorter] at low
      -- The first digit is the quotient by a power of ten, and the others are the remainder.
      have first : digitValue c = digitValue d := by
        have quotient := congrArg (· / 10 ^ t.length) same
        simpa [Nat.mul_add_div (Nat.pow_pos (show 0 < 10 by decide)), Nat.div_eq_of_lt low,
          Nat.div_eq_of_lt high] using quotient
      have rest : digitsFrom 0 s = digitsFrom 0 t := by
        rw [first] at same
        exact Nat.add_left_cancel same
      have code : c.toNat = d.toNat := by
        rw [(toNat_of_isDigit hs.1).1, (toNat_of_isDigit ht.1).1, first]
      rw [Char.toNat_inj.mp code, ih hs.2 ht.2 shorter rest]

theorem zeros_toDigits {s : List Char} (h : s.all isDigit = true) (ne : s ≠ []) :
    List.replicate (s.length - (Nat.toDigits 10 (digitsFrom 0 s)).length) '0' ++
      Nat.toDigits 10 (digitsFrom 0 s) = s := by
  have short : (Nat.toDigits 10 (digitsFrom 0 s)).length ≤ s.length :=
    (Nat.length_toDigits_le_iff (by decide) (List.length_pos_iff.mpr ne)).mpr (digitsFrom_lt h)
  refine eq_of_digitsFrom_eq ?_ h ?_ ?_
  · rw [List.all_append, Bool.and_eq_true]
    exact ⟨by simp [isDigit], all_toDigits _⟩
  · rw [List.length_append, List.length_replicate]
    omega
  · rw [digitsFrom_zeros, digitsFrom_toDigits]

theorem le_digitsFrom {c : Char} {s : List Char} (h : isDigit c = true) (nonzero : c ≠ '0') :
    10 ^ s.length ≤ digitsFrom 0 (c :: s) := by
  have positive : 1 ≤ digitValue c := by
    have value := (toNat_of_isDigit h).1
    rcases Nat.eq_zero_or_pos (digitValue c) with zero | positive
    · rw [zero] at value
      exact absurd (Char.toNat_inj.mp value) nonzero
    · exact positive
  rw [digitsFrom_cons]
  exact Nat.le_add_right_of_le (Nat.le_mul_of_pos_right _ positive)

theorem toDigits_digitsFrom {c : Char} {s : List Char} (h : (c :: s).all isDigit = true)
    (nonzero : c ≠ '0') : Nat.toDigits 10 (digitsFrom 0 (c :: s)) = c :: s := by
  have filled := zeros_toDigits h (List.cons_ne_nil _ _)
  rw [List.all_cons, Bool.and_eq_true] at h
  have long : s.length < (Nat.toDigits 10 (digitsFrom 0 (c :: s))).length := by
    by_contra short
    rcases Nat.eq_zero_or_pos s.length with empty | positive
    · have := Nat.length_toDigits_pos (b := 10) (n := digitsFrom 0 (c :: s))
      omega
    · have low := (Nat.length_toDigits_le_iff (by decide) positive).mp (Nat.le_of_not_lt short)
      have high := le_digitsFrom (s := s) h.1 nonzero
      omega
  have nothing : (c :: s).length - (Nat.toDigits 10 (digitsFrom 0 (c :: s))).length = 0 := by
    rw [List.length_cons]
    omega
  rwa [nothing, List.replicate_zero, List.nil_append] at filled

def decimalValue (digits : List Char) : Nat := Nat.ofDigits 10 (digits.reverse.map digitValue)

theorem digitsFrom_eq_decimalValue (digits : List Char) :
    digitsFrom 0 digits = decimalValue digits := by
  induction digits with
  | nil => rfl
  | cons c digits ih =>
    rw [digitsFrom_cons, ih, decimalValue, decimalValue, List.reverse_cons, List.map_append,
      Nat.ofDigits_append, List.length_map, List.length_reverse, List.map_singleton,
      Nat.ofDigits_singleton]
    exact Nat.add_comm _ _

/-- The integer that a text denotes: digits of ASCII with at most one sign in front. -/
inductive Denotes : List Char → Int → Prop where
  | plain {digits : List Char} (nonempty : digits ≠ []) (ascii : ∀ c ∈ digits, isDigit c = true) :
    Denotes digits (decimalValue digits)
  | plus {digits : List Char} (nonempty : digits ≠ []) (ascii : ∀ c ∈ digits, isDigit c = true) :
    Denotes ('+' :: digits) (decimalValue digits)
  | minus {digits : List Char} (nonempty : digits ≠ []) (ascii : ∀ c ∈ digits, isDigit c = true) :
    Denotes ('-' :: digits) (-decimalValue digits)

theorem natural?_eq_decimalValue {digits : List Char} {n : Nat} :
    natural? digits = some n ↔
      digits ≠ [] ∧ (∀ c ∈ digits, isDigit c = true) ∧ n = decimalValue digits := by
  rw [natural?_eq_some_iff, List.all_eq_true, digitsFrom_eq_decimalValue, eq_comm (b := n)]

theorem integer?_eq_some_iff {s : List Char} {n : Int} : integer? s = some n ↔ Denotes s n := by
  constructor
  · intro h
    unfold integer? at h
    split at h
    next =>
      obtain ⟨m, magnitude, rfl⟩ := Option.map_eq_some_iff.mp h
      obtain ⟨k, read, same⟩ := Option.bind_eq_some_iff.mp magnitude
      obtain ⟨ne, ascii, rfl⟩ := natural?_eq_decimalValue.mp read
      cases same
      exact .minus ne ascii
    next =>
      obtain ⟨m, read, rfl⟩ := Option.map_eq_some_iff.mp h
      obtain ⟨ne, ascii, rfl⟩ := natural?_eq_decimalValue.mp read
      exact .plus ne ascii
    next =>
      obtain ⟨m, read, rfl⟩ := Option.map_eq_some_iff.mp h
      obtain ⟨ne, ascii, rfl⟩ := natural?_eq_decimalValue.mp read
      exact .plain ne ascii
  · intro h
    have read {digits : List Char} (ne : digits ≠ []) (ascii : ∀ c ∈ digits, isDigit c = true) :
        natural? digits = some (decimalValue digits) :=
      natural?_eq_decimalValue.mpr ⟨ne, ascii, rfl⟩
    cases h with
    | plus ne ascii => rw [integer?, read ne ascii]; rfl
    | minus ne ascii => rw [integer?, read ne ascii]; rfl
    | plain ne ascii =>
      unfold integer?
      split
      next => exact absurd (ascii '-' (List.mem_cons_self ..)) (by decide)
      next => exact absurd (ascii '+' (List.mem_cons_self ..)) (by decide)
      next => rw [read ne ascii]; rfl

theorem signedWord?_eq_some_iff {bits : Nat} {s : List Char} {n : Int} :
    signedWord? bits s = some n ↔
      Denotes s n ∧ -Nat.pow 2 (bits - 1) ≤ n ∧ n < Nat.pow 2 (bits - 1) := by
  rw [← integer?_eq_some_iff, signedWord?, Option.bind_eq_bind, Option.bind_eq_some_iff]
  constructor
  · rintro ⟨m, read, h⟩
    split at h
    next range => cases h; exact ⟨read, range⟩
    next => cases h
  · rintro ⟨read, range⟩
    exact ⟨n, read, if_pos range⟩

/-- The number that a text denotes without a minus: digits of ASCII with at most a plus in front. -/
inductive Counts : List Char → Nat → Prop where
  | plain {digits : List Char} (nonempty : digits ≠ []) (ascii : ∀ c ∈ digits, isDigit c = true) :
    Counts digits (decimalValue digits)
  | plus {digits : List Char} (nonempty : digits ≠ []) (ascii : ∀ c ∈ digits, isDigit c = true) :
    Counts ('+' :: digits) (decimalValue digits)

theorem unsignedWord?_eq_some_iff {bits : Nat} {s : List Char} {n : Nat} :
    unsignedWord? bits s = some n ↔ Counts s n ∧ n < Nat.pow 2 bits := by
  have bounded (digits : List Char) : (natural? digits).bind
      (fun m => if m < Nat.pow 2 bits then some m else none) = some n ↔
        natural? digits = some n ∧ n < Nat.pow 2 bits := by
    rw [Option.bind_eq_some_iff]
    constructor
    · rintro ⟨m, read, h⟩
      split at h
      next range => cases h; exact ⟨read, range⟩
      next => cases h
    · rintro ⟨read, range⟩
      exact ⟨n, read, if_pos range⟩
  unfold unsignedWord?
  constructor
  · intro h
    split at h
    next digits =>
      obtain ⟨read, range⟩ := (bounded digits).mp h
      obtain ⟨ne, ascii, rfl⟩ := natural?_eq_decimalValue.mp read
      exact ⟨.plus ne ascii, range⟩
    next =>
      obtain ⟨read, range⟩ := (bounded s).mp h
      obtain ⟨ne, ascii, rfl⟩ := natural?_eq_decimalValue.mp read
      exact ⟨.plain ne ascii, range⟩
  · rintro ⟨counts, range⟩
    cases counts with
    | plus ne ascii =>
      exact (bounded _).mpr ⟨natural?_eq_decimalValue.mpr ⟨ne, ascii, rfl⟩, range⟩
    | plain ne ascii =>
      split
      next => exact absurd (ascii '+' (List.mem_cons_self ..)) (by decide)
      next => exact (bounded s).mpr ⟨natural?_eq_decimalValue.mpr ⟨ne, ascii, rfl⟩, range⟩

theorem counts_toDigits (n : Nat) : Counts (Nat.toDigits 10 n) n := by
  have value : decimalValue (Nat.toDigits 10 n) = n := by
    rw [← digitsFrom_eq_decimalValue, digitsFrom_toDigits]
  have counts : Counts (Nat.toDigits 10 n) (decimalValue (Nat.toDigits 10 n)) :=
    .plain Nat.toDigits_ne_nil fun _ => isDigit_of_mem_toDigits
  rwa [value] at counts

theorem all_isAnyDigit {s : List Char} (ascii : ∀ c ∈ s, isDigit c = true) :
    s.all isAnyDigit = true :=
  List.all_eq_true.mpr fun c hc => isAnyDigit_of_isDigit (ascii c hc)

theorem ne_of_isAnyDigit {c d : Char} (h : isAnyDigit c = true) (other : isAnyDigit d = false) :
    c ≠ d := by
  rintro rfl
  rw [h] at other
  cases other

theorem notMem_of_isAnyDigit {s : List Char} {d : Char} (h : s.all isAnyDigit = true)
    (other : isAnyDigit d = false) : d ∉ s := fun hd =>
  ne_of_isAnyDigit (List.all_eq_true.mp h d hd) other rfl

theorem not_isSpace_of_isAnyDigit {c : Char} (h : isAnyDigit c = true) : isSpace c = false := by
  obtain ⟨range, hr, hc⟩ := List.any_eq_true.mp h
  have apart : ∀ range ∈ decimalDigitRanges, 0x20 < range.1 ∧
      (range.2 < 0x85 ∨ 0xA0 < range.1) ∧ (range.2 < 0x1680 ∨ 0x1680 < range.1) ∧
      (range.2 < 0x2000 ∨ 0x205F < range.1) ∧ (range.2 < 0x3000 ∨ 0x3000 < range.1) := by decide
  obtain ⟨ascii, latin, ogham, general, ideographic⟩ := apart range hr
  simp only [Bool.and_eq_true, decide_eq_true_eq] at hc
  simp only [isSpace, Bool.or_eq_false_iff, Bool.and_eq_false_iff, decide_eq_false_iff_not,
    beq_eq_false_iff_ne]
  omega

end Runbook.Text

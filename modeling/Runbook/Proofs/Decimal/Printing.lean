import Runbook.Proofs.Decimal

namespace Runbook.Decimal

/-- What is printed behind the digits, and the exponent that it stands for. -/
inductive Exponent : List Char → Int → Prop where
  | plain : Exponent [] 0
  | negative {n : Nat} (word : n < Nat.pow 2 127) : Exponent ('E' :: '-' :: Nat.toDigits 10 n) (-n)
  | positive {n : Nat} (word : n < Nat.pow 2 127) : Exponent ('e' :: '+' :: Nat.toDigits 10 n) n

/-- How a magnitude is printed: its digits with a point and an exponent, or with zeros behind
them. -/
structure Printed (digits : List Char) (scale : Int) (whole places exponent : List Char) (e : Int)
    (zeros : Nat) : Prop where
  chars : magnitudeChars digits scale = Field.pointed whole places ++ exponent
  nonempty : whole ++ places ≠ []
  ascii : (whole ++ places).all Text.isDigit = true
  exponent : Exponent exponent e
  value : Text.digitsFrom 0 (whole ++ places) = 10 ^ zeros * Text.digitsFrom 0 digits
  scale : (places.length : Int) - e = scale + zeros
  range : InRange (places.length - e)

theorem Exponent.signedWord? {c : Char} {s : List Char} {e : Int} (h : Exponent (c :: s) e) :
    (c = 'e' ∨ c = 'E') ∧ Text.signedWord? 128 s = some e := by
  have word {s : List Char} {e : Int} (read : Text.integer? s = some e)
      (range : -Nat.pow 2 127 ≤ e ∧ e < Nat.pow 2 127) : Text.signedWord? 128 s = some e := by
    rw [Text.signedWord?, read]
    exact if_pos range
  cases h with
  | @negative n small =>
    have read : Text.integer? ('-' :: Nat.toDigits 10 n) = some (-(n : Int)) := by
      rw [Text.integer?, Text.natural?_toDigits]
      rfl
    exact ⟨.inr rfl, word read (by omega)⟩
  | @positive n small =>
    have read : Text.integer? ('+' :: Nat.toDigits 10 n) = some (n : Int) := by
      rw [Text.integer?, Text.natural?_toDigits]
      rfl
    exact ⟨.inl rfl, word read (by omega)⟩

theorem Exponent.mem {s : List Char} {e : Int} (h : Exponent s e) {c : Char} (hc : c ∈ s) :
    Text.isDigit c = true ∨ c ∈ ['-', '.', 'E', 'e', '+'] := by
  cases h with
  | plain => cases hc
  | negative | positive =>
    simp only [List.mem_cons] at hc
    rcases hc with rfl | rfl | hc
    · exact .inr (by simp)
    · exact .inr (by simp)
    · exact .inl (Text.isDigit_of_mem_toDigits hc)

theorem withoutExponent?_append {mantissa exponent : List Char} {e : Int} (small : 'e' ∉ mantissa)
    (capital : 'E' ∉ mantissa) (h : Exponent exponent e) :
    withoutExponent? (mantissa ++ exponent) = some (mantissa, e) := by
  cases exponent with
  | nil =>
    cases h
    rw [List.append_nil]
    exact withoutExponent?_eq_self small capital
  | cons c s =>
    obtain ⟨sign, read⟩ := h.signedWord?
    have go : ∀ d ∈ mantissa, (d != 'e' && d != 'E') = true := by
      intro d hd
      rw [Bool.and_eq_true, bne_iff_ne, bne_iff_ne]
      exact ⟨fun same => small (same ▸ hd), fun same => capital (same ▸ hd)⟩
    have stop : (c != 'e' && c != 'E') = false := by
      rcases sign with rfl | rfl
      · rfl
      · rfl
    rw [withoutExponent?, List.dropWhile_append_of_pos go, List.takeWhile_append_of_pos go]
    simp [stop, read]

section

variable {digits : List Char} {scale : Int}

theorem printed_small (ascii : digits.all Text.isDigit = true) (range : InRange scale)
    (nonempty : digits ≠ []) (small : 5 < scale - digits.length) :
    ∃ whole places exponent e, Printed digits scale whole places exponent e 0 := by
  obtain ⟨d, rest, rfl⟩ := List.exists_cons_of_ne_nil nonempty
  obtain ⟨n, last⟩ : ∃ n : Nat, scale - (d :: rest).length + 1 = n :=
    Int.eq_ofNat_of_zero_le (by omega)
  have positive : 0 < scale := by omega
  have form : magnitudeChars (d :: rest) scale =
      Field.pointed [d] rest ++ ('E' :: '-' :: Nat.toDigits 10 n) := by
    unfold magnitudeChars
    rw [if_pos positive, if_pos small, last, Int.toNat_natCast]
    cases rest with
    | nil => rfl
    | cons next rest => simp [Field.pointed]
  have length : ((d :: rest).length : Int) = rest.length + 1 := by simp
  have exponent : (rest.length : Int) - -n = scale := by omega
  obtain ⟨low, high⟩ := range
  have word : n < Nat.pow 2 127 := by
    have room : Nat.pow 2 63 < Nat.pow 2 127 := by decide
    omega
  exact ⟨[d], rest, _, -n, form, by simp, ascii, .negative word, by simp, by omega,
    by rw [exponent]; exact ⟨low, high⟩⟩

theorem printed_fraction (ascii : digits.all Text.isDigit = true) (range : InRange scale)
    (positive : 0 < scale) (plain : ¬5 < scale - digits.length) (long : digits.length ≤ scale) :
    ∃ places, Printed digits scale ['0'] places [] 0 0 := by
  obtain ⟨k, zeros⟩ : ∃ k : Nat, scale - digits.length = k := Int.eq_ofNat_of_zero_le (by omega)
  have form : magnitudeChars digits scale =
      Field.pointed ['0'] (List.replicate k '0' ++ digits) ++ [] := by
    have nonempty : List.replicate k '0' ++ digits ≠ [] := by
      intro nothing
      have length := congrArg List.length nothing
      simp only [List.length_append, List.length_replicate, List.length_nil] at length
      omega
    unfold magnitudeChars
    rw [if_pos positive, if_neg plain, if_pos long, zeros, Field.pointed, if_neg nonempty]
    simp
  have length : ((List.replicate k '0' ++ digits).length : Int) = scale := by
    rw [List.length_append, List.length_replicate]
    omega
  refine ⟨_, form, by simp, ?_, .plain, ?_, by omega, ?_⟩
  · rw [List.all_append, List.all_append, ascii]
    simp [Text.isDigit]
  · rw [Nat.pow_zero, Nat.one_mul]
    exact Text.digitsFrom_zeros (k + 1) digits
  · rwa [length, Int.sub_zero]

theorem printed_pointed (ascii : digits.all Text.isDigit = true) (range : InRange scale)
    (positive : 0 < scale) (plain : ¬5 < scale - digits.length) (short : ¬digits.length ≤ scale) :
    ∃ whole places, Printed digits scale whole places [] 0 0 := by
  obtain ⟨k, behind⟩ : ∃ k : Nat, scale = k := Int.eq_ofNat_of_zero_le (by omega)
  subst behind
  have length : ((digits.drop (digits.length - k)).length : Int) = k := by
    rw [List.length_drop]
    omega
  have form : magnitudeChars digits k = Field.pointed (digits.take (digits.length - k))
      (digits.drop (digits.length - k)) ++ [] := by
    have nonempty : digits.drop (digits.length - k) ≠ [] := by
      intro nothing
      rw [nothing, List.length_nil] at length
      omega
    unfold magnitudeChars
    rw [if_pos positive, if_neg plain, if_neg short, Int.toNat_natCast, Field.pointed,
      if_neg nonempty, List.append_nil]
  refine ⟨_, _, form, ?_, ?_, .plain, ?_, by omega, ?_⟩
  · rw [List.take_append_drop]
    rintro rfl
    exact short (by simp)
  · rwa [List.take_append_drop]
  · rw [List.take_append_drop, Nat.pow_zero, Nat.one_mul]
  · rwa [length, Int.sub_zero]

theorem printed_large (ascii : digits.all Text.isDigit = true) (range : InRange scale)
    (nonempty : digits ≠ []) (large : scale < -15) :
    ∃ exponent e, Printed digits scale digits [] exponent e 0 := by
  obtain ⟨n, behind⟩ : ∃ n : Nat, -scale = n := Int.eq_ofNat_of_zero_le (by omega)
  have form : magnitudeChars digits scale =
      Field.pointed digits [] ++ ('e' :: '+' :: Nat.toDigits 10 n) := by
    have whole : ¬0 < scale := by omega
    unfold magnitudeChars
    rw [if_neg whole, if_pos large, behind, Int.toNat_natCast]
    simp [Field.pointed]
  have exponent : ((([] : List Char).length : Nat) : Int) - n = scale := by
    rw [List.length_nil]
    omega
  obtain ⟨low, high⟩ := range
  have word : n < Nat.pow 2 127 := by
    have room : Nat.pow 2 63 < Nat.pow 2 127 := by decide
    omega
  exact ⟨_, n, form, by simpa using nonempty, by simpa using ascii, .positive word, by simp,
    by omega, by rw [exponent]; exact ⟨low, high⟩⟩

theorem printed_whole (ascii : digits.all Text.isDigit = true) (nonempty : digits ≠ [])
    (whole : ¬0 < scale) (plain : ¬scale < -15) :
    ∃ zeros, Printed digits scale (digits ++ List.replicate zeros '0') [] [] 0 zeros := by
  obtain ⟨k, behind⟩ : ∃ k : Nat, -scale = k := Int.eq_ofNat_of_zero_le (by omega)
  have form : magnitudeChars digits scale =
      Field.pointed (digits ++ List.replicate k '0') [] ++ [] := by
    unfold magnitudeChars
    rw [if_neg whole, if_neg plain, behind]
    simp [Field.pointed]
  refine ⟨k, form, by simp [nonempty], ?_, .plain, ?_, ?_, ?_⟩
  · rw [List.append_nil, List.all_append, ascii]
    simp [Text.isDigit]
  · have nothing := Text.digitsFrom_zeros k []
    rw [List.append_nil] at nothing ⊢
    rw [Text.digitsFrom_append, Text.digitsFrom_eq_add, nothing, List.length_replicate]
    rfl
  · rw [List.length_nil]
    omega
  · constructor <;> decide

theorem exists_printed (ascii : digits.all Text.isDigit = true) (nonempty : digits ≠ [])
    (range : InRange scale) :
    ∃ whole places exponent e zeros, Printed digits scale whole places exponent e zeros := by
  by_cases positive : 0 < scale
  · by_cases small : 5 < scale - digits.length
    · obtain ⟨whole, places, exponent, e, printed⟩ := printed_small ascii range nonempty small
      exact ⟨whole, places, exponent, e, 0, printed⟩
    · by_cases long : digits.length ≤ scale
      · obtain ⟨places, printed⟩ := printed_fraction ascii range positive small long
        exact ⟨_, places, _, _, _, printed⟩
      · obtain ⟨whole, places, printed⟩ := printed_pointed ascii range positive small long
        exact ⟨whole, places, _, _, _, printed⟩
  · by_cases large : scale < -15
    · obtain ⟨exponent, e, printed⟩ := printed_large ascii range nonempty large
      exact ⟨_, _, exponent, e, _, printed⟩
    · obtain ⟨zeros, printed⟩ := printed_whole ascii nonempty positive large
      exact ⟨_, _, _, _, zeros, printed⟩

variable {whole places exponent : List Char} {e : Int} {zeros : Nat}

theorem Printed.digit_or_point
    (printed : Printed digits scale whole places exponent e zeros) {c : Char}
    (h : c ∈ Field.pointed whole places) : Text.isDigit c = true ∨ c = '.' :=
  (Field.mem_pointed h).imp_left (List.all_eq_true.mp printed.ascii c)

theorem Printed.withoutExponent?
    (printed : Printed digits scale whole places exponent e zeros) {sign : List Char}
    (unsigned : sign = [] ∨ sign = ['-']) :
    Decimal.withoutExponent? (sign ++ Field.pointed whole places ++ exponent) =
      some (sign ++ Field.pointed whole places, e) := by
  have nothing (c : Char) (other : Text.isDigit c = false) (unlike : c ≠ '-' ∧ c ≠ '.') :
      c ∉ sign ++ Field.pointed whole places := by
    intro member
    rcases List.mem_append.mp member with member | member
    · rcases unsigned with rfl | rfl
      · cases member
      · exact unlike.1 (List.mem_singleton.mp member)
    · rcases printed.digit_or_point member with digit | point
      · rw [digit] at other
        cases other
      · exact unlike.2 point
  exact withoutExponent?_append (nothing 'e' (by decide) (by decide))
    (nothing 'E' (by decide) (by decide)) printed.exponent

theorem Printed.ofChars? (printed : Printed digits scale whole places exponent e zeros) :
    Decimal.ofChars? (magnitudeChars digits scale) =
        some ⟨Text.digitsFrom 0 (whole ++ places), places.length - e⟩ ∧
      Decimal.ofChars? ('-' :: magnitudeChars digits scale) =
        some ⟨-(Text.digitsFrom 0 (whole ++ places) : Int), places.length - e⟩ := by
  have all := Text.all_isAnyDigit (List.all_eq_true.mp printed.ascii)
  have parts := all
  rw [List.all_append, Bool.and_eq_true] at parts
  have noPoint : '.' ∉ whole := Text.notMem_of_isAnyDigit parts.1 (by decide)
  have read : Text.natural? (whole ++ places) =
      some (Text.digitsFrom 0 (whole ++ places)) :=
    Text.natural?_eq_some_iff.mpr ⟨printed.nonempty, printed.ascii, rfl⟩
  rw [printed.chars]
  constructor
  · have plain := ofChars?_eq (.plain all) noPoint parts.2 (printed.withoutExponent? (.inl rfl))
      printed.range
    rw [plain, ← (Signed.plain all).coefficient?, coefficient?_eq_natural? all, read]
    rfl
  · have written := printed.withoutExponent? (.inr rfl)
    rw [List.singleton_append, ← Field.pointed_cons] at written
    have minus := @ofChars?_eq ('-' :: whole) places exponent e (.minus all) (by simp [noPoint])
      parts.2 written printed.range
    rw [Field.pointed_cons] at minus
    rw [← List.cons_append, minus, List.cons_append, Text.integer?, read]
    rfl

theorem Printed.same (printed : Printed digits scale whole places exponent e zeros) :
    Decimal.same ⟨Text.digitsFrom 0 (whole ++ places), places.length - e⟩
        ⟨Text.digitsFrom 0 digits, scale⟩ ∧
      Decimal.same ⟨-(Text.digitsFrom 0 (whole ++ places) : Int), places.length - e⟩
        ⟨-(Text.digitsFrom 0 digits : Int), scale⟩ := by
  have fewer : (scale - (scale + zeros)).toNat = 0 := by omega
  have more : (scale + zeros - scale).toNat = zeros := by omega
  simp only [Decimal.same, printed.scale, printed.value, fewer, more, Nat.pow_eq]
  push_cast
  constructor <;> ring

end

theorem inRange_of_ofChars? {s : List Char} {n : Decimal} (h : ofChars? s = some n) :
    InRange n.scale := by
  obtain ⟨⟨mantissa, exponent⟩, _, h⟩ := Option.bind_eq_some_iff.mp h
  obtain ⟨coefficient, _, h⟩ := Option.bind_eq_some_iff.mp h
  obtain ⟨range, same⟩ := Option.ite_none_right_eq_some.mp h
  cases same
  exact range

/-- A printed number is read as an equal one. -/
theorem exists_ofChars?_chars {n : Decimal} (range : InRange n.scale) :
    ∃ again, ofChars? n.chars = some again ∧ again.same n := by
  obtain ⟨coefficient, scale⟩ := n
  unfold chars
  split
  next zero =>
    have zero : coefficient = 0 := zero
    subst zero
    exact ⟨⟨0, 0⟩, rfl, by simp [same]⟩
  next =>
    obtain ⟨whole, places, exponent, e, zeros, printed⟩ :=
      exists_printed (Text.all_toDigits coefficient.natAbs) Nat.toDigits_ne_nil range
    have same := printed.same
    rw [Text.digitsFrom_toDigits] at same
    split
    next negative =>
      have negative : coefficient < 0 := negative
      have value : -(coefficient.natAbs : Int) = coefficient := by omega
      rw [value] at same
      exact ⟨_, printed.ofChars?.2, same.2⟩
    next positive =>
      have positive : ¬coefficient < 0 := positive
      have value : (coefficient.natAbs : Int) = coefficient := by omega
      rw [value] at same
      exact ⟨_, printed.ofChars?.1, same.1⟩

theorem mem_chars {n : Decimal} (range : InRange n.scale) {c : Char} (h : c ∈ n.chars) :
    Text.isDigit c = true ∨ c ∈ ['-', '.', 'E', 'e', '+'] := by
  obtain ⟨whole, places, exponent, e, zeros, printed⟩ :=
    exists_printed (Text.all_toDigits n.coefficient.natAbs) Nat.toDigits_ne_nil range
  unfold chars at h
  split at h
  next =>
    rw [List.mem_singleton.mp h]
    exact .inl rfl
  next =>
    have signed : c = '-' ∨ c ∈ magnitudeChars (Nat.toDigits 10 n.coefficient.natAbs) n.scale := by
      dsimp only at h
      split at h
      next => exact List.mem_cons.mp h
      next => exact .inr h
    rcases signed with rfl | h
    · exact .inr (by simp)
    · rw [printed.chars] at h
      rcases List.mem_append.mp h with h | h
      · exact (printed.digit_or_point h).imp_right fun point => by simp [point]
      · exact printed.exponent.mem h

theorem not_isSpace_of_mem_chars {n : Decimal} (range : InRange n.scale) {c : Char}
    (h : c ∈ n.chars) : Text.isSpace c = false := by
  rcases mem_chars range h with digit | sign
  · exact Text.not_isSpace_of_isAnyDigit (Text.isAnyDigit_of_isDigit digit)
  · simp only [List.mem_cons, List.not_mem_nil, or_false] at sign
    rcases sign with rfl | rfl | rfl | rfl | rfl
    all_goals rfl

end Runbook.Decimal

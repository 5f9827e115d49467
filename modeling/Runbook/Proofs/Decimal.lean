import Mathlib.Data.List.TakeWhile
import Runbook.Field.Validate
import Runbook.Proofs.Text.Numerals

namespace Runbook

namespace Field

theorem isWhole_cases {s : List Char} (h : isWhole s = true) :
    s = ['0'] ∨ ∃ c rest, s = c :: rest ∧ c ≠ '0' ∧ Text.isDigit c = true ∧
      rest.all Text.isAnyDigit = true := by
  unfold isWhole at h
  split at h
  next => exact .inl rfl
  next c rest _ =>
    simp only [Bool.and_eq_true, decide_eq_true_eq] at h
    refine .inr ⟨c, rest, rfl, ?_, ?_, h.2⟩
    · rintro rfl
      exact absurd h.1.1 (by decide)
    · simpa [Text.isDigit, h.1.2] using Char.le_trans (show '0' ≤ '1' by decide) h.1.1
  next => cases h

theorem isAnyDigit_of_isWhole {s : List Char} (h : isWhole s = true) :
    s.all Text.isAnyDigit = true := by
  rcases isWhole_cases h with rfl | ⟨c, rest, rfl, _, digit, all⟩
  · decide
  · rw [List.all_cons, Bool.and_eq_true]
    exact ⟨Text.isAnyDigit_of_isDigit digit, all⟩

def pointed (whole places : List Char) : List Char :=
  if places = [] then whole else whole ++ '.' :: places

theorem pointed_cons (c : Char) (whole places : List Char) :
    pointed (c :: whole) places = c :: pointed whole places := by
  unfold pointed
  split
  next => rfl
  next => rfl

theorem mem_pointed {whole places : List Char} {c : Char} (h : c ∈ pointed whole places) :
    c ∈ whole ++ places ∨ c = '.' := by
  unfold pointed at h
  split at h
  next => exact .inl (List.mem_append_left _ h)
  next =>
    rw [List.mem_append, List.mem_cons] at h
    rcases h with h | h | h
    · exact .inl (List.mem_append_left _ h)
    · exact .inr h
    · exact .inl (List.mem_append_right _ h)

/-- The parts of an amount. -/
structure Amount (whole places : List Char) : Prop where
  isWhole : isWhole whole = true
  digits : places.all Text.isAnyDigit = true
  few : places.length ≤ 2

theorem isAmount_pointed {whole places : List Char} (amount : Amount whole places) :
    isAmount (pointed whole places) = true := by
  have noPoint : '.' ∉ whole :=
    Text.notMem_of_isAnyDigit (isAnyDigit_of_isWhole amount.isWhole) (by decide)
  unfold isAmount pointed
  by_cases empty : places = []
  · rw [if_pos empty, Text.cut?_eq_none_of_notMem noPoint]
    exact amount.isWhole
  · have length : 1 ≤ places.length := List.length_pos_iff.mpr empty
    simp [if_neg empty, Text.cut?_eq_some_of_notMem noPoint, amount.isWhole, amount.digits,
      amount.few, length]

theorem amount_of_isAmount {s : List Char} (h : isAmount s = true) :
    ∃ whole places, s = pointed whole places ∧ Amount whole places := by
  unfold isAmount at h
  split at h
  next => exact ⟨s, [], rfl, h, rfl, Nat.zero_le _⟩
  next whole places cut =>
    simp only [Bool.and_eq_true, decide_eq_true_eq] at h
    obtain ⟨⟨⟨isWhole, positive⟩, few⟩, digits⟩ := h
    have ne : places ≠ [] := List.length_pos_iff.mp positive
    refine ⟨whole, places, ?_, isWhole, digits, few⟩
    rw [pointed, if_neg ne]
    exact (Text.eq_append_of_cut? cut).1

end Field

namespace Decimal

theorem joined_pointed {whole places : List Char} (noPoint : '.' ∉ whole)
    (hp : places.all Text.isAnyDigit = true) :
    joined (Field.pointed whole places) = (whole ++ places, places.length) := by
  unfold joined Field.pointed
  cases places with
  | nil => simp [Text.cut?_eq_none_of_notMem noPoint]
  | cons c rest =>
    have kept : (c :: rest).filter (· != '_') = c :: rest := List.filter_eq_self.mpr fun d hd =>
      bne_iff_ne.mpr (Text.ne_of_isAnyDigit (List.all_eq_true.mp hp d hd) (by decide))
    simp only [if_neg (List.cons_ne_nil c rest), Text.cut?_eq_some_of_notMem noPoint, kept]

theorem withoutExponent?_eq_self {s : List Char} (small : 'e' ∉ s) (capital : 'E' ∉ s) :
    withoutExponent? s = some (s, 0) := by
  have all : s.dropWhile (fun c => c != 'e' && c != 'E') = [] :=
    List.dropWhile_eq_nil_iff.mpr fun c hc => by
      rw [Bool.and_eq_true, bne_iff_ne, bne_iff_ne]
      exact ⟨fun same => small (same ▸ hc), fun same => capital (same ▸ hc)⟩
  rw [withoutExponent?, all]

theorem digits?_eq_natural? {s : List Char} (h : s.all Text.isAnyDigit = true) :
    digits? s = Text.natural? s := by
  have kept : s.filter (· != '_') = s := List.filter_eq_self.mpr fun d hd =>
    bne_iff_ne.mpr (Text.ne_of_isAnyDigit (List.all_eq_true.mp h d hd) (by decide))
  unfold digits?
  split
  next => rfl
  next => exact absurd (List.mem_cons_self ..) (Text.notMem_of_isAnyDigit h (by decide))
  next => rw [kept]

theorem coefficient?_eq_natural? {s : List Char} (h : s.all Text.isAnyDigit = true) :
    coefficient? s = (Text.natural? s).map Int.ofNat := by
  unfold coefficient?
  split
  next => exact absurd (List.mem_cons_self ..) (Text.notMem_of_isAnyDigit h (by decide))
  next => exact absurd (List.mem_cons_self ..) (Text.notMem_of_isAnyDigit h (by decide))
  next => rw [digits?_eq_natural? h]

inductive Signed : List Char → Prop where
  | plain {digits : List Char} (all : digits.all Text.isAnyDigit = true) : Signed digits
  | plus {digits : List Char} (all : digits.all Text.isAnyDigit = true) : Signed ('+' :: digits)
  | minus {digits : List Char} (all : digits.all Text.isAnyDigit = true) : Signed ('-' :: digits)

theorem Signed.notMem {s : List Char} (h : Signed s) {c : Char}
    (other : Text.isAnyDigit c = false) (unsigned : c ≠ '+' ∧ c ≠ '-') : c ∉ s := by
  cases h with
  | plain all => exact Text.notMem_of_isAnyDigit all other
  | plus all => simp [unsigned.1, Text.notMem_of_isAnyDigit all other]
  | minus all => simp [unsigned.2, Text.notMem_of_isAnyDigit all other]

theorem Signed.coefficient? {s : List Char} (h : Signed s) :
    Decimal.coefficient? s = Text.integer? s := by
  cases h with
  | plus all => rw [Decimal.coefficient?, Text.integer?, digits?_eq_natural? all]
  | minus all => rw [Decimal.coefficient?, Text.integer?, digits?_eq_natural? all]
  | plain all =>
    rw [coefficient?_eq_natural? all]
    unfold Text.integer?
    split
    next => exact absurd (List.mem_cons_self ..) (Text.notMem_of_isAnyDigit all (by decide))
    next => exact absurd (List.mem_cons_self ..) (Text.notMem_of_isAnyDigit all (by decide))
    next => rfl

/-- The scale is a word of 64 bits. -/
def InRange (scale : Int) : Prop := -Nat.pow 2 63 ≤ scale ∧ scale < Nat.pow 2 63

/-- A signed numeral with a point in it is read without the point; the scale is the number of its
places without the exponent. -/
theorem ofChars?_eq {whole places exponent : List Char} {e : Int}
    (signed : Signed (whole ++ places)) (noPoint : '.' ∉ whole)
    (digits : places.all Text.isAnyDigit = true)
    (written : withoutExponent? (Field.pointed whole places ++ exponent) =
      some (Field.pointed whole places, e)) (range : InRange (places.length - e)) :
    ofChars? (Field.pointed whole places ++ exponent) =
      (Text.integer? (whole ++ places)).map fun n => ⟨n, places.length - e⟩ := by
  simp only [ofChars?, written, joined_pointed noPoint digits, signed.coefficient?,
    Option.bind_eq_bind, Option.bind_some]
  cases Text.integer? (whole ++ places) with
  | none => rfl
  | some n => exact if_pos range

theorem Signed.ofChars? {s : List Char} (h : Signed s) :
    Decimal.ofChars? s = (Text.integer? s).map fun n => ⟨n, 0⟩ := by
  have plain := withoutExponent?_eq_self (h.notMem (c := 'e') (by decide) (by decide))
    (h.notMem (c := 'E') (by decide) (by decide))
  have range : InRange (([] : List Char).length - 0) := by
    constructor <;> decide
  have read := @ofChars?_eq s [] [] 0 (by simpa using h) (h.notMem (by decide) (by decide)) rfl
    (by simpa [Field.pointed] using plain) range
  simpa [Field.pointed] using read

theorem ofChars?_pointed {whole places : List Char} (amount : Field.Amount whole places) :
    ofChars? (Field.pointed whole places) =
      (Text.natural? (whole ++ places)).map fun n => ⟨n, places.length⟩ := by
  have hw := Field.isAnyDigit_of_isWhole amount.isWhole
  have digits : (whole ++ places).all Text.isAnyDigit = true := by
    rw [List.all_append, hw, amount.digits, Bool.and_self]
  have nothing (c : Char) (other : Text.isAnyDigit c = false) (noPoint : c ≠ '.') :
      c ∉ Field.pointed whole places := fun member =>
    (Field.mem_pointed member).elim (Text.notMem_of_isAnyDigit digits other) noPoint
  have plain := withoutExponent?_eq_self (nothing 'e' (by decide) (by decide))
    (nothing 'E' (by decide) (by decide))
  have range : InRange (places.length - 0) := by
    have few := amount.few
    rw [InRange, show Nat.pow 2 63 = 9223372036854775808 from rfl]
    omega
  have read := @ofChars?_eq whole places [] 0 (.plain digits)
    (Text.notMem_of_isAnyDigit hw (by decide)) amount.digits (by simpa using plain) range
  rw [List.append_nil, ← (Signed.plain digits).coefficient?,
    coefficient?_eq_natural? digits] at read
  simpa [Option.map_map, Function.comp_def] using read

theorem chars_fraction {places : List Char} (h : places.all Text.isDigit = true)
    (few : places.length ≤ 2) (nonzero : Text.digitsFrom 0 places ≠ 0) :
    chars ⟨Text.digitsFrom 0 places, places.length⟩ = '0' :: '.' :: places := by
  have ne : places ≠ [] := fun nil => nonzero (by rw [nil]; rfl)
  have length := List.length_pos_iff.mpr ne
  have filled := Text.zeros_toDigits h ne
  have short : (Nat.toDigits 10 (Text.digitsFrom 0 places)).length ≤ places.length :=
    (Nat.length_toDigits_le_iff (by decide) length).mpr (Text.digitsFrom_lt h)
  have positive : ¬ (Text.digitsFrom 0 places : Int) < 0 := by omega
  have plain : ¬ 5 < (places.length : Int) -
      (Nat.toDigits 10 (Text.digitsFrom 0 places)).length := by omega
  have zeros : ((places.length : Int) -
      (Nat.toDigits 10 (Text.digitsFrom 0 places)).length).toNat =
      places.length - (Nat.toDigits 10 (Text.digitsFrom 0 places)).length := by omega
  simp only [chars, magnitudeChars, Int.natAbs_natCast, Int.natCast_eq_zero, if_neg nonzero,
    if_neg positive, if_neg plain, zeros,
    if_pos (show (0 : Int) < places.length by omega),
    if_pos (show ((Nat.toDigits 10 (Text.digitsFrom 0 places)).length : Int) ≤ places.length by
      omega)]
  rw [List.cons_append, List.cons_append, filled]

theorem chars_pointed {c : Char} {rest places : List Char}
    (h : (c :: rest ++ places).all Text.isDigit = true) (few : places.length ≤ 2)
    (nonzero : c ≠ '0') :
    chars ⟨Text.digitsFrom 0 (c :: rest ++ places), places.length⟩ =
      Field.pointed (c :: rest) places := by
  have printed : Nat.toDigits 10 (Text.digitsFrom 0 (c :: rest ++ places)) =
      c :: rest ++ places := Text.toDigits_digitsFrom h nonzero
  have positive : Text.digitsFrom 0 (c :: rest ++ places) ≠ 0 := by
    have least := Text.le_digitsFrom (s := rest ++ places)
      (List.all_eq_true.mp h c (List.mem_cons_self ..)) nonzero
    have := Nat.pow_pos (n := (rest ++ places).length) (show 0 < 10 by decide)
    rw [List.cons_append]
    omega
  generalize Text.digitsFrom 0 (c :: rest ++ places) = n at printed positive
  have sign : ¬ (n : Int) < 0 := by omega
  simp only [chars, magnitudeChars, Int.natAbs_natCast, Int.natCast_eq_zero, if_neg positive,
    if_neg sign, printed, Int.toNat_natCast]
  cases places with
  | nil => simp [Field.pointed]
  | cons d others =>
    have scale : (0 : Int) < ((d :: others).length : Nat) := by simp
    have plain : ¬ 5 < ((d :: others).length : Int) - (c :: rest ++ d :: others).length := by
      omega
    have long : ¬ ((c :: rest ++ d :: others).length : Int) ≤ ((d :: others).length : Nat) := by
      simp
      omega
    have split : (c :: rest ++ d :: others).length - (d :: others).length = (c :: rest).length := by
      simp
      omega
    rw [if_pos scale, if_neg plain, if_neg long, split, List.take_left', List.drop_left',
      Field.pointed, if_neg (List.cons_ne_nil d others)] <;> rfl

theorem chars_nothing (scale : Int) : chars ⟨0, scale⟩ = ['0'] := rfl

/-- An amount is printed as it was written, unless it is nothing with places. -/
theorem chars_of_ofChars? {s : List Char} {n : Decimal} (pattern : Field.isAmount s = true)
    (h : ofChars? s = some n) :
    n.chars = s ∨ s = ['0', '.', '0'] ∨ s = ['0', '.', '0', '0'] := by
  obtain ⟨whole, places, rfl, amount⟩ := Field.amount_of_isAmount pattern
  rw [ofChars?_pointed amount] at h
  obtain ⟨m, read, rfl⟩ := Option.map_eq_some_iff.mp h
  obtain ⟨_, digits, rfl⟩ := Text.natural?_eq_some_iff.mp read
  rcases Field.isWhole_cases amount.isWhole with rfl | ⟨c, rest, rfl, nonzero, _⟩
  · have behind : Text.digitsFrom 0 (['0'] ++ places) = Text.digitsFrom 0 places := by
      rw [Text.digitsFrom_append]
      rfl
    have ascii : places.all Text.isDigit = true := by
      rw [List.all_append, Bool.and_eq_true] at digits
      exact digits.2
    rw [behind]
    by_cases nothing : Text.digitsFrom 0 places = 0
    · have zeros : places = List.replicate places.length '0' :=
        Text.eq_of_digitsFrom_eq ascii (by simp [Text.isDigit]) (by simp) (by
          rw [nothing, ← List.append_nil (List.replicate _ _), Text.digitsFrom_zeros]
          rfl)
      rw [nothing]
      have few := amount.few
      generalize places.length = k at few zeros
      subst zeros
      obtain rfl | rfl | rfl : k = 0 ∨ k = 1 ∨ k = 2 := by omega
      · exact .inl (chars_nothing _)
      · exact .inr (.inl rfl)
      · exact .inr (.inr rfl)
    · have ne : places ≠ [] := fun nil => nothing (by rw [nil]; rfl)
      rw [chars_fraction ascii amount.few nothing, Field.pointed, if_neg ne]
      exact .inl rfl
  · exact .inl (chars_pointed digits amount.few nonzero)

end Decimal

end Runbook

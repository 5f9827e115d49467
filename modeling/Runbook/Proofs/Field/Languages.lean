import Mathlib.Data.List.Basic
import Mathlib.Tactic.IntervalCases
import Runbook.Proofs.Field.Rendering
import Runbook.Proofs.Text.Items

namespace Runbook

namespace Language

structure Digits (count : Nat) (s : List Char) : Prop where
  length : s.length = count
  ascii : ∀ c ∈ s, Text.isDigit c = true

/-- No white space and a single `@`, with a name in front of it. Behind it, there are two or more
parts between dots, and none of them is empty. -/
structure Email (s : List Char) : Prop where
  unspaced : ∀ c ∈ s, Text.isSpace c = false
  single : s.count '@' = 1
  parts : ∃ name domain, s = name ++ '@' :: domain ∧ name ≠ [] ∧
    2 ≤ (domain.splitOn '.').length ∧ ∀ part ∈ domain.splitOn '.', part ≠ []

inductive Integer : List Char → Prop where
  | plain {digits : List Char} (nonempty : digits ≠ [])
      (all : ∀ c ∈ digits, Text.isAnyDigit c = true) : Integer digits
  | minus {digits : List Char} (nonempty : digits ≠ [])
      (all : ∀ c ∈ digits, Text.isAnyDigit c = true) : Integer ('-' :: digits)

/-- A single zero, or digits of ASCII of which the first is no zero. -/
inductive Whole : List Char → Prop where
  | zero : Whole ['0']
  | digits {c : Char} {rest : List Char} (nonzero : c ≠ '0')
      (ascii : ∀ d ∈ c :: rest, Text.isDigit d = true) : Whole (c :: rest)

inductive Currency : List Char → Prop where
  | whole {s : List Char} (whole : Whole s) : Currency s
  | places {s places : List Char} (whole : Whole s) (digits : Digits 1 places ∨ Digits 2 places) :
    Currency (s ++ '.' :: places)

/-- One year in four has a day more, but of the full hundreds only one in four. -/
def Leap (year : Nat) : Prop := 4 ∣ year ∧ (100 ∣ year → 400 ∣ year)

instance (year : Nat) : Decidable (Leap year) := by unfold Leap; infer_instance

def monthLengths (year : Nat) : List Nat :=
  [31, if Leap year then 29 else 28, 31, 30, 31, 30, 31, 31, 30, 31, 30, 31]

/-- A day of the Gregorian calendar, which is extended to the years before it. -/
structure IsDay (year month day : Nat) : Prop where
  fromJanuary : 1 ≤ month
  fromFirst : 1 ≤ day
  toLast : ∃ last, (monthLengths year)[month - 1]? = some last ∧ day ≤ last

inductive Dated : List Char → Prop where
  | digits {years months days : List Char} (years4 : Digits 4 years) (months2 : Digits 2 months)
      (days2 : Digits 2 days)
      (day : IsDay (Text.decimalValue years) (Text.decimalValue months) (Text.decimalValue days)) :
    Dated (years ++ '-' :: months ++ '-' :: days)

/-- The texts that a kind of field takes, of those that are not blank. -/
def Takes (raw : String) : FieldKind → Prop
  | .text most => ∀ n, most = some n → raw.toList.length ≤ n.toNat
  | .email => Email raw.toList
  | .date => Dated raw.toList
  | .integer => Integer raw.toList
  | .currency => Currency raw.toList
  | .boolean => True
  | .radio choices => ∃ choice ∈ choices, choice.value = raw

def refusal? : FieldKind → Option FieldError
  | .text most => most.map fun n => .tooLong n.toNat
  | .email => some .invalidEmail
  | .date => some .invalidDate
  | .integer => some .invalidInteger
  | .currency => some .invalidCurrency
  | .boolean => none
  | .radio _ => some .invalidOption

theorem email_of_isEmail {s : List Char} (h : Field.isEmail s = true) : Email s := by
  unfold Field.isEmail at h
  split at h
  next => cases h
  next name domain cut =>
    obtain ⟨rfl, front⟩ := Text.eq_append_of_cut? cut
    simp only [Bool.and_eq_true, decide_eq_true_eq, List.all_eq_true, Bool.not_eq_true',
      bne_iff_ne, ne_eq] at h
    obtain ⟨⟨⟨nonempty, nameUnspaced⟩, two⟩, parts⟩ := h
    have inDomain (c : Char) (hc : c ∈ domain) : Text.isSpace c = false ∧ c ≠ '@' := by
      by_cases dot : c = '.'
      · subst dot
        decide
      · obtain ⟨part, hp, hc⟩ := (Text.mem_iff_pieces dot).mp hc
        exact (parts part hp).2 c hc
    rw [Text.pieces_eq_splitOn] at two parts
    refine ⟨fun c hc => ?_, ?_, name, domain, rfl, nonempty, two, fun part hp => (parts part hp).1⟩
    · rcases List.mem_append.mp hc with hc | hc
      · exact nameUnspaced c hc
      · rcases List.mem_cons.mp hc with rfl | hc
        · rfl
        · exact (inDomain c hc).1
    · have behind : '@' ∉ domain := fun hc => (inDomain '@' hc).2 rfl
      rw [List.count_append, List.count_cons_self, List.count_eq_zero.mpr front,
        List.count_eq_zero.mpr behind]

theorem isEmail_of_email {s : List Char} (h : Email s) : Field.isEmail s = true := by
  obtain ⟨unspaced, single, name, domain, rfl, nonempty, two, parts⟩ := h
  rw [List.count_append, List.count_cons_self] at single
  have front : '@' ∉ name := List.count_eq_zero.mp (by omega)
  have behind : '@' ∉ domain := List.count_eq_zero.mp (by omega)
  rw [← Text.pieces_eq_splitOn] at two parts
  have inPart (part : List Char) (hp : part ∈ Text.pieces '.' domain) (c : Char) (hc : c ∈ part) :
      c ∈ domain := by
    have dot : c ≠ '.' := fun same => Text.notMem_of_mem_pieces hp (same ▸ hc)
    exact (Text.mem_iff_pieces dot).mpr ⟨part, hp, hc⟩
  simp only [Field.isEmail, Text.cut?_eq_some_of_notMem front, Bool.and_eq_true,
    decide_eq_true_eq, List.all_eq_true, Bool.not_eq_true', bne_iff_ne, ne_eq]
  refine ⟨⟨⟨nonempty, fun c hc => unspaced c (by simp [hc])⟩, two⟩,
    fun part hp => ⟨parts part hp, ?_⟩⟩
  intro c hc
  have inside := inPart part hp c hc
  exact ⟨unspaced c (by simp [inside]), fun same => behind (same ▸ inside)⟩

theorem email_iff {s : List Char} : Field.isEmail s = true ↔ Email s :=
  ⟨email_of_isEmail, isEmail_of_email⟩

theorem isInteger_iff {s : List Char} : Field.isInteger s = true ↔ Integer s := by
  constructor
  · intro h
    unfold Field.isInteger at h
    split at h
    all_goals
      simp only [Bool.and_eq_true, decide_eq_true_eq, List.all_eq_true] at h
    next => exact .minus h.1 h.2
    next => exact .plain h.1 h.2
  · intro h
    cases h with
    | minus nonempty all => simpa [Field.isInteger, nonempty] using all
    | plain nonempty all =>
      unfold Field.isInteger
      split
      next => exact absurd (all '-' (List.mem_cons_self ..)) (by decide)
      next => simpa [nonempty] using all

theorem one_le_of_isDigit {c : Char} (digit : Text.isDigit c = true) (nonzero : c ≠ '0') :
    '1' ≤ c ∧ c ≤ '9' := by
  simp only [Text.isDigit, Bool.and_eq_true, decide_eq_true_eq, Char.le_def,
    UInt32.le_iff_toNat_le] at digit ⊢
  have other : c.val.toNat ≠ '0'.val.toNat := fun same => nonzero (Char.toNat_inj.mp same)
  have zero : '0'.val.toNat = 48 := rfl
  have one : '1'.val.toNat = 49 := rfl
  omega

theorem isWhole_of_whole {s : List Char} (h : Whole s) : Field.isWhole s = true := by
  cases h with
  | zero => rfl
  | @digits c rest nonzero ascii =>
    obtain ⟨low, high⟩ := one_le_of_isDigit (ascii c (List.mem_cons_self ..)) nonzero
    have others := Text.all_isAnyDigit fun d (hd : d ∈ rest) => ascii d (List.mem_cons_of_mem _ hd)
    unfold Field.isWhole
    split
    next => rfl
    next d rest _ same =>
      cases same
      simp [low, high, others]
    next same => cases same

theorem whole_of_isWhole {s : List Char} (h : Field.isWhole s = true)
    (ascii : ∀ c ∈ s, Text.isDigit c = true) : Whole s := by
  rcases Field.isWhole_cases h with rfl | ⟨c, rest, rfl, nonzero, _⟩
  · exact .zero
  · exact .digits nonzero ascii

theorem Whole.ascii {s : List Char} (h : Whole s) : ∀ c ∈ s, Text.isDigit c = true := by
  cases h with
  | zero =>
    intro c hc
    rw [List.mem_singleton.mp hc]
    rfl
  | digits _ ascii => exact ascii

theorem currency_of_ofChars? {s : List Char} {n : Decimal} (pattern : Field.isAmount s = true)
    (h : Decimal.ofChars? s = some n) : Currency s := by
  obtain ⟨whole, places, rfl, amount⟩ := Field.amount_of_isAmount pattern
  rw [Decimal.ofChars?_pointed amount] at h
  obtain ⟨_, read, _⟩ := Option.map_eq_some_iff.mp h
  obtain ⟨_, ascii, _⟩ := Text.natural?_eq_decimalValue.mp read
  have wholeDigits := whole_of_isWhole amount.isWhole fun c hc => ascii c (by simp [hc])
  have few := amount.few
  unfold Field.pointed
  split
  next => exact .whole wholeDigits
  next nonempty =>
    have positive := List.length_pos_iff.mpr nonempty
    have placesDigits : ∀ c ∈ places, Text.isDigit c = true := fun c hc => ascii c (by simp [hc])
    rcases (by omega : places.length = 1 ∨ places.length = 2) with one | two
    · exact .places wholeDigits (.inl ⟨one, placesDigits⟩)
    · exact .places wholeDigits (.inr ⟨two, placesDigits⟩)

theorem Currency.exists_pointed {s : List Char} (h : Currency s) :
    ∃ whole places, s = Field.pointed whole places ∧ Whole whole ∧ places.length ≤ 2 ∧
      ∀ c ∈ places, Text.isDigit c = true := by
  cases h with
  | whole whole => exact ⟨s, [], rfl, whole, Nat.zero_le _, fun _ hc => absurd hc List.not_mem_nil⟩
  | @places whole places isWhole digits =>
    have nonempty : places ≠ [] := by
      rintro rfl
      rcases digits with ⟨nothing, _⟩ | ⟨nothing, _⟩
      · cases nothing
      · cases nothing
    refine ⟨whole, places, by rw [Field.pointed, if_neg nonempty], isWhole, ?_⟩
    rcases digits with ⟨one, ascii⟩ | ⟨two, ascii⟩
    · exact ⟨by omega, ascii⟩
    · exact ⟨by omega, ascii⟩

theorem Currency.read {s : List Char} (h : Currency s) :
    Field.isAmount s = true ∧ ∃ n, Decimal.ofChars? s = some n := by
  obtain ⟨whole, places, rfl, isWhole, few, ascii⟩ := h.exists_pointed
  have amount : Field.Amount whole places :=
    ⟨isWhole_of_whole isWhole, Text.all_isAnyDigit ascii, few⟩
  have nonempty : whole ++ places ≠ [] := by
    cases isWhole with
    | zero => simp
    | digits => simp
  have read := Text.natural?_eq_decimalValue.mpr ⟨nonempty, fun c hc =>
    (List.mem_append.mp hc).elim (isWhole.ascii c) (ascii c), rfl⟩
  refine ⟨Field.isAmount_pointed amount, ⟨Text.decimalValue (whole ++ places), places.length⟩, ?_⟩
  rw [Decimal.ofChars?_pointed amount, read]
  rfl

theorem currency_iff {s : List Char} :
    (Field.isAmount s = true ∧ ∃ n, Decimal.ofChars? s = some n) ↔ Currency s :=
  ⟨fun ⟨pattern, _, read⟩ => currency_of_ofChars? pattern read, Currency.read⟩

theorem isLeapYear_iff (year : Nat) : Date.isLeapYear year = true ↔ Leap year := by
  simp only [Date.isLeapYear, Leap, Bool.and_eq_true, Bool.or_eq_true, decide_eq_true_eq]
  omega

theorem monthLengths_getElem? (year : Nat) {month : Nat} (least : 1 ≤ month) (most : month ≤ 12) :
    (monthLengths year)[month - 1]? = some (Date.daysInMonth year month) := by
  have leap := isLeapYear_iff year
  unfold monthLengths Date.daysInMonth
  by_cases long : Leap year
  · rw [if_pos long, if_pos (leap.mpr long)]
    interval_cases month <;> rfl
  · rw [if_neg long, if_neg (fun h => long (leap.mp h))]
    interval_cases month <;> rfl

theorem isDay_iff {year month day : Nat} (represented : year ≤ 9999) :
    Date.isDay year month day = true ↔ IsDay year month day := by
  simp only [Date.isDay, Bool.and_eq_true, decide_eq_true_eq]
  constructor
  · rintro ⟨⟨⟨⟨_, least⟩, most⟩, first⟩, last⟩
    exact ⟨least, first, _, monthLengths_getElem? year least most, last⟩
  · rintro ⟨least, first, length, found, last⟩
    have most : month ≤ 12 := by
      have bound := (List.getElem?_eq_some_iff.mp found).1
      simp only [monthLengths, List.length_cons, List.length_nil] at bound
      omega
    rw [monthLengths_getElem? year least most] at found
    cases found
    exact ⟨⟨⟨⟨⟨by omega, by omega⟩, least⟩, most⟩, first⟩, last⟩

theorem ofParts?_eq_some_iff {year month day : Nat} (represented : year ≤ 9999) :
    (∃ date, Date.ofParts? year month day = some date) ↔ IsDay year month day := by
  rw [← isDay_iff represented, Date.ofParts?]
  split
  next valid => simp [valid]
  next invalid => simp [invalid]

theorem digits_iff {years months days : List Char} :
    Date.Digits years months days ↔ Digits 4 years ∧ Digits 2 months ∧ Digits 2 days := by
  constructor
  · rintro ⟨⟨hy, four⟩, ⟨hm, two⟩, hd, two'⟩
    exact ⟨⟨four, List.all_eq_true.mp hy⟩, ⟨two, List.all_eq_true.mp hm⟩,
      two', List.all_eq_true.mp hd⟩
  · rintro ⟨⟨four, hy⟩, ⟨two, hm⟩, two', hd⟩
    exact ⟨⟨List.all_eq_true.mpr hy, four⟩, ⟨List.all_eq_true.mpr hm, two⟩,
      List.all_eq_true.mpr hd, two'⟩

theorem Digits.year_le {years : List Char} (h : Digits 4 years) :
    Text.digitsFrom 0 years ≤ 9999 := by
  have small := Text.digitsFrom_lt (List.all_eq_true.mpr h.ascii)
  rw [h.length] at small
  omega

theorem dated_of_ofChars? {s : List Char} {date : Date} (pattern : Field.isDatePattern s = true)
    (h : Date.ofChars? s = some date) : Dated s := by
  obtain ⟨years, months, days, rfl, digits, named⟩ := Date.digits_of_ofChars? pattern h
  obtain ⟨four, two, two'⟩ := digits_iff.mp digits
  have day := (ofParts?_eq_some_iff four.year_le).mp ⟨date, named⟩
  simp only [Text.digitsFrom_eq_decimalValue] at day
  exact .digits four two two' day

theorem isDatePattern_digits {years months days : List Char} (four : Digits 4 years)
    (two : Digits 2 months) (two' : Digits 2 days) :
    Field.isDatePattern (years ++ '-' :: months ++ '-' :: days) = true := by
  obtain ⟨length, hy⟩ := four
  obtain ⟨a, b, c, d, rfl⟩ : ∃ a b c d, years = [a, b, c, d] := by
    match years, length with
    | [a, b, c, d], _ => exact ⟨a, b, c, d, rfl⟩
  obtain ⟨length, hm⟩ := two
  obtain ⟨e, f, rfl⟩ := List.length_eq_two.mp length
  obtain ⟨length, hd⟩ := two'
  obtain ⟨g, k, rfl⟩ := List.length_eq_two.mp length
  have digits : ∀ x ∈ [a, b, c, d] ++ [e, f] ++ [g, k], Text.isDigit x = true := by
    intro x hx
    rw [List.mem_append, List.mem_append] at hx
    rcases hx with (hx | hx) | hx
    · exact hy x hx
    · exact hm x hx
    · exact hd x hx
  exact Text.all_isAnyDigit digits

theorem Dated.read {s : List Char} (h : Dated s) :
    Field.isDatePattern s = true ∧ ∃ date, Date.ofChars? s = some date := by
  cases h with
  | digits four two two' day =>
    refine ⟨isDatePattern_digits four two two', ?_⟩
    rw [Date.ofChars?_digits (digits_iff.mpr ⟨four, two, two'⟩),
      ofParts?_eq_some_iff four.year_le]
    simpa only [Text.digitsFrom_eq_decimalValue] using day

theorem dated_iff {s : List Char} :
    (Field.isDatePattern s = true ∧ ∃ date, Date.ofChars? s = some date) ↔ Dated s :=
  ⟨fun ⟨pattern, _, read⟩ => dated_of_ofChars? pattern read, Dated.read⟩

/-- A text of the language is given a value, and every other text the refusal of the kind. -/
inductive Judged (raw : String) (kind : FieldKind) : Except FieldError TypedValue → Prop where
  | taken {value : TypedValue} (takes : Takes raw kind) : Judged raw kind (.ok value)
  | refused {e : FieldError} (other : ¬Takes raw kind) (refusal : refusal? kind = some e) :
    Judged raw kind (.error e)

theorem Judged.matched {raw : String} {kind : FieldKind} {pattern : Bool} {value : TypedValue}
    {e : FieldError} (language : pattern = true ↔ Takes raw kind)
    (refusal : refusal? kind = some e) :
    Judged raw kind (if pattern = true then .ok value else .error e) := by
  split
  next h => exact .taken (language.mp h)
  next h => exact .refused (fun takes => h (language.mpr takes)) refusal

theorem judged (raw : String) (kind : FieldKind) :
    Judged raw kind (Field.validateText kind raw) := by
  cases kind with
  | email => exact .matched email_iff rfl
  | date =>
    unfold Field.validateText
    dsimp only
    split
    next pattern =>
      split
      next date read => exact .taken (dated_iff.mp ⟨pattern, date, read⟩)
      next nothing =>
        have unread : ∀ date, Date.ofChars? raw.toList ≠ some date :=
          Option.eq_none_iff_forall_ne_some.mp nothing
        exact .refused (fun takes => (dated_iff.mpr takes).2.elim unread) rfl
    next other => exact .refused (fun takes => other (dated_iff.mpr takes).1) rfl
  | integer => exact .matched isInteger_iff rfl
  | currency =>
    unfold Field.validateText
    dsimp only
    split
    next pattern =>
      split
      next n read => exact .taken (currency_iff.mp ⟨pattern, n, read⟩)
      next nothing =>
        have unread : ∀ n, Decimal.ofChars? raw.toList ≠ some n :=
          Option.eq_none_iff_forall_ne_some.mp nothing
        exact .refused (fun takes => (currency_iff.mpr takes).2.elim unread) rfl
    next other => exact .refused (fun takes => other (currency_iff.mpr takes).1) rfl
  | boolean => exact .taken trivial
  | radio choices => exact .matched (by simp [Takes]) rfl
  | text most =>
    cases most with
    | none => exact .taken fun _ nothing => by cases nothing
    | some n =>
      unfold Field.validateText
      dsimp only
      split
      next long => exact .refused (fun short => Nat.not_le.mpr long (short n rfl)) rfl
      next short =>
        refine .taken fun m same => ?_
        cases same
        exact Nat.le_of_not_lt short

end Language

namespace Field

/-- A field takes exactly the texts of the language of its kind, if they are not blank, and refuses
every other one for the reason of its kind. -/
theorem validate_filled_iff {field : Field} {raw : String}
    (filled : ∃ c ∈ raw.toList, Text.isSpace c = false) :
    ((∃ value, field.validate raw = .ok value) ↔ Language.Takes raw field.kind) ∧
      ∀ e, field.validate raw = .error e ↔
        ¬Language.Takes raw field.kind ∧ Language.refusal? field.kind = some e := by
  have judged : Language.Judged raw field.kind (field.validate raw) := by
    by_cases boolean : field.kind = .boolean
    · rw [validate, if_pos boolean]
      exact .taken (boolean ▸ trivial)
    · have notBlank : Text.isBlank raw = false := by
        obtain ⟨c, hc, other⟩ := filled
        rw [Text.isBlank, List.all_eq_false]
        exact ⟨c, hc, by simp [other]⟩
      rw [validate_filled boolean notBlank]
      exact Language.judged raw field.kind
  cases outcome : field.validate raw with
  | ok value =>
    rw [outcome] at judged
    cases judged with
    | taken takes => simp [takes]
  | error e =>
    rw [outcome] at judged
    cases judged with
    | refused other refusal => simp [other, refusal]

/-- A digit of another script is let through by the pattern, and the amount is refused all the
same. -/
theorem validate_filled_foreign :
    isAmount "1５".toList = true ∧ price.validate "1５" = .error .invalidCurrency ∧
      ¬Language.Takes "1５" .currency := by
  have refused : price.validate "1５" = .error .invalidCurrency := by decide +kernel
  obtain ⟨_, reason⟩ := @validate_filled_iff price "1５" ⟨'1', by decide, by decide⟩
  exact ⟨by decide, refused, ((reason _).mp refused).1⟩

end Field

end Runbook

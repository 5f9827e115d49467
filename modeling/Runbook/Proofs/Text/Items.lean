import Mathlib.Data.List.TakeWhile
import Runbook.Text

namespace Runbook.Text

structure Trimmed (s : List Char) : Prop where
  first : ∀ c, s.head? = some c → isSpace c = false
  last : ∀ c, s.getLast? = some c → isSpace c = false

theorem not_isWord_of_isSpace {c : Char} (h : isSpace c = true) : isWord c = false := by
  have a : 'a'.val.toNat = 97 := rfl
  have z : 'z'.val.toNat = 122 := rfl
  have capital : 'A'.val.toNat = 65 := rfl
  have last : 'Z'.val.toNat = 90 := rfl
  have zero : '0'.val.toNat = 48 := rfl
  have nine : '9'.val.toNat = 57 := rfl
  have other : c ≠ '_' := by
    rintro rfl
    cases h
  have code : c.val.toNat = c.toNat := rfl
  simp only [isSpace, Bool.or_eq_true, Bool.and_eq_true, decide_eq_true_eq, beq_iff_eq] at h
  simp only [isWord, isLetter, isDigit, Bool.or_eq_false_iff, Bool.and_eq_false_iff,
    decide_eq_false_iff_not, beq_eq_false_iff_ne, Char.le_def, UInt32.le_iff_toNat_le]
  refine ⟨⟨⟨?_, ?_⟩, ?_⟩, other⟩ <;> omega

theorem trimStartChars_append {before s : List Char} (blank : ∀ c ∈ before, isSpace c = true) :
    trimStartChars (before ++ s) = trimStartChars s :=
  List.dropWhile_append_of_pos blank

theorem trimStartChars_of_first {s : List Char}
    (first : ∀ c, s.head? = some c → isSpace c = false) : trimStartChars s = s := by
  cases s with
  | nil => rfl
  | cons c s => exact List.dropWhile_cons_of_neg (by simp [first c rfl])

theorem trimEndChars_append {s after : List Char} (blank : ∀ c ∈ after, isSpace c = true) :
    trimEndChars (s ++ after) = trimEndChars s := by
  have reversed : ∀ c ∈ after.reverse, isSpace c = true :=
    fun c hc => blank c (List.mem_reverse.mp hc)
  rw [trimEndChars, List.reverse_append, List.dropWhile_append_of_pos reversed]
  rfl

theorem trimEndChars_of_last {s : List Char}
    (last : ∀ c, s.getLast? = some c → isSpace c = false) : trimEndChars s = s := by
  have kept : s.reverse.dropWhile isSpace = s.reverse :=
    trimStartChars_of_first fun c hc => last c (by rwa [List.head?_reverse] at hc)
  rw [trimEndChars, kept, List.reverse_reverse]

theorem trimChars_padded {before s after : List Char} (front : ∀ c ∈ before, isSpace c = true)
    (back : ∀ c ∈ after, isSpace c = true) (trimmed : Trimmed s) :
    trimChars (before ++ s ++ after) = s := by
  rw [trimChars, List.append_assoc, trimStartChars_append front]
  cases s with
  | nil =>
    have gone : trimStartChars after = [] := List.dropWhile_eq_nil_iff.mpr back
    rw [List.nil_append, gone]
    rfl
  | cons c s =>
    have first : ∀ d, (c :: s ++ after).head? = some d → isSpace d = false := by
      intro d hd
      exact trimmed.first d (by simpa using hd)
    rw [trimStartChars_of_first first, trimEndChars_append back, trimEndChars_of_last trimmed.last]

theorem Trimmed.trimChars_eq {s : List Char} (h : Trimmed s) : trimChars s = s := by
  have nothing : ∀ c ∈ ([] : List Char), isSpace c = true := fun _ hc => absurd hc List.not_mem_nil
  simpa using trimChars_padded nothing nothing h

theorem trimChars_of_not_isSpace {s : List Char} (h : ∀ c ∈ s, isSpace c = false) :
    trimChars s = s :=
  Trimmed.trimChars_eq
    ⟨fun c hc => h c (List.mem_of_head? hc), fun c hc => h c (List.mem_of_getLast? hc)⟩

theorem trimmed_trimChars (s : List Char) : Trimmed (trimChars s) where
  first c hc := by
    -- The first character is that of the text without the white space in front.
    have shown : (trimStartChars s).head? = some c := by
      obtain ⟨rest, hr⟩ := List.head?_eq_some_iff.mp hc
      have sub : trimChars s <+: trimStartChars s := by
        have := List.dropWhile_suffix isSpace (l := (trimStartChars s).reverse)
        rw [trimChars, trimEndChars, ← List.reverse_suffix, List.reverse_reverse]
        exact this
      obtain ⟨tail, ht⟩ := sub
      rw [← ht, hr]
      rfl
    have := List.head?_dropWhile_not isSpace s
    rw [trimStartChars] at shown
    simpa [shown] using this
  last c hc := by
    have := List.head?_dropWhile_not isSpace (trimStartChars s).reverse
    rw [trimChars, trimEndChars, List.getLast?_reverse] at hc
    simpa [hc] using this

theorem exists_padding (s : List Char) : ∃ before after, (∀ c ∈ before, isSpace c = true) ∧
    (∀ c ∈ after, isSpace c = true) ∧ s = before ++ trimChars s ++ after := by
  refine ⟨s.takeWhile isSpace, ((trimStartChars s).reverse.takeWhile isSpace).reverse, ?_, ?_, ?_⟩
  · exact fun c hc => List.all_eq_true.mp List.all_takeWhile c hc
  · exact fun c hc => List.all_eq_true.mp List.all_takeWhile c (List.mem_reverse.mp hc)
  · have whole : (trimStartChars s).reverse.takeWhile isSpace ++
        (trimStartChars s).reverse.dropWhile isSpace = (trimStartChars s).reverse :=
      List.takeWhile_append_dropWhile
    have back : trimChars s ++ ((trimStartChars s).reverse.takeWhile isSpace).reverse =
        trimStartChars s := by
      rw [trimChars, trimEndChars, ← List.reverse_append, whole, List.reverse_reverse]
    rw [List.append_assoc, back]
    exact List.takeWhile_append_dropWhile.symm

theorem trimChars_around {before after : List Char} (s : List Char)
    (front : ∀ c ∈ before, isSpace c = true) (back : ∀ c ∈ after, isSpace c = true) :
    trimChars (before ++ s ++ after) = trimChars s := by
  obtain ⟨inFront, behind, first, last, whole⟩ := exists_padding s
  have regrouped : before ++ s ++ after =
      (before ++ inFront) ++ trimChars s ++ (behind ++ after) :=
    calc before ++ s ++ after
      _ = before ++ (inFront ++ trimChars s ++ behind) ++ after :=
        congrArg (before ++ · ++ after) whole
      _ = (before ++ inFront) ++ trimChars s ++ (behind ++ after) := by
        simp only [List.append_assoc]
  rw [regrouped]
  refine trimChars_padded ?_ ?_ (trimmed_trimChars s)
  · exact fun c hc => (List.mem_append.mp hc).elim (front c) (first c)
  · exact fun c hc => (List.mem_append.mp hc).elim (last c) (back c)

theorem trimChars_eq_nil_iff {s : List Char} :
    trimChars s = [] ↔ ∀ c ∈ s, isSpace c = true := by
  constructor
  · intro h
    obtain ⟨before, after, front, back, whole⟩ := exists_padding s
    rw [h, List.append_nil] at whole
    intro c hc
    rw [whole] at hc
    rcases List.mem_append.mp hc with hc | hc
    · exact front c hc
    · exact back c hc
  · intro blank
    have gone : trimStartChars s = [] := List.dropWhile_eq_nil_iff.mpr blank
    rw [trimChars, gone]
    rfl

theorem pieces_eq_splitOn (separator : Char) (s : List Char) :
    pieces separator s = s.splitOn separator := by
  induction s with
  | nil => rfl
  | cons c s ih =>
    rw [pieces, ih, List.splitOn_cons_eq_if_modifyHead]
    simp only [beq_iff_eq]
    split
    next => rfl
    next =>
      cases cut : s.splitOn separator with
      | nil => exact absurd cut (List.splitOn_ne_nil separator s)
      | cons piece others => rfl

theorem notMem_of_mem_pieces {separator : Char} {s piece : List Char}
    (h : piece ∈ pieces separator s) : separator ∉ piece := by
  induction s generalizing piece with
  | nil => simp_all [pieces]
  | cons c s ih =>
    unfold pieces at h
    split at h
    next =>
      rcases List.mem_cons.mp h with rfl | h
      · exact List.not_mem_nil
      · exact ih h
    next other =>
      split at h
      next nothing => exact absurd nothing (pieces_ne_nil separator s)
      next first rest cut =>
        rw [cut] at ih
        rcases List.mem_cons.mp h with rfl | h
        · have free := ih (List.mem_cons_self ..)
          exact fun member => (List.mem_cons.mp member).elim (Ne.symm other) free
        · exact ih (List.mem_cons_of_mem _ h)

theorem mem_iff_pieces {separator c : Char} {s : List Char} (other : c ≠ separator) :
    c ∈ s ↔ ∃ piece ∈ pieces separator s, c ∈ piece := by
  induction s with
  | nil => simp [pieces]
  | cons d s ih =>
    rw [List.mem_cons, ih, pieces]
    split
    next same => simp [other, same]
    next =>
      split
      next nothing => exact absurd nothing (pieces_ne_nil separator s)
      next first rest cut => simp [cut, or_assoc]

theorem pieces_eq_iff {separator : Char} {s : List Char} {parts : List (List Char)} :
    pieces separator s = parts ↔ parts ≠ [] ∧ (∀ part ∈ parts, separator ∉ part) ∧
      [separator].intercalate parts = s := by
  constructor
  · rintro rfl
    refine ⟨pieces_ne_nil separator s, fun part => notMem_of_mem_pieces, ?_⟩
    rw [pieces_eq_splitOn]
    exact List.intercalate_splitOn separator
  · rintro ⟨nonempty, free, rfl⟩
    rw [pieces_eq_splitOn]
    exact List.splitOn_intercalate separator free nonempty

/-- The pieces are those of a list: the items one after another, each with white space around it,
and between them any number of blank pieces. -/
inductive Spread : List (List Char) → List String → Prop where
  | nil : Spread [] []
  | blank {piece : List Char} {pieces : List (List Char)} {items : List String}
      (blank : ∀ c ∈ piece, isSpace c = true) (rest : Spread pieces items) :
    Spread (piece :: pieces) items
  | item {before after : List Char} {item : String} {pieces : List (List Char)}
      {items : List String} (front : ∀ c ∈ before, isSpace c = true)
      (back : ∀ c ∈ after, isSpace c = true) (nonempty : item ≠ "") (trimmed : Trimmed item.toList)
      (rest : Spread pieces items) :
    Spread ((before ++ item.toList ++ after) :: pieces) (item :: items)

def Lists (separator : Char) (text : String) (items : List String) : Prop :=
  ∃ pieces, pieces ≠ [] ∧ (∀ piece ∈ pieces, separator ∉ piece) ∧
    text = .ofList ([separator].intercalate pieces) ∧ Spread pieces items

theorem spread_iff {pieces : List (List Char)} {items : List String} :
    Spread pieces items ↔
      ((pieces.map trimChars).filter (· ≠ [])).map String.ofList = items := by
  constructor
  · intro h
    induction h with
    | nil => rfl
    | blank blank _ ih => simpa [trimChars_eq_nil_iff.mpr blank] using ih
    | @item before after item pieces items front back nonempty trimmed _ ih =>
      rw [List.map_cons, trimChars_padded front back trimmed,
        List.filter_cons_of_pos (by simpa using nonempty), List.map_cons, String.ofList_toList, ih]
  · rintro rfl
    induction pieces with
    | nil => exact .nil
    | cons piece pieces ih =>
      by_cases blank : trimChars piece = []
      · rw [List.map_cons, List.filter_cons_of_neg (by simpa using blank)]
        exact .blank (trimChars_eq_nil_iff.mp blank) ih
      · rw [List.map_cons, List.filter_cons_of_pos (by simpa using blank), List.map_cons]
        obtain ⟨before, after, front, back, whole⟩ := exists_padding piece
        have nonempty : String.ofList (trimChars piece) ≠ "" := by simpa using blank
        have trimmed : Trimmed (String.ofList (trimChars piece)).toList := by
          rw [String.toList_ofList]
          exact trimmed_trimChars piece
        have item := Spread.item front back nonempty trimmed ih
        rwa [String.toList_ofList, ← whole] at item

end Runbook.Text

import Mathlib.Data.List.Chain
import Runbook.Template

namespace Runbook

def Segment.isLiteral : Segment → Bool
  | .literal _ => true
  | .placeholder _ => false

namespace Template

def IsName (name : List Char) : Prop := name ≠ [] ∧ ∀ c ∈ name, c ≠ '\x7b' ∧ c ≠ '\x7d'

def braced (name : List Char) : List Char := '\x7b' :: (name ++ ['\x7d'])

def Opens (s : List Char) : Prop := ∃ name after, IsName name ∧ s = braced name ++ after

/-- No name in braces stands anywhere in the text. -/
def Plain (text : List Char) : Prop := ∀ name, IsName name → ¬ braced name <:+: text

def written (segments : List Segment) : List Char :=
  segments.flatMap fun
    | .literal text => text.toList
    | .placeholder name => braced name.toList

/-- Literals are not empty, hold no placeholder, and go from one placeholder to the next. -/
structure Canonical (segments : List Segment) : Prop where
  named : ∀ name, .placeholder name ∈ segments → IsName name.toList
  filled : ∀ text, .literal text ∈ segments → text ≠ ""
  plain : ∀ text, .literal text ∈ segments → Plain text.toList
  apart : segments.IsChain fun s t => s.isLiteral = false ∨ t.isLiteral = false

theorem not_isBrace_iff {c : Char} : (!isBrace c) = true ↔ c ≠ '\x7b' ∧ c ≠ '\x7d' := by
  simp [isBrace]

theorem name?_eq_some_iff {s name after : List Char} :
    name? s = some (name, after) ↔ IsName name ∧ s = name ++ '\x7d' :: after := by
  constructor
  · intro h
    unfold name? at h
    split at h
    next c rest behind taken dropped =>
      cases h
      have whole := List.takeWhile_append_dropWhile (p := (!isBrace ·)) (l := s)
      rw [taken, dropped] at whole
      refine ⟨⟨List.cons_ne_nil _ _, fun d hd => not_isBrace_iff.mp ?_⟩, whole.symm⟩
      rw [← taken] at hd
      exact List.all_eq_true.mp List.all_takeWhile d hd
    next => cases h
  · rintro ⟨⟨filled, free⟩, rfl⟩
    obtain ⟨c, rest, rfl⟩ := List.exists_cons_of_ne_nil filled
    have pass : ∀ d ∈ c :: rest, (!isBrace d) = true := fun d hd => not_isBrace_iff.mpr (free d hd)
    have taken : (c :: rest ++ '\x7d' :: after).takeWhile (!isBrace ·) = c :: rest := by
      rw [List.takeWhile_append_of_pos pass]
      simp [isBrace]
    have dropped : (c :: rest ++ '\x7d' :: after).dropWhile (!isBrace ·) = '\x7d' :: after := by
      rw [List.dropWhile_append_of_pos pass]
      simp [isBrace]
    rw [name?, taken, dropped]
    rfl

theorem opens_cons_iff {c : Char} {rest : List Char} :
    Opens (c :: rest) ↔ c = '\x7b' ∧ ∃ name after, name? rest = some (name, after) := by
  constructor
  · rintro ⟨name, after, named, eq⟩
    obtain ⟨rfl, rfl⟩ := List.cons.inj eq
    exact ⟨rfl, name, after, name?_eq_some_iff.mpr ⟨named, by simp⟩⟩
  · rintro ⟨rfl, name, after, h⟩
    obtain ⟨named, rfl⟩ := name?_eq_some_iff.mp h
    exact ⟨name, after, named, by simp [braced]⟩

theorem segmentsOf_braced {name : List Char} (named : IsName name) (after : List Char) :
    segmentsOf (braced name ++ after) = .placeholder (.ofList name) :: segmentsOf after := by
  have found : name? (name ++ '\x7d' :: after) = some (name, after) :=
    name?_eq_some_iff.mpr ⟨named, rfl⟩
  rw [braced, List.cons_append, List.append_assoc, List.singleton_append, segmentsOf, if_pos rfl]
  split
  next other behind h =>
    cases found.symm.trans h
    rfl
  next h => cases found.symm.trans h

theorem segmentsOf_cons {c : Char} {rest : List Char} (h : ¬ Opens (c :: rest)) :
    segmentsOf (c :: rest) = prepend c (segmentsOf rest) := by
  rw [segmentsOf]
  split
  next brace =>
    split
    next name after found => exact absurd (opens_cons_iff.mpr ⟨brace, name, after, found⟩) h
    next => rfl
  next => rfl

/-- A text is empty, or begins with a name in braces, or with a character that opens none. -/
theorem cut_induction {P : List Char → Prop} (nil : P [])
    (opening : ∀ name after, IsName name → P after → P (braced name ++ after))
    (other : ∀ c rest, ¬ Opens (c :: rest) → P rest → P (c :: rest)) (s : List Char) : P s := by
  induction h : s.length using Nat.strong_induction_on generalizing s with
  | _ n ih =>
    subst h
    cases s with
    | nil => exact nil
    | cons c rest =>
      by_cases begins : Opens (c :: rest)
      · obtain ⟨name, after, named, eq⟩ := begins
        rw [eq]
        refine opening name after named (ih _ ?_ after rfl)
        simp only [eq, braced, List.length_append, List.length_cons]
        omega
      · exact other c rest begins (ih _ (Nat.lt_succ_self _) rest rfl)

theorem written_append (first second : List Segment) :
    written (first ++ second) = written first ++ written second :=
  List.flatMap_append ..

theorem written_prepend (c : Char) (segments : List Segment) :
    written (prepend c segments) = c :: written segments := by
  unfold prepend
  split
  next => simp [written]
  next => simp [written]

theorem written_segmentsOf (s : List Char) : written (segmentsOf s) = s := by
  induction s using cut_induction with
  | nil => simp [segmentsOf, written]
  | opening name after named ih =>
    rw [segmentsOf_braced named]
    simpa [written] using ih
  | other c rest closed ih => rw [segmentsOf_cons closed, written_prepend, ih]

theorem Plain.cons {c : Char} {text after : List Char} (plain : Plain text)
    (closed : ¬ Opens (c :: text ++ after)) : Plain (c :: text) := by
  intro name named within
  rcases List.infix_cons_iff.mp within with ⟨rest, start⟩ | within
  · refine closed ⟨name, rest ++ after, named, ?_⟩
    rw [← start, List.append_assoc]
  · exact plain name named within

theorem plain_nil : Plain [] := by
  intro name _ within
  simp [braced] at within

theorem Canonical.nil : Canonical [] := ⟨by simp, by simp, by simp, .nil⟩

theorem Canonical.placeholder {name : String} {segments : List Segment}
    (named : IsName name.toList) (h : Canonical segments) :
    Canonical (.placeholder name :: segments) where
  named other ho := by
    rcases List.mem_cons.mp ho with same | ho
    · cases same
      exact named
    · exact h.named other ho
  filled text ht := h.filled text (by simpa using ht)
  plain text ht := h.plain text (by simpa using ht)
  apart := List.isChain_cons.mpr ⟨fun _ _ => .inl rfl, h.apart⟩

theorem Canonical.literal {text : String} {segments : List Segment} (filled : text ≠ "")
    (plain : Plain text.toList) (next : ∀ s ∈ segments.head?, s.isLiteral = false)
    (h : Canonical segments) : Canonical (.literal text :: segments) where
  named name hn := h.named name (by simpa using hn)
  filled other ho := by
    rcases List.mem_cons.mp ho with same | ho
    · cases same
      exact filled
    · exact h.filled other ho
  plain other ho := by
    rcases List.mem_cons.mp ho with same | ho
    · cases same
      exact plain
    · exact h.plain other ho
  apart := List.isChain_cons.mpr ⟨fun s hs => .inr (next s hs), h.apart⟩

theorem Canonical.tail {s : Segment} {segments : List Segment} (h : Canonical (s :: segments)) :
    Canonical segments where
  named name hn := h.named name (List.mem_cons_of_mem _ hn)
  filled text ht := h.filled text (List.mem_cons_of_mem _ ht)
  plain text ht := h.plain text (List.mem_cons_of_mem _ ht)
  apart := (List.isChain_cons.mp h.apart).2

theorem Canonical.head {s : Segment} {segments : List Segment} (h : Canonical (s :: segments))
    (literal : s.isLiteral = true) : ∀ t ∈ segments.head?, t.isLiteral = false := by
  intro t ht
  rcases (List.isChain_cons.mp h.apart).1 t ht with free | free
  · rw [literal] at free
    cases free
  · exact free

theorem Canonical.prepend {c : Char} {segments : List Segment} (h : Canonical segments)
    (closed : ¬ Opens (c :: written segments)) : Canonical (prepend c segments) := by
  unfold Template.prepend
  split
  next text rest =>
    refine .literal (by simp) ?_ (h.head rfl) h.tail
    rw [String.toList_append, String.toList_singleton, List.singleton_append]
    exact (h.plain text (by simp)).cons closed
  next nothing =>
    refine .literal (by simp) ?_ (fun s hs => ?_) h
    · rw [String.toList_singleton]
      exact plain_nil.cons closed
    · cases s with
      | placeholder name => rfl
      | literal text =>
        obtain ⟨rest, rfl⟩ := List.head?_eq_some_iff.mp hs
        exact absurd rfl (nothing text rest)

theorem canonical_segmentsOf (s : List Char) : Canonical (segmentsOf s) := by
  induction s using cut_induction with
  | nil =>
    rw [segmentsOf]
    exact .nil
  | opening name after named ih =>
    rw [segmentsOf_braced named]
    exact .placeholder (by simpa using named) ih
  | other c rest closed ih =>
    rw [segmentsOf_cons closed]
    exact ih.prepend (by rwa [written_segmentsOf])

theorem head_written {segments : List Segment}
    (next : ∀ s ∈ segments.head?, s.isLiteral = false) :
    ∀ c ∈ (written segments).head?, c = '\x7b' := by
  cases segments with
  | nil => simp [written]
  | cons s segments =>
    cases s with
    | literal text => cases next _ rfl
    | placeholder name => simp [written, braced]

/-- A name in braces that begins in a plain text does not end behind it, as there the next brace is
an opening one. -/
theorem Plain.not_opens_append {text after : List Char} (plain : Plain text) (filled : text ≠ [])
    (next : ∀ c ∈ after.head?, c = '\x7b') : ¬ Opens (text ++ after) := by
  rintro ⟨name, behind, named, eq⟩
  rcases List.append_eq_append_iff.mp eq with ⟨rest, inside, eq⟩ | ⟨rest, rfl, _⟩
  · cases rest with
    | nil =>
      rw [List.append_nil] at inside
      exact plain name named (inside ▸ List.infix_rfl)
    | cons c rest =>
      obtain rfl : c = '\x7b' := next c (by simp [eq])
      obtain ⟨d, text, rfl⟩ := List.exists_cons_of_ne_nil filled
      have within : name ++ ['\x7d'] = text ++ '\x7b' :: rest := (List.cons.inj inside).2
      have member : '\x7b' ∈ name ++ ['\x7d'] := by simp [within]
      have inName : '\x7b' ∈ name := by simpa using member
      exact (named.2 _ inName).1 rfl
  · exact plain name named (List.infix_append' [] _ rest)

theorem Plain.of_cons {c : Char} {text : List Char} (plain : Plain (c :: text)) : Plain text :=
  fun name named within => plain name named (within.trans (List.suffix_cons c text).isInfix)

theorem segmentsOf_plain_append {text : List Char} {segments : List Segment} (plain : Plain text)
    (filled : text ≠ []) (next : ∀ s ∈ segments.head?, s.isLiteral = false)
    (cut : segmentsOf (written segments) = segments) :
    segmentsOf (text ++ written segments) = .literal (.ofList text) :: segments := by
  induction text with
  | nil => exact absurd rfl filled
  | cons c text ih =>
    have closed := plain.not_opens_append filled (head_written next)
    rw [List.cons_append] at closed ⊢
    rw [segmentsOf_cons closed]
    cases text with
    | nil =>
      rw [List.nil_append, cut]
      cases segments with
      | nil => rfl
      | cons s segments =>
        cases s with
        | literal text => cases next _ rfl
        | placeholder name => rfl
    | cons d text =>
      rw [ih plain.of_cons (List.cons_ne_nil _ _), prepend]
      simp

theorem segmentsOf_written {segments : List Segment} (h : Canonical segments) :
    segmentsOf (written segments) = segments := by
  induction segments with
  | nil => simp [written, segmentsOf]
  | cons s segments ih =>
    have cut := ih h.tail
    cases s with
    | literal text =>
      have filled : text.toList ≠ [] := by simpa using h.filled text (by simp)
      have whole := segmentsOf_plain_append (h.plain text (by simp)) filled (h.head rfl) cut
      simpa [written] using whole
    | placeholder name =>
      have whole := segmentsOf_braced (h.named name (by simp)) (written segments)
      rw [cut] at whole
      simpa [written] using whole

theorem eq_segmentsOf_iff {segments : List Segment} {s : List Char} :
    segments = segmentsOf s ↔ written segments = s ∧ Canonical segments := by
  constructor
  · rintro rfl
    exact ⟨written_segmentsOf s, canonical_segmentsOf s⟩
  · rintro ⟨rfl, h⟩
    exact (segmentsOf_written h).symm

theorem Canonical.between {name : String} {earlier later : List Segment} (he : Canonical earlier)
    (named : IsName name.toList) (hl : Canonical later) :
    Canonical (earlier ++ .placeholder name :: later) := by
  induction earlier with
  | nil => exact .placeholder named hl
  | cons s earlier ih =>
    have rest := ih he.tail
    cases s with
    | placeholder other => exact .placeholder (he.named other (by simp)) rest
    | literal text =>
      refine .literal (he.filled text (by simp)) (he.plain text (by simp)) ?_ rest
      have next := he.head rfl
      cases earlier with
      | nil => simp [Segment.isLiteral]
      | cons t earlier => simpa using next

theorem written_between (name : String) (earlier later : List Segment) :
    written (earlier ++ .placeholder name :: later) =
      written earlier ++ braced name.toList ++ written later := by
  rw [written_append, List.append_assoc]
  rfl

/-- A placeholder stands exactly where a name in braces stands in the source. -/
theorem placeholder_iff {s before name after : List Char} :
    IsName name ∧ s = before ++ braced name ++ after ↔
      ∃ earlier later, segmentsOf s = earlier ++ .placeholder (.ofList name) :: later ∧
        written earlier = before ∧ written later = after := by
  constructor
  · rintro ⟨named, rfl⟩
    refine ⟨segmentsOf before, segmentsOf after, Eq.symm (eq_segmentsOf_iff.mpr ⟨?_, ?_⟩),
      written_segmentsOf before, written_segmentsOf after⟩
    · rw [written_between, written_segmentsOf, written_segmentsOf, String.toList_ofList]
    · exact (canonical_segmentsOf before).between (by simpa using named)
        (canonical_segmentsOf after)
  · rintro ⟨earlier, later, eq, rfl, rfl⟩
    have named := (canonical_segmentsOf s).named (.ofList name) (by simp [eq])
    have source := written_segmentsOf s
    rw [eq, written_between, String.toList_ofList] at source
    exact ⟨by simpa using named, source.symm⟩

theorem parse_segments_of_plain {source : String} (plain : Plain source.toList) :
    (parse source).segments = if source = "" then [] else [.literal source] := by
  symm
  rw [parse, eq_segmentsOf_iff]
  split
  next empty => exact ⟨by simp [written, empty], .nil⟩
  next filled => exact ⟨by simp [written], .literal filled plain (by simp) .nil⟩

theorem resolve_plain {source : String} (plain : Plain source.toList) (values : Values) :
    (parse source).resolve values = .ok source := by
  have cut := parse_segments_of_plain plain
  split at cut
  next empty =>
    subst empty
    simp [cut, resolve, missing, placeholders, fill, Unresolved.add]
  next => simp [cut, resolve, missing, placeholders, fill, segmentText, Unresolved.add]

/-- The segments of a template are the one canonical way to write its source. The placeholders
among them are the names in braces in the source, and a source without any stays as it is. -/
theorem parse_canonical (source : String) :
    (∀ segments, segments = (parse source).segments ↔
      written segments = source.toList ∧ Canonical segments) ∧
    (∀ before name after, IsName name ∧ source.toList = before ++ braced name ++ after ↔
      ∃ earlier later,
        (parse source).segments = earlier ++ .placeholder (.ofList name) :: later ∧
        written earlier = before ∧ written later = after) ∧
    (Plain source.toList →
      ((parse source).segments = [] ∨ (parse source).segments = [.literal source]) ∧
      ∀ values, (parse source).resolve values = .ok source) := by
  refine ⟨fun segments => eq_segmentsOf_iff, fun before name after => placeholder_iff,
    fun plain => ⟨?_, resolve_plain plain⟩⟩
  rw [parse_segments_of_plain plain]
  split
  next => exact .inl rfl
  next => exact .inr rfl

example : (parse "x\x7ba\x7bné\x7d\x7b\x7d\x7b").segments =
    [.literal "x\x7ba", .placeholder "né", .literal "\x7b\x7d\x7b"] := by
  decide +kernel

end Template

end Runbook

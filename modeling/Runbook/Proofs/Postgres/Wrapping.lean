import Mathlib.Data.List.DropRight
import Runbook.Postgres.Wrapping
import Runbook.Proofs.Sql.Bare
import Runbook.Proofs.Text.Items

namespace Runbook.Postgres

open Sql.Lexeme

/-- What may stand behind a statement: semicolons, white space and line comments, of which the last
may go up to the end. -/
inductive Tail where
  | nothing
  | openComment (text : List Char) (line : '\n' ∉ text)
  | semicolon (rest : Tail)
  | space (c : Char) (blank : Text.isSpace c = true) (rest : Tail)
  | comment (text : List Char) (line : '\n' ∉ text) (rest : Tail)
  deriving DecidableEq

namespace Tail

def source : Tail → List Char
  | nothing => []
  | openComment text _ => '-' :: '-' :: text
  | semicolon rest => ';' :: rest.source
  | space c _ rest => c :: rest.source
  | comment text _ rest => '-' :: '-' :: (text ++ '\n' :: rest.source)

def separates : Tail → Bool
  | nothing => false
  | openComment .. => false
  | semicolon _ => true
  | space _ _ rest => rest.separates
  | comment _ _ rest => rest.separates

def isBlank : Tail → Bool
  | nothing => true
  | space _ _ rest => rest.isBlank
  | _ => false

def isRun : Tail → Bool
  | semicolon rest => rest.isRun
  | tail => tail.isBlank

/-- The semicolons outside of the comments stand side by side, with nothing but white space behind
them. -/
def endsInRun : Tail → Bool
  | nothing => true
  | openComment .. => true
  | semicolon rest => rest.isRun
  | space _ _ rest => rest.endsInRun
  | comment _ _ rest => rest.endsInRun

def trimmed (p : Char → Bool) : Tail → Tail
  | nothing => nothing
  | openComment text line =>
    openComment (text.rdropWhile p) fun h => line ((List.rdropWhile_prefix p text).subset h)
  | semicolon rest =>
    if p ';' = true ∧ rest.trimmed p = nothing then nothing else semicolon (rest.trimmed p)
  | space c blank rest =>
    if p c = true ∧ rest.trimmed p = nothing then nothing else space c blank (rest.trimmed p)
  | comment text line rest =>
    if p '\n' = true ∧ rest.trimmed p = nothing then
      openComment (text.rdropWhile p) fun h => line ((List.rdropWhile_prefix p text).subset h)
    else comment text line (rest.trimmed p)

end Tail

theorem rdropWhile_append (p : Char → Bool) (s t : List Char) :
    (s ++ t).rdropWhile p =
      if t.rdropWhile p = [] then s.rdropWhile p else s ++ t.rdropWhile p := by
  unfold List.rdropWhile
  rw [List.reverse_append, List.dropWhile_append]
  simp only [List.isEmpty_iff, List.reverse_eq_nil_iff]
  split
  next => rfl
  next => rw [List.reverse_append, List.reverse_reverse]

theorem rdropWhile_cons (p : Char → Bool) (c : Char) (s : List Char) :
    (c :: s).rdropWhile p =
      if p c = true ∧ s.rdropWhile p = [] then [] else c :: s.rdropWhile p := by
  have parts := rdropWhile_append p [c] s
  rw [List.rdropWhile_singleton, List.singleton_append] at parts
  rw [parts]
  by_cases gone : s.rdropWhile p = []
  · by_cases inside : p c = true
    · simp [gone, inside]
    · simp [gone, inside]
  · simp [gone]

namespace Tail

theorem source_eq_nil_iff {tail : Tail} : tail.source = [] ↔ tail = nothing := by
  cases tail <;> simp [source]

theorem source_trimmed {p : Char → Bool} (dash : p '-' = false) (tail : Tail) :
    (tail.trimmed p).source = tail.source.rdropWhile p := by
  have opened (text : List Char) :
      ('-' :: '-' :: text).rdropWhile p = '-' :: '-' :: text.rdropWhile p := by
    simp [rdropWhile_cons, dash]
  induction tail with
  | nothing => rfl
  | openComment text line => exact (opened text).symm
  | semicolon rest ih =>
    rw [trimmed, source, rdropWhile_cons, ← ih]
    simp only [source_eq_nil_iff]
    split <;> rfl
  | space c blank rest ih =>
    rw [trimmed, source, rdropWhile_cons, ← ih]
    simp only [source_eq_nil_iff]
    split <;> rfl
  | comment text line rest ih =>
    have behind := rdropWhile_cons p '\n' rest.source
    rw [← ih] at behind
    simp only [source_eq_nil_iff] at behind
    rw [trimmed, source, ← List.cons_append, ← List.cons_append, rdropWhile_append, behind]
    split
    next => rw [if_pos rfl, opened]; rfl
    next => rw [if_neg (List.cons_ne_nil _ _)]; rfl

theorem trimmed_isSpace_semicolon (rest : Tail) :
    (semicolon rest).trimmed Text.isSpace = semicolon (rest.trimmed Text.isSpace) := by
  have shown : Text.isSpace ';' = false := rfl
  simp [trimmed, shown]

theorem trimmed_semicolon_space {c : Char} (blank : Text.isSpace c = true) (rest : Tail) :
    (space c blank rest).trimmed (· == ';') = space c blank (rest.trimmed (· == ';')) := by
  have other : (c == ';') = false := by
    rw [beq_eq_false_iff_ne]
    rintro rfl
    cases blank
  simp [trimmed, other]

theorem trimmed_isSpace_eq_nothing_iff {tail : Tail} :
    tail.trimmed Text.isSpace = nothing ↔ tail.isBlank = true := by
  induction tail with
  | nothing => simp [trimmed, isBlank]
  | openComment => simp [trimmed, isBlank]
  | semicolon rest => simp [trimmed_isSpace_semicolon, isBlank]
  | space c blank rest ih => simp [trimmed, isBlank, blank, ih]
  | comment text line rest =>
    rw [trimmed]
    split
    next => simp [isBlank]
    next => simp [isBlank]

theorem separates_trimmed_isSpace (tail : Tail) :
    (tail.trimmed Text.isSpace).separates = tail.separates := by
  induction tail with
  | nothing => rfl
  | openComment => rfl
  | semicolon rest => rw [trimmed_isSpace_semicolon, separates, separates]
  | space c blank rest ih =>
    rw [trimmed, separates, ← ih]
    split
    next gone => rw [gone.2]
    next => rfl
  | comment text line rest ih =>
    rw [trimmed, separates, ← ih]
    split
    next gone => rw [gone.2]; rfl
    next => rfl

theorem trimmed_semicolon_eq_nothing_iff {tail : Tail} :
    (tail.trimmed Text.isSpace).trimmed (· == ';') = nothing ↔ tail.isRun = true := by
  induction tail with
  | nothing => simp [trimmed, isRun, isBlank]
  | openComment => simp [trimmed, isRun, isBlank]
  | semicolon rest ih =>
    rw [trimmed_isSpace_semicolon]
    simp [trimmed, isRun, ih]
  | space c blank rest =>
    have run : (space c blank rest).isRun = rest.isBlank := rfl
    rw [trimmed, run, ← trimmed_isSpace_eq_nothing_iff]
    split
    next gone => simp [gone.2, trimmed]
    next nonempty => simpa [trimmed_semicolon_space, blank] using nonempty
  | comment text line rest =>
    rw [trimmed]
    split
    next => simp [trimmed, isRun, isBlank]
    next => simp [trimmed, isRun, isBlank]

theorem separates_trimmed (tail : Tail) :
    ((tail.trimmed Text.isSpace).trimmed (· == ';')).separates = !tail.endsInRun := by
  induction tail with
  | nothing => rfl
  | openComment => rfl
  | semicolon rest =>
    have run := @trimmed_semicolon_eq_nothing_iff rest
    rw [trimmed_isSpace_semicolon, trimmed, endsInRun]
    cases whole : rest.isRun with
    | true => simp [run.mpr whole, separates]
    | false => simp [run, whole, separates]
  | space c blank rest ih =>
    rw [trimmed, endsInRun, ← ih]
    split
    next gone => rw [gone.2]
    next => rw [trimmed_semicolon_space, separates]
  | comment text line rest ih =>
    rw [trimmed, endsInRun, ← ih]
    split
    next gone => rw [gone.2]; rfl
    next => simp [trimmed, separates]

def led : Tail → Tail
  | space _ _ rest => rest.led
  | tail => tail

theorem source_led (tail : Tail) : tail.led.source = Text.trimStartChars tail.source := by
  unfold Text.trimStartChars
  induction tail with
  | space c blank rest ih => rw [led, source, List.dropWhile_cons_of_pos blank, ih]
  | _ => rfl

theorem endsInRun_led (tail : Tail) : tail.led.endsInRun = tail.endsInRun := by
  induction tail with
  | space c blank rest ih => rw [led, endsInRun, ih]
  | _ => rfl

end Tail

theorem exists_trimmed {p : Char → Bool} (dash : p '-' = false) {s : List Char} (bare : Bare s)
    (tail : Tail) : ∃ kept, Bare kept ∧
      (s ++ tail.source).rdropWhile p = kept ++ (tail.trimmed p).source := by
  rw [Tail.source_trimmed dash, rdropWhile_append]
  split
  next gone =>
    refine ⟨s.rdropWhile p, bare.of_infix (List.rdropWhile_prefix p s).isInfix, ?_⟩
    rw [gone, List.append_nil]
  next => exact ⟨s, bare, rfl⟩

/-- What is left of bare text and its tail has a semicolon exactly if the semicolons of the tail do
not stand side by side at its end. -/
theorem exists_unterminated {s : List Char} (bare : Bare s) (tail : Tail) :
    ∃ kept left, Bare kept ∧ unterminated (s ++ tail.source) = kept ++ Tail.source left ∧
      left.separates = !tail.endsInRun := by
  obtain ⟨front, left, bare, begun, run⟩ : ∃ front left, Bare front ∧
      Text.trimStartChars (s ++ tail.source) = front ++ Tail.source left ∧
      left.endsInRun = tail.endsInRun := by
    unfold Text.trimStartChars
    rw [List.dropWhile_append]
    split
    next =>
      exact ⟨[], tail.led, bare.of_infix List.nil_infix, tail.source_led.symm, tail.endsInRun_led⟩
    next => exact ⟨_, tail, bare.of_infix (List.dropWhile_suffix _).isInfix, rfl, rfl⟩
  have stages : unterminated (s ++ tail.source) =
      (((front ++ left.source).rdropWhile Text.isSpace).rdropWhile (· == ';')).rdropWhile
        Text.isSpace := by
    rw [← begun]
    rfl
  obtain ⟨first, bare, trimmed⟩ := exists_trimmed (p := Text.isSpace) rfl bare left
  obtain ⟨second, bare, stripped⟩ := exists_trimmed (p := (· == ';')) rfl bare
    (left.trimmed Text.isSpace)
  obtain ⟨third, bare, ended⟩ := exists_trimmed (p := Text.isSpace) rfl bare
    ((left.trimmed Text.isSpace).trimmed (· == ';'))
  refine ⟨third, ((left.trimmed Text.isSpace).trimmed (· == ';')).trimmed Text.isSpace, bare, ?_,
    ?_⟩
  · rw [stages, trimmed, stripped, ended]
  · rw [Tail.separates_trimmed_isSpace, Tail.separates_trimmed, run]

def EndsStatement (lexeme : Sql.Lexeme) : Prop :=
  ';' ∈ lexeme.source ∧ ¬['-', '-'] <+: lexeme.source

/-- A semicolon stands in the text outside of its line comments. -/
def Separated (text : List Char) : Prop :=
  ∃ lexemes, Cut [] lexemes text ∧ ∃ lexeme ∈ lexemes, EndsStatement lexeme

def opening : List Char :=
  "SELECT COALESCE(jsonb_agg(to_jsonb(t)), ".toList ++
    ("'[]'".toList ++ "::jsonb) AS rows FROM (".toList)

def closing : List Char := ") AS t".toList

/-- Every character an element of its own. -/
def lone (s : List Char) : List Sql.Lexeme := s.map fun c => .verbatim [c]

theorem rowsAsJson_toList (sql : String) :
    (rowsAsJson sql).toList = opening ++ (unterminated sql.toList ++ '\n' :: closing) := by
  have front : "SELECT COALESCE(jsonb_agg(to_jsonb(t)), '[]'::jsonb) AS rows FROM (".toList =
      opening := by decide +kernel
  have back : "\n) AS t".toList = '\n' :: closing := by decide +kernel
  have between (first last : String) (s : List Char) :
      (first ++ .ofList s ++ last).toList = first.toList ++ (s ++ last.toList) := by simp
  exact (between _ _ _).trans
    (congrArg₂ (· ++ ·) front (congrArg (unterminated sql.toList ++ ·) back))

theorem cut_closing (before : List Char) : Cut before (lone closing) closing := by
  have read : ∀ afterWord, all afterWord closing = lone closing := by decide +kernel
  have cut := cut_all before closing
  rwa [read] at cut

theorem element_alone {c : Char} (quiet : c ∉ ['\'', '"', '-', '/', '@', '$', 'E', 'e'])
    (before after : List Char) : Element before (.verbatim [c]) after := by
  refine .lone fun lexeme rest form whole => ?_
  have first : lexeme.source.head? = some c := by
    cases form <;> exact congrArg List.head? whole
  cases form with
  | escapeString letter =>
    cases Option.some.inj first
    rcases letter with rfl | rfl
    · exact quiet (by simp)
    · exact quiet (by simp)
  | _ =>
    cases Option.some.inj first
    exact quiet (by simp)

theorem notMem_of_isSpace {c : Char} {signs : List Char} (blank : Text.isSpace c = true)
    (shown : signs.all (!Text.isSpace ·) = true) : c ∉ signs := by
  intro member
  have other := List.all_eq_true.mp shown c member
  rw [blank] at other
  cases other

theorem Tail.exists_cut (tail : Tail) (before : List Char) :
    ∃ lexemes, Cut before (lexemes ++ lone closing) (tail.source ++ '\n' :: closing) ∧
      ((∃ lexeme ∈ lexemes, EndsStatement lexeme) ↔ tail.separates = true) := by
  -- The break behind a comment belongs to it.
  have comment {text : List Char} (line : '\n' ∉ text) (before after : List Char) :
      Element before (.verbatim ('-' :: '-' :: (text ++ ['\n']))) after := by
    refine .formed (.lineComment (.closed (List.suffix_append _ _) ?_))
    rw [List.dropLast_concat]
    exact fun found => line (found.subset (List.mem_cons_self ..))
  have hidden (text : List Char) : ¬EndsStatement (.verbatim ('-' :: '-' :: text)) :=
    fun ends => ends.2 (List.prefix_append ['-', '-'] text)
  induction tail generalizing before with
  | nothing =>
    refine ⟨[.verbatim ['\n']], .next (element_alone (by decide) _ _) (cut_closing _), ?_⟩
    simp [separates, EndsStatement, Sql.Lexeme.source]
  | openComment text line =>
    refine ⟨[.verbatim ('-' :: '-' :: (text ++ ['\n']))], ?_, by simp [separates, hidden]⟩
    have cut := Cut.next (comment line before closing) (cut_closing _)
    simpa [Sql.Lexeme.source, source] using cut
  | semicolon rest ih =>
    obtain ⟨lexemes, cut, -⟩ := ih (before ++ [';'])
    refine ⟨.verbatim [';'] :: lexemes, .next (element_alone (by decide) _ _) cut, ?_⟩
    exact iff_of_true ⟨_, List.mem_cons_self .., List.mem_singleton_self _, by decide⟩ rfl
  | space c blank rest ih =>
    obtain ⟨lexemes, cut, semicolons⟩ := ih (before ++ [c])
    have quiet : c ∉ ['\'', '"', '-', '/', '@', '$', 'E', 'e'] := notMem_of_isSpace blank rfl
    refine ⟨.verbatim [c] :: lexemes, .next (element_alone quiet _ _) cut, ?_⟩
    have other : ';' ≠ c := by
      rintro rfl
      cases blank
    rw [List.exists_mem_cons_iff, separates, ← semicolons]
    simp [EndsStatement, Sql.Lexeme.source, other]
  | comment text line rest ih =>
    obtain ⟨lexemes, cut, semicolons⟩ := ih (before ++ '-' :: '-' :: (text ++ ['\n']))
    refine ⟨.verbatim ('-' :: '-' :: (text ++ ['\n'])) :: lexemes, ?_, ?_⟩
    · have cut := Cut.next (comment line before _) cut
      simpa [Sql.Lexeme.source, source] using cut
    · rw [List.exists_mem_cons_iff, separates, ← semicolons]
      simp [hidden]

theorem exists_cut_quoted {front body back place : List Char} {later : List Sql.Lexeme}
    (bareFront : Bare front) (bareBack : Bare back) (ends : ['\''] <:+ body)
    (first : ¬['\''] <:+: body.dropLast) (free : ';' ∉ body)
    (apartFront : Apart front ('\'' :: (body ++ back ++ place))) (apartBack : Apart back place)
    (rest : Cut (front ++ '\'' :: (body ++ back)) later place) :
    ∃ lexemes, Cut [] (lexemes ++ later) (front ++ '\'' :: (body ++ back) ++ place) ∧
      ∀ lexeme ∈ lexemes, ';' ∉ lexeme.source := by
  have rest : Cut ((front ++ '\'' :: body) ++ back) later place := by simpa using rest
  obtain ⟨behind, cutBack, freeBack⟩ := bareBack.exists_cut apartBack rest
  have quoted : Element ([] ++ front) (.verbatim ('\'' :: body)) (back ++ place) :=
    .formed (.quoted (.closed ends first))
  have apartFront : Apart front ('\'' :: body ++ (back ++ place)) := by simpa using apartFront
  obtain ⟨ahead, cutFront, freeFront⟩ := bareFront.exists_cut apartFront (Cut.next quoted cutBack)
  refine ⟨ahead ++ .verbatim ('\'' :: body) :: behind, ?_, ?_⟩
  · simpa [Sql.Lexeme.source] using cutFront
  · intro lexeme member
    rcases List.mem_append.mp member with member | member
    · exact freeFront lexeme member
    · rcases List.mem_cons.mp member with rfl | member
      · simpa [Sql.Lexeme.source] using free
      · exact freeBack lexeme member

theorem exists_cut_opening {later : List Sql.Lexeme} {place : List Char}
    (rest : Cut opening later place) :
    ∃ lexemes, Cut [] (lexemes ++ later) (opening ++ place) ∧
      ∀ lexeme ∈ lexemes, ';' ∉ lexeme.source := by
  have bareFront : Bare "SELECT COALESCE(jsonb_agg(to_jsonb(t)), ".toList := by
    constructor <;> decide +kernel
  have bareBack : Bare "::jsonb) AS rows FROM (".toList := by
    constructor <;> decide +kernel
  have blank : "SELECT COALESCE(jsonb_agg(to_jsonb(t)), ".toList.getLast? = some ' ' := by
    decide +kernel
  have bracket : "::jsonb) AS rows FROM (".toList.getLast? = some '(' := by decide +kernel
  have ends : ['\''] <:+ "[]'".toList := by decide +kernel
  have first : ¬['\''] <:+: "[]'".toList.dropLast := by decide +kernel
  have free : ';' ∉ "[]'".toList := by decide +kernel
  refine exists_cut_quoted bareFront bareBack ends first free ?_ ?_ rest
  · intro c hc d hd
    rw [blank] at hc
    cases Option.some.inj hc
    cases Option.some.inj hd
    decide
  · intro c hc d _
    rw [bracket] at hc
    cases Option.some.inj hc
    simp [joins, show Text.isWord '(' = false from rfl]

theorem exists_hyphens {s : List Char} (bare : Bare s) :
    ∃ front hyphens, s = front ++ hyphens ∧ '\n' ∉ hyphens ∧
      (∀ text, hyphens ++ '-' :: '-' :: text = '-' :: '-' :: (hyphens ++ text)) ∧
      ∀ after, Apart front ('-' :: after) := by
  by_cases hyphen : s.getLast? = some '-'
  · obtain ⟨front, rfl⟩ := List.getLast?_eq_some_iff.mp hyphen
    refine ⟨front, ['-'], rfl, by decide, fun _ => rfl, fun after c hc d hd => ?_⟩
    obtain ⟨first, rfl⟩ := List.getLast?_eq_some_iff.mp hc
    cases Option.some.inj hd
    have other : c ≠ '-' := by
      rintro rfl
      exact bare.lineComment ⟨first, [], by simp⟩
    simp [joins, other, show Text.isWord '-' = false from rfl]
  · refine ⟨s, [], (List.append_nil s).symm, by simp, fun _ => rfl, fun after c hc d hd => ?_⟩
    cases Option.some.inj hd
    have other : c ≠ '-' := by
      rintro rfl
      exact hyphen hc
    simp [joins, other, show Text.isWord '-' = false from rfl]

/-- A statement and its tail meet in at most one character, a hyphen in front of a comment, which
may as well be the first one of the comment. -/
theorem exists_apart {s : List Char} (bare : Bare s) (tail : Tail) (after : List Char) :
    ∃ front behind, Bare front ∧ s ++ tail.source = front ++ Tail.source behind ∧
      behind.separates = tail.separates ∧ Apart front (behind.source ++ '\n' :: after) := by
  have quiet {d : Char} (after : List Char) (word : Text.isWord d = false)
      (other : d ∉ ['-', '*', '@', '\'']) : Apart s (d :: after) := by
    intro c _ e he
    cases Option.some.inj he
    simp_all [joins]
  obtain ⟨front, hyphens, rfl, line, joined, apart⟩ := exists_hyphens bare
  have bareFront : Bare front := bare.of_infix (List.prefix_append front hyphens).isInfix
  cases tail with
  | nothing => exact ⟨_, .nothing, bare, rfl, rfl, quiet _ rfl (by decide)⟩
  | semicolon rest => exact ⟨_, .semicolon rest, bare, rfl, rfl, quiet _ rfl (by decide)⟩
  | space c blank rest =>
    exact ⟨_, .space c blank rest, bare, rfl, rfl,
      quiet _ (Text.not_isWord_of_isSpace blank) (notMem_of_isSpace blank rfl)⟩
  | openComment text unbroken =>
    refine ⟨front, .openComment (hyphens ++ text) (by simp [line, unbroken]), bareFront, ?_, rfl,
      apart _⟩
    rw [List.append_assoc, Tail.source, Tail.source, joined]
  | comment text unbroken rest =>
    refine ⟨front, .comment (hyphens ++ text) (by simp [line, unbroken]) rest, bareFront, ?_, rfl,
      apart _⟩
    rw [List.append_assoc, Tail.source, Tail.source, joined, List.append_assoc]

/-- A semicolon is left outside of the comments exactly if those behind the statement do not stand
side by side at its end. The bracket behind the statement is never in a comment. -/
theorem separated_rowsAsJson_iff {s : List Char} (bare : Bare s) (tail : Tail) :
    (Separated (rowsAsJson (.ofList (s ++ tail.source))).toList ↔ tail.endsInRun = false) ∧
      ∃ lexemes, Cut [] (lexemes ++ lone closing)
        (rowsAsJson (.ofList (s ++ tail.source))).toList := by
  obtain ⟨kept, left, bareKept, unterminated, run⟩ := exists_unterminated bare tail
  obtain ⟨front, behind, bareFront, parts, same, apart⟩ := exists_apart bareKept left closing
  rw [rowsAsJson_toList, String.toList_ofList, unterminated, parts, List.append_assoc]
  obtain ⟨last, cutTail, semicolons⟩ := behind.exists_cut (opening ++ front)
  obtain ⟨middle, cutFront, freeFront⟩ := bareFront.exists_cut apart cutTail
  obtain ⟨first, cut, freeFirst⟩ := exists_cut_opening cutFront
  refine ⟨?_, first ++ (middle ++ last), by simpa using cut⟩
  have among : behind.separates = !tail.endsInRun := same.trans run
  constructor
  · rintro ⟨lexemes, other, lexeme, member, ends⟩
    rw [other.eq_all, ← cut.eq_all] at member
    simp only [List.mem_append] at member
    rcases member with member | member | member | member
    · exact absurd ends.1 (freeFirst lexeme member)
    · exact absurd ends.1 (freeFront lexeme member)
    · have separates := semicolons.mp ⟨lexeme, member, ends⟩
      simpa [separates] using among
    · obtain ⟨c, hc, rfl⟩ := List.mem_map.mp member
      have nothing : ';' ∉ closing := by decide +kernel
      exact absurd (List.mem_singleton.mp ends.1 ▸ hc) nothing
  · intro scattered
    rw [scattered] at among
    obtain ⟨lexeme, member, ends⟩ := semicolons.mpr among
    exact ⟨_, cut, lexeme, by simp [member], ends⟩

/-- Behind a comment, the terminators at the end are all taken away. -/
theorem separated_rowsAsJson_iff_comment :
    Bare "SELECT 1 -".toList ∧
      Tail.source (.comment "done;".toList (by decide) (.semicolon (.semicolon .nothing))) =
        "--done;\n;;".toList ∧
      ¬Separated (rowsAsJson (.ofList ("SELECT 1 -".toList ++ "--done;\n;;".toList))).toList ∧
      ∃ lexemes, Cut [] (lexemes ++ lone closing)
        (rowsAsJson (.ofList ("SELECT 1 -".toList ++ "--done;\n;;".toList))).toList := by
  have bare : Bare "SELECT 1 -".toList := by constructor <;> decide +kernel
  have written : Tail.source
      (.comment "done;".toList (by decide) (.semicolon (.semicolon .nothing))) =
        "--done;\n;;".toList := by decide +kernel
  obtain ⟨separated, bracket⟩ := separated_rowsAsJson_iff bare
    (.comment "done;".toList (by decide) (.semicolon (.semicolon .nothing)))
  rw [written] at separated bracket
  exact ⟨bare, written, separated.not.mpr (by decide), bracket⟩

/-- A terminator stays if a comment or another one follows it behind white space, although nothing
else stands behind the statement. -/
theorem separated_behind_terminator :
    Bare "SELECT 1".toList ∧
      Tail.source (.semicolon (.space ' ' rfl (.openComment "done".toList (by decide)))) =
        "; --done".toList ∧
      Separated (rowsAsJson (.ofList ("SELECT 1".toList ++ "; --done".toList))).toList ∧
      Tail.source (.semicolon (.space ' ' rfl (.semicolon .nothing))) = "; ;".toList ∧
      Separated (rowsAsJson (.ofList ("SELECT 1".toList ++ "; ;".toList))).toList := by
  have bare : Bare "SELECT 1".toList := by constructor <;> decide +kernel
  refine ⟨bare, by decide +kernel, ?_, by decide +kernel, ?_⟩
  · exact ⟨_, cut_iff.mpr rfl, .verbatim [';'], by decide +kernel, by decide, by decide⟩
  · exact ⟨_, cut_iff.mpr rfl, .verbatim [';'], by decide +kernel, by decide, by decide⟩

end Runbook.Postgres

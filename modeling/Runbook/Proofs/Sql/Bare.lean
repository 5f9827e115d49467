import Mathlib.Data.List.Infix
import Runbook.Proofs.Sql.Grammar

namespace Runbook.Sql.Lexeme

/-- No statement ends in the text, and nothing is opened in it that could hide an end. -/
structure Bare (s : List Char) : Prop where
  semicolon : ';' ∉ s
  quote : '\'' ∉ s
  doubleQuote : '"' ∉ s
  dollar : '$' ∉ s
  lineComment : ¬['-', '-'] <:+: s
  blockComment : ¬['/', '*'] <:+: s

def joins (c d : Char) : Bool :=
  (Text.isWord d && (Text.isWord c || c == '@')) ||
    [('-', '-'), ('/', '*'), ('@', '@'), ('E', '\''), ('e', '\'')].contains (c, d)

/-- The end of the text and what stands behind it have no element in common. -/
def Apart (s after : List Char) : Prop :=
  ∀ c ∈ s.getLast?, ∀ d ∈ after.head?, joins c d = false

theorem Bare.of_infix {s part : List Char} (h : Bare s) (inside : part <:+: s) : Bare part where
  semicolon member := h.semicolon (inside.subset member)
  quote member := h.quote (inside.subset member)
  doubleQuote member := h.doubleQuote (inside.subset member)
  dollar member := h.dollar (inside.subset member)
  lineComment found := h.lineComment (found.trans inside)
  blockComment found := h.blockComment (found.trans inside)

theorem Apart.of_suffix {s rest after : List Char} (h : Apart s after) (suffix : rest <:+ s) :
    Apart rest after := by
  intro c hc d hd
  obtain ⟨front, rfl⟩ := suffix
  have last : (front ++ rest).getLast? = some c := by
    have nonempty : rest ≠ [] := by
      rintro rfl
      cases hc
    rwa [List.getLast?_append_of_ne_nil front nonempty]
  exact h c last d hd

theorem joins_of_isWord {c d : Char} (next : Text.isWord d = true)
    (last : Text.isWord c = true ∨ c = '@') : joins c d = true := by
  rcases last with word | rfl
  · simp [joins, next, word]
  · simp [joins, next]

theorem EndsName.append {front rest after : List Char} {c : Char} (ends : EndsName rest)
    (apart : Apart (front ++ c :: rest) after) (word : Text.isWord c = true ∨ c = '@') :
    EndsName (rest ++ after) := by
  cases rest with
  | cons d rest => exact fun e he => ends e he
  | nil =>
    intro d hd
    by_contra next
    have joined := joins_of_isWord (by simpa using next) word
    rw [apart c (by simp) d hd] at joined
    cases joined

theorem formed_within {before after place rest : List Char} {c : Char} {lexeme : Lexeme}
    (bare : Bare (c :: after)) (apart : Apart (c :: after) place)
    (form : Formed before lexeme rest) (whole : lexeme.source ++ rest = c :: (after ++ place)) :
    ∃ inner, Formed before lexeme inner ∧ lexeme.source ++ inner = c :: after := by
  -- The next character is in the text, or else it is the first one behind it.
  have next {d : Char} {others : List Char} (h : after ++ place = d :: others) :
      (∃ inner, after = d :: inner) ∨ joins c d = false := by
    cases after with
    | nil => exact .inr (apart c rfl d (by rw [List.nil_append] at h; rw [h]; rfl))
    | cons e inner =>
      obtain ⟨rfl, -⟩ := List.cons.inj h
      exact .inl ⟨inner, rfl⟩
  cases form with
  | quoted =>
    obtain ⟨rfl, -⟩ := List.cons.inj whole
    exact absurd (List.mem_cons_self ..) bare.quote
  | quotedName =>
    obtain ⟨rfl, -⟩ := List.cons.inj whole
    exact absurd (List.mem_cons_self ..) bare.doubleQuote
  | dollarQuote =>
    obtain ⟨rfl, -⟩ := List.cons.inj whole
    exact absurd (List.mem_cons_self ..) bare.dollar
  | escapeString letter =>
    obtain ⟨rfl, behind⟩ := List.cons.inj whole
    rcases next behind.symm with ⟨inner, rfl⟩ | apart
    · exact absurd (by simp) bare.quote
    · rcases letter with rfl | rfl
      · cases apart
      · cases apart
  | lineComment =>
    obtain ⟨rfl, behind⟩ := List.cons.inj whole
    rcases next behind.symm with ⟨inner, rfl⟩ | apart
    · exact absurd (List.prefix_append ['-', '-'] inner).isInfix bare.lineComment
    · cases apart
  | blockComment =>
    obtain ⟨rfl, behind⟩ := List.cons.inj whole
    rcases next behind.symm with ⟨inner, rfl⟩ | apart
    · exact absurd (List.prefix_append ['/', '*'] inner).isInfix bare.blockComment
    · cases apart
  | doubledAt =>
    obtain ⟨rfl, behind⟩ := List.cons.inj whole
    rcases next behind.symm with ⟨inner, rfl⟩ | apart
    · exact ⟨inner, .doubledAt, rfl⟩
    · cases apart
  | @parameter name _ named longest =>
    obtain ⟨rfl, behind⟩ := List.cons.inj whole
    rcases List.append_eq_append_iff.mp behind with ⟨inner, rfl, rfl⟩ | ⟨beyond, rfl, rfl⟩
    · refine ⟨inner, .parameter named fun d hd => longest d ?_, rfl⟩
      simp [Option.mem_def.mp hd]
    · cases beyond with
      | nil =>
        have ends : EndsName [] := fun d hd => nomatch hd
        exact ⟨[], .parameter named ends, by simp [source]⟩
      | cons d beyond =>
        -- The name would go on behind the text.
        have word : Text.isWord d = true := named.word d (by simp)
        have last : ∃ e ∈ ('@' :: after).getLast?, Text.isWord e = true ∨ e = '@' := by
          rcases List.eq_nil_or_concat after with rfl | ⟨front, e, rfl⟩
          · exact ⟨'@', rfl, .inr rfl⟩
          · refine ⟨e, ?_, .inl (named.word e (by simp))⟩
            rw [List.concat_eq_append]
            exact List.getLast?_concat (l := '@' :: front)
        obtain ⟨e, he, ends⟩ := last
        have joined := joins_of_isWord word ends
        rw [apart e he d rfl] at joined
        cases joined

theorem Element.extend {before after place : List Char} {lexeme : Lexeme}
    (h : Element before lexeme after) (bare : Bare (lexeme.source ++ after))
    (apart : Apart (lexeme.source ++ after) place) : Element before lexeme (after ++ place) := by
  cases h with
  | lone formless =>
    refine .lone fun other rest form whole => ?_
    obtain ⟨inner, form, whole⟩ := formed_within bare apart form whole
    exact formless other inner form whole
  | formed form =>
    cases form with
    | doubledAt => exact .formed .doubledAt
    | @parameter name _ named longest =>
      obtain ⟨front, c, rfl⟩ := List.eq_nil_or_concat name |>.resolve_left (by
        rintro rfl
        obtain ⟨_, _, empty, _⟩ := named
        cases empty)
      have apart : Apart ('@' :: front ++ c :: after) place := by simpa [source] using apart
      exact .formed (.parameter named (longest.append apart (.inl (named.word c (by simp)))))
    | quoted => exact absurd (by simp [source]) bare.quote
    | quotedName => exact absurd (by simp [source]) bare.doubleQuote
    | escapeString => exact absurd (by simp [source]) bare.quote
    | dollarQuote => exact absurd (by simp [source]) bare.dollar
    | lineComment => exact absurd (List.prefix_append ['-', '-'] _).isInfix bare.lineComment
    | blockComment => exact absurd (List.prefix_append ['/', '*'] _).isInfix bare.blockComment

/-- Bare text is cut in the same way whatever stands behind it. -/
theorem Cut.extend {before s place : List Char} {lexemes later : List Lexeme}
    (h : Cut before lexemes s) (bare : Bare s) (apart : Apart s place)
    (rest : Cut (before ++ s) later place) : Cut before (lexemes ++ later) (s ++ place) := by
  induction h with
  | done => simpa using rest
  | @next before after lexeme lexemes element _ ih =>
    have suffix : after <:+ lexeme.source ++ after := List.suffix_append _ _
    have others := ih (bare.of_infix suffix.isInfix) (apart.of_suffix suffix)
      (by simpa using rest)
    rw [List.append_assoc]
    exact .next (element.extend bare apart) others

theorem Cut.source_subset {before s : List Char} {lexemes : List Lexeme} (h : Cut before lexemes s)
    {lexeme : Lexeme} (member : lexeme ∈ lexemes) : lexeme.source ⊆ s := by
  intro c hc
  rw [← h.source]
  exact List.mem_flatMap.mpr ⟨lexeme, member, hc⟩

theorem Bare.exists_cut {before s place : List Char} {later : List Lexeme} (bare : Bare s)
    (apart : Apart s place) (rest : Cut (before ++ s) later place) :
    ∃ lexemes, Cut before (lexemes ++ later) (s ++ place) ∧
      ∀ lexeme ∈ lexemes, ';' ∉ lexeme.source := by
  have cut := cut_all before s
  refine ⟨all (endsWord before) s, cut.extend bare apart rest, fun lexeme member ends => ?_⟩
  exact bare.semicolon (cut.source_subset member ends)

end Runbook.Sql.Lexeme

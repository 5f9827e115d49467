import Mathlib.Data.List.Infix
import Runbook.Proofs.Sql.Lexeme

namespace Runbook.Sql.Lexeme

/-- The body goes up to the first occurrence of the delimiter, that one included, or to the end of
the source if the delimiter does not occur. -/
inductive UpToFirst (close : List Char) : List Char → List Char → Prop where
  | closed {body after : List Char} (found : close <:+ body) (first : ¬close <:+: body.dropLast) :
    UpToFirst close body after
  | unterminated {body : List Char} (absent : ¬close <:+: body) : UpToFirst close body []

/-- What follows the opening quote of an escape string: a backslash takes the next character with
it, two quotes are a quote, and any other quote closes. -/
inductive EscapeBody : List Char → List Char → Prop where
  | escaped {c : Char} {body after : List Char} (tail : EscapeBody body after) :
    EscapeBody ('\\' :: c :: body) after
  | doubled {body after : List Char} (tail : EscapeBody body after) :
    EscapeBody ('\'' :: '\'' :: body) after
  | plain {c : Char} {body after : List Char} (backslash : c ≠ '\\') (quote : c ≠ '\'')
      (tail : EscapeBody body after) : EscapeBody (c :: body) after
  | closed {after : List Char} (lone : after.head? ≠ some '\'') : EscapeBody ['\''] after
  | unterminated : EscapeBody [] []
  | cutOff : EscapeBody ['\\'] []

def IsName (name : List Char) : Prop :=
  ∃ c rest, name = c :: rest ∧ (Text.isLetter c = true ∨ c = '_') ∧
    ∀ d ∈ rest, Text.isWord d = true

def EndsName (after : List Char) : Prop := ∀ c, after.head? = some c → Text.isWord c = false

/-- The elements that have a form, by the source before them and after them. -/
inductive Formed (before : List Char) : Lexeme → List Char → Prop where
  | quoted {body after : List Char} (upTo : UpToFirst ['\''] body after) :
    Formed before (.verbatim ('\'' :: body)) after
  | escapeString {e : Char} {body after : List Char} (letter : e = 'E' ∨ e = 'e')
      (free : endsWord before = false) (inside : EscapeBody body after) :
    Formed before (.verbatim (e :: '\'' :: body)) after
  | quotedName {body after : List Char} (upTo : UpToFirst ['"'] body after) :
    Formed before (.verbatim ('"' :: body)) after
  | dollarQuote {tag body after : List Char} (named : tag = [] ∨ IsName tag)
      (free : endsWord before = false) (upTo : UpToFirst ('$' :: (tag ++ ['$'])) body after) :
    Formed before (.verbatim ('$' :: (tag ++ ['$']) ++ body)) after
  | lineComment {body after : List Char} (upTo : UpToFirst ['\n'] body after) :
    Formed before (.verbatim ('-' :: '-' :: body)) after
  | blockComment {body after : List Char} (upTo : UpToFirst ['*', '/'] body after) :
    Formed before (.verbatim ('/' :: '*' :: body)) after
  | doubledAt {after : List Char} : Formed before (.verbatim ['@', '@']) after
  | parameter {name after : List Char} (named : IsName name) (longest : EndsName after) :
    Formed before (.parameter name) after

/-- An element: one that has a form, or else a single character. -/
inductive Element (before : List Char) : Lexeme → List Char → Prop where
  | formed {lexeme : Lexeme} {after : List Char} (form : Formed before lexeme after) :
    Element before lexeme after
  | lone {c : Char} {after : List Char}
      (formless : ∀ lexeme rest, Formed before lexeme rest → lexeme.source ++ rest ≠ c :: after) :
    Element before (.verbatim [c]) after

/-- The source behind the text before it, cut into elements each of which begins where the last one
ended. -/
inductive Cut : List Char → List Lexeme → List Char → Prop where
  | done {before : List Char} : Cut before [] []
  | next {before after : List Char} {lexeme : Lexeme} {lexemes : List Lexeme}
      (element : Element before lexeme after)
      (later : Cut (before ++ lexeme.source) lexemes after) :
    Cut before (lexeme :: lexemes) (lexeme.source ++ after)

theorem through_eq_throughText (close : Char) (s : List Char) :
    through close s = throughText [close] s := by
  induction s with
  | nil => rfl
  | cons c rest ih =>
    unfold through throughText
    by_cases h : c = close
    · simp [h]
    · simp [h, Ne.symm h, ih]

theorem upToFirst_throughText {close : List Char} (filled : close ≠ []) (s : List Char) :
    UpToFirst close (throughText close s).1 (throughText close s).2 := by
  induction s with
  | nil => exact .unterminated (by simpa [throughText] using filled)
  | cons c rest ih =>
    have whole := throughText_append close rest
    unfold throughText
    split
    next here =>
      have here : close <+: c :: rest := List.isPrefixOf_iff_prefix.mp here
      have taken : (c :: rest).take close.length = close := (List.prefix_iff_eq_take.mp here).symm
      dsimp only
      rw [taken]
      refine .closed List.suffix_rfl fun inside => ?_
      have short := inside.length_le
      have positive := List.length_pos_iff.mpr filled
      rw [List.length_dropLast] at short
      omega
    next not_here =>
      have not_here : ¬close <+: c :: rest := fun h => not_here (List.isPrefixOf_iff_prefix.mpr h)
      generalize (throughText close rest).1 = body at ih whole
      generalize (throughText close rest).2 = after at ih whole
      have front : body <+: rest := ⟨after, whole⟩
      cases ih with
      | closed found first =>
        have nonempty : body ≠ [] := by
          rintro rfl
          exact filled (List.suffix_nil.mp found)
        refine .closed (found.trans (List.suffix_cons c body)) ?_
        rw [List.dropLast_cons_of_ne_nil nonempty, List.infix_cons_iff]
        rintro (start | inside)
        · have shorter : c :: body.dropLast <+: c :: rest :=
            (List.prefix_cons_inj c).mpr ((List.dropLast_prefix body).trans front)
          exact not_here (start.trans shorter)
        · exact first inside
      | unterminated absent =>
        refine .unterminated ?_
        rw [List.infix_cons_iff]
        rintro (start | inside)
        · exact not_here (start.trans ((List.prefix_cons_inj c).mpr front))
        · exact absent inside

theorem throughText_of_upToFirst {close body after : List Char} (filled : close ≠ [])
    (h : UpToFirst close body after) : throughText close (body ++ after) = (body, after) := by
  induction body with
  | nil =>
    cases h with
    | closed found => exact absurd (List.suffix_nil.mp found) filled
    | unterminated => rfl
  | cons c body ih =>
    rw [List.cons_append, throughText]
    cases h with
    | closed found first =>
      by_cases whole : close = c :: body
      · have here : close.isPrefixOf (c :: (body ++ after)) = true :=
          List.isPrefixOf_iff_prefix.mpr (whole ▸ ⟨after, rfl⟩)
        rw [if_pos here, whole, ← List.cons_append, List.take_left, List.drop_left]
      · have found : close <:+ body := (List.suffix_cons_iff.mp found).resolve_left whole
        have nonempty : body ≠ [] := by
          rintro rfl
          exact filled (List.suffix_nil.mp found)
        rw [List.dropLast_cons_of_ne_nil nonempty] at first
        -- An occurrence at the front would lie within the body, and end before it does.
        have not_here : ¬close.isPrefixOf (c :: (body ++ after)) = true := by
          intro here
          have here : close <+: c :: (body ++ after) := List.isPrefixOf_iff_prefix.mp here
          have inner : c :: body.dropLast <+: c :: (body ++ after) :=
            (List.prefix_cons_inj c).mpr
              ((List.dropLast_prefix body).trans (List.prefix_append body after))
          have short : close.length ≤ (c :: body.dropLast).length := by
            have positive := List.length_pos_iff.mpr nonempty
            have bound := found.length_le
            simp only [List.length_cons, List.length_dropLast]
            omega
          exact first (List.prefix_of_prefix_length_le here inner short).isInfix
        rw [if_neg not_here, ih (.closed found fun inside =>
          first (inside.trans (List.suffix_cons _ _).isInfix))]
    | unterminated absent =>
      have not_here : ¬close.isPrefixOf (c :: (body ++ [])) = true := by
        intro here
        rw [List.append_nil] at here
        exact absent (List.isPrefixOf_iff_prefix.mp here).isInfix
      rw [if_neg not_here, ih (.unterminated fun inside =>
        absent (inside.trans (List.suffix_cons _ _).isInfix))]

theorem escapeBody_grammar (s : List Char) : EscapeBody (escapeBody s).1 (escapeBody s).2 := by
  fun_induction escapeBody s with
  | case1 c rest ih => exact .escaped ih
  | case2 rest ih => exact .doubled ih
  | case3 rest single =>
    refine .closed ?_
    cases rest with
    | nil => simp
    | cons d rest =>
      intro h
      cases Option.some.inj h
      exact single rest rfl
  | case4 c rest escaped doubled quote ih =>
    by_cases backslash : c = '\\'
    · subst backslash
      cases rest with
      | nil => exact .cutOff
      | cons d rest => exact absurd rfl (escaped d rest rfl)
    · exact .plain backslash quote ih
  | case5 => exact .unterminated

theorem escapeBody_of_grammar {body after : List Char} (h : EscapeBody body after) :
    escapeBody (body ++ after) = (body, after) := by
  induction h with
  | escaped tail ih => simp [escapeBody, ih]
  | doubled tail ih => simp [escapeBody, ih]
  | @plain c body after backslash quote tail ih =>
    rw [List.cons_append, escapeBody.eq_4, ih]
    · intro d rest h
      exact absurd h backslash
    · intro rest h
      exact absurd h quote
    · exact quote
  | @closed after lone =>
    cases after with
    | nil => rfl
    | cons d rest =>
      have other : d ≠ '\'' := fun h => lone (by rw [h]; rfl)
      rw [List.singleton_append, escapeBody.eq_3]
      intro rest' h
      exact other (List.cons.inj h).1
  | unterminated => rfl
  | cutOff => rfl

theorem not_isDigit_of_begins {c : Char} (h : Text.isLetter c = true ∨ c = '_') :
    Text.isDigit c = false := by
  rcases h with letter | rfl
  · simp only [Text.isLetter, Text.isDigit, Bool.or_eq_true, Bool.and_eq_true, decide_eq_true_eq,
      Bool.and_eq_false_iff, decide_eq_false_iff_not, Char.le_def, UInt32.le_iff_toNat_le] at *
    have a : 'a'.val.toNat = 97 := rfl
    have capital : 'A'.val.toNat = 65 := rfl
    have nine : '9'.val.toNat = 57 := rfl
    omega
  · rfl

theorem isWord_of_begins {c : Char} (h : Text.isLetter c = true ∨ c = '_') :
    Text.isWord c = true := by
  rcases h with letter | rfl
  · simp [Text.isWord, letter]
  · rfl

theorem IsName.word {name : List Char} (h : IsName name) : ∀ c ∈ name, Text.isWord c = true := by
  obtain ⟨c, rest, rfl, begins, word⟩ := h
  intro d hd
  rcases List.mem_cons.mp hd with rfl | hd
  · exact isWord_of_begins begins
  · exact word d hd

theorem isName_of_word {c : Char} {rest : List Char} (word : ∀ d ∈ c :: rest, Text.isWord d = true)
    (digit : Text.isDigit c = false) : IsName (c :: rest) := by
  have first := word c (List.mem_cons_self ..)
  refine ⟨c, rest, rfl, ?_, fun d hd => word d (List.mem_cons_of_mem c hd)⟩
  simpa [Text.isWord, digit] using first

theorem takeWhile_word {name after : List Char} (word : ∀ c ∈ name, Text.isWord c = true)
    (ends : EndsName after) :
    (name ++ after).takeWhile Text.isWord = name ∧
      (name ++ after).dropWhile Text.isWord = after := by
  rw [List.takeWhile_append_of_pos word, List.dropWhile_append_of_pos word]
  cases after with
  | nil => simp
  | cons c rest => simp [ends c rfl]

theorem endsName_dropWhile (s : List Char) : EndsName (s.dropWhile Text.isWord) := by
  intro c h
  have stops := List.head?_dropWhile_not (p := Text.isWord) s
  rw [h] at stops
  exact stops

theorem dollarTag?_eq_some_iff {s opening after : List Char} :
    dollarTag? s = some (opening, after) ↔
      ∃ tag, (tag = [] ∨ IsName tag) ∧ opening = tag ++ ['$'] ∧ s = opening ++ after := by
  constructor
  · intro h
    have whole := dollarTag?_append h
    have word : ∀ c ∈ s.takeWhile Text.isWord, Text.isWord c = true :=
      fun c hc => List.all_eq_true.mp List.all_takeWhile c hc
    unfold dollarTag? at h
    split at h
    next =>
      split at h
      next =>
        cases h
        exact ⟨[], .inl rfl, rfl, whole.symm⟩
      next c tag ht =>
        split at h
        next => cases h
        next digit =>
          cases h
          rw [ht] at word
          exact ⟨c :: tag, .inr (isName_of_word word (by simpa using digit)), rfl, whole.symm⟩
    next => cases h
  · rintro ⟨tag, named, rfl, rfl⟩
    have word : ∀ c ∈ tag, Text.isWord c = true := by
      rcases named with rfl | named
      · simp
      · exact named.word
    have ends : EndsName ('$' :: after) := by
      intro c h
      cases Option.some.inj h
      rfl
    obtain ⟨front, back⟩ := takeWhile_word word ends
    rw [List.append_assoc, List.singleton_append]
    unfold dollarTag?
    rw [front, back]
    rcases named with rfl | ⟨c, rest, rfl, begins, _⟩
    · rfl
    · simp [not_isDigit_of_begins begins]

/-- What has a form is what is read. -/
theorem next_of_formed {before after : List Char} {lexeme : Lexeme}
    (h : Formed before lexeme after) :
    ∃ c rest, lexeme.source ++ after = c :: rest ∧
      next (endsWord before) c rest = (lexeme, after) := by
  cases h with
  | @quoted body _ upTo =>
    refine ⟨'\'', body ++ after, rfl, ?_⟩
    have read := throughText_of_upToFirst (List.cons_ne_nil _ _) upTo
    simp [next, prepend, through_eq_throughText, read]
  | @escapeString e body _ letter free inside =>
    refine ⟨e, '\'' :: (body ++ after), rfl, ?_⟩
    have read := escapeBody_of_grammar inside
    rcases letter with rfl | rfl
    · simp [next, prepend, free, read]
    · simp [next, prepend, free, read]
  | @quotedName body _ upTo =>
    refine ⟨'"', body ++ after, rfl, ?_⟩
    have read := throughText_of_upToFirst (List.cons_ne_nil _ _) upTo
    simp [next, prepend, through_eq_throughText, read]
  | @dollarQuote tag body _ named free upTo =>
    refine ⟨'$', (tag ++ ['$']) ++ (body ++ after), by simp [source], ?_⟩
    have opens : dollarTag? ((tag ++ ['$']) ++ (body ++ after)) =
        some (tag ++ ['$'], body ++ after) := dollarTag?_eq_some_iff.mpr ⟨tag, named, rfl, rfl⟩
    have read := throughText_of_upToFirst (List.cons_ne_nil _ _) upTo
    generalize (tag ++ ['$']) ++ (body ++ after) = rest at opens
    simp [next, prepend, free, opens, read]
  | @lineComment body _ upTo =>
    refine ⟨'-', '-' :: (body ++ after), rfl, ?_⟩
    have read := throughText_of_upToFirst (List.cons_ne_nil _ _) upTo
    simp [next, prepend, through_eq_throughText, read]
  | @blockComment body _ upTo =>
    refine ⟨'/', '*' :: (body ++ after), rfl, ?_⟩
    have read := throughText_of_upToFirst (List.cons_ne_nil _ _) upTo
    simp [next, prepend, read]
  | doubledAt => exact ⟨'@', '@' :: after, rfl, rfl⟩
  | @parameter name _ named longest =>
    obtain ⟨front, back⟩ := takeWhile_word named.word longest
    obtain ⟨c, rest, rfl, begins, _⟩ := named
    refine ⟨'@', c :: rest ++ after, rfl, ?_⟩
    have other : c ≠ '@' := by
      rintro rfl
      cases isWord_of_begins begins
    have starts : startsName (c :: rest ++ after) = true := by
      simpa [startsName] using begins
    rw [List.cons_append] at *
    simp [next, other, starts, front, back]

theorem Formed.quote_of_single {before after : List Char} {c : Char}
    (h : Formed before (.verbatim [c]) after) : c = '\'' ∨ c = '"' := by
  generalize same : Lexeme.verbatim [c] = lexeme at h
  cases h with
  | quoted =>
    cases same
    exact .inl rfl
  | quotedName =>
    cases same
    exact .inr rfl
  | dollarQuote =>
    have short := congrArg (fun lexeme => lexeme.source.length) same
    simp [source] at short
  | _ => cases same

theorem element_of_alone {before rest : List Char} {c : Char}
    (read : next (endsWord before) c rest = (.verbatim [c], rest)) (single : c ≠ '\'')
    (double : c ≠ '"') : Element before (.verbatim [c]) rest := by
  refine .lone fun lexeme after form whole => ?_
  obtain ⟨d, others, whole', read'⟩ := next_of_formed form
  cases whole.symm.trans whole'
  cases read.symm.trans read'
  rcases form.quote_of_single with h | h
  · exact single h
  · exact double h

theorem element_next (before : List Char) (c : Char) (rest : List Char) :
    Element before (next (endsWord before) c rest).1 (next (endsWord before) c rest).2 := by
  have alone := @element_of_alone before rest c
  generalize read : next (endsWord before) c rest = step at alone ⊢
  unfold next at read
  split at read
  next =>
    subst read
    rw [through_eq_throughText]
    exact .formed (.quoted (upToFirst_throughText (List.cons_ne_nil _ _) rest))
  next =>
    subst read
    rw [through_eq_throughText]
    exact .formed (.quotedName (upToFirst_throughText (List.cons_ne_nil _ _) rest))
  next rest =>
    subst read
    rw [through_eq_throughText]
    exact .formed (.lineComment (upToFirst_throughText (List.cons_ne_nil _ _) rest))
  next rest =>
    subst read
    exact .formed (.blockComment (upToFirst_throughText (List.cons_ne_nil _ _) rest))
  next rest =>
    subst read
    exact .formed .doubledAt
  next =>
    split at read
    next starts =>
      subst read
      cases rest with
      | nil => cases starts
      | cons d rest =>
        have begins : Text.isLetter d = true ∨ d = '_' := by simpa [startsName] using starts
        have word : ∀ x ∈ (d :: rest).takeWhile Text.isWord, Text.isWord x = true :=
          fun x hx => List.all_eq_true.mp List.all_takeWhile x hx
        have ends := endsName_dropWhile (d :: rest)
        rw [List.takeWhile_cons_of_pos (isWord_of_begins begins)] at word ⊢
        exact .formed (.parameter (isName_of_word word (not_isDigit_of_begins begins)) ends)
    next =>
      subst read
      exact alone rfl (by decide) (by decide)
  next =>
    split at read
    next tag after opens =>
      subst read
      split at opens
      next => cases opens
      next free =>
        obtain ⟨name, named, rfl, rfl⟩ := dollarTag?_eq_some_iff.mp opens
        exact .formed (.dollarQuote named (by simpa using free)
          (upToFirst_throughText (List.cons_ne_nil _ _) after))
    next =>
      subst read
      exact alone rfl (by decide) (by decide)
  next rest quote double _ _ =>
    split at read
    next escape =>
      subst read
      obtain ⟨letter, free⟩ := escape
      exact .formed (.escapeString letter (by simpa using free) (escapeBody_grammar rest))
    next =>
      subst read
      exact alone rfl quote double
  next quote double _ _ _ _ _ _ =>
    subst read
    exact alone rfl quote double

theorem element_iff {before after : List Char} {lexeme : Lexeme} :
    Element before lexeme after ↔
      ∃ c rest, lexeme.source ++ after = c :: rest ∧
        next (endsWord before) c rest = (lexeme, after) := by
  constructor
  · intro h
    cases h with
    | formed form => exact next_of_formed form
    | @lone c _ formless =>
      refine ⟨c, after, rfl, ?_⟩
      -- What is read here has no form, so it is a single character as well.
      have read := element_next before c after
      have whole := next_source (endsWord before) c after
      generalize next (endsWord before) c after = step at read whole ⊢
      obtain ⟨lexeme, rest⟩ := step
      cases read with
      | formed form => exact absurd whole (formless _ _ form)
      | lone => cases whole; rfl
  · rintro ⟨c, rest, _, read⟩
    have element := element_next before c rest
    rwa [read] at element

theorem Element.source_ne_nil {before after : List Char} {lexeme : Lexeme}
    (h : Element before lexeme after) : lexeme.source ≠ [] := by
  obtain ⟨c, rest, _, read⟩ := element_iff.mp h
  have nonempty := next_source_ne_nil (endsWord before) c rest
  rwa [read] at nonempty

theorem endsWord_append {before text : List Char} (nonempty : text ≠ []) :
    endsWord (before ++ text) = endsWord text := by
  obtain ⟨front, last, rfl⟩ := List.eq_nil_or_concat text |>.resolve_left nonempty
  simp [endsWord]

theorem cut_all (before s : List Char) : Cut before (all (endsWord before) s) s := by
  generalize h : endsWord before = afterWord
  fun_induction all afterWord s generalizing before with
  | case1 => exact .done
  | case2 afterWord c rest step ih =>
    subst h
    have nonempty : step.1.source ≠ [] := next_source_ne_nil (endsWord before) c rest
    have later := ih (before ++ step.1.source) (endsWord_append nonempty)
    have cut := Cut.next (element_next before c rest) later
    rwa [next_source] at cut

/-- No other elements do. -/
theorem Cut.eq_all {before s : List Char} {lexemes : List Lexeme} (h : Cut before lexemes s) :
    lexemes = all (endsWord before) s := by
  induction h with
  | done => simp [all]
  | @next before after lexeme lexemes element later ih =>
    obtain ⟨c, rest, whole, read⟩ := element_iff.mp element
    rw [whole, all]
    simp only [read]
    rw [ih, endsWord_append element.source_ne_nil]

theorem cut_iff {s : List Char} {lexemes : List Lexeme} :
    Cut [] lexemes s ↔ lexemes = all false s :=
  ⟨Cut.eq_all, fun h => h ▸ cut_all [] s⟩

theorem Cut.source {before s : List Char} {lexemes : List Lexeme} (h : Cut before lexemes s) :
    lexemes.flatMap Lexeme.source = s := by
  induction h with
  | done => rfl
  | next _ _ ih => rw [List.flatMap_cons, ih]

end Runbook.Sql.Lexeme

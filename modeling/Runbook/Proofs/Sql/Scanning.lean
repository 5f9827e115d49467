import Runbook.Proofs.Sql.Grammar
import Runbook.Proofs.Sql.Reader
import Runbook.Sql.Scan

namespace Runbook.Sql

namespace Lexeme

theorem endsWord_of_word {front text : List Char} (nonempty : text ≠ [])
    (word : ∀ c ∈ text, Text.isWord c = true) : endsWord (front ++ text) = true := by
  rw [endsWord_append nonempty]
  have last := word _ (List.getLast_mem nonempty)
  simp [endsWord, List.getLast?_eq_some_getLast nonempty, last]

theorem Element.endsWord_parameter {before after name : List Char}
    (h : Element before (.parameter name) after) :
    endsWord (Lexeme.parameter name).source = true := by
  cases h with
  | formed form =>
    cases form with
    | parameter named =>
      have nonempty : name ≠ [] := by
        obtain ⟨_, _, rfl, _⟩ := named
        exact List.cons_ne_nil _ _
      have word : endsWord (['@'] ++ name) = true := endsWord_of_word nonempty named.word
      exact word

theorem endsWord_slot (n : Nat) : endsWord (Scan.slot n) = true := by
  have word : ∀ c ∈ Nat.toDigits 10 n, Text.isWord c = true := fun c hc => by
    simp [Text.isWord, Text.isDigit_of_mem_toDigits hc]
  have digits : endsWord (['$'] ++ Nat.toDigits 10 n) = true :=
    endsWord_of_word Nat.toDigits_ne_nil word
  exact digits

end Lexeme

def Scan.number (names : List String) : List Lexeme → List Char × List String
  | [] => ([], names)
  | .verbatim text :: rest => (text ++ (number names rest).1, (number names rest).2)
  | .parameter name :: rest =>
    let placed := place names (.ofList name)
    (slot (placed.1 + 1) ++ (number placed.2 rest).1, (number placed.2 rest).2)

namespace Scanner

open Lexeme

variable {s : Scanner} {c : Char} {source rest : List Char}

def output (s : Scanner) : List Char × List String := (s.text.toList, s.names)

@[simp]
theorem text_write (chars : List Char) : (s.write chars).text.toList = s.text.toList ++ chars :=
  Array.toList_appendList

@[simp]
theorem text_enter (mode : Mode) : (s.enter mode).text = s.text := rfl

@[simp]
theorem mode_enter (mode : Mode) : (s.enter mode).mode = mode := rfl

@[simp]
theorem names_write (chars : List Char) : (s.write chars).names = s.names := rfl

@[simp]
theorem names_enter (mode : Mode) : (s.enter mode).names = s.names := rfl

theorem followsWord_eq : s.followsWord = endsWord s.text.toList := by
  simp [followsWord, endsWord]

theorem step_outside (within : s.mode = .outside) :
    s.step c rest = s.stepOutside c rest := by
  simp only [step, within]

theorem step_quoted (within : s.mode = .quoted) :
    s.step c rest = (s.copy '\'' c, rest) := by
  simp only [step, within]

theorem step_escapeString (within : s.mode = .escapeString) :
    s.step c rest = s.stepEscapeString c rest := by
  simp only [step, within]

theorem step_dollarQuote (within : s.mode = .dollarQuote) :
    s.step c rest = (s.stepDollarQuote c, rest) := by
  simp only [step, within]

theorem step_quotedName (within : s.mode = .quotedName) :
    s.step c rest = (s.copy '"' c, rest) := by
  simp only [step, within]

theorem step_lineComment (within : s.mode = .lineComment) :
    s.step c rest = (s.copy '\n' c, rest) := by
  simp only [step, within]

theorem step_blockComment (within : s.mode = .blockComment) :
    s.step c rest = s.stepBlockComment c rest := by
  simp only [step, within]

/-- The body is copied, and after it the scanner is outside again or there is no more source. -/
def Copies (s : Scanner) (source body after : List Char) : Prop :=
  ∃ t : Scanner, t.mode = .outside ∧ t.text.toList = s.text.toList ++ body ∧ t.names = s.names ∧
    (s.run source).output = (t.run after).output

theorem copies_nil : s.Copies [] [] [] := by
  refine ⟨s.enter .outside, rfl, by simp, rfl, ?_⟩
  rw [run, run]
  rfl

theorem copies_closing {t : Scanner} {body : List Char} (read : s.step c source = (t, rest))
    (outside : t.mode = .outside) (text : t.text.toList = s.text.toList ++ body)
    (names : t.names = s.names) : s.Copies (c :: source) body rest := by
  refine ⟨t, outside, text, names, ?_⟩
  rw [run, read]

theorem Copies.behind {t : Scanner} {written body after : List Char}
    (h : t.Copies rest body after) (read : s.step c source = (t, rest))
    (text : t.text.toList = s.text.toList ++ written) (names : t.names = s.names) :
    s.Copies (c :: source) (written ++ body) after := by
  obtain ⟨u, outside, uText, uNames, same⟩ := h
  refine ⟨u, outside, ?_, uNames.trans names, ?_⟩
  · rw [uText, text, List.append_assoc]
  · rw [run, read]
    exact same

theorem copies_through {close : Char} {mode : Mode}
    (copying : ∀ {s : Scanner} {c rest}, s.mode = mode → s.step c rest = (s.copy close c, rest))
    (within : s.mode = mode) :
    s.Copies source (through close source).1 (through close source).2 := by
  induction source generalizing s with
  | nil => exact copies_nil
  | cons c rest ih =>
    have read : s.step c rest = _ := copying within
    unfold copy at read
    unfold through
    split at read
    next found =>
      rw [if_pos found]
      exact copies_closing read rfl (by simp) rfl
    next other =>
      rw [if_neg other]
      exact (ih (s := s.write [c]) within).behind read (text_write [c]) rfl

theorem copies_escapeBody (within : s.mode = .escapeString) :
    s.Copies source (escapeBody source).1 (escapeBody source).2 := by
  fun_induction escapeBody source generalizing s with
  | case1 c rest ih =>
    exact (ih (s := s.write ['\\', c]) within).behind (step_escapeString within)
      (text_write ['\\', c]) rfl
  | case2 rest ih =>
    exact (ih (s := s.write ['\'', '\'']) within).behind (step_escapeString within)
      (text_write ['\'', '\'']) rfl
  | case3 rest single =>
    have read : s.stepEscapeString '\'' rest = ((s.enter .outside).write ['\''], rest) := by
      rw [stepEscapeString]
      exact single
    exact copies_closing ((step_escapeString within).trans read) rfl (by simp) rfl
  | case4 c rest escaped doubled quote ih =>
    have read : s.stepEscapeString c rest = (s.write [c], rest) := by
      rw [stepEscapeString]
      · exact quote
      · exact escaped
      · exact doubled
    exact (ih (s := s.write [c]) within).behind ((step_escapeString within).trans read)
      (text_write [c]) rfl
  | case5 => exact copies_nil

theorem copies_blockComment (within : s.mode = .blockComment) :
    s.Copies source (throughText ['*', '/'] source).1 (throughText ['*', '/'] source).2 := by
  induction source generalizing s with
  | nil => exact copies_nil
  | cons c rest ih =>
    unfold throughText
    split
    next closes =>
      obtain ⟨after, whole⟩ := List.isPrefixOf_iff_prefix.mp closes
      cases whole
      exact copies_closing (step_blockComment within) rfl (by simp) rfl
    next other =>
      have read : s.stepBlockComment c rest = (s.write [c], rest) := by
        rw [stepBlockComment]
        rintro after rfl rfl
        exact other rfl
      exact (ih (s := s.write [c]) within).behind ((step_blockComment within).trans read)
        (text_write [c]) rfl

/-- The closing delimiter is looked for at the end of what was written since the opening one, which
finds its first occurrence. -/
theorem copies_upToFirst {front body after : List Char} (within : s.mode = .dollarQuote)
    (dollar : ∃ tag, s.delimiter = tag ++ ['$']) (start : s.bodyStart ≤ s.text.size)
    (read : s.text.toList.drop s.bodyStart = front) (absent : ¬s.delimiter <:+: front)
    (upTo : UpToFirst s.delimiter (front ++ body) after) :
    s.Copies (body ++ after) body after := by
  induction body generalizing s front with
  | nil =>
    rw [List.append_nil] at upTo
    cases upTo with
    | closed found => exact absurd found.isInfix absent
    | unterminated => exact copies_nil
  | cons c body ih =>
    have written : (s.write [c]).text.toList.drop s.bodyStart = front ++ [c] := by
      rw [text_write, List.drop_append_of_le_length (by simpa using start), read]
    have whole : front ++ c :: body = (front ++ [c]) ++ body := by simp
    rw [whole] at upTo
    by_cases closes : s.delimiter <:+ front ++ [c]
    · -- Behind the first occurrence nothing of the body is left.
      have last : body = [] := by
        cases upTo with
        | closed _ first =>
          by_contra more
          rw [List.dropLast_append_of_ne_nil more] at first
          exact first (closes.isInfix.trans (List.infix_append' [] _ _))
        | unterminated unclosed =>
          exact absurd (closes.isInfix.trans (List.infix_append' [] _ _)) unclosed
      have sign : c = '$' := by
        obtain ⟨tag, eq⟩ := dollar
        rw [eq] at closes
        obtain ⟨lead, eq⟩ := closes
        have ends := congrArg List.getLast? eq
        simpa [← List.append_assoc] using ends.symm
      subst last
      have read : s.stepDollarQuote c = (s.write [c]).enter .outside :=
        if_pos ⟨sign, written ▸ closes⟩
      refine copies_closing (step_dollarQuote within) ?_ ?_ ?_
      · rw [read, mode_enter]
      · rw [read, text_enter, text_write]
      · rw [read, names_enter, names_write]
    · have read : s.stepDollarQuote c = s.write [c] := if_neg fun h => closes (written ▸ h.2)
      have grown := congrArg List.length (text_write (s := s) [c])
      simp only [Array.length_toList, List.length_append, List.length_singleton] at grown
      have longer : (s.write [c]).bodyStart ≤ (s.write [c]).text.size := start.trans (by omega)
      have absent : ¬(s.write [c]).delimiter <:+: front ++ [c] := by
        rw [List.infix_concat_iff]
        exact fun h => h.elim closes absent
      have later := ih (s := s.write [c]) within dollar longer written absent upTo
      refine later.behind ?_ (text_write [c]) rfl
      rw [List.append_eq, step_dollarQuote within, read]

/-- Behind its first character, a delimiter goes on to the next `$` that follows words only. -/
theorem delimiter?_of_long {read : List Char} (long : 2 ≤ read.length) :
    delimiter? read rest =
      if (rest.dropWhile Text.isWord).head? = some '$' then
        some (read ++ rest.takeWhile Text.isWord ++ ['$'])
      else none := by
  induction rest generalizing read with
  | nil => rfl
  | cons c rest ih =>
    have more : read.length ≠ 1 := by omega
    rw [delimiter?, if_neg more]
    by_cases sign : c = '$'
    · subst sign
      simp [show Text.isWord '$' = false from rfl]
    by_cases word : Text.isWord c = true
    · rw [if_neg sign, if_pos word, ih (by simp; omega), List.dropWhile_cons_of_pos word,
        List.takeWhile_cons_of_pos word, List.append_assoc read, List.singleton_append]
    · rw [if_neg sign, if_neg word, List.dropWhile_cons_of_neg word, List.head?_cons,
        if_neg (by simpa using sign)]

theorem map_dollarTag? (s : List Char) :
    (dollarTag? s).map Prod.fst =
      if (s.dropWhile Text.isWord).head? = some '$' ∧
          (s.takeWhile Text.isWord).head?.any Text.isDigit = false then
        some (s.takeWhile Text.isWord ++ ['$'])
      else none := by
  unfold dollarTag?
  generalize s.dropWhile Text.isWord = tail
  generalize s.takeWhile Text.isWord = front
  cases tail with
  | nil => rfl
  | cons d after =>
    by_cases sign : d = '$'
    · subst sign
      cases front with
      | nil => rfl
      | cons c tag => cases digit : Text.isDigit c <;> simp [digit]
    · simp [sign]

theorem delimiter?_eq_dollarTag? (rest : List Char) :
    delimiter? ['$'] rest = (dollarTag? rest).map fun opening => '$' :: opening.1 := by
  have opening : (dollarTag? rest).map (fun opening => '$' :: opening.1) =
      ((dollarTag? rest).map Prod.fst).map ('$' :: ·) := by
    rw [Option.map_map]
    rfl
  rw [opening, map_dollarTag?]
  cases rest with
  | nil => rfl
  | cons c rest =>
    rw [delimiter?]
    by_cases sign : c = '$'
    · subst sign
      rfl
    by_cases starts : begins c = true
    · have letter : Text.isLetter c = true ∨ c = '_' := by simpa [begins] using starts
      have word : Text.isWord c = true := isWord_of_begins letter
      rw [if_neg sign, List.length_singleton, if_pos rfl, if_pos starts,
        delimiter?_of_long (by simp), List.dropWhile_cons_of_pos word,
        List.takeWhile_cons_of_pos word]
      simp [not_isDigit_of_begins letter, apply_ite]
    · rw [if_neg sign, List.length_singleton, if_pos rfl, if_neg starts]
      by_cases word : Text.isWord c = true
      · have digit : Text.isDigit c = true := by
          simp [begins, Text.isWord] at starts word
          simp_all
        simp [List.takeWhile_cons_of_pos word, digit]
      · simp [List.dropWhile_cons_of_neg word, sign]

/-- What an element does to a scanner that is outside. -/
inductive Reads (s : Scanner) (source : List Char) : Lexeme × List Char → Prop where
  | verbatim {text after : List Char} (copied : s.Copies source text after) :
    Reads s source (.verbatim text, after)
  | parameter {name after : List Char} (t : Scanner) (outside : t.mode = .outside)
      (text : t.text.toList =
        s.text.toList ++ Scan.slot ((Scan.place s.names (.ofList name)).1 + 1))
      (names : t.names = (Scan.place s.names (.ofList name)).2)
      (same : (s.run source).output = (t.run after).output) :
    Reads s source (.parameter name, after)

theorem reads_opening {t : Scanner} {opening body after : List Char}
    (h : t.Copies rest body after) (outside : s.mode = .outside)
    (read : s.stepOutside c source = (t, rest)) (text : t.text.toList = s.text.toList ++ opening)
    (names : t.names = s.names) : s.Reads (c :: source) (.verbatim (opening ++ body), after) :=
  .verbatim (h.behind ((step_outside outside).trans read) text names)

theorem reads_lone {written : List Char} (outside : s.mode = .outside)
    (read : s.stepOutside c source = (s.write written, rest)) :
    s.Reads (c :: source) (.verbatim written, rest) :=
  .verbatim (copies_closing ((step_outside outside).trans read) outside (text_write written) rfl)

theorem reads_parameter (outside : s.mode = .outside)
    (single : ∀ others, rest = '@' :: others → False) :
    s.Reads ('@' :: rest) (if startsName rest then
      (parameter (rest.takeWhile Text.isWord), rest.dropWhile Text.isWord)
      else (.verbatim ['@'], rest)) := by
  have starts : rest.head?.any begins = startsName rest := by
    cases rest with
    | nil => rfl
    | cons d rest => rfl
  split
  next begun =>
    have read : s.stepOutside '@' rest =
        (({ s with names := (Scan.place s.names (.ofList (rest.takeWhile Text.isWord))).2 } :
          Scanner).write (Scan.slot
            ((Scan.place s.names (.ofList (rest.takeWhile Text.isWord))).1 + 1)),
          rest.dropWhile Text.isWord) := by
      rw [stepOutside, starts, if_pos begun]
      exact single
    refine .parameter (s.stepOutside '@' rest).1 ?_ ?_ ?_ ?_
    · rw [read]
      exact outside
    · rw [read]
      exact text_write _
    · rw [read]
      rfl
    · rw [run, step_outside outside, read]
  next unnamed =>
    refine reads_lone outside ?_
    rw [stepOutside, starts, if_neg unnamed]
    exact single

theorem reads_dollar (outside : s.mode = .outside) :
    s.Reads ('$' :: rest) (match if s.followsWord then none else dollarTag? rest with
      | some (tag, after) => prepend ('$' :: tag) (throughText ('$' :: tag) after)
      | none => (.verbatim ['$'], rest)) := by
  have opening : (if s.followsWord then none else delimiter? ['$'] rest) =
      (if s.followsWord then none else dollarTag? rest).map fun opened => '$' :: opened.1 := by
    rw [delimiter?_eq_dollarTag?]
    split <;> rfl
  generalize opens : (if s.followsWord then none else dollarTag? rest) = found at opening
  cases found with
  | none =>
    refine reads_lone outside ?_
    rw [stepOutside, opening]
    rfl
  | some split =>
    obtain ⟨tag, after⟩ := split
    obtain ⟨name, _, rfl, rfl⟩ : ∃ name, (name = [] ∨ IsName name) ∧ tag = name ++ ['$'] ∧
        rest = tag ++ after := by
      split at opens
      · cases opens
      · exact dollarTag?_eq_some_iff.mp opens
    let t : Scanner :=
      { s.write ('$' :: (name ++ ['$'])) with
        mode := .dollarQuote
        delimiter := '$' :: (name ++ ['$'])
        bodyStart := (s.write ('$' :: (name ++ ['$']))).text.size }
    have read : s.stepOutside '$' ((name ++ ['$']) ++ after) = (t, after) := by
      rw [stepOutside, opening]
      simp [t]
    have fresh : t.text.toList.drop t.bodyStart = [] := List.drop_eq_nil_of_le le_rfl
    have upTo := upToFirst_throughText (List.cons_ne_nil '$' (name ++ ['$'])) after
    have body := copies_upToFirst (s := t) rfl ⟨'$' :: name, rfl⟩ le_rfl fresh (by simp [t]) upTo
    rw [throughText_append] at body
    exact reads_opening body outside read (text_write _) rfl

theorem reads_next (outside : s.mode = .outside) :
    s.Reads (c :: rest) (next s.followsWord c rest) := by
  unfold next
  split
  next => exact reads_opening (copies_through step_quoted rfl) outside rfl (text_write _) rfl
  next => exact reads_opening (copies_through step_quotedName rfl) outside rfl (text_write _) rfl
  next rest =>
    -- The second hyphen is already copied as a part of the comment.
    have second : ((s.enter .lineComment).write ['-']).step '-' rest =
        (((s.enter .lineComment).write ['-']).write ['-'], rest) := step_lineComment rfl
    have body := (copies_through step_lineComment rfl).behind second (text_write _) rfl
    have opening : s.stepOutside '-' ('-' :: rest) =
        ((s.enter .lineComment).write ['-'], '-' :: rest) := rfl
    exact (reads_opening body outside opening (text_write ['-']) rfl :)
  next rest => exact reads_opening (copies_blockComment rfl) outside rfl (text_write _) rfl
  next rest => exact reads_lone outside rfl
  next other => exact reads_parameter outside other
  next => exact reads_dollar outside
  next rest _ _ _ _ =>
    have read : s.stepOutside c ('\'' :: rest) =
        if (c = 'E' ∨ c = 'e') ∧ !s.followsWord then
          ((s.enter .escapeString).write [c, '\''], rest)
        else (s.write [c], '\'' :: rest) := by
      rw [stepOutside] <;> assumption
    split
    next escape =>
      rw [if_pos escape] at read
      exact reads_opening (copies_escapeBody rfl) outside read (text_write _) rfl
    next plain =>
      rw [if_neg plain] at read
      exact reads_lone outside read
  next =>
    have read : s.stepOutside c rest = (s.write [c], rest) := by
      rw [stepOutside] <;> assumption
    exact reads_lone outside read

theorem output_run (outside : s.mode = .outside) :
    (s.run source).output =
      (s.text.toList ++ (Scan.number s.names (all s.followsWord source)).1,
        (Scan.number s.names (all s.followsWord source)).2) := by
  -- Behind each element the scanner is outside again, with a shorter source.
  induction length : source.length using Nat.strong_induction_on generalizing s source with
  | _ length ih =>
    subst length
    cases source with
    | nil => simp [run, output, all, Scan.number]
    | cons c rest =>
      have reads : s.Reads (c :: rest) (next s.followsWord c rest) := reads_next outside
      have nonempty := next_source_ne_nil s.followsWord c rest
      have shorter := next_length s.followsWord c rest
      have element := element_next s.text.toList c rest
      rw [← followsWord_eq] at element
      rw [all]
      generalize next s.followsWord c rest = step at reads nonempty shorter element
      cases reads with
      | @verbatim text after copied =>
        obtain ⟨t, outside, written, names, same⟩ := copied
        have ends : t.followsWord = endsWord text := by
          rw [followsWord_eq, written]
          exact endsWord_append nonempty
        rw [same, ih _ shorter outside rfl, ends, written, names]
        simp [Scan.number, Lexeme.source]
      | @parameter name after t outside written names same =>
        have ends : t.followsWord = endsWord (Lexeme.parameter name).source := by
          rw [followsWord_eq, written, element.endsWord_parameter]
          exact (endsWord_append (List.cons_ne_nil _ _)).trans (endsWord_slot _)
        rw [same, ih _ shorter outside rfl, ends, written, names]
        simp [Scan.number]

end Scanner

theorem Scan.ofText_eq (sql : String) :
    ofText sql = ⟨.ofList (number [] (Lexeme.ofText sql)).1, (number [] (Lexeme.ofText sql)).2⟩ := by
  have read : (Scanner.start.run sql.toList).output = _ := Scanner.output_run rfl
  have text : (Scanner.start.run sql.toList).text.toList = (number [] (Lexeme.ofText sql)).1 :=
    congrArg Prod.fst read
  have names : (Scanner.start.run sql.toList).names = (number [] (Lexeme.ofText sql)).2 :=
    congrArg Prod.snd read
  rw [ofText, text, names]

end Runbook.Sql

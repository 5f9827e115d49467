import Runbook.Text

namespace Runbook.Sql

inductive Lexeme where
  /-- Quoted text, a quoted identifier, a comment, `@@`, or one other character. -/
  | verbatim (text : List Char)
  | parameter (name : List Char)
  deriving DecidableEq, Repr

namespace Lexeme

def source : Lexeme → List Char
  | verbatim text => text
  | parameter name => '@' :: name

def through (close : Char) : List Char → List Char × List Char
  | [] => ([], [])
  | c :: rest =>
    if c = close then ([c], rest)
    else (c :: (through close rest).1, (through close rest).2)

def throughText (close : List Char) : List Char → List Char × List Char
  | [] => ([], [])
  | c :: rest =>
    if close.isPrefixOf (c :: rest) then
      ((c :: rest).take close.length, (c :: rest).drop close.length)
    else (c :: (throughText close rest).1, (throughText close rest).2)

/-- The body of an escape string and its closing quote: a backslash takes the next character with
it, and two quotes are a quote. -/
def escapeBody : List Char → List Char × List Char
  | '\\' :: c :: rest => ('\\' :: c :: (escapeBody rest).1, (escapeBody rest).2)
  | '\'' :: '\'' :: rest => ('\'' :: '\'' :: (escapeBody rest).1, (escapeBody rest).2)
  | '\'' :: rest => (['\''], rest)
  | c :: rest => (c :: (escapeBody rest).1, (escapeBody rest).2)
  | [] => ([], [])

def dollarTag? (s : List Char) : Option (List Char × List Char) :=
  match s.dropWhile Text.isWord with
  | '$' :: rest =>
    match s.takeWhile Text.isWord with
    | [] => some (['$'], rest)
    | c :: tag => if Text.isDigit c then none else some (c :: tag ++ ['$'], rest)
  | _ => none

def startsName : List Char → Bool
  | c :: _ => Text.isLetter c || c == '_'
  | [] => false

def prepend (opening : List Char) (split : List Char × List Char) : Lexeme × List Char :=
  (verbatim (opening ++ split.1), split.2)

/-- The element that begins with `c`, and the text behind it. Whether a word precedes decides
between a dollar quote or escape string and a lone character. -/
def next (afterWord : Bool) (c : Char) (rest : List Char) : Lexeme × List Char :=
  match c, rest with
  | '\'', rest => prepend ['\''] (through '\'' rest)
  | '"', rest => prepend ['"'] (through '"' rest)
  | '-', '-' :: rest => prepend ['-', '-'] (through '\n' rest)
  | '/', '*' :: rest => prepend ['/', '*'] (throughText ['*', '/'] rest)
  | '@', '@' :: rest => (verbatim ['@', '@'], rest)
  | '@', rest =>
    if startsName rest then (parameter (rest.takeWhile Text.isWord), rest.dropWhile Text.isWord)
    else (verbatim ['@'], rest)
  | '$', rest =>
    match if afterWord then none else dollarTag? rest with
    | some (tag, rest) => prepend ('$' :: tag) (throughText ('$' :: tag) rest)
    | none => (verbatim ['$'], rest)
  | c, '\'' :: rest =>
    if (c = 'E' ∨ c = 'e') ∧ !afterWord then prepend [c, '\''] (escapeBody rest)
    else (verbatim [c], '\'' :: rest)
  | c, rest => (verbatim [c], rest)

theorem through_append (close : Char) (s : List Char) :
    (through close s).1 ++ (through close s).2 = s := by
  induction s with
  | nil => rfl
  | cons c rest ih => unfold through; split <;> simp_all

theorem throughText_append (close : List Char) (s : List Char) :
    (throughText close s).1 ++ (throughText close s).2 = s := by
  induction s with
  | nil => rfl
  | cons c rest ih =>
    unfold throughText
    split
    · exact List.take_append_drop ..
    · simp [ih]

theorem escapeBody_append (s : List Char) : (escapeBody s).1 ++ (escapeBody s).2 = s := by
  fun_induction escapeBody s <;> simp_all

theorem dollarTag?_append {s tag rest : List Char} (h : dollarTag? s = some (tag, rest)) :
    tag ++ rest = s := by
  have hs := List.takeWhile_append_dropWhile (p := Text.isWord) (l := s)
  unfold dollarTag? at h
  split at h
  next hd =>
    rw [hd] at hs
    split at h
    next ht => cases h; simpa [ht] using hs
    next ht =>
      split at h
      · cases h
      · cases h; simpa [ht] using hs
  next => cases h

theorem next_source (afterWord : Bool) (c : Char) (rest : List Char) :
    (next afterWord c rest).1.source ++ (next afterWord c rest).2 = c :: rest := by
  unfold next
  split
  · simp [prepend, source, through_append]
  · simp [prepend, source, through_append]
  · simp [prepend, source, through_append]
  · simp [prepend, source, throughText_append]
  · rfl
  · split <;> simp [source]
  · split
    next h =>
      split at h
      · cases h
      · simp [prepend, source, throughText_append, dollarTag?_append h]
    next => rfl
  · split <;> simp [prepend, source, escapeBody_append]
  · rfl

theorem next_source_ne_nil (afterWord : Bool) (c : Char) (rest : List Char) :
    (next afterWord c rest).1.source ≠ [] := by
  unfold next
  split <;> (try split) <;> simp [prepend, source]

theorem next_length (afterWord : Bool) (c : Char) (rest : List Char) :
    (next afterWord c rest).2.length < (c :: rest).length := by
  have h := congrArg List.length (next_source afterWord c rest)
  have hs := List.length_pos_iff.2 (next_source_ne_nil afterWord c rest)
  rw [List.length_append] at h
  omega

def endsWord (s : List Char) : Bool := s.getLast?.any Text.isWord

def all (afterWord : Bool) : List Char → List Lexeme
  | [] => []
  | c :: rest =>
    let step := next afterWord c rest
    step.1 :: all (endsWord step.1.source) step.2
termination_by s => s.length
decreasing_by exact next_length afterWord c rest

def ofText (s : String) : List Lexeme := all false s.toList

end Lexeme

end Runbook.Sql

import Runbook.Text

namespace Runbook.Sql

/-- SQL text with numbered slots in place of its `@name` parameters. -/
structure Scan where
  text : String
  /-- The name of slot `$n` stands at position `n - 1`. -/
  names : List String
  deriving DecidableEq, Repr

/-- Where the scanner is: outside of everything, or within text that is copied as it stands. -/
inductive Scanner.Mode where
  | outside
  | quoted
  | escapeString
  | dollarQuote
  | quotedName
  | lineComment
  | blockComment
  deriving DecidableEq, Repr

structure Scanner where
  mode : Scanner.Mode
  /-- The delimiter of the last dollar quote, and where the body began that it closes. -/
  delimiter : List Char
  bodyStart : Nat
  text : Array Char
  names : List String

namespace Scan

def place (names : List String) (name : String) : Nat × List String :=
  if name ∈ names then (names.idxOf name, names) else (names.length, names ++ [name])

def slot (n : Nat) : List Char := '$' :: Nat.toDigits 10 n

end Scan

namespace Scanner

def start : Scanner := ⟨.outside, [], 0, #[], []⟩

def begins (c : Char) : Bool := Text.isLetter c || c == '_'

/-- What was written so far ends in a character of a word. -/
def followsWord (s : Scanner) : Bool := s.text.back?.any Text.isWord

def write (s : Scanner) (chars : List Char) : Scanner := { s with text := s.text ++ chars }

def enter (s : Scanner) (mode : Mode) : Scanner := { s with mode := mode }

/-- The delimiter that begins with what was read of it. -/
def delimiter? (read : List Char) : List Char → Option (List Char)
  | [] => none
  | c :: rest =>
    if c = '$' then some (read ++ [c])
    else if if read.length = 1 then begins c else Text.isWord c then delimiter? (read ++ [c]) rest
    else none

def stepOutside (s : Scanner) (c : Char) (rest : List Char) : Scanner × List Char :=
  match c, rest with
  | '\'', rest => ((s.enter .quoted).write ['\''], rest)
  | '"', rest => ((s.enter .quotedName).write ['"'], rest)
  | '$', rest =>
    match if s.followsWord then none else delimiter? ['$'] rest with
    | some opening =>
      let s := s.write opening
      ({ s with mode := .dollarQuote, delimiter := opening, bodyStart := s.text.size },
        rest.drop (opening.length - 1))
    | none => (s.write ['$'], rest)
  -- The second hyphen is read within the comment.
  | '-', '-' :: rest => ((s.enter .lineComment).write ['-'], '-' :: rest)
  | '/', '*' :: rest => ((s.enter .blockComment).write ['/', '*'], rest)
  | '@', '@' :: rest => (s.write ['@', '@'], rest)
  | '@', rest =>
    if rest.head?.any begins then
      let placed := Scan.place s.names (.ofList (rest.takeWhile Text.isWord))
      ({ s with names := placed.2 }.write (Scan.slot (placed.1 + 1)), rest.dropWhile Text.isWord)
    else (s.write ['@'], rest)
  | c, '\'' :: rest =>
    if (c = 'E' ∨ c = 'e') ∧ !s.followsWord then
      ((s.enter .escapeString).write [c, '\''], rest)
    else (s.write [c], '\'' :: rest)
  | c, rest => (s.write [c], rest)

/-- Within text that goes up to a character. -/
def copy (s : Scanner) (close c : Char) : Scanner :=
  (if c = close then s.enter .outside else s).write [c]

def stepEscapeString (s : Scanner) (c : Char) (rest : List Char) : Scanner × List Char :=
  match c, rest with
  | '\\', escaped :: rest => (s.write ['\\', escaped], rest)
  | '\'', '\'' :: rest => (s.write ['\'', '\''], rest)
  | '\'', rest => ((s.enter .outside).write ['\''], rest)
  | c, rest => (s.write [c], rest)

def stepDollarQuote (s : Scanner) (c : Char) : Scanner :=
  let s := s.write [c]
  if c = '$' ∧ s.delimiter <:+ s.text.toList.drop s.bodyStart then s.enter .outside else s

def stepBlockComment (s : Scanner) (c : Char) (rest : List Char) : Scanner × List Char :=
  match c, rest with
  | '*', '/' :: rest => ((s.enter .outside).write ['*', '/'], rest)
  | c, rest => (s.write [c], rest)

def step (s : Scanner) (c : Char) (rest : List Char) : Scanner × List Char :=
  match s.mode with
  | .outside => s.stepOutside c rest
  | .quoted => (s.copy '\'' c, rest)
  | .escapeString => s.stepEscapeString c rest
  | .dollarQuote => (s.stepDollarQuote c, rest)
  | .quotedName => (s.copy '"' c, rest)
  | .lineComment => (s.copy '\n' c, rest)
  | .blockComment => s.stepBlockComment c rest

theorem stepOutside_suffix (s : Scanner) (c : Char) (rest : List Char) :
    (s.stepOutside c rest).2 <:+ rest := by
  unfold stepOutside
  split
  · exact List.suffix_rfl
  · exact List.suffix_rfl
  · split
    · exact List.drop_suffix ..
    · exact List.suffix_rfl
  · exact List.suffix_rfl
  · exact List.suffix_cons ..
  · exact List.suffix_cons ..
  · split
    · exact List.dropWhile_suffix ..
    · exact List.suffix_rfl
  · split
    · exact List.suffix_cons ..
    · exact List.suffix_rfl
  · exact List.suffix_rfl

theorem stepEscapeString_suffix (s : Scanner) (c : Char) (rest : List Char) :
    (s.stepEscapeString c rest).2 <:+ rest := by
  unfold stepEscapeString
  split
  · exact List.suffix_cons ..
  · exact List.suffix_cons ..
  · exact List.suffix_rfl
  · exact List.suffix_rfl

theorem stepBlockComment_suffix (s : Scanner) (c : Char) (rest : List Char) :
    (s.stepBlockComment c rest).2 <:+ rest := by
  unfold stepBlockComment
  split
  · exact List.suffix_cons ..
  · exact List.suffix_rfl

theorem step_suffix (s : Scanner) (c : Char) (rest : List Char) : (s.step c rest).2 <:+ rest := by
  unfold step
  split
  · exact s.stepOutside_suffix c rest
  · exact List.suffix_rfl
  · exact s.stepEscapeString_suffix c rest
  · exact List.suffix_rfl
  · exact List.suffix_rfl
  · exact List.suffix_rfl
  · exact s.stepBlockComment_suffix c rest

def run (s : Scanner) : List Char → Scanner
  | [] => s
  | c :: rest => (s.step c rest).1.run (s.step c rest).2
termination_by rest => rest.length
decreasing_by exact Nat.lt_succ_of_le (s.step_suffix c rest).length_le

end Scanner

def Scan.ofText (sql : String) : Scan :=
  let scanner := Scanner.start.run sql.toList
  ⟨.ofList scanner.text.toList, scanner.names⟩

end Runbook.Sql

import Runbook.Dict
import Runbook.Pair
import Runbook.User

namespace Runbook

inductive Segment where
  | literal (text : String)
  | placeholder (name : String)
  deriving DecidableEq, Repr

structure Template where
  segments : List Segment
  deriving DecidableEq, Repr

abbrev Values : Type := Dict String

/-- The values with the placeholders of the user, which replace values of the same names. -/
def Values.withUser (values : Values) (user : User) : Values :=
  values.override (.ofPairs user.placeholders)

structure Unresolved where
  names : List String
  deriving DecidableEq, Repr

namespace Unresolved

def add (names more : List String) : List String :=
  more.foldl (fun names name => if name ∈ names then names else names ++ [name]) names

def merge (first second : Unresolved) : Unresolved := ⟨add first.names second.names⟩

def message (e : Unresolved) : String :=
  "unresolved placeholder(s): " ++ ", ".intercalate e.names

end Unresolved

namespace Template

def isBrace (c : Char) : Bool := c == '\x7b' || c == '\x7d'

def name? (s : List Char) : Option (List Char × List Char) :=
  match s.takeWhile (!isBrace ·), s.dropWhile (!isBrace ·) with
  | c :: name, '\x7d' :: after => some (c :: name, after)
  | _, _ => none

theorem name?_length {s name after : List Char} (h : name? s = some (name, after)) :
    after.length < s.length := by
  unfold name? at h
  split at h
  next hb =>
    cases h
    have := congrArg List.length (List.takeWhile_append_dropWhile (p := (!isBrace ·)) (l := s))
    rw [List.length_append, hb] at this
    simp at this
    omega
  next => cases h

/-- Puts a character in front of segments, into the literal that stands there if one does. -/
def prepend (c : Char) : List Segment → List Segment
  | .literal text :: rest => .literal (String.singleton c ++ text) :: rest
  | rest => .literal (String.singleton c) :: rest

def segmentsOf (s : List Char) : List Segment :=
  match s with
  | [] => []
  | c :: rest =>
    if c = '\x7b' then
      match _h : name? rest with
      | some (name, after) => .placeholder (.ofList name) :: segmentsOf after
      | none => prepend c (segmentsOf rest)
    else prepend c (segmentsOf rest)
termination_by s.length
decreasing_by
  · have := name?_length _h; simp; omega
  · simp
  · simp

def parse (source : String) : Template := ⟨segmentsOf source.toList⟩

def placeholders (t : Template) : List String :=
  t.segments.filterMap fun
    | .placeholder name => some name
    | .literal _ => none

def single? (t : Template) : Option String :=
  match t.segments with
  | [.placeholder name] => some name
  | _ => none

def missing (t : Template) (values : Values) : List String :=
  Unresolved.add [] (t.placeholders.filter fun name => values[name]?.isNone)

/-- The text of a segment, empty for a missing value. -/
def segmentText (values : Values) : Segment → String
  | .literal text => text
  | .placeholder name => values[name]?.getD ""

def fill (t : Template) (values : Values) : String :=
  String.join (t.segments.map (segmentText values))

/-- The text with every placeholder replaced, if all of them have a value. This is one pass over
the segments, so a value is never read again. -/
def resolve (t : Template) (values : Values) : Except Unresolved String :=
  match t.missing values with
  | [] => .ok (t.fill values)
  | names => .error ⟨names⟩

end Template

/-- The names that were missing so far while many templates are resolved. -/
structure Batch where
  missing : List String
  deriving DecidableEq, Repr

namespace Batch

def start : Batch := ⟨[]⟩

/-- The text of a template, empty if a name is missing, which the batch then remembers. -/
def render (values : Values) (t : Template) : StateM Batch String := fun batch =>
  match t.resolve values with
  | .ok text => (text, batch)
  | .error e => ("", ⟨Unresolved.add batch.missing e.names⟩)

def resolve (values : Values) (source : String) : StateM Batch String :=
  render values (.parse source)

/-- Keys stay as they are, values are templates. -/
def resolvePairs (values : Values) (pairs : List Pair) : StateM Batch (List Pair) :=
  pairs.mapM fun pair => return ⟨pair.key, ← resolve values pair.value⟩

def hasMissing (batch : Batch) : Bool := !batch.missing.isEmpty

def finish (batch : Batch) : Except Unresolved Unit :=
  match batch.missing with
  | [] => .ok ()
  | names => .error ⟨names⟩

end Batch

end Runbook

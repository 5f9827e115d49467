import Runbook.Text

namespace Runbook.Postgres

/-- The text behind the line comments at its start, and the white space around them. -/
def skipLineComments : List Char → List Char
  | '-' :: '-' :: rest =>
    match _h : Text.cut? '\n' rest with
    | none => []
    | some (_, after) => skipLineComments (Text.trimStartChars after)
  | s => s
termination_by s => s.length
decreasing_by
  have := Text.cut?_length _h
  have := (List.dropWhile_sublist Text.isSpace (l := after)).length_le
  simp only [Text.trimStartChars, List.length_cons]
  omega

def keyword (sql : List Char) : String :=
  Text.lower (.ofList
    ((skipLineComments (Text.trimStartChars sql)).takeWhile Text.isLetter))

/-- The statement begins with a word that announces rows. -/
def returnsRows (sql : String) : Bool :=
  ["select", "with", "values", "table"].contains (keyword sql.toList)

/-- The statement without the white space around it and without the semicolons at its end. -/
def unterminated (sql : List Char) : List Char :=
  Text.trimEndChars ((Text.trimChars sql).reverse.dropWhile (· == ';')).reverse

/-- The query for the rows of a statement as one JSON array. The line break keeps the bracket out
of a comment at the end. -/
def rowsAsJson (sql : String) : String :=
  "SELECT COALESCE(jsonb_agg(to_jsonb(t)), '[]'::jsonb) AS rows FROM (" ++
    .ofList (unterminated sql.toList) ++ "\n) AS t"

end Runbook.Postgres

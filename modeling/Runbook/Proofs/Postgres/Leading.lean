import Runbook.Postgres.Exchange
import Runbook.Proofs.Sql.Comments
import Runbook.Proofs.Text.Items

namespace Runbook.Postgres

/-- What the database passes over before the first word of a statement. -/
inductive Leading where
  | space (c : Char) (blank : Text.isSpace c = true)
  | lineComment (text : List Char) (line : '\n' ∉ text)
  | blockComment (body : List Char) (closes : Sql.Lexeme.Closes 1 body)

namespace Leading

def source : Leading → List Char
  | space c _ => [c]
  | lineComment text _ => '-' :: '-' :: text ++ ['\n']
  | blockComment body _ => '/' :: '*' :: body

def isBlock : Leading → Bool
  | blockComment .. => true
  | _ => false

def before (leading : List Leading) (sql : String) : String :=
  .ofList (leading.flatMap source ++ sql.toList)

end Leading

variable {m : Type → Type} [Monad m]

def askRows (databases : Databases m) (address : Address) (statement : Sql.Statement)
    (values : List Value) : m (Except Fault String) := do
  let rows ← databases.value address (rowsAsJson statement.text) values
  return rows.map fun rows => rows.canonical.compact

def askCount (databases : Databases m) (address : Address) (statement : Sql.Statement)
    (values : List Value) : m (Except Fault String) := do
  let count ← databases.affected address statement.text values
  return count.map fun n => (Json.object [("rowsAffected", .natural n)]).compact

theorem ask_eq (databases : Databases m) (address : Address) (statement : Sql.Statement)
    (values : List Value) : ask databases address statement values =
      if returnsRows statement.text then askRows databases address statement values
      else askCount databases address statement values :=
  rfl

theorem keyword_space {c : Char} (blank : Text.isSpace c = true) (s : List Char) :
    keyword (c :: s) = keyword s := by
  have gone := @Text.trimStartChars_append [c] s (by simpa using blank)
  unfold keyword
  rw [← gone]
  rfl

theorem keyword_lineComment {text : List Char} (line : '\n' ∉ text) (s : List Char) :
    keyword ('-' :: '-' :: text ++ '\n' :: s) = keyword s := by
  have first : Text.trimStartChars ('-' :: '-' :: text ++ '\n' :: s) =
      '-' :: '-' :: (text ++ '\n' :: s) :=
    Text.trimStartChars_of_first fun c hc => by cases Option.some.inj hc; rfl
  have cut : Text.cut? '\n' (text ++ '\n' :: s) = some (text, s) :=
    Text.cut?_eq_some_of_notMem line
  unfold keyword
  rw [first, skipLineComments]
  split
  next nothing =>
    rw [cut] at nothing
    cases nothing
  next found =>
    rw [cut] at found
    cases found
    rfl

theorem keyword_blockComment (s : List Char) : keyword ('/' :: '*' :: s) = "" := by
  have first : Text.trimStartChars ('/' :: '*' :: s) = '/' :: '*' :: s :=
    Text.trimStartChars_of_first fun c hc => by cases Option.some.inj hc; rfl
  unfold keyword
  rw [first, skipLineComments]
  · rfl
  · intro rest h
    cases h

theorem keyword_leading (leading : List Leading) (s : List Char) :
    keyword (leading.flatMap Leading.source ++ s) =
      if leading.any Leading.isBlock then "" else keyword s := by
  induction leading with
  | nil => rfl
  | cons first leading ih =>
    rw [List.flatMap_cons, List.append_assoc, List.any_cons]
    cases first with
    | space c blank => exact (keyword_space blank _).trans ih
    | lineComment text line =>
      have skipped := (keyword_lineComment line (leading.flatMap Leading.source ++ s)).trans ih
      simpa [Leading.source, Leading.isBlock] using skipped
    | blockComment body closes => exact keyword_blockComment _

/-- White space and line comments in front of a statement leave it to the statement whether rows are
asked for. Behind a block comment the database is asked only how many rows were affected. -/
theorem returnsRows_leading (databases : Databases m) (address : Address) (leading : List Leading)
    (sql : String) (parameters : List Sql.Parameter) (values : List Value) :
    returnsRows (Leading.before leading sql) = (returnsRows sql && !leading.any Leading.isBlock) ∧
      ask databases address ⟨Leading.before leading sql, parameters⟩ values =
        if returnsRows sql && !leading.any Leading.isBlock then
          askRows databases address ⟨Leading.before leading sql, parameters⟩ values
        else askCount databases address ⟨Leading.before leading sql, parameters⟩ values := by
  have rows : returnsRows (Leading.before leading sql) =
      (returnsRows sql && !leading.any Leading.isBlock) := by
    unfold returnsRows
    rw [Leading.before, String.toList_ofList, keyword_leading]
    cases leading.any Leading.isBlock with
    | false => simp
    | true => simp
  exact ⟨rows, by rw [ask_eq, rows]⟩

/-- Behind a block comment, a query counts as a statement that returns no rows. -/
theorem returnsRows_behind_comment :
    Leading.before [.blockComment ['*', '/'] (.closing .done)] "SELECT 1" = "/**/SELECT 1" ∧
      returnsRows "SELECT 1" = true ∧ returnsRows "/**/SELECT 1" = false := by
  refine ⟨by decide +kernel, by decide +kernel, by decide +kernel⟩

end Runbook.Postgres

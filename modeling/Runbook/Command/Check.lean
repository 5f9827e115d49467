import Runbook.Dashboard.Shape
import Runbook.Project

namespace Runbook

def Project.findings (project : Project) : List Finding :=
  project.dashboards.flatMap Dashboard.shapeFindings ++ project.check

namespace CheckReport

def byCategory (findings : List Finding) : List Finding :=
  findings.mergeSort fun a b => a.category ≤ b.category

def errors (findings : List Finding) : List Finding := byCategory (findings.filter (·.isError))

def warnings (findings : List Finding) : List Finding := byCategory (findings.filter (!·.isError))

def rule (c : Char) : String := .ofList (List.replicate 60 c) ++ "\n"

def line (mark : String) (finding : Finding) : String :=
  "  " ++ mark ++ " [" ++ finding.category ++ "] [" ++ finding.location ++ "]: " ++
    finding.message ++ "\n"

def part (heading mark : String) (findings : List Finding) : String :=
  if findings = [] then ""
  else "\n" ++ heading ++ " (" ++ Text.decimal findings.length ++ "):\n" ++ rule '─' ++
    String.join (findings.map (line mark))

def text (findings : List Finding) : String :=
  let errors := errors findings
  let warnings := warnings findings
  part "❌ Errors" "✗" errors ++ part "⚠️  Warnings" "⚠" warnings ++ "\n" ++ rule '═' ++
    if errors = [] ∧ warnings = [] then "✅ All checks passed!\n"
    else "Summary: " ++ Text.decimal errors.length ++ " error(s), " ++
      Text.decimal warnings.length ++ " warning(s)\n"

end CheckReport

end Runbook

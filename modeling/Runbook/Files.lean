import Runbook.Text

namespace Runbook

/-- How files are read: each reading may fail for a reason of the system's own. -/
structure Files (m : Type → Type) where
  read : String → m (Except String String)
  names : String → m (Option (List String))

namespace Path

/-- A path below a directory; an absolute path stays as it is. -/
def join (directory path : String) : String :=
  if Text.startsWith path "/" || directory = "" then path
  else if Text.endsWith directory "/" then directory ++ path
  else directory ++ "/" ++ path

/-- The components of a path, of which the single points and the empty ones do not count. -/
def components (path : String) : List String :=
  ((Text.pieces '/' path.toList).map String.ofList).filter fun name => name ≠ "" && name ≠ "."

def dropSlashes (s : List Char) : List Char := (s.reverse.dropWhile (· == '/')).reverse

def directory (path : String) : String :=
  let stem := (dropSlashes path.toList).reverse.dropWhile (· != '/') |>.reverse
  match dropSlashes stem with
  | [] => .ofList (stem.take 1)
  | s => .ofList s

/-- The name has a stem before its last point, and the extension behind it. -/
def hasExtension (extension name : String) : Bool :=
  let tail := "." ++ extension
  Text.endsWith name tail && tail.length < name.length

end Path

end Runbook

import Runbook.Text

namespace Runbook.Text

def hexDigits : Nat → Nat → List Char
  | 0, _ => []
  | width + 1, n => hexDigits width (n / 16) ++ [Nat.digitChar (n % 16)]

/-- The identifier of a number, marked as a random one of the usual variant. -/
def uuid (n : Nat) : String :=
  let variant := n / Nat.pow 2 48 % Nat.pow 2 14 + Nat.pow 2 15
  "-".intercalate (([hexDigits 8 (n / Nat.pow 2 90), hexDigits 4 (n / Nat.pow 2 74),
    '4' :: hexDigits 3 (n / Nat.pow 2 62), hexDigits 4 variant, hexDigits 12 n]).map String.ofList)

end Runbook.Text

import Runbook.Text.Digits

namespace Runbook.Text

def hexDigit (n : Nat) : Char := if n < 10 then .ofNat (48 + n) else .ofNat (55 + n)

def percentByte (b : UInt8) : List Char := ['%', hexDigit (b.toNat / 16), hexDigit (b.toNat % 16)]

def percentEncode (plain : Char → Bool) (s : List Char) : List Char :=
  s.flatMap fun c => if plain c then [c] else (String.utf8EncodeChar c).flatMap percentByte

def percentDecode : List Char → List UInt8
  | '%' :: h :: l :: rest =>
    match hexValue? h, hexValue? l with
    | some high, some low => .ofNat (16 * high + low) :: percentDecode rest
    | _, _ => 37 :: percentDecode (h :: l :: rest)
  | c :: rest => String.utf8EncodeChar c ++ percentDecode rest
  | [] => []

def percentDecodeText? (s : List Char) : Option String :=
  String.fromUTF8? ⟨(percentDecode s).toArray⟩

/-- Names and values as a form sends them: a blank becomes a plus. -/
def formEncode (s : String) : String :=
  let spared (c : Char) : Bool := isLetter c || isDigit c || "*-._".contains c
  .ofList <| s.toList.flatMap fun c => if c = ' ' then ['+'] else percentEncode spared [c]

end Runbook.Text

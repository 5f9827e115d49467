import Runbook.Text

namespace Runbook.Yaml

structure Cursor where
  rest : List Char
  /-- The characters passed. -/
  index : Nat
  line : Nat
  column : Nat
  deriving Repr

def isPrintable (c : Char) : Bool :=
  let n := c.toNat
  n = 0x09 || n = 0x0A || n = 0x0D || (0x20 ≤ n && n ≤ 0x7E) || n = 0x85 ||
    (0xA0 ≤ n && n ≤ 0xFFFD) || 0x10000 ≤ n

def isBlank (c : Char) : Bool := c == ' ' || c == '\t'

def isBreak (c : Char) : Bool :=
  c == '\n' || c == '\r' || c.toNat = 0x85 || c.toNat = 0x2028 || c.toNat = 0x2029

def isNameChar (c : Char) : Bool := Text.isWord c || c == '-'

def isGap : List Char → Bool
  | [] => true
  | c :: _ => isBlank c || isBreak c

def isLineEnd : List Char → Bool
  | [] => true
  | c :: _ => isBreak c

namespace Cursor

def start (text : String) : Cursor := ⟨text.toList, 0, 0, 0⟩

def isAt (c : Char) (cursor : Cursor) : Bool := cursor.rest.head? == some c

def skip (n : Nat) (cursor : Cursor) : Cursor :=
  { cursor with
    rest := cursor.rest.drop n, index := cursor.index + n, column := cursor.column + n }

def skipWhile (p : Char → Bool) (cursor : Cursor) : Cursor :=
  cursor.skip (cursor.rest.takeWhile p).length

def nextLine (length : Nat) (cursor : Cursor) : Cursor :=
  ⟨cursor.rest.drop length, cursor.index + length, cursor.line + 1, 0⟩

def lineBreak? (cursor : Cursor) : Option (Char × Cursor) :=
  match cursor.rest with
  | '\r' :: '\n' :: _ => some ('\n', cursor.nextLine 2)
  | c :: _ =>
    if !isBreak c then none
    else some (if c.toNat = 0x2028 || c.toNat = 0x2029 then c else '\n', cursor.nextLine 1)
  | [] => none

def passBreak (cursor : Cursor) : Cursor :=
  match cursor.lineBreak? with
  | some (_, after) => after
  | none => cursor

def lineEnd? (cursor : Cursor) : Option Cursor :=
  let here := cursor.skipWhile isBlank
  let here := if here.isAt '#' then here.skipWhile (!isBreak ·) else here
  if isLineEnd here.rest then some here.passBreak else none

/-- A mark of three characters at the start of a line. -/
def atMarkerOf (c : Char) (cursor : Cursor) : Bool :=
  cursor.column == 0 && match cursor.rest with
    | d :: e :: f :: rest => d == c && e == c && f == c && isGap rest
    | _ => false

def atMarker (cursor : Cursor) : Bool := cursor.atMarkerOf '-' || cursor.atMarkerOf '.'

end Cursor

end Runbook.Yaml

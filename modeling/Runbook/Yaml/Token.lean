import Runbook.Document
import Runbook.Yaml.Scalar

namespace Runbook.Yaml

inductive Token where
  | version
  | handle (handle target : String)
  | documentStart
  | documentEnd
  | blockList
  | blockRecord
  | blockEnd
  | flowList
  | flowListEnd
  | flowRecord
  | flowRecordEnd
  | item
  | comma
  | key
  | value
  | alias (name : String)
  | anchor (name : String)
  | tag (handle suffix : String)
  | scalar (style : Scalar.Style) (text : String)
  deriving DecidableEq, Repr

namespace Token

def name? (cursor : Cursor) : Option (String × Cursor) :=
  let name := cursor.rest.takeWhile isNameChar
  let after := cursor.skip name.length
  let ends := isGap after.rest ||
    after.rest.head?.any (· ∈ ['?', ':', ',', ']', '\x7d', '%', '@', '\x60'])
  if name ≠ [] ∧ ends then some (.ofList name, after) else none

def isTagChar (verbatim : Bool) (c : Char) : Bool :=
  isNameChar c || c ∈ [';', '/', '?', ':', '@', '&', '=', '+', '$', '.', '%', '!', '~', '*', '\'',
    '(', ')'] || (verbatim && c ∈ [',', '[', ']'])

def utf8Length? (byte : Nat) : Option Nat :=
  if byte < 0x80 then some 1
  else if 0xC0 ≤ byte ∧ byte < 0xE0 then some 2
  else if 0xE0 ≤ byte ∧ byte < 0xF0 then some 3
  else if 0xF0 ≤ byte ∧ byte < 0xF8 then some 4
  else none

def escapedByte? : List Char → Option Nat
  | '%' :: h :: l :: _ => do return 16 * (← Text.hexValue? h) + (← Text.hexValue? l)
  | _ => none

def escapedTail? : Nat → List Char → Option (List UInt8)
  | 0, _ => some []
  | count + 1, s => do
    let byte ← escapedByte? s
    if byte < 0x80 ∨ 0xC0 ≤ byte then none
    else return .ofNat byte :: (← escapedTail? count (s.drop 3))

/-- A character escaped byte for byte, and how many bytes it has. Bytes of the form of UTF-8 that
encode no character are replaced. -/
def escapedChar? (s : List Char) : Option (List Char × Nat) := do
  let byte ← escapedByte? s
  let length ← utf8Length? byte
  let bytes := .ofNat byte :: (← escapedTail? (length - 1) (s.drop 3))
  return (((String.fromUTF8? ⟨bytes.toArray⟩).map String.toList).getD ['\ufffd'], length)

def tagText? (verbatim : Bool) : Nat → Cursor → Option (List Char × Cursor)
  | 0, cursor => some ([], cursor)
  | steps + 1, cursor =>
    match cursor.rest with
    | [] => some ([], cursor)
    | c :: _ =>
      if !isTagChar verbatim c then some ([], cursor)
      else do
        let (text, length) ←
          if c = '%' then (escapedChar? cursor.rest).map fun (text, n) => (text, 3 * n)
          else some ([c], 1)
        let (more, after) ← tagText? verbatim steps (cursor.skip length)
        return (text ++ more, after)

/-- The characters of a tag behind a part of it that is already read. Of all together there is at
least one. -/
def suffix? (verbatim : Bool) (read : List Char) (cursor : Cursor) : Option (String × Cursor) := do
  let (text, after) ← tagText? verbatim cursor.rest.length cursor
  if read.isEmpty && after.index = cursor.index then none
  else return (.ofList (read.drop 1 ++ text), after)

/-- The handle at an exclamation mark, or what stands in the place of one. -/
def handleText (cursor : Cursor) : List Char :=
  let name := (cursor.rest.drop 1).takeWhile isNameChar
  let mark := if (cursor.skip (1 + name.length)).isAt '!' then ['!'] else []
  '!' :: name ++ mark

def isHandle (text : List Char) : Bool := 1 < text.length && text.getLast? == some '!'

def tagParts? (cursor : Cursor) : Option (Token × Cursor) :=
  if (cursor.skip 1).isAt '<' then do
    let (suffix, after) ← suffix? true [] (cursor.skip 2)
    if after.isAt '>' then return (.tag "" suffix, after.skip 1) else none
  else
    let handle := handleText cursor
    let here := cursor.skip handle.length
    if isHandle handle then
      (suffix? false [] here).map fun (suffix, after) => (.tag (.ofList handle) suffix, after)
    else
      (suffix? false handle here).map fun (suffix, after) =>
        (if suffix = "" then .tag "" "!" else .tag "!" suffix, after)

def tag? (flow : Bool) (cursor : Cursor) : Option (Token × Cursor) := do
  let (token, after) ← tagParts? cursor
  if isGap after.rest || (flow && after.isAt ',') then return (token, after) else none

def versionPart? (cursor : Cursor) : Option (Nat × Cursor) :=
  let digits := cursor.rest.takeWhile Text.isDigit
  if 9 < digits.length then none
  else (Text.natural? digits).map (·, cursor.skip digits.length)

def version? (cursor : Cursor) : Option (Token × Cursor) := do
  let (major, here) ← versionPart? cursor
  if !here.isAt '.' then none
  let (minor, after) ← versionPart? (here.skip 1)
  if major = 1 ∧ (minor = 1 ∨ minor = 2) then return (version, after) else none

def handle? (cursor : Cursor) : Option (Token × Cursor) := do
  let text := handleText cursor
  if !cursor.isAt '!' || !(isHandle text || text = ['!']) then none
  let here := cursor.skip text.length
  if !(here.rest.head?.any isBlank) then none
  let (target, after) ← suffix? true [] (here.skipWhile isBlank)
  if isGap after.rest then return (handle (.ofList text) target, after) else none

def directive? (cursor : Cursor) : Option (Token × Cursor) := do
  let name := (cursor.rest.drop 1).takeWhile isNameChar
  let here := cursor.skip (1 + name.length)
  if !isGap here.rest then none
  let here := here.skipWhile isBlank
  let (token, after) ←
    if name = ['Y', 'A', 'M', 'L'] then version? here
    else if name = ['T', 'A', 'G'] then handle? here
    else none
  return (token, ← after.lineEnd?)

end Token

end Runbook.Yaml

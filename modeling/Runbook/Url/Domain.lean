import Runbook.Text.Normal
import Runbook.Text.Punycode
import Runbook.Url.Domain.Direction
import Runbook.Url.Domain.Joining
import Runbook.Url.Domain.Mapping

namespace Runbook.Domain

def isForbiddenInHost (c : Char) : Bool :=
  c.toNat = 0 || "\t\n\r #/:<>?@[\\]^|".contains c

/-- Characters that no name contains: control characters and the percent sign as well. -/
def isForbidden (c : Char) : Bool :=
  isForbiddenInHost c || c.toNat < 0x20 || c.toNat = 0x7F || c = '%'

structure Label where
  shown : List Char
  written : List Char

/-- A label in which nothing is left to spell differently. -/
def isSpelled (label : List Char) : Bool :=
  label.all (fun c => mapped? c == some [c]) && Text.normal label == label

/-- A label, decoded if it is marked as encoded: then it is ASCII and has something to decode. -/
def Label.ofChars? : List Char → Option Label
  | 'x' :: 'n' :: '-' :: '-' :: code => do
    if !code.all Text.Punycode.isBasic || code.getLast?.all (· == '-') then none
    if 2000 < code.length then none
    let shown ← Text.Punycode.decode? code
    if isSpelled shown then some ⟨shown, 'x' :: 'n' :: '-' :: '-' :: code⟩ else none
  | label =>
    if label.all Text.Punycode.isBasic then some ⟨label, label⟩
    else if 1000 < label.length then none
    else some ⟨label, 'x' :: 'n' :: '-' :: '-' :: Text.Punycode.encode label⟩

/-- A label that begins with no mark and has no joiner without use. -/
def Label.isSound (label : Label) : Bool :=
  !(label.shown.head?.any Text.isMark) && joinersFit [] label.shown

/-- The order of the labels is clear, if not all of them are written from left to right. -/
def areOrdered (labels : List Label) : Bool :=
  !labels.any (turns ·.shown) || labels.all (isOrdered ·.shown)

def ascii? (name : List Char) : Option (List Char) := do
  let name := Text.normal (← name.mapM mapped?).flatten
  if name.any isForbidden then none
  let labels ← (Text.pieces '.' name).mapM Label.ofChars?
  if labels.all Label.isSound && areOrdered labels then
    return ['.'].intercalate (labels.map Label.written)
  else none

end Runbook.Domain

import Runbook.Text.Normal.Classes
import Runbook.Text.Normal.Composites

namespace Runbook.Text.Normal

/-- The leading, the vowel and the trailing part of a syllable. -/
def hangulParts? (c : Char) : Option (List Char) :=
  let n := c.toNat - 0xAC00
  if 0xAC00 ≤ c.toNat ∧ n < 11172 then
    let last := if n % 28 = 0 then [] else [Char.ofNat (0x11A7 + n % 28)]
    some (.ofNat (0x1100 + n / 588) :: .ofNat (0x1161 + n % 588 / 28) :: last)
  else none

/-- A syllable of a leading part and a vowel, or of such a syllable and a trailing part. -/
def hangulPair? (c d : Char) : Option Char :=
  let m := c.toNat
  let n := d.toNat
  if 0x1100 ≤ m ∧ m < 0x1113 ∧ 0x1161 ≤ n ∧ n < 0x1176 then
    some (.ofNat (0xAC00 + 588 * (m - 0x1100) + 28 * (n - 0x1161)))
  else if 0xAC00 ≤ m ∧ m < 0xAC00 + 11172 ∧ (m - 0xAC00) % 28 = 0 ∧ 0x11A8 ≤ n ∧ n < 0x11C3 then
    some (.ofNat (m + (n - 0x11A7)))
  else none

def parts (c : Char) : List Char :=
  if c.toNat < 0xC0 then [c]
  else match hangulParts? c with
    | some parts => parts
    | none => (Replacement.find? (composites ++ replaced) c).getD [c]

/-- Puts a mark in front of text, behind the marks there that have lower classes. -/
def insertMark (c : Char) : List Char → List Char
  | [] => [c]
  | d :: rest =>
    if combiningClass d ≠ 0 ∧ combiningClass d < combiningClass c then d :: insertMark c rest
    else c :: d :: rest

def ordered (s : List Char) : List Char := s.foldr insertMark []

def pair? (c d : Char) : Option Char :=
  match hangulPair? c d with
  | some e => some e
  | none =>
    let both := (parts c ++ [d]).map Char.toNat
    (composites.find? (·.target == both)).map fun composite => .ofNat composite.range.1

/-- Puts a character together with what follows it, then what is further on. What follows does not
reach the character past a mark of the same or a higher class. -/
def compose (c : Char) (kept : List Char) : List Char → List Char
  | [] => c :: kept
  | d :: rest =>
    let isBlocked := kept.getLast?.any fun e => combiningClass d ≤ combiningClass e
    match if isBlocked then none else pair? c d with
    | some e => compose e kept rest
    | none =>
      if combiningClass d = 0 then c :: (kept ++ compose d [] rest)
      else compose c (kept ++ [d]) rest

end Normal

/-- Of all texts that look the same, the one whose characters are put together as far as possible
and whose marks stand in the order of their classes. -/
def normal (s : List Char) : List Char :=
  if s.all (·.toNat < 0xC0) then s
  else match Normal.ordered (s.flatMap Normal.parts) with
    | [] => []
    | c :: rest => Normal.compose c [] rest

end Runbook.Text

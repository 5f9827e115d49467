import Runbook.Text

namespace Runbook.Text.Utf8

inductive Piece where
  | char (c : Char) (length : Nat)
  /-- Bytes that begin no character, or one that another byte breaks off. -/
  | broken (length : Nat)
  /-- The beginning of a character at the end of the bytes. -/
  | incomplete
  deriving DecidableEq, Repr

namespace Piece

def length (all : Nat) : Piece → Nat
  | char _ length => length
  | broken length => length
  | incomplete => all

def toChar : Piece → Char
  | char c _ => c
  | _ => '\ufffd'

end Piece

/-- The least and the greatest byte that may follow a byte beyond ASCII, and how many further ones
do. -/
def second? (byte : Nat) : Option (Nat × Nat × Nat) :=
  if 0xC2 ≤ byte ∧ byte < 0xE0 then some (0x80, 0xBF, 0)
  else if byte = 0xE0 then some (0xA0, 0xBF, 1)
  else if byte = 0xED then some (0x80, 0x9F, 1)
  else if 0xE1 ≤ byte ∧ byte < 0xF0 then some (0x80, 0xBF, 1)
  else if byte = 0xF0 then some (0x90, 0xBF, 2)
  else if 0xF1 ≤ byte ∧ byte < 0xF4 then some (0x80, 0xBF, 2)
  else if byte = 0xF4 then some (0x80, 0x8F, 2)
  else none

def leadBits (byte more : Nat) : Nat := byte % Nat.pow 2 (5 - more)

def pieceFrom (code read : Nat) : Nat → List UInt8 → Piece
  | 0, _ => .char (.ofNat code) read
  | _ + 1, [] => .incomplete
  | more + 1, byte :: rest =>
    if 0x80 ≤ byte.toNat ∧ byte.toNat < 0xC0 then
      pieceFrom (64 * code + byte.toNat % 64) (read + 1) more rest
    else .broken read

def piece : List UInt8 → Piece
  | [] => .incomplete
  | byte :: rest =>
    if byte.toNat < 0x80 then .char (.ofNat byte.toNat) 1
    else match second? byte.toNat, rest with
      | none, _ => .broken 1
      | some _, [] => .incomplete
      | some (least, greatest, more), next :: rest =>
        if least ≤ next.toNat ∧ next.toNat ≤ greatest then
          pieceFrom (64 * leadBits byte.toNat more + next.toNat % 64) 2 more rest
        else .broken 1

/-- The pieces of the first bytes, so many at most. -/
def piecesOf : Nat → List UInt8 → List Piece
  | 0, _ => []
  | _ + 1, [] => []
  | steps + 1, bytes =>
    let first := piece bytes
    first :: piecesOf steps (bytes.drop (first.length bytes.length))

def pieces (bytes : List UInt8) : List Piece := piecesOf bytes.length bytes

/-- Bytes that are no text, from an index on. Their number is absent when others would have had to
follow. -/
structure Fault where
  index : Nat
  length : Option Nat
  deriving DecidableEq, Repr

namespace Fault

def message (fault : Fault) : String :=
  match fault.length with
  | some length => "invalid utf-8 sequence of " ++ decimal length ++ " bytes from index " ++
      decimal fault.index
  | none => "incomplete utf-8 byte sequence from index " ++ decimal fault.index

end Fault

def charsFrom (index : Nat) : List Piece → Except Fault (List Char)
  | [] => .ok []
  | .char c length :: rest => (charsFrom (index + length) rest).map (c :: ·)
  | .broken length :: _ => .error ⟨index, some length⟩
  | .incomplete :: _ => .error ⟨index, none⟩

def decode (bytes : List UInt8) : Except Fault String := (charsFrom 0 (pieces bytes)).map .ofList

/-- The text that bytes spell, with a sign for each part that spells none. -/
def decodeAnyway (bytes : List UInt8) : String := .ofList ((pieces bytes).map Piece.toChar)

end Runbook.Text.Utf8

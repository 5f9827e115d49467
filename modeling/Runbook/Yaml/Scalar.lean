import Runbook.Text.Digits
import Runbook.Yaml.Cursor

namespace Runbook.Yaml

structure Gap where
  blanks : List Char
  isBroken : Bool
  /-- The line break that may become a space. -/
  first : Option Char
  more : List Char

namespace Gap

def none : Gap := ⟨[], false, .none, []⟩

def continued : Gap := ⟨[], true, .none, []⟩

def text (gap : Gap) : List Char :=
  if !gap.isBroken then gap.blanks
  else match gap.first with
    | some '\n' => if gap.more = [] then [' '] else gap.more
    | some c => c :: gap.more
    | .none => gap.more

def addBreak (c : Char) (gap : Gap) : Gap :=
  if gap.isBroken then { gap with more := gap.more ++ [c] }
  else { gap with isBroken := true, first := some c }

/-- Reads on through blanks and line breaks. A tab may not stand before column `least` of a line. -/
def read? (least : Nat) : Nat → Gap → Cursor → Option (Gap × Cursor)
  | 0, gap, cursor => some (gap, cursor)
  | steps + 1, gap, cursor =>
    match cursor.rest with
    | [] => some (gap, cursor)
    | c :: _ =>
      if isBlank c then
        if !gap.isBroken then
          read? least steps { gap with blanks := gap.blanks ++ [c] } (cursor.skip 1)
        else if c = '\t' ∧ cursor.column < least then .none
        else read? least steps gap (cursor.skip 1)
      else match cursor.lineBreak? with
        | some (c, after) => read? least steps (gap.addBreak c) after
        | .none => some (gap, cursor)

end Gap

def isFlowMark (c : Char) : Bool := c ∈ [',', '[', ']', '\x7b', '\x7d']

def startsPlain (flow : Bool) : List Char → Bool
  | [] => false
  | c :: rest =>
    if c == '-' then !(rest.head?.any isBlank)
    else if c == '?' || c == ':' then !flow && !isGap rest
    else !isGap (c :: rest) && !isFlowMark c &&
      c ∉ ['#', '&', '*', '!', '|', '>', '\'', '"', '%', '@', '\x60']

/-- The characters of a plain scalar up to a gap or mark. Inside flow collections no mark may stand
behind a colon. -/
def plainRun? (flow : Bool) : List Char → Option (List Char)
  | [] => some []
  | c :: rest =>
    if isGap (c :: rest) then some []
    else if flow && c == ':' && (rest.head?.any fun d => isFlowMark d || d == '?') then none
    else if (c == ':' && isGap rest) || (flow && isFlowMark c) then some []
    else (plainRun? flow rest).map (c :: ·)

/-- A plain scalar behind a gap, whether a line break follows its text, and the place behind it. Its
lines begin at column `least` or later. -/
def plainFrom? (flow : Bool) (least : Nat) : Nat → Gap → Cursor → Option (List Char × Bool × Cursor)
  | 0, gap, cursor => some ([], gap.isBroken, cursor)
  | steps + 1, gap, cursor =>
    if cursor.atMarker || cursor.isAt '#' then some ([], gap.isBroken, cursor)
    else do
      let run ← plainRun? flow cursor.rest
      let gap := if run = [] then gap else { gap with blanks := gap.text, isBroken := false }
      let text := if run = [] then [] else gap.blanks ++ run
      let here := cursor.skip run.length
      let stays := run = [] && gap.isBroken
      match here.rest with
      | [] => return (text, stays, here)
      | c :: _ =>
        if !(isBlank c || isBreak c) then return (text, stays, here)
        else
          let (gap, here) ← Gap.none.read? least here.rest.length here
          if !flow && here.column < least then return (text, gap.isBroken, here)
          else
            let (more, broken, after) ← plainFrom? flow least steps gap here
            return (text ++ more, broken, after)

def plain? (flow : Bool) (least : Nat) (cursor : Cursor) : Option (String × Bool × Cursor) := do
  let (text, broken, after) ← plainFrom? flow least (cursor.rest.length + 1) .none cursor
  return (.ofList text, broken, after)

def shortEscapes : List (Char × Nat) :=
  [('0', 0), ('a', 7), ('b', 8), ('t', 9), ('\t', 9), ('n', 10), ('v', 11), ('f', 12), ('r', 13),
   ('e', 27), (' ', 32), ('"', 34), ('/', 47), ('\\', 92), ('N', 0x85), ('_', 0xA0), ('L', 0x2028),
   ('P', 0x2029)]

def hexWidth (c : Char) : Option Nat :=
  match c with
  | 'x' => some 2
  | 'u' => some 4
  | 'U' => some 8
  | _ => none

def escape? : List Char → Option (Char × Nat)
  | [] => none
  | c :: rest =>
    match shortEscapes.lookup c with
    | some code => some (Char.ofNat code, 1)
    | none => do
      let width ← hexWidth c
      let digits := rest.take width
      let code ← digits.foldlM (fun n d => (Text.hexValue? d).map fun v => 16 * n + v) 0
      if digits.length = width ∧ code.isValidChar then some (Char.ofNat code, width + 1) else none

/-- The characters of a quoted scalar up to a gap or the closing quote, and whether an escaped line
break ends them. -/
def quotedRun? (double : Bool) : Nat → Cursor → Option (List Char × Bool × Cursor)
  | 0, cursor => some ([], false, cursor)
  | steps + 1, cursor =>
    let then? (c : Char) (length : Nat) := (quotedRun? double steps (cursor.skip length)).map
      fun (run, broken, after) => (c :: run, broken, after)
    match cursor.rest with
    | [] => some ([], false, cursor)
    | c :: rest =>
      if isBlank c || isBreak c then some ([], false, cursor)
      else if c = (if double then '"' else '\'') then
        if !double && rest.head? == some '\'' then then? '\'' 2 else some ([], false, cursor)
      else if double && c = '\\' then
        if rest.head?.any isBreak then some ([], true, (cursor.skip 1).passBreak)
        else do
          let (c, length) ← escape? rest
          then? c (length + 1)
      else then? c 1

def quotedFrom? (double : Bool) : Nat → Cursor → Option (List Char × Cursor)
  | 0, _ => none
  | steps + 1, cursor =>
    if cursor.atMarker || cursor.rest = [] then none
    else do
      let (run, broken, here) ← quotedRun? double cursor.rest.length cursor
      if here.isAt (if double then '"' else '\'') then return (run, here.skip 1)
      else
        let (gap, here) ←
          (if broken then Gap.continued else Gap.none).read? 0 here.rest.length here
        let (more, after) ← quotedFrom? double steps here
        return (run ++ gap.text ++ more, after)

def quoted? (double : Bool) (cursor : Cursor) : Option (String × Cursor) := do
  let (text, after) ← quotedFrom? double (cursor.rest.length + 1) (cursor.skip 1)
  return (.ofList text, after)

inductive Chomping where
  | strip | clip | keep
  deriving DecidableEq, Repr

/-- Style, chomping and explicit indentation in the head of a block scalar. -/
structure BlockHead where
  isFolded : Bool
  chomping : Chomping
  indentation : Option Nat

def chomping? : List Char → Option Chomping
  | '+' :: _ => some .keep
  | '-' :: _ => some .strip
  | _ => none

def indentation? : List Char → Option (Option Nat)
  | c :: _ =>
    if c = '0' then none else some (if Text.isDigit c then some (Text.digitValue c) else none)
  | [] => some none

def blockHead? (isFolded : Bool) (cursor : Cursor) : Option (BlockHead × Cursor) := do
  let (chomping, indentation, after) ←
    match chomping? cursor.rest with
    | some chomping =>
      let indentation ← indentation? (cursor.rest.drop 1)
      pure (chomping, indentation, cursor.skip (if indentation.isSome then 2 else 1))
    | none =>
      let indentation ← indentation? cursor.rest
      let after := cursor.skip (if indentation.isSome then 1 else 0)
      match indentation, chomping? after.rest with
      | some n, some chomping => pure (chomping, some n, after.skip 1)
      | indentation, _ => pure (Chomping.clip, indentation, after)
  return (⟨isFolded, chomping, indentation⟩, ← after.lineEnd?)

/-- Empty lines in a block scalar: the line breaks, the largest column that spaces reached, and the
first line that is not empty. A tab may not stand in the place of indentation, which is zero as long
as it is not known. -/
def emptyLines? (indentation : Nat) : Nat → Nat → Cursor → Option (List Char × Nat × Cursor)
  | 0, widest, cursor => some ([], widest, cursor)
  | steps + 1, widest, cursor =>
    let spaces := (cursor.rest.takeWhile (· == ' ')).length
    let here := cursor.skip
      (if indentation = 0 then spaces else min spaces (indentation - cursor.column))
    let widest := max widest here.column
    if (indentation = 0 || here.column < indentation) && here.isAt '\t' then none
    else match here.lineBreak? with
      | none => some ([], widest, here)
      | some (c, after) => do
        let (more, widest, after) ← emptyLines? indentation steps widest after
        return (c :: more, widest, after)

/-- The lines of a block scalar that have the given indentation: their text without the last line
break, that line break, and the empty lines at the end. -/
def blockLines? (isFolded : Bool) (indentation : Nat) :
    Nat → Option Char → Bool → List Char → Cursor →
      Option (List Char × List Char × List Char × Cursor)
  | 0, last, _, empties, cursor => some ([], last.toList, empties, cursor)
  | steps + 1, last, afterBlank, empties, cursor =>
    if cursor.column ≠ indentation ∨ cursor.rest = [] then some ([], last.toList, empties, cursor)
    else do
      let blank := cursor.rest.head?.any isBlank
      let glue :=
        if isFolded && last == some '\n' && !afterBlank && !blank then
          if empties = [] then [' '] else []
        else last.toList
      let line := cursor.rest.takeWhile (!isBreak ·)
      let here := cursor.skip line.length
      let (last, here) := match here.lineBreak? with
        | some (c, after) => (some c, after)
        | none => (none, here)
      let (more, _, here) ← emptyLines? indentation here.rest.length 0 here
      let (text, last, more, after) ←
        blockLines? isFolded indentation steps last blank more here
      return (glue ++ empties ++ line ++ text, last, more, after)

def blockScalar? (isFolded : Bool) (indent : Int) (cursor : Cursor) : Option (String × Cursor) := do
  let (head, body) ← blockHead? isFolded cursor
  let given := match head.indentation with
    | some n => indent.toNat + n
    | none => 0
  let (empties, widest, here) ← emptyLines? given body.rest.length 0 body
  let indentation := if given = 0 then max widest (max (indent + 1).toNat 1) else given
  let (text, last, empties, after) ←
    blockLines? isFolded indentation (here.rest.length + 1) none false empties here
  let tail := match head.chomping with
    | .strip => []
    | .clip => last
    | .keep => last ++ empties
  return (.ofList (text ++ tail), after)

end Runbook.Yaml

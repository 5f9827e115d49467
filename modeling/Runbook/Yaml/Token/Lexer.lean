import Runbook.Yaml.Token

namespace Runbook.Yaml

/-- A place where a key may begin, which is only known at the colon behind the key. -/
structure KeyPlace where
  /-- The number of tokens before it. -/
  position : Nat
  /-- Nothing else may stand there. -/
  isRequired : Bool
  cursor : Cursor

structure Lexer where
  cursor : Cursor
  /-- The tokens read, the last one first. -/
  tokens : List Token
  /-- The columns of the open block collections, the innermost first. -/
  columns : List Nat
  key : Option KeyPlace
  /-- The same for what stands around each open flow collection, the innermost first. -/
  outerKeys : List (Option KeyPlace)
  allowsKey : Bool

namespace Lexer

/-- A mark for the order of bytes may stand in front. -/
def start (text : String) : Lexer :=
  let cursor := Cursor.start text
  ⟨if cursor.isAt '\ufeff' then cursor.skip 1 else cursor, [], [], none, [], true⟩

def isFlow (lexer : Lexer) : Bool := !lexer.outerKeys.isEmpty

def indent (lexer : Lexer) : Int :=
  match lexer.columns with
  | column :: _ => column
  | [] => -1

def add (token : Token) (lexer : Lexer) : Lexer := { lexer with tokens := token :: lexer.tokens }

/-- Puts a token behind the given number of others. -/
def insert (position : Nat) (token : Token) (lexer : Lexer) : Lexer :=
  let later := lexer.tokens.length - position
  { lexer with tokens := lexer.tokens.take later ++ token :: lexer.tokens.drop later }

def pass (token : Token) (length : Nat) (lexer : Lexer) : Lexer :=
  { lexer.add token with cursor := lexer.cursor.skip length }

def allowKey (allowsKey : Bool) (lexer : Lexer) : Lexer := { lexer with allowsKey }

/-- Opens a block collection, unless the column belongs to an open one. -/
def openBlock (column position : Nat) (token : Token) (lexer : Lexer) : Lexer :=
  if lexer.isFlow || column ≤ lexer.indent then lexer
  else { lexer.insert position token with columns := column :: lexer.columns }

/-- Closes the block collections that are further right than a column. -/
def closeBlocks (column : Int) (lexer : Lexer) : Lexer :=
  if lexer.isFlow then lexer
  else
    let closed := lexer.columns.takeWhile fun (c : Nat) => column < c
    { lexer with
      tokens := List.replicate closed.length .blockEnd ++ lexer.tokens
      columns := lexer.columns.drop closed.length }

def openHere? (token : Token) (lexer : Lexer) : Option Lexer :=
  if lexer.isFlow then some lexer
  else if !lexer.allowsKey then none
  else some (lexer.openBlock lexer.cursor.column lexer.tokens.length token)

def forgetKey? (lexer : Lexer) : Option Lexer :=
  if lexer.key.any (·.isRequired) then none else some { lexer with key := none }

def rememberKey? (lexer : Lexer) : Option Lexer :=
  if !lexer.allowsKey then some lexer
  else lexer.forgetKey?.map fun lexer =>
    { lexer with
      key := some ⟨lexer.tokens.length, !lexer.isFlow && lexer.indent = lexer.cursor.column,
        lexer.cursor⟩ }

/-- A key takes part of one line, and of it at most 1024 characters. -/
def isPast (cursor : Cursor) (key : KeyPlace) : Bool :=
  key.cursor.line < cursor.line || key.cursor.index + 1024 < cursor.index

def current? (cursor : Cursor) (key : Option KeyPlace) : Option (Option KeyPlace) :=
  match key with
  | none => some none
  | some key =>
    if !isPast cursor key then some (some key) else if key.isRequired then none else some none

def forgetPast? (lexer : Lexer) : Option Lexer := do
  return { lexer with
    key := ← current? lexer.cursor lexer.key
    outerKeys := ← lexer.outerKeys.mapM (current? lexer.cursor) }

/-- Passes blanks, comments and line breaks. A tab may not stand where a key may. -/
def passGap : Nat → Lexer → Lexer
  | 0, lexer => lexer
  | steps + 1, lexer =>
    let here := lexer.cursor.skipWhile fun c =>
      c == ' ' || (c == '\t' && (lexer.isFlow || !lexer.allowsKey))
    let here := if here.isAt '#' then here.skipWhile (!isBreak ·) else here
    match here.lineBreak? with
    | some (_, after) =>
      passGap steps { lexer with cursor := after, allowsKey := lexer.allowsKey || !lexer.isFlow }
    | none => { lexer with cursor := here }

def directive? (lexer : Lexer) : Option Lexer := do
  let lexer ← (lexer.closeBlocks (-1)).forgetKey?
  let (token, after) ← Token.directive? lexer.cursor
  return { lexer.add token with cursor := after, allowsKey := false }

def marker? (token : Token) (lexer : Lexer) : Option Lexer := do
  return ((← (lexer.closeBlocks (-1)).forgetKey?).allowKey false).pass token 3

def openFlow? (token : Token) (lexer : Lexer) : Option Lexer := do
  let lexer ← lexer.rememberKey?
  return { lexer.pass token 1 with
    key := none, outerKeys := lexer.key :: lexer.outerKeys, allowsKey := true }

def closeFlow? (token : Token) (lexer : Lexer) : Option Lexer := do
  let lexer ← lexer.forgetKey?
  return { lexer.pass token 1 with
    key := (lexer.outerKeys.head?).getD none
    outerKeys := lexer.outerKeys.drop 1
    allowsKey := false }

def comma? (lexer : Lexer) : Option Lexer := do
  return ((← lexer.forgetKey?).allowKey true).pass .comma 1

def item? (lexer : Lexer) : Option Lexer := do
  let lexer ← lexer.openHere? .blockList
  return ((← lexer.forgetKey?).allowKey true).pass .item 1

def key? (lexer : Lexer) : Option Lexer := do
  let lexer ← lexer.openHere? .blockRecord
  return ((← lexer.forgetKey?).allowKey !lexer.isFlow).pass .key 1

/-- A colon, which makes what begins at the remembered place a key. -/
def value? (lexer : Lexer) : Option Lexer :=
  match lexer.key with
  | some key =>
    let lexer := lexer.insert key.position .key
    let lexer := lexer.openBlock key.cursor.column key.position .blockRecord
    some ({ lexer with key := none, allowsKey := false }.pass .value 1)
  | none => (lexer.openHere? .blockRecord).map fun lexer =>
    (lexer.allowKey !lexer.isFlow).pass .value 1

def node? (read : Cursor → Option (Token × Cursor)) (lexer : Lexer) : Option Lexer := do
  let lexer ← lexer.rememberKey?
  let (token, after) ← read lexer.cursor
  return { lexer.add token with cursor := after, allowsKey := false }

def blockScalar? (isFolded : Bool) (lexer : Lexer) : Option Lexer := do
  let lexer ← lexer.forgetKey?
  let (text, after) ← Yaml.blockScalar? isFolded lexer.indent (lexer.cursor.skip 1)
  let token := Token.scalar (if isFolded then .quoted else .literal) text
  return { lexer.add token with cursor := after, allowsKey := true }

/-- A plain scalar. A key may begin behind it if it ends with a line. -/
def plain? (lexer : Lexer) : Option Lexer := do
  let lexer ← lexer.rememberKey?
  let (text, broken, after) ←
    Yaml.plain? lexer.isFlow (lexer.indent + 1).toNat lexer.cursor
  return { lexer.add (.scalar .plain text) with cursor := after, allowsKey := broken }

def next? (lexer : Lexer) : Option Lexer :=
  match lexer.cursor.rest with
  | [] => some lexer
  | c :: rest =>
    if lexer.cursor.column = 0 ∧ c = '%' then lexer.directive?
    else if lexer.cursor.atMarkerOf '-' then lexer.marker? .documentStart
    else if lexer.cursor.atMarkerOf '.' then lexer.marker? .documentEnd
    else if c = '[' then lexer.openFlow? .flowList
    else if c = '\x7b' then lexer.openFlow? .flowRecord
    else if c = ']' then lexer.closeFlow? .flowListEnd
    else if c = '\x7d' then lexer.closeFlow? .flowRecordEnd
    else if c = ',' then lexer.comma?
    else if c = '-' ∧ isGap rest then lexer.item?
    else if c = '?' ∧ (lexer.isFlow ∨ isGap rest) then lexer.key?
    else if c = ':' ∧ (lexer.isFlow ∨ isGap rest) then lexer.value?
    else if c = '*' then lexer.node? fun cursor =>
      (Token.name? (cursor.skip 1)).map fun (name, after) => (.alias name, after)
    else if c = '&' then lexer.node? fun cursor =>
      (Token.name? (cursor.skip 1)).map fun (name, after) => (.anchor name, after)
    else if c = '!' then lexer.node? (Token.tag? lexer.isFlow)
    else if (c = '|' ∨ c = '>') ∧ !lexer.isFlow then lexer.blockScalar? (c = '>')
    else if c = '\'' ∨ c = '"' then lexer.node? fun cursor =>
      (quoted? (c = '"') cursor).map fun (text, after) => (.scalar .quoted text, after)
    else if startsPlain lexer.isFlow (c :: rest) then lexer.plain?
    else none

def finish? : Nat → Lexer → Option (List Token)
  | 0, _ => none
  | steps + 1, lexer => do
    let lexer ← (lexer.passGap lexer.cursor.rest.length).forgetPast?
    let lexer := lexer.closeBlocks lexer.cursor.column
    if lexer.cursor.rest = [] then
      return (← (lexer.closeBlocks (-1)).forgetKey?).tokens.reverse
    else finish? steps (← lexer.next?)

end Lexer

def Token.ofText? (text : String) : Option (List Token) :=
  if text.toList.all isPrintable then (Lexer.start text).finish? (text.length + 1) else none

end Runbook.Yaml

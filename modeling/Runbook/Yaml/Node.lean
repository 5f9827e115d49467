import Runbook.Yaml.Token

namespace Runbook.Yaml

inductive Node where
  | alias (number : Nat)
  | scalar (number : Option Nat) (tag : Option String) (style : Scalar.Style) (text : String)
  | list (number : Option Nat) (tag : Option String) (items : List Node)
  | record (number : Option Nat) (tag : Option String) (members : List (Node × Node))
  deriving Repr

namespace Node

def nothing : Node := .scalar none none .plain ""

def number? : Node → Option Nat
  | .alias _ => none
  | .scalar number _ _ _ => number
  | .list number _ _ => number
  | .record number _ _ => number

mutual

def nodes : Node → List Node
  | .list number tag items => .list number tag items :: nodesOfItems items
  | .record number tag members => .record number tag members :: nodesOfMembers members
  | node => [node]

def nodesOfItems : List Node → List Node
  | [] => []
  | item :: rest => item.nodes ++ nodesOfItems rest

def nodesOfMembers : List (Node × Node) → List Node
  | [] => []
  | (name, value) :: rest => name.nodes ++ (value.nodes ++ nodesOfMembers rest)

end

/-- The tokens that are left, with what those before them say about tags and anchors. -/
structure Rest where
  tokens : List Token
  handles : List (String × String)
  anchors : List (String × Nat)

abbrev Parse : Type → Type := StateT Rest Option

def setTokens (tokens : List Token) : Parse Unit := modify ({ · with tokens })

def accept (token : Token) : Parse Bool := do
  match (← get).tokens with
  | next :: rest =>
    if next = token then
      setTokens rest
      return true
    else return false
  | [] => return false

def isBefore (tokens : List Token) : Parse Bool := do
  return (← get).tokens.head?.any (· ∈ tokens)

def alias? : Parse (Option Node) := do
  let state ← get
  match state.tokens with
  | .alias name :: rest =>
    let number ← state.anchors.lookup name
    setTokens rest
    return some (.alias number)
  | _ => return none

/-- The number of an anchor. An anchor that stands again gets the number of the next new one. -/
def anchor? : Parse (Option Nat) := do
  let state ← get
  match state.tokens with
  | .anchor name :: rest =>
    let number := state.anchors.length
    let others := state.anchors.filter (·.1 ≠ name)
    set { state with tokens := rest, anchors := (name, number) :: others }
    return some number
  | _ => return none

def defaultHandles : List (String × String) := [("!", "!"), ("!!", "tag:yaml.org,2002:")]

def tag? : Parse (Option String) := do
  let state ← get
  match state.tokens with
  | .tag handle suffix :: rest =>
    let target ← if handle = "" then some "" else (state.handles ++ defaultHandles).lookup handle
    setTokens rest
    return some (target ++ suffix)
  | _ => return none

def properties? : Parse (Option Nat × Option String) := do
  let number ← anchor?
  let tag ← tag?
  let number ← if number.isSome then pure number else anchor?
  return (number, tag)

mutual

/-- A node. Block collections may stand outside of flow collections; the items of a block list may
stand at the column of the members of the record around it. -/
def node? : Nat → (block inMember : Bool) → Parse Node
  | 0, _, _ => failure
  | steps + 1, block, inMember => do
    if let some node ← alias? then return node
    let (number, tag) ← properties?
    match (← get).tokens with
    | .scalar style text :: rest =>
      setTokens rest
      return .scalar number (if tag = some "!" then none else tag) style text
    | .flowList :: rest =>
      setTokens rest
      return .list number tag (← flowItems? steps true)
    | .flowRecord :: rest =>
      setTokens rest
      return .record number tag (← flowMembers? steps true)
    | tokens =>
      if inMember && tokens.head? = some .item then
        return .list number tag (← memberItems? steps)
      else if block && tokens.head? = some .blockList then
        setTokens (tokens.drop 1)
        return .list number tag (← blockItems? steps)
      else if block && tokens.head? = some .blockRecord then
        setTokens (tokens.drop 1)
        return .record number tag (← blockMembers? steps)
      else if number.isSome || tag.isSome then return .scalar number tag .plain ""
      else failure

def nodeUnless? : Nat → List Token → (block inMember : Bool) → Parse Node
  | 0, _, _, _ => failure
  | steps + 1, tokens, block, inMember => do
    if ← isBefore tokens then return nothing else node? steps block inMember

/-- What stands behind the mark of a value, which may be missing. -/
def value? : Nat → List Token → (block : Bool) → Parse Node
  | 0, _, _ => failure
  | steps + 1, tokens, block => do
    if ← accept .value then nodeUnless? steps tokens block block else return nothing

def blockItems? : Nat → Parse (List Node)
  | 0 => failure
  | steps + 1 => do
    if ← accept .item then
      let item ← nodeUnless? steps [.item, .blockEnd] true false
      return item :: (← blockItems? steps)
    else if ← accept .blockEnd then return []
    else failure

/-- The items of a block list that has no tokens for beginning and end. -/
def memberItems? : Nat → Parse (List Node)
  | 0 => failure
  | steps + 1 => do
    if ← accept .item then
      let item ← nodeUnless? steps [.item, .key, .value, .blockEnd] true false
      return item :: (← memberItems? steps)
    else return []

def blockMembers? : Nat → Parse (List (Node × Node))
  | 0 => failure
  | steps + 1 => do
    if ← accept .key then
      let name ← nodeUnless? steps [.key, .value, .blockEnd] true true
      let value ← value? steps [.key, .value, .blockEnd] true
      return (name, value) :: (← blockMembers? steps)
    else if ← accept .blockEnd then return []
    else failure

def flowItems? : Nat → (first : Bool) → Parse (List Node)
  | 0, _ => failure
  | steps + 1, first => do
    if ← accept .flowListEnd then return []
    unless first do guard (← accept .comma)
    if ← accept .key then
      let pair ← flowPair? steps
      return .record none none [pair] :: (← flowItems? steps false)
    else if ← accept .flowListEnd then return []
    else
      let item ← node? steps false false
      return item :: (← flowItems? steps false)

/-- A record of one member without braces. A mark in the place of its name is passed. -/
def flowPair? : Nat → Parse (Node × Node)
  | 0 => failure
  | steps + 1 => do
    let name ←
      if ← isBefore [.value, .comma, .flowListEnd] then
        setTokens ((← get).tokens.drop 1)
        pure nothing
      else node? steps false false
    return (name, ← value? steps [.comma, .flowListEnd] false)

def flowMembers? : Nat → (first : Bool) → Parse (List (Node × Node))
  | 0, _ => failure
  | steps + 1, first => do
    if ← accept .flowRecordEnd then return []
    unless first do guard (← accept .comma)
    if ← accept .key then
      let name ← nodeUnless? steps [.value, .comma, .flowRecordEnd] false false
      let value ← value? steps [.comma, .flowRecordEnd] false
      return (name, value) :: (← flowMembers? steps false)
    else if ← accept .flowRecordEnd then return []
    else
      let name ← node? steps false false
      return (name, nothing) :: (← flowMembers? steps false)

end

/-- The handles that directives define, and the tokens behind these. No directive stands twice. -/
def directives? : List Token → (versioned : Bool) → List (String × String) →
    Option (List (String × String) × List Token)
  | .version :: rest, versioned, handles =>
    if versioned then none else directives? rest true handles
  | .handle name target :: rest, versioned, handles =>
    if (handles.lookup name).isSome then none
    else directives? rest versioned ((name, target) :: handles)
  | rest, _, handles => some (handles, rest)

def isDocumentEnd : List Token → Bool
  | [] => true
  | .version :: _ => true
  | .handle _ _ :: _ => true
  | .documentStart :: _ => true
  | .documentEnd :: _ => true
  | _ => false

def read? (handles : List (String × String)) (tokens : List Token) :
    Option (Node × List Token) := do
  let (node, rest) ← (node? (4 * tokens.length + 4) true false).run ⟨tokens, handles, []⟩
  return (node, rest.tokens)

def first? (tokens : List Token) : Option (Node × List Token) := do
  if tokens = [] then return (nothing, [])
  let (handles, rest) ← directives? tokens false []
  match rest with
  | .documentStart :: rest =>
    if isDocumentEnd rest then return (nothing, rest) else read? handles rest
  | rest => if rest = tokens then read? [] rest else none

def ofTokens? (tokens : List Token) : Option Node := do
  let (node, rest) ← first? tokens
  if rest.all (· = .documentEnd) then return node else none

end Node

end Runbook.Yaml

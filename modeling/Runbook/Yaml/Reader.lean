import Runbook.Yaml.Node
import Runbook.Yaml.Token.Lexer

namespace Runbook.Yaml

def nestingLimit : Nat := 128

def scalarTag (tag : String) : Scalar.Tag :=
  match tag with
  | "tag:yaml.org,2002:null" => .null
  | "tag:yaml.org,2002:bool" => .bool
  | "tag:yaml.org,2002:int" => .integer
  | "tag:yaml.org,2002:float" => .real
  | _ => .other

def withTag (tag : Option String) (document : Document) : Document :=
  match tag.map String.toList with
  | some ('!' :: name) => .tagged (.ofList name) document
  | _ => document

namespace Node

/-- A collection takes two places, and other nodes one. -/
def places : Node → Nat
  | .list _ _ _ => 2
  | .record _ _ _ => 2
  | _ => 1

/-- The node that an alias stands for, as long as aliases are left. -/
def target? (numbered : List (Nat × Node)) : Node → StateM Nat (Option Node)
  | .alias number => do
    match ← get with
    | 0 => return none
    | left + 1 =>
      set left
      return numbered.lookup number
  | node => return some node

/-- What a node says, read down to the given level. -/
def document (numbered : List (Nat × Node)) : Nat → Node → StateM Nat Document
  | levels, node => do
    match levels, ← target? numbered node with
    | _, some (.scalar _ tag style text) =>
      return withTag tag (.scalar ⟨style, tag.map scalarTag, text⟩)
    | levels + 1, some (.list _ tag items) =>
      return withTag tag (.list .yaml (← items.mapM (document numbered levels)))
    | levels + 1, some (.record _ tag members) =>
      return withTag tag <| .record .yaml <| ← members.mapM fun (name, value) => do
        return (← document numbered levels name, ← document numbered levels value)
    | _, _ => return .unreadable

def toDocument (node : Node) : Document :=
  let nodes := node.nodes
  let numbered := nodes.filterMap fun node => node.number?.map (·, node)
  let count := nodes.foldl (fun n node => n + places node) 0
  (document numbered.reverse nestingLimit node |>.run (100 * count)).1

end Node

/-- The document of a text; a text without one holds an empty one. -/
def parse? (text : String) : Option Document := do
  return (← Node.ofTokens? (← Token.ofText? text)).toDocument

end Runbook.Yaml

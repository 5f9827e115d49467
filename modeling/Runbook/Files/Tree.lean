import Runbook.Dict
import Runbook.Files

namespace Runbook

structure Tree where
  texts : Dict String

namespace Tree

def noSuchFile : String := "No such file or directory (os error 2)"
def notDirectory : String := "Not a directory (os error 20)"
def isDirectoryReason : String := "Is a directory (os error 21)"

def key (place : List String) : String := "/".intercalate place

def places (tree : Tree) : List (List String) :=
  tree.texts.toList.map fun (path, _) => Path.components path

def isDirectory (tree : Tree) (place : List String) : Bool :=
  place.isEmpty || tree.places.any fun file => place.isPrefixOf file && place.length < file.length

def follow (tree : Tree) (here : List String) : List String → Except String (List String)
  | [] => .ok here
  | name :: rest =>
    if tree.isDirectory here then
      follow tree (if name = ".." then here.dropLast else here ++ [name]) rest
    else if tree.texts.contains (key here) then .error notDirectory
    else .error noSuchFile

/-- The place of a path. Nothing is known of absolute paths but that there is a root. -/
def place (tree : Tree) (path : String) : Except String (List String) :=
  let names := Path.components path
  if Text.startsWith path "/" && !names.isEmpty || path.isEmpty then .error noSuchFile
  else tree.follow [] names

def read (tree : Tree) (path : String) : Except String String := do
  let place ← tree.place path
  match tree.texts[key place]? with
  | some text => return text
  | none => throw (if tree.isDirectory place then isDirectoryReason else noSuchFile)

def names (tree : Tree) (path : String) : Option (List String) :=
  match tree.place path with
  | .ok place =>
    if tree.isDirectory place then
      some (tree.places.filterMap fun file =>
        if place.isPrefixOf file then file[place.length]? else none).eraseDups
    else none
  | .error _ => none

def present (tree : Tree) (path : String) : Bool :=
  match tree.place path with
  | .ok place => tree.texts.contains (key place) || tree.isDirectory place
  | .error _ => false

def write (tree : Tree) (path text : String) : Except String Tree :=
  match tree.place path with
  | .ok place =>
    if tree.isDirectory place then .error isDirectoryReason
    else .ok ⟨tree.texts.insert (key place) text⟩
  | .error reason =>
    if reason = noSuchFile then .ok ⟨tree.texts.insert (key (Path.components path)) text⟩
    else .error reason

def files (tree : Tree) : Files Id := ⟨tree.read, tree.names⟩

end Tree

end Runbook

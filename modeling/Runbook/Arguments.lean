import Runbook.Text

namespace Runbook

structure Arguments.Known where
  single : List String
  repeatable : List String
  flags : List String

structure Arguments where
  options : List (String × String)
  flags : List String
  words : List String
  deriving DecidableEq, Repr

namespace Arguments

def empty : Arguments := ⟨[], [], []⟩

def withOption (name value : String) (arguments : Arguments) : Arguments :=
  { arguments with options := (name, value) :: arguments.options }

def withFlag (name : String) (arguments : Arguments) : Arguments :=
  { arguments with flags := name :: arguments.flags }

def withWord (word : String) (arguments : Arguments) : Arguments :=
  { arguments with words := word :: arguments.words }

def Known.takesValue (known : Known) (name : String) : Bool :=
  known.single.contains name || known.repeatable.contains name

/-- An argument that begins with a hyphen and is more than one. -/
def looksLikeOption (argument : String) : Bool :=
  Text.startsWith argument "-" && argument != "-"

inductive Form where
  | word
  | separator
  | flag (name : String)
  | option (name value : String)
  | openOption (name : String)
  | unknown

/-- The name of a long option, with the value behind an equals sign. -/
def longOption? (argument : String) : Option (String × Option String) :=
  match argument.toList with
  | '-' :: '-' :: rest =>
    match Text.cut? '=' rest with
    | some (name, value) => some (.ofList name, some (.ofList value))
    | none => some (.ofList rest, none)
  | _ => none

def form (known : Known) (argument : String) : Form :=
  if argument = "--" then .separator
  else if !looksLikeOption argument then .word
  else match longOption? argument with
    | some (name, some value) =>
      if known.takesValue name then .option name value else .unknown
    | some (name, none) =>
      if known.takesValue name then .openOption name
      else if known.flags.contains name then .flag name
      else .unknown
    | none => .unknown

def leading? (known : Known) : List String → Option (Arguments × List String)
  | [] => some (empty, [])
  | argument :: rest =>
    match form known argument with
    | .word => some (empty, argument :: rest)
    | .flag name => (leading? known rest).map fun (read, rest) => (read.withFlag name, rest)
    | .option name value =>
      (leading? known rest).map fun (read, rest) => (read.withOption name value, rest)
    | .openOption name =>
      match rest with
      | value :: rest =>
        if looksLikeOption value then none
        else (leading? known rest).map fun (read, rest) => (read.withOption name value, rest)
      | [] => none
    | .separator => none
    | .unknown => none

def all? (known : Known) : List String → Option Arguments
  | [] => some empty
  | argument :: rest =>
    match form known argument with
    | .word => (all? known rest).map (withWord argument)
    | .flag name => (all? known rest).map (withFlag name)
    | .option name value => (all? known rest).map (withOption name value)
    | .openOption name =>
      match rest with
      | value :: rest =>
        if looksLikeOption value then none
        else (all? known rest).map (withOption name value)
      | [] => none
    | .separator => some { empty with words := rest }
    | .unknown => none

def values (name : String) (arguments : Arguments) : List String :=
  (arguments.options.filter (·.1 == name)).map (·.2)

def value? (name : String) (arguments : Arguments) : Option String := (arguments.values name).head?

def isOnce (known : Known) (arguments : Arguments) : Bool :=
  known.single.all (fun name => (arguments.values name).length ≤ 1) &&
    known.flags.all fun name => arguments.flags.count name ≤ 1

end Arguments

end Runbook

import Runbook.Json.Printer

namespace Runbook

inductive JsonKind where
  | boolean | integer | string | array | object
  deriving DecidableEq, Repr

inductive Shape where
  | anything
  | kind (kind : JsonKind)
  /-- The departures from the first shape are told before those from the second. -/
  | both (first second : Shape)
  | minLength (least : Nat)
  | minItems (least : Nat)
  | minimum (least : Int)
  | oneOf (words : List String)
  | each (shape : Shape)
  | property (name : String) (shape : Shape)
  | required (name : String)
  /-- Values of one shape have a second, all others a third. -/
  | conditional (test met unmet : Shape)
  deriving Repr

/-- A departure at the place of a value, written as a pointer. -/
structure Shape.Violation where
  pointer : String
  message : String
  deriving DecidableEq, Repr

namespace JsonKind

def name : JsonKind → String
  | boolean => "boolean"
  | integer => "integer"
  | string => "string"
  | array => "array"
  | object => "object"

def holds : JsonKind → Json → Bool
  | boolean, .bool _ => true
  | integer, .number (.integer _) => true
  | string, .string _ => true
  | array, .array _ => true
  | object, .object _ => true
  | _, _ => false

end JsonKind

namespace Shape

def holds : Shape → Json → Bool
  | anything, _ => true
  | kind k, json => k.holds json
  | both first second, json => first.holds json && second.holds json
  | minLength least, .string s => least ≤ s.length
  | minLength _, _ => true
  | minItems least, .array items => least ≤ items.length
  | minItems _, _ => true
  | minimum least, .number (.integer n) => least ≤ n
  | minimum _, _ => true
  | oneOf words, .string s => words.contains s
  | oneOf _, _ => false
  | each shape, .array items => items.all shape.holds
  | each _, _ => true
  | property name shape, .object members => (Json.member name members).all shape.holds
  | property _ _, _ => true
  | required name, .object members => (Json.member name members).isSome
  | required _, _ => true
  | conditional test met unmet, json => if test.holds json then met.holds json else unmet.holds json

def complaint (json : Json) : Shape → String
  | kind k => json.canonical.compact ++ " is not of type \"" ++ k.name ++ "\""
  | minLength least => json.canonical.compact ++ " is shorter than " ++ counted least "character"
  | minItems least => json.canonical.compact ++ " has less than " ++ counted least "item"
  | minimum least =>
    json.canonical.compact ++ " is less than the minimum of " ++ Text.signedDecimal least
  | required name => Json.quote name ++ " is a required property"
  | oneOf words =>
    json.canonical.compact ++ " is not one of " ++ " or ".intercalate (words.map Json.quote)
  | _ => ""
where
  counted (n : Nat) (noun : String) : String :=
    Text.decimal n ++ " " ++ noun ++ if n = 1 then "" else "s"

def violations : Shape → String → Json → List Violation
  | both first second, pointer, json =>
    first.violations pointer json ++ second.violations pointer json
  | each shape, pointer, .array items =>
    items.zipIdx.flatMap fun (item, i) => shape.violations (pointer ++ "/" ++ Text.decimal i) item
  | property name shape, pointer, .object members =>
    (Json.member name members).toList.flatMap (shape.violations (pointer ++ "/" ++ name))
  | conditional test met unmet, pointer, json =>
    if test.holds json then met.violations pointer json else unmet.violations pointer json
  | shape, pointer, json =>
    if shape.holds json then [] else [⟨pointer, complaint json shape⟩]

def all : List Shape → Shape
  | [] => anything
  | [shape] => shape
  | shape :: rest => both shape (all rest)

theorem violations_eq_nil_iff {shape : Shape} {pointer : String} {json : Json} :
    shape.violations pointer json = [] ↔ shape.holds json = true := by
  induction shape generalizing pointer json with
  | both first second ihf ihs => simp [violations, holds, ihf, ihs]
  | conditional test met unmet _ ihm ihu =>
    by_cases h : test.holds json = true <;> simp [violations, holds, h, ihm, ihu]
  | each shape ih =>
    cases json with
    | array items =>
      simp only [violations, holds, List.flatMap_eq_nil_iff, ih, List.all_eq_true]
      constructor
      · intro h item hm
        obtain ⟨i, hi⟩ := List.mem_iff_getElem?.mp hm
        exact h (item, i) (List.mem_zipIdx_iff_getElem?.mpr hi)
      · intro h pair hm
        exact h pair.1 (List.mem_of_getElem? (List.mem_zipIdx_iff_getElem?.mp hm))
    | _ => simp [violations, holds]
  | property name shape ih =>
    cases json with
    | object members =>
      cases hm : Json.member name members <;> simp [violations, holds, hm, ih]
    | _ => simp [violations, holds]
  | _ => simp [violations]

end Shape

end Runbook

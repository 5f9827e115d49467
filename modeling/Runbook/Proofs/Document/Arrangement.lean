import Mathlib.Data.List.Nodup
import Runbook.Document

namespace Runbook

namespace Json

/-- The members of the first list are those of the second in another order, each with the same
value. -/
inductive Placed (same : Json → Json → Prop) :
    List (String × Json) → List (String × Json) → Prop where
  | nil : Placed same [] []
  | cons {name : String} {value found : Json} {rest before after : List (String × Json)}
      (value_same : same value found) (others : Placed same rest (before ++ after)) :
      Placed same ((name, value) :: rest) (before ++ (name, found) :: after)

/-- The two values are the same but for the order of the members of objects. -/
inductive Arranged : Json → Json → Prop where
  | null : Arranged null null
  | bool (b : Bool) : Arranged (bool b) (bool b)
  | number (n : JsonNumber) : Arranged (number n) (number n)
  | string (s : String) : Arranged (string s) (string s)
  | array {items arranged : List Json} (each : List.Forall₂ Arranged items arranged) :
      Arranged (array items) (array arranged)
  | object {members arranged : List (String × Json)} (each : Placed Arranged members arranged) :
      Arranged (object members) (object arranged)

mutual

theorem Arranged.refl : ∀ json : Json, Arranged json json
  | .null => .null
  | .bool b => .bool b
  | .number n => .number n
  | .string s => .string s
  | .array items => .array (arrangedItems_refl items)
  | .object members => .object (arrangedMembers_refl members)

theorem arrangedItems_refl : ∀ items : List Json, List.Forall₂ Arranged items items
  | [] => .nil
  | item :: rest => .cons (.refl item) (arrangedItems_refl rest)

theorem arrangedMembers_refl : ∀ members : List (String × Json), Placed Arranged members members
  | [] => .nil
  | (_, value) :: rest =>
    @Placed.cons Arranged _ _ _ _ [] _ (.refl value) (arrangedMembers_refl rest)

end

namespace Placed

variable {same : Json → Json → Prop} {members arranged : List (String × Json)}

theorem names (placed : Placed same members arranged) :
    (arranged.map Prod.fst).Perm (members.map Prod.fst) := by
  induction placed with
  | nil => exact .nil
  | cons _ _ ih =>
    rw [List.map_append] at ih ⊢
    exact List.perm_middle.trans (.cons _ ih)

theorem filter (placed : Placed same members arranged) (keep : String → Bool) :
    Placed same (members.filter (keep ·.1)) (arranged.filter (keep ·.1)) := by
  induction placed with
  | nil => exact .nil
  | @cons name _ _ _ _ _ value_same _ ih =>
    rw [List.filter_append] at ih ⊢
    by_cases kept : keep name = true
    · simpa only [List.filter_cons, kept, ↓reduceIte] using Placed.cons value_same ih
    · simpa only [List.filter_cons, kept, Bool.false_eq_true, ↓reduceIte] using ih

theorem lookup (placed : Placed same members arranged) (distinct : (members.map Prod.fst).Nodup)
    (name : String) : Option.Rel same (members.lookup name) (arranged.lookup name) := by
  induction placed with
  | nil => exact .none
  | @cons here value found rest before after value_same others ih =>
    obtain ⟨fresh, distinct⟩ := List.nodup_cons.mp distinct
    rw [List.lookup_append, List.lookup_cons, List.lookup_cons]
    by_cases hit : name = here
    · subst hit
      have absent : before.lookup name = none := by
        refine List.lookup_eq_none_iff.mpr fun member listed => bne_iff_ne.mpr fun again => fresh ?_
        have named : member.1 ∈ (before ++ after).map Prod.fst :=
          List.mem_map_of_mem (List.mem_append_left _ listed)
        rw [again]
        exact others.names.mem_iff.mp named
      rw [absent, beq_self_eq_true]
      exact .some value_same
    · rw [beq_eq_false_iff_ne.mpr hit]
      simpa only [List.lookup_append] using ih distinct

theorem lookup_string (placed : Placed Arranged members arranged)
    (distinct : (members.map Prod.fst).Nodup) {name s : String}
    (found : members.lookup name = some (.string s)) : arranged.lookup name = some (.string s) := by
  have same := placed.lookup distinct name
  rw [found] at same
  generalize arranged.lookup name = place at same
  obtain ⟨text⟩ := same
  cases text
  rfl

end Placed

end Json

namespace Document

mutual

/-- The document of a value, with its collections where a form is read. -/
def shaped (form : Form) : Json → Document
  | .null => null
  | .bool b => bool b
  | .number (.integer n) => if 0 ≤ n then whole n.toNat else minus n.natAbs
  | .number (.double _) => real
  | .string s => text s
  | .array items => list form (shapedItems form items)
  | .object members => record form (shapedMembers form members)

def shapedItems (form : Form) : List Json → List Document
  | [] => []
  | item :: rest => shaped form item :: shapedItems form rest

def shapedMembers (form : Form) : List (String × Json) → Members
  | [] => []
  | (name, value) :: rest => (text name, shaped form value) :: shapedMembers form rest

end

theorem shapedItems_eq_map (form : Form) (items : List Json) :
    shapedItems form items = items.map (shaped form) := by
  induction items with
  | nil => rfl
  | cons item rest ih => rw [shapedItems, ih, List.map_cons]

theorem shapedMembers_eq_map (form : Form) (members : List (String × Json)) :
    shapedMembers form members =
      members.map fun member => (text member.1, shaped form member.2) := by
  induction members with
  | nil => rfl
  | cons member rest ih => rw [shapedMembers, ih, List.map_cons]

mutual

theorem ofJson_eq_shaped : ∀ json : Json, ofJson json = shaped .json json
  | .null => rfl
  | .bool _ => rfl
  | .number (.integer _) => by rw [ofJson, shaped]
  | .number (.double _) => rfl
  | .string _ => rfl
  | .array items => by rw [ofJson, shaped, ofJsonItems_eq_shapedItems items]
  | .object members => by rw [ofJson, shaped, ofJsonMembers_eq_shapedMembers members]

theorem ofJsonItems_eq_shapedItems :
    ∀ items : List Json, ofJsonItems items = shapedItems .json items
  | [] => rfl
  | item :: rest => by
    rw [ofJsonItems, shapedItems, ofJson_eq_shaped item, ofJsonItems_eq_shapedItems rest]

theorem ofJsonMembers_eq_shapedMembers :
    ∀ members : List (String × Json), ofJsonMembers members = shapedMembers .json members
  | [] => rfl
  | (_, value) :: rest => by
    rw [ofJsonMembers, shapedMembers, ofJson_eq_shaped value, ofJsonMembers_eq_shapedMembers rest]

end

mutual

theorem settle?_shaped (form : Form) :
    ∀ json : Json, settle? (shaped form json) = some (shaped .settled json)
  | .null => rfl
  | .bool _ => rfl
  | .number (.integer _) => by
    rw [shaped, shaped]
    split <;> rfl
  | .number (.double _) => rfl
  | .string _ => rfl
  | .array items => by
    rw [shaped, shaped, settle?, settleItems?_shapedItems form items, Option.map_some]
  | .object members => by
    rw [shaped, shaped, settle?, settleMembers?_shapedMembers form members, Option.map_some]

theorem settleItems?_shapedItems (form : Form) :
    ∀ items : List Json, settleItems? (shapedItems form items) = some (shapedItems .settled items)
  | [] => rfl
  | item :: rest => by
    rw [shapedItems, settleItems?, settle?_shaped form item, settleItems?_shapedItems form rest]
    rfl

theorem settleMembers?_shapedMembers (form : Form) :
    ∀ members : List (String × Json),
      settleMembers? (shapedMembers form members) = some (shapedMembers .settled members)
  | [] => rfl
  | (_, value) :: rest => by
    rw [shapedMembers, settleMembers?, settle?_shaped form value,
      settleMembers?_shapedMembers form rest]
    rfl

end

end Document

end Runbook

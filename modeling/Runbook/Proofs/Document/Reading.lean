import Runbook.Proofs.Document.Arrangement

namespace Runbook

open Json (Arranged Placed)

@[simp] theorem Json.lookup_member? (name other : String) (value : Option Json) :
    (Json.member? name value).lookup other = if other = name then value else none := by
  cases value with
  | none => simp [Json.member?]
  | some value => simp [Json.member?, List.lookup_cons]; split <;> simp_all

@[simp] theorem Json.nodup_member? (name : String) (value : Option Json) :
    ((Json.member? name value).map Prod.fst).Nodup := by
  cases value <;> simp [Json.member?]

@[simp] theorem Json.mem_map_member? {name other : String} {value : Option Json} :
    other ∈ (Json.member? name value).map Prod.fst ↔ other = name ∧ value ≠ none := by
  cases value <;> simp [Json.member?]

namespace Document

/-- What is written can be read back, in whatever order members are then found. -/
def Reads {α : Type} (write : α → Json) (read : Document → Option α) : Prop :=
  ∀ (x : α) (form : Form) (json : Json), Arranged (write x) json → read (shaped form json) = some x

section

variable {α : Type} {write : α → Json} {read : Document → Option α}

theorem reads_text : Reads .string text? := by
  rintro s form _ (_ | _ | _ | _ | _ | _)
  rfl

theorem reads_bool : Reads .bool bool? := by
  rintro b form _ (_ | _ | _ | _ | _ | _)
  rfl

theorem reads_word64 : Reads (fun n : UInt64 => Json.natural n.toNat) word64? := by
  rintro n form _ (_ | _ | _ | _ | _ | _)
  have fits : n.toNat < Nat.pow 2 64 := n.toNat_lt
  simp [shaped, word64?, untagged, fits]

theorem reads_word {table : List (String × α)} {name : α → String}
    (tells : ∀ x, table.lookup (name x) = some x) :
    Reads (fun x => .string (name x)) (word? table) := by
  rintro x form _ (_ | _ | _ | _ | _ | _)
  exact tells x

theorem Reads.mapM (reads : Reads write read) {form : Form} {xs : List α} {items : List Json}
    (each : List.Forall₂ Arranged (xs.map write) items) :
    (items.map (shaped form)).mapM read = some xs := by
  induction xs generalizing items with
  | nil =>
    cases each
    rfl
  | cons x xs ih =>
    cases each with
    | cons here rest => simp [reads x form _ here, ih rest]

theorem Reads.list (reads : Reads write read) :
    Reads (fun xs : List α => .array (xs.map write)) (listOf? read) := by
  rintro xs form _ (_ | _ | _ | _ | each | _)
  rw [shaped, shapedItems_eq_map, listOf?]
  exact reads.mapM each

theorem Reads.optional (reads : Reads write read) (present : ∀ x, write x ≠ .null) {x : α}
    {form : Form} {json : Json} (arranged : Arranged (write x) json) :
    optional? read (shaped form json) = some (some x) := by
  have found := reads x form json arranged
  have other : optional? read (shaped form json) = (read (shaped form json)).map some := by
    cases json with
    | null =>
      generalize written : write x = value at arranged
      cases arranged
      exact absurd written (present x)
    | number n =>
      cases n with
      | integer n => simp only [shaped]; split <;> rfl
      | double _ => rfl
    | _ => rfl
  rw [other, found, Option.map_some]

end

def shapedFields (form : Form) (members : List (String × Json)) : Fields :=
  members.map fun member => (member.1, shaped form member.2)

def Fields.Hold (fields : Fields) (members : List (String × Json)) : Prop :=
  ∀ name, Option.Rel (fun value document => ∃ form json, Arranged value json ∧
    document = shaped form json) (members.lookup name) (fields.lookup name)

/-- The settled documents are those of the members, in any order. -/
def Kept (members : List (String × Json)) (rest : Members) : Prop :=
  ∃ arranged, Placed Arranged members arranged ∧ rest = shapedMembers .settled arranged

section

variable {form : Form} {members arranged : List (String × Json)}

theorem mapM_shapedMembers {α : Type} {f : Document × Document → Option α}
    {g : String × Json → α}
    (each : ∀ member ∈ members, f (text member.1, shaped form member.2) = some (g member)) :
    (shapedMembers form members).mapM f = some (members.map g) := by
  induction members with
  | nil => rfl
  | cons member rest ih =>
    rw [List.forall_mem_cons] at each
    rw [shapedMembers, List.mapM_cons, each.1, ih each.2]
    rfl

theorem filter_shapedMembers {p : Document × Document → Bool} (keep : String → Bool)
    (same : ∀ name value, p (text name, value) = keep name) :
    (shapedMembers form members).filter p = shapedMembers form (members.filter (keep ·.1)) := by
  rw [shapedMembers_eq_map, shapedMembers_eq_map, List.filter_map]
  exact congrArg _ (List.filter_congr fun member _ => same member.1 _)

theorem lookup_shapedFields (name : String) :
    (shapedFields form members).lookup name = (members.lookup name).map (shaped form) := by
  induction members with
  | nil => rfl
  | cons member rest ih =>
    obtain ⟨here, value⟩ := member
    rw [shapedFields, List.map_cons, List.lookup_cons, List.lookup_cons]
    cases name == here with
    | true => rfl
    | false => exact ih

theorem hold_shapedFields (placed : Placed Arranged members arranged)
    (distinct : (members.map Prod.fst).Nodup) : (shapedFields form arranged).Hold members := by
  intro name
  rw [lookup_shapedFields]
  exact match members.lookup name, arranged.lookup name, placed.lookup distinct name with
    | _, _, .none => .none
    | _, _, .some same => .some ⟨form, _, same, rfl⟩

theorem isClear_shapedFields (names : List String) (distinct : (members.map Prod.fst).Nodup) :
    isClear names (shapedFields form members) = true := by
  have same : (shapedFields form members).map Prod.fst = members.map Prod.fst := by
    rw [shapedFields, List.map_map]
    rfl
  rw [isClear, same, decide_eq_true_eq]
  exact distinct.filter _

theorem mapM_fieldName (names : List String) :
    (shapedMembers form members).mapM (fun (name, value) => (fieldName? names name).map (·, value)) =
      some (shapedFields form members) :=
  mapM_shapedMembers fun _ _ => rfl

theorem fieldsIn?_shapedMembers (names : List String) (distinct : (members.map Prod.fst).Nodup) :
    fieldsIn? names (shapedMembers form members) = some (shapedFields form members) := by
  rw [fieldsIn?, mapM_fieldName]
  simp [isClear_shapedFields names distinct]

theorem filter_isNamed_shapedMembers (names : List String) :
    (shapedMembers form members).filter (isNamed names) =
      shapedMembers form (members.filter (names.contains ·.1)) :=
  filter_shapedMembers names.contains fun _ _ => rfl

theorem fields?_of_arranged (form : Form) (names : List String) {json : Json}
    (same : Arranged (.object members) json) (distinct : (members.map Prod.fst).Nodup) :
    ∃ fields, (shaped form json).fields? names = some fields ∧ fields.Hold members := by
  obtain _ | _ | _ | _ | _ | placed := same
  exact ⟨_, fieldsIn?_shapedMembers names (placed.names.nodup_iff.mpr distinct),
    hold_shapedFields placed distinct⟩

theorem settleMembers?_unnamed (names : List String) :
    settleMembers? ((shapedMembers form members).filter (!isNamed names ·)) =
      some (shapedMembers .settled (members.filter (!names.contains ·.1))) := by
  rw [filter_shapedMembers (!names.contains ·) fun _ _ => rfl, settleMembers?_shapedMembers]

theorem fieldsNamed?_shapedMembers (names : List String)
    (distinct : (members.map Prod.fst).Nodup) :
    fieldsNamed? names (shapedMembers form members) =
      some (shapedFields form (members.filter (names.contains ·.1))) := by
  rw [fieldsNamed?, filter_isNamed_shapedMembers]
  exact fieldsIn?_shapedMembers names (distinct.sublist (List.filter_sublist.map _))

theorem filter_outer {p : String × Json → Bool} {first between last : List (String × Json)}
    (outer : ∀ member ∈ first ++ last, p member = true)
    (inner : ∀ member ∈ between, p member = false) :
    (first ++ between ++ last).filter p = first ++ last := by
  rw [List.forall_mem_append] at outer
  rw [List.filter_append, List.filter_append, List.filter_eq_self.mpr outer.1,
    List.filter_eq_self.mpr outer.2, List.filter_eq_nil_iff.mpr (by simpa using inner),
    List.append_nil]

theorem filter_between {p : String × Json → Bool} {first between last : List (String × Json)}
    (outer : ∀ member ∈ first ++ last, p member = false)
    (inner : ∀ member ∈ between, p member = true) :
    (first ++ between ++ last).filter p = between := by
  rw [List.forall_mem_append] at outer
  rw [List.filter_append, List.filter_append, List.filter_eq_self.mpr inner,
    List.filter_eq_nil_iff.mpr fun member listed => Bool.not_eq_true _ ▸ outer.1 member listed,
    List.filter_eq_nil_iff.mpr fun member listed => Bool.not_eq_true _ ▸ outer.2 member listed,
    List.nil_append, List.append_nil]

theorem mapM_keptName :
    (shapedMembers form members).mapM (fun (name, value) => (keptName? name).map (·, value)) =
      some (shapedMembers form members) := by
  have same := congrArg some (shapedMembers_eq_map form members).symm
  exact Eq.trans (mapM_shapedMembers fun _ _ => by rfl) same

theorem openFields?_of_arranged (form : Form) (names : List String)
    {first between last : List (String × Json)} {json : Json}
    (same : Arranged (.object (first ++ between ++ last)) json)
    (own : ∀ name ∈ (first ++ last).map Prod.fst, name ∈ names)
    (foreign : ∀ name ∈ between.map Prod.fst, name ∉ names)
    (distinct : ((first ++ last).map Prod.fst).Nodup)
    (distinctBetween : (between.map Prod.fst).Nodup) :
    ∃ fields rest, (shaped form json).openFields? names = some (fields, rest) ∧
      fields.Hold (first ++ last) ∧ Kept between rest := by
  obtain _ | _ | _ | _ | _ | @⟨_, arranged, placed⟩ := same
  have all : ((first ++ between ++ last).map Prod.fst).Nodup := by
    have order : (first ++ between ++ last).Perm ((first ++ last) ++ between) := by
      rw [List.append_assoc, List.append_assoc]
      exact List.perm_append_comm.append_left first
    rw [(order.map Prod.fst).nodup_iff, List.map_append]
    refine distinct.append distinctBetween fun name named betweenNamed => ?_
    exact foreign name betweenNamed (own name named)
  have apart := placed.names.nodup_iff.mpr all
  have ownMember : ∀ member ∈ first ++ last, names.contains member.1 = true :=
    fun _ listed => List.contains_iff_mem.mpr (own _ (List.mem_map_of_mem listed))
  have foreignMember : ∀ member ∈ between, names.contains member.1 = false := fun _ listed =>
    Bool.eq_false_iff.mpr fun there =>
      foreign _ (List.mem_map_of_mem listed) (List.contains_iff_mem.mp there)
  have named := filter_outer ownMember foreignMember
  have unnamed := filter_between (p := (!names.contains ·.1)) (by simpa using ownMember)
    (by simpa using foreignMember)
  refine ⟨shapedFields form (arranged.filter (names.contains ·.1)),
    shapedMembers .settled (arranged.filter (!names.contains ·.1)), ?_, ?_, ?_⟩
  · simp only [shaped, openFields?, untagged, mapM_keptName, Option.bind_eq_bind, Option.bind_some,
      fieldsNamed?_shapedMembers names apart, settleMembers?_unnamed, Option.pure_def]
  · have placed := placed.filter names.contains
    rw [named] at placed
    exact hold_shapedFields placed distinct
  · have placed := placed.filter (!names.contains ·)
    rw [unnamed] at placed
    exact ⟨_, placed, rfl⟩

theorem entries?_shapedMembers (form : Form) (members : List (String × Json)) :
    (record form (shapedMembers form members)).entries? = some (shapedFields form members) := by
  simp only [entries?, untagged]
  exact mapM_shapedMembers fun _ _ => rfl

theorem only?_of_arranged (form : Form) {name : String} {value json : Json}
    (same : Arranged (.object [(name, value)]) json) :
    ∃ found, only? (shaped form json) = some (name, shaped form found) ∧ Arranged value found := by
  obtain _ | _ | _ | _ | _ | @⟨_, arranged, placed⟩ := same
  have alone : arranged.length = 1 := by simpa using placed.names.length_eq
  obtain ⟨⟨other, found⟩, rfl⟩ := List.length_eq_one_iff.mp alone
  have named : other = name := by simpa using placed.names
  have place := placed.lookup (by simp) name
  rw [named, List.lookup_cons_self, List.lookup_cons_self] at place
  obtain ⟨same⟩ := place
  exact ⟨found, by rw [named]; rfl, same⟩

theorem fieldsNamed?_of_kept (names : List String) {rest : Members} (kept : Kept members rest)
    (distinct : (members.map Prod.fst).Nodup) :
    ∃ fields, fieldsNamed? names rest = some fields ∧
      fields.Hold (members.filter (names.contains ·.1)) := by
  obtain ⟨arranged, placed, rfl⟩ := kept
  exact ⟨_, fieldsNamed?_shapedMembers names (placed.names.nodup_iff.mpr distinct),
    hold_shapedFields (placed.filter names.contains) (distinct.sublist (List.filter_sublist.map _))⟩

theorem filter_of_lookup {name : String} {value : Json} (distinct : (members.map Prod.fst).Nodup)
    (found : members.lookup name = some value) :
    members.filter ([name].contains ·.1) = [(name, value)] := by
  obtain ⟨before, after, rfl, absent⟩ := List.lookup_eq_some_iff.mp found
  rw [List.map_append, List.map_cons, List.nodup_middle, List.nodup_cons] at distinct
  have fresh : ∀ member ∈ before ++ after, ¬ [name].contains member.1 = true := by
    intro member listed here
    have same : member.1 = name := by simpa using here
    have again : member.1 ∈ (before ++ after).map Prod.fst := List.mem_map_of_mem listed
    rw [same, List.map_append] at again
    exact distinct.1 again
  rw [List.filter_append, List.filter_cons_of_pos (by simp),
    List.filter_eq_nil_iff.mpr fun member listed => fresh member (List.mem_append_left _ listed),
    List.filter_eq_nil_iff.mpr fun member listed => fresh member (List.mem_append_right _ listed)]
  rfl

end

namespace Fields.Hold

variable {α : Type} {write : α → Json} {read : Document → Option α}
variable {fields : Fields} {members : List (String × Json)} {name : String}

theorem lookup_of_some (hold : fields.Hold members) {value : Json}
    (found : members.lookup name = some value) :
    ∃ form json, Arranged value json ∧ fields.lookup name = some (shaped form json) := by
  have same := hold name
  rw [found] at same
  generalize read : fields.lookup name = place at same
  obtain ⟨form, json, arranged, rfl⟩ := same
  exact ⟨form, json, arranged, rfl⟩

theorem lookup_of_none (hold : fields.Hold members) (absent : members.lookup name = none) :
    fields.lookup name = none := by
  have same := hold name
  rw [absent] at same
  generalize read : fields.lookup name = place at same
  cases same
  rfl

theorem required? (hold : fields.Hold members) {x : α}
    (found : members.lookup name = some (write x)) (reads : Reads write read) :
    fields.required? name read = some x := by
  obtain ⟨form, json, arranged, place⟩ := hold.lookup_of_some found
  rw [Fields.required?, place, Option.bind_some, reads x form json arranged]

theorem given? (hold : fields.Hold members) {x absent : α}
    (found : members.lookup name = some (write x)) (reads : Reads write read) :
    fields.given? name absent read = some x := by
  obtain ⟨form, json, arranged, place⟩ := hold.lookup_of_some found
  rw [Fields.given?, place]
  exact reads x form json arranged

theorem perhaps? (hold : fields.Hold members) {x : Option α}
    (found : members.lookup name = x.map write) (reads : Reads write read)
    (present : ∀ x, write x ≠ .null) : fields.perhaps? name read = some x := by
  cases x with
  | none => rw [Fields.perhaps?, Fields.given?, hold.lookup_of_none found]
  | some x =>
    obtain ⟨form, json, arranged, place⟩ := hold.lookup_of_some found
    rw [Fields.perhaps?, Fields.given?, place]
    exact reads.optional present arranged

end Fields.Hold

theorem mapM_settled {form : Form} {arranged : List (String × Json)} {tag word : String}
    (apart : (arranged.map Prod.fst).Nodup) (place : arranged.lookup tag = some (.string word)) :
    (shapedMembers form arranged).mapM (fun (name, value) => do
      let name ← name.settle?
      let value ← if isNamed [tag] (name, value) then some value else value.settle?
      return (name, value)) = some (shapedMembers .settled arranged) := by
  rw [shapedMembers_eq_map .settled]
  refine mapM_shapedMembers fun member listed => ?_
  simp only [settle?, Option.bind_eq_bind, Option.bind_some, Option.pure_def]
  split
  next here =>
    have alone : member ∈ arranged.filter ([tag].contains ·.1) :=
      List.mem_filter.mpr ⟨listed, here⟩
    rw [filter_of_lookup apart place, List.mem_singleton] at alone
    rw [alone]
    rfl
  next => rw [settle?_shaped, Option.bind_some]

section

variable {α : Type} {tag : String} {word : α → String} {members : α → List (String × Json)}
variable {variants : List (String × Variant α)}

/-- Each value is of the variant that its word names, and is read from its own members. -/
def Tells (word : α → String) (members : α → List (String × Json))
    (variants : List (String × Variant α)) : Prop :=
  ∀ x, ∃ variant, variants.lookup (word x) = some variant ∧
    ∀ fields : Fields, fields.Hold (members x) →
      variant.read (if variant.fieldNames = [] then [] else fields) = some x

theorem Tells.variantIn? (tells : Tells word members variants) {x : α} {rest : Members}
    (tagged : (members x).lookup tag = some (.string (word x)))
    (distinct : ((members x).map Prod.fst).Nodup) (kept : Kept (members x) rest)
    (which : Document → Option (Variant α)) (names : ∀ s, which (text s) = variants.lookup s) :
    variantIn? tag which rest = some x := by
  obtain ⟨arranged, placed, rfl⟩ := kept
  obtain ⟨variant, found, read⟩ := tells x
  have apart := placed.names.nodup_iff.mpr distinct
  have place := placed.lookup_string distinct tagged
  have restored := read (shapedFields .settled arranged) (hold_shapedFields placed distinct)
  rw [Document.variantIn?, filter_isNamed_shapedMembers, filter_of_lookup apart place]
  simp only [shapedMembers, shaped, names, found, Option.bind_eq_bind, Option.bind_some]
  split
  next nothing => simpa only [nothing, ↓reduceIte] using restored
  next nonempty =>
    rw [fieldsIn?_shapedMembers _ apart, Option.bind_some]
    simpa only [nonempty, ↓reduceIte] using restored

theorem Tells.reads_tagged (tells : Tells word members variants)
    (tagged : ∀ x, (members x).lookup tag = some (.string (word x)))
    (distinct : ∀ x, ((members x).map Prod.fst).Nodup) :
    Reads (fun x => .object (members x)) (tagged? tag variants) := by
  rintro x form _ (_ | _ | _ | _ | _ | @⟨_, arranged, placed⟩)
  have apart := placed.names.nodup_iff.mpr (distinct x)
  have place := placed.lookup_string (distinct x) (tagged x)
  have read := tells.variantIn? (tagged x) (distinct x) ⟨arranged, placed, rfl⟩ (variant? variants)
    fun _ => rfl
  exact (congrArg (Option.bind · (Document.variantIn? tag (variant? variants)))
    (mapM_settled apart place)).trans read

end

theorem Reads.entries {α : Type} {write : α → Json} {read : Document → Option α}
    (reads : Reads write read) (form : Form) {pairs : List (String × α)}
    {arranged : List (String × Json)}
    (placed : Placed Arranged (pairs.map fun pair => (pair.1, write pair.2)) arranged) :
    ∃ again, again.Perm pairs ∧
      (shapedFields form arranged).mapM (fun (name, value) => (read value).map (name, ·)) =
        some again := by
  generalize written : pairs.map (fun pair => (pair.1, write pair.2)) = members at placed
  induction placed generalizing pairs with
  | nil => exact ⟨[], by simp_all, rfl⟩
  | @cons name value found rest before after same others ih =>
    obtain ⟨⟨_, x⟩, others, rfl, head, tail⟩ := List.map_eq_cons_iff.mp written
    cases head
    obtain ⟨again, perm, reread⟩ := ih tail
    rw [shapedFields, List.map_append, List.mapM_append] at reread
    obtain ⟨first, readFirst, reread⟩ := Option.bind_eq_some_iff.mp reread
    obtain ⟨second, readSecond, reread⟩ := Option.bind_eq_some_iff.mp reread
    cases reread
    refine ⟨first ++ (_, x) :: second, List.perm_middle.trans (.cons _ perm), ?_⟩
    rw [shapedFields, List.map_append, List.mapM_append, List.map_cons, List.mapM_cons, readFirst,
      readSecond]
    simp only [reads x form found same, Option.map_some, Option.bind_eq_bind, Option.bind_some,
      Option.pure_def]

end Document

end Runbook

import Runbook.Json.Path
import Runbook.Proofs.Results
import Runbook.Proofs.Text.Items
import Runbook.Proofs.Text.Numerals

namespace Runbook.Json

def brackets (keys : List String) : List Char :=
  keys.flatMap fun key => '[' :: key.toList ++ [']']

structure IsKey (key : String) : Prop where
  filled : key ≠ ""
  closed : ']' ∉ key.toList
  undotted : '.' ∉ key.toList

structure IsName (name : String) : Prop where
  filled : name ≠ ""
  unopened : '[' ∉ name.toList
  undotted : '.' ∉ name.toList

inductive PathPart : List Char → List String → Prop where
  | named {name : String} {keys : List String} (isName : IsName name)
      (inBrackets : ∀ key ∈ keys, IsKey key) :
    PathPart (name.toList ++ brackets keys) (name :: keys)
  | unnamed {keys : List String} (nonempty : keys ≠ []) (inBrackets : ∀ key ∈ keys, IsKey key) :
    PathPart (brackets keys) keys

inductive Path : String → List String → Prop where
  | empty : Path "" []
  | parts {parts : List (List Char)} {keys : List (List String)} (nonempty : parts ≠ [])
      (each : List.Forall₂ PathPart parts keys) :
    Path (.ofList (['.'].intercalate parts)) keys.flatten

theorem brackets_cons (key : String) (keys : List String) :
    brackets (key :: keys) = '[' :: (key.toList ++ ']' :: brackets keys) := by
  simp [brackets]

theorem mem_brackets {c : Char} {keys : List String} (h : c ∈ brackets keys) :
    c = '[' ∨ c = ']' ∨ ∃ key ∈ keys, c ∈ key.toList := by
  obtain ⟨key, member, h⟩ := List.mem_flatMap.mp h
  rcases List.mem_append.mp h with h | last
  · rcases List.mem_cons.mp h with first | within
    · exact .inl first
    · exact .inr (.inr ⟨key, member, within⟩)
  · exact .inr (.inl (List.mem_singleton.mp last))

theorem bracketed?_brackets {keys : List String}
    (each : ∀ key ∈ keys, key ≠ "" ∧ ']' ∉ key.toList) :
    bracketed? (brackets keys) = some keys := by
  induction keys with
  | nil => rw [brackets, List.flatMap_nil, bracketed?]
  | cons key keys ih =>
    obtain ⟨⟨filled, closed⟩, others⟩ := List.forall_mem_cons.mp each
    have cut : Text.cut? ']' (key.toList ++ ']' :: brackets keys) =
        some (key.toList, brackets keys) := Text.cut?_eq_some_of_notMem closed
    obtain ⟨c, name, same⟩ : ∃ c name, key.toList = c :: name :=
      List.exists_cons_of_ne_nil fun nothing => filled (String.toList_eq_nil_iff.mp nothing)
    rw [same] at cut
    rw [brackets_cons, same, bracketed?]
    split
    next first rest found =>
      rw [cut] at found
      cases found
      rw [ih others, Option.map_some, ← same, String.ofList_toList]
    next nothing => exact absurd cut (nothing _ _ _)

theorem eq_brackets_of_bracketed? {s : List Char} {keys : List String}
    (h : bracketed? s = some keys) :
    s = brackets keys ∧ ∀ key ∈ keys, key ≠ "" ∧ ']' ∉ key.toList := by
  fun_induction bracketed? s generalizing keys with
  | case1 =>
    cases h
    exact ⟨rfl, by simp⟩
  | case2 s c key rest found ih =>
    obtain ⟨others, read, rfl⟩ := Option.map_eq_some_iff.mp h
    obtain ⟨rfl, each⟩ := ih read
    obtain ⟨whole, closed⟩ := Text.eq_append_of_cut? found
    refine ⟨by rw [brackets_cons, String.toList_ofList, whole], ?_⟩
    refine List.forall_mem_cons.mpr ⟨⟨by simp, ?_⟩, each⟩
    rw [String.toList_ofList]
    exact closed
  | case3 => cases h
  | case4 => cases h

theorem PathPart.undotted {part : List Char} {keys : List String} (h : PathPart part keys) :
    '.' ∉ part := by
  have inside {keys : List String} (each : ∀ key ∈ keys, IsKey key) : '.' ∉ brackets keys := by
    intro dot
    rcases mem_brackets dot with opening | closing | ⟨key, member, within⟩
    · exact absurd opening (by decide)
    · exact absurd closing (by decide)
    · exact (each key member).undotted within
  cases h with
  | named isName inBrackets =>
    intro dot
    rcases List.mem_append.mp dot with first | behind
    · exact isName.undotted first
    · exact inside inBrackets behind
  | unnamed nonempty inBrackets => exact inside inBrackets

theorem PathPart.ne_nil {part : List Char} {keys : List String} (h : PathPart part keys) :
    part ≠ [] := by
  cases h with
  | named isName _ =>
    intro nothing
    exact isName.filled (String.toList_eq_nil_iff.mp (List.append_eq_nil_iff.mp nothing).1)
  | @unnamed keys nonempty _ =>
    obtain ⟨key, keys, rfl⟩ := List.exists_cons_of_ne_nil nonempty
    rw [brackets_cons]
    exact List.cons_ne_nil _ _

theorem takeWhile_brackets (keys : List String) :
    (brackets keys).takeWhile (· != '[') = [] ∧
      (brackets keys).dropWhile (· != '[') = brackets keys := by
  cases keys with
  | nil => exact ⟨rfl, rfl⟩
  | cons key keys =>
    rw [brackets_cons]
    exact ⟨rfl, rfl⟩

theorem cut_at_brackets {name : List Char} (unopened : '[' ∉ name) (keys : List String) :
    (name ++ brackets keys).takeWhile (· != '[') = name ∧
      (name ++ brackets keys).dropWhile (· != '[') = brackets keys := by
  have other : ∀ c ∈ name, (c != '[') = true := fun c member =>
    bne_iff_ne.mpr fun same => unopened (same ▸ member)
  obtain ⟨taken, left⟩ := takeWhile_brackets keys
  rw [List.takeWhile_append_of_pos other, List.dropWhile_append_of_pos other, taken, left,
    List.append_nil]
  exact ⟨rfl, rfl⟩

theorem partKeys?_eq {part name brackets : List Char} (taken : part.takeWhile (· != '[') = name)
    (left : part.dropWhile (· != '[') = brackets) :
    partKeys? part =
      if name = [] then if brackets = [] then none else bracketed? brackets
      else (bracketed? brackets).map (.ofList name :: ·) := by
  rw [partKeys?, taken, left]
  cases name with
  | nil =>
    cases brackets with
    | nil => rfl
    | cons c rest => rfl
  | cons c name => rfl

theorem partKeys?_of_pathPart {part : List Char} {keys : List String} (h : PathPart part keys) :
    partKeys? part = some keys := by
  have read {keys : List String} (each : ∀ key ∈ keys, IsKey key) :
      bracketed? (brackets keys) = some keys :=
    bracketed?_brackets fun key member => ⟨(each key member).filled, (each key member).closed⟩
  cases h with
  | @named name keys isName inBrackets =>
    obtain ⟨taken, left⟩ := cut_at_brackets isName.unopened keys
    have filled : name.toList ≠ [] := fun nothing =>
      isName.filled (String.toList_eq_nil_iff.mp nothing)
    rw [partKeys?_eq taken left, if_neg filled, read inBrackets, Option.map_some,
      String.ofList_toList]
  | unnamed nonempty inBrackets =>
    obtain ⟨taken, left⟩ := takeWhile_brackets keys
    have filled : brackets keys ≠ [] := (PathPart.unnamed nonempty inBrackets).ne_nil
    rw [partKeys?_eq taken left, if_pos rfl, if_neg filled]
    exact read inBrackets

theorem pathPart_of_partKeys? {part : List Char} {keys : List String} (undotted : '.' ∉ part)
    (h : partKeys? part = some keys) : PathPart part keys := by
  have whole := List.takeWhile_append_dropWhile (p := (· != '[')) (l := part)
  have inside {s : List Char} {keys : List String} (read : bracketed? s = some keys)
      (free : '.' ∉ s) : s = brackets keys ∧ ∀ key ∈ keys, IsKey key := by
    obtain ⟨rfl, each⟩ := eq_brackets_of_bracketed? read
    refine ⟨rfl, fun key member => ⟨(each key member).1, (each key member).2, fun dot => free ?_⟩⟩
    exact List.mem_flatMap.mpr ⟨key, member, by simp [dot]⟩
  rw [partKeys?_eq rfl rfl] at h
  generalize taken : part.takeWhile (· != '[') = name at h whole
  generalize part.dropWhile (· != '[') = behind at h whole
  rw [← whole] at undotted ⊢
  have free : '.' ∉ name ∧ '.' ∉ behind := by
    simpa only [List.mem_append, not_or] using undotted
  split at h
  next nothing =>
    split at h
    next => cases h
    next nonempty =>
      obtain ⟨rfl, each⟩ := inside h free.2
      have keyed : keys ≠ [] := by
        rintro rfl
        exact nonempty rfl
      rw [nothing, List.nil_append]
      exact .unnamed keyed each
  next named =>
    obtain ⟨others, read, rfl⟩ := Option.map_eq_some_iff.mp h
    obtain ⟨rfl, each⟩ := inside read free.2
    have unopened : '[' ∉ name := by
      intro opening
      rw [← taken] at opening
      simpa using List.all_eq_true.mp List.all_takeWhile '[' opening
    have isName : IsName (String.ofList name) := {
      filled := by simpa using named
      unopened := by simpa using unopened
      undotted := by simpa using free.1 }
    have part := PathPart.named isName each
    rwa [String.toList_ofList] at part

theorem pathKeys?_eq_some_iff {path : String} {keys : List String} :
    pathKeys? path = some keys ↔ Path path keys := by
  constructor
  · intro h
    unfold pathKeys? at h
    split at h
    next empty =>
      cases h
      rw [empty]
      exact .empty
    next =>
      obtain ⟨lists, read, rfl⟩ := Option.map_eq_some_iff.mp h
      obtain ⟨nonempty, undotted, whole⟩ :=
        Text.pieces_eq_iff.mp (Eq.refl (Text.pieces '.' path.toList))
      have each : List.Forall₂ PathPart (Text.pieces '.' path.toList) lists := by
        have both := (List.forall₂_and_left _ _).mpr ⟨undotted, mapM_eq_some_iff_forall₂.mp read⟩
        exact both.imp fun _ _ h => pathPart_of_partKeys? h.1 h.2
      have spelled := Path.parts nonempty each
      rwa [whole, String.ofList_toList] at spelled
  · intro h
    cases h with
    | empty => rfl
    | @parts parts lists nonempty each =>
      have undotted : ∀ part ∈ parts, '.' ∉ part := by
        intro part member
        obtain ⟨keys, _, spells⟩ := exists_of_forall₂_left each member
        exact spells.undotted
      have cut : Text.pieces '.' (['.'].intercalate parts) = parts :=
        Text.pieces_eq_iff.mpr ⟨nonempty, undotted, rfl⟩
      have filled : String.ofList (['.'].intercalate parts) ≠ "" := by
        intro empty
        have nothing : ['.'].intercalate parts = [] := by simpa using empty
        rw [nothing] at cut
        obtain rfl : parts = [[]] := cut.symm
        obtain ⟨keys, _, spells⟩ := exists_of_forall₂_left each (List.mem_singleton_self [])
        exact spells.ne_nil rfl
      have read : parts.mapM partKeys? = some lists :=
        mapM_eq_some_iff_forall₂.mpr (each.imp fun _ _ => partKeys?_of_pathPart)
      rw [pathKeys?, if_neg filled, String.toList_ofList, cut, read, Option.map_some]

/-- The value at the end of keys: each is the name of a member, or counts the items of an array. -/
inductive Reaches : Json → List String → Json → Prop where
  | here (json : Json) : Reaches json [] json
  | member {members : List (String × Json)} {key : String} {rest : List String}
      {value target : Json} (found : member key members = some value)
      (onward : Reaches value rest target) :
    Reaches (.object members) (key :: rest) target
  | item {items : List Json} {key : String} {i : Nat} {rest : List String} {value target : Json}
      (counts : Text.Counts key.toList i) (word : i < 2 ^ 64) (found : items[i]? = some value)
      (onward : Reaches value rest target) :
    Reaches (.array items) (key :: rest) target

theorem walk?_eq_some_iff {json target : Json} {keys : List String} :
    json.walk? keys = some target ↔ Reaches json keys target := by
  induction keys generalizing json with
  | nil =>
    constructor
    · intro h
      cases h
      exact .here _
    · intro h
      cases h
      rfl
  | cons key rest ih =>
    have onward : json.walk? (key :: rest) = (json.step? key).bind (·.walk? rest) := rfl
    rw [onward, Option.bind_eq_some_iff]
    constructor
    · rintro ⟨value, h, walked⟩
      cases json with
      | object members => exact .member h (ih.mp walked)
      | array items =>
        obtain ⟨i, read, found⟩ := Option.bind_eq_some_iff.mp h
        obtain ⟨counts, word⟩ := Text.unsignedWord?_eq_some_iff.mp read
        exact .item counts word found (ih.mp walked)
      | _ => cases h
    · intro h
      cases h with
      | member found onward => exact ⟨_, found, ih.mpr onward⟩
      | item counts word found onward =>
        have read := Text.unsignedWord?_eq_some_iff.mpr ⟨counts, word⟩
        exact ⟨_, Option.bind_eq_some_iff.mpr ⟨_, read, found⟩, ih.mpr onward⟩

theorem lookup?_eq_some_iff {json target : Json} {path : String} :
    json.lookup? path = some target ↔ ∃ keys, Path path keys ∧ Reaches json keys target := by
  rw [lookup?, Option.bind_eq_some_iff]
  exact exists_congr fun keys => and_congr pathKeys?_eq_some_iff walk?_eq_some_iff

structure PlainName where
  text : String
  filled : text ≠ ""
  undotted : '.' ∉ text.toList
  unopened : '[' ∉ text.toList
  closed : ']' ∉ text.toList

/-- One step into a value: to the member of a name, or to the item of a number. -/
inductive Step where
  | member (name : PlainName)
  | item (i : UInt64)

def Step.text : Step → String
  | member name => name.text
  | item i => Text.decimal i.toNat

inductive Lies : Json → List Step → Json → Prop where
  | here (json : Json) : Lies json [] json
  | member {members : List (String × Json)} {name : PlainName} {rest : List Step}
      {value target : Json} (found : Json.member name.text members = some value)
      (onward : Lies value rest target) :
    Lies (.object members) (.member name :: rest) target
  | item {items : List Json} {i : UInt64} {rest : List Step} {value target : Json}
      (found : items[i.toNat]? = some value) (onward : Lies value rest target) :
    Lies (.array items) (.item i :: rest) target

/-- The spellings of steps that go on from a place: each behind a dot or in brackets. -/
inductive Onward : List Step → List Char → Prop where
  | done : Onward [] []
  | dotted (step : Step) {rest : List Step} {s : List Char} (onward : Onward rest s) :
    Onward (step :: rest) ('.' :: (step.text.toList ++ s))
  | bracketed (step : Step) {rest : List Step} {s : List Char} (onward : Onward rest s) :
    Onward (step :: rest) ('[' :: (step.text.toList ++ ']' :: s))

/-- The spellings of a place: the first step is written alone or in brackets. -/
inductive Spelled : List Step → String → Prop where
  | whole : Spelled [] ""
  | named (step : Step) {rest : List Step} {s : List Char} (onward : Onward rest s) :
    Spelled (step :: rest) (.ofList (step.text.toList ++ s))
  | bracketed (step : Step) {rest : List Step} {s : List Char} (onward : Onward rest s) :
    Spelled (step :: rest) (.ofList ('[' :: (step.text.toList ++ ']' :: s)))

theorem Lies.reaches {json target : Json} {place : List Step} (lies : Lies json place target) :
    Reaches json (place.map Step.text) target := by
  induction lies with
  | here json => exact .here json
  | member found _ ih => exact .member found ih
  | @item _ i _ _ _ found _ ih =>
    have counts : Text.Counts (Step.item i).text.toList i.toNat := by
      rw [Step.text, Text.decimal, String.toList_ofList]
      exact Text.counts_toDigits i.toNat
    exact .item counts i.toNat_lt found ih

theorem notMem_decimal {c : Char} (other : Text.isDigit c = false) (n : Nat) :
    c ∉ (Text.decimal n).toList := by
  rw [Text.decimal, String.toList_ofList]
  intro member
  rw [Text.isDigit_of_mem_toDigits member] at other
  cases other

theorem Step.isKey (step : Step) : IsKey step.text := by
  cases step with
  | member name => exact ⟨name.filled, name.closed, name.undotted⟩
  | item i =>
    refine ⟨?_, notMem_decimal (by decide) _, notMem_decimal (by decide) _⟩
    simp [Step.text, Text.decimal, Nat.toDigits_ne_nil]

theorem Step.isName (step : Step) : IsName step.text := by
  refine ⟨step.isKey.filled, ?_, step.isKey.undotted⟩
  cases step with
  | member name => exact name.unopened
  | item i => exact notMem_decimal (by decide) _

theorem intercalate_cons (separator : Char) (part : List Char) (parts : List (List Char)) :
    [separator].intercalate (part :: parts) = part ++ parts.flatMap (separator :: ·) := by
  induction parts generalizing part with
  | nil => simp
  | cons next parts ih =>
    rw [List.flatMap_cons, List.cons_append, ← ih next]
    simp [List.intercalate]

theorem Onward.exists_parts {steps : List Step} {s : List Char} (onward : Onward steps s) :
    ∃ keys parts lists, s = brackets keys ++ parts.flatMap ('.' :: ·) ∧
      (∀ key ∈ keys, IsKey key) ∧ List.Forall₂ PathPart parts lists ∧
      steps.map Step.text = keys ++ lists.flatten := by
  induction onward with
  | done => exact ⟨[], [], [], rfl, by simp, .nil, rfl⟩
  | dotted step _ ih =>
    obtain ⟨keys, parts, lists, rfl, inBrackets, each, told⟩ := ih
    have part := PathPart.named step.isName inBrackets
    refine ⟨[], (step.text.toList ++ brackets keys) :: parts, (step.text :: keys) :: lists, ?_,
      by simp, .cons part each, ?_⟩
    · simp [brackets]
    · simp [told]
  | bracketed step _ ih =>
    obtain ⟨keys, parts, lists, rfl, inBrackets, each, told⟩ := ih
    refine ⟨step.text :: keys, parts, lists, ?_,
      List.forall_mem_cons.mpr ⟨step.isKey, inBrackets⟩, each, ?_⟩
    · simp [brackets]
    · simp [told]

theorem Spelled.path {place : List Step} {path : String} (spelled : Spelled place path) :
    Path path (place.map Step.text) := by
  cases spelled with
  | whole => exact .empty
  | named step onward =>
    obtain ⟨keys, parts, lists, rfl, inBrackets, each, told⟩ := onward.exists_parts
    have part := PathPart.named step.isName inBrackets
    have spelled := Path.parts (List.cons_ne_nil _ _) (.cons part each)
    rw [intercalate_cons, List.append_assoc] at spelled
    simpa [told] using spelled
  | bracketed step onward =>
    obtain ⟨keys, parts, lists, rfl, inBrackets, each, told⟩ := onward.exists_parts
    have part := PathPart.unnamed (List.cons_ne_nil step.text keys)
      (List.forall_mem_cons.mpr ⟨step.isKey, inBrackets⟩)
    have spelled := Path.parts (List.cons_ne_nil _ _) (.cons part each)
    rw [intercalate_cons, brackets_cons] at spelled
    simpa [told] using spelled

/-- A path is read exactly if the grammar has it, and then as the keys that the grammar tells. It
leads to the value at the end of these keys, and every spelling of a place leads to the value
there. -/
theorem paths_exact :
    (∀ path keys, pathKeys? path = some keys ↔ Path path keys) ∧
    (∀ path, pathKeys? path = none ↔ ¬∃ keys, Path path keys) ∧
    (∀ (json : Json) path target, json.lookup? path = some target ↔
      ∃ keys, Path path keys ∧ Reaches json keys target) ∧
    ∀ (json : Json) place path target, Lies json place target → Spelled place path →
      json.lookup? path = some target := by
  refine ⟨fun path keys => pathKeys?_eq_some_iff, fun path => ?_,
    fun json path target => lookup?_eq_some_iff, ?_⟩
  · simp only [← pathKeys?_eq_some_iff]
    exact Option.eq_none_iff_forall_ne_some.trans not_exists.symm
  · intro json place path target lies spelled
    exact lookup?_eq_some_iff.mpr ⟨place.map Step.text, spelled.path, lies.reaches⟩

/-- An item and its member are told in brackets or behind dots. -/
example : ["items[1].id", "items.1.id", "[items][1][id]"].all (fun path =>
    (object [("items", array [null, object [("id", integer 8)]])]).lookup? path matches
      some (number (.integer 8))) = true := by
  decide +kernel

end Runbook.Json

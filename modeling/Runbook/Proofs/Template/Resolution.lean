import Runbook.Proofs.Batch
import Runbook.Proofs.Results

namespace Runbook

/-- The text that a segment comes to. -/
inductive Segment.Gives (values : Values) : Segment → String → Prop where
  | literal (text : String) : Gives values (.literal text) text
  | placeholder {name value : String} (known : values[name]? = some value) :
      Gives values (.placeholder name) value

namespace Template

def absent (t : Template) (values : Values) : List String :=
  t.placeholders.filter fun name => values[name]?.isNone

theorem missing_eq (t : Template) (values : Values) :
    t.missing values = (t.absent values).eraseDups :=
  Unresolved.add_nil _

theorem missing_eq_nil_iff_absent {values : Values} {t : Template} :
    t.missing values = [] ↔ t.absent values = [] :=
  Unresolved.add_nil_eq_nil_iff

theorem missing_eq_nil_iff {values : Values} {t : Template} :
    t.missing values = [] ↔ ∀ name ∈ t.placeholders, ∃ value, values[name]? = some value := by
  rw [missing, Unresolved.add_nil_eq_nil_iff, List.filter_eq_nil_iff]
  refine forall₂_congr fun name _ => ?_
  cases values[name]? <;> simp

theorem mem_placeholders {t : Template} {name : String} :
    name ∈ t.placeholders ↔ .placeholder name ∈ t.segments := by
  rw [placeholders, List.mem_filterMap]
  constructor
  · rintro ⟨s, member, named⟩
    cases s with
    | literal text => cases named
    | placeholder other =>
      cases named
      exact member
  · intro member
    exact ⟨_, member, rfl⟩

theorem exists_resolve_iff {values : Values} {t : Template} :
    (∃ text, t.resolve values = .ok text) ↔
      ∀ name ∈ t.placeholders, ∃ value, values[name]? = some value := by
  rw [← missing_eq_nil_iff]
  constructor
  · rintro ⟨text, h⟩
    exact (resolve_eq_ok_iff.mp h).1
  · intro complete
    exact ⟨_, resolve_batchText complete⟩

theorem gives_iff {values : Values} {s : Segment} {text : String} :
    s.Gives values text ↔
      (∀ name, s = .placeholder name → ∃ value, values[name]? = some value) ∧
        segmentText values s = text := by
  constructor
  · intro h
    cases h with
    | literal => exact ⟨fun name h => (by cases h), rfl⟩
    | placeholder known =>
      refine ⟨fun other same => ?_, by simp [segmentText, known]⟩
      cases same
      exact ⟨text, known⟩
  · rintro ⟨complete, rfl⟩
    cases s with
    | literal text => exact .literal text
    | placeholder name =>
      obtain ⟨value, known⟩ := complete name rfl
      simpa [segmentText, known] using Segment.Gives.placeholder known

/-- Each literal and each value stands in the text as it is, in the order of the segments. -/
theorem resolve_eq_ok_iff_gives {values : Values} {t : Template} {text : String} :
    t.resolve values = .ok text ↔
      ∃ parts, List.Forall₂ (Segment.Gives values) t.segments parts ∧ String.join parts = text := by
  have pointwise : Segment.Gives values = fun s part =>
      (∀ name, s = .placeholder name → ∃ value, values[name]? = some value) ∧
        segmentText values s = part := by
    ext s part
    exact gives_iff
  rw [resolve_eq_ok_iff, missing_eq_nil_iff, pointwise]
  simp only [forall₂_and_map_iff, mem_placeholders]
  constructor
  · rintro ⟨complete, rfl⟩
    exact ⟨_, ⟨fun s hs name same => complete name (same ▸ hs), rfl⟩, rfl⟩
  · rintro ⟨_, ⟨complete, rfl⟩, rfl⟩
    exact ⟨fun name hn => complete _ hn name rfl, rfl⟩

theorem resolve_eq_error_iff {values : Values} {t : Template} {e : Unresolved} :
    t.resolve values = .error e ↔
      t.absent values ≠ [] ∧ FirstAppearances (t.absent values) e.names := by
  rw [firstAppearances_iff, ← missing_eq, ne_eq, ← missing_eq_nil_iff_absent]
  unfold resolve
  split
  next h => simp [h]
  next h =>
    have nonempty : t.missing values ≠ [] := h
    obtain ⟨names⟩ := e
    simp [nonempty, eq_comm]

theorem resolve_eq_ok_iff_batchText {values : Values} {t : Template} {text : String} :
    t.resolve values = .ok text ↔ t.absent values = [] ∧ t.batchText values = text := by
  rw [← missing_eq_nil_iff_absent]
  constructor
  · intro h
    exact ⟨(resolve_eq_ok_iff.mp h).1, batchText_of_resolve h⟩
  · rintro ⟨complete, rfl⟩
    exact resolve_batchText complete

theorem resolve_congr {first second : Values} {t : Template}
    (same : ∀ name ∈ t.placeholders, first[name]? = second[name]?) :
    t.resolve first = t.resolve second := by
  have absent : t.missing first = t.missing second := by
    rw [missing, missing, List.filter_congr fun name hn => by rw [same name hn]]
  have filled : t.fill first = t.fill second := by
    rw [fill, fill, List.map_congr_left fun s hs => ?_]
    cases s with
    | literal text => rfl
    | placeholder name => rw [segmentText, segmentText, same name (mem_placeholders.mpr hs)]
  rw [resolve, resolve, absent, filled]

end Template

namespace Batch

inductive Item where
  | source (text : String)
  | template (t : Template)
  | pairs (list : List Pair)

inductive Result where
  | text (text : String)
  | pairs (list : List Pair)
  deriving DecidableEq

def pairAlone (values : Values) (pair : Pair) : Pair :=
  ⟨pair.key, (Template.parse pair.value).batchText values⟩

namespace Item

def resolve (values : Values) : Item → StateM Batch Result
  | source text => .text <$> Batch.resolve values text
  | template t => .text <$> render values t
  | pairs list => .pairs <$> resolvePairs values list

def templates : Item → List Template
  | source text => [.parse text]
  | template t => [t]
  | pairs list => list.map fun pair => .parse pair.value

/-- What the item comes to if nothing else is in the batch. -/
def alone (values : Values) : Item → Result
  | source text => .text ((Template.parse text).batchText values)
  | template t => .text (t.batchText values)
  | pairs list => .pairs (list.map (pairAlone values))

end Item

theorem yields_resolvePairs (values : Values) (pairs : List Pair) :
    Yields (resolvePairs values pairs) (pairs.map (pairAlone values))
      ((pairs.map fun pair => Template.parse pair.value).flatMap fun t => t.missing values) := by
  have each : ∀ pair : Pair, Yields
      (do return ⟨pair.key, ← resolve values pair.value⟩ : StateM Batch Pair)
      (pairAlone values pair) ((Template.parse pair.value).missing values) := by
    intro pair
    have one := (yields_resolve values pair.value).map fun text => (⟨pair.key, text⟩ : Pair)
    rwa [map_eq_pure_bind] at one
  rw [List.flatMap_map]
  exact yields_mapM each pairs

theorem Item.yields (values : Values) (item : Item) :
    Yields (item.resolve values) (item.alone values)
      (item.templates.flatMap fun t => t.missing values) := by
  cases item with
  | source text =>
    rw [templates, List.flatMap_singleton]
    exact (yields_resolve values text).map Result.text
  | template t =>
    rw [templates, List.flatMap_singleton]
    exact (yields_render values t).map Result.text
  | pairs list => exact (yields_resolvePairs values list).map Result.pairs

theorem run_start {β : Type} {activity : StateM Batch β} {result : β} {values : Values}
    {templates : List Template}
    (h : Yields activity result (templates.flatMap fun t => t.missing values)) :
    activity.run start = (result, ⟨(templates.flatMap fun t => t.absent values).eraseDups⟩) := by
  rw [h start]
  simp only [start, Unresolved.add_nil, Template.missing_eq, eraseDups_flatMap_eraseDups]

theorem yields_items (values : Values) (items : List Item) :
    Yields (items.mapM (Item.resolve values)) (items.map (Item.alone values))
      ((items.flatMap Item.templates).flatMap fun t => t.missing values) := by
  rw [List.flatMap_assoc]
  exact yields_mapM (Item.yields values) items

theorem finish_eq_error_iff {names : List String} {e : Unresolved} :
    finish ⟨names⟩ = .error e ↔ names ≠ [] ∧ e.names = names := by
  obtain ⟨others⟩ := e
  unfold finish
  split
  next h => simp [show names = [] from h]
  next h => simp [show names ≠ [] from h, eq_comm]

end Batch

namespace Template

theorem exists_error_iff {values : Values} {t : Template} :
    (∃ e, t.resolve values = .error e) ↔ t.absent values ≠ [] := by
  constructor
  · rintro ⟨e, h⟩
    exact (resolve_eq_error_iff.mp h).1
  · intro nonempty
    exact ⟨⟨_⟩, resolve_eq_error_iff.mpr ⟨nonempty, firstAppearances_iff.mpr rfl⟩⟩

theorem flatMap_absent_ne_nil_iff {values : Values} {templates : List Template} :
    (templates.flatMap fun t => t.absent values) ≠ [] ↔
      ∃ t ∈ templates, ∃ e, t.resolve values = .error e := by
  simp only [ne_eq, List.flatMap_eq_nil_iff, exists_error_iff, not_forall, exists_prop]

end Template

/-- Resolution succeeds exactly when every placeholder has a value, and then gives the literals and
the values as they are; else it tells all that is missing. A batch comes to what its items come to
one by one, and fails exactly when a template in it does, with all that is missing in any. -/
theorem resolution_fails_closed (values : Values) :
    (∀ (t : Template) (text : String), t.resolve values = .ok text ↔
      ∃ parts, List.Forall₂ (Segment.Gives values) t.segments parts ∧ String.join parts = text) ∧
    (∀ t : Template, (∃ text, t.resolve values = .ok text) ↔
      ∀ name ∈ t.placeholders, ∃ value, values[name]? = some value) ∧
    (∀ (t : Template) (e : Unresolved), t.resolve values = .error e ↔
      t.absent values ≠ [] ∧ FirstAppearances (t.absent values) e.names) ∧
    (∀ (t : Template) (other : Values),
      (∀ name ∈ t.placeholders, values[name]? = other[name]?) →
        t.resolve values = t.resolve other) ∧
    ∀ items : List Batch.Item,
      let run := (items.mapM (Batch.Item.resolve values)).run Batch.start
      let templates := items.flatMap Batch.Item.templates
      run.1 = items.map (Batch.Item.alone values) ∧
      (run.2.hasMissing = true ↔ ∃ t ∈ templates, ∃ e, t.resolve values = .error e) ∧
      ((∃ e, run.2.finish = .error e) ↔ ∃ t ∈ templates, ∃ e, t.resolve values = .error e) ∧
      ∀ e, run.2.finish = .error e →
        FirstAppearances (templates.flatMap fun t => t.absent values) e.names := by
  refine ⟨fun t text => Template.resolve_eq_ok_iff_gives, fun t => Template.exists_resolve_iff,
    fun t e => Template.resolve_eq_error_iff, fun t other => Template.resolve_congr,
    fun items => ?_⟩
  simp only [Batch.run_start (Batch.yields_items values items),
    ← Template.flatMap_absent_ne_nil_iff]
  generalize (items.flatMap Batch.Item.templates).flatMap (·.absent values) = absent
  have nonempty : absent.eraseDups ≠ [] ↔ absent ≠ [] := eraseDups_eq_nil_iff.not
  refine ⟨trivial, ?_, ?_, fun e he => ?_⟩
  · rw [← nonempty]
    simp [Batch.hasMissing]
  · rw [← nonempty]
    constructor
    · rintro ⟨e, h⟩
      exact (Batch.finish_eq_error_iff.mp h).1
    · intro missed
      exact ⟨⟨_⟩, Batch.finish_eq_error_iff.mpr ⟨missed, rfl⟩⟩
  · exact firstAppearances_iff.mpr (Batch.finish_eq_error_iff.mp he).2

/-- A value that looks like a placeholder is not read again. -/
example : (Template.parse "\x7bfirst\x7d\x7bsecond\x7d").resolve
    (.ofPairs [("first", "\x7bsecond\x7d"), ("second", "x")]) = .ok "\x7bsecond\x7dx" := by
  cbv

end Runbook

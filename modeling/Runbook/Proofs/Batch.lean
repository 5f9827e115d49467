import Runbook.Proofs.FirstAppearance

namespace Runbook

namespace Unresolved

theorem add_append (names first second : List String) :
    add names (first ++ second) = add (add names first) second := by
  simp [add, List.foldl_append]

theorem add_nil_eq_nil_iff {names : List String} : add [] names = [] ↔ names = [] := by
  rw [add_nil, eraseDups_eq_nil_iff]

end Unresolved

namespace Template

def batchText (values : Values) (t : Template) : String :=
  match t.resolve values with
  | .ok text => text
  | .error _ => ""

theorem resolve_eq_ok_iff {values : Values} {t : Template} {text : String} :
    t.resolve values = .ok text ↔ t.missing values = [] ∧ t.fill values = text := by
  unfold resolve
  split
  next h => simp [h]
  next h =>
    have missed : t.missing values ≠ [] := h
    simp [missed]

theorem batchText_of_resolve {values : Values} {t : Template} {text : String}
    (h : t.resolve values = .ok text) : t.batchText values = text := by
  simp [batchText, h]

theorem resolve_batchText {values : Values} {t : Template} (h : t.missing values = []) :
    t.resolve values = .ok (t.batchText values) := by
  have hr : t.resolve values = .ok (t.fill values) := resolve_eq_ok_iff.mpr ⟨h, rfl⟩
  rw [batchText_of_resolve hr, hr]

end Template

namespace Batch

variable {α β γ : Type}

/-- The activity gives a result and adds missing names, whatever was missing before. -/
def Yields (activity : StateM Batch β) (result : β) (names : List String) : Prop :=
  ∀ batch : Batch, activity.run batch = (result, ⟨Unresolved.add batch.missing names⟩)

theorem yields_pure (result : β) : Yields (pure result) result [] :=
  fun _ => rfl

theorem Yields.bind {first : StateM Batch β} {second : β → StateM Batch γ} {b : β} {c : γ}
    {names more : List String} (hb : Yields first b names) (hc : Yields (second b) c more) :
    Yields (first >>= second) c (names ++ more) := by
  intro batch
  rw [StateT.run_bind, hb batch]
  change (second b).run _ = _
  rw [hc, Unresolved.add_append]

theorem yields_render (values : Values) (t : Template) :
    Yields (render values t) (t.batchText values) (t.missing values) := by
  intro batch
  change render values t batch = _
  unfold render Template.batchText Template.resolve
  split
  next text h =>
    split at h
    next hm => cases h; simp [hm, Unresolved.add]
    next => cases h
  next e h =>
    split at h
    next => cases h
    next => cases h; rfl

theorem yields_resolve (values : Values) (source : String) :
    Yields (resolve values source) ((Template.parse source).batchText values)
      ((Template.parse source).missing values) :=
  yields_render values (.parse source)

theorem Yields.map {activity : StateM Batch β} {b : β} {names : List String} (g : β → γ)
    (h : Yields activity b names) : Yields (g <$> activity) (g b) names := by
  intro batch
  rw [StateT.run_map, h batch]
  rfl

theorem yields_mapM {f : α → StateM Batch β} {g : α → β} {names : α → List String}
    (h : ∀ a, Yields (f a) (g a) (names a)) (xs : List α) :
    Yields (xs.mapM f) (xs.map g) (xs.flatMap names) := by
  induction xs with
  | nil => exact yields_pure []
  | cons x xs ih =>
    have tail : Yields (List.cons (g x) <$> xs.mapM f) (g x :: xs.map g) (xs.flatMap names) :=
      ih.map _
    rw [List.mapM_cons, List.map_cons, List.flatMap_cons]
    refine Yields.bind (h x) ?_
    rwa [map_eq_pure_bind] at tail

theorem yields_mapM_option {f : α → StateM Batch β} {g : α → β} {names : α → List String}
    (h : ∀ a, Yields (f a) (g a) (names a)) (x : Option α) :
    Yields (x.mapM f) (x.map g) (x.toList.flatMap names) := by
  cases x with
  | none => exact yields_pure none
  | some a => simpa using (h a).map some

theorem finish_eq_ok_iff {activity : StateM Batch β} {result : β} {names : List String}
    (h : Yields activity result names) :
    (activity.run start).2.finish = .ok () ↔ names = [] := by
  rw [h start, ← Unresolved.add_nil_eq_nil_iff]
  change finish ⟨Unresolved.add [] names⟩ = .ok () ↔ _
  unfold finish
  split
  next hn => simpa using hn
  next hn => simpa using hn

end Batch

end Runbook

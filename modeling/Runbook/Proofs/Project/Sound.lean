import Mathlib.Data.List.Nodup
import Runbook.Project

namespace Runbook

theorem repeated_eq_nil_iff {seen ids : List String} :
    repeated seen ids = [] ↔ ids.Nodup ∧ ∀ id ∈ ids, id ∉ seen := by
  induction ids generalizing seen with
  | nil => simp [repeated]
  | cons id ids ih =>
    rw [repeated]
    split
    next known => simp [known]
    next new =>
      rw [ih, List.nodup_cons, List.forall_mem_cons]
      simp only [List.mem_cons, not_or]
      constructor
      · rintro ⟨distinct, others⟩
        exact ⟨⟨fun member => (others id member).1 rfl, distinct⟩, new,
          fun other member => (others other member).2⟩
      · rintro ⟨⟨once, distinct⟩, _, others⟩
        refine ⟨distinct, fun other member => ⟨fun same => ?_, others other member⟩⟩
        exact once (same ▸ member)

def NoErrors (findings : List Finding) : Prop := ∀ finding ∈ findings, finding.isError = false

theorem noErrors_append {first second : List Finding} :
    NoErrors (first ++ second) ↔ NoErrors first ∧ NoErrors second :=
  List.forall_mem_append

theorem noErrors_flatMap {α : Type} {xs : List α} {findings : α → List Finding} :
    NoErrors (xs.flatMap findings) ↔ ∀ x ∈ xs, NoErrors (findings x) := by
  simp only [NoErrors, List.mem_flatMap]
  constructor
  · intro h x hx finding hf
    exact h finding ⟨x, hx, hf⟩
  · rintro h finding ⟨x, hx, hf⟩
    exact h x hx finding hf

theorem noErrors_map_iff {α : Type} {xs : List α} {report : α → Finding}
    (errors : ∀ x, (report x).isError = true) : NoErrors (xs.map report) ↔ xs = [] := by
  cases xs with
  | nil => simp [NoErrors]
  | cons x xs => simp [NoErrors, errors]

theorem Board.noErrors_bindingFindings_iff {location : String} {board : Board} :
    NoErrors (bindingFindings location board) ↔
      ∀ binding ∈ board.bindings, board.bindingProblems binding = [] := by
  rw [bindingFindings, noErrors_flatMap]
  constructor
  · intro h binding member
    obtain ⟨i, at_⟩ := List.mem_iff_getElem?.mp member
    have indexed : (binding, i) ∈ board.bindings.zipIdx :=
      List.mk_mem_zipIdx_iff_getElem?.mpr at_
    exact (noErrors_map_iff fun _ => rfl).mp (h _ indexed)
  · intro h indexed member
    have declared : indexed.1 ∈ board.bindings :=
      List.mem_of_getElem? (List.mem_zipIdx_iff_getElem?.mp member)
    exact (noErrors_map_iff fun _ => rfl).mpr (h indexed.1 declared)

theorem Board.sources_of_noErrors {location : String} {board : Board}
    (h : NoErrors (bindingFindings location board)) :
    ∀ binding ∈ board.bindings, board.sourceProblems binding.source = [] := by
  intro binding member
  exact (List.append_eq_nil_iff.mp (noErrors_bindingFindings_iff.mp h binding member)).2

theorem exists_of_found {α : Type} {xs : List α} {key : α → String} {id : String}
    (found : ¬(xs.find? fun x => key x == id).isNone = true) : ∃ x ∈ xs, key x = id := by
  simpa using found

/-- What a dashboard refers to is there. -/
structure Board.Grounded (project : Project) (board : Board) : Prop where
  prepared : ∀ id, board.prepareAppId = some id → ∃ app ∈ project.apps, app.id = id
  targets : ∀ action ∈ board.actions, ∃ app ∈ project.apps, app.id = action.appId
  loadInputs : ∀ binding ∈ board.bindings, ∀ id, binding.source = .loadInput id →
    ∃ field ∈ board.loadInputs, field.id = id
  actionInputs : ∀ binding ∈ board.bindings, ∀ id, binding.source = .actionInput id →
    ∃ field ∈ board.actionInputs, field.id = id

/-- The resource is that of the app, and the app can be compiled for it. -/
structure App.Placed (app : App) (resource : Resource) : Prop where
  id : resource.id = app.resourceId
  suits : app.operation.suits resource.connection = true
  method : ∀ http, app.operation = .http http → http.method ≠ none

structure Project.Sound (project : Project) : Prop where
  resources : (project.resources.map (·.id)).Nodup
  apps : (project.apps.map (·.id)).Nodup
  placed : ∀ app ∈ project.apps, ∃ resource ∈ project.resources, app.Placed resource
  grounded : ∀ dashboard ∈ project.dashboards, dashboard.board.Grounded project

namespace Project

variable {project : Project}

theorem nodup_of_noErrors {kind : String} {ids : List String}
    (h : NoErrors (duplicateIds kind ids)) : ids.Nodup :=
  (repeated_eq_nil_iff.mp ((noErrors_map_iff fun _ => rfl).mp h)).1

theorem placed_of_noErrors {app : App} (h : NoErrors (project.appFindings app)) :
    ∃ resource ∈ project.resources, app.Placed resource := by
  have nothing := (noErrors_map_iff fun _ => rfl).mp (noErrors_append.mp h).2
  unfold resourceProblems at nothing
  split at nothing
  next => cases nothing
  next resource found =>
    obtain ⟨suits, method⟩ := List.append_eq_nil_iff.mp nothing
    refine ⟨resource, List.mem_of_find?_eq_some found, by simpa using List.find?_some found, ?_, ?_⟩
    · by_contra other
      simp [other] at suits
    · rintro ⟨_, _, _, _, _, _⟩ operation rfl
      simp [operation] at method

theorem grounded_of_noErrors {dashboard : Dashboard}
    (h : NoErrors (project.dashboardFindings dashboard)) :
    dashboard.board.Grounded project := by
  obtain ⟨checks, missing⟩ := noErrors_append.mp h
  obtain ⟨checks, _⟩ := noErrors_append.mp checks
  obtain ⟨_, bindings⟩ := noErrors_append.mp checks
  obtain ⟨prepare, targets⟩ := noErrors_append.mp missing
  have sources := Board.sources_of_noErrors bindings
  exact {
    prepared := fun id prepared => by
      rw [prepared] at prepare
      dsimp only at prepare
      split at prepare
      next => simp [NoErrors, Finding.isError, Finding.error] at prepare
      next found => exact exists_of_found found
    targets := fun action member => by
      have nothing := List.filter_eq_nil_iff.mp ((noErrors_map_iff fun _ => rfl).mp targets)
      exact exists_of_found (nothing action member)
    loadInputs := fun binding member id source => by
      have known := sources binding member
      rw [source, Board.sourceProblems, ite_eq_right_iff] at known
      exact exists_of_found fun missing => List.cons_ne_nil _ _ (known missing)
    actionInputs := fun binding member id source => by
      have known := sources binding member
      rw [source, Board.sourceProblems, ite_eq_right_iff] at known
      exact exists_of_found fun missing => List.cons_ne_nil _ _ (known missing) }

theorem sound_of_check (h : NoErrors project.check) : project.Sound := by
  obtain ⟨h, dashboards⟩ := noErrors_append.mp h
  obtain ⟨h, apps⟩ := noErrors_append.mp h
  obtain ⟨h, _⟩ := noErrors_append.mp h
  obtain ⟨resourceIds, appIds⟩ := noErrors_append.mp h
  exact {
    resources := nodup_of_noErrors resourceIds
    apps := nodup_of_noErrors appIds
    placed := fun app member => placed_of_noErrors (noErrors_flatMap.mp apps app member)
    grounded := fun dashboard member =>
      grounded_of_noErrors (noErrors_flatMap.mp dashboards dashboard member) }

end Project

end Runbook

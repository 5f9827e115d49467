import Mathlib.Data.List.Perm.Basic
import Runbook.Dashboard
import Runbook.Proofs.FirstAppearance

namespace Runbook

def Action.isIn (name : String) (action : Action) : Bool :=
  action.group = some name || (action.group = none && name = "default")

theorem Action.isIn_iff {name : String} {action : Action} :
    action.isIn name = true ↔ action.groupName = name := by
  unfold isIn groupName defaultGroup
  cases action.group <;> simp [eq_comm]

namespace Layout

/-- The groups of a layout share out the actions. -/
structure Shares (layout : Layout) (actions : List Action) : Prop where
  /-- Each name is that of one group, and the groups come in the order of their first actions. -/
  names : FirstAppearances (actions.map Action.groupName) (layout.groups.map Group.name)
  ids : ∀ group ∈ layout.groups,
    group.actionIds = (actions.filter (Action.isIn group.name)).map Action.id
  filled : ∀ group ∈ layout.groups, group.actionIds ≠ []
  /-- Nothing is lost, and nothing comes twice that was there once. -/
  all : (layout.groups.flatMap Group.actionIds).Perm (actions.map Action.id)
  /-- The actions without a group of their own share one with those that name it. -/
  together : (∃ action ∈ actions, action.group = none ∨ action.group = some "default") →
    ∃ group ∈ layout.groups, group.name = "default" ∧ group.actionIds =
      (actions.filter fun action => action.group = none ∨ action.group = some "default").map
        Action.id

variable {action : Action} {actions : List Action} {groups : List Group} {group : Group}

theorem map_name_place : (place action groups).map Group.name =
    if action.groupName ∈ groups.map Group.name then groups.map Group.name
    else groups.map Group.name ++ [action.groupName] := by
  induction groups with
  | nil => simp [place]
  | cons group groups ih =>
    rw [place]
    by_cases here : group.name = action.groupName
    · simp [here]
    · rw [if_neg here, List.map_cons, List.map_cons, ih]
      by_cases behind : action.groupName ∈ groups.map Group.name
      · rw [if_pos behind, if_pos (List.mem_cons_of_mem _ behind)]
      · have absent : action.groupName ∉ group.name :: groups.map Group.name := by
          rw [List.mem_cons, not_or]
          exact ⟨fun same => here same.symm, behind⟩
        rw [if_neg behind, if_neg absent, List.cons_append]

theorem flatMap_place_perm : ((place action groups).flatMap Group.actionIds).Perm
    (groups.flatMap Group.actionIds ++ [action.id]) := by
  induction groups with
  | nil => exact .refl _
  | cons group groups ih =>
    rw [place]
    split
    next here =>
      rw [List.flatMap_cons, List.flatMap_cons, List.append_assoc, List.append_assoc]
      exact List.perm_append_comm.append_left group.actionIds
    next other =>
      rw [List.flatMap_cons, List.flatMap_cons, List.append_assoc]
      exact ih.append_left group.actionIds

/-- Where an action is placed: the groups of other names stay as they are, that of its name gets its
id as the last, and if there is none it is added. -/
inductive Placed (action : Action) (groups : List Group) : Group → Prop where
  | other {group : Group} (member : group ∈ groups) (other : group.name ≠ action.groupName) :
    Placed action groups group
  | added {group : Group} (member : group ∈ groups) (here : group.name = action.groupName) :
    Placed action groups ⟨group.name, group.actionIds ++ [action.id]⟩
  | new (absent : action.groupName ∉ groups.map Group.name) :
    Placed action groups ⟨action.groupName, [action.id]⟩

theorem placed (distinct : (groups.map Group.name).Nodup) (h : group ∈ place action groups) :
    Placed action groups group := by
  induction groups with
  | nil =>
    obtain rfl := List.mem_singleton.mp h
    exact .new (by simp)
  | cons first groups ih =>
    rw [List.map_cons, List.nodup_cons] at distinct
    rw [place] at h
    split at h
    next here =>
      rcases List.mem_cons.mp h with rfl | behind
      · exact .added List.mem_cons_self here
      · refine .other (List.mem_cons_of_mem _ behind) fun same => distinct.1 ?_
        rw [here, ← same]
        exact List.mem_map_of_mem behind
    next other =>
      rcases List.mem_cons.mp h with rfl | behind
      · exact .other List.mem_cons_self other
      · cases ih distinct.2 behind with
        | other member different => exact .other (List.mem_cons_of_mem _ member) different
        | added member here => exact .added (List.mem_cons_of_mem _ member) here
        | new absent =>
          refine .new fun known => ?_
          rcases List.mem_cons.mp known with same | known
          · exact other same.symm
          · exact absent known

theorem ofActions_concat : (ofActions (actions ++ [action])).groups =
    place action (ofActions actions).groups := by
  simp [ofActions]

theorem names_ofActions (actions : List Action) :
    (ofActions actions).groups.map Group.name = (actions.map Action.groupName).eraseDups := by
  induction actions using List.reverseRecOn with
  | nil => rfl
  | append_singleton actions action ih =>
    rw [ofActions_concat, map_name_place, ih, List.map_append, List.map_singleton,
      eraseDups_concat]
    simp only [List.mem_eraseDups]

theorem flatMap_ofActions_perm (actions : List Action) :
    ((ofActions actions).groups.flatMap Group.actionIds).Perm (actions.map Action.id) := by
  induction actions using List.reverseRecOn with
  | nil => exact .refl _
  | append_singleton actions action ih =>
    rw [ofActions_concat, List.map_append, List.map_singleton]
    exact flatMap_place_perm.trans (ih.append_right [action.id])

theorem ids_ofActions (actions : List Action) : ∀ group ∈ (ofActions actions).groups,
    group.actionIds = (actions.filter (Action.isIn group.name)).map Action.id := by
  induction actions using List.reverseRecOn with
  | nil => simp [ofActions]
  | append_singleton actions action ih =>
    intro group shown
    have names := names_ofActions actions
    have distinct : ((ofActions actions).groups.map Group.name).Nodup :=
      names ▸ nodup_eraseDups _
    rw [ofActions_concat] at shown
    rw [List.filter_append, List.map_append]
    cases placed distinct shown with
    | other member other =>
      have outside : ¬ action.isIn group.name = true := fun inside =>
        other (Action.isIn_iff.mp inside).symm
      rw [ih group member, List.filter_cons_of_neg outside, List.filter_nil, List.map_nil,
        List.append_nil]
    | @added old member here =>
      have inside : action.isIn old.name = true := Action.isIn_iff.mpr here.symm
      rw [ih old member, List.filter_cons_of_pos inside, List.filter_nil, List.map_singleton]
    | new absent =>
      have inside : action.isIn action.groupName = true := Action.isIn_iff.mpr rfl
      -- None of the earlier actions has the name, since each of their names is that of a group.
      have nothing : actions.filter (Action.isIn action.groupName) = [] := by
        apply List.filter_eq_nil_iff.mpr
        intro earlier known same
        rw [names, List.mem_eraseDups] at absent
        exact absent (List.mem_map.mpr ⟨earlier, known, Action.isIn_iff.mp same⟩)
      rw [nothing, List.filter_cons_of_pos inside, List.filter_nil, List.map_nil, List.nil_append,
        List.map_singleton]

theorem exists_isIn (member : group ∈ (ofActions actions).groups) :
    ∃ action ∈ actions, action.isIn group.name = true := by
  have name : group.name ∈ (ofActions actions).groups.map Group.name := List.mem_map_of_mem member
  rw [names_ofActions, List.mem_eraseDups] at name
  obtain ⟨action, known, same⟩ := List.mem_map.mp name
  exact ⟨action, known, Action.isIn_iff.mpr same⟩

theorem exists_group (known : action ∈ actions) :
    ∃ group ∈ (ofActions actions).groups, group.name = action.groupName := by
  have name : action.groupName ∈ (actions.map Action.groupName).eraseDups :=
    List.mem_eraseDups.mpr (List.mem_map_of_mem known)
  rw [← names_ofActions] at name
  exact List.mem_map.mp name

theorem isIn_default (action : Action) :
    action.isIn "default" = decide (action.group = none ∨ action.group = some "default") := by
  simp [Action.isIn, Bool.or_comm]

theorem shares_ofActions (actions : List Action) : (ofActions actions).Shares actions where
  names := firstAppearances_iff.mpr (names_ofActions actions)
  ids := ids_ofActions actions
  filled := by
    intro group member empty
    obtain ⟨action, known, inside⟩ := exists_isIn member
    rw [ids_ofActions actions group member, List.map_eq_nil_iff] at empty
    exact List.filter_eq_nil_iff.mp empty action known inside
  all := flatMap_ofActions_perm actions
  together := by
    rintro ⟨action, known, unnamed⟩
    have inside : action.isIn "default" = true := by
      rw [isIn_default]
      exact decide_eq_true unnamed
    obtain ⟨group, member, named⟩ := exists_group known
    have default : group.name = "default" := named.trans (Action.isIn_iff.mp inside)
    refine ⟨group, member, default, ?_⟩
    rw [ids_ofActions actions group member, default]
    simp only [← isIn_default]

theorem Shares.groups_eq {layout : Layout} (shares : layout.Shares actions) :
    layout.groups = (actions.map Action.groupName).eraseDups.map fun name =>
      ⟨name, (actions.filter (Action.isIn name)).map Action.id⟩ := by
  rw [← firstAppearances_iff.mp shares.names, List.map_map]
  refine (List.map_id _).symm.trans (List.map_congr_left fun group member => ?_)
  obtain ⟨name, ids⟩ := group
  exact congrArg (Group.mk name) (shares.ids _ member)

/-- The layout of actions is the only one that shares them out. -/
theorem shares_iff {layout : Layout} : layout.Shares actions ↔ layout = .ofActions actions := by
  constructor
  · intro shares
    obtain ⟨groups⟩ := layout
    exact congrArg Layout.mk (shares.groups_eq.trans (shares_ofActions actions).groups_eq.symm)
  · rintro rfl
    exact shares_ofActions actions

example : (ofActions ([("a", some "Billing"), ("b", none), ("c", some "Billing"),
      ("d", some "default")].map fun (id, group) =>
        ⟨id, "app", "", group, false, none, none, none, none⟩)).groups =
    [⟨"Billing", ["a", "c"]⟩, ⟨"default", ["b", "d"]⟩] := by decide

end Layout

end Runbook

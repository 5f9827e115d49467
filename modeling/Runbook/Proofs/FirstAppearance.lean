import Mathlib.Data.List.Induction
import Mathlib.Data.List.Nodup
import Runbook.Template

namespace Runbook

/-- The names that appear are listed, each once and in the order of their first appearance. -/
structure FirstAppearances (appearances names : List String) : Prop where
  members : ∀ name, name ∈ names ↔ name ∈ appearances
  once : names.Nodup
  order : names.Pairwise fun a b => appearances.idxOf a < appearances.idxOf b

theorem eraseDups_concat (seen : List String) (name : String) :
    (seen ++ [name]).eraseDups =
      if name ∈ seen then seen.eraseDups else seen.eraseDups ++ [name] := by
  rw [List.eraseDups_append]
  by_cases known : name ∈ seen
  · simp [known, List.removeAll]
  · simp [known, List.removeAll, List.eraseDups_cons]

theorem pairwise_eraseDups (names : List String) :
    names.eraseDups.Pairwise fun a b => names.idxOf a < names.idxOf b := by
  induction names using List.reverseRecOn with
  | nil => simp
  | append_singleton names name ih =>
    have kept : ∀ a ∈ names.eraseDups, (names ++ [name]).idxOf a = names.idxOf a :=
      fun a ha => List.idxOf_append_of_mem (List.mem_eraseDups.mp ha)
    have ordered : names.eraseDups.Pairwise fun a b =>
        (names ++ [name]).idxOf a < (names ++ [name]).idxOf b := by
      refine ih.imp_of_mem fun ha hb less => ?_
      rw [kept _ ha, kept _ hb]
      exact less
    rw [eraseDups_concat]
    split
    next => exact ordered
    next new =>
      apply List.pairwise_append.mpr
      refine ⟨ordered, by simp, fun a ha b hb => ?_⟩
      have last : b = name := by simpa using hb
      have before : names.idxOf a < names.length :=
        List.idxOf_lt_length_iff.mpr (List.mem_eraseDups.mp ha)
      rw [kept a ha, last, List.idxOf_append_of_notMem new]
      omega

theorem nodup_eraseDups (names : List String) : names.eraseDups.Nodup :=
  (pairwise_eraseDups names).imp fun less same => by
    rw [same] at less
    omega

theorem eraseDups_eq_nil_iff {names : List String} : names.eraseDups = [] ↔ names = [] := by
  cases names with
  | nil => simp
  | cons name names => simp [List.eraseDups_cons]

theorem eraseDups_filter (p : String → Bool) (names : List String) :
    (names.filter p).eraseDups = names.eraseDups.filter p := by
  induction names using List.reverseRecOn with
  | nil => simp
  | append_singleton names name ih =>
    rw [List.filter_append, eraseDups_concat]
    by_cases kept : p name = true
    · rw [List.filter_cons_of_pos kept, List.filter_nil, eraseDups_concat, ih]
      by_cases known : name ∈ names <;> simp [known, kept]
    · rw [List.filter_cons_of_neg kept, List.filter_nil, List.append_nil, ih]
      by_cases known : name ∈ names <;> simp [known, kept]

theorem idxOf_eraseDups_of_notMem {names : List String} {name : String} (new : name ∉ names)
    (more : List String) :
    (names ++ name :: more).eraseDups.idxOf name = names.eraseDups.length := by
  have absent : name ∉ names.eraseDups := fun h => new (List.mem_eraseDups.mp h)
  rw [List.append_cons, List.eraseDups_append, eraseDups_concat, if_neg new, List.append_assoc,
    List.idxOf_append_of_notMem absent]
  simp

theorem firstAppearances_iff {appearances names : List String} :
    FirstAppearances appearances names ↔ names = appearances.eraseDups := by
  constructor
  · intro h
    have same : names.Perm appearances.eraseDups :=
      (List.perm_ext_iff_of_nodup h.once (nodup_eraseDups appearances)).mpr fun name => by
        rw [h.members, List.mem_eraseDups]
    refine List.Perm.eq_of_pairwise (fun a b _ _ before after => ?_) h.order
      (pairwise_eraseDups appearances) same
    omega
  · rintro rfl
    exact ⟨fun name => List.mem_eraseDups, nodup_eraseDups _, pairwise_eraseDups _⟩

theorem eraseDups_append_eraseDups (first second : List String) :
    (first ++ second.eraseDups).eraseDups = (first ++ second).eraseDups := by
  induction second using List.reverseRecOn with
  | nil => simp
  | append_singleton second name ih =>
    rw [eraseDups_concat, ← List.append_assoc, eraseDups_concat, ← ih]
    by_cases known : name ∈ second
    · simp [known]
    · simp only [known, if_false, ← List.append_assoc, eraseDups_concat, List.mem_append,
        List.mem_eraseDups, or_false]

theorem eraseDups_eraseDups_append (first second : List String) :
    (first.eraseDups ++ second).eraseDups = (first ++ second).eraseDups := by
  induction second using List.reverseRecOn with
  | nil => simpa using eraseDups_append_eraseDups [] first
  | append_singleton second name ih =>
    rw [← List.append_assoc, ← List.append_assoc, eraseDups_concat, eraseDups_concat, ih]
    simp only [List.mem_append, List.mem_eraseDups]

theorem eraseDups_flatMap_eraseDups {α : Type} (parts : List α) (names : α → List String) :
    (parts.flatMap fun part => (names part).eraseDups).eraseDups =
      (parts.flatMap names).eraseDups := by
  induction parts with
  | nil => rfl
  | cons part parts ih =>
    rw [List.flatMap_cons, List.flatMap_cons, eraseDups_eraseDups_append,
      ← eraseDups_append_eraseDups, ih, eraseDups_append_eraseDups]

namespace Unresolved

theorem add_eraseDups (seen more : List String) :
    add seen.eraseDups more = (seen ++ more).eraseDups := by
  induction more generalizing seen with
  | nil => simp [add]
  | cons name more ih =>
    have next : add seen.eraseDups (name :: more) = add (seen ++ [name]).eraseDups more := by
      rw [eraseDups_concat, add, List.foldl_cons, add]
      simp only [List.mem_eraseDups]
    rw [next, ih, List.append_assoc, List.singleton_append]

theorem add_nil (names : List String) : add [] names = names.eraseDups := by
  simpa using add_eraseDups [] names

end Unresolved

end Runbook

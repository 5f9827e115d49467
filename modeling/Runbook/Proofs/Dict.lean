import Mathlib.Data.List.Induction
import Mathlib.Data.List.Nodup
import Runbook.Dict

namespace Runbook.Dict

variable {α : Type}

theorem getElem?_foldl_insert_of_mem {pairs : List (String × α)} {key : String} {value : α}
    (distinct : (pairs.map Prod.fst).Nodup) (h : (key, value) ∈ pairs) (map : Dict α) :
    (pairs.foldl (fun map pair => map.insert pair.1 pair.2) map)[key]? = some value := by
  induction pairs using List.reverseRecOn with
  | nil => cases h
  | append_singleton pairs pair ih =>
    rw [List.map_append, List.map_singleton, List.nodup_append] at distinct
    obtain ⟨distinct, _, apart⟩ := distinct
    rw [List.foldl_append, List.foldl_cons, List.foldl_nil, Std.ExtTreeMap.getElem?_insert]
    rcases List.mem_append.mp h with h | h
    · have other : pair.1 ≠ key := fun same =>
        apart key (List.mem_map_of_mem h) pair.1 (List.mem_singleton_self _) same.symm
      rw [if_neg (by simpa using other)]
      exact ih distinct h
    · obtain rfl := List.mem_singleton.mp h
      simp

theorem getElem?_ofPairs_of_mem {pairs : List (String × α)} {key : String} {value : α}
    (distinct : (pairs.map Prod.fst).Nodup) (h : (key, value) ∈ pairs) :
    (ofPairs pairs)[key]? = some value :=
  getElem?_foldl_insert_of_mem distinct h ∅

/-- Pairs are put in from the first on, so that of those of one key the last is found. -/
theorem getElem?_foldl_insert (pairs : List (String × α)) (map : Dict α) (key : String) :
    (pairs.foldl (fun map pair => map.insert pair.1 pair.2) map)[key]? =
      (pairs.reverse.lookup key).or map[key]? := by
  induction pairs using List.reverseRecOn with
  | nil => rfl
  | append_singleton pairs pair ih =>
    rw [List.foldl_append, List.foldl_cons, List.foldl_nil, Std.ExtTreeMap.getElem?_insert,
      List.reverse_append, List.reverse_singleton, List.singleton_append, List.lookup_cons, ih]
    by_cases same : pair.1 = key
    · simp [same]
    · have other : (key == pair.1) = false := by simpa using fun h => same h.symm
      simp [same, other]

theorem getElem?_ofPairs (pairs : List (String × α)) (key : String) :
    (ofPairs pairs)[key]? = pairs.reverse.lookup key := by
  have found := getElem?_foldl_insert pairs ∅ key
  rw [Std.ExtTreeMap.getElem?_empty, Option.or_none] at found
  exact found

theorem getElem?_ofPairs_eq_some_iff {pairs : List (String × α)} {key : String} {value : α} :
    (ofPairs pairs)[key]? = some value ↔ ∃ before after,
      pairs = before ++ (key, value) :: after ∧ ∀ pair ∈ after, pair.1 ≠ key := by
  rw [getElem?_ofPairs, List.lookup_eq_some_iff]
  constructor
  · rintro ⟨after, before, parts, others⟩
    refine ⟨before.reverse, after.reverse, ?_, fun pair hp => ?_⟩
    · rw [← List.reverse_reverse pairs, parts]
      simp
    · have other := others pair (List.mem_reverse.mp hp)
      exact fun same => bne_iff_ne.mp other same.symm
  · rintro ⟨before, after, rfl, others⟩
    refine ⟨after.reverse, before.reverse, by simp, fun pair hp => ?_⟩
    exact bne_iff_ne.mpr fun same => others pair (List.mem_reverse.mp hp) same.symm

theorem mem_ofPairs {pairs : List (String × α)} {key : String} :
    key ∈ ofPairs pairs ↔ ∃ pair ∈ pairs, pair.1 = key := by
  induction pairs using List.reverseRecOn with
  | nil => simp
  | append_singleton pairs pair ih =>
    rw [ofPairs_append_singleton, Std.ExtTreeMap.mem_insert, ih, Std.compare_eq_iff_eq]
    simp [or_and_right, exists_or, or_comm]

theorem getElem?_ofPairs_of_nodup {pairs : List (String × α)}
    (distinct : (pairs.map Prod.fst).Nodup) (key : String) :
    (ofPairs pairs)[key]? = pairs.lookup key := by
  cases found : pairs.lookup key with
  | some value =>
    obtain ⟨before, after, parts, _⟩ := List.lookup_eq_some_iff.mp found
    exact getElem?_ofPairs_of_mem distinct (by simp [parts])
  | none =>
    refine Std.ExtTreeMap.getElem?_eq_none fun present => ?_
    obtain ⟨pair, listed, same⟩ := mem_ofPairs.mp present
    exact bne_iff_ne.mp (List.lookup_eq_none_iff.mp found pair listed) same.symm

theorem nodup_keys (map : Dict α) : (map.toList.map Prod.fst).Nodup := by
  have apart := Std.ExtTreeMap.distinct_keys_toList (t := map)
  rw [List.nodup_iff_pairwise_ne, List.pairwise_map]
  exact apart.imp fun different same => different (by rw [same]; exact Std.compare_self)

theorem getElem?_override_of_eq_some {first second : Dict α} {key : String} {value : α}
    (h : second[key]? = some value) : (first.override second)[key]? = some value := by
  have member : (key, value) ∈ second.toList := Std.ExtTreeMap.mem_toList_iff_getElem?_eq_some.mpr h
  exact getElem?_foldl_insert_of_mem (nodup_keys second) member first

theorem ofPairs_of_perm {map : Dict α} {pairs : List (String × α)} (perm : pairs.Perm map.toList) :
    ofPairs pairs = map := by
  have distinct : (pairs.map Prod.fst).Nodup := (perm.map Prod.fst).nodup_iff.mpr (nodup_keys map)
  refine Std.ExtTreeMap.ext_getElem? fun key => ?_
  cases found : map[key]? with
  | some value =>
    have member := Std.ExtTreeMap.mem_toList_iff_getElem?_eq_some.mpr found
    exact getElem?_ofPairs_of_mem distinct (perm.mem_iff.mpr member)
  | none =>
    refine Std.ExtTreeMap.getElem?_eq_none fun present => ?_
    obtain ⟨pair, listed, rfl⟩ := mem_ofPairs.mp present
    have value := Std.ExtTreeMap.mem_toList_iff_getElem?_eq_some.mp (perm.mem_iff.mp listed)
    rw [found] at value
    cases value

theorem toList_ofPairs_perm {pairs : List (String × α)} (distinct : (pairs.map Prod.fst).Nodup) :
    (ofPairs pairs).toList.Perm pairs := by
  have entries : (ofPairs pairs).toList.Nodup := (nodup_keys _).of_map Prod.fst
  refine (List.perm_ext_iff_of_nodup entries (distinct.of_map Prod.fst)).mpr fun pair => ?_
  obtain ⟨key, value⟩ := pair
  rw [Std.ExtTreeMap.mem_toList_iff_getElem?_eq_some]
  constructor
  · intro found
    obtain ⟨before, after, rfl, _⟩ := getElem?_ofPairs_eq_some_iff.mp found
    simp
  · exact getElem?_ofPairs_of_mem distinct

theorem getElem?_override (first second : Dict α) (key : String) :
    (first.override second)[key]? = second[key]?.or first[key]? := by
  have entries : second.toList.reverse.lookup key = second[key]? := by
    rw [← getElem?_ofPairs, ofPairs_of_perm (.refl second.toList)]
  rw [← entries]
  exact getElem?_foldl_insert second.toList first key

end Runbook.Dict

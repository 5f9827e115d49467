import Runbook.Limits
import Runbook.Proofs.Dict

namespace Runbook.RunInput

variable {limits : Limits} {earlier inputs : List RunInput} {input : RunInput}
  {values : Dict String} {e : RunInputError}

/-- The input has a title, and neither it nor the value is too long. -/
structure Fits (limits : Limits) (input : RunInput) : Prop where
  titled : 1 ≤ input.title.length
  title : input.title.length ≤ limits.inputTitleLength.toNat
  value : input.value.length ≤ limits.inputValueLength.toNat

structure Acceptable (limits : Limits) (inputs : List RunInput) : Prop where
  fits : ∀ input ∈ inputs, Fits limits input
  distinct : (inputs.map RunInput.title).Nodup

/-- The first fault of an input behind others: its title counts before its value, and its value
before the repetition of a title. -/
inductive Fault (limits : Limits) (earlier : List RunInput) (input : RunInput) :
    RunInputError → Prop where
  | title (untitled : input.title.length = 0 ∨
      limits.inputTitleLength.toNat < input.title.length) :
    Fault limits earlier input (.invalidTitle input.title limits.inputTitleLength.toNat)
  | value (titled : 1 ≤ input.title.length)
      (title : input.title.length ≤ limits.inputTitleLength.toNat)
      (long : limits.inputValueLength.toNat < input.value.length) :
    Fault limits earlier input (.valueTooLong input.title limits.inputValueLength.toNat)
  | repeated (fits : Fits limits input) (known : input.title ∈ earlier.map RunInput.title) :
    Fault limits earlier input (.duplicateTitle input.title)

def pair (input : RunInput) : String × String := (input.title, input.value)

/-- The inputs of a run are collected. -/
structure Collects (limits : Limits) (inputs : List RunInput) : Prop where
  accepted : (∃ values, collect limits inputs = .ok values) ↔ Acceptable limits inputs
  entries : ∀ values, collect limits inputs = .ok values →
    values.toList.Perm (inputs.map pair)
  reordered : ∀ other values, inputs.Perm other → collect limits inputs = .ok values →
    collect limits other = .ok values
  refused : ∀ e, collect limits inputs = .error e ↔ ∃ before input after,
    inputs = before ++ input :: after ∧ Acceptable limits before ∧ Fault limits before input e

theorem fits_or_fault (limits : Limits) (earlier : List RunInput) (input : RunInput) :
    (Fits limits input ∧ input.title ∉ earlier.map RunInput.title) ∨
      ∃ e, Fault limits earlier input e := by
  by_cases untitled :
      input.title.length = 0 ∨ limits.inputTitleLength.toNat < input.title.length
  · exact .inr ⟨_, .title untitled⟩
  have titled : 1 ≤ input.title.length := by omega
  have title : input.title.length ≤ limits.inputTitleLength.toNat := by omega
  by_cases long : limits.inputValueLength.toNat < input.value.length
  · exact .inr ⟨_, .value titled title long⟩
  have fits : Fits limits input := ⟨titled, title, by omega⟩
  by_cases known : input.title ∈ earlier.map RunInput.title
  · exact .inr ⟨_, .repeated fits known⟩
  · exact .inl ⟨fits, known⟩

theorem validate_of_fits (fits : Fits limits input) : input.validate limits = .ok () := by
  obtain ⟨titled, title, value⟩ := fits
  rw [validate, if_neg (by omega), if_neg (by omega)]

def held (inputs : List RunInput) : Dict String := .ofPairs (inputs.map pair)

theorem held_concat : held (inputs ++ [input]) = (held inputs).insert input.title input.value := by
  rw [held, List.map_append, List.map_singleton]
  exact Dict.ofPairs_append_singleton ..

theorem contains_held {title : String} :
    (held inputs).contains title = true ↔ title ∈ inputs.map RunInput.title := by
  rw [Std.ExtTreeMap.contains_iff_mem, held, Dict.mem_ofPairs]
  simp [pair]

theorem collectInto_of_fits (fits : Fits limits input)
    (new : input.title ∉ earlier.map RunInput.title) :
    collectInto limits (held earlier) (input :: inputs) =
      collectInto limits (held (earlier ++ [input])) inputs := by
  have absent : ¬ (held earlier).contains input.title = true := fun h => new (contains_held.mp h)
  rw [held_concat, collectInto, validate_of_fits fits]
  exact if_neg absent

theorem collectInto_of_fault (fault : Fault limits earlier input e) :
    collectInto limits (held earlier) (input :: inputs) = .error e := by
  rw [collectInto]
  cases fault with
  | title untitled =>
    rw [validate, if_pos untitled]
    rfl
  | value titled title long =>
    rw [validate, if_neg (by omega), if_pos long]
    rfl
  | repeated fits known =>
    rw [validate_of_fits fits]
    exact if_pos (contains_held.mpr known)

theorem acceptable_nil : Acceptable limits [] := ⟨by simp, by simp⟩

theorem acceptable_concat_iff : Acceptable limits (inputs ++ [input]) ↔
    Acceptable limits inputs ∧ Fits limits input ∧ input.title ∉ inputs.map RunInput.title := by
  constructor
  · rintro ⟨fits, distinct⟩
    rw [List.map_append, List.map_singleton, List.nodup_append] at distinct
    obtain ⟨distinct, _, apart⟩ := distinct
    rw [List.forall_mem_append] at fits
    exact ⟨⟨fits.1, distinct⟩, fits.2 input (List.mem_singleton_self _),
      fun known => apart _ known _ (List.mem_singleton_self _) rfl⟩
  · rintro ⟨⟨fits, distinct⟩, last, new⟩
    refine ⟨List.forall_mem_append.mpr ⟨fits, by simpa using last⟩, ?_⟩
    rw [List.map_append, List.map_singleton]
    refine List.nodup_append.mpr ⟨distinct, by simp, fun a ha b hb same => ?_⟩
    rw [List.mem_singleton.mp hb] at same
    exact new (same ▸ ha)

theorem Acceptable.of_append {more : List RunInput} (h : Acceptable limits (inputs ++ more)) :
    Acceptable limits inputs where
  fits := (List.forall_mem_append.mp h.fits).1
  distinct := by
    have distinct := h.distinct
    rw [List.map_append] at distinct
    exact (List.nodup_append.mp distinct).1

theorem collectInto_of_acceptable {rest : List RunInput}
    (acceptable : Acceptable limits (earlier ++ inputs)) :
    collectInto limits (held earlier) (inputs ++ rest) =
      collectInto limits (held (earlier ++ inputs)) rest := by
  induction inputs generalizing earlier with
  | nil => rw [List.append_nil, List.nil_append]
  | cons input inputs ih =>
    rw [List.append_cons] at acceptable ⊢
    obtain ⟨_, fits, new⟩ := acceptable_concat_iff.mp acceptable.of_append
    rw [List.cons_append, collectInto_of_fits fits new, ih acceptable]

theorem collect_of_acceptable (acceptable : Acceptable limits inputs) :
    collect limits inputs = .ok (held inputs) := by
  have all : collectInto limits (held []) (inputs ++ []) = collectInto limits (held inputs) [] :=
    collectInto_of_acceptable acceptable
  rw [List.append_nil] at all
  exact all

theorem collect_of_fault (acceptable : Acceptable limits earlier)
    (fault : Fault limits earlier input e) :
    collect limits (earlier ++ input :: inputs) = .error e := by
  have first : collectInto limits (held []) (earlier ++ input :: inputs) =
      collectInto limits (held earlier) (input :: inputs) := collectInto_of_acceptable acceptable
  exact first.trans (collectInto_of_fault fault)

theorem acceptable_or_fault (limits : Limits) (inputs : List RunInput) :
    Acceptable limits inputs ∨ ∃ before input after e, inputs = before ++ input :: after ∧
      Acceptable limits before ∧ Fault limits before input e := by
  induction inputs using List.reverseRecOn with
  | nil => exact .inl acceptable_nil
  | append_singleton inputs last ih =>
    rcases ih with acceptable | ⟨before, input, after, e, rfl, acceptable, fault⟩
    · rcases fits_or_fault limits inputs last with new | ⟨e, fault⟩
      · exact .inl (acceptable_concat_iff.mpr ⟨acceptable, new⟩)
      · exact .inr ⟨inputs, last, [], e, rfl, acceptable, fault⟩
    · exact .inr ⟨before, input, after ++ [last], e, by simp, acceptable, fault⟩

theorem collect_eq_ok_iff : collect limits inputs = .ok values ↔
    Acceptable limits inputs ∧ values = held inputs := by
  constructor
  · intro h
    rcases acceptable_or_fault limits inputs with acceptable | ⟨_, _, _, e, rfl, acceptable, fault⟩
    · exact ⟨acceptable, Except.ok.inj (h.symm.trans (collect_of_acceptable acceptable))⟩
    · cases h.symm.trans (collect_of_fault acceptable fault)
  · rintro ⟨acceptable, rfl⟩
    exact collect_of_acceptable acceptable

theorem collect_eq_error_iff : collect limits inputs = .error e ↔ ∃ before input after,
    inputs = before ++ input :: after ∧ Acceptable limits before ∧ Fault limits before input e := by
  constructor
  · intro h
    rcases acceptable_or_fault limits inputs with
      acceptable | ⟨before, input, after, other, rfl, acceptable, fault⟩
    · cases h.symm.trans (collect_of_acceptable acceptable)
    · cases h.symm.trans (collect_of_fault acceptable fault)
      exact ⟨before, input, after, rfl, acceptable, fault⟩
  · rintro ⟨before, input, after, rfl, acceptable, fault⟩
    exact collect_of_fault acceptable fault

theorem Acceptable.of_perm {other : List RunInput} (acceptable : Acceptable limits inputs)
    (perm : inputs.Perm other) : Acceptable limits other where
  fits input member := acceptable.fits input (perm.mem_iff.mpr member)
  distinct := (perm.map RunInput.title).nodup_iff.mp acceptable.distinct

theorem toList_held_perm (distinct : (inputs.map RunInput.title).Nodup) :
    (held inputs).toList.Perm (inputs.map pair) := by
  refine Dict.toList_ofPairs_perm ?_
  rw [List.map_map]
  exact distinct

/-- Inputs are collected without loss, or the first that has a fault is told. -/
theorem collects (limits : Limits) (inputs : List RunInput) : Collects limits inputs where
  accepted := by
    simp only [collect_eq_ok_iff, exists_and_left, exists_eq, and_true]
  entries values h := by
    obtain ⟨acceptable, rfl⟩ := collect_eq_ok_iff.mp h
    exact toList_held_perm acceptable.distinct
  reordered other values perm h := by
    obtain ⟨acceptable, rfl⟩ := collect_eq_ok_iff.mp h
    have same : held other = held inputs := Dict.ofPairs_of_perm
      ((perm.symm.map pair).trans (toList_held_perm acceptable.distinct).symm)
    exact collect_eq_ok_iff.mpr ⟨acceptable.of_perm perm, same.symm⟩
  refused _ := collect_eq_error_iff

end Runbook.RunInput

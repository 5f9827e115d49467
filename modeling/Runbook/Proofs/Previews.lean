import Runbook.Proofs.Guarded

namespace Runbook

/-- The same question about definitions is always answered the same. -/
structure Deed.Consistent (deeds : List Deed) : Prop where
  apps : ∀ id first second, .app id first ∈ deeds → .app id second ∈ deeds → first = second
  resources : ∀ id first second,
    .resource id first ∈ deeds → .resource id second ∈ deeds → first = second
  schemas : ∀ resourceId first second,
    .schema resourceId first ∈ deeds → .schema resourceId second ∈ deeds → first = second

theorem Deed.Consistent.of_subset {deeds others : List Deed} (h : Consistent others)
    (sub : deeds ⊆ others) : Consistent deeds where
  apps id first second one two := h.apps id first second (sub one) (sub two)
  resources id first second one two := h.resources id first second (sub one) (sub two)
  schemas id first second one two := h.schemas id first second (sub one) (sub two)

def Deed.Permitted (deeds : List Deed) : Prop :=
  ∀ user app answer, .permit user app answer ∈ deeds → answer = .ok true

namespace Collaborators

variable {limits : Limits} {appId : String} {values : Dict String} {user : User}
  {body : List Pair} {first second : List Deed}

theorem Finding.unique {one two : Except RunError (App × Resource)} (h : Finding appId first one)
    (h' : Finding appId second two) (same : Deed.Consistent (first ++ second)) : one = two := by
  have app {answer other : Except Failure (Option App)} (given : .app appId answer ∈ first)
      (given' : .app appId other ∈ second) : answer = other :=
    same.apps appId _ _ (List.mem_append_left _ given) (List.mem_append_right _ given')
  have resource {id : String} {answer other : Except Failure (Option Resource)}
      (given : .resource id answer ∈ first) (given' : .resource id other ∈ second) :
      answer = other :=
    same.resources id _ _ (List.mem_append_left _ given) (List.mem_append_right _ given')
  -- The answers that both got to their first question agree, and so do those to the second.
  cases h with
  | appFailed failure =>
    cases h' with
    | appFailed other => cases app (.head _) (.head _); rfl
    | _ => cases app (.head _) (.head _)
  | appNotFound =>
    cases h' with
    | appNotFound => rfl
    | _ => cases app (.head _) (.head _)
  | resourceFailed found failure =>
    cases h' with
    | appFailed | appNotFound => cases app (.head _) (.head _)
    | resourceFailed found' failure' =>
      cases app (.head _) (.head _)
      cases resource (.tail _ (.head _)) (.tail _ (.head _))
      rfl
    | _ found' =>
      cases app (.head _) (.head _)
      cases resource (.tail _ (.head _)) (.tail _ (.head _))
  | resourceNotFound found =>
    cases h' with
    | appFailed | appNotFound => cases app (.head _) (.head _)
    | resourceNotFound found' =>
      cases app (.head _) (.head _)
      rfl
    | _ found' =>
      cases app (.head _) (.head _)
      cases resource (.tail _ (.head _)) (.tail _ (.head _))
  | found found place =>
    cases h' with
    | appFailed | appNotFound => cases app (.head _) (.head _)
    | found found' place' =>
      cases app (.head _) (.head _)
      cases resource (.tail _ (.head _)) (.tail _ (.head _))
      rfl
    | _ found' =>
      cases app (.head _) (.head _)
      cases resource (.tail _ (.head _)) (.tail _ (.head _))

theorem Snapshotting.unique {app : App} {resource : Resource}
    {one two : Except RunError (Option Schema)} (h : Snapshotting app resource first one)
    (h' : Snapshotting app resource second two) (same : Deed.Consistent (first ++ second)) :
    one = two := by
  have schema {answer other : Except Failure (Option Schema)}
      (given : .schema resource.id answer ∈ first) (given' : .schema resource.id other ∈ second) :
      answer = other :=
    same.schemas resource.id _ _ (List.mem_append_left _ given) (List.mem_append_right _ given')
  cases h with
  | needless nothing =>
    cases h' with
    | needless => rfl
    | failed needed => exact absurd needed nothing
    | known needed => exact absurd needed nothing
  | failed needed failure =>
    cases h' with
    | needless nothing => exact absurd needed nothing
    | failed _ other => cases schema (.head _) (.head _); rfl
    | known _ other => cases schema (.head _) (.head _)
  | known needed snapshot =>
    cases h' with
    | needless nothing => exact absurd needed nothing
    | failed _ other => cases schema (.head _) (.head _)
    | known _ other => cases schema (.head _) (.head _); rfl

theorem Compiling.unique {app : App} {resource : Resource} {one two : Except RunError Artifact}
    (h : Compiling limits values user body app resource first one)
    (h' : Compiling limits values user body app resource second two)
    (same : Deed.Consistent (first ++ second)) : one = two := by
  rcases h with failed | ⟨asked, rfl, made⟩
  · rcases h' with failed' | ⟨asked', rfl, made'⟩
    · cases failed.unique failed' same
      rfl
    · cases failed.unique asked' (by simpa using same)
  · rcases h' with failed' | ⟨asked', rfl, made'⟩
    · cases asked.unique failed' (by simpa using same)
    · cases asked.unique asked' (by simpa using same)
      exact made.symm.trans made'

/-- A run that the policy permits gets as far as the compilation, and to the same. -/
theorem Calling.artifact_eq {compiled : Except RunError Artifact} {called : Except RunError Call}
    (h : Then (Finding appId)
      (fun found => Compiling limits values user body found.1 found.2) first compiled)
    (h' : Calling limits appId values user body second called)
    (same : Deed.Consistent (first ++ second)) (permitted : Deed.Permitted second) :
    called.map Call.artifact = compiled := by
  rcases h with failed | ⟨found, compiling⟩
  · rcases h' with failed' | ⟨found', rest⟩
    · cases failed.unique failed' same
      rfl
    · cases failed.unique found' (same.of_subset (by grind))
  · rcases h' with failed' | ⟨found', rest⟩
    · cases found.unique failed' (same.of_subset (by grind))
    cases found.unique found' (same.of_subset (by grind))
    rcases rest with refused | ⟨-, rest⟩
    · cases refused with
      | failed failure => cases permitted _ _ _ (List.mem_append_right _ (.head _))
      | denied => cases permitted _ _ _ (List.mem_append_right _ (.head _))
    rcases rest with failed' | ⟨compiling', rfl, rfl⟩
    · cases compiling.unique failed' (same.of_subset (by grind))
      rfl
    · cases compiling.unique compiling' (same.of_subset (by grind))
      rfl

/-- The compilation tells what the run did: the artifact was handed to the executor, once, or the
run failed as the compilation did. -/
structure Foretells (compiled : Except RunError Artifact) (deeds : List Deed)
    (ran : Except RunError Report) : Prop where
  executed : ∀ artifact,
    (∃ resource answer, .execution resource artifact answer ∈ deeds) ↔ compiled = .ok artifact
  once : (deeds.filter Deed.isExecution).length ≤ 1
  failed : ∀ e, ran = .error e ↔ compiled = .error e

theorem notMem_of_idle {deeds : List Deed} (idle : ∀ deed ∈ deeds, deed.isExecution = false)
    (resource : Resource) (artifact : Artifact) (answer : Except Failure Outcome) :
    .execution resource artifact answer ∉ deeds := by
  intro member
  cases idle _ member

theorem foretells_of_executing {compiled : Except RunError Artifact}
    {ended : Except RunError Execution}
    (h : Then (Finding appId)
      (fun found => Compiling limits values user body found.1 found.2) first compiled)
    (h' : Executing limits appId values user body second ended)
    (same : Deed.Consistent (first ++ second)) (permitted : Deed.Permitted second) :
    Foretells compiled second (ended.map Execution.report) := by
  have once := (guarded_of_executing h').once
  rcases h' with calling | ⟨calling, runId, answer, rfl, rfl⟩
  · have made := calling.artifact_eq h same permitted
    have nothing := notMem_of_idle (idle_of_calling calling)
    subst made
    refine ⟨fun artifact => iff_of_false ?_ (by simp [Except.map]), once, fun e => ?_⟩
    · rintro ⟨resource, answer, member⟩
      exact nothing _ _ _ member
    · simp [Except.map]
  · have made := calling.artifact_eq h (same.of_subset (by grind)) fun user app answer member =>
      permitted user app answer (List.mem_append_left _ member)
    have nothing := notMem_of_idle (idle_of_calling calling)
    subst made
    refine ⟨fun artifact => ?_, once, fun e => by simp [Except.map]⟩
    simp only [List.mem_append, nothing, false_or, List.mem_singleton, Except.map]
    constructor
    · rintro ⟨resource, given, same⟩
      cases same
      rfl
    · intro same
      cases same
      exact ⟨_, _, rfl⟩

theorem foretells_of_undertaking {m : Type → Type} [Monad m] [LawfulMonad m]
    {collaborators : Collaborators m} {inputs : List RunInput}
    {compiled : Except RunError Artifact} {ran : Except RunError Report}
    (h : collaborators.Previewing appId inputs user body first compiled)
    (h' : collaborators.Undertaking appId inputs user body second ran)
    (same : Deed.Consistent (first ++ second)) (permitted : Deed.Permitted second) :
    Foretells compiled second ran := by
  rcases h with ⟨rfl, collected⟩ | ⟨⟨rfl, collected⟩, h⟩
  · rcases h' with ⟨rfl, collected'⟩ | ⟨⟨rfl, collected'⟩, h'⟩
    · cases collected.symm.trans collected'
      exact ⟨by simp, by simp, by simp⟩
    · cases collected.symm.trans collected'
  · rcases h' with ⟨rfl, collected'⟩ | ⟨⟨rfl, collected'⟩, h'⟩
    · cases collected.symm.trans collected'
    cases collected.symm.trans collected'
    rcases h' with failed | ⟨executing, rfl, rfl⟩
    · exact foretells_of_executing h failed same permitted
    · rw [List.nil_append, List.append_nil] at permitted ⊢
      exact foretells_of_executing h executing (by simpa using same) permitted

end Collaborators

end Runbook

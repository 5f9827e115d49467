import Runbook.Proofs.Runs

namespace Runbook

namespace Deed

def isExecution : Deed → Bool
  | .execution _ _ _ => true
  | _ => false

def isLookup : Deed → Bool
  | .app _ _ => true
  | .resource _ _ => true
  | .schema _ _ => true
  | _ => false

end Deed

theorem Then.forall_mem {α β : Type} {P : List Deed → Except RunError α → Prop}
    {Q : α → List Deed → Except RunError β → Prop} {deeds : List Deed} {result : Except RunError β}
    {p : Deed → Prop} (h : Then P Q deeds result)
    (first : ∀ deeds result, P deeds result → ∀ deed ∈ deeds, p deed)
    (second : ∀ a deeds result, Q a deeds result → ∀ deed ∈ deeds, p deed) :
    ∀ deed ∈ deeds, p deed := by
  cases h with
  | ended h => exact first _ _ h
  | went h h' =>
    intro deed member
    rcases List.mem_append.mp member with member | member
    · exact first _ _ h deed member
    · exact second _ _ _ h' deed member

namespace Collaborators

section

variable (limits : Limits) (appId : String) (values : Dict String) (user : User)
  (body : List Pair)

/-- An app compiles with the schema snapshot that was handed out, if it needs one. -/
def Compiled (deeds : List Deed) (app : App) (resource : Resource) (artifact : Artifact) : Prop :=
  ∃ schema,
    (NeedsSchema app ∧ .schema resource.id (.ok schema) ∈ deeds ∨
      ¬ NeedsSchema app ∧ schema = none) ∧
    app.compile resource values user body limits.dynamicBodyPairs.toNat schema = .ok artifact

/-- All that has to have happened before an artifact of an app may be executed. -/
structure Cleared (deeds : List Deed) (app : App) (resource : Resource) (artifact : Artifact) :
    Prop where
  found : .app appId (.ok (some app)) ∈ deeds
  located : .resource app.resourceId (.ok (some resource)) ∈ deeds
  permitted : .permit user app (.ok true) ∈ deeds
  compiled : Compiled limits values user body deeds app resource artifact

/-- A run asks all that it has to, and goes on only with what it was given. The executor is called
once at most, at the end, and for what is cleared and nothing else; whatever it answers is reported,
and without an answer nothing is. -/
structure Guarded (deeds : List Deed) (result : Except RunError Execution) : Prop where
  goes : Executing limits appId values user body deeds result
  once : (deeds.filter Deed.isExecution).length ≤ 1
  called : ∀ resource artifact, (∃ answer, .execution resource artifact answer ∈ deeds) ↔
    ∃ app, Cleared limits appId values user body deeds app resource artifact
  before : ∀ resource artifact answer, .execution resource artifact answer ∈ deeds →
    ∃ earlier app, deeds = earlier ++ [.execution resource artifact answer] ∧
      Cleared limits appId values user body earlier app resource artifact
  suits : ∀ resource artifact answer, .execution resource artifact answer ∈ deeds →
    artifact.suits resource.connection = true
  reported : ∀ resource artifact answer, .execution resource artifact answer ∈ deeds →
    ∃ execution, result = .ok execution ∧ execution.outcome = Runner.outcome answer
  answered : ∀ execution, result = .ok execution →
    ∃ resource artifact answer, .execution resource artifact answer ∈ deeds
  failed : ∀ resource artifact failure, .execution resource artifact (.error failure) ∈ deeds →
    ∃ execution, result = .ok execution ∧ execution.outcome.status = "error"

end

variable {limits : Limits} {appId : String} {values : Dict String} {user : User}
  {body : List Pair} {deeds : List Deed}

theorem lookups_of_finding {result : Except RunError (App × Resource)}
    (h : Finding appId deeds result) : ∀ deed ∈ deeds, deed.isLookup = true := by
  cases h <;> simp [Deed.isLookup]

theorem compiled_iff {app : App} {resource : Resource} {result : Except RunError Artifact}
    (h : Compiling limits values user body app resource deeds result) {artifact : Artifact} :
    Compiled limits values user body deeds app resource artifact ↔ result = .ok artifact := by
  rcases h with h | ⟨h, rfl, rfl⟩
  · cases h with | failed needed failure => simp [Compiled, needed]
  · cases h with
    | needless nothing => simp [Compiled, nothing]
    | known needed schema => simp [Compiled, needed]

theorem schemas_of_compiling {app : App} {resource : Resource} {result : Except RunError Artifact}
    (h : Compiling limits values user body app resource deeds result) :
    ∀ deed ∈ deeds, ∃ answer, deed = .schema resource.id answer := by
  refine Then.forall_mem h (fun deeds result h => ?_) fun _ deeds result h => ?_
  · cases h <;> simp
  · simp [h.1]

theorem cleared_iff_compiled {app other : App} {resource place : Resource} {artifact : Artifact}
    (schemas : ∀ deed ∈ deeds, ∃ answer, deed = .schema resource.id answer) :
    Cleared limits appId values user body
        ([.app appId (.ok (some app)), .resource app.resourceId (.ok (some resource))] ++
          ([.permit user app (.ok true)] ++ deeds)) other place artifact ↔
      other = app ∧ place = resource ∧
        Compiled limits values user body deeds app resource artifact := by
  have noApp : ∀ id answer, .app id answer ∉ deeds := fun id answer member => by
    obtain ⟨_, same⟩ := schemas _ member
    cases same
  have noResource : ∀ id answer, .resource id answer ∉ deeds := fun id answer member => by
    obtain ⟨_, same⟩ := schemas _ member
    cases same
  constructor
  · rintro ⟨found, located, _, compiled⟩
    obtain rfl : other = app := by simpa [noApp] using found
    obtain rfl : place = resource := by simpa [noResource] using located
    refine ⟨rfl, rfl, ?_⟩
    simpa [Compiled] using compiled
  · rintro ⟨rfl, rfl, compiled⟩
    refine ⟨by simp, by simp, by simp, ?_⟩
    simpa [Compiled] using compiled

theorem cleared_iff {result : Except RunError Call}
    (h : Calling limits appId values user body deeds result) {resource : Resource}
    {artifact : Artifact} :
    (∃ app, Cleared limits appId values user body deeds app resource artifact) ↔
      ∃ id, result = .ok ⟨id, resource, artifact⟩ := by
  rcases h with h | ⟨h, permit⟩
  · refine iff_of_false ?_ (by simp)
    rintro ⟨app, found, located, permitted, _⟩
    cases h <;> simp at permitted
  cases h with | found found located => ?_
  rcases permit with h | ⟨h, compile⟩
  · refine iff_of_false ?_ (by simp)
    rintro ⟨app, _, _, permitted, _⟩
    cases h <;> simp at permitted
  cases h
  rcases compile with h | ⟨h, rfl, rfl⟩
  · refine iff_of_false ?_ (by simp)
    rintro ⟨app, cleared⟩
    obtain ⟨_, rfl, compiled⟩ := (cleared_iff_compiled (schemas_of_compiling h)).mp cleared
    cases (compiled_iff h).mp compiled
  · rw [List.append_nil]
    constructor
    · rintro ⟨app, cleared⟩
      obtain ⟨_, rfl, compiled⟩ := (cleared_iff_compiled (schemas_of_compiling h)).mp cleared
      cases (compiled_iff h).mp compiled
      exact ⟨_, rfl⟩
    · rintro ⟨id, same⟩
      cases same
      exact ⟨found, (cleared_iff_compiled (schemas_of_compiling h)).mpr
        ⟨rfl, rfl, (compiled_iff h).mpr rfl⟩⟩

theorem idle_of_calling {result : Except RunError Call}
    (h : Calling limits appId values user body deeds result) :
    ∀ deed ∈ deeds, deed.isExecution = false := by
  refine Then.forall_mem h (fun deeds result h => ?_) fun found deeds result h => ?_
  · cases h <;> simp [Deed.isExecution]
  refine Then.forall_mem h (fun deeds result h => ?_) fun _ deeds result h => ?_
  · cases h <;> simp [Deed.isExecution]
  refine Then.forall_mem h (fun deeds result h => ?_) fun _ deeds result h => ?_
  · intro deed member
    obtain ⟨answer, rfl⟩ := schemas_of_compiling h deed member
    rfl
  · simp [h.1]

theorem suits_of_calling {call : Call}
    (h : Calling limits appId values user body deeds (.ok call)) :
    call.artifact.suits call.resource.connection = true := by
  obtain ⟨_, cleared⟩ := (cleared_iff h).mpr ⟨call.appId, rfl⟩
  obtain ⟨_, _, compiled⟩ := cleared.compiled
  exact App.suits_of_compile compiled

theorem Cleared.of_checks {others : List Deed} {app : App} {resource : Resource}
    {artifact : Artifact} (h : Cleared limits appId values user body deeds app resource artifact)
    (kept : ∀ deed ∈ deeds, deed.isExecution = false → deed ∈ others) :
    Cleared limits appId values user body others app resource artifact where
  found := kept _ h.found rfl
  located := kept _ h.located rfl
  permitted := kept _ h.permitted rfl
  compiled := by
    obtain ⟨schema, ⟨needed, known⟩ | needless, made⟩ := h.compiled
    · exact ⟨schema, .inl ⟨needed, kept _ known rfl⟩, made⟩
    · exact ⟨schema, .inr needless, made⟩

theorem cleared_concat {app : App} {resource place : Resource} {artifact made : Artifact}
    {answer : Except Failure Outcome} :
    Cleared limits appId values user body (deeds ++ [.execution place made answer]) app resource
        artifact ↔
      Cleared limits appId values user body deeds app resource artifact := by
  constructor
  · intro cleared
    refine cleared.of_checks fun deed member check => ?_
    rcases List.mem_append.mp member with member | member
    · exact member
    · obtain rfl := List.mem_singleton.mp member
      cases check
  · exact fun cleared => cleared.of_checks fun deed member _ => List.mem_append_left _ member

theorem guarded_of_executing {result : Except RunError Execution}
    (goes : Executing limits appId values user body deeds result) :
    Guarded limits appId values user body deeds result := by
  have gone := goes
  cases gone with
  | @ended deeds e calling =>
    have idle := idle_of_calling calling
    have quiet : deeds.filter Deed.isExecution = [] := by simpa [List.filter_eq_nil_iff] using idle
    have uncalled : ∀ resource artifact answer, .execution resource artifact answer ∉ deeds := by
      intro resource artifact answer member
      cases idle _ member
    exact {
      goes := goes
      once := by simp [quiet]
      called := fun resource artifact => by simp [cleared_iff calling, uncalled]
      before := fun _ _ _ member => absurd member (uncalled _ _ _)
      suits := fun _ _ _ member => absurd member (uncalled _ _ _)
      reported := fun _ _ _ member => absurd member (uncalled _ _ _)
      answered := nofun
      failed := fun _ _ _ member => absurd member (uncalled _ _ _) }
  | @went call earlier _ _ calling ending =>
    obtain ⟨runId, answer, rfl, rfl⟩ := ending
    have idle := idle_of_calling calling
    have quiet : earlier.filter Deed.isExecution = [] := by
      simpa [List.filter_eq_nil_iff] using idle
    have last : ∀ resource artifact given,
        .execution resource artifact given ∈
          earlier ++ [.execution call.resource call.artifact answer] →
        resource = call.resource ∧ artifact = call.artifact ∧ given = answer := by
      intro resource artifact given member
      rcases List.mem_append.mp member with member | member
      · cases idle _ member
      · simpa using member
    obtain ⟨app, cleared⟩ := (cleared_iff calling).mpr ⟨call.appId, rfl⟩
    refine ⟨goes, ?once, fun resource artifact => ?called, ?before, ?suits, ?reported,
      fun _ _ => ⟨_, _, _, List.mem_concat_self⟩, ?failed⟩
    case once =>
      rw [List.filter_append, quiet, List.nil_append]
      exact List.length_filter_le _ _
    case called =>
      simp only [cleared_concat, cleared_iff calling]
      constructor
      · rintro ⟨given, member⟩
        obtain ⟨rfl, rfl, _⟩ := last _ _ _ member
        exact ⟨call.appId, rfl⟩
      · rintro ⟨id, same⟩
        cases same
        exact ⟨answer, by simp⟩
    case before =>
      intro resource artifact given member
      obtain ⟨rfl, rfl, rfl⟩ := last _ _ _ member
      exact ⟨earlier, app, rfl, cleared⟩
    case suits =>
      intro resource artifact given member
      obtain ⟨rfl, rfl, _⟩ := last _ _ _ member
      exact suits_of_calling calling
    case reported =>
      intro resource artifact given member
      obtain ⟨_, _, rfl⟩ := last _ _ _ member
      exact ⟨_, rfl, rfl⟩
    case failed =>
      intro resource artifact failure member
      obtain ⟨_, _, rfl⟩ := last _ _ _ member
      exact ⟨_, rfl, rfl⟩

end Collaborators

end Runbook

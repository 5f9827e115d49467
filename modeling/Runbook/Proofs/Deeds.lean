import Mathlib.Tactic.Choose
import Runbook.Session.Desk

namespace Runbook

/-- What a collaborator, an executor or a desk was asked, with its answer. -/
inductive Deed where
  | app (id : String) (answer : Except Failure (Option App))
  | resource (id : String) (answer : Except Failure (Option Resource))
  | schema (resourceId : String) (answer : Except Failure (Option Schema))
  | permit (user : User) (app : App) (answer : Except Failure Bool)
  | execution (resource : Resource) (artifact : Artifact) (answer : Except Failure Outcome)
  | session (session : Session)
  | clock (now : Instant)
  | confirmationId (id : String)

variable {m : Type → Type} [Monad m]

def Deed.note {α : Type} (question : m α) (deed : α → Deed) : StateT (List Deed) m α := do
  let answer ← question
  modify (· ++ [deed answer])
  return answer

def Executor.watched (executor : Executor m) : Executor (StateT (List Deed) m) :=
  fun resource artifact => Deed.note (executor resource artifact) (.execution resource artifact)

def Collaborators.watched (collaborators : Collaborators m) :
    Collaborators (StateT (List Deed) m) where
  app := fun id => Deed.note (collaborators.app id) (.app id)
  resource := fun id => Deed.note (collaborators.resource id) (.resource id)
  schema := fun id => Deed.note (collaborators.schema id) (.schema id)
  permits := fun user app => Deed.note (collaborators.permits user app) (.permit user app)
  limits := collaborators.limits

/-- What is asked at a desk is watched, but not what it is told to keep. -/
def Session.Desk.watched (desk : Desk m) : Desk (StateT (List Deed) m) where
  get := Deed.note desk.get .session
  put := fun session => liftM (desk.put session)
  runner := desk.runner.watched
  executor := Executor.watched desk.executor
  freshRunId := liftM desk.freshRunId
  freshConfirmationId := Deed.note desk.freshConfirmationId .confirmationId
  now := Deed.note desk.now .clock
  record := fun event => liftM (desk.record event)

/-- What the first computation watches of the second: it adds a history to the one before, and
otherwise does the same; every history has the relation to the result. -/
def Watches {α : Type} (related : List Deed → α → Prop) (watched : StateT (List Deed) m α)
    (plain : m α) : Prop :=
  ∃ runs : m { run : List Deed × α // related run.1 run.2 },
    (∀ before, watched.run before = (fun run => (run.1.2, before ++ run.1.1)) <$> runs) ∧
      plain = (fun run => run.1.2) <$> runs

namespace Watches

variable [LawfulMonad m] {α β : Type} {P P' : List Deed → α → Prop}
  {Q : α → List Deed → β → Prop} {R : List Deed → β → Prop}
  {x : StateT (List Deed) m α} {y : m α} {f : α → StateT (List Deed) m β} {g : α → m β}

protected theorem imp (h : Watches P x y) (weaker : ∀ deeds a, P deeds a → P' deeds a) :
    Watches P' x y := by
  obtain ⟨runs, watched, plain⟩ := h
  refine ⟨(fun run => ⟨run.1, weaker _ _ run.2⟩) <$> runs, fun before => ?_, ?_⟩
  · rw [watched, Functor.map_map]
  · rw [plain, Functor.map_map]

protected theorem pure {a : α} (h : P [] a) : Watches P (pure a) (pure a : m α) :=
  ⟨pure ⟨([], a), h⟩, by simp, by simp⟩

theorem lift (y : m α) : Watches (fun deeds _ => deeds = []) (liftM y) y :=
  ⟨(fun a => ⟨([], a), rfl⟩) <$> y, by simp [liftM, monadLift, MonadLift.monadLift], by simp⟩

theorem note (y : m α) (deed : α → Deed) :
    Watches (fun deeds a => deeds = [deed a]) (Deed.note y deed) y :=
  ⟨(fun a => ⟨([deed a], a), rfl⟩) <$> y, by simp [Deed.note], by simp⟩

protected theorem map (h : Watches P x y) (k : α → β) :
    Watches (fun deeds b => ∃ a, P deeds a ∧ k a = b) (k <$> x) (k <$> y) := by
  obtain ⟨runs, watched, plain⟩ := h
  refine ⟨(fun run => ⟨(run.1.1, k run.1.2), _, run.2, rfl⟩) <$> runs, fun before => ?_, ?_⟩
  · rw [StateT.run_map, watched, Functor.map_map, Functor.map_map]
  · rw [plain, Functor.map_map, Functor.map_map]

protected theorem bind (h : Watches P x y) (hf : ∀ a, Watches (Q a) (f a) (g a)) :
    Watches (fun deeds b => ∃ a first second, P first a ∧ Q a second b ∧ deeds = first ++ second)
      (x >>= f) (y >>= g) := by
  obtain ⟨runs, watched, plain⟩ := h
  choose next watched' plain' using hf
  refine ⟨do
    let first ← runs
    let second ← next first.1.2
    return ⟨(first.1.1 ++ second.1.1, second.1.2), _, _, _, first.2, second.2, rfl⟩, ?_, ?_⟩
  · intro before
    rw [StateT.run_bind, watched, bind_map_left, map_bind]
    refine bind_congr fun first => ?_
    rw [watched']
    simp
  · rw [plain, bind_map_left, map_bind]
    refine bind_congr fun first => ?_
    rw [plain']
    simp

theorem after (y : m α) (hf : ∀ a, Watches R (f a) (g a)) :
    Watches R (liftM y >>= f) (y >>= g) := by
  refine ((lift y).bind hf).imp ?_
  rintro _ b ⟨a, _, deeds, rfl, h, rfl⟩
  exact h

theorem noteThen (y : m α) (deed : α → Deed) (hf : ∀ a, Watches (Q a) (f a) (g a)) :
    Watches (fun deeds b => ∃ a rest, Q a rest b ∧ deeds = deed a :: rest)
      (Deed.note y deed >>= f) (y >>= g) := by
  refine ((note y deed).bind hf).imp ?_
  rintro _ b ⟨a, _, rest, rfl, h, rfl⟩
  exact ⟨a, rest, h, rfl⟩

end Watches

/-- Everything that the computation comes to has the property. -/
def Always {α : Type} (P : α → Prop) (x : m α) : Prop :=
  ∃ results : m { a // P a }, Subtype.val <$> results = x

theorem Watches.always [LawfulMonad m] {α : Type} {P : List Deed → α → Prop}
    {x : StateT (List Deed) m α} {y : m α} (h : Watches P x y) :
    Always (fun a => ∃ deeds, P deeds a) y := by
  obtain ⟨runs, _, plain⟩ := h
  refine ⟨(fun run => ⟨run.1.2, _, run.2⟩) <$> runs, ?_⟩
  rw [plain, Functor.map_map]

namespace Always

variable [LawfulMonad m] {α β : Type} {P P' : α → Prop} {Q : β → Prop} {x : m α} {f : α → m β}

protected theorem imp (h : Always P x) (weaker : ∀ a, P a → P' a) : Always P' x := by
  obtain ⟨results, rfl⟩ := h
  exact ⟨(fun result => ⟨result.1, weaker _ result.2⟩) <$> results, by rw [Functor.map_map]⟩

protected theorem pure {a : α} (h : P a) : Always P (pure a : m α) :=
  ⟨pure ⟨a, h⟩, map_pure ..⟩

protected theorem bind (h : Always P x) (hf : ∀ a, P a → Always Q (f a)) :
    Always Q (x >>= f) := by
  obtain ⟨results, rfl⟩ := h
  choose next same using hf
  refine ⟨results >>= fun result => next result.1 result.2, ?_⟩
  rw [map_bind, bind_map_left]
  exact bind_congr fun result => same result.1 result.2

theorem after (x : m α) (hf : ∀ a, Always Q (f a)) : Always Q (x >>= f) :=
  Always.bind (P := fun _ => True) ⟨(fun a => ⟨a, trivial⟩) <$> x, by simp⟩ fun a _ => hf a

theorem of_id {x : Id α} (h : Always P x) : P x.run := by
  obtain ⟨result, rfl⟩ := h
  exact result.2

end Always

/-- The first part of a history and its result lead to the second part, or to the end. -/
inductive Then {α β : Type} (P : List Deed → Except RunError α → Prop)
    (Q : α → List Deed → Except RunError β → Prop) : List Deed → Except RunError β → Prop where
  | ended {deeds : List Deed} {e : RunError} (first : P deeds (.error e)) :
      Then P Q deeds (.error e)
  | went {a : α} {before after : List Deed} {result : Except RunError β} (first : P before (.ok a))
      (second : Q a after result) : Then P Q (before ++ after) result

theorem Then.went_of_eq {α β : Type} {P : List Deed → Except RunError α → Prop}
    {Q : α → List Deed → Except RunError β → Prop} {a : α} {deeds before after : List Deed}
    {result : Except RunError β} (first : P before (.ok a)) (second : Q a after result)
    (eq : deeds = before ++ after) : Then P Q deeds result :=
  eq ▸ .went first second

namespace Watches

variable [LawfulMonad m] {α β : Type}

theorem andThen {P : List Deed → Except RunError α → Prop}
    {Q : α → List Deed → Except RunError β → Prop} {x : ExceptT RunError (StateT (List Deed) m) α}
    {y : ExceptT RunError m α} {f : α → ExceptT RunError (StateT (List Deed) m) β}
    {g : α → ExceptT RunError m β} (h : Watches P x.run y.run)
    (hf : ∀ a, Watches (Q a) (f a).run (g a).run) :
    Watches (Then P Q) (x >>= f).run (y >>= g).run := by
  have next : ∀ result : Except RunError α,
      Watches (fun deeds b => ∀ before, P before result → Then P Q (before ++ deeds) b)
        (ExceptT.bindCont f result) (ExceptT.bindCont g result) := by
    intro result
    cases result with
    | error e => exact .pure fun before first => by simpa using .ended first
    | ok a => exact (hf a).imp fun deeds b second before first => .went first second
  refine (h.bind next).imp fun deeds b ⟨result, first, second, start, rest, whole⟩ => ?_
  rw [whole]
  exact rest first start

theorem liftedThen {P : List Deed → α → Prop} {Q : α → List Deed → Except RunError β → Prop}
    {x : StateT (List Deed) m α} {y : m α} {f : α → ExceptT RunError (StateT (List Deed) m) β}
    {g : α → ExceptT RunError m β} (h : Watches P x y)
    (hf : ∀ a, Watches (Q a) (f a).run (g a).run) :
    Watches (fun deeds result =>
        ∃ a first second, P first a ∧ Q a second result ∧ deeds = first ++ second)
      (liftM x >>= f : ExceptT RunError (StateT (List Deed) m) β).run
      (liftM y >>= g : ExceptT RunError m β).run := by
  rw [ExceptT.run_bind, ExceptT.run_bind, ExceptT.run_liftM, ExceptT.run_liftM, bind_map_left,
    bind_map_left]
  exact h.bind hf

theorem afterThen {R : List Deed → Except RunError β → Prop} (y : m α)
    {f : α → ExceptT RunError (StateT (List Deed) m) β} {g : α → ExceptT RunError m β}
    (hf : ∀ a, Watches R (f a).run (g a).run) :
    Watches R (liftM (liftM y : StateT (List Deed) m α) >>= f).run (liftM y >>= g).run := by
  refine ((lift y).liftedThen hf).imp ?_
  rintro _ result ⟨a, _, deeds, rfl, h, rfl⟩
  exact h

theorem ask (y : m (Except Failure α)) (context : String) (deed : Except Failure α → Deed) :
    Watches (fun deeds result => ∃ answer, deeds = [deed answer] ∧
        answer.mapError (fun failure => .collaborator (failure.within context)) = result)
      (Collaborators.ask context (Deed.note y deed)).run (Collaborators.ask context y).run := by
  unfold Collaborators.ask
  rw [ExceptT.run_mk, ExceptT.run_mk, bind_pure_comp, bind_pure_comp]
  exact (note y deed).map _

theorem askThen {β : Type} {R : List Deed → Except RunError β → Prop} {y : m (Except Failure α)}
    {context : String} {deed : Except Failure α → Deed}
    {f : α → ExceptT RunError (StateT (List Deed) m) β} {g : α → ExceptT RunError m β}
    (failed : ∀ failure,
      R [deed (.error failure)] (.error (.collaborator (failure.within context))))
    (answered : ∀ a, Watches (fun deeds => R (deed (.ok a) :: deeds)) (f a).run (g a).run) :
    Watches R (Collaborators.ask context (Deed.note y deed) >>= f).run
      (Collaborators.ask context y >>= g).run := by
  refine ((ask y context deed).andThen answered).imp fun deeds result h => ?_
  cases h with
  | ended first =>
    obtain ⟨answer, rfl, told⟩ := first
    cases answer with
    | error failure =>
      cases told
      exact failed failure
    | ok a => cases told
  | went first second =>
    obtain ⟨answer, rfl, told⟩ := first
    cases answer with
    | error failure => cases told
    | ok a =>
      cases told
      exact second

theorem fixed {P : List Deed → Except RunError α → Prop} {x : Except RunError α}
    (h : P [] x) :
    Watches P (liftExcept x : ExceptT RunError (StateT (List Deed) m) α).run
      (liftExcept x : ExceptT RunError m α).run := by
  cases x with
  | error e => exact .pure h
  | ok a => exact .pure h

end Watches

end Runbook

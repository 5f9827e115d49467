import Runbook.Proofs.Batch
import Runbook.Proofs.Results
import Runbook.Sql.Compile

namespace Runbook.Sql

def boundOf (values : Values) (parameters : List Pair) (name : String) : Bound :=
  ⟨name, templatesFor parameters name,
    (templatesFor parameters name).map (Template.batchText values)⟩

theorem yields_bound (values : Values) (parameters : List Pair) (name : String) :
    Batch.Yields
      ((templatesFor parameters name).mapM (Batch.render values) >>= fun texts =>
        pure (Bound.mk name (templatesFor parameters name) texts))
      (boundOf values parameters name)
      ((templatesFor parameters name).flatMap fun t => t.missing values) := by
  have texts := Batch.yields_mapM (Batch.yields_render values) (templatesFor parameters name)
  have named := texts.map (Bound.mk name (templatesFor parameters name))
  rwa [map_eq_pure_bind] at named

theorem resolveNames_eq_ok_iff {values : Values} {parameters : List Pair} {names : List String}
    {bound : List Bound} :
    resolveNames values parameters names = .ok bound ↔
      (∀ name ∈ names, ∀ t ∈ templatesFor parameters name, t.missing values = []) ∧
        names.map (boundOf values parameters) = bound := by
  have run := Batch.yields_mapM (yields_bound values parameters) names
  have whole := Batch.finish_eq_ok_iff run
  simp only [List.flatMap_eq_nil_iff] at whole
  rw [← whole]
  unfold resolveNames
  dsimp only
  split
  next h =>
    rw [h, run Batch.start]
    simp
  next h =>
    rw [h]
    simp

theorem parameterOf_name {validated : List Validated} {bound : Bound} {parameter : Parameter}
    (h : parameterOf validated bound = .ok parameter) : parameter.name = bound.name := by
  unfold parameterOf at h
  split at h
  next =>
    split at h
    next => cases h
    next => cases h; rfl
  next => cases h

theorem compileRaw_eq_ok {values : Values} {validated : List Validated} {query : RawQuery}
    {statement : Statement} (h : compileRaw values validated query = .ok statement) :
    Text.isBlank query.sql = false ∧ statement.text = (Scan.ofText query.sql).text ∧
      (∀ name ∈ (Scan.ofText query.sql).names, ∀ t ∈ templatesFor query.parameters name,
        t.missing values = []) ∧
      List.Forall₂ (fun name parameter =>
          parameterOf validated (boundOf values query.parameters name) = .ok parameter)
        (Scan.ofText query.sql).names statement.parameters := by
  unfold compileRaw at h
  cases blank : Text.isBlank query.sql with
  | true => simp [blank, throw, throwThe, MonadExceptOf.throw, bind, Except.bind] at h
  | false =>
    simp only [blank] at h
    obtain ⟨bound, hb, h⟩ := Except.bind_eq_ok_iff.mp h
    obtain ⟨whole, rfl⟩ := resolveNames_eq_ok_iff.mp hb
    split at h
    next =>
      obtain ⟨parameters, hp, h⟩ := Except.bind_eq_ok_iff.mp h
      cases h
      rw [List.mapM_map] at hp
      exact ⟨rfl, rfl, whole, mapM_eq_ok_iff_forall₂.mp hp⟩
    next => cases h

theorem compileRaw_names {values : Values} {validated : List Validated} {query : RawQuery}
    {statement : Statement} (h : compileRaw values validated query = .ok statement) :
    statement.parameters.map Parameter.name = (Scan.ofText query.sql).names := by
  obtain ⟨_, _, _, hp⟩ := compileRaw_eq_ok h
  exact map_eq_of_forall₂ (hp.imp fun _ _ => parameterOf_name)

end Runbook.Sql

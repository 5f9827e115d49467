import Runbook.Http.Compile
import Runbook.Proofs.Field.Validation
import Runbook.Proofs.Template.Resolution

namespace Runbook

structure Pair.Resolves (values : Values) (pair resolved : Pair) : Prop where
  key : resolved.key = pair.key
  value : (Template.parse pair.value).resolve values = .ok resolved.value

namespace Http

inductive Stem : String → String → Prop where
  | slash (stem : String) : Stem (stem ++ "/") stem
  | bare {base : String} (nothing : ∀ stem, base ≠ stem ++ "/") : Stem base base

inductive Tail : String → String → Prop where
  | slash (tail : String) : Tail ("/" ++ tail) tail
  | bare {path : String} (nothing : ∀ tail, path ≠ "/" ++ tail) : Tail path path

/-- The address and the path around one slash. An empty path leaves the address as it is. -/
inductive Joins (base : String) : String → String → Prop where
  | empty : Joins base "" base
  | slash {path stem tail : String} (nonempty : path ≠ "") (ends : Stem base stem)
      (starts : Tail path tail) : Joins base path (stem ++ "/" ++ tail)

theorem Stem.eq {base stem : String} (h : Stem base stem) :
    (if base.toList.getLast? = some '/' then base.toList.dropLast else base.toList) =
      stem.toList := by
  cases h with
  | slash => simp
  | bare nothing =>
    rw [if_neg fun last => ?_]
    obtain ⟨front, ends⟩ := List.getLast?_eq_some_iff.mp last
    exact nothing (.ofList front) (String.toList_inj.mp (by simpa using ends))

theorem exists_stem (base : String) : ∃ stem, Stem base stem := by
  by_cases slash : ∃ stem, base = stem ++ "/"
  · obtain ⟨stem, rfl⟩ := slash
    exact ⟨stem, .slash stem⟩
  · exact ⟨base, .bare (not_exists.mp slash)⟩

theorem exists_tail (path : String) : ∃ tail, Tail path tail := by
  by_cases slash : ∃ tail, path = "/" ++ tail
  · obtain ⟨tail, rfl⟩ := slash
    exact ⟨tail, .slash tail⟩
  · exact ⟨path, .bare (not_exists.mp slash)⟩

theorem joinUrl_eq {base path stem tail : String} (nonempty : path ≠ "") (ends : Stem base stem)
    (starts : Tail path tail) : joinUrl base path = stem ++ "/" ++ tail := by
  rw [joinUrl, if_neg nonempty]
  dsimp only
  rw [ends.eq]
  refine String.toList_inj.mp ?_
  cases starts with
  | slash => simp
  | bare nothing =>
    split
    next rest starts =>
      exact absurd (String.toList_inj.mp (by simpa using starts)) (nothing (.ofList rest))
    next => simp

theorem joinUrl_eq_iff {base path url : String} :
    joinUrl base path = url ↔ Joins base path url := by
  constructor
  · rintro rfl
    by_cases nonempty : path = ""
    · subst nonempty
      exact .empty
    · obtain ⟨stem, ends⟩ := exists_stem base
      obtain ⟨tail, starts⟩ := exists_tail path
      rw [joinUrl_eq nonempty ends starts]
      exact .slash nonempty ends starts
  · intro h
    cases h with
    | empty => rfl
    | slash nonempty ends starts => exact joinUrl_eq nonempty ends starts

/-- Of many slashes only one on each side gives way. -/
example : joinUrl "https://a.io//" "//x" = "https://a.io///x" := by decide

def templates (resource : HttpResource) (app : HttpApp) : List Template :=
  .parse app.path ::
    (resource.parameters ++ app.parameters ++ (resource.headers ++ app.headers) ++ resource.body ++
      if app.dynamicBody then [] else app.body).map fun pair => .parse pair.value

def partsAlone (values : Values) (resource : HttpResource) (app : HttpApp) : Parts :=
  { path := (Template.parse app.path).batchText values
    parameters := (resource.parameters ++ app.parameters).map (Batch.pairAlone values)
    headers := (resource.headers ++ app.headers).map (Batch.pairAlone values)
    resourceBody := resource.body.map (Batch.pairAlone values)
    appBody := if app.dynamicBody then [] else app.body.map (Batch.pairAlone values) }

theorem yields_resolveParts (values : Values) (resource : HttpResource) (app : HttpApp) :
    Batch.Yields (resolveParts values resource app) (partsAlone values resource app)
      ((templates resource app).flatMap fun t => t.missing values) := by
  have names : ((templates resource app).flatMap fun t => t.missing values) =
      (Template.parse app.path).missing values ++
      (((resource.parameters ++ app.parameters).map fun pair =>
        Template.parse pair.value).flatMap (·.missing values) ++
      (((resource.headers ++ app.headers).map fun pair =>
        Template.parse pair.value).flatMap (·.missing values) ++
      ((resource.body.map fun pair => Template.parse pair.value).flatMap (·.missing values) ++
      ((((if app.dynamicBody then [] else app.body).map fun pair =>
        Template.parse pair.value).flatMap (·.missing values)) ++ [])))) := by
    simp only [templates, List.flatMap_cons, List.map_append, List.flatMap_append,
      List.append_assoc, List.append_nil]
  rw [names]
  refine (Batch.yields_resolve values app.path).bind ?_
  refine (Batch.yields_resolvePairs values (resource.parameters ++ app.parameters)).bind ?_
  refine (Batch.yields_resolvePairs values (resource.headers ++ app.headers)).bind ?_
  refine (Batch.yields_resolvePairs values resource.body).bind ?_
  unfold partsAlone
  by_cases dynamic : app.dynamicBody = true
  · simp only [dynamic, if_true]
    exact (Batch.yields_pure []).bind (Batch.yields_pure _)
  · simp only [dynamic, Bool.false_eq_true, if_false]
    exact (Batch.yields_resolvePairs values app.body).bind (Batch.yields_pure _)

theorem run_resolveParts (values : Values) (resource : HttpResource) (app : HttpApp) :
    (resolveParts values resource app).run Batch.start =
      (partsAlone values resource app,
        ⟨((templates resource app).flatMap fun t => t.absent values).eraseDups⟩) :=
  Batch.run_start (yields_resolveParts values resource app)

/-- What follows the body of the resource: the pairs of the caller as they are, or those of the app
resolved. -/
inductive RestOfBody (values : Values) (app : HttpApp) (dynamicBody : List Pair) :
    List Pair → Prop where
  | dynamic (dynamic : app.dynamicBody = true) : RestOfBody values app dynamicBody dynamicBody
  | static {rest : List Pair} (static : app.dynamicBody = false)
      (resolved : List.Forall₂ (Pair.Resolves values) app.body rest) :
    RestOfBody values app dynamicBody rest

/-- The request has the pairs of the resource and then those of the app, one by one. -/
structure Compiled (values : Values) (resource : HttpResource) (app : HttpApp)
    (dynamicBody : List Pair) (request : HttpRequest) : Prop where
  method : some request.method = app.method.map HttpMethod.name
  address : ∃ path, (Template.parse app.path).resolve values = .ok path ∧
    Joins resource.baseUrl path request.baseUrl
  parameters : List.Forall₂ (Pair.Resolves values) (resource.parameters ++ app.parameters)
    request.parameters
  headers : List.Forall₂ (Pair.Resolves values) (resource.headers ++ app.headers) request.headers
  body : ∃ own rest, request.body = own ++ rest ∧
    List.Forall₂ (Pair.Resolves values) resource.body own ∧ RestOfBody values app dynamicBody rest

def Parts.request (parts : Parts) (resource : HttpResource) (app : HttpApp)
    (dynamicBody : List Pair) (method : HttpMethod) : HttpRequest :=
  { baseUrl := joinUrl resource.baseUrl parts.path
    parameters := parts.parameters
    headers := parts.headers
    body := parts.resourceBody ++ if app.dynamicBody then dynamicBody else parts.appBody
    method := method.name }

theorem forall₂_resolves_iff {values : Values} {pairs resolved : List Pair} :
    List.Forall₂ (Pair.Resolves values) pairs resolved ↔
      (∀ pair ∈ pairs, (Template.parse pair.value).absent values = []) ∧
        pairs.map (Batch.pairAlone values) = resolved := by
  have pointwise : Pair.Resolves values = fun pair resolved =>
      (Template.parse pair.value).absent values = [] ∧ Batch.pairAlone values pair = resolved := by
    ext pair resolved
    obtain ⟨key, text⟩ := resolved
    constructor
    · rintro ⟨rfl, h⟩
      obtain ⟨complete, rfl⟩ := Template.resolve_eq_ok_iff_batchText.mp h
      exact ⟨complete, rfl⟩
    · rintro ⟨complete, h⟩
      cases h
      exact ⟨rfl, Template.resolve_eq_ok_iff_batchText.mpr ⟨complete, rfl⟩⟩
  rw [pointwise, forall₂_and_map_iff]

theorem restOfBody_iff {values : Values} {app : HttpApp} {dynamicBody rest : List Pair} :
    RestOfBody values app dynamicBody rest ↔
      (app.dynamicBody = false → ∀ pair ∈ app.body,
        (Template.parse pair.value).absent values = []) ∧
      (if app.dynamicBody then dynamicBody else app.body.map (Batch.pairAlone values)) = rest := by
  constructor
  · rintro (dynamic | ⟨static, resolved⟩)
    · simp [dynamic]
    · simpa [static] using forall₂_resolves_iff.mp resolved
  · rintro ⟨complete, rfl⟩
    cases dynamic : app.dynamicBody with
    | true => exact .dynamic dynamic
    | false => exact .static dynamic (forall₂_resolves_iff.mpr ⟨complete dynamic, rfl⟩)

theorem absent_templates_eq_nil_iff {values : Values} {resource : HttpResource} {app : HttpApp} :
    ((templates resource app).flatMap fun t => t.absent values) = [] ↔
      (Template.parse app.path).absent values = [] ∧
      (∀ pair ∈ resource.parameters ++ app.parameters,
        (Template.parse pair.value).absent values = []) ∧
      (∀ pair ∈ resource.headers ++ app.headers, (Template.parse pair.value).absent values = []) ∧
      (∀ pair ∈ resource.body, (Template.parse pair.value).absent values = []) ∧
      (app.dynamicBody = false → ∀ pair ∈ app.body,
        (Template.parse pair.value).absent values = []) := by
  rw [List.flatMap_eq_nil_iff, templates, List.forall_mem_cons, List.forall_mem_map,
    List.forall_mem_append, List.forall_mem_append, List.forall_mem_append]
  cases app.dynamicBody <;> simp [and_assoc]

theorem compiled_iff_request {values : Values} {resource : HttpResource} {app : HttpApp}
    {dynamicBody : List Pair} {method : HttpMethod} {request : HttpRequest}
    (known : app.method = some method) :
    Compiled values resource app dynamicBody request ↔
      ((templates resource app).flatMap fun t => t.absent values) = [] ∧
        (partsAlone values resource app).request resource app dynamicBody method = request := by
  have appBody : (if app.dynamicBody then dynamicBody else (partsAlone values resource app).appBody) =
      if app.dynamicBody then dynamicBody else app.body.map (Batch.pairAlone values) := by
    cases dynamic : app.dynamicBody <;> simp [partsAlone, dynamic]
  rw [absent_templates_eq_nil_iff, Parts.request, appBody]
  constructor
  · rintro ⟨named, ⟨path, resolved, joins⟩, parameters, headers, own, rest, body, first, second⟩
    obtain ⟨baseUrl, _, _, _, _⟩ := request
    dsimp only at named joins parameters headers body
    obtain ⟨inPath, rfl⟩ := Template.resolve_eq_ok_iff_batchText.mp resolved
    obtain ⟨inParameters, rfl⟩ := forall₂_resolves_iff.mp parameters
    obtain ⟨inHeaders, rfl⟩ := forall₂_resolves_iff.mp headers
    obtain ⟨inResource, rfl⟩ := forall₂_resolves_iff.mp first
    obtain ⟨inApp, rfl⟩ := restOfBody_iff.mp second
    refine ⟨⟨inPath, inParameters, inHeaders, inResource, inApp⟩, ?_⟩
    rw [known, Option.map_some, Option.some_inj] at named
    rw [named, body, ← joinUrl_eq_iff.mpr joins]
    rfl
  · rintro ⟨⟨inPath, inParameters, inHeaders, inResource, inApp⟩, rfl⟩
    exact {
      method := by rw [known, Option.map_some]
      address := ⟨_, Template.resolve_eq_ok_iff_batchText.mpr ⟨inPath, rfl⟩,
        joinUrl_eq_iff.mp rfl⟩
      parameters := forall₂_resolves_iff.mpr ⟨inParameters, rfl⟩
      headers := forall₂_resolves_iff.mpr ⟨inHeaders, rfl⟩
      body := ⟨_, _, rfl, forall₂_resolves_iff.mpr ⟨inResource, rfl⟩,
        restOfBody_iff.mpr ⟨inApp, rfl⟩⟩ }

def HasAddress (resource : HttpResource) : Prop :=
  ∃ c ∈ resource.baseUrl.toList, Text.isSpace c = false

section

variable (resource : HttpResource) (app : HttpApp) (inputs : List Field) (supplied : Dict String)
  (user : User) (dynamicBody : List Pair) (mostPairs : Nat)

/-- What becomes of an app: the first failure that applies, or else a request. -/
inductive Ends : Except CompileError HttpRequest → Prop where
  | missingMethod (unset : app.method = none) : Ends (.error .missingMethod)
  | missingBaseUrl (set : app.method ≠ none) (blank : ¬HasAddress resource) :
    Ends (.error .missingBaseUrl)
  | validation {errors : FieldErrors} (set : app.method ≠ none) (based : HasAddress resource)
      (failing : ∃ field ∈ inputs, ∃ e, field.validate (field.entered supplied) = .error e)
      (all : ∀ id e, errors[id]? = some e ↔
        Field.LastFailure (Field.entered supplied) inputs id e) :
    Ends (.error (.validation errors))
  | dynamicBodyTooLarge {validated : List Validated} (set : app.method ≠ none)
      (based : HasAddress resource)
      (valid : List.Forall₂ (fun field v => Field.Gives field (field.entered supplied) v)
        inputs validated)
      (dynamic : app.dynamicBody = true) (large : mostPairs < dynamicBody.length) :
    Ends (.error (.dynamicBodyTooLarge dynamicBody.length mostPairs))
  | unresolved {validated : List Validated} {missing : Unresolved} (set : app.method ≠ none)
      (based : HasAddress resource)
      (valid : List.Forall₂ (fun field v => Field.Gives field (field.entered supplied) v)
        inputs validated)
      (fits : app.dynamicBody = true → dynamicBody.length ≤ mostPairs)
      (missed : ((templates resource app).flatMap
        fun t => t.absent (Validated.placeholders user validated)) ≠ [])
      (all : FirstAppearances ((templates resource app).flatMap
        fun t => t.absent (Validated.placeholders user validated)) missing.names) :
    Ends (.error (.unresolved missing))
  | compiled {validated : List Validated} {request : HttpRequest} (based : HasAddress resource)
      (valid : List.Forall₂ (fun field v => Field.Gives field (field.entered supplied) v)
        inputs validated)
      (fits : app.dynamicBody = true → dynamicBody.length ≤ mostPairs)
      (whole : Compiled (Validated.placeholders user validated) resource app dynamicBody request) :
    Ends (.ok request)

end

section

variable {resource : HttpResource} {app : HttpApp} {inputs : List Field} {supplied : Dict String}
  {user : User} {dynamicBody : List Pair} {mostPairs : Nat}

theorem isBlank_iff : Text.isBlank resource.baseUrl = true ↔ ¬HasAddress resource := by
  simp [Text.isBlank, HasAddress]

theorem compile_of_blank (set : app.method ≠ none) (blank : ¬HasAddress resource) :
    compile resource app inputs supplied user dynamicBody mostPairs = .error .missingBaseUrl := by
  obtain ⟨method, set⟩ := Option.ne_none_iff_exists'.mp set
  unfold compile
  rw [set]
  dsimp only
  rw [if_pos (isBlank_iff.mpr blank)]
  rfl

theorem compile_eq {method : HttpMethod} (set : app.method = some method)
    (based : HasAddress resource) :
    compile resource app inputs supplied user dynamicBody mostPairs =
      ((Field.validateByLabel inputs supplied).mapError .validation).bind fun validated =>
        let values := Validated.placeholders user validated
        if app.dynamicBody = true ∧ mostPairs < dynamicBody.length then
          .error (.dynamicBodyTooLarge dynamicBody.length mostPairs)
        else
          ((Batch.finish ⟨((templates resource app).flatMap
            fun t => t.absent values).eraseDups⟩).mapError .unresolved).map fun _ =>
              (partsAlone values resource app).request resource app dynamicBody method := by
  have shown : ¬Text.isBlank resource.baseUrl = true := fun blank => isBlank_iff.mp blank based
  unfold compile
  rw [set]
  dsimp only
  rw [if_neg shown]
  refine congrArg (Except.bind _) (funext fun validated => ?_)
  rw [run_resolveParts]
  simp only [Bool.and_eq_true, decide_eq_true_eq]
  split
  next => rfl
  next => rfl

theorem compile_of_valid {method : HttpMethod} {validated : List Validated}
    (set : app.method = some method) (based : HasAddress resource)
    (valid : List.Forall₂ (fun field v => Field.Gives field (field.entered supplied) v)
      inputs validated)
    (fits : app.dynamicBody = true → dynamicBody.length ≤ mostPairs) :
    compile resource app inputs supplied user dynamicBody mostPairs =
      ((Batch.finish ⟨((templates resource app).flatMap fun t =>
        t.absent (Validated.placeholders user validated)).eraseDups⟩).mapError .unresolved).map
          fun _ => (partsAlone (Validated.placeholders user validated) resource app).request
            resource app dynamicBody method := by
  have small : ¬(app.dynamicBody = true ∧ mostPairs < dynamicBody.length) :=
    fun ⟨dynamic, large⟩ => Nat.not_lt.mpr (fits dynamic) large
  rw [compile_eq set based, Field.validateByLabel_eq_ok_iff.mpr valid]
  exact if_neg small

theorem compile_of_ends {result : Except CompileError HttpRequest}
    (h : Ends resource app inputs supplied user dynamicBody mostPairs result) :
    compile resource app inputs supplied user dynamicBody mostPairs = result := by
  cases h with
  | missingMethod unset =>
    rw [compile, unset]
    rfl
  | missingBaseUrl set blank => exact compile_of_blank set blank
  | validation set based failing all =>
    obtain ⟨method, set⟩ := Option.ne_none_iff_exists'.mp set
    rw [compile_eq set based, Field.validateByLabel_eq_error_iff.mpr ⟨failing, all⟩]
    rfl
  | dynamicBodyTooLarge set based valid dynamic large =>
    obtain ⟨method, set⟩ := Option.ne_none_iff_exists'.mp set
    rw [compile_eq set based, Field.validateByLabel_eq_ok_iff.mpr valid]
    exact if_pos ⟨dynamic, large⟩
  | unresolved set based valid fits missed all =>
    obtain ⟨method, set⟩ := Option.ne_none_iff_exists'.mp set
    have nonempty := eraseDups_eq_nil_iff.not.mpr missed
    rw [compile_of_valid set based valid fits,
      Batch.finish_eq_error_iff.mpr ⟨nonempty, firstAppearances_iff.mp all⟩]
    rfl
  | compiled based valid fits whole =>
    obtain ⟨method, set, _⟩ := Option.map_eq_some_iff.mp whole.method.symm
    obtain ⟨complete, rfl⟩ := (compiled_iff_request set).mp whole
    rw [compile_of_valid set based valid fits, complete]
    rfl

theorem ends_compile : Ends resource app inputs supplied user dynamicBody mostPairs
    (compile resource app inputs supplied user dynamicBody mostPairs) := by
  cases set : app.method with
  | none =>
    rw [compile, set]
    exact .missingMethod set
  | some method =>
    have isSet : app.method ≠ none := by simp [set]
    by_cases based : HasAddress resource
    · cases validation : Field.validateByLabel inputs supplied with
      | error errors =>
        obtain ⟨failing, all⟩ := Field.validateByLabel_eq_error_iff.mp validation
        rw [compile_eq set based, validation]
        exact .validation isSet based failing all
      | ok validated =>
        have valid := Field.validateByLabel_eq_ok_iff.mp validation
        by_cases fits : app.dynamicBody = true → dynamicBody.length ≤ mostPairs
        · rw [compile_of_valid set based valid fits]
          by_cases complete : ((templates resource app).flatMap
              fun t => t.absent (Validated.placeholders user validated)) = []
          · rw [complete]
            exact .compiled based valid fits ((compiled_iff_request set).mpr ⟨complete, rfl⟩)
          · have missed := eraseDups_eq_nil_iff.not.mpr complete
            rw [Batch.finish_eq_error_iff.mpr ⟨missed, rfl⟩]
            exact .unresolved isSet based valid fits complete (firstAppearances_iff.mpr rfl)
        · obtain ⟨dynamic, large⟩ := Classical.not_imp.mp fits
          have large := Nat.not_le.mp large
          rw [compile_of_ends (.dynamicBodyTooLarge isSet based valid dynamic large)]
          exact .dynamicBodyTooLarge isSet based valid dynamic large
    · rw [compile_of_blank isSet based]
      exact .missingBaseUrl isSet based

theorem Compiled.own {values : Values} {request : HttpRequest}
    (h : Compiled values resource app dynamicBody request) :
    request.parameters.take resource.parameters.length =
        resource.parameters.map (Batch.pairAlone values) ∧
      request.headers.take resource.headers.length =
        resource.headers.map (Batch.pairAlone values) ∧
      request.body.take resource.body.length = resource.body.map (Batch.pairAlone values) := by
  obtain ⟨own, rest, body, first, _⟩ := h.body
  obtain ⟨_, parameters⟩ := forall₂_resolves_iff.mp h.parameters
  obtain ⟨_, headers⟩ := forall₂_resolves_iff.mp h.headers
  obtain ⟨_, rfl⟩ := forall₂_resolves_iff.mp first
  refine ⟨?_, ?_, ?_⟩
  · rw [← parameters, List.map_append, List.take_left' (by simp)]
  · rw [← headers, List.map_append, List.take_left' (by simp)]
  · rw [body, List.take_left' (by simp)]

theorem compiled_of_compile {request : HttpRequest}
    (h : compile resource app inputs supplied user dynamicBody mostPairs = .ok request) :
    ∃ validated, Field.validateByLabel inputs supplied = .ok validated ∧
      Compiled (Validated.placeholders user validated) resource app dynamicBody request := by
  have ends : Ends resource app inputs supplied user dynamicBody mostPairs (.ok request) :=
    h ▸ ends_compile
  cases ends with
  | compiled _ valid _ whole => exact ⟨_, Field.validateByLabel_eq_ok_iff.mpr valid, whole⟩

end

/-- Compilation comes to the first failure that applies or to a request with all pairs in order. Two
apps that compile upon one resource get the same pairs from it. -/
theorem compile_eq_iff (resource : HttpResource) (inputs : List Field) (supplied : Dict String)
    (user : User) (mostPairs : Nat) :
    (∀ (app : HttpApp) (dynamicBody : List Pair) (result : Except CompileError HttpRequest),
      compile resource app inputs supplied user dynamicBody mostPairs = result ↔
        Ends resource app inputs supplied user dynamicBody mostPairs result) ∧
    ∀ (first second : HttpApp) (firstBody secondBody : List Pair) (one two : HttpRequest),
      compile resource first inputs supplied user firstBody mostPairs = .ok one →
      compile resource second inputs supplied user secondBody mostPairs = .ok two →
        one.parameters.take resource.parameters.length =
          two.parameters.take resource.parameters.length ∧
        one.headers.take resource.headers.length = two.headers.take resource.headers.length ∧
        one.body.take resource.body.length = two.body.take resource.body.length := by
  refine ⟨fun app dynamicBody result => ?_, fun first second firstBody secondBody one two h h' => ?_⟩
  · constructor
    · rintro rfl
      exact ends_compile
    · exact compile_of_ends
  · obtain ⟨validated, valid, whole⟩ := compiled_of_compile h
    obtain ⟨others, same, whole'⟩ := compiled_of_compile h'
    obtain rfl : validated = others := Except.ok.inj (valid.symm.trans same)
    obtain ⟨parameters, headers, body⟩ := whole.own
    obtain ⟨parameters', headers', body'⟩ := whole'.own
    exact ⟨parameters.trans parameters'.symm, headers.trans headers'.symm, body.trans body'.symm⟩

end Http

end Runbook

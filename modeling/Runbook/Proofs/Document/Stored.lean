import Runbook.App
import Runbook.Dashboard
import Runbook.Json.Printer
import Runbook.Proofs.Dict
import Runbook.Proofs.Document.Reading
import Runbook.Sql.Schema

namespace Runbook

open Document (Reads Tells Kept fields?_of_arranged openFields?_of_arranged fieldsNamed?_of_kept
  reads_text reads_bool reads_word64 reads_word)
open Json (Arranged Placed)

theorem string_present (s : String) : Json.string s ≠ .null := nofun

theorem reads_strings : Reads Json.strings (Document.listOf? Document.text?) := reads_text.list

theorem Pair.reads : Reads toJson ofDocument? := by
  intro pair form json same
  obtain ⟨fields, found, hold⟩ := fields?_of_arranged form ["key", "value"] same (by simp)
  have key : fields.required? "key" Document.text? = some pair.key :=
    hold.required? (by simp) reads_text
  have value : fields.required? "value" Document.text? = some pair.value :=
    hold.required? (by simp [List.lookup_cons]) reads_text
  simp [ofDocument?, found, key, value]

theorem pairsIn?_of_hold {fields : Document.Fields} {members : List (String × Json)} {name : String}
    (hold : fields.Hold members) {pairs : List Pair}
    (found : members.lookup name = some (pairsToJson pairs)) :
    pairsIn? fields name = some pairs :=
  hold.given? found Pair.reads.list

theorem Choice.reads : Reads toJson ofDocument? := by
  intro choice form json same
  obtain ⟨fields, found, hold⟩ := fields?_of_arranged form ["value", "label"] same (by simp)
  have value : fields.required? "value" Document.text? = some choice.value :=
    hold.required? (by simp) reads_text
  have label : fields.perhaps? "label" Document.text? = some choice.label :=
    hold.perhaps? (by simp [List.lookup_cons]) reads_text string_present
  simp [ofDocument?, found, value, label]

namespace FieldKind

theorem tells : Tells name members variants := by
  intro kind
  cases kind with
  | text maxLength =>
    refine ⟨_, rfl, fun fields hold => ?_⟩
    have length : fields.perhaps? "maxLength" Document.word64? = some maxLength :=
      hold.perhaps? (by simp [members, List.lookup_cons]) reads_word64 nofun
    simp [length]
  | radio choices =>
    refine ⟨_, rfl, fun fields hold => ?_⟩
    have options :
        fields.given? "options" [] (Document.listOf? Choice.ofDocument?) = some choices :=
      hold.given? (by simp [members, List.lookup_cons]) Choice.reads.list
    simp [options]
  | _ => exact ⟨_, rfl, fun _ _ => rfl⟩

theorem distinct (kind : FieldKind) : (kind.members.map Prod.fst).Nodup := by
  cases kind <;> simp [members]

theorem foreign (kind : FieldKind) : ∀ name ∈ kind.members.map Prod.fst,
    name ∉ ["id", "label", "required", "defaultValue"] := by
  cases kind <;> simp +contextual [members]

end FieldKind

theorem Field.reads : Reads toJson ofDocument? := by
  intro field form json same
  rw [toJson, List.append_assoc] at same
  obtain ⟨fields, rest, found, hold, kept⟩ :=
    openFields?_of_arranged form ["id", "label", "required", "defaultValue"] same
      (by simp +contextual) field.kind.foreign (by simp +contextual) field.kind.distinct
  have id : fields.required? "id" Document.text? = some field.id :=
    hold.required? (by simp) reads_text
  have label : fields.required? "label" Document.text? = some field.label :=
    hold.required? (by simp [List.lookup_cons]) reads_text
  have kind : Document.variantIn? "type" (Document.variantOrNumber? FieldKind.variants) rest =
      some field.kind :=
    FieldKind.tells.variantIn? (by simp [FieldKind.members]) field.kind.distinct kept _ fun _ => rfl
  have required : fields.given? "required" false Document.bool? = some field.required :=
    hold.given? (by simp [List.lookup_cons]) reads_bool
  have default : fields.perhaps? "defaultValue" Document.text? = some field.default :=
    hold.perhaps? (by simp [List.lookup_cons]) reads_text string_present
  simp [ofDocument?, found, id, label, kind, required, default]

theorem Operator.reads : Reads (fun operator => .string operator.sql) (Document.word? words) :=
  reads_word fun operator => by cases operator <;> rfl

theorem Filter.reads : Reads toJson ofDocument? := by
  intro filter form json same
  obtain ⟨fields, found, hold⟩ :=
    fields?_of_arranged form ["column", "operator", "value"] same (by simp +contextual)
  have column : fields.required? "column" Document.text? = some filter.column :=
    hold.required? (by simp) reads_text
  have operator : fields.required? "operator" (Document.word? Operator.words) =
      some filter.operator :=
    hold.required? (by simp [List.lookup_cons]) Operator.reads
  have value : fields.perhaps? "value" Document.text? = some filter.value :=
    hold.perhaps? (by simp [List.lookup_cons]) reads_text string_present
  simp [ofDocument?, found, column, operator, value]

theorem Direction.reads : Reads (fun direction => .string direction.sql) (Document.word? words) :=
  reads_word fun direction => by cases direction <;> rfl

theorem Order.reads : Reads toJson ofDocument? := by
  intro order form json same
  obtain ⟨fields, found, hold⟩ := fields?_of_arranged form ["column", "direction"] same (by simp)
  have column : fields.required? "column" Document.text? = some order.column :=
    hold.required? (by simp) reads_text
  have direction : fields.given? "direction" .ascending (Document.word? Direction.words) =
      some order.direction :=
    hold.given? (by simp [List.lookup_cons]) Direction.reads
  simp [ofDocument?, found, column, direction]

theorem Limit.reads : Reads toJson ofDocument? := by
  intro limit form json same
  cases limit with
  | text s =>
    cases same
    rfl
  | number n =>
    cases same
    have low := Int64.le_toInt n
    have high := Int64.toInt_lt n
    rw [Document.shaped]
    by_cases sign : 0 ≤ n.toInt
    · have fits : n.toInt.toNat < Nat.pow 2 63 := by simp only [Nat.pow_eq]; omega
      have same : Int64.ofNat n.toInt.toNat = n := by
        rw [← Int64.ofInt_eq_ofNat, Int.toNat_of_nonneg sign, Int64.ofInt_toInt]
      rw [if_pos sign, ofDocument?, Document.settle?]
      simp only [if_pos fits, same]
    · have fits : n.toInt.natAbs ≤ Nat.pow 2 63 := by simp only [Nat.pow_eq]; omega
      have same : -(n.toInt.natAbs : Int) = n.toInt := by omega
      rw [if_neg sign, ofDocument?, Document.settle?]
      simp only [if_pos fits, same, Int64.ofInt_toInt]

theorem GuiQuery.ofFields?_of_hold {query : GuiQuery} {fields : Document.Fields} {mode : Json}
    (hold : fields.Hold (("mode", mode) :: query.members)) : ofFields? fields = some query := by
  have table : fields.perhaps? "table" Document.text? = some query.table :=
    hold.perhaps? (by simp [members, List.lookup_append, List.lookup_cons]) reads_text
      string_present
  have columns : fields.given? "columns" [] (Document.listOf? Document.text?) =
      some query.columns :=
    hold.given? (by simp [members, List.lookup_append, List.lookup_cons]) reads_strings
  have filters : fields.given? "filters" [] (Document.listOf? Filter.ofDocument?) =
      some query.filters :=
    hold.given? (by simp [members, List.lookup_append, List.lookup_cons]) Filter.reads.list
  have limit : fields.perhaps? "limit" Limit.ofDocument? = some query.limit :=
    hold.perhaps? (by simp [members, List.lookup_append, List.lookup_cons]) Limit.reads
      fun limit => by cases limit <;> nofun
  have orderBy : fields.given? "orderBy" [] (Document.listOf? Order.ofDocument?) =
      some query.orderBy :=
    hold.given? (by simp [members, List.lookup_append, List.lookup_cons]) Order.reads.list
  simp [ofFields?, table, columns, filters, limit, orderBy]

theorem RawQuery.ofFields?_of_hold {query : RawQuery} {fields : Document.Fields} {mode : Json}
    (hold : fields.Hold (("mode", mode) :: query.members)) : ofFields? fields = some query := by
  have sql : fields.given? "rawSql" "" Document.text? = some query.sql :=
    hold.given? (by simp [members, List.lookup_cons]) reads_text
  have parameters : pairsIn? fields "rawSqlParams" = some query.parameters :=
    pairsIn?_of_hold hold (by simp [members, List.lookup_cons])
  simp [ofFields?, sql, parameters]

namespace Query

def mode : Query → String
  | gui _ => "gui"
  | raw _ => "raw"

def members (query : Query) : List (String × Json) :=
  ("mode", .string query.mode) :: match query with
    | gui query => query.members
    | raw query => query.members

theorem tells : Tells mode members variants := by
  intro query
  cases query with
  | gui query =>
    refine ⟨_, rfl, fun fields hold => ?_⟩
    have read : GuiQuery.ofFields? fields = some query := GuiQuery.ofFields?_of_hold hold
    simp [GuiQuery.fieldNames, read]
  | raw query =>
    refine ⟨_, rfl, fun fields hold => ?_⟩
    have read : RawQuery.ofFields? fields = some query := RawQuery.ofFields?_of_hold hold
    simp [RawQuery.fieldNames, read]

theorem reads : Reads toJson ofDocument? := by
  have all : toJson = fun query => .object query.members := by
    funext query
    cases query <;> rfl
  rw [all]
  refine tells.reads_tagged (fun query => by simp [members]) fun query => ?_
  cases query <;>
    simp [members, GuiQuery.members, RawQuery.members, List.nodup_append, or_imp, forall_and]

end Query

theorem HttpMethod.reads : Reads (fun method => .string method.name) (Document.word? words) :=
  reads_word fun method => by cases method <;> rfl

theorem HttpApp.reads : Reads toJson ofDocument? := by
  intro app form json same
  obtain ⟨fields, found, hold⟩ := fields?_of_arranged form
    ["method", "urlPath", "urlParameters", "headers", "body", "dynamicBody"] same
    (by simp [List.nodup_append])
  have method : fields.perhaps? "method" (Document.word? HttpMethod.words) = some app.method :=
    hold.perhaps? (by simp [List.lookup_append, List.lookup_cons]) HttpMethod.reads
      fun _ => string_present _
  have path : fields.given? "urlPath" "" Document.text? = some app.path :=
    hold.given? (by simp [List.lookup_append]) reads_text
  have parameters : pairsIn? fields "urlParameters" = some app.parameters :=
    pairsIn?_of_hold hold (by simp [List.lookup_append, List.lookup_cons])
  have headers : pairsIn? fields "headers" = some app.headers :=
    pairsIn?_of_hold hold (by simp [List.lookup_append, List.lookup_cons])
  have body : pairsIn? fields "body" = some app.body :=
    pairsIn?_of_hold hold (by simp [List.lookup_append, List.lookup_cons])
  have dynamicBody : fields.given? "dynamicBody" false Document.bool? = some app.dynamicBody :=
    hold.given? (by simp [List.lookup_append, List.lookup_cons]) reads_bool
  simp [ofDocument?, found, method, path, parameters, headers, body, dynamicBody]

theorem Operation.reads : Reads toJson ofDocument? := by
  intro operation form json same
  cases operation with
  | http app =>
    obtain ⟨value, found, same⟩ := Document.only?_of_arranged form same
    simp [ofDocument?, found, HttpApp.reads app form value same]
  | sql query =>
    obtain ⟨value, found, same⟩ := Document.only?_of_arranged form same
    simp [ofDocument?, found, Query.reads query form value same]

theorem App.reads : Reads toJson ofDocument? := by
  intro app form json same
  obtain ⟨fields, found, hold⟩ := fields?_of_arranged form
    ["id", "name", "resourceId", "inputs", "operation"] same (by simp)
  have id : fields.required? "id" Document.text? = some app.id :=
    hold.required? (by simp) reads_text
  have name : fields.given? "name" "" Document.text? = some app.name :=
    hold.given? (by simp [List.lookup_cons]) reads_text
  have resourceId : fields.required? "resourceId" Document.text? = some app.resourceId :=
    hold.required? (by simp [List.lookup_cons]) reads_text
  have inputs : fields.given? "inputs" [] (Document.listOf? Field.ofDocument?) = some app.inputs :=
    hold.given? (by simp [List.lookup_cons, Field.listToJson]) Field.reads.list
  have operation : fields.required? "operation" Operation.ofDocument? = some app.operation :=
    hold.required? (by simp [List.lookup_cons]) Operation.reads
  simp [ofDocument?, found, id, name, resourceId, inputs, operation]

theorem HttpResource.reads : Reads toJson ofDocument? := by
  intro resource form json same
  obtain ⟨fields, found, hold⟩ := fields?_of_arranged form
    ["baseUrl", "urlParameters", "headers", "body"] same (by simp)
  have baseUrl : fields.required? "baseUrl" Document.text? = some resource.baseUrl :=
    hold.required? (by simp) reads_text
  have parameters : pairsIn? fields "urlParameters" = some resource.parameters :=
    pairsIn?_of_hold hold (by simp [List.lookup_cons])
  have headers : pairsIn? fields "headers" = some resource.headers :=
    pairsIn?_of_hold hold (by simp [List.lookup_cons])
  have body : pairsIn? fields "body" = some resource.body :=
    pairsIn?_of_hold hold (by simp [List.lookup_cons])
  simp [ofDocument?, found, baseUrl, parameters, headers, body]

theorem PostgresResource.reads : Reads toJson ofDocument? := by
  intro resource form json same
  obtain ⟨fields, found, hold⟩ :=
    fields?_of_arranged form ["url", "urlEnv"] same (by simp [List.nodup_append])
  have url : fields.perhaps? "url" Document.text? = some resource.url :=
    hold.perhaps? (by simp [List.lookup_append]) reads_text string_present
  have urlVariable : fields.perhaps? "urlEnv" Document.text? = some resource.urlVariable :=
    hold.perhaps? (by simp [List.lookup_append]) reads_text string_present
  simp [ofDocument?, found, url, urlVariable]

theorem Connection.reads : Reads toJson ofDocument? := by
  intro connection form json same
  cases connection with
  | http resource =>
    obtain ⟨value, found, same⟩ := Document.only?_of_arranged form same
    simp [ofDocument?, found, HttpResource.reads resource form value same]
  | postgres resource =>
    obtain ⟨value, found, same⟩ := Document.only?_of_arranged form same
    simp [ofDocument?, found, PostgresResource.reads resource form value same]

theorem Resource.reads : Reads toJson ofDocument? := by
  intro resource form json same
  obtain ⟨fields, found, hold⟩ :=
    fields?_of_arranged form ["id", "name", "connection"] same (by simp)
  have id : fields.required? "id" Document.text? = some resource.id :=
    hold.required? (by simp) reads_text
  have name : fields.given? "name" "" Document.text? = some resource.name :=
    hold.given? (by simp [List.lookup_cons]) reads_text
  have connection : fields.required? "connection" Connection.ofDocument? =
      some resource.connection :=
    hold.required? (by simp [List.lookup_cons]) Connection.reads
  simp [ofDocument?, found, id, name, connection]

theorem Action.reads : Reads toJson ofDocument? := by
  intro action form json same
  obtain ⟨fields, found, hold⟩ := fields?_of_arranged form
    ["id", "appId", "label", "section", "confirmEnabled", "confirmTitle", "confirmMessage",
     "successMessage", "errorMessage"] same (by simp [List.nodup_append, or_imp, forall_and])
  have id : fields.required? "id" Document.text? = some action.id :=
    hold.required? (by simp) reads_text
  have appId : fields.required? "appId" Document.text? = some action.appId :=
    hold.required? (by simp [List.lookup_cons]) reads_text
  have label : fields.given? "label" "" Document.text? = some action.label :=
    hold.given? (by simp [List.lookup_cons]) reads_text
  have group : fields.perhaps? "section" Document.text? = some action.group :=
    hold.perhaps? (by simp [List.lookup_append, List.lookup_cons]) reads_text string_present
  have confirms : fields.given? "confirmEnabled" false Document.bool? = some action.confirms :=
    hold.given? (by simp [List.lookup_append, List.lookup_cons]) reads_bool
  have confirmTitle : fields.perhaps? "confirmTitle" Document.text? = some action.confirmTitle :=
    hold.perhaps? (by simp [List.lookup_append, List.lookup_cons]) reads_text string_present
  have confirmMessage : fields.perhaps? "confirmMessage" Document.text? =
      some action.confirmMessage :=
    hold.perhaps? (by simp [List.lookup_append, List.lookup_cons]) reads_text string_present
  have successMessage : fields.perhaps? "successMessage" Document.text? =
      some action.successMessage :=
    hold.perhaps? (by simp [List.lookup_append, List.lookup_cons]) reads_text string_present
  have errorMessage : fields.perhaps? "errorMessage" Document.text? = some action.errorMessage :=
    hold.perhaps? (by simp [List.lookup_append, List.lookup_cons]) reads_text string_present
  simp [ofDocument?, found, id, appId, label, group, confirms, confirmTitle, confirmMessage,
    successMessage, errorMessage]

namespace Source

theorem tells : Tells kind members variants := by
  intro source
  cases source with
  | literal template =>
    refine ⟨_, rfl, fun fields hold => ?_⟩
    have read : fields.given? "literalValue" "" Document.text? = some template :=
      hold.given? (by simp [members, List.lookup_cons]) reads_text
    simp [read]
  | _ key =>
    refine ⟨_, rfl, fun fields hold => ?_⟩
    have read : fields.required? "sourceKey" Document.text? = some key :=
      hold.required? (by simp [members, List.lookup_cons]) reads_text
    simp [keyed, read]

theorem distinct (source : Source) : (source.members.map Prod.fst).Nodup := by
  cases source <;> simp [members]

theorem foreign (source : Source) :
    ∀ name ∈ source.members.map Prod.fst, name ∉ ["actionId", "inputName"] := by
  cases source <;> simp [members]

end Source

theorem Binding.reads : Reads toJson ofDocument? := by
  intro binding form json same
  rw [toJson, ← List.append_nil (_ ++ _)] at same
  obtain ⟨fields, rest, found, hold, kept⟩ :=
    openFields?_of_arranged form ["actionId", "inputName"] same (by simp) binding.source.foreign
      (by simp) binding.source.distinct
  have actionId : fields.required? "actionId" Document.text? = some binding.actionId :=
    hold.required? (by simp) reads_text
  have input : fields.required? "inputName" Document.text? = some binding.input :=
    hold.required? (by simp [List.lookup_cons]) reads_text
  have source : Document.variantIn? "sourceType" (Document.variantOrNumber? Source.variants) rest =
      some binding.source :=
    Source.tells.variantIn? (by simp [Source.members]) binding.source.distinct kept _ fun _ => rfl
  simp [ofDocument?, found, actionId, input, source]

theorem Group.reads : Reads toJson ofDocument? := by
  intro group form json same
  obtain ⟨fields, found, hold⟩ := fields?_of_arranged form ["name", "actionIds"] same (by simp)
  have name : fields.required? "name" Document.text? = some group.name :=
    hold.required? (by simp) reads_text
  have actionIds : fields.given? "actionIds" [] (Document.listOf? Document.text?) =
      some group.actionIds :=
    hold.given? (by simp [List.lookup_cons]) reads_strings
  simp [ofDocument?, found, name, actionIds]

theorem Layout.reads : Reads toJson ofDocument? := by
  intro layout form json same
  obtain ⟨fields, found, hold⟩ := fields?_of_arranged form ["sections"] same (by simp)
  have groups : fields.given? "sections" [] (Document.listOf? Group.ofDocument?) =
      some layout.groups :=
    hold.given? (by simp) Group.reads.list
  simp [ofDocument?, found, groups]

namespace Board

theorem distinct (board : Board) : (board.members.map Prod.fst).Nodup := by
  simp [members, List.nodup_append]

theorem mem_fieldNames {board : Board} {name : String} (h : name ∈ board.members.map Prod.fst) :
    name ∈ fieldNames := by
  simp only [members, List.map_append, List.mem_append, Json.mem_map_member?] at h
  rcases h with ⟨rfl, _⟩ | h
  · exact List.mem_cons_self
  · exact List.mem_cons_of_mem _ h

theorem ofFields?_of_hold {board : Board} {fields : Document.Fields}
    (hold : fields.Hold board.members) : ofFields? fields = some board := by
  have prepareAppId : fields.perhaps? "prepareAppId" Document.text? = some board.prepareAppId :=
    hold.perhaps? (by simp [members, List.lookup_append, List.lookup_cons]) reads_text
      string_present
  have loadInputs : fields.given? "loadInputs" [] (Document.listOf? Field.ofDocument?) =
      some board.loadInputs :=
    hold.given? (by simp [members, List.lookup_append, Field.listToJson]) Field.reads.list
  have actionInputs : fields.given? "actionInputs" [] (Document.listOf? Field.ofDocument?) =
      some board.actionInputs :=
    hold.given? (by simp [members, List.lookup_append, List.lookup_cons, Field.listToJson])
      Field.reads.list
  have actions : fields.given? "actions" [] (Document.listOf? Action.ofDocument?) =
      some board.actions :=
    hold.given? (by simp [members, List.lookup_append, List.lookup_cons]) Action.reads.list
  have bindings : fields.given? "bindings" [] (Document.listOf? Binding.ofDocument?) =
      some board.bindings :=
    hold.given? (by simp [members, List.lookup_append, List.lookup_cons]) Binding.reads.list
  have layout : fields.given? "layout" ⟨[]⟩ Layout.ofDocument? = some board.layout :=
    hold.given? (by simp [members, List.lookup_append, List.lookup_cons]) Layout.reads
  simp [ofFields?, prepareAppId, loadInputs, actionInputs, actions, bindings, layout]

theorem reads : Reads toJson ofDocument? := by
  intro board form json same
  obtain ⟨fields, found, hold⟩ := fields?_of_arranged form fieldNames same board.distinct
  simp [ofDocument?, found, ofFields?_of_hold hold]

end Board

theorem Dashboard.reads : Reads toJson ofDocument? := by
  intro dashboard form json same
  have apart : ∀ name ∈ Board.fieldNames, name ∉ ["id", "name"] := by decide
  have foreign : ∀ name ∈ dashboard.board.members.map Prod.fst, name ∉ ["id", "name"] :=
    fun name listed => apart name (Board.mem_fieldNames listed)
  rw [toJson, ← List.append_nil (_ ++ _)] at same
  obtain ⟨fields, rest, found, hold, kept⟩ :=
    openFields?_of_arranged form ["id", "name"] same (by simp) foreign (by simp)
      dashboard.board.distinct
  have id : fields.required? "id" Document.text? = some dashboard.id :=
    hold.required? (by simp) reads_text
  have name : fields.given? "name" "" Document.text? = some dashboard.name :=
    hold.given? (by simp [List.lookup_cons]) reads_text
  obtain ⟨inner, foundInner, holdInner⟩ :=
    fieldsNamed?_of_kept Board.fieldNames kept dashboard.board.distinct
  have own : dashboard.board.members.filter (Board.fieldNames.contains ·.1) =
      dashboard.board.members :=
    List.filter_eq_self.mpr fun member listed =>
      List.contains_iff_mem.mpr (Board.mem_fieldNames (List.mem_map_of_mem listed))
  rw [own] at holdInner
  simp [ofDocument?, found, id, name, foundInner, Board.ofFields?_of_hold holdInner]

theorem Column.reads : Reads toJson ofDocument? := by
  intro column form json same
  obtain ⟨fields, found, hold⟩ := fields?_of_arranged form
    ["name", "data_type", "nullable", "is_primary_key"] same (by simp)
  have name : fields.required? "name" Document.text? = some column.name :=
    hold.required? (by simp) reads_text
  have dataType : fields.required? "data_type" Document.text? = some column.dataType :=
    hold.required? (by simp [List.lookup_cons]) reads_text
  have nullable : fields.given? "nullable" true Document.bool? = some column.nullable :=
    hold.given? (by simp [List.lookup_cons]) reads_bool
  have isPrimaryKey : fields.given? "is_primary_key" false Document.bool? =
      some column.isPrimaryKey :=
    hold.given? (by simp [List.lookup_cons]) reads_bool
  simp [ofDocument?, found, name, dataType, nullable, isPrimaryKey]

theorem Table.reads : Reads toJson ofDocument? := by
  intro table form json same
  obtain ⟨fields, found, hold⟩ := fields?_of_arranged form
    ["name", "schema", "columns", "primary_key"] same (by simp [List.nodup_append])
  have name : fields.required? "name" Document.text? = some table.name :=
    hold.required? (by simp) reads_text
  have schema : fields.perhaps? "schema" Document.text? = some table.schema :=
    hold.perhaps? (by simp [List.lookup_append, List.lookup_cons]) reads_text string_present
  have columns : fields.required? "columns" (Document.listOf? Column.ofDocument?) =
      some table.columns :=
    hold.required? (by simp [List.lookup_append, List.lookup_cons]) Column.reads.list
  have primaryKey : fields.given? "primary_key" [] (Document.listOf? Document.text?) =
      some table.primaryKey :=
    hold.given? (by simp [List.lookup_append, List.lookup_cons]) reads_strings
  simp [ofDocument?, found, name, schema, columns, primaryKey]

theorem Schema.reads_tables {tables : Dict Table} {form : Document.Form} {json : Json}
    (same : Arranged (.object (tables.toList.map fun (name, table) => (name, table.toJson))) json) :
    tablesOf? (Document.shaped form json) = some tables := by
  obtain _ | _ | _ | _ | _ | @⟨_, arranged, placed⟩ := same
  obtain ⟨again, perm, read⟩ := Table.reads.entries form placed
  rw [Document.shaped, tablesOf?, Document.entries?_shapedMembers]
  simp only [read, Option.bind_eq_bind, Option.bind_some, Option.pure_def,
    Dict.ofPairs_of_perm perm]

theorem Schema.reads : Reads toJson ofDocument? := by
  intro schema form json same
  obtain ⟨fields, found, hold⟩ := fields?_of_arranged form ["tables"] same (by simp)
  have tables : fields.required? "tables" tablesOf? = some schema.tables :=
    hold.required? (x := schema.tables) (by simp) fun tables form json => reads_tables
  simp [ofDocument?, found, tables]

namespace Board

theorem stored_normalize (board : Board) : board.normalize.stored = board.stored := rfl

theorem ofStored?_of_arranged {board : Board} {layout : Layout} {json : Json}
    (same : Arranged { board with layout }.toJson json) :
    ofStored? (.ofJson json) = some board.normalize := by
  rw [ofStored?, Document.ofJson_eq_shaped, reads _ _ _ same]
  rfl

theorem layout_of_ofStored? {document : Document} {board : Board}
    (h : ofStored? document = some board) : board.layout = .ofActions board.actions := by
  obtain ⟨found, _, rfl⟩ := Option.map_eq_some_iff.mp h
  rfl

end Board

/-- Whatever is stored is read back as it was, in whatever order members come. Boards are read back
with the layout of their actions, whichever layout was stored with them, and then stored again as
the same text. -/
theorem stored_restored :
    (∀ (field : Field) json, field.toJson.Arranged json →
      Field.ofDocument? (.ofJson json) = some field) ∧
    (∀ (query : Query) json, query.toJson.Arranged json →
      Query.ofDocument? (.ofJson json) = some query) ∧
    (∀ (app : App) json, app.toJson.Arranged json → App.ofDocument? (.ofJson json) = some app) ∧
    (∀ (resource : Resource) json, resource.toJson.Arranged json →
      Resource.ofDocument? (.ofJson json) = some resource) ∧
    (∀ (dashboard : Dashboard) json, dashboard.toJson.Arranged json →
      Dashboard.ofDocument? (.ofJson json) = some dashboard) ∧
    (∀ (board : Board) json, board.toJson.Arranged json →
      Board.ofDocument? (.ofJson json) = some board) ∧
    (∀ (schema : Schema) json, schema.toJson.Arranged json →
      Schema.ofDocument? (.ofJson json) = some schema) ∧
    (∀ (board : Board) json, board.stored.Arranged json →
      Board.ofStored? (.ofJson json) = some { board with layout := .ofActions board.actions }) ∧
    (∀ (board again : Board), Board.ofStored? (.ofJson board.stored) = some again →
      again.stored.compact = board.stored.compact) ∧
    (∀ (board : Board) stale json, { board with layout := stale }.toJson.Arranged json →
      Board.ofStored? (.ofJson json) = some { board with layout := .ofActions board.actions }) ∧
    ∀ document board, Board.ofStored? document = some board →
      board.layout = .ofActions board.actions := by
  have restored {α : Type} {write : α → Json} {read : Document → Option α}
      (reads : Reads write read) (x : α) (json : Json) (same : (write x).Arranged json) :
      read (.ofJson json) = some x := by
    rw [Document.ofJson_eq_shaped]
    exact reads x .json json same
  refine ⟨restored Field.reads, restored Query.reads, restored App.reads, restored Resource.reads,
    restored Dashboard.reads, restored Board.reads, restored Schema.reads,
    fun _ _ => Board.ofStored?_of_arranged, fun board again h => ?_,
    fun _ _ _ => Board.ofStored?_of_arranged, fun _ _ => Board.layout_of_ofStored?⟩
  have read : Board.ofStored? (.ofJson board.stored) = some board.normalize :=
    Board.ofStored?_of_arranged (.refl board.stored)
  rw [Option.some.inj (h.symm.trans read), Board.stored_normalize]

/-- A dashboard that was stored with the layout of other actions. -/
def moved : Board :=
  ⟨none, [], [⟨"f", "note", .text (some 80), false, none⟩],
    [⟨"a1", "app", "", some "Billing", false, none, none, none, none⟩,
     ⟨"a2", "app", "", none, false, none, none, none, none⟩,
     ⟨"a3", "app", "", some "Billing", false, none, none, none, none⟩],
    [⟨"a1", "note", .actionInput "f"⟩], ⟨[⟨"Gone", ["zzz"]⟩]⟩⟩

/-- The stored layout gives way, and a query is read whose members are in another order. -/
theorem stored_restored_moved :
    Board.ofDocument? (.ofJson moved.toJson) = some moved ∧
      Board.ofStored? (.ofJson moved.toJson) =
        some { moved with layout := ⟨[⟨"Billing", ["a1", "a3"]⟩, ⟨"default", ["a2"]⟩]⟩ } ∧
      Query.ofDocument? (.ofJson (.object [("rawSqlParams", .array []),
        ("rawSql", .string "SELECT 1"), ("mode", .string "raw")])) =
          some (.raw ⟨"SELECT 1", []⟩) := by
  obtain ⟨_, queries, _, _, _, boards, _, _, _, stale, _⟩ := stored_restored
  refine ⟨boards moved _ (.refl _), stale moved moved.layout _ (.refl _), queries _ _ ?_⟩
  -- The tag moves behind the other members, and the parameters before the statement.
  refine .object (@Placed.cons Arranged "mode" _ _ _ [_, _] [] (.string "raw") ?_)
  refine @Placed.cons Arranged "rawSql" _ _ _ [_] [] (.string "SELECT 1") ?_
  exact @Placed.cons Arranged "rawSqlParams" _ _ _ [] [] (.array .nil) .nil

end Runbook

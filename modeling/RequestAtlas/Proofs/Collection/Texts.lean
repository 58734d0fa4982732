import RequestAtlas.Collection.Json
import RequestAtlas.Proofs.Collection.Sources
import RequestAtlas.Proofs.Json.RoundTrip

/-!
# The texts of a collection

A collection is handed on as a text, and the bodies of its requests are texts within
it. Both are read back as what was written: the text of a collection as its document,
and the text of a body as the payload of the request, fields in their order
(`texts_read_back`).

A document is at most eleven values deep, however large the collection, so every
reader that goes as deep takes it. A payload may be as deep as an analysis makes it.
-/

namespace RequestAtlas

open Json (ExactWithin)

/-! ## Documents -/

namespace Json.Fields

variable {key : String} {value : Option Json}

theorem keys_append (fields rest : Fields) : keys (fields ++ rest) = keys fields ++ keys rest :=
  List.map_append

theorem keys_optional_sublist : (keys (optional key value)).Sublist [key] := by
  cases value with
  | none => exact List.nil_sublist _
  | some v => exact List.Sublist.refl _

theorem forall_optional {P : Json → Prop} (h : ∀ v ∈ value, P v) :
    ∀ field ∈ optional key value, P field.2 := by
  cases value with
  | none => exact fun _ h => nomatch h
  | some v => exact List.forall_mem_singleton.2 (h v rfl)

end Json.Fields

theorem Parameter.exactWithin_toJson (p : Parameter) : p.toJson.ExactWithin 1 := by
  refine .obj (by decide : ["key", "value", "disabled"].Nodup) ?_
  simp [ExactWithin.str, ExactWithin.bool]

theorem Parameter.exactWithin_toVariable (p : Parameter) : p.toVariable.ExactWithin 1 := by
  refine .obj (by decide : ["key", "value", "type"].Nodup) ?_
  simp [ExactWithin.str]

theorem FormField.exactWithin_toJson (field : FormField) : field.toJson.ExactWithin 1 := by
  cases field with
  | file key source =>
      refine .obj (by decide : ["key", "type", "src"].Nodup) ?_
      simp [ExactWithin.str]
  | text key value =>
      refine .obj (by decide : ["key", "type", "value"].Nodup) ?_
      simp [ExactWithin.str]

theorem Url.exactWithin_toJson (u : Url) : u.toJson.ExactWithin 3 := by
  have hquery : (Json.arr (u.query.map Parameter.toJson)).ExactWithin 2 :=
    .arr (List.forall_mem_map.2 fun p _ => p.exactWithin_toJson)
  have htexts (ss : List String) : (Json.strings ss).ExactWithin 2 := .strings ss
  refine .obj ?_ ?_
  · -- the parts that are there stand in the order of all parts
    refine List.Sublist.nodup ?_
      (by decide : ["raw", "protocol", "host", "port", "path", "query"].Nodup)
    simp only [Json.Fields.keys_append]
    have hif : (Json.Fields.keys (if u.query.isEmpty then []
        else [("query", .arr (u.query.map Parameter.toJson))])).Sublist ["query"] := by
      split
      · exact List.nil_sublist _
      · exact List.Sublist.refl _
    exact ((((Json.Fields.keys_optional_sublist.cons_cons "raw").append
      Json.Fields.keys_optional_sublist).append Json.Fields.keys_optional_sublist).append
        (List.Sublist.refl ["path"])).append hif
  · have hoption (key : String) (part : Option String) :
        ∀ field ∈ Json.Fields.optional key (part.map .str), field.2.ExactWithin 2 :=
      Json.Fields.forall_optional fun v hv => by
        obtain ⟨s, -, rfl⟩ := Option.map_eq_some_iff.1 hv
        exact .str s
    have hhost : ∀ field ∈ Json.Fields.optional "host" (Json.strings? u.host),
        field.2.ExactWithin 2 := by
      refine Json.Fields.forall_optional fun v hv => ?_
      rw [Json.strings?] at hv
      split at hv
      · cases hv
      · cases hv
        exact htexts u.host
    simp only [List.forall_mem_append, List.forall_mem_cons]
    refine ⟨⟨⟨⟨⟨.str _, hoption _ _⟩, hhost⟩, hoption _ _⟩, htexts u.path, ?_⟩, ?_⟩
    · exact fun _ h => nomatch h
    · split
      · exact fun _ h => nomatch h
      · exact List.forall_mem_singleton.2 hquery

theorem Body.exactWithin_toJson (b : Body) : b.toJson.ExactWithin 3 := by
  cases b with
  | json payload =>
      have hlanguage : (Json.obj [("language", .str "json")]).ExactWithin 1 :=
        .obj (by decide : ["language"].Nodup) (by simp [ExactWithin.str])
      have hoptions : (Json.obj [("raw", .obj [("language", .str "json")])]).ExactWithin 2 :=
        .obj (by decide : ["raw"].Nodup) (List.forall_mem_singleton.2 hlanguage)
      refine .obj (by decide : ["mode", "raw", "options"].Nodup) ?_
      simp [ExactWithin.str, hoptions]
  | form fields =>
      have hfields : (Json.arr (fields.map FormField.toJson)).ExactWithin 2 :=
        .arr (List.forall_mem_map.2 fun field _ => field.exactWithin_toJson)
      refine .obj (by decide : ["mode", "formdata"].Nodup) ?_
      simp [ExactWithin.str, hfields]

theorem Request.exactWithin_toJson (r : Request) : r.toJson.ExactWithin 5 := by
  have hheaders : (Json.arr (r.headers.map Parameter.toJson)).ExactWithin 3 :=
    (ExactWithin.arr (List.forall_mem_map.2 fun p _ => p.exactWithin_toJson)).mono (by decide)
  have hbody : ∀ field ∈ Json.Fields.optional "body" (r.body.map Body.toJson),
      field.2.ExactWithin 3 :=
    Json.Fields.forall_optional fun v hv => by
      obtain ⟨b, -, rfl⟩ := Option.map_eq_some_iff.1 hv
      exact b.exactWithin_toJson
  have hrequest : (Json.obj ([("method", .str r.method.name),
      ("header", .arr (r.headers.map Parameter.toJson)), ("url", r.url.toJson)] ++
        Json.Fields.optional "body" (r.body.map Body.toJson))).ExactWithin 4 := by
    refine .obj ?_ (List.forall_mem_append.2 ⟨?_, hbody⟩)
    · rw [Json.Fields.keys_append]
      exact ((List.Sublist.refl ["method", "header", "url"]).append
        Json.Fields.keys_optional_sublist).nodup (by decide)
    · simp [ExactWithin.str, hheaders, r.url.exactWithin_toJson]
  refine .obj (by decide : ["name", "request"].Nodup) ?_
  simp only [List.forall_mem_cons]
  exact ⟨.str _, hrequest, fun _ h => nomatch h⟩

/-- A named list of documents, as a group or a folder is one, is two values deeper than
they are. -/
theorem Json.ExactWithin.items {n : Nat} (name : String) {items : List Json}
    (h : ∀ item ∈ items, item.ExactWithin n) :
    (Json.obj [("name", .str name), ("item", .arr items)]).ExactWithin (n + 2) := by
  refine .obj (by decide : ["name", "item"].Nodup) ?_
  simp [ExactWithin.str, ExactWithin.arr h]

theorem Group.exactWithin_toJson (g : Group) : g.toJson.ExactWithin 7 :=
  .items g.name (List.forall_mem_map.2 fun r _ => r.exactWithin_toJson)

theorem Entry.exactWithin_toJson (e : Entry) : e.toJson.ExactWithin 7 := by
  cases e with
  | request r => exact r.exactWithin_toJson.mono (by decide)
  | group g => exact g.exactWithin_toJson

theorem Folder.exactWithin_toJson (f : Folder) : f.toJson.ExactWithin 9 :=
  .items f.name (List.forall_mem_map.2 fun e _ => e.exactWithin_toJson)

/-- The document of a collection is eleven values deep. -/
theorem Collection.exactWithin_toJson (c : Collection) : c.toJson.ExactWithin 11 := by
  have hinfo : c.infoJson.ExactWithin 1 := by
    refine .obj (by decide : ["name", "description", "schema"].Nodup) ?_
    simp [ExactWithin.str]
  have hfolders : (Json.arr (c.folders.map Folder.toJson)).ExactWithin 10 :=
    .arr (List.forall_mem_map.2 fun f _ => f.exactWithin_toJson)
  have hparameters : (Json.arr (c.parameters.map Parameter.toVariable)).ExactWithin 10 :=
    (ExactWithin.arr (List.forall_mem_map.2 fun p _ => p.exactWithin_toVariable)).mono (by decide)
  refine .obj (by decide : ["info", "item", "variable"].Nodup) ?_
  simp [hinfo.mono, hfolders, hparameters]

/-- The text of a collection is read back as its document. -/
theorem Collection.read_text (c : Collection) : Json.read c.text = .ok c.toJson :=
  c.exactWithin_toJson.read_indented (Json.allows_outerLimits_iff.2 (by decide))

/-! ## Payloads -/

theorem Sample.exactWithin_value (now : Timestamp) (type field : String) :
    (value now type field).ExactWithin 1 := by
  -- one case for every rule
  rw [value]
  split
  · exact .str _
  split
  · exact .str _
  split
  · exact .int (by decide)
  split
  · exact .bool false
  split
  · exact .str _
  split
  · exact .strings ["value"]
  · exact .str _

theorem Sample.exact_body {limits : Json.Limits} (hroom : limits.Allows 1)
    (hdigit : limits.AllowsDigit) (now : Timestamp) (table : Table) (excluded : List String) :
    (body now table excluded).Exact limits :=
  .ofPairs (List.forall_mem_map.2 fun c _ => exactWithin_value now c.type c.name limits hroom hdigit)

theorem Sample.exactWithin_body (now : Timestamp) (table : Table) (excluded : List String) :
    (Json.obj (body now table excluded)).ExactWithin 2 :=
  .fields fun _ hroom hdigit => exact_body hroom hdigit now table excluded

/-- Whether the payload of a request, if there is one, is read back from its text by a
reader within limits. -/
def Request.HasExactPayload (limits : Json.Limits) (r : Request) : Prop :=
  ∀ payload, r.body = some (.json payload) → payload.Exact limits

namespace Target

variable {t : Target} {r : Request} {limits : Json.Limits}

theorem exactWithin_updateRows (t : Target) (table : Table) :
    ∀ row ∈ t.updateRows table, row.ExactWithin 2 := by
  refine List.forall_mem_map.2 fun row _ => .fields fun limits hroom hdigit => ?_
  have hdata := Sample.exact_body hroom hdigit t.now table [Sample.guidField]
  have hguid : Json.Fields.Exact limits [(Sample.guidField, .str row)] :=
    .cons List.not_mem_nil (.str row) .nil
  exact hguid.setAll fun field hfield => hdata.values field (List.mem_of_mem_take hfield)

theorem exactWithin_countPipeline : countPipeline.ExactWithin 4 := by
  have hsum : (Json.obj [("$sum", .int 1)]).ExactWithin 1 :=
    .obj (by decide) (List.forall_mem_singleton.2 (.int (by decide)))
  have hgroup : (Json.obj [("_id", .null), ("count", .obj [("$sum", .int 1)])]).ExactWithin 2 := by
    refine .obj (by decide) ?_
    simp [ExactWithin.null, hsum]
  refine .arr (List.forall_mem_singleton.2 ?_)
  exact .obj (by decide) (List.forall_mem_singleton.2 hgroup)

theorem exactWithin_of_writeBody {n : Nat} {data payload : Json} (hdata : data.ExactWithin n)
    (h : writeBody data = .json payload) : payload.ExactWithin (n + 1) := by
  cases h
  refine .obj (by decide : ["data", "disable_faas"].Nodup) ?_
  simp [hdata, ExactWithin.bool]

/-- The payload of a request of a table is at most six values deep. -/
theorem exactWithin_tableRequests {table : Table} {payload : Json}
    (h : r ∈ t.tableRequests table) (hbody : r.body = some (.json payload)) :
    payload.ExactWithin 6 := by
  simp only [tableRequests, List.mem_cons, List.not_mem_nil, or_false] at h
  rcases h with rfl | rfl | rfl | rfl | rfl | rfl | rfl | rfl | rfl
  case inr.inr.inr.inl =>
    have hdata := Sample.exactWithin_body t.now table [Sample.guidField]
    exact (exactWithin_of_writeBody hdata (Option.some.inj hbody)).mono (by decide)
  case inr.inr.inr.inr.inl =>
    have hdata := Sample.exactWithin_body t.now table []
    exact (exactWithin_of_writeBody hdata (Option.some.inj hbody)).mono (by decide)
  case inr.inr.inr.inr.inr.inl =>
    have hrows : (Json.obj [("objects", .arr (t.updateRows table))]).ExactWithin 4 :=
      .obj (by decide : ["objects"].Nodup)
        (List.forall_mem_singleton.2 (.arr (t.exactWithin_updateRows table)))
    exact (exactWithin_of_writeBody hrows (Option.some.inj hbody)).mono (by decide)
  case inr.inr.inr.inr.inr.inr.inr.inl =>
    cases hbody
    exact .obj (by decide : ["ids"].Nodup) (List.forall_mem_singleton.2 (.strings rowVariables))
  case inr.inr.inr.inr.inr.inr.inr.inr =>
    cases hbody
    refine .obj (by decide : ["data"].Nodup) (List.forall_mem_singleton.2 ?_)
    exact .obj (by decide) (List.forall_mem_singleton.2 exactWithin_countPipeline)
  -- the requests without a body
  all_goals cases hbody

theorem hasExactPayload_tableRequests (hroom : limits.Allows 6) (hdigit : limits.AllowsDigit)
    {table : Table} (h : r ∈ t.tableRequests table) : r.HasExactPayload limits :=
  fun _ hbody => exactWithin_tableRequests h hbody limits hroom hdigit

theorem hasExactPayload_filesFolder (h : r ∈ t.filesFolder.requests) :
    r.HasExactPayload limits := by
  intro payload hbody
  simp only [filesFolder, Folder.requests, List.flatMap_cons, List.flatMap_nil, Entry.requests,
    List.append_nil, List.cons_append, List.nil_append, List.mem_cons, List.not_mem_nil,
    or_false] at h
  rcases h with rfl | rfl <;> cases hbody

theorem hasExactPayload_signInRequests {names : SignInNames} {bodies : SignIn}
    (hbodies : ∀ v ∈ [bodies.register, bodies.login, bodies.loginWithOptions, bodies.sendCode,
      bodies.resetPassword], v.Exact limits)
    (h : r ∈ t.signInRequests names bodies) : r.HasExactPayload limits := by
  intro payload hbody
  refine hbodies payload ?_
  simp only [signInRequests, List.mem_cons, List.not_mem_nil, or_false] at h
  rcases h with rfl | rfl | rfl | rfl | rfl <;> cases hbody <;> simp

theorem exactWithin_sendCodeBody (t : Target) : t.sendCodeBody.ExactWithin 6 :=
  .texts (by decide : ["phone", "project_id"].Nodup) (by simp)

theorem hasExactPayload_authRequests (hroom : limits.Allows 6) (hdigit : limits.AllowsDigit)
    (h : r ∈ t.authRequests) : r.HasExactPayload limits := by
  refine hasExactPayload_signInRequests (fun v hv => ?_) h
  have hwithin : v.ExactWithin 6 := by
    revert v
    simp only [List.forall_mem_cons]
    refine ⟨?_, ?_, ?_, t.exactWithin_sendCodeBody, ?_, fun _ h => nomatch h⟩
    · exact .texts (by decide : ["login", "password", "name", "phone"].Nodup) (by simp)
    · exact .texts (by decide : ["login", "password", "project_id"].Nodup) (by simp)
    · exact .texts (by decide : ["login", "password"].Nodup) (by simp)
    · exact .texts (by decide : ["login", "new_password", "code"].Nodup) (by simp)
  exact hwithin limits hroom hdigit

/-- The bodies that a specification gives to the sign-in requests of its table. -/
def givenBodies (t : Target) (spec : AuthSpec) : List Json :=
  [.obj spec.registerFields, .obj (spec.signInFields.set "project_id" (.str t.project)),
    .obj spec.signInFields]

theorem exact_givenBodies {spec : AuthSpec} (hregister : spec.registerFields.Exact {})
    (hlogin : spec.loginBody.Exact {}) : ∀ body ∈ t.givenBodies spec, body.Exact {} := by
  have hfields : spec.signInFields.Exact {} := by
    rw [AuthSpec.signInFields]
    split
    · exact ⟨(by decide : ["login", "password"].Nodup), by simp [Json.Exact.str]⟩
    · exact hlogin
  simp only [givenBodies, List.forall_mem_cons]
  exact ⟨Json.exact_obj_iff.2 hregister, Json.exact_obj_iff.2 (hfields.set (.str _)),
    Json.exact_obj_iff.2 hfields, fun _ h => nomatch h⟩

theorem exactWithin_resetPassword :
    (Json.obj [("login", .str ""), ("new_password", .str ""), ("code", .str "123456")]).ExactWithin
      6 :=
  .texts (by decide : ["login", "new_password", "code"].Nodup) (by simp)

theorem hasExactPayload_specRequests (hroom : limits.Allows 6) (hdigit : limits.AllowsDigit)
    {spec : AuthSpec} (hgiven : ∀ body ∈ t.givenBodies spec, body.Exact limits)
    (h : r ∈ t.specRequests spec) : r.HasExactPayload limits := by
  refine hasExactPayload_signInRequests ?_ h
  simp only [givenBodies, List.forall_mem_cons] at hgiven ⊢
  obtain ⟨hregister, hlogin, hoptions, -⟩ := hgiven
  exact ⟨hregister, hlogin, hoptions, t.exactWithin_sendCodeBody limits hroom hdigit,
    exactWithin_resetPassword limits hroom hdigit, fun _ h => nomatch h⟩

theorem hasExactPayload_requests (hroom : limits.Allows 6) (hdigit : limits.AllowsDigit)
    {schema : Schema} {analysis : Analysis} {selection : Option (List String)}
    (h : ∀ spec ∈ analysis.authTables, ∀ body ∈ t.givenBodies spec, body.Exact limits) :
    ∀ c ∈ [t.standard schema, t.organized schema analysis selection],
      ∀ r ∈ c.requests, r.HasExactPayload limits :=
  forall_requests (fun _ hr => hasExactPayload_authRequests hroom hdigit hr)
    (fun spec hspec _ hr => hasExactPayload_specRequests hroom hdigit (h spec hspec) hr)
    (fun _ hr => hasExactPayload_filesFolder hr)
    fun _ _ hr => hasExactPayload_tableRequests hroom hdigit hr

/-- The text of a collection is read back as its document, and the text of a body in it
as the payload it was made of: at any depth by a reader without limits, and by the
reader of this service if the payload is within its limits. -/
theorem texts_read_back (t : Target) (schema : Schema) (analysis : Analysis)
    (selection : Option (List String))
    (h : ∀ spec ∈ analysis.authTables, spec.registerFields.Exact {} ∧ spec.loginBody.Exact {}) :
    ∀ c ∈ [t.standard schema, t.organized schema analysis selection],
      Json.read c.text = .ok c.toJson ∧
        ∀ r ∈ c.requests, ∀ b ∈ r.body, ∀ raw, b.toJson.get? "raw" = some (.str raw) →
          ∃ payload, b = .json payload ∧ Json.readWhole {} raw.toList = .ok payload ∧
            (payload.Exact Json.outerLimits → Json.read raw = .ok payload) := by
  intro c hc
  refine ⟨c.read_text, fun r hr b hb raw hraw => ?_⟩
  cases b with
  | form fields => cases hraw
  | json payload =>
      obtain rfl : payload.indented = raw := Json.str.inj (Option.some.inj hraw)
      have hgiven : ∀ spec ∈ analysis.authTables, ∀ body ∈ t.givenBodies spec, body.Exact {} :=
        fun spec hspec => exact_givenBodies (h spec hspec).1 (h spec hspec).2
      have hexact : payload.Exact {} :=
        hasExactPayload_requests (Json.Limits.allows_unlimited 6)
          Json.Limits.allowsDigit_unlimited hgiven c hc r hr payload hb
      refine ⟨payload, rfl, ?_, Json.read_indented⟩
      rw [Json.indented, String.toList_ofList]
      exact Json.readWhole_print Json.Style.isSpaced_indented hexact

/-- A body with quotes, backslashes and control characters in its keys and values, and
with empty containers inside others. -/
theorem texts_read_back_nested :
    let fields : Json.Fields :=
      [("a\"b", .obj [("k", .arr [.null, .int (-50), .bool true, .arr [], .obj []])]),
        ("\n\x01\\", .str "\x1f\"\t")]
    let spec : AuthSpec := { table := "users", registerFields := fields }
    let c := (default : Target).organized ⟨[], []⟩ { authTables := [spec] } none
    Json.read c.text = .ok c.toJson ∧
      ∃ r ∈ c.requests, ∃ b ∈ r.body, ∃ raw, b.toJson.get? "raw" = some (.str raw) ∧
        Json.readWhole {} raw.toList = .ok (.obj fields) ∧ Json.read raw = .ok (.obj fields) := by
  intro fields spec c
  have hitems : ∀ item ∈ [Json.null, .int (-50), .bool true, .arr [], .obj []],
      item.Exact ⟨some 4300, some 967⟩ := by
    simp only [List.forall_mem_cons]
    refine ⟨.null, .int ?_, .bool true, .arr rfl ?_, .obj rfl List.nodup_nil ?_, ?_⟩
    · rintro d ⟨⟩
      decide
    all_goals exact fun _ h => nomatch h
  have hfields : (Json.obj fields).Exact Json.outerLimits := by
    refine .obj rfl (by decide) ?_
    simp only [fields, List.forall_mem_cons]
    refine ⟨.obj rfl (by decide) ?_, .str _, fun _ h => nomatch h⟩
    exact List.forall_mem_singleton.2 (.arr rfl hitems)
  obtain ⟨htext, hbodies⟩ := texts_read_back default ⟨[], []⟩ { authTables := [spec] } none
    (List.forall_mem_singleton.2 ⟨Json.exact_obj_iff.1 hfields.unlimited, .nil⟩) c (by simp [c])
  have hregister : ((default : Target).specRequests spec)[0] ∈ c.requests := by decide +kernel
  obtain ⟨payload, hpayload, hwhole, hread⟩ := hbodies _ hregister _ rfl _ rfl
  cases hpayload
  exact ⟨htext, _, hregister, _, rfl, _, rfl, hwhole, hread hfields⟩

end Target

end RequestAtlas

import RequestAtlas.Net.SchemaSource
import RequestAtlas.Proofs.Net.Exchange
import RequestAtlas.Proofs.Net.FormQuery

/-!
# What a fetch gives

A fetch puts the names of a project and an environment into the query of its address, encoded as
a form. Whatever the names are, only their length can keep the request from being sent
(`IsAt.address`).

What comes back is told apart by one reply. A failed connection and a status that says error
are failures with a message. Any other response is asked for a schema: it gives one if its
document offers one that has a length (`Response.Offers`), and it is a fault if the document has
another value where an object, or a value with a length, is taken for granted
(`Response.Confuses`). None of this is asked of a redirect that leads astray (`Reply.Strays`): it
is a failed connection or a fault, by what is wrong with its further address.
-/

namespace RequestAtlas

/-- Whether a value has a length. -/
def Json.hasLength : Json → Bool
  | .str _ | .arr _ | .obj _ => true
  | .null | .bool _ | .int _ | .float _ => false

namespace Net

/-! ## Responses -/

namespace Response

/-- Whether a document with these fields says that all is well and has the schema, which is not
empty, among its data. -/
def HasSchema (fields : Json.Fields) (schema : Json) : Prop :=
  fields.lookup "status" = some (.str "OK") ∧ schema.isEmpty = false ∧
    ∃ data, fields.lookup "data" = some (.obj data) ∧ data.lookup "dbml" = some schema

/-- Whether a document with these fields has something else where its data should be. -/
def HasOtherData (fields : Json.Fields) : Prop :=
  ∃ v, fields.lookup "data" = some v ∧ v.isEmpty = false ∧ ∀ data, v ≠ .obj data

variable [Json.OuterDepth]

/-- Whether a response offers a schema. -/
def Offers (r : Response) (schema : Json) : Prop :=
  ∃ fields, r.document = .ok (.obj fields) ∧ HasSchema fields schema

/-- Whether a response has something else where a schema or its data should be, or is nested
too deep to be read. -/
inductive Confuses (r : Response) : Fault → Prop
  | data {fields : Json.Fields} (hread : r.document = .ok (.obj fields))
      (hdata : HasOtherData fields) : Confuses r .notObject
  | schema {v : Json} (hoffers : r.Offers v) (hlength : v.hasLength = false) : Confuses r .noLength
  | depth {container : Json.Container} (hread : r.document = .error (.tooDeep container)) :
      Confuses r (.tooDeep (Json.ReadError.tooDeep container).message)

end Response

namespace SchemaSource

/-! ### Documents -/

section

variable {fields data : Json.Fields} {schema v : Json}

/-- What stands where a document with these fields has its schema; null if there is nothing. -/
def schemaOf (fields : Json.Fields) : Json :=
  ((fields.lookup "data").bind (Json.get? "dbml")).getD .null

/-- What a document with these fields gives when `schema` stands where its schema should be. -/
def ofSchema (fields : Json.Fields) (schema : Json) : Except FetchError Json :=
  if fields.lookup "status" ≠ some (.str "OK") ∨ schema.isEmpty then
    let description := (fields.lookup "description").getD .null
    .error (.failed (if description.isEmpty then noReason else description.shown))
  else match schema with
    | .int _ | .float _ | .bool _ => .error (.fault .noLength)
    | v => .ok v

theorem ofDocument_obj (fields : Json.Fields) :
    ofDocument (.obj fields) =
      match (fields.lookup "data").getD .null with
      | .obj data => ofSchema fields ((data.lookup "dbml").getD .null)
      | v => if v.isEmpty then ofSchema fields .null else .error (.fault .notObject) := rfl

theorem ofDocument_of_other (h : Response.HasOtherData fields) :
    ofDocument (.obj fields) = .error (.fault .notObject) := by
  obtain ⟨v, hdata, hempty, hobject⟩ := h
  rw [ofDocument_obj, hdata]
  dsimp only [Option.getD_some]
  split
  next data => exact absurd rfl (hobject data)
  next => rw [hempty]; rfl

theorem ofDocument_of_not_other (h : ¬ Response.HasOtherData fields) :
    ofDocument (.obj fields) = ofSchema fields (schemaOf fields) := by
  rw [ofDocument_obj, schemaOf]
  cases hdata : fields.lookup "data" with
  | none => rfl
  | some v =>
      dsimp only [Option.getD_some, Option.bind_some]
      split
      next data => rfl
      next hobject =>
          cases hempty : v.isEmpty with
          | false => exact absurd ⟨v, hdata, hempty, hobject⟩ h
          | true =>
              rw [if_pos rfl]
              cases v with
              | obj data => exact absurd rfl (hobject data)
              | _ => rfl

theorem schemaOf_eq_iff (hv : v.isEmpty = false) :
    schemaOf fields = v ↔
      ∃ data, fields.lookup "data" = some (.obj data) ∧ data.lookup "dbml" = some v := by
  have hnull {o : Option Json} : o.getD .null = v ↔ o = some v := by
    cases o with
    | none =>
        refine ⟨fun h => ?_, fun h => nomatch h⟩
        rw [← h] at hv
        cases hv
    | some w => exact ⟨congrArg some, Option.some.inj⟩
  rw [schemaOf, hnull, Option.bind_eq_some_iff]
  constructor
  · rintro ⟨w, hdata, hschema⟩
    cases w with
    | obj data => exact ⟨data, hdata, hschema⟩
    | _ => cases hschema
  · rintro ⟨data, hdata, hschema⟩
    exact ⟨.obj data, hdata, hschema⟩

theorem hasSchema_iff :
    Response.HasSchema fields v ↔
      fields.lookup "status" = some (.str "OK") ∧ v.isEmpty = false ∧ schemaOf fields = v :=
  and_congr_right fun _ => and_congr_right fun hempty => (schemaOf_eq_iff hempty).symm

/-- Data that is no object has no schema. -/
theorem not_hasSchema (h : Response.HasOtherData fields) : ¬ Response.HasSchema fields v := by
  rintro ⟨-, -, data, hdata, -⟩
  obtain ⟨w, hw, -, hobject⟩ := h
  exact hobject data (Option.some.inj (hw.symm.trans hdata))

theorem ofSchema_of_status (hstatus : fields.lookup "status" = some (.str "OK"))
    (hempty : schema.isEmpty = false) :
    ofSchema fields schema =
      if schema.hasLength then .ok schema else .error (.fault .noLength) := by
  have hoffered : ¬ (fields.lookup "status" ≠ some (.str "OK") ∨ schema.isEmpty = true) := by
    rintro (hother | hsome)
    · exact hother hstatus
    · rw [hempty] at hsome; cases hsome
  cases schema with
  | null => cases hempty
  | bool b => exact if_neg hoffered
  | int i => exact if_neg hoffered
  | float x => exact if_neg hoffered
  | str s => exact if_neg hoffered
  | arr items => exact if_neg hoffered
  | obj fields => exact if_neg hoffered

theorem ofDocument_of_hasSchema (h : Response.HasSchema fields v) :
    ofDocument (.obj fields) = if v.hasLength then .ok v else .error (.fault .noLength) := by
  have hother : ¬ Response.HasOtherData fields := fun hother => not_hasSchema hother h
  obtain ⟨hstatus, hempty, hschema⟩ := hasSchema_iff.1 h
  rw [ofDocument_of_not_other hother, hschema, ofSchema_of_status hstatus hempty]

theorem ofDocument_cases (fields : Json.Fields) :
    (∃ message, ofDocument (.obj fields) = .error (.failed message)) ∨
      Response.HasOtherData fields ∨ ∃ v, Response.HasSchema fields v := by
  by_cases hother : Response.HasOtherData fields
  · exact .inr (.inl hother)
  · rw [ofDocument_of_not_other hother]
    unfold ofSchema
    split
    · exact .inl ⟨_, rfl⟩
    next hoffered =>
        rw [not_or, Bool.not_eq_true] at hoffered
        exact .inr (.inr ⟨schemaOf fields,
          hasSchema_iff.2 ⟨Decidable.not_not.1 hoffered.1, hoffered.2, rfl⟩⟩)

end

/-! ### Statuses -/

section

variable [Json.OuterDepth] {r : Response} {v : Json} {f : Fault}

theorem ofResponse_of_isError (h : isError r.status = true) :
    ofResponse r = .error (.failed ("HTTP " ++ toString r.status ++ ": " ++ phrase r.status)) := by
  rw [ofResponse, if_pos h]

theorem ofResponse_of_document {fields : Json.Fields} (hstatus : isError r.status = false)
    (hread : r.document = .ok (.obj fields)) : ofResponse r = ofDocument (.obj fields) := by
  rw [ofResponse, hstatus, hread]
  rfl

theorem ofResponse_of_offers (hstatus : isError r.status = false) (h : r.Offers v) :
    ofResponse r = if v.hasLength then .ok v else .error (.fault .noLength) := by
  obtain ⟨fields, hread, hschema⟩ := h
  rw [ofResponse_of_document hstatus hread, ofDocument_of_hasSchema hschema]

theorem ofResponse_of_confuses (hstatus : isError r.status = false) (h : r.Confuses f) :
    ofResponse r = .error (.fault f) := by
  cases h with
  | data hread hdata => rw [ofResponse_of_document hstatus hread, ofDocument_of_other hdata]
  | schema hoffers hlength =>
      rw [ofResponse_of_offers hstatus hoffers, hlength]
      rfl
  | depth hread =>
      rw [ofResponse, hstatus, hread]
      rfl

theorem ofResponse_cases (r : Response) :
    (∃ message, ofResponse r = .error (.failed message)) ∨
      isError r.status = false ∧
        ((∃ v, (r.Offers v ∧ v.hasLength = true) ∧ ofResponse r = .ok v) ∨
          ∃ f, r.Confuses f ∧ ofResponse r = .error (.fault f)) := by
  cases hstatus : isError r.status with
  | true => exact .inl ⟨_, ofResponse_of_isError hstatus⟩
  | false =>
      have hconfuses {f : Fault} (h : r.Confuses f) :
          ∃ f, r.Confuses f ∧ ofResponse r = .error (.fault f) :=
        ⟨f, h, ofResponse_of_confuses hstatus h⟩
      cases hread : r.document with
      | error e =>
          cases e with
          | tooDeep container => exact .inr ⟨rfl, .inr (hconfuses (.depth hread))⟩
          | _ => exact .inl ⟨noReason, by rw [ofResponse, hstatus, hread]; rfl⟩
      | ok document =>
          cases document with
          | obj fields =>
              rcases ofDocument_cases fields with ⟨message, h⟩ | h | ⟨v, h⟩
              · exact .inl ⟨message, (ofResponse_of_document hstatus hread).trans h⟩
              · exact .inr ⟨rfl, .inr (hconfuses (.data hread h))⟩
              · have hoffers : r.Offers v := ⟨fields, hread, h⟩
                cases hlength : v.hasLength with
                | true =>
                    have hvalue := ofResponse_of_offers hstatus hoffers
                    rw [if_pos hlength] at hvalue
                    exact .inr ⟨rfl, .inl ⟨v, ⟨hoffers, hlength⟩, hvalue⟩⟩
                | false => exact .inr ⟨rfl, .inr (hconfuses (.schema hoffers hlength))⟩
          | _ => exact .inl ⟨noReason, by rw [ofResponse, hstatus, hread]; rfl⟩

theorem ofResponse_eq_fault_iff :
    ofResponse r = .error (.fault f) ↔ isError r.status = false ∧ r.Confuses f := by
  constructor
  · intro h
    rcases ofResponse_cases r with
      ⟨message, hvalue⟩ | ⟨hstatus, ⟨w, -, hvalue⟩ | ⟨g, hconfuses, hvalue⟩⟩
    · cases h.symm.trans hvalue
    · cases h.symm.trans hvalue
    · cases h.symm.trans hvalue
      exact ⟨hstatus, hconfuses⟩
  · rintro ⟨hstatus, hconfuses⟩
    exact ofResponse_of_confuses hstatus hconfuses

end

/-! ## Fetches -/

variable {s : SchemaSource} {a : Address}

variable (s a) in
/-- Whether fetches are sent to an address: it is what the source's base says, with empty names
in its query. -/
def IsAt : Prop :=
  (s.request "" "" "").address = .ok a

/-- The query of a fetch. -/
def query (projectId environmentId : String) : List Char :=
  formText [⟨"project-id", Text.trimString projectId⟩,
    ⟨"environment-id", Text.trimString environmentId⟩]

variable (s) in
/-- The address of a fetch without a query. -/
def site : Except SendError Address := do
  let a ← addressOrFault (Address.read (s.base ++ "/v1/chart"))
  addressOrFault (a.below [] [])

theorem checkHeader_of_isAscii {s : List Char} (h : s.all Text.isAscii = true) :
    checkHeader s = .ok () := by
  have hrest : s.dropWhile Text.isAscii = [] := by
    rw [List.dropWhile_eq_nil_iff]
    exact List.all_eq_true.1 h
  have hrefusal : Text.asciiRefusal? s = none := by
    rw [Text.asciiRefusal?, hrest]
    rfl
  rw [checkHeader, hrefusal]

theorem destination_eq (projectId environmentId : String) {apiKey : String}
    (hkey : apiKey.toList.all Text.isAscii = true) :
    (s.request projectId environmentId apiKey).destination =
      s.site >>= fun a =>
        addressOrFault (a.withForm (s.request projectId environmentId apiKey).form) := by
  have hheader : (s.request projectId environmentId apiKey).apiKey.forM
      (fun key => checkHeader key.toList) = .ok () := by
    unfold request
    dsimp only
    split
    · rfl
    · exact checkHeader_of_isAscii hkey
  rw [Outgoing.destination, site, bind_assoc]
  refine bind_congr fun a => bind_congr fun a => ?_
  rw [hheader]
  rfl

theorem eq_ok_of_addressOrFault {x : Except AddressFlaw Address} {a : Address}
    (h : addressOrFault x = .ok a) : x = .ok a := by
  cases x with
  | error flaw => cases h
  | ok b => exact congrArg Except.ok (Except.ok.inj h)

/-- Where one fetch is sent, another one is sent with its own query, or it is too long. -/
theorem IsAt.address (h : s.IsAt a) (projectId environmentId : String) {apiKey : String}
    (hkey : apiKey.toList.all Text.isAscii = true) :
    (s.request projectId environmentId apiKey).address =
      if Address.maxLength < (query projectId environmentId).length then
        .error (.fault .malformedAddress)
      else .ok { a with query := some (query projectId environmentId) } := by
  obtain ⟨hdestination, -, hsendable⟩ := Outgoing.address_eq_ok_iff.1 h
  rw [destination_eq _ _ rfl] at hdestination
  obtain ⟨b, hsite, hform⟩ := exists_of_bind_eq_ok hdestination
  have hother := Address.withForm_of_withForm (eq_ok_of_addressOrFault hform)
    (s.request projectId environmentId apiKey).form
  rw [Outgoing.address_eq, destination_eq _ _ hkey, hsite]
  change addressOrFault (b.withForm _) >>= _ = _
  rw [hother]
  change addressOrFault
    (if Address.maxLength < (query projectId environmentId).length then _ else _) >>= _ = _
  split
  · rfl
  · change a.checkSendable >>= _ = _
    rw [hsendable]
    rfl

section

variable [Json.OuterDepth]

/-- What a fetch makes of what comes back for it. -/
def ofOutcome : Except SendError Response → Except FetchError Json
  | .error (.failed _) => .error (.failed unreachable)
  | .error (.fault f) | .error (.refused f _) => .error (.fault f)
  | .ok r => ofResponse r

theorem ofOutcome_eq_fault_iff {reply : Reply} {f : Fault} :
    ofOutcome (reply.outcome a) = .error (.fault f) ↔
      (reply.Strays a (.fault f) ∨ ∃ message, reply.Strays a (.refused f message)) ∨
        ∃ r, reply.Gives a r ∧ isError r.status = false ∧ r.Confuses f := by
  simp only [← Reply.outcome_eq_ok_iff, Reply.strays_fault_iff, Reply.strays_refused_iff]
  rcases reply.outcome a with (message | ⟨g, message⟩ | g) | r
  · simp [ofOutcome]
  · simp [ofOutcome]
  · simp [ofOutcome]
  · simp [ofOutcome, ofResponse_eq_fault_iff]

end

theorem exists_isAt {s : SchemaSource}
    (h : (s.request "" "" "").address.toOption.isSome = true) : ∃ a, s.IsAt a := by
  obtain ⟨a, ha⟩ := Option.isSome_iff_exists.1 h
  exact ⟨a, eq_ok_of_toOption ha⟩

end SchemaSource

end Net

end RequestAtlas

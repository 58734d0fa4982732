import Mathlib.Data.List.Basic
import RequestAtlas.Proofs.Collection.Texts

/-!
# The data that a table's requests write

Three of the nine requests of a table write rows: one creates a row, one updates a row, one
updates two. A client takes their data from the texts of the bodies (`Request.data?`). The
three are made of one example row. An update has a field for every column name, in the
order in which the names come first, and its value is that of the last column of the name.
A new row leaves out the identifier, and each row of an update of several is its
identifier with the first two fields of a new row (`tableRequests_data`).

The identifier of such a row stands first and is not written over, since a new row has no
field of its name (`guidField_not_mem_createData`).
-/

namespace RequestAtlas

/-- The last column of the given name. -/
def Table.lastColumn? (table : Table) (name : String) : Option Column :=
  table.columns.findRev? (·.name == name)

/-! ## What is decoded -/

namespace Request

variable {r : Request}

/-- What a client decodes from the text of the body in the document of a request. -/
def decoded? (r : Request) : Option Json := do
  let request ← r.toJson.get? "request"
  let body ← request.get? "body"
  let .str raw ← body.get? "raw" | none
  (Json.read raw).toOption

/-- The data in the body of a request. -/
def data? (r : Request) : Option Json :=
  r.decoded?.bind (·.get? "data")

/-- The document that the body of a request was made of. -/
def payload? (r : Request) : Option Json :=
  match r.body with
  | some (.json payload) => some payload
  | _ => none

theorem decoded?_eq_payload? {n : Nat} (hroom : Json.outerLimits.Allows n)
    (h : ∀ payload, r.body = some (.json payload) → payload.ExactWithin n) :
    r.decoded? = r.payload? := by
  obtain ⟨name, method, headers, url, body⟩ := r
  cases body with
  | none => rfl
  | some body =>
      cases body with
      | form fields => rfl
      | json payload =>
          have hread := (h payload rfl).read_indented hroom
          show (Json.read payload.indented).toOption = some payload
          rw [hread]
          rfl

end Request

/-! ## The example row -/

namespace Sample

variable {now : Timestamp} {table : Table}

theorem body_nil :
    body now table [] = .ofPairs (table.columns.map fun c => (c.name, value now c.type c.name)) := by
  have hall : (table.columns.filter fun c => !([] : List String).contains c.name) = table.columns :=
    List.filter_eq_self.2 fun _ _ => rfl
  rw [body, hall]

theorem keys_body_nil :
    (body now table []).keys = (table.columns.map (·.name)).eraseDups := by
  rw [body_nil, Json.Fields.keys_ofPairs, Json.Fields.keys, List.map_map]
  rfl

theorem lookup_body_nil (name : String) :
    (body now table []).lookup name =
      (table.lastColumn? name).map fun c => value now c.type c.name := by
  rw [body_nil, Json.Fields.lookup_ofPairs, ← List.map_reverse, Json.Fields.lookup_map,
    Table.lastColumn?, List.findRev?_eq_find?_reverse]

theorem body_eq_filter (excluded : List String) :
    body now table excluded = (body now table []).filter fun field => !excluded.contains field.1 := by
  rw [body_nil, Json.Fields.filter_ofPairs (!excluded.contains ·), List.filter_map, body]
  rfl

end Sample

/-! ## The three bodies -/

namespace Target

variable {t : Target} {table : Table}

theorem createData_eq :
    t.createData table = (t.updateData table).filter (·.1 ≠ Sample.guidField) := by
  rw [createData, Sample.body_eq_filter, updateData]
  simp

theorem guidField_not_mem_createData : Sample.guidField ∉ (t.createData table).keys := by
  rw [createData_eq, Json.Fields.keys]
  simp

theorem updateRows_eq :
    t.updateRows table =
      rowVariables.map fun row =>
        .obj ((Sample.guidField, .str row) :: (t.createData table).take 2) := by
  refine List.map_congr_left fun row _ => congrArg Json.obj (Json.Fields.setAll_of_nodup ?_)
  have htake : (Json.Fields.keys ((t.createData table).take 2)).Sublist
      (t.createData table).keys :=
    (List.take_sublist 2 _).map _
  have hnodup : (t.createData table).keys.Nodup := Json.Fields.nodup_keys_ofPairs
  refine List.nodup_cons.2 ⟨fun hmem => ?_, htake.nodup hnodup⟩
  exact guidField_not_mem_createData (htake.subset hmem)

theorem decoded?_tableRequests {r : Request} (h : r ∈ t.tableRequests table) :
    r.decoded? = r.payload? :=
  Request.decoded?_eq_payload? (Json.allows_outerLimits_iff.2 (by decide)) fun _ hbody =>
    exactWithin_tableRequests h hbody

/-- Of a table's requests four have data in the texts of their bodies. An update has every
column name once, in the order in which the names come first, with the sample value of the
last column of the name. A new row is the update without the identifier. An update of
several has two rows, each its identifier with the first two fields of a new row. -/
theorem tableRequests_data (t : Target) (table : Table) :
    ∃ (create update : Json.Fields) (rows : List Json),
      (t.tableRequests table).filterMap (fun r => r.data?.map (r.name, ·)) =
        [("Create " ++ table.name, .obj create),
          ("Update " ++ table.name, .obj update),
          ("Update Multiple " ++ table.name, .obj [("objects", .arr rows)]),
          ("Aggregate " ++ table.name, .obj [("pipeline", countPipeline)])] ∧
      update.keys = (table.columns.map (·.name)).eraseDups ∧
      (∀ name, update.lookup name =
        (table.lastColumn? name).map fun c => Sample.value t.now c.type c.name) ∧
      create = update.filter (·.1 ≠ "guid") ∧
      rows = ["\x7b\x7bguid_1\x7d\x7d", "\x7b\x7bguid_2\x7d\x7d"].map fun row =>
        .obj (("guid", .str row) :: create.take 2) := by
  refine ⟨t.createData table, t.updateData table, t.updateRows table, ?_, Sample.keys_body_nil,
    Sample.lookup_body_nil, createData_eq, updateRows_eq⟩
  have hdata : ∀ r ∈ t.tableRequests table, r.data?.map (r.name, ·) =
      (r.payload?.bind (·.get? "data")).map (r.name, ·) := by
    intro r hr
    rw [Request.data?, decoded?_tableRequests hr]
  rw [List.filterMap_congr hdata]
  rfl

example :
    let table : Table :=
      ⟨"users", [⟨"name", "TEXT"⟩, ⟨"guid", "UUID"⟩, ⟨"age", "INT"⟩, ⟨"name", "BOOL"⟩]⟩
    (default : Target).createData table = [("name", .bool false), ("age", .int 0)] := by
  decide +kernel

end Target

end RequestAtlas

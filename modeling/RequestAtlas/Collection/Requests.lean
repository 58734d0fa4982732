import RequestAtlas.Collection.Basic
import RequestAtlas.Sample

/-!
# Requests and the standard collection

The requests that every collection is put together from: signing in and
registering, files, and the nine requests of a table. The standard collection has
them in the order of the schema.

Requests that need a key carry it in a header; those with which a user signs in
carry none. A key or a project that is not known is written as a variable.
-/

namespace RequestAtlas

/-- What the requests of a collection are addressed to, and when it is built. -/
structure Target where
  base : BaseUrl
  projectId : String
  environmentId : String
  apiKey : String
  now : Timestamp
  deriving DecidableEq, Repr, Inhabited

namespace Target

/-- The project in requests. -/
def project (t : Target) : String :=
  if t.projectId.isEmpty then "\x7b\x7bproject_id\x7d\x7d" else t.projectId

/-- The key in requests. -/
def key (t : Target) : String :=
  if t.apiKey.isEmpty then "\x7b\x7bapi_key\x7d\x7d" else t.apiKey

/-- The header that announces a JSON body. -/
def jsonHeader : Parameter := ⟨"Content-Type", "application/json"⟩

/-- The headers that carry the key. -/
def keyHeaders (t : Target) : List Parameter :=
  [⟨"authorization", "API-KEY"⟩, ⟨"x-api-key", t.key⟩]

/-- The headers of a request with key and JSON body. -/
def authHeaders (t : Target) : List Parameter :=
  t.keyHeaders ++ [jsonHeader]

/-- The address of `path` in the second version of the interface. -/
def url (t : Target) (path : List String) (query : List Parameter) : Url :=
  t.base.url ("v2" :: path) query

/-- The name of a collection. -/
def title (projectId : String) : String :=
  "UCode Project (" ++ String.ofList (projectId.toList.take 8) ++ "...)"

/-- The variables of a collection. -/
def parameters (t : Target) : List Parameter :=
  [⟨"base_url", t.base.text⟩, ⟨"api_key", t.apiKey⟩, ⟨"project_id", t.projectId⟩,
    ⟨"environment_id", t.environmentId⟩, ⟨"guid", Sample.nilUuid⟩,
    ⟨"guid_1", "00000000-0000-0000-0000-000000000001"⟩,
    ⟨"guid_2", "00000000-0000-0000-0000-000000000002"⟩, ⟨"file_id", ""⟩]

/-! ## Signing in -/

/-- The bodies of the five requests with which a user signs in. -/
structure SignIn where
  register : Json
  login : Json
  loginWithOptions : Json
  sendCode : Json
  resetPassword : Json

/-- The names of the five requests. -/
structure SignInNames where
  register : String
  login : String
  loginWithOptions : String
  sendCode : String
  resetPassword : String

/-- The five requests with which a user registers and signs in. Only the last
one, which sets a new password, carries the key. -/
def signInRequests (t : Target) (names : SignInNames) (bodies : SignIn) : List Request :=
  let project : List Parameter := [⟨"project-id", t.project⟩]
  let plain : List Parameter := [jsonHeader]
  [⟨names.register, .post, plain, t.url ["register"] project, some (.json bodies.register)⟩,
    ⟨names.login, .post, plain, t.url ["login"] [], some (.json bodies.login)⟩,
    ⟨names.loginWithOptions, .post, plain, t.url ["login", "with-option"] project,
      some (.json bodies.loginWithOptions)⟩,
    ⟨names.sendCode, .post, plain, t.url ["send-code"] [], some (.json bodies.sendCode)⟩,
    ⟨names.resetPassword, .put, t.authHeaders, t.url ["reset-password"] [],
      some (.json bodies.resetPassword)⟩]

/-- The body with which a code is sent. -/
def sendCodeBody (t : Target) : Json :=
  .obj [("phone", .str "+1234567890"), ("project_id", .str t.project)]

/-- The sign-in requests of a project about whose tables nothing is known. -/
def authRequests (t : Target) : List Request :=
  t.signInRequests
    { register := "Register"
      login := "Login"
      loginWithOptions := "Login with Options"
      sendCode := "Send OTP Code"
      resetPassword := "Reset Password" }
    { register := .obj [("login", .str "user@example.com"), ("password", .str "password123"),
        ("name", .str "John Doe"), ("phone", .str "+1234567890")]
      login := .obj [("login", .str "user@example.com"), ("password", .str "password123"),
        ("project_id", .str t.project)]
      loginWithOptions := .obj [("login", .str "user@example.com"),
        ("password", .str "password123")]
      sendCode := t.sendCodeBody
      resetPassword := .obj [("login", .str "user@example.com"),
        ("new_password", .str "new_password123"), ("code", .str "123456")] }

/-! ## Files -/

/-- The folder of the file requests. An upload is a form, so its content type is
left to the client. -/
def filesFolder (t : Target) : Folder where
  name := "📁 Files"
  entries := [
    .request ⟨"Upload File", .post, t.keyHeaders, t.url ["files"] [],
      some (.form [.file "file" "", .text "title" "My File"])⟩,
    .request ⟨"Delete File", .delete, t.authHeaders,
      t.url ["files", "\x7b\x7bfile_id\x7d\x7d"] [], none⟩]

/-! ## Tables -/

/-- The flag that keeps table requests away from functions. -/
def directFlag : Parameter := ⟨"from-ofs", "true"⟩

/-- The query of a list request. -/
def pageQuery : List Parameter :=
  [directFlag, ⟨"offset", "0"⟩, ⟨"limit", "10"⟩]

/-- The query parameter that asks for related rows. -/
def relationsQuery : Parameter := ⟨"data", "\x7b\"with_relations\":true\x7d"⟩

/-- The path segment that stands for the row of a request. -/
def rowVariable : String := Sample.guidVariable

/-- The variables that stand for two rows. -/
def rowVariables : List String := ["\x7b\x7bguid_1\x7d\x7d", "\x7b\x7bguid_2\x7d\x7d"]

/-- The body that creates a row. -/
def createData (t : Target) (table : Table) : Json.Fields :=
  Sample.body t.now table [Sample.guidField]

/-- The body that updates a row. -/
def updateData (t : Target) (table : Table) : Json.Fields :=
  Sample.body t.now table []

/-- The rows of an update of several: each has its identifier and the first two
fields of a new row. -/
def updateRows (t : Target) (table : Table) : List Json :=
  rowVariables.map fun row =>
    .obj (Json.Fields.setAll [(Sample.guidField, .str row)] ((t.createData table).take 2))

/-- A body that writes data past the functions of a table. -/
def writeBody (data : Json) : Body :=
  .json (.obj [("data", data), ("disable_faas", .bool true)])

/-- The pipeline that counts the rows of a table. -/
def countPipeline : Json :=
  .arr [.obj [("$group", .obj [("_id", .null),
    ("count", .obj [("$sum", .int 1)])])]]

/-- The nine requests of a table in fixed order. -/
def tableRequests (t : Target) (table : Table) : List Request :=
  let name := table.name
  let items := t.url ["items", name]
  let row := t.url ["items", name, rowVariable] [directFlag]
  let headers := t.authHeaders
  [⟨"List " ++ name, .get, headers, items pageQuery, none⟩,
    ⟨"List " ++ name ++ " (with relations)", .get, headers,
      items (pageQuery ++ [relationsQuery]), none⟩,
    ⟨"Get " ++ name ++ " by ID", .get, headers, row, none⟩,
    ⟨"Create " ++ name, .post, headers, items [directFlag],
      some (writeBody (.obj (t.createData table)))⟩,
    ⟨"Update " ++ name, .put, headers, items [directFlag],
      some (writeBody (.obj (t.updateData table)))⟩,
    ⟨"Update Multiple " ++ name, .patch, headers, items [directFlag],
      some (writeBody (.obj [("objects", .arr (t.updateRows table))]))⟩,
    ⟨"Delete " ++ name, .delete, headers, row, none⟩,
    ⟨"Delete Multiple " ++ name, .delete, headers, items [directFlag],
      some (.json (.obj [("ids", .strings rowVariables)]))⟩,
    ⟨"Aggregate " ++ name, .post, headers, t.url ["items", name, "aggregation"] [],
      some (.json (.obj [("data", .obj [("pipeline", countPipeline)])]))⟩]

/-- The group of a table's requests under the given mark. -/
def tableGroup (t : Target) (mark : String) (table : Table) : Group :=
  ⟨mark ++ " " ++ table.name, t.tableRequests table⟩

/-- The mark of a table. -/
def tableMark : String := "📋"

/-- The mark of an essential table. -/
def essentialMark : String := "⭐"

/-! ## The standard collection

A folder for signing in, one for files, and then one for every table of the
schema in its order. -/

/-- The folder of a table. -/
def tableFolder (t : Target) (table : Table) : Folder where
  name := tableMark ++ " " ++ table.name
  entries := (t.tableRequests table).map .request

/-- The standard collection of a schema. -/
def standard (t : Target) (schema : Schema) : Collection where
  name := title t.projectId
  description :=
    "Auto-generated CRUD collection for UCode project.\n"
      ++ "Project ID: " ++ t.projectId ++ "\n"
      ++ "Environment ID: " ++ t.environmentId ++ "\n"
      ++ "Tables: " ++ toString schema.tables.length ++ "\n"
      ++ "Generated at: " ++ t.now.text
  folders :=
    ⟨"🔐 Authentication", t.authRequests.map .request⟩ :: t.filesFolder
      :: schema.tables.map t.tableFolder
  parameters := t.parameters

end Target

end RequestAtlas

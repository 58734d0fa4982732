import RequestAtlas.Analysis.Basic
import RequestAtlas.Collection.Requests
import RequestAtlas.Text.Case

/-!
# The organized collection

The requests of a schema's tables, arranged by an analysis: a folder for every
table with which users sign in, the files, a folder for every domain, and a last
folder for the tables the analysis says nothing about.

The arrangement is made first, as a list of sections, and written as folders
afterwards. A table has its place in the first section that claims it. Without a
selection the analysis says which tables to skip; a selection overrides it and
also applies to the tables with which users sign in.
-/

namespace RequestAtlas

/-- A section of the organized collection. -/
inductive Section where
  /-- A table with which users sign in; the schema may lack it. -/
  | auth (spec : AuthSpec) (table : Option Table)
  | files
  /-- A domain with its tables, each with whether it is essential. -/
  | domain (d : Domain) (tables : List (Table × Bool))
  /-- The tables that nothing else claims. -/
  | others (tables : List Table)
  deriving DecidableEq, Repr

namespace Section

/-- The names to leave out: with a selection those of the schema outside it,
without one those the analysis skips. -/
def skipped (schema : Schema) (analysis : Analysis) : Option (List String) → List String
  | some selected => schema.tableNames.filter (!selected.contains ·)
  | none => analysis.skipTables

/-- The first specification of every table, in order. -/
def firstSpecs (seen : List String) : List AuthSpec → List AuthSpec
  | [] => []
  | spec :: specs =>
    if seen.contains spec.table then firstSpecs seen specs
    else spec :: firstSpecs (spec.table :: seen) specs

/-- Whether the selection, if there is one, holds a name. -/
def isPicked (selection : Option (List String)) (name : String) : Bool :=
  selection.all (·.contains name)

/-- The sections of the tables with which users sign in. -/
def authSections (schema : Schema) (analysis : Analysis) (selection : Option (List String)) :
    List Section :=
  ((firstSpecs [] analysis.authTables).filter fun spec => isPicked selection spec.table).map
    fun spec => .auth spec (schema.table? spec.table)

/-- The tables that a domain places, when the names in `taken` have their place
elsewhere or are left out. -/
def placeNotes (schema : Schema) (taken : List String) : List TableNote → List (Table × Bool)
  | [] => []
  | note :: notes =>
    if taken.contains note.name then placeNotes schema taken notes
    else match schema.table? note.name with
      | none => placeNotes schema taken notes
      | some table => (table, note.essential) :: placeNotes schema (note.name :: taken) notes

/-- Every domain with the tables that it places. -/
def placeDomains (schema : Schema) (taken : List String) :
    List Domain → List (Domain × List (Table × Bool))
  | [] => []
  | d :: ds =>
    let placed := placeNotes schema taken d.tables
    (d, placed) :: placeDomains schema (placed.map (·.1.name) ++ taken) ds

/-- The sections of the domains; a domain that places no table has none. -/
def domainSections (schema : Schema) (analysis : Analysis) (skip : List String) :
    List Section :=
  ((placeDomains schema (skip ++ analysis.authNames) analysis.domains).filter
    (!·.2.isEmpty)).map fun (d, tables) => .domain d tables

/-- The section of the tables that the analysis does not mention. -/
def otherSections (schema : Schema) (analysis : Analysis) (skip : List String) :
    List Section :=
  let tables := schema.tables.filter fun t =>
    !analysis.authNames.contains t.name && !analysis.domainNames.contains t.name
      && !skip.contains t.name
  if tables.isEmpty then [] else [.others tables]

/-- The sections of the organized collection in order. -/
def arrange (schema : Schema) (analysis : Analysis) (selection : Option (List String)) :
    List Section :=
  let skip := skipped schema analysis selection
  authSections schema analysis selection ++ .files
    :: domainSections schema analysis skip ++ otherSections schema analysis skip

end Section

namespace AuthSpec

/-- The kind of user that signs in with a table. -/
def kind (spec : AuthSpec) : String :=
  match spec.authType with
  | some s => if s.isEmpty then "user" else s
  | none => "user"

/-- The name of a sign-in table's folder. -/
def folderName (spec : AuthSpec) : String :=
  "🔐 " ++ String.ofList (Text.capitalize spec.kind.toList) ++ " Auth (" ++ spec.table ++ ")"

/-- The fields with which a user signs in; a login and a password when the
specification gives none. -/
def signInFields (spec : AuthSpec) : Json.Fields :=
  if spec.loginBody.isEmpty then [("login", .str ""), ("password", .str "")]
  else spec.loginBody

end AuthSpec

namespace Target

/-- The sign-in requests of a table. -/
def specRequests (t : Target) (spec : AuthSpec) : List Request :=
  let named (name : String) : String := name ++ " (" ++ spec.kind ++ ")"
  t.signInRequests
    { register := named "Register"
      login := named "Login"
      loginWithOptions := named "Login with Options"
      sendCode := named "Send OTP"
      resetPassword := named "Reset Password" }
    { register := .obj spec.registerFields
      login := .obj (spec.signInFields.set "project_id" (.str t.project))
      loginWithOptions := .obj spec.signInFields
      sendCode := t.sendCodeBody
      resetPassword := .obj [("login", .str ""), ("new_password", .str ""),
        ("code", .str "123456")] }

/-- The folder of a table with which users sign in: the sign-in requests, and
those of the table when the schema has it. -/
def authFolder (t : Target) (spec : AuthSpec) (table : Option Table) : Folder where
  name := spec.folderName
  entries := (t.specRequests spec ++ table.toList.flatMap t.tableRequests).map .request

/-- The folder of a section. -/
def sectionFolder (t : Target) : Section → Folder
  | .auth spec table => t.authFolder spec table
  | .files => t.filesFolder
  | .domain d tables =>
    ⟨d.icon ++ " " ++ d.name, tables.map fun (table, essential) =>
      .group (t.tableGroup (if essential then essentialMark else tableMark) table)⟩
  | .others tables =>
    ⟨"📦 Other Tables", tables.map fun table => .group (t.tableGroup tableMark table)⟩

/-- The organized collection of a schema. -/
def organized (t : Target) (schema : Schema) (analysis : Analysis)
    (selection : Option (List String)) : Collection where
  name := title t.projectId ++ " - AI Organized"
  description :=
    "AI-organized CRUD collection.\n"
      ++ analysis.summary ++ "\n"
      ++ "Project ID: " ++ t.projectId ++ "\n"
      ++ "Environment ID: " ++ t.environmentId ++ "\n"
      ++ "Total: " ++ toString analysis.countTotal ++ " tables | "
      ++ "Essential: " ++ toString analysis.countEssential ++ " | "
      ++ "Skipped: " ++ toString analysis.countSkipped ++ "\n"
      ++ "Generated at: " ++ t.now.text
  folders := (Section.arrange schema analysis selection).map t.sectionFolder
  parameters := t.parameters

end Target

end RequestAtlas

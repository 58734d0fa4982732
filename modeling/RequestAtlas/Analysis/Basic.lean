import RequestAtlas.Json.Value

/-!
# Analyses

What an analysis says about the tables of a schema: the domains they belong to,
the tables with which users sign in, and the tables to leave out. An analysis is
about names only; it may name what no schema has, and may name a table more than
once.
-/

namespace RequestAtlas

/-- A table in a domain. -/
structure TableNote where
  name : String
  essential : Bool := false
  purpose : String := ""
  authType : Option String := none
  deriving DecidableEq, Repr, Inhabited

/-- A domain with its tables. -/
structure Domain where
  name : String
  icon : String := "📂"
  description : String := ""
  tables : List TableNote := []
  deriving DecidableEq, Repr, Inhabited

/-- A table with which users sign in, and the bodies of the requests for it. -/
structure AuthSpec where
  table : String
  authType : Option String := some "user"
  loginFields : List String := []
  registerFields : Json.Fields := []
  loginBody : Json.Fields := []
  hasRoles : Bool := false
  clientTypeTable : Option String := none
  deriving DecidableEq, Repr, Inhabited

/-- An analysis of a schema. -/
structure Analysis where
  summary : String := ""
  domains : List Domain := []
  authTables : List AuthSpec := []
  skipTables : List String := []
  countTotal : Int := 0
  countEssential : Int := 0
  countSkipped : Int := 0
  deriving DecidableEq, Repr, Inhabited

namespace Analysis

/-- The names of the tables with which users sign in. -/
def authNames (a : Analysis) : List String :=
  a.authTables.map (·.table)

/-- The mentions of tables in all domains, in order. -/
def notes (a : Analysis) : List TableNote :=
  a.domains.flatMap (·.tables)

/-- The names mentioned in the domains. -/
def domainNames (a : Analysis) : List String :=
  a.notes.map (·.name)

/-- The names that some domain mentions as essential. -/
def essentialNames (a : Analysis) : List String :=
  (a.notes.filter (·.essential)).map (·.name)

/-- The counts that an analysis gives. -/
def counts (a : Analysis) : List Int :=
  [a.countTotal, a.countEssential, a.countSkipped]

end Analysis

/-! ## Documents -/

/-- The document of a table in a domain. -/
def TableNote.toJson (n : TableNote) : Json :=
  .obj [("name", .str n.name), ("essential", .bool n.essential), ("purpose", .str n.purpose),
    ("auth_type", .ofOption n.authType)]

/-- The document of a domain. -/
def Domain.toJson (d : Domain) : Json :=
  .obj [("name", .str d.name), ("icon", .str d.icon), ("description", .str d.description),
    ("tables", .arr (d.tables.map TableNote.toJson))]

/-- The document of a sign-in table. -/
def AuthSpec.toJson (s : AuthSpec) : Json :=
  .obj [("table_name", .str s.table), ("auth_type", .ofOption s.authType),
    ("login_fields", .strings s.loginFields), ("register_fields", .obj s.registerFields),
    ("login_body", .obj s.loginBody), ("has_roles", .bool s.hasRoles),
    ("client_type_table", .ofOption s.clientTypeTable)]

/-- The document of an analysis. -/
def Analysis.toJson (a : Analysis) : Json :=
  .obj [("project_summary", .str a.summary), ("domains", .arr (a.domains.map Domain.toJson)),
    ("auth_tables", .arr (a.authTables.map AuthSpec.toJson)),
    ("skip_tables", .strings a.skipTables), ("table_count_total", .int a.countTotal),
    ("table_count_essential", .int a.countEssential),
    ("table_count_skipped", .int a.countSkipped)]

end RequestAtlas

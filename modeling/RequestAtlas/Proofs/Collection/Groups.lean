import RequestAtlas.Collection.Organized
import RequestAtlas.Collection.Requests

/-!
# Whose requests a folder holds

A collection is built from tables, but what a client imports is folders of
requests. This file reads the tables back off the requests: a request about a
table has `v2/items/<table>` as the first segments of its path below the base
address, and no request of another kind has. The group of a table in a folder
is then whatever run of requests in it is about that table.

Nothing of this looks at names of requests or folders, which are free text and
may collide: a table called `File` has a request named `Delete File`, and so do
the files.

`groupsWhere_sectionFolder` is what the rest of the theory needs: the groups in
the folder of a section, of one table or of any, are the nine requests of each of
the section's tables that are asked for. It turns a statement about folders into
one about sections.
-/

namespace RequestAtlas

/-- The table that a request is about: the segment behind `v2/items` in its
path below the base address. -/
def Request.table? (base : BaseUrl) (r : Request) : Option String :=
  match r.url.path.drop base.path.length with
  | version :: area :: name :: _ =>
    if version = "v2" ∧ area = "items" then some name else none
  | _ => none

/-- Whether a request is the one with which a user registers. -/
def Request.isRegistration (base : BaseUrl) (r : Request) : Bool :=
  r.url.path.drop base.path.length == ["v2", "register"]

/-- The request of an entry that is one. -/
def Entry.request? : Entry → Option Request
  | .request r => some r
  | .group _ => none

/-- The group of an entry that is one. -/
def Entry.group? : Entry → Option Group
  | .request _ => none
  | .group g => some g

namespace Folder

/-- The runs of requests in a folder: those that stand in it directly, and then
those of each of its groups. -/
def runs (f : Folder) : List (List Request) :=
  f.entries.filterMap Entry.request? :: (f.entries.filterMap Entry.group?).map (·.requests)

/-- The groups of a table in a folder: what each run holds about the table, where
it holds anything. -/
def tableGroups (base : BaseUrl) (name : String) (f : Folder) : List (List Request) :=
  (f.runs.map (·.filter fun r => r.table? base == some name)).filter (!·.isEmpty)

/-- The groups in a folder about the tables whose names pass a test: what each run
holds about them, where it holds anything. -/
def groupsWhere (base : BaseUrl) (p : Option String → Bool) (f : Folder) :
    List (List Request) :=
  (f.runs.map (·.filter fun r => p (r.table? base))).filter (!·.isEmpty)

/-- Whether users sign in with the requests of a folder. -/
def isSignIn (base : BaseUrl) (f : Folder) : Bool :=
  f.requests.any (·.isRegistration base)

/-- Whether a folder holds requests about a table. -/
def isAboutTables (base : BaseUrl) (f : Folder) : Bool :=
  f.requests.any fun r => (r.table? base).isSome

end Folder

namespace Section

/-- The tables whose requests a section has. -/
def tables : Section → List Table
  | .auth _ table => table.toList
  | .files => []
  | .domain _ tables => tables.map (·.1)
  | .others tables => tables

/-- The tables of a section that have the given name. -/
def named (name : String) (s : Section) : List Table :=
  s.tables.filter (·.name == name)

/-- Whether a section is one of a table with which users sign in. -/
def isAuth : Section → Bool
  | .auth _ _ => true
  | _ => false

end Section

/-! ## Requests -/

namespace Target

/-- Below the base address a path begins with the version of the interface. -/
theorem url_path_drop (t : Target) (path : List String) (query : List Parameter) :
    (t.url path query).path.drop t.base.path.length = "v2" :: path := by
  simp [url, BaseUrl.url]

theorem table?_tableRequests {t : Target} {table : Table} {r : Request}
    (h : r ∈ t.tableRequests table) : r.table? t.base = some table.name := by
  simp only [tableRequests, List.mem_cons, List.not_mem_nil, or_false] at h
  rcases h with rfl | rfl | rfl | rfl | rfl | rfl | rfl | rfl | rfl <;>
    simp [Request.table?, url_path_drop]

theorem isRegistration_tableRequests {t : Target} {table : Table} {r : Request}
    (h : r ∈ t.tableRequests table) : r.isRegistration t.base = false := by
  simp only [tableRequests, List.mem_cons, List.not_mem_nil, or_false] at h
  rcases h with rfl | rfl | rfl | rfl | rfl | rfl | rfl | rfl | rfl <;>
    simp [Request.isRegistration, url_path_drop]

theorem tableRequests_ne_nil (t : Target) (table : Table) :
    t.tableRequests table ≠ [] := by
  simp [tableRequests]

theorem table?_signInRequests {t : Target} {names : SignInNames} {bodies : SignIn}
    {r : Request} (h : r ∈ t.signInRequests names bodies) : r.table? t.base = none := by
  simp only [signInRequests, List.mem_cons, List.not_mem_nil, or_false] at h
  rcases h with rfl | rfl | rfl | rfl | rfl <;>
    simp [Request.table?, url_path_drop]

/-- Of nine requests about one table either all pass a test on the table or
none. -/
theorem filter_tableRequests (t : Target) (table : Table) (p : Option String → Bool) :
    ((t.tableRequests table).filter fun r => p (r.table? t.base)) =
      if p (some table.name) then t.tableRequests table else [] := by
  split
  · next h =>
      refine List.filter_eq_self.2 fun r hr => ?_
      rw [table?_tableRequests hr, h]
  · next h =>
      refine List.filter_eq_nil_iff.2 fun r hr => ?_
      rwa [table?_tableRequests hr]

theorem filter_signInRequests (t : Target) (names : SignInNames) (bodies : SignIn)
    {p : Option String → Bool} (hp : p none = false) :
    ((t.signInRequests names bodies).filter fun r => p (r.table? t.base)) = [] := by
  refine List.filter_eq_nil_iff.2 fun r hr => ?_
  rw [table?_signInRequests hr, hp]
  exact Bool.false_ne_true

end Target

/-! ## Folders -/

namespace Folder

theorem tableGroups_eq (base : BaseUrl) (name : String) (f : Folder) :
    f.tableGroups base name = f.groupsWhere base (· == some name) := rfl

@[simp] theorem runs_requests (name : String) (rs : List Request) :
    (Folder.mk name (rs.map .request)).runs = [rs] := by
  have hgroups : (rs.map Entry.request).filterMap Entry.group? = [] := by
    rw [List.filterMap_map]
    exact List.filterMap_eq_nil_iff.2 fun _ _ => rfl
  have hrequests : (rs.map Entry.request).filterMap Entry.request? = rs := by
    rw [List.filterMap_map]
    exact List.filterMap_some
  simp [runs, hgroups, hrequests]

@[simp] theorem runs_groups (name : String) (gs : List Group) :
    (Folder.mk name (gs.map .group)).runs = [] :: gs.map (·.requests) := by
  have hgroups : (gs.map Entry.group).filterMap Entry.group? = gs := by
    rw [List.filterMap_map]
    exact List.filterMap_some
  have hrequests : (gs.map Entry.group).filterMap Entry.request? = [] := by
    rw [List.filterMap_map]
    exact List.filterMap_eq_nil_iff.2 fun _ _ => rfl
  simp [runs, hgroups, hrequests]

@[simp] theorem requests_requests (name : String) (rs : List Request) :
    (Folder.mk name (rs.map .request)).requests = rs := by
  simp [requests, List.flatMap_map, Entry.requests]

@[simp] theorem requests_groups (name : String) (gs : List Group) :
    (Folder.mk name (gs.map .group)).requests = gs.flatMap (·.requests) := by
  simp [requests, List.flatMap_map, Entry.requests]

end Folder

namespace Target

/-- What runs of table requests hold about the tables that pass a test. -/
theorem filter_runs (t : Target) (tables : List Table) (p : Option String → Bool) :
    ((tables.map fun table =>
        (t.tableRequests table).filter fun r => p (r.table? t.base)).filter (!·.isEmpty)) =
      (tables.filter fun table => p (some table.name)).map t.tableRequests := by
  induction tables with
  | nil => rfl
  | cons table rest ih =>
      rw [List.map_cons, filter_tableRequests]
      by_cases h : p (some table.name) = true
      · rw [if_pos h, List.filter_cons_of_pos (by simp [tableRequests_ne_nil]), ih]
        simp [h]
      · rw [if_neg h, List.filter_cons_of_neg (by simp), ih]
        simp [h]

/-- The groups in a folder of groups. -/
theorem groupsWhere_groups (t : Target) (label : String) (tables : List (Table × String))
    (p : Option String → Bool) :
    (Folder.mk label (tables.map fun q => .group (t.tableGroup q.2 q.1))).groupsWhere
        t.base p =
      ((tables.map (·.1)).filter fun table => p (some table.name)).map t.tableRequests := by
  have hentries : (tables.map fun q => Entry.group (t.tableGroup q.2 q.1)) =
      (tables.map fun q => t.tableGroup q.2 q.1).map .group := by
    rw [List.map_map]; rfl
  rw [hentries, Folder.groupsWhere, Folder.runs_groups, ← filter_runs]
  simp [tableGroup, Function.comp_def]

/-- The groups in the folder of a section are the requests of those of the
section's tables that are asked for. -/
theorem groupsWhere_sectionFolder (t : Target) (s : Section) {p : Option String → Bool}
    (hp : p none = false) :
    (t.sectionFolder s).groupsWhere t.base p =
      (s.tables.filter fun table => p (some table.name)).map t.tableRequests := by
  cases s with
  | auth spec table =>
      rw [sectionFolder, authFolder, Folder.groupsWhere, Folder.runs_requests]
      rw [List.map_cons, List.filter_append, specRequests, filter_signInRequests _ _ _ hp]
      cases table with
      | none => rfl
      | some table =>
          have h := t.filter_runs [table] p
          simpa [Section.tables] using h
  | files =>
      simp [sectionFolder, filesFolder, Folder.groupsWhere, Folder.runs, Entry.request?,
        Entry.group?, Request.table?, url_path_drop, Section.tables, hp]
  | domain d tables =>
      have h := t.groupsWhere_groups (d.icon ++ " " ++ d.name)
        (tables.map fun q => (q.1, if q.2 then essentialMark else tableMark)) p
      simpa [sectionFolder, Section.tables, Function.comp_def] using h
  | others tables =>
      have h := t.groupsWhere_groups "📦 Other Tables"
        (tables.map fun table => (table, tableMark)) p
      simpa [sectionFolder, Section.tables, Function.comp_def] using h

/-- The groups of one table in the folder of a section are the requests of the
section's tables of that name. -/
theorem tableGroups_sectionFolder (t : Target) (s : Section) (name : String) :
    (t.sectionFolder s).tableGroups t.base name = (s.named name).map t.tableRequests := by
  rw [Folder.tableGroups_eq, groupsWhere_sectionFolder t s rfl]
  rfl

/-- Users sign in with the folder of a section just if the section is one of a
table with which they sign in. -/
theorem isSignIn_sectionFolder (t : Target) (s : Section) :
    (t.sectionFolder s).isSignIn t.base = s.isAuth := by
  have hgroup (mark : String) (table : Table) :
      (t.tableGroup mark table).requests.any (·.isRegistration t.base) = false := by
    rw [List.any_eq_false]
    intro r hr
    simp [isRegistration_tableRequests hr]
  cases s with
  | auth spec table =>
      rw [sectionFolder, authFolder, Folder.isSignIn, Folder.requests_requests]
      simp [specRequests, signInRequests, Request.isRegistration, url_path_drop, Section.isAuth]
  | files =>
      simp [sectionFolder, filesFolder, Folder.isSignIn, Folder.requests, Entry.requests,
        Request.isRegistration, url_path_drop, Section.isAuth]
  | domain d tables =>
      simp only [sectionFolder, Folder.isSignIn, Folder.requests, List.flatMap_map,
        Entry.requests, List.any_flatMap, hgroup, Section.isAuth]
      simp
  | others tables =>
      simp only [sectionFolder, Folder.isSignIn, Folder.requests, List.flatMap_map,
        Entry.requests, List.any_flatMap, hgroup, Section.isAuth]
      simp

/-- The folder of a table in the standard collection has one group, the nine
requests of the table. -/
theorem groupsWhere_tableFolder (t : Target) (table : Table) (p : Option String → Bool) :
    (t.tableFolder table).groupsWhere t.base p =
      if p (some table.name) then [t.tableRequests table] else [] := by
  have h := t.filter_runs [table] p
  rw [List.map_singleton] at h
  rw [tableFolder, Folder.groupsWhere, Folder.runs_requests, List.map_singleton, h]
  by_cases hp : p (some table.name) = true <;> simp [hp]

theorem tableGroups_tableFolder (t : Target) (table : Table) (name : String) :
    (t.tableFolder table).tableGroups t.base name =
      if table.name = name then [t.tableRequests table] else [] := by
  rw [Folder.tableGroups_eq, groupsWhere_tableFolder]
  simp

theorem isAboutTables_tableFolder (t : Target) (table : Table) :
    (t.tableFolder table).isAboutTables t.base = true := by
  rw [tableFolder, Folder.isAboutTables, Folder.requests_requests, List.any_eq_true]
  obtain ⟨r, rest, hr⟩ := List.exists_cons_of_ne_nil (t.tableRequests_ne_nil table)
  have hmem : r ∈ t.tableRequests table := by simp [hr]
  exact ⟨r, hmem, by rw [table?_tableRequests hmem]; rfl⟩

theorem isAboutTables_filesFolder (t : Target) :
    t.filesFolder.isAboutTables t.base = false := by
  simp [filesFolder, Folder.isAboutTables, Folder.requests, Entry.requests,
    Request.table?, url_path_drop]

theorem isAboutTables_authRequests (t : Target) (name : String) :
    (Folder.mk name (t.authRequests.map .request)).isAboutTables t.base = false := by
  rw [Folder.isAboutTables, Folder.requests_requests, List.any_eq_false]
  intro r hr
  simp [table?_signInRequests hr]

end Target

end RequestAtlas

import RequestAtlas.Proofs.Collection.Sources

/-!
# Where the key shows

A collection is made to be handed on, and the key of its project is the one secret
in it. The key stands in two places: in the header of that name, and in the variable
of the collection. Blank both, and the collection does not tell which key it was made
with (`key_confined`): no address, body, name or description holds any of it.

The header is on every request except those with which a user without a key comes
in; these are told by their paths, which no other request has.
-/

namespace RequestAtlas

/-! ## Blanking the key -/

/-- The header that carries the key. -/
def keyHeader : String := "x-api-key"

/-- A parameter with `blank` for its value, if it has the given name. -/
def Parameter.blanked (name blank : String) (p : Parameter) : Parameter :=
  if p.key = name then { p with value := blank } else p

/-- A request with `blank` in its key headers. -/
def Request.blanked (blank : String) (r : Request) : Request :=
  { r with headers := r.headers.map (·.blanked keyHeader blank) }

/-- An entry with `blank` in all key headers. -/
def Entry.blanked (blank : String) : Entry → Entry
  | .request r => .request (r.blanked blank)
  | .group g => .group { g with requests := g.requests.map (·.blanked blank) }

/-- A folder with `blank` in all key headers. -/
def Folder.blanked (blank : String) (f : Folder) : Folder :=
  { f with entries := f.entries.map (·.blanked blank) }

/-- A collection with `blank` in all key headers and in the variable of the key. -/
def Collection.blanked (blank : String) (c : Collection) : Collection :=
  { c with
    folders := c.folders.map (·.blanked blank)
    parameters := c.parameters.map (·.blanked "api_key" blank) }

/-- The paths, below a base address, of the requests with which a user comes in who
has no key. -/
def openPaths : List (List String) :=
  [["v2", "register"], ["v2", "login"], ["v2", "login", "with-option"], ["v2", "send-code"]]

/-- Whether a request is for users without a key. -/
def Request.isOpen (base : BaseUrl) (r : Request) : Bool :=
  openPaths.contains (r.url.path.drop base.path.length)

/-- Whether a request has the key, and only where it should: the header is there just
if the request is not for users without a key, and it has the given value. -/
def Request.Guards (base : BaseUrl) (key : String) (r : Request) : Prop :=
  ((∃ p ∈ r.headers, p.key = keyHeader) ↔ r.isOpen base = false) ∧
    ∀ p ∈ r.headers, p.key = keyHeader → p.value = key

theorem Folder.blanked_requests (name blank : String) (rs : List Request) :
    (Folder.mk name (rs.map .request)).blanked blank =
      ⟨name, (rs.map (·.blanked blank)).map .request⟩ := by
  rw [Folder.blanked, List.map_map, List.map_map]
  rfl

namespace Target

/-- The same target with another key. -/
def withKey (t : Target) (key : String) : Target :=
  { t with apiKey := key }

/-! ## Blanked requests -/

section Blanked

variable (t : Target) (key blank : String)

theorem blanked_keyHeaders :
    t.keyHeaders.map (·.blanked keyHeader blank) =
      [⟨"authorization", "API-KEY"⟩, ⟨keyHeader, blank⟩] := by
  simp [keyHeaders, Parameter.blanked, keyHeader]

theorem blanked_jsonHeader : jsonHeader.blanked keyHeader blank = jsonHeader := by
  simp [jsonHeader, Parameter.blanked, keyHeader]

theorem blanked_authHeaders :
    t.authHeaders.map (·.blanked keyHeader blank) =
      [⟨"authorization", "API-KEY"⟩, ⟨keyHeader, blank⟩, jsonHeader] := by
  rw [authHeaders, List.map_append, blanked_keyHeaders, List.map_singleton, blanked_jsonHeader]
  rfl

theorem blanked_signInRequests (names : SignInNames) (bodies : SignIn) :
    ((t.withKey key).signInRequests names bodies).map (·.blanked blank) =
      (t.signInRequests names bodies).map (·.blanked blank) := by
  simp only [signInRequests, List.map_cons, List.map_nil, Request.blanked, blanked_authHeaders]
  rfl

theorem blanked_filesFolder :
    (t.withKey key).filesFolder.blanked blank = t.filesFolder.blanked blank := by
  simp only [filesFolder, Folder.blanked, List.map_cons, List.map_nil, Entry.blanked,
    Request.blanked, blanked_authHeaders, blanked_keyHeaders]
  rfl

theorem blanked_tableRequests (table : Table) :
    ((t.withKey key).tableRequests table).map (·.blanked blank) =
      (t.tableRequests table).map (·.blanked blank) := by
  simp only [tableRequests, List.map_cons, List.map_nil, Request.blanked, blanked_authHeaders]
  rfl

theorem blanked_tableGroup (mark : String) (table : Table) :
    (Entry.group ((t.withKey key).tableGroup mark table)).blanked blank =
      (Entry.group (t.tableGroup mark table)).blanked blank := by
  rw [Entry.blanked, Entry.blanked, tableGroup, tableGroup, blanked_tableRequests]

theorem blanked_tableFolder (table : Table) :
    ((t.withKey key).tableFolder table).blanked blank = (t.tableFolder table).blanked blank := by
  rw [tableFolder, tableFolder, Folder.blanked_requests, Folder.blanked_requests,
    blanked_tableRequests]

theorem blanked_sectionFolder (s : Section) :
    ((t.withKey key).sectionFolder s).blanked blank = (t.sectionFolder s).blanked blank := by
  cases s with
  | auth spec table =>
      rw [sectionFolder, sectionFolder, authFolder, authFolder, Folder.blanked_requests,
        Folder.blanked_requests, List.map_append, List.map_append, specRequests, specRequests,
        blanked_signInRequests]
      cases table with
      | none => rfl
      | some table =>
          rw [Option.toList_some, List.flatMap_singleton, List.flatMap_singleton,
            blanked_tableRequests]
          rfl
  | files => exact blanked_filesFolder t key blank
  | domain d tables =>
      rw [sectionFolder, sectionFolder, Folder.blanked, Folder.blanked, List.map_map,
        List.map_map]
      refine congrArg (Folder.mk _) (List.map_congr_left fun p _ => ?_)
      exact blanked_tableGroup t key blank _ p.1
  | others tables =>
      rw [sectionFolder, sectionFolder, Folder.blanked, Folder.blanked, List.map_map,
        List.map_map]
      refine congrArg (Folder.mk _) (List.map_congr_left fun table _ => ?_)
      exact blanked_tableGroup t key blank tableMark table

theorem blanked_parameters :
    (t.withKey key).parameters.map (·.blanked "api_key" blank) =
      t.parameters.map (·.blanked "api_key" blank) := by
  simp [parameters, Parameter.blanked, withKey]

theorem blanked_standard (schema : Schema) :
    ((t.withKey key).standard schema).blanked blank = (t.standard schema).blanked blank := by
  have hauth : (Folder.mk "🔐 Authentication"
      ((t.withKey key).authRequests.map .request)).blanked blank =
        (Folder.mk "🔐 Authentication" (t.authRequests.map .request)).blanked blank := by
    rw [Folder.blanked_requests, Folder.blanked_requests, authRequests, authRequests,
      blanked_signInRequests]
    rfl
  have htables : schema.tables.map (fun table =>
      ((t.withKey key).tableFolder table).blanked blank) =
        schema.tables.map fun table => (t.tableFolder table).blanked blank :=
    List.map_congr_left fun table _ => blanked_tableFolder t key blank table
  rw [standard, standard, Collection.blanked, Collection.blanked, blanked_parameters]
  simp only [List.map_cons, List.map_map, Function.comp_def, hauth, htables,
    blanked_filesFolder]
  rfl

theorem blanked_organized (schema : Schema) (analysis : Analysis)
    (selection : Option (List String)) :
    ((t.withKey key).organized schema analysis selection).blanked blank =
      (t.organized schema analysis selection).blanked blank := by
  have hfolders : (Section.arrange schema analysis selection).map (fun s =>
      ((t.withKey key).sectionFolder s).blanked blank) =
        (Section.arrange schema analysis selection).map fun s =>
          (t.sectionFolder s).blanked blank :=
    List.map_congr_left fun s _ => blanked_sectionFolder t key blank s
  rw [organized, organized, Collection.blanked, Collection.blanked, blanked_parameters]
  simp only [List.map_map, Function.comp_def, hfolders]
  rfl

end Blanked

/-! ## Guarded requests -/

section Guards

variable {t : Target} {r : Request}

theorem guards_of_headers (hclosed : r.isOpen t.base = false)
    (hheaders : r.headers = t.keyHeaders ∨ r.headers = t.authHeaders) :
    r.Guards t.base t.key := by
  refine ⟨⟨fun _ => hclosed, fun _ => ?_⟩, fun p hp hkey => ?_⟩
  · refine ⟨⟨keyHeader, t.key⟩, ?_, rfl⟩
    rcases hheaders with h | h <;> simp [h, authHeaders, keyHeaders, keyHeader]
  · rcases hheaders with h | h <;>
      simp [h, authHeaders, keyHeaders, jsonHeader] at hp
    · rcases hp with rfl | rfl
      · simp [keyHeader] at hkey
      · rfl
    · rcases hp with rfl | rfl | rfl
      · simp [keyHeader] at hkey
      · rfl
      · simp [keyHeader] at hkey

theorem guards_of_open (hopen : r.isOpen t.base = true) (hheaders : r.headers = [jsonHeader]) :
    r.Guards t.base t.key := by
  have hplain : ∀ p ∈ r.headers, p.key ≠ keyHeader := by
    rw [hheaders]
    decide
  refine ⟨⟨fun ⟨p, hp, hkey⟩ => absurd hkey (hplain p hp), fun hclosed => ?_⟩,
    fun p hp hkey => absurd hkey (hplain p hp)⟩
  rw [hopen] at hclosed
  cases hclosed

theorem guards_signInRequests {names : SignInNames} {bodies : SignIn}
    (h : r ∈ t.signInRequests names bodies) : r.Guards t.base t.key := by
  simp only [signInRequests, List.mem_cons, List.not_mem_nil, or_false] at h
  rcases h with rfl | rfl | rfl | rfl | rfl
  case inr.inr.inr.inr =>
    refine guards_of_headers ?_ (.inr rfl)
    simp [Request.isOpen, url_path_drop, openPaths]
  all_goals
    refine guards_of_open ?_ rfl
    simp [Request.isOpen, url_path_drop, openPaths]

theorem guards_filesFolder (h : r ∈ t.filesFolder.requests) : r.Guards t.base t.key := by
  simp only [filesFolder, Folder.requests, List.flatMap_cons, List.flatMap_nil, Entry.requests,
    List.append_nil, List.cons_append, List.nil_append, List.mem_cons, List.not_mem_nil,
    or_false] at h
  rcases h with rfl | rfl
  · refine guards_of_headers ?_ (.inl rfl)
    simp [Request.isOpen, url_path_drop, openPaths]
  · refine guards_of_headers ?_ (.inr rfl)
    simp [Request.isOpen, url_path_drop, openPaths]

theorem guards_tableRequests {table : Table} (h : r ∈ t.tableRequests table) :
    r.Guards t.base t.key := by
  simp only [tableRequests, List.mem_cons, List.not_mem_nil, or_false] at h
  rcases h with rfl | rfl | rfl | rfl | rfl | rfl | rfl | rfl | rfl
  all_goals
    refine guards_of_headers ?_ (.inr rfl)
    simp [Request.isOpen, url_path_drop, openPaths]

theorem guards_requests (t : Target) (schema : Schema) (analysis : Analysis)
    (selection : Option (List String)) :
    ∀ c ∈ [t.standard schema, t.organized schema analysis selection],
      ∀ r ∈ c.requests, r.Guards t.base t.key :=
  forall_requests (fun _ h => guards_signInRequests h) (fun _ _ _ h => guards_signInRequests h)
    (fun _ h => guards_filesFolder h) fun _ _ h => guards_tableRequests h

end Guards

theorem key_eq_ite (t : Target) :
    t.key = if t.apiKey = "" then "\x7b\x7bapi_key\x7d\x7d" else t.apiKey := by
  rw [key]
  simp only [String.isEmpty_iff]

/-- The key of a project stays in its two places. Collections for two keys are the
same once these places are blanked. In either collection a request has a key header
just if it is not one of those for users without a key, and a key header holds the
key, or the variable that stands for it when there is none. -/
theorem key_confined (t : Target) (schema : Schema) (analysis : Analysis)
    (selection : Option (List String)) (k₁ k₂ blank : String) :
    ((t.withKey k₁).standard schema).blanked blank =
        ((t.withKey k₂).standard schema).blanked blank ∧
      ((t.withKey k₁).organized schema analysis selection).blanked blank =
        ((t.withKey k₂).organized schema analysis selection).blanked blank ∧
      ∀ c ∈ [t.standard schema, t.organized schema analysis selection], ∀ r ∈ c.requests,
        r.Guards t.base
          (if t.apiKey = "" then "\x7b\x7bapi_key\x7d\x7d" else t.apiKey) := by
  refine ⟨?_, ?_, fun c hc r hr => ?_⟩
  · rw [blanked_standard, blanked_standard]
  · rw [blanked_organized, blanked_organized]
  · rw [← key_eq_ite]
    exact guards_requests t schema analysis selection c hc r hr

/-- Without a key, users register without the header, and the requests of their
table carry the variable. -/
theorem key_confined_unknown :
    let users : Table := ⟨"users", [⟨"id", "UUID"⟩]⟩
    let spec : AuthSpec := { table := "users" }
    let t : Target := ⟨⟨"https://a.io/x", some "https", ["a", "io"], none, ["x"]⟩, "p", "e", "",
      default⟩
    let c := t.organized ⟨[users], []⟩ { authTables := [spec] } none
    (∃ r ∈ c.requests, r.isOpen t.base = true ∧ ¬∃ p ∈ r.headers, p.key = keyHeader) ∧
      ∃ r ∈ c.requests, r.isOpen t.base = false ∧ (∃ p ∈ r.headers, p.key = keyHeader) ∧
        ∀ p ∈ r.headers, p.key = keyHeader → p.value = "\x7b\x7bapi_key\x7d\x7d" := by
  intro users spec t c
  have hguards := (key_confined t ⟨[users], []⟩ { authTables := [spec] } none "k" "l" "").2.2 c
    (by simp [c])
  have hregister : (t.specRequests spec)[0] ∈ c.requests := by decide +kernel
  have hlist : (t.tableRequests users)[0] ∈ c.requests := by decide +kernel
  have hopen : (t.specRequests spec)[0].isOpen t.base = true := by decide +kernel
  have hclosed : (t.tableRequests users)[0].isOpen t.base = false := by decide +kernel
  refine ⟨⟨_, hregister, hopen, fun hkey => ?_⟩, _, hlist, hclosed,
    (hguards _ hlist).1.2 hclosed, (hguards _ hlist).2⟩
  rw [(hguards _ hregister).1.1 hkey] at hopen
  cases hopen

end Target

end RequestAtlas

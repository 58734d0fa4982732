import RequestAtlas.Analysis.Reply
import RequestAtlas.Proofs.Json.Depth
import RequestAtlas.Proofs.Json.RoundTrip

/-!
# An analysis comes back from a reply

A model that answers with the document of an analysis, in any of its texts and with
nothing but space around it, is understood: the reply is read as that document, and the
check of the document gives the analysis (`Analysis.ofReply_of_isDocument`). The text is
read as a whole before any fenced block is looked for, so fences inside the strings of an
analysis do no harm.

The one condition is on the depth. The free fields of a sign-in table may nest as deep
as they like, but no reader goes down without end, and one level too many is a fault.
-/

namespace RequestAtlas

namespace Check

/-! ## Checks of what was written

For every check that the shape of an analysis is made of: what it makes of the document
of a value is the value. Together they evaluate the check of a written shape, so they
are for `simp`. -/

section Written

variable {α β : Type}

@[simp]
theorem map_valid (f : α → β) (a : α) : f <$> Checked.valid a = .valid (f a) :=
  rfl

@[simp]
theorem seq_valid (f : α → β) (a : α) : Checked.valid f <*> Checked.valid a = .valid (f a) :=
  rfl

@[simp]
theorem under_valid (step : Step) (a : α) : (Checked.valid a).under step = .valid a :=
  rfl

@[simp]
theorem string_str (s : String) : string (.str s) = .valid s :=
  rfl

@[simp]
theorem bool_bool (b : Bool) : Check.bool (.bool b) = .valid b :=
  rfl

@[simp]
theorem int_int (i : Int) : Check.int (.int i) = .valid i :=
  rfl

@[simp]
theorem freeObject_obj (fields : Json.Fields) : freeObject (.obj fields) = .valid fields :=
  rfl

@[simp]
theorem nullable_ofOption (s : Option String) : nullable string (.ofOption s) = .valid s := by
  cases s <;> rfl

theorem items_map {check : Json → Checked α} {toJson : α → Json}
    (h : ∀ a, check (toJson a) = .valid a) (i : Nat) (as : List α) :
    items check i (as.map toJson) = .valid as := by
  induction as generalizing i with
  | nil => rfl
  | cons a as ih =>
      rw [List.map_cons, items, h, ih]
      rfl

theorem list_map {check : Json → Checked α} {toJson : α → Json}
    (h : ∀ a, check (toJson a) = .valid a) (as : List α) :
    list check (.arr (as.map toJson)) = .valid as :=
  items_map h 0 as

@[simp]
theorem list_strings (ss : List String) : list string (.strings ss) = .valid ss :=
  list_map string_str ss

end Written

end Check

/-! ## The shape of an analysis -/

open Check

theorem TableNote.check_toJson (n : TableNote) : check n.toJson = .valid n := by
  simp [check, toJson, object, required, withDefault, List.lookup_cons]

theorem Domain.check_toJson (d : Domain) : check d.toJson = .valid d := by
  simp [check, toJson, object, required, withDefault, List.lookup_cons,
    list_map TableNote.check_toJson]

theorem AuthSpec.check_toJson (s : AuthSpec) : check s.toJson = .valid s := by
  simp [check, toJson, object, required, withDefault, List.lookup_cons]

/-- The check of the document of an analysis gives the analysis. -/
theorem Analysis.check_toJson (a : Analysis) : check a.toJson = .valid a := by
  simp [check, toJson, object, withDefault, List.lookup_cons, list_map Domain.check_toJson,
    list_map AuthSpec.check_toJson]

/-! ## The document of an analysis

What has to be said of an analysis for its text to tell it: its free fields have no
floating-point numbers and no key twice, and its integers are not too long. -/

section Documents

variable {digits : Option Nat}

theorem exact_ofOption (s : Option String) : (Json.ofOption s).Exact ⟨digits, none⟩ := by
  cases s with
  | none => exact .null
  | some s => exact .str s

theorem exact_stringList (ss : List String) : (Json.strings ss).Exact ⟨digits, none⟩ :=
  .arr rfl (List.forall_mem_map.2 fun s _ => .str s)

theorem TableNote.exact_toJson (n : TableNote) : n.toJson.Exact ⟨digits, none⟩ := by
  refine .obj rfl (by decide : ["name", "essential", "purpose", "auth_type"].Nodup) ?_
  simp [Json.Exact.str, Json.Exact.bool, exact_ofOption]

theorem Domain.exact_toJson (d : Domain) : d.toJson.Exact ⟨digits, none⟩ := by
  have htables : (Json.arr (d.tables.map TableNote.toJson)).Exact ⟨digits, none⟩ :=
    .arr rfl (List.forall_mem_map.2 fun n _ => n.exact_toJson)
  refine .obj rfl (by decide : ["name", "icon", "description", "tables"].Nodup) ?_
  simp [Json.Exact.str, htables]

/-- The free fields of a sign-in table. -/
def AuthSpec.freeFields (s : AuthSpec) : List Json.Fields :=
  [s.registerFields, s.loginBody]

theorem AuthSpec.exact_toJson {s : AuthSpec}
    (hfree : ∀ fields ∈ s.freeFields, fields.Exact ⟨digits, none⟩) :
    s.toJson.Exact ⟨digits, none⟩ := by
  have hobj : ∀ fields ∈ s.freeFields, (Json.obj fields).Exact ⟨digits, none⟩ :=
    fun fields hfields => .obj rfl (hfree fields hfields).nodup (hfree fields hfields).values
  simp only [freeFields, List.forall_mem_cons] at hobj
  refine .obj rfl (by decide : ["table_name", "auth_type", "login_fields", "register_fields",
    "login_body", "has_roles", "client_type_table"].Nodup) ?_
  simp [Json.Exact.str, Json.Exact.bool, exact_ofOption, exact_stringList, hobj]

theorem Analysis.exact_toJson {a : Analysis}
    (hcounts : ∀ n ∈ a.counts, ∀ d ∈ digits, (Nat.toDigits 10 n.natAbs).length ≤ d)
    (hfree : ∀ spec ∈ a.authTables, ∀ fields ∈ spec.freeFields, fields.Exact ⟨digits, none⟩) :
    a.toJson.Exact ⟨digits, none⟩ := by
  have hdomains : (Json.arr (a.domains.map Domain.toJson)).Exact ⟨digits, none⟩ :=
    .arr rfl (List.forall_mem_map.2 fun d _ => d.exact_toJson)
  have hauth : (Json.arr (a.authTables.map AuthSpec.toJson)).Exact ⟨digits, none⟩ :=
    .arr rfl (List.forall_mem_map.2 fun spec hspec => AuthSpec.exact_toJson (hfree spec hspec))
  have hint : ∀ n ∈ a.counts, (Json.int n).Exact ⟨digits, none⟩ :=
    fun n hn => .int (hcounts n hn)
  simp only [counts, List.forall_mem_cons] at hint
  refine .obj rfl (by decide : ["project_summary", "domains", "auth_tables", "skip_tables",
    "table_count_total", "table_count_essential", "table_count_skipped"].Nodup) ?_
  simp [Json.Exact.str, exact_stringList, hdomains, hauth, hint]

end Documents

/-! ## Replies -/

namespace Analysis

theorem ofReply_of_read [Json.OuterDepth] {reply : String} {a : Analysis}
    (h : Json.read reply = .ok a.toJson) : ofReply reply = .ok a := by
  have hdocument : Reply.document reply = .ok a.toJson := by
    rw [Reply.document, h]
    rfl
  have hcheck := check_toJson a
  rw [toJson] at hdocument hcheck
  rw [ofReply, hdocument]
  dsimp only
  rw [hcheck]

theorem ofReply_of_tooDeep [Json.OuterDepth] {reply : String} {container : Json.Container}
    (h : Json.read reply = .error (.tooDeep container)) :
    ofReply reply = .error (.fault (.tooDeep (Json.ReadError.tooDeep container).message)) := by
  rw [ofReply, Reply.document, h]
  rfl

theorem exact_of_counts {a : Analysis}
    (hcounts : ∀ n ∈ a.counts, (Nat.toDigits 10 n.natAbs).length ≤ Text.maxDigits)
    (hfree : ∀ spec ∈ a.authTables, ∀ fields ∈ spec.freeFields,
      fields.Exact { digits := some Text.maxDigits }) :
    a.toJson.Exact { digits := some Text.maxDigits } :=
  exact_toJson (fun n hn _ hd => Option.some.inj hd ▸ hcounts n hn) hfree

/-- A text of an analysis is a reply with that analysis in it, however it is spaced and
escaped and whatever the strings of the analysis say, just if the reader goes as deep as
its free fields do. Otherwise the depth is a fault. This is so of every depth that a reader
may have. -/
theorem ofReply_of_isDocument [Json.OuterDepth] (a : Analysis) {reply : String}
    (hcounts : ∀ n ∈ a.counts, (Nat.toDigits 10 n.natAbs).length ≤ Text.maxDigits)
    (hfree : ∀ spec ∈ a.authTables, ∀ fields ∈ spec.freeFields,
      fields.Exact { digits := some Text.maxDigits })
    (hreply : Json.IsDocument a.toJson reply.toList) :
    (Json.outerLimits.Allows a.toJson.levels → ofReply reply = .ok a) ∧
    (¬ Json.outerLimits.Allows a.toJson.levels → ∃ container : Json.Container,
      ofReply reply = .error (.fault (.tooDeep (Json.ReadError.tooDeep container).message))) := by
  obtain ⟨hread, hdeep⟩ := Json.read_levels (exact_of_counts hcounts hfree) hreply
  refine ⟨fun hallows => ofReply_of_read (hread hallows), fun hallows => ?_⟩
  obtain ⟨container, hstop⟩ := hdeep hallows
  exact ⟨container, ofReply_of_tooDeep hstop⟩

/-- An analysis whose summary is a fenced block with another document in it, and whose
free fields hold fences, null, a negative integer and empty containers. -/
theorem ofReply_of_isDocument_fenced :
    let fields : Json.Fields :=
      [("```json", .arr [.null, .int (-50), .bool true, .arr [], .obj []]), ("b\"", .str "```")]
    let a : Analysis :=
      { summary := "```json\n[]\n```"
        domains := [{ name := "Sales", tables := [{ name := "orders", essential := true }] }]
        authTables := [{ table := "users", authType := none, registerFields := fields }]
        skipTables := ["logs"]
        countTotal := -3 }
    Json.IsDocument a.toJson a.toJson.indented.toList ∧
      Json.outerLimits.Allows a.toJson.levels ∧ ofReply a.toJson.indented = .ok a := by
  intro fields a
  have hitems : ∀ item ∈ [Json.null, .int (-50), .bool true, .arr [], .obj []],
      item.Exact { digits := some Text.maxDigits } := by
    simp only [List.forall_mem_cons]
    refine ⟨.null, .int ?_, .bool true, .arr rfl ?_, .obj rfl List.nodup_nil ?_, ?_⟩
    · rintro d ⟨⟩
      decide
    all_goals exact fun _ h => nomatch h
  have hfields : fields.Exact { digits := some Text.maxDigits } :=
    .cons (by decide) (.arr rfl hitems) (.cons (by decide) (.str _) .nil)
  have hfree : ∀ spec ∈ a.authTables, ∀ free ∈ spec.freeFields,
      free.Exact { digits := some Text.maxDigits } := by
    refine List.forall_mem_singleton.2 ?_
    simp only [AuthSpec.freeFields, List.forall_mem_cons]
    exact ⟨hfields, .nil, fun _ h => nomatch h⟩
  have hallows : Json.outerLimits.Allows a.toJson.levels := by
    rintro depth ⟨⟩
    decide
  have hcounts : ∀ n ∈ a.counts, (Nat.toDigits 10 n.natAbs).length ≤ Text.maxDigits := by
    decide
  have hreply : Json.IsDocument a.toJson a.toJson.indented.toList :=
    Json.isDocument_indented (exact_of_counts hcounts hfree)
  exact ⟨hreply, hallows, (ofReply_of_isDocument a hcounts hfree hreply).1 hallows⟩

end Analysis

/-! ## Too deep -/

namespace Analysis

/-- An analysis with a sign-in table whose free fields nest so deep. -/
def nested (n : Nat) : Analysis :=
  { authTables := [{ table := "users", registerFields := [("z", Json.nested n)] }] }

theorem exact_freeFields_nested (n : Nat) :
    ∀ spec ∈ (nested n).authTables, ∀ fields ∈ spec.freeFields,
      fields.Exact { digits := some Text.maxDigits } := by
  refine List.forall_mem_singleton.2 ?_
  simp only [AuthSpec.freeFields, List.forall_mem_cons]
  exact ⟨.cons List.not_mem_nil (Json.exact_nested n) .nil, .nil, fun _ h => nomatch h⟩

theorem lt_levels_nested (n : Nat) : n < (nested n).toJson.levels := by
  simp only [nested, toJson, AuthSpec.toJson, List.map_cons, Json.levels, Json.levelsOfFields,
    Json.levelsOfItems, Json.levels_nested]
  omega

theorem counts_nested (n : Nat) :
    ∀ i ∈ (nested n).counts, (Nat.toDigits 10 i.natAbs).length ≤ Text.maxDigits :=
  (by decide : ∀ i ∈ [(0 : Int), 0, 0], (Nat.toDigits 10 i.natAbs).length ≤ Text.maxDigits)

theorem ofReply_nested_ne [Json.OuterDepth] {n : Nat} (h : Json.OuterDepth.depth ≤ n) :
    ofReply (nested n).toJson.compact ≠ .ok (nested n) := by
  have hexact := exact_of_counts (counts_nested n) (exact_freeFields_nested n)
  have hdeep : ¬ Json.outerLimits.Allows (nested n).toJson.levels := by
    intro hallows
    have hle := Json.allows_outerLimits_iff.1 hallows
    have hlt := lt_levels_nested n
    omega
  obtain ⟨container, hstop⟩ := (Json.read_levels hexact (Json.isDocument_compact hexact)).2 hdeep
  rw [ofReply_of_tooDeep hstop]
  exact fun h => nomatch h

/-- An analysis whose free fields nest too deep does not come back, although its text
tells it exactly. -/
theorem ofReply_nested :
    (∀ n ∈ (nested 4000).counts, (Nat.toDigits 10 n.natAbs).length ≤ Text.maxDigits) ∧
      (∀ spec ∈ (nested 4000).authTables, ∀ fields ∈ spec.freeFields,
        fields.Exact { digits := some Text.maxDigits }) ∧
      Json.IsDocument (nested 4000).toJson (nested 4000).toJson.compact.toList ∧
      ofReply (nested 4000).toJson.compact ≠ .ok (nested 4000) :=
  ⟨counts_nested 4000, exact_freeFields_nested 4000,
    Json.isDocument_compact (exact_of_counts (counts_nested 4000) (exact_freeFields_nested 4000)),
    ofReply_nested_ne (by decide)⟩

end Analysis

end RequestAtlas

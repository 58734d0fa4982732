import RequestAtlas.Proofs.Collection.Placement
import RequestAtlas.Selection

/-!
# What a selection does to the organized collection

A selection leaves tables out, and so does the skip list of an analysis; both go
through the same arrangement, but by different ways. A table that is not selected
is skipped by its name. A table that is not there at all is never skipped: the
lookup in the schema fails instead. This file says that the two cannot be told
apart.

`organized_keep` is the law of deselection: the collection under a selection is
the one of the schema and the analysis from which the other tables are deleted,
with nothing left to skip. `organized_ofSkipped_eq_iff` compares the first
selection of an import to no selection at all. They differ by the tables with
which users sign in: those are kept without a selection even if they are skipped
or the schema lacks them, and are dropped by a selection.

Both rest on one observation. A domain asks of a name only which table it can
place under it (`free?`), so two runs that agree on that place the same tables,
however different the names they carry along (`placeDomains_congr`).
-/

namespace RequestAtlas

/-- The schema with the selected tables only. -/
def Schema.keep (s : Schema) (selected : List String) : Schema :=
  { s with tables := s.tables.filter fun table => selected.contains table.name }

/-- The analysis for the selected tables only: sign-in tables that are not
selected are gone, and nothing is left to skip. The domains stay as they are. -/
def Analysis.keep (a : Analysis) (selected : List String) : Analysis :=
  { a with
    authTables := a.authTables.filter fun spec => selected.contains spec.table
    skipTables := [] }

theorem Schema.table?_keep (s : Schema) (selected : List String) (name : String) :
    (s.keep selected).table? name = if name ∈ selected then s.table? name else none := by
  rw [table?, keep, List.find?_filter]
  split
  · next h =>
      rw [table?]
      congr 1
      funext table
      by_cases hname : table.name = name <;> simp [hname, h]
  · next h =>
      rw [List.find?_eq_none]
      intro table _ hboth
      simp only [List.contains_eq_mem, decide_eq_true_eq, beq_iff_eq] at hboth
      exact h (hboth.2 ▸ hboth.1)

theorem Analysis.mem_authNames_keep {a : Analysis} {selected : List String} {name : String} :
    name ∈ (a.keep selected).authNames ↔ name ∈ a.authNames ∧ name ∈ selected := by
  simp only [authNames, keep, List.mem_map, List.mem_filter, List.contains_eq_mem,
    decide_eq_true_eq]
  constructor
  · rintro ⟨spec, ⟨hspec, hselected⟩, rfl⟩
    exact ⟨⟨spec, hspec, rfl⟩, hselected⟩
  · rintro ⟨⟨spec, hspec, rfl⟩, hselected⟩
    exact ⟨spec, ⟨hspec, hselected⟩, rfl⟩

namespace Section

/-! ## What a domain can place -/

/-- The table that a domain can place under a name: the first of the schema,
unless the name is taken. -/
def free? (schema : Schema) (taken : List String) (name : String) : Option Table :=
  if name ∈ taken then none else schema.table? name

theorem free?_append (schema : Schema) (names taken : List String) (name : String) :
    free? schema (names ++ taken) name =
      if name ∈ names then none else free? schema taken name := by
  by_cases h : name ∈ names <;> simp [free?, h]

theorem free?_of_not_mem {schema : Schema} {taken : List String} {name : String}
    (h : name ∉ schema.tableNames) : free? schema taken name = none := by
  simp [free?, Schema.table?_eq_none_iff.2 h]

theorem placeNotes_cons (schema : Schema) (taken : List String) (note : TableNote)
    (notes : List TableNote) :
    placeNotes schema taken (note :: notes) =
      match free? schema taken note.name with
      | none => placeNotes schema taken notes
      | some table =>
        (table, note.essential) :: placeNotes schema ([note.name] ++ taken) notes := by
  rw [placeNotes, free?]
  by_cases h : note.name ∈ taken
  · rw [if_pos (by simpa using h), if_pos h]
  · rw [if_neg (by simpa using h), if_neg h]
    rfl

theorem placeNotes_congr {s s' : Schema} {taken taken' : List String} (notes : List TableNote)
    (h : ∀ name, free? s taken name = free? s' taken' name) :
    placeNotes s taken notes = placeNotes s' taken' notes := by
  induction notes generalizing taken taken' with
  | nil => rfl
  | cons note notes ih =>
      rw [placeNotes_cons, placeNotes_cons, h]
      cases free? s' taken' note.name with
      | none => exact ih h
      | some table =>
          have hrest : ∀ name, free? s ([note.name] ++ taken) name =
              free? s' ([note.name] ++ taken') name := by
            intro name
            rw [free?_append, free?_append, h]
          rw [ih hrest]

/-- Domains place the same tables in two runs that agree on what is free. -/
theorem placeDomains_congr {s s' : Schema} {taken taken' : List String} (ds : List Domain)
    (h : ∀ name, free? s taken name = free? s' taken' name) :
    placeDomains s taken ds = placeDomains s' taken' ds := by
  induction ds generalizing taken taken' with
  | nil => rfl
  | cons d ds ih =>
      rw [placeDomains, placeDomains, placeNotes_congr d.tables h]
      refine congrArg _ (ih fun name => ?_)
      rw [free?_append, free?_append, h]

/-! ## The parts of the arrangement -/

theorem firstSpecs_of_mem {seen : List String} {spec : AuthSpec} (specs : List AuthSpec)
    (h : spec.table ∈ seen) : firstSpecs seen (spec :: specs) = firstSpecs seen specs := by
  rw [firstSpecs, if_pos (by simpa using h)]

theorem firstSpecs_of_not_mem {seen : List String} {spec : AuthSpec} (specs : List AuthSpec)
    (h : spec.table ∉ seen) :
    firstSpecs seen (spec :: specs) = spec :: firstSpecs (spec.table :: seen) specs := by
  rw [firstSpecs, if_neg (by simpa using h)]

/-- The first specifications of the names that pass a test are those among all
first specifications, whatever other names the two runs have seen. -/
theorem filter_firstSpecs {p : String → Bool} {seen seen' : List String}
    (specs : List AuthSpec) (h : ∀ name, p name = true → (name ∈ seen ↔ name ∈ seen')) :
    (firstSpecs seen specs).filter (fun spec => p spec.table) =
      firstSpecs seen' (specs.filter fun spec => p spec.table) := by
  induction specs generalizing seen seen' with
  | nil => rfl
  | cons spec specs ih =>
      cases hp : p spec.table with
      | true =>
          have hkept : (spec :: specs).filter (fun spec => p spec.table) =
              spec :: specs.filter fun spec => p spec.table := by
            simp [hp]
          rw [hkept]
          by_cases hseen : spec.table ∈ seen
          · rw [firstSpecs_of_mem _ hseen, firstSpecs_of_mem _ ((h _ hp).1 hseen), ih h]
          · have hseen' : spec.table ∉ seen' := fun hin => hseen ((h _ hp).2 hin)
            have hrest : ∀ name, p name = true →
                (name ∈ spec.table :: seen ↔ name ∈ spec.table :: seen') := by
              intro name hname
              rw [List.mem_cons, List.mem_cons, h name hname]
            rw [firstSpecs_of_not_mem _ hseen, firstSpecs_of_not_mem _ hseen', ← ih hrest]
            simp [hp]
      | false =>
          have hdropped : (spec :: specs).filter (fun spec => p spec.table) =
              specs.filter fun spec => p spec.table := by
            simp [hp]
          rw [hdropped]
          by_cases hseen : spec.table ∈ seen
          · rw [firstSpecs_of_mem _ hseen, ih h]
          · -- From here on only one run has seen the name; it fails the test.
            have hrest : ∀ name, p name = true →
                (name ∈ spec.table :: seen ↔ name ∈ seen') := by
              intro name hname
              have hne : name ≠ spec.table := by
                rintro rfl
                rw [hp] at hname
                exact Bool.noConfusion hname
              rw [List.mem_cons, h name hname]
              exact or_iff_right hne
            rw [firstSpecs_of_not_mem _ hseen, ← ih hrest]
            simp [hp]

section Parts

variable {schema : Schema} {analysis : Analysis} {selected : List String}

theorem authSections_some (schema : Schema) (analysis : Analysis) (selected : List String) :
    authSections schema analysis (some selected) =
      ((firstSpecs [] analysis.authTables).filter fun spec =>
        selected.contains spec.table).map
        fun spec => auth spec (schema.table? spec.table) := rfl

theorem authSections_none (schema : Schema) (analysis : Analysis) :
    authSections schema analysis none =
      (firstSpecs [] analysis.authTables).map
        fun spec => auth spec (schema.table? spec.table) := by
  have hall : (firstSpecs [] analysis.authTables).filter
      (fun spec => isPicked none spec.table) = firstSpecs [] analysis.authTables :=
    List.filter_eq_self.2 fun _ _ => rfl
  rw [authSections, hall]

theorem domainSections_congr {s s' : Schema} {a a' : Analysis} {skip skip' : List String}
    (hdomains : a.domains = a'.domains)
    (h : ∀ name, free? s (skip ++ a.authNames) name = free? s' (skip' ++ a'.authNames) name) :
    domainSections s a skip = domainSections s' a' skip' := by
  rw [domainSections, domainSections, hdomains, placeDomains_congr a'.domains h]

theorem mem_skipped_some {name : String} :
    name ∈ skipped schema analysis (some selected) ↔
      name ∈ schema.tableNames ∧ name ∉ selected := by
  simp [skipped]

/-! ## Deleting tables -/

theorem authSections_keep :
    authSections schema analysis (some selected) =
      authSections (schema.keep selected) (analysis.keep selected) none := by
  rw [authSections_some, authSections_none, Analysis.keep,
    ← filter_firstSpecs analysis.authTables fun _ _ => Iff.rfl]
  refine List.map_congr_left fun spec hspec => ?_
  have hselected : spec.table ∈ selected := by simpa using (List.mem_filter.1 hspec).2
  rw [Schema.table?_keep, if_pos hselected]

/-- A table that is not selected is skipped here and missing there. -/
theorem free?_keep (name : String) :
    free? schema (skipped schema analysis (some selected) ++ analysis.authNames) name =
      free? (schema.keep selected) ([] ++ (analysis.keep selected).authNames) name := by
  rw [free?_append]
  by_cases hselected : name ∈ selected
  · rw [if_neg fun h => (mem_skipped_some.1 h).2 hselected, free?, free?, List.nil_append,
      Schema.table?_keep, if_pos hselected]
    simp only [Analysis.mem_authNames_keep, hselected, and_true]
  · have hgone : (schema.keep selected).table? name = none := by
      rw [Schema.table?_keep, if_neg hselected]
    have hright : free? (schema.keep selected) ([] ++ (analysis.keep selected).authNames) name =
        none := by
      simp [free?, hgone]
    rw [hright]
    by_cases hname : name ∈ schema.tableNames
    · rw [if_pos (mem_skipped_some.2 ⟨hname, hselected⟩)]
    · simp [free?_of_not_mem hname]

theorem domainSections_keep :
    domainSections schema analysis (skipped schema analysis (some selected)) =
      domainSections (schema.keep selected) (analysis.keep selected) [] :=
  domainSections_congr rfl free?_keep

theorem remaining_keep :
    remaining schema analysis (skipped schema analysis (some selected)) =
      remaining (schema.keep selected) (analysis.keep selected) [] := by
  rw [remaining, remaining, Schema.keep, List.filter_filter]
  refine List.filter_congr fun table htable => ?_
  have hname : table.name ∈ schema.tableNames := List.mem_map_of_mem htable
  have hdomains : (analysis.keep selected).domainNames = analysis.domainNames := rfl
  by_cases hselected : table.name ∈ selected <;>
    simp [mem_skipped_some, Analysis.mem_authNames_keep, hdomains, hname, hselected]

theorem arrange_keep :
    arrange schema analysis (some selected) =
      arrange (schema.keep selected) (analysis.keep selected) none := by
  rw [arrange, arrange, authSections_keep, domainSections_keep, otherSections_eq, remaining_keep]
  rfl

/-! ## The first selection of an import

It skips the names that the analysis skips, as far as the schema has them. What
else the analysis skips, no lookup finds. So the two runs can only differ in the
sign-in tables. -/

/-- The selection with which the preview of an analysis starts. -/
def seeded (schema : Schema) (analysis : Analysis) : List String :=
  (Selection.ofSkipped schema.tableNames analysis.skipTables).selected

theorem mem_seeded {name : String} :
    name ∈ seeded schema analysis ↔ name ∈ schema.tableNames ∧ name ∉ analysis.skipTables := by
  simp [seeded, Selection.ofSkipped]

theorem mem_skipped_seeded {name : String} (h : name ∈ schema.tableNames) :
    name ∈ skipped schema analysis (some (seeded schema analysis)) ↔
      name ∈ skipped schema analysis none := by
  rw [mem_skipped_some, mem_seeded]
  simp [skipped, h]

theorem domainSections_seeded :
    domainSections schema analysis (skipped schema analysis (some (seeded schema analysis))) =
      domainSections schema analysis (skipped schema analysis none) := by
  refine domainSections_congr rfl fun name => ?_
  by_cases h : name ∈ schema.tableNames
  · simp only [free?_append, mem_skipped_seeded h]
  · rw [free?_of_not_mem h, free?_of_not_mem h]

theorem remaining_seeded :
    remaining schema analysis (skipped schema analysis (some (seeded schema analysis))) =
      remaining schema analysis (skipped schema analysis none) := by
  refine List.filter_congr fun table htable => ?_
  have hname : table.name ∈ schema.tableNames := List.mem_map_of_mem htable
  simp only [List.contains_eq_mem, mem_skipped_seeded hname]

theorem otherSections_seeded :
    otherSections schema analysis (skipped schema analysis (some (seeded schema analysis))) =
      otherSections schema analysis (skipped schema analysis none) := by
  rw [otherSections_eq, remaining_seeded, otherSections_eq]

theorem arrange_eq_append (selection : Option (List String)) :
    arrange schema analysis selection = authSections schema analysis selection ++
      (.files :: domainSections schema analysis (skipped schema analysis selection) ++
        otherSections schema analysis (skipped schema analysis selection)) := by
  rw [arrange, List.append_assoc]

/-- Every name of a sign-in table has a first specification. -/
theorem exists_mem_firstSpecs {specs : List AuthSpec} {spec : AuthSpec} (h : spec ∈ specs) :
    ∃ first ∈ firstSpecs [] specs, first.table = spec.table := by
  obtain ⟨first, hfirst⟩ : ∃ first, specs.find? (·.table == spec.table) = some first := by
    rw [← Option.isSome_iff_exists, List.find?_isSome]
    exact ⟨spec, h, by simp⟩
  obtain ⟨before, after, hspecs, -⟩ := firstSpecs_of_find? hfirst
  exact ⟨first, by simp [hspecs], by simpa using List.find?_some hfirst⟩

/-- A selection drops no sign-in table just if it holds all of them. -/
theorem length_authSections_some_eq_iff :
    (authSections schema analysis (some selected)).length =
        (authSections schema analysis none).length ↔
      ∀ spec ∈ analysis.authTables, spec.table ∈ selected := by
  rw [authSections_some, authSections_none, List.length_map, List.length_map,
    List.length_filter_eq_length_iff]
  constructor
  · intro h spec hspec
    obtain ⟨first, hfirst, hname⟩ := exists_mem_firstSpecs hspec
    rw [← hname]
    simpa using h first hfirst
  · intro h spec hspec
    simpa using h spec (mem_firstSpecs hspec).1

theorem arrange_seeded_of_forall
    (h : ∀ spec ∈ analysis.authTables, spec.table ∈ seeded schema analysis) :
    arrange schema analysis (some (seeded schema analysis)) = arrange schema analysis none := by
  have hauth : authSections schema analysis (some (seeded schema analysis)) =
      authSections schema analysis none := by
    rw [authSections_some, authSections_none, List.filter_eq_self.2]
    intro spec hspec
    simpa using h spec (mem_firstSpecs hspec).1
  rw [arrange, arrange, hauth, domainSections_seeded, otherSections_seeded]

theorem forall_of_length_arrange_seeded
    (h : (arrange schema analysis (some (seeded schema analysis))).length =
      (arrange schema analysis none).length) :
    ∀ spec ∈ analysis.authTables, spec.table ∈ seeded schema analysis := by
  have hauth : (authSections schema analysis (some (seeded schema analysis))).length =
      (authSections schema analysis none).length := by
    rw [arrange_eq_append, arrange_eq_append, domainSections_seeded, otherSections_seeded] at h
    simp only [List.length_append] at h
    omega
  exact length_authSections_some_eq_iff.1 hauth

end Parts

end Section

namespace Target

/-- Deselecting tables is deleting them. The organized collection under a
selection is, as a whole, the one of the schema with the selected tables only, for
the analysis with the selected sign-in tables only that skips nothing. -/
theorem organized_keep (t : Target) (schema : Schema) (analysis : Analysis)
    (selected : List String) :
    t.organized schema analysis (some selected) =
      t.organized (schema.keep selected) (analysis.keep selected) none := by
  rw [organized, organized, Section.arrange_keep]
  rfl

/-- Under the first selection of an import, the organized collection is the one
without a selection just if the schema has every table with which the analysis
says that users sign in, and the analysis skips none of them. -/
theorem organized_ofSkipped_eq_iff (t : Target) (schema : Schema) (analysis : Analysis) :
    t.organized schema analysis
        (some (Selection.ofSkipped schema.tableNames analysis.skipTables).selected) =
        t.organized schema analysis none ↔
      ∀ spec ∈ analysis.authTables,
        spec.table ∈ schema.tableNames ∧ spec.table ∉ analysis.skipTables := by
  have hmem : (∀ spec ∈ analysis.authTables,
      spec.table ∈ schema.tableNames ∧ spec.table ∉ analysis.skipTables) ↔
      ∀ spec ∈ analysis.authTables, spec.table ∈ Section.seeded schema analysis :=
    forall₂_congr fun _ _ => Section.mem_seeded.symm
  rw [hmem]
  change t.organized schema analysis (some (Section.seeded schema analysis)) = _ ↔ _
  constructor
  · intro h
    have hfolders := congrArg (fun c => c.folders.length) h
    simp only [organized, List.length_map] at hfolders
    exact Section.forall_of_length_arrange_seeded hfolders
  · intro h
    rw [organized, organized, Section.arrange_seeded_of_forall h]

end Target

end RequestAtlas

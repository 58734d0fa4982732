import Mathlib.Data.List.Forall2
import RequestAtlas.Proofs.Collection.Placement
import RequestAtlas.Proofs.Import.Run

/-!
# A preview shows what the collection will have

Before a client takes the collection of an import it sees rows: which tables
there are, which of them are selected, and which users sign in with. The rows are
made from the selection and the analysis, the state of the session counts from
the selection again, and the collection is built from the schema. That the three
agree is `rows_match_collection`.

For the organized collection the agreement rests on two facts. The selection of
a session is among the names of its schema (`new_run_follows`), so a selected
table is one that can have requests; and a table has requests just if it is
selected, in a sign-in folder just if the analysis also names it as a sign-in
table (`exists_signIn_tableGroups_organized_iff`), however often and wherever the
analysis mentions it. The search text hides rows but is no part of the selection.
-/

namespace RequestAtlas

namespace Target

/-- The folders of the standard collection that hold requests about tables. -/
theorem filter_folders_standard (t : Target) (schema : Schema) :
    (t.standard schema).folders.filter (·.isAboutTables t.base) =
      schema.tables.map t.tableFolder := by
  rw [standard, List.filter_cons_of_neg (by simp [isAboutTables_authRequests]),
    List.filter_cons_of_neg (by simp [isAboutTables_filesFolder])]
  refine List.filter_eq_self.2 fun f hf => ?_
  obtain ⟨table, -, rfl⟩ := List.mem_map.1 hf
  exact t.isAboutTables_tableFolder table

end Target

namespace Session

theorem rows_of_standard {s : Session} {source : Source} {model : Option String}
    {collection : Collection} (hstage : s.stage = .standard source model collection) :
    s.rows = .ok (source.schema.tables.map fun table =>
      { name := table.name, selected := true }) := by
  rw [rows, hstage]
  simp [Schema.tableNames, Function.comp_def]

theorem rows_of_organized {s : Session} {source : Source} {analysis : Analysis}
    {model : String} {selection : Selection}
    (hstage : s.stage = .organized source analysis model selection) :
    s.rows = .ok (selection.visible.map (organizedRow analysis selection)) := by
  rw [rows, hstage]

/-! ## What a row says -/

section Rows

variable {analysis : Analysis} {selection : Selection} {name : String}

theorem organizedRow_name : (organizedRow analysis selection name).name = name := rfl

theorem organizedRow_selected_iff :
    (organizedRow analysis selection name).selected = true ↔ name ∈ selection.selected :=
  List.contains_iff_mem

theorem organizedRow_isAuth_iff :
    (organizedRow analysis selection name).isAuth = true ↔ name ∈ analysis.authNames :=
  List.contains_iff_mem

theorem organizedRow_isEssential_iff :
    (organizedRow analysis selection name).isEssential = true ↔ name ∈ analysis.essentialNames :=
  List.contains_iff_mem

end Rows

/-! ## What a row agrees with -/

/-- An edit that keeps the selected names keeps the collection. -/
theorem collection_setFilter {s : Session} {source : Source} {analysis : Analysis}
    {model : String} {selection : Selection} {around : Surroundings} {t : Target}
    (hstage : s.stage = .organized source analysis model selection)
    (ht : s.config.target? around = some t) (text : String) :
    (s.edit (.setFilter text)).1.collection around = s.collection around := by
  have hedited : (s.edit (.setFilter text)).1.stage =
      .organized source analysis model (selection.setFilter text) := by
    rw [edit, hstage]
    rfl
  have hconfig : (s.edit (.setFilter text)).1.config = s.config :=
    perform_config s around (.edit (.setFilter text))
  rw [collection_of_organized hstage ht, collection_of_organized hedited (by rw [hconfig, ht])]
  rfl

/-- Of a selection among the names of a schema, the tables with requests in the
organized collection are the selected ones. -/
theorem exists_tableGroups_selected_iff {t : Target} {schema : Schema} {analysis : Analysis}
    {selected : List String} (hselected : ∀ name ∈ selected, name ∈ schema.tableNames)
    {name : String} :
    (∃ f ∈ (t.organized schema analysis (some selected)).folders,
      f.tableGroups t.base name ≠ []) ↔ name ∈ selected := by
  rw [Target.exists_tableGroups_organized_iff]
  exact ⟨fun h => h.2, fun h => ⟨hselected name h, h⟩⟩

theorem exists_signIn_tableGroups_selected_iff {t : Target} {schema : Schema}
    {analysis : Analysis} {selected : List String}
    (hselected : ∀ name ∈ selected, name ∈ schema.tableNames) {name : String} :
    (∃ f ∈ (t.organized schema analysis (some selected)).folders,
      f.isSignIn t.base = true ∧ f.tableGroups t.base name ≠ []) ↔
      name ∈ selected ∧ name ∈ analysis.authNames := by
  rw [Target.exists_signIn_tableGroups_organized_iff]
  exact ⟨fun h => h.2, fun h => ⟨hselected name h.1, h⟩⟩

/-- What is there to see behind a run that ends in the preview of an analyzed text. -/
theorem shown_of_aiPreview {id : String} {config : ImportConfig} {history : History}
    {around : Surroundings} {base : BaseUrl}
    (hbase : BaseUrl.ofString? (BaseUrl.resolve around.fallbackUrl config.baseUrl) =
      some base)
    (hstep : ((new id config).run history).state.step = "ai-preview") :
    let s := (new id config).run history
    let t := config.targetAt base around.now
    ∃ source analysis model selection,
      s.stage = .organized source analysis model selection ∧
      (∀ name ∈ selection.selected, name ∈ selection.names) ∧
      selection.names = source.schema.tableNames ∧
      s.config.target? around = some t ∧
      s.rows = .ok (selection.visible.map (organizedRow analysis selection)) ∧
      s.collection around =
        .ok (t.organized source.schema analysis (some selection.selected)) := by
  intro s t
  have hfollows : s.stage.Follows config history := new_run_follows id config history
  obtain ⟨source, analysis, model, selection, hstage⟩ := Stage.name_eq_aiPreview_iff.1 hstep
  rw [hstage] at hfollows
  obtain ⟨-, -, -, hnames, hselected⟩ := hfollows
  have ht : s.config.target? around = some t := by
    rw [show s.config = config from run_config _ _]
    exact ImportConfig.target?_of_base hbase
  exact ⟨source, analysis, model, selection, hstage, hselected, hnames, ht,
    rows_of_organized hstage, collection_of_organized hstage ht⟩

/-- What the preview of a session shows is what its collection has.

In the preview of an organized collection a row is selected just if the
collection has requests about its table, and marked as a sign-in table besides
just if a sign-in folder has them; the state lists the tables with requests, and
setting the search text changes nothing of the collection. In the preview of a
standard collection the rows are the tables of the schema in order, all selected,
and the folders with requests about tables are one for each row, with the nine
requests of its table and no others about tables. -/
theorem rows_match_collection (id : String) (config : ImportConfig) (history : History)
    (around : Surroundings) (base : BaseUrl)
    (hbase : BaseUrl.ofString? (BaseUrl.resolve around.fallbackUrl config.baseUrl) =
      some base) :
    let s := (new id config).run history
    (s.state.step = "ai-preview" →
      ∃ rows c, s.rows = .ok rows ∧ s.collection around = .ok c ∧
        (∀ row ∈ rows,
          (row.selected = true ↔ ∃ f ∈ c.folders, f.tableGroups base row.name ≠ []) ∧
          (row.selected = true ∧ row.isAuth = true ↔
            ∃ f ∈ c.folders, f.isSignIn base = true ∧ f.tableGroups base row.name ≠ [])) ∧
        (∀ name, (∃ f ∈ c.folders, f.tableGroups base name ≠ []) ↔
          name ∈ s.state.selectedTables) ∧
        ∀ text, (s.edit (.setFilter text)).1.collection around = .ok c) ∧
    (s.state.step = "preview" →
      ∃ rows c source, s.rows = .ok rows ∧ s.collection around = .ok c ∧
        s.stage.source? = some source ∧
        rows.map (·.name) = source.schema.tableNames ∧
        (∀ row ∈ rows, row.selected = true) ∧
        ∃ moment ∈ history.map (·.1), ∃ t, config.target? moment = some t ∧
          List.Forall₂
            (fun (row : Row) (f : Folder) =>
              (∃ table ∈ source.schema.tables, table.name = row.name ∧
                f.tableGroups t.base row.name = [t.tableRequests table]) ∧
              ∀ name, name ≠ row.name → f.tableGroups t.base name = [])
            rows (c.folders.filter (·.isAboutTables t.base))) := by
  intro s
  constructor
  · intro hstep
    obtain ⟨source, analysis, model, selection, hstage, hselected, hnames, ht, hrows,
      hcollection⟩ := shown_of_aiPreview hbase hstep
    have hmembers : ∀ name ∈ selection.selected, name ∈ source.schema.tableNames :=
      hnames ▸ hselected
    refine ⟨_, _, hrows, hcollection, fun row hrow => ?_, fun name => ?_,
      fun text => ?_⟩
    · obtain ⟨name, -, rfl⟩ := List.mem_map.1 hrow
      rw [organizedRow_selected_iff, organizedRow_isAuth_iff]
      exact ⟨(exists_tableGroups_selected_iff hmembers).symm,
        (exists_signIn_tableGroups_selected_iff hmembers).symm⟩
    · rw [selectedTables_of_organized hstage, mem_selectedNames_iff hselected]
      exact exists_tableGroups_selected_iff hmembers
    · rw [collection_setFilter hstage ht, hcollection]
  · intro hstep
    have hfollows : s.stage.Follows config history := new_run_follows id config history
    obtain ⟨source, model, collection, hstage⟩ := Stage.name_eq_preview_iff.1 hstep
    rw [hstage] at hfollows
    obtain ⟨-, moment, hmoment, t, ht, rfl⟩ := hfollows
    refine ⟨_, _, source, rows_of_standard hstage, collection_of_standard hstage around,
      by rw [hstage]; rfl, by simp [Schema.tableNames, Function.comp_def], ?_, moment, hmoment,
      t, ht, ?_⟩
    · intro row hrow
      obtain ⟨table, -, rfl⟩ := List.mem_map.1 hrow
      rfl
    · rw [t.filter_folders_standard, List.forall₂_map_left_iff, List.forall₂_map_right_iff,
        List.forall₂_same]
      intro table htable
      refine ⟨⟨table, htable, rfl, ?_⟩, fun name hname => ?_⟩
      · rw [t.tableGroups_tableFolder, if_pos rfl]
      · rw [t.tableGroups_tableFolder, if_neg (Ne.symm hname)]

/-- An import whose analysis names `users` as a sign-in table and in a domain, and
skips `orders`, under a search text that shows `users` alone: the one row is
selected and marked, and a sign-in folder has the requests of its table. Given up
for the standard collection, the import shows both tables. -/
theorem rows_match_collection_filtered :
    let config : ImportConfig := { aiEnabled := { isOn := true } }
    let text := "Table users \x7b\n  id UUID\n\x7d\nTable orders \x7b\n  id UUID\n\x7d"
    let analysis : Analysis :=
      { authTables := [{ table := "users" }, { table := "ghost" }]
        domains := [{ name := "People", tables := [{ name := "users" }] }]
        skipTables := ["orders"] }
    let around : Surroundings := ⟨"https://api.admin.u-code.io", default⟩
    let history : History :=
      [(around, .load text (some fun _ => .ok ⟨analysis, "m"⟩)),
        (around, .edit (.setFilter "SER"))]
    let base : BaseUrl := ⟨"https://api.admin.u-code.io", some "https",
      ["api", "admin", "u-code", "io"], none, []⟩
    let s := (new "s1" config).run history
    let givenUp : History := history ++ [(around, .fallBack)]
    let given := (new "s1" config).run givenUp
    BaseUrl.ofString? (BaseUrl.resolve around.fallbackUrl config.baseUrl) = some base ∧
      s.state.step = "ai-preview" ∧ s.rows = .ok [⟨"users", true, true, false, false⟩] ∧
      (∃ c, s.collection around = .ok c ∧
        ∃ f ∈ c.folders, f.isSignIn base = true ∧ f.tableGroups base "users" ≠ []) ∧
      given.state.step = "preview" ∧ given.state.tableNames = ["users", "orders"] ∧
      ∃ rows c, given.rows = .ok rows ∧ given.collection around = .ok c ∧
        ∀ row ∈ rows, row.selected = true := by
  intro config text analysis around history base s givenUp given
  have hbase : BaseUrl.ofString? (BaseUrl.resolve around.fallbackUrl config.baseUrl) =
      some base := by decide +kernel
  have hstep : s.state.step = "ai-preview" := by decide +kernel
  have hrows : s.rows = .ok [⟨"users", true, true, false, false⟩] := by decide +kernel
  have hgiven : given.state.step = "preview" := by decide +kernel
  have hnames : given.state.tableNames = ["users", "orders"] := by decide +kernel
  have hmatch := (rows_match_collection "s1" config history around base hbase).1 hstep
  have hall := (rows_match_collection "s1" config givenUp around base hbase).2 hgiven
  -- What is left does not look into the runs.
  clear_value givenUp history
  obtain ⟨rows, c, hshown, hcollection, hagree, -⟩ := hmatch
  obtain ⟨rows', c', -, hshown', hcollection', -, -, hselected, -⟩ := hall
  have hrow : ⟨"users", true, true, false, false⟩ ∈ rows := by
    rw [← Except.ok.inj (hrows.symm.trans hshown)]
    exact List.mem_singleton_self _
  exact ⟨hbase, hstep, hrows, ⟨c, hcollection, (hagree _ hrow).2.1 ⟨rfl, rfl⟩⟩, hgiven, hnames,
    rows', c', hshown', hcollection', hselected⟩

end Session

end RequestAtlas

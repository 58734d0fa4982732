import RequestAtlas.Proofs.Import.Run

/-!
# What a session has on it

A client of a session sees eight things: the step, the text that is loaded and
its schema, the analysis with its model, the selection, the collection that has
been built, and the latest error. Which of them are there, and how they hang
together, depends on the step only, and this file says how.

Which of them are there is settled by the type of a stage already: a session that
has a field of another step cannot be written down, so the lemmas of the first part
hold of every session, whatever led to it. How those that are there hang together
needs a run. `new_run_coherent` holds behind every one, whatever failed on the way,
and what it adds comes from `new_run_follows`: that the schema is that of the text and
has a table, that the collection is that of the schema, and what a selection is among.
-/

namespace RequestAtlas.Session

/-! ## The fields of a session -/

/-- The schema of a session, when one is loaded. -/
def schema? (s : Session) : Option Schema :=
  s.stage.source?.map (·.schema)

/-- The text that is loaded; empty when none is. -/
def loadedText (s : Session) : String :=
  (s.stage.source?.map (·.text)).getD ""

/-- The analysis whose preview is shown. -/
def analysis? (s : Session) : Option Analysis :=
  match s.stage with
  | .organized _ analysis _ _ => some analysis
  | _ => none

/-- The selection that can be edited. -/
def selection? (s : Session) : Option Selection :=
  match s.stage with
  | .organized _ _ _ selection => some selection
  | _ => none

/-- The collection that has been built. -/
def built? (s : Session) : Option Collection :=
  match s.stage with
  | .standard _ _ collection => some collection
  | _ => none

theorem fields_of_config {s : Session} (h : s.stage.name = "config") :
    s.analysis? = none ∧ s.selection? = none ∧ s.stage.model? = none ∧ s.built? = none := by
  rcases Stage.name_eq_config_iff.1 h with hstage | ⟨source, hstage⟩
  · simp [analysis?, selection?, built?, Stage.model?, hstage]
  · simp [analysis?, selection?, built?, Stage.model?, hstage]

theorem fields_of_preview {s : Session} (h : s.stage.name = "preview") :
    ∃ source model collection, s.stage = .standard source model collection ∧
      s.schema? = some source.schema ∧ s.analysis? = none ∧ s.selection? = none ∧
      s.built? = some collection := by
  obtain ⟨source, model, collection, hstage⟩ := Stage.name_eq_preview_iff.1 h
  refine ⟨source, model, collection, hstage, ?_⟩
  simp [schema?, analysis?, selection?, built?, Stage.source?, hstage]

theorem fields_of_aiPreview {s : Session} (h : s.stage.name = "ai-preview") :
    ∃ source analysis model selection,
      s.stage = .organized source analysis model selection ∧
      s.schema? = some source.schema ∧ s.analysis? = some analysis ∧
      s.stage.model? = some model ∧ s.selection? = some selection ∧ s.built? = none := by
  obtain ⟨source, analysis, model, selection, hstage⟩ := Stage.name_eq_aiPreview_iff.1 h
  refine ⟨source, analysis, model, selection, hstage, ?_⟩
  simp [schema?, analysis?, selection?, built?, Stage.source?, Stage.model?, hstage]

/-! ## Behind a run -/

/-- Whether the fields of a session hang together, when its operations had the
given surroundings. -/
structure Coherent (surroundings : List Surroundings) (s : Session) : Prop where
  /-- A schema is there just if a text is. -/
  schema_none_iff : s.schema? = none ↔ s.loadedText = ""
  /-- The schema is that of the text, and it has a table. -/
  schema_read : ∀ schema, s.schema? = some schema →
    Schema.read s.loadedText = schema ∧ schema.tables ≠ []
  /-- Before a preview there is nothing but the text and its schema. -/
  config : s.stage.name = "config" →
    s.analysis? = none ∧ s.selection? = none ∧ s.stage.model? = none ∧ s.built? = none
  /-- The preview of a standard collection has the collection of the schema, made
  from the configuration in the surroundings of some operation. -/
  preview : s.stage.name = "preview" →
    s.analysis? = none ∧ s.selection? = none ∧
      ∃ schema, s.schema? = some schema ∧
        ∃ around ∈ surroundings, ∃ base,
          BaseUrl.ofString? (BaseUrl.resolve around.fallbackUrl s.config.baseUrl) = some base ∧
          s.built? = some ((s.config.targetAt base around.now).standard schema)
  /-- The preview of an organized collection has an analysis and a selection among
  the names of the schema, and no collection yet. -/
  aiPreview : s.stage.name = "ai-preview" →
    s.config.aiEnabled.isOn = true ∧ s.built? = none ∧
      ∃ schema analysis model selection,
        s.schema? = some schema ∧ s.analysis? = some analysis ∧
        s.stage.model? = some model ∧ s.selection? = some selection ∧
        selection.names = schema.tableNames ∧
        ∀ name ∈ selection.selected, name ∈ schema.tableNames

theorem schema?_eq_none_iff {s : Session} {config : ImportConfig} {history : History}
    (h : s.stage.Follows config history) : s.schema? = none ↔ s.loadedText = "" := by
  rw [schema?, loadedText]
  cases hsource : s.stage.source? with
  | none => simp
  | some source => simpa using (source?_ok (isLast_of_follows h hsource).1).1

theorem schema?_read {s : Session} {config : ImportConfig} {history : History}
    (h : s.stage.Follows config history) {schema : Schema} (hschema : s.schema? = some schema) :
    Schema.read s.loadedText = schema ∧ schema.tables ≠ [] := by
  rw [schema?, Option.map_eq_some_iff] at hschema
  obtain ⟨source, hsource, rfl⟩ := hschema
  have hok := source?_ok (isLast_of_follows h hsource).1
  rw [loadedText, hsource]
  exact hok.2

/-- A session whose stage follows from its history is coherent. -/
theorem coherent_of_follows {s : Session} {history : History}
    (h : s.stage.Follows s.config history) : s.Coherent (history.map (·.1)) where
  schema_none_iff := schema?_eq_none_iff h
  schema_read _ hschema := schema?_read h hschema
  config := fields_of_config
  preview hname := by
    obtain ⟨source, model, collection, hstage, hschema, hanalysis, hselection, hbuilt⟩ :=
      fields_of_preview hname
    rw [hstage] at h
    obtain ⟨-, around, haround, t, ht, rfl⟩ := h
    obtain ⟨base, hbase, rfl⟩ := ImportConfig.target?_eq_some_iff.1 ht
    exact ⟨hanalysis, hselection, source.schema, hschema, around, haround, base, hbase, hbuilt⟩
  aiPreview hname := by
    obtain ⟨source, analysis, model, selection, hstage, hschema, hanalysis, hmodel, hselection,
      hbuilt⟩ := fields_of_aiPreview hname
    rw [hstage] at h
    obtain ⟨-, -, hai, hnames, hselected⟩ := h
    exact ⟨hai, hbuilt, source.schema, analysis, model, selection, hschema, hanalysis, hmodel,
      hselection, hnames, hnames ▸ hselected⟩

/-- Behind every run of operations, failed ones included, a session has the
configuration it was made with and its fields hang together. -/
theorem new_run_coherent (id : String) (config : ImportConfig) (history : History) :
    ((new id config).run history).config = config ∧
      ((new id config).run history).Coherent (history.map (·.1)) := by
  have hconfig : ((new id config).run history).config = config := run_config _ _
  refine ⟨hconfig, coherent_of_follows ?_⟩
  rw [hconfig]
  exact new_run_follows id config history

end RequestAtlas.Session

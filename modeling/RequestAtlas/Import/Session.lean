import RequestAtlas.Analysis.Reply
import RequestAtlas.Collection.Organized
import RequestAtlas.Collection.Requests
import RequestAtlas.Import.Config
import RequestAtlas.Import.Failure
import RequestAtlas.Net.SchemaSource
import RequestAtlas.Schema.Reader
import RequestAtlas.Selection

/-!
# Import sessions

An import turns a schema text into a collection. It starts empty; loading a text
leads to the preview of the standard collection or, when the analysis is
enabled, to the preview of the organized one, whose selection can be edited. A
failed analysis keeps the schema, so the user can fall back to the standard
collection.

An operation returns the session behind it together with its outcome, also when
it fails: a failure may leave its message on the session.
-/

namespace RequestAtlas

/-- A schema text that was loaded, and the schema in it. -/
structure Source where
  text : String
  schema : Schema
  deriving DecidableEq, Repr, Inhabited

/-- How far an import is. -/
inductive Stage where
  /-- Nothing is loaded. -/
  | empty
  /-- A schema is loaded, but there is no preview of it. -/
  | loaded (source : Source)
  /-- The preview of the standard collection. The model is that of an analysis
  that was given up for it. -/
  | standard (source : Source) (model : Option String) (collection : Collection)
  /-- The preview of the organized collection. -/
  | organized (source : Source) (analysis : Analysis) (model : String)
      (selection : Selection)
  deriving DecidableEq, Repr, Inhabited

/-- An import session. -/
structure Session where
  id : String
  config : ImportConfig
  error : Option String := none
  stage : Stage := .empty
  deriving DecidableEq, Repr, Inhabited

/-- The analyzer of an import: what it answers to a request. -/
abbrev Analyzer := AnalysisRequest → Except AnalysisError AnalysisAnswer

namespace Stage

/-- The schema that is loaded. -/
def source? : Stage → Option Source
  | .empty => none
  | .loaded source | .standard source _ _ | .organized source _ _ _ => some source

/-- The model that gave the latest analysis. -/
def model? : Stage → Option String
  | .standard _ model _ => model
  | .organized _ _ model _ => some model
  | _ => none

/-- The name of a stage. -/
def name : Stage → String
  | .empty | .loaded _ => "config"
  | .standard _ _ _ => "preview"
  | .organized _ _ _ _ => "ai-preview"

end Stage

namespace Session

/-- A new session. -/
def new (id : String) (config : ImportConfig) : Session :=
  { id, config }

/-- A session as it was at its start. -/
def reset (s : Session) : Session :=
  new s.id s.config

/-- A session that fails with its failure's message on it. -/
def record (s : Session) (f : Failure) : Session × Except Failure Unit :=
  ({ s with error := f.message? }, .error f)

/-! ## Loading -/

/-- Moves to the preview of the standard collection. Without a base address the
session stays as it is. -/
def showStandard (s : Session) (around : Surroundings) (source : Source) :
    Session × Except Failure Unit :=
  match s.config.target? around with
  | none => (s, .error (.fault .refusedAddress))
  | some target =>
    ({ s with stage := .standard source s.stage.model? (target.standard source.schema) }, .ok ())

/-- Moves to the preview of the organized collection, from what the analyzer
answered. -/
def showOrganized (s : Session) (source : Source) :
    Except AnalysisError AnalysisAnswer → Session × Except Failure Unit
  | .error (.failed message) =>
    let hint := message ++ ". You can try again or use the standard collection."
    ({ s with error := some hint }, .error (.analysisFailed message))
  | .error (.fault f) => (s, .error (.fault f))
  | .ok answer =>
    let selection := Selection.ofSkipped source.schema.tableNames answer.analysis.skipTables
    ({ s with stage := .organized source answer.analysis answer.model selection }, .ok ())

/-- The schema text that a load takes, with the schema in it. -/
def source? (text : String) : Except Failure Source :=
  if (Text.trim text.toList).isEmpty then .error .noContent
  else
    let schema := Schema.read text
    if schema.tables.isEmpty then .error .noTables else .ok ⟨text, schema⟩

/-- The request that a load puts to its analyzer, if it puts one. -/
def question? (s : Session) (text : String) : Option AnalysisRequest :=
  match source? text with
  | .error _ => none
  | .ok _ => if s.config.aiEnabled.isOn then some (s.config.analysisRequest text) else none

/-- Loads a schema text. Nothing of an earlier load is left. -/
def load (s : Session) (around : Surroundings) (text : String) (analyzer : Option Analyzer) :
    Session × Except Failure Unit :=
  let s := s.reset
  match source? text with
  | .error f => s.record f
  | .ok source =>
    let s := { s with stage := .loaded source }
    match s.config.aiEnabled.isOn, analyzer with
    | true, some analyze => s.showOrganized source (analyze (s.config.analysisRequest text))
    | _, _ => s.showStandard around source

/-- Loads what a fetch gave. A value that counts as absent is no content, whatever kind
it is of. -/
def fetch (s : Session) (around : Surroundings) (fetched : Except Net.FetchError Json)
    (analyzer : Option Analyzer) : Session × Except Failure Unit :=
  if s.config.hasIds then
    match fetched with
    | .error (.failed message) => s.record (.fetchFailed message)
    | .error (.fault f) => (s, .error (.fault f))
    | .ok (.str text) => s.load around text analyzer
    | .ok v => if v.isEmpty then s.reset.record .noContent else (s.reset, .error (.fault .notText))
  else s.record .missingIds

/-- Gives up the analysis and moves to the preview of the standard
collection. -/
def fallBack (s : Session) (around : Surroundings) : Session × Except Failure Unit :=
  match s.stage.source? with
  | none => (s, .error .noSchema)
  | some source => { s with error := none }.showStandard around source

/-! ## Selection -/

/-- Edits the selection. -/
def edit (s : Session) (e : Selection.Edit) : Session × Except Failure Unit :=
  match s.stage with
  | .organized source analysis model selection =>
    ({ s with stage := .organized source analysis model (selection.apply e) }, .ok ())
  | _ => (s, .error .noSelection)

/-- A row of a preview. -/
structure Row where
  name : String
  selected : Bool
  isAuth : Bool := false
  isSkipped : Bool := false
  isEssential : Bool := false
  deriving DecidableEq, Repr, Inhabited

/-- The document of a row. -/
def Row.toJson (r : Row) : Json :=
  .obj [("name", .str r.name), ("selected", .bool r.selected), ("is_auth", .bool r.isAuth),
    ("is_skipped", .bool r.isSkipped), ("is_essential", .bool r.isEssential)]

/-- The row of a table in the preview of an organized collection. -/
def organizedRow (analysis : Analysis) (selection : Selection) (name : String) : Row where
  name := name
  selected := selection.isSelected name
  isAuth := analysis.authNames.contains name
  isSkipped := analysis.skipTables.contains name
  isEssential := analysis.essentialNames.contains name

/-- The rows of the preview: every table of a standard collection, the visible
tables of an organized one. -/
def rows (s : Session) : Except Failure (List Row) :=
  match s.stage with
  | .standard source _ _ =>
    .ok (source.schema.tableNames.map fun name => { name, selected := true })
  | .organized _ analysis _ selection =>
    .ok (selection.visible.map (organizedRow analysis selection))
  | _ => .error .noSelection

/-! ## Output -/

/-- The collection to import. That of a standard preview was made with it; an
organized one is made from the selection as it is now. -/
def collection (s : Session) (around : Surroundings) : Except Failure Collection :=
  match s.stage with
  | .standard _ _ collection => .ok collection
  | .organized source analysis _ selection =>
    match s.config.target? around with
    | none => .error (.fault .refusedAddress)
    | some target => .ok (target.organized source.schema analysis (some selection.selected))
  | _ => .error .nothingToImport

/-- The fault of writing a collection within limits when a session hands it out, if it is
one: that of the bodies of its requests, or else of the counts of the analysis in its
description. The bodies of a standard collection have been written with its preview. -/
def overrun? (s : Session) (limits : Json.Limits) (c : Collection) : Option Fault :=
  match s.stage with
  | .organized _ analysis _ _ =>
    (c.overrun? limits).or (analysis.counts.findSome? fun n => (Json.int n).overrun? limits)
  | _ => none

/-- The collection to import, written within limits. -/
def handOut (s : Session) (limits : Json.Limits) (around : Surroundings) :
    Except Failure Collection :=
  match s.collection around with
  | .error f => .error f
  | .ok c =>
    match s.overrun? limits c with
    | some f => .error (.fault f)
    | none => .ok c

/-- What a client sees of a session. -/
structure State where
  sessionId : String
  step : String
  aiEnabled : Bool
  error : Option String
  tableNames : List String
  projectSummary : Option String
  model : Option String
  selectedTables : List String
  searchFilter : String
  deriving DecidableEq, Repr, Inhabited

/-- The state of a session. -/
def state (s : Session) : State where
  sessionId := s.id
  step := s.stage.name
  aiEnabled := s.config.aiEnabled.shown
  error := s.error
  tableNames := match s.stage.source? with
    | some source => source.schema.tableNames
    | none => []
  projectSummary := match s.stage with
    | .organized _ analysis _ _ => some analysis.summary
    | _ => none
  model := s.stage.model?
  selectedTables := match s.stage with
    | .organized _ _ _ selection => selection.selectedNames
    | _ => []
  searchFilter := match s.stage with
    | .organized _ _ _ selection => selection.filter
    | _ => ""

/-- The document of a state. -/
def State.toJson (s : State) : Json :=
  .obj [("session_id", .str s.sessionId), ("step", .str s.step),
    ("ai_enabled", .bool s.aiEnabled), ("error", .ofOption s.error),
    ("tables_count", .int s.tableNames.length), ("table_names", .strings s.tableNames),
    ("project_summary", .ofOption s.projectSummary), ("model", .ofOption s.model),
    ("selected_count", .int s.selectedTables.length),
    ("selected_tables", .strings s.selectedTables), ("search_filter", .str s.searchFilter)]

end Session

end RequestAtlas

import RequestAtlas.Import.Session
import RequestAtlas.Proofs.Selection.Run

/-!
# Runs of an import

An import is used by one operation after another, each of which may fail and
leaves a session behind either way. This file names the operations, runs them,
and proves the one invariant that what is said of sessions elsewhere rests on.

The invariant relates the stage of a session to the history that led there. The
text on the session is the last one that was loaded; a standard collection is
that of its schema, made in the surroundings of some operation; an analysis is
what the analyzer that came with the last load answered, and its selection is
among the names of the schema. A stage has nothing else to be wrong about, so
`perform_follows` goes through the operations once, and `run_follows` is the
induction.

Every operation has surroundings of its own, since time passes between two of
them. Where a statement wants time to stand still it says so.
-/

namespace RequestAtlas

/-- What the requests of an import are addressed to, below a base address. The
ids and the key lose the blanks around them. -/
def ImportConfig.targetAt (c : ImportConfig) (base : BaseUrl) (now : Timestamp) : Target where
  base := base
  projectId := Text.trimString c.projectId
  environmentId := Text.trimString c.environmentId
  apiKey := Text.trimString c.apiKey
  now := now

theorem ImportConfig.target?_eq_some_iff {c : ImportConfig} {around : Surroundings}
    {t : Target} : c.target? around = some t ↔
      ∃ base, BaseUrl.ofString? (BaseUrl.resolve around.fallbackUrl c.baseUrl) = some base ∧
        t = c.targetAt base around.now := by
  rw [target?, Option.map_eq_some_iff]
  exact exists_congr fun base => and_congr_right fun _ => eq_comm

theorem ImportConfig.target?_of_base {c : ImportConfig} {around : Surroundings}
    {base : BaseUrl}
    (h : BaseUrl.ofString? (BaseUrl.resolve around.fallbackUrl c.baseUrl) = some base) :
    c.target? around = some (c.targetAt base around.now) :=
  target?_eq_some_iff.2 ⟨base, h, rfl⟩

namespace Session

/-- An operation of an import. What a load's analyzer and a fetch give comes from
outside, so it may be anything. -/
inductive Operation where
  | load (text : String) (analyzer : Option Analyzer)
  | fetch (fetched : Except Net.FetchError Json) (analyzer : Option Analyzer)
  | fallBack
  | edit (e : Selection.Edit)
  | reset

/-- The operations of an import so far, each with its surroundings. -/
abbrev History := List (Surroundings × Operation)

/-- The session behind an operation, with the operation's outcome. -/
def perform (s : Session) (around : Surroundings) : Operation → Session × Except Failure Unit
  | .load text analyzer => s.load around text analyzer
  | .fetch fetched analyzer => s.fetch around fetched analyzer
  | .fallBack => s.fallBack around
  | .edit e => s.edit e
  | .reset => (s.reset, .ok ())

/-- The session behind a run. An operation that fails does not end it. -/
def run (s : Session) : History → Session
  | [] => s
  | (around, op) :: rest => (s.perform around op).1.run rest

/-- What an operation loads: a text with tables in it, and the analyzer that
comes with it. Whether the analyzer fails makes no difference to this: the schema
is on the session then, and the standard collection can still be made from it. -/
def Operation.loaded? (config : ImportConfig) : Operation → Option (String × Option Analyzer)
  | .load text analyzer => if (source? text).isOk then some (text, analyzer) else none
  | .fetch (.ok (.str text)) analyzer =>
    if config.hasIds && (source? text).isOk then some (text, analyzer) else none
  | _ => none

/-- Whether a load shows the standard collection when it succeeds. -/
def loadsStandard (s : Session) (text : String) (analyzer : Option Analyzer) : Bool :=
  (source? text).isOk && !(s.config.aiEnabled.isOn && analyzer.isSome)

/-- The last text that was loaded, with its analyzer. -/
def lastLoad? (config : ImportConfig) (history : History) :
    Option (String × Option Analyzer) :=
  history.reverse.findSome? fun p => p.2.loaded? config

end Session

/-- Whether a source is the last one that was loaded. -/
def Source.IsLast (config : ImportConfig) (history : Session.History) (source : Source) :
    Prop :=
  Session.source? source.text = .ok source ∧
    ∃ analyzer, Session.lastLoad? config history = some (source.text, analyzer)

/-- Whether a stage is what a history leads to. -/
def Stage.Follows (config : ImportConfig) (history : Session.History) : Stage → Prop
  | .empty => True
  | .loaded source => source.IsLast config history
  | .standard source _ collection =>
    source.IsLast config history ∧
      ∃ around ∈ history.map (·.1), ∃ t, config.target? around = some t ∧
        collection = t.standard source.schema
  | .organized source analysis model selection =>
    Session.source? source.text = .ok source ∧
      (∃ analyze, Session.lastLoad? config history = some (source.text, some analyze) ∧
        analyze (config.analysisRequest source.text) = .ok ⟨analysis, model⟩) ∧
      config.aiEnabled.isOn = true ∧
      selection.names = source.schema.tableNames ∧
      ∀ name ∈ selection.selected, name ∈ selection.names

/-! ## Steps

A client knows a stage by the name of its step, and every name but that of the
start belongs to one stage only. -/

namespace Stage

theorem name_eq_config_iff {stage : Stage} :
    stage.name = "config" ↔ stage = .empty ∨ ∃ source, stage = .loaded source := by
  cases stage <;> simp [name]

theorem name_eq_preview_iff {stage : Stage} :
    stage.name = "preview" ↔
      ∃ source model collection, stage = .standard source model collection := by
  cases stage <;> simp [name]

theorem name_eq_aiPreview_iff {stage : Stage} :
    stage.name = "ai-preview" ↔
      ∃ source analysis model selection,
        stage = .organized source analysis model selection := by
  cases stage <;> simp [name]

end Stage

namespace Session

/-! ## Sources -/

theorem source?_text {text : String} {source : Source} (h : source? text = .ok source) :
    source.text = text := by
  simp only [source?] at h
  split at h
  · cases h
  · split at h
    · cases h
    · cases h
      rfl

/-- A text that can be loaded is not empty and its schema has a table. -/
theorem source?_ok {source : Source} (h : source? source.text = .ok source) :
    source.text ≠ "" ∧ Schema.read source.text = source.schema ∧ source.schema.tables ≠ [] := by
  simp only [source?] at h
  split at h
  · cases h
  · next hblank =>
      split at h
      · cases h
      · next htables =>
          refine ⟨fun hempty => hblank ?_, ?_, ?_⟩
          · rw [hempty]
            rfl
          · exact congrArg Source.schema (Except.ok.inj h)
          · rw [← congrArg Source.schema (Except.ok.inj h)]
            simpa using htables

/-! ## Histories -/

section History

variable {config : ImportConfig} {history : History} {around : Surroundings} {op : Operation}

theorem lastLoad?_of_loaded {l : String × Option Analyzer} (h : op.loaded? config = some l) :
    lastLoad? config (history ++ [(around, op)]) = some l := by
  simp [lastLoad?, h]

theorem lastLoad?_of_not_loaded (h : op.loaded? config = none) :
    lastLoad? config (history ++ [(around, op)]) = lastLoad? config history := by
  simp [lastLoad?, h]

theorem isLast_snoc {source : Source} (hop : op.loaded? config = none)
    (h : source.IsLast config history) :
    source.IsLast config (history ++ [(around, op)]) := by
  obtain ⟨hsource, analyzer, hlast⟩ := h
  exact ⟨hsource, analyzer, by rw [lastLoad?_of_not_loaded hop, hlast]⟩

/-- The schema that is loaded is the last one that was. -/
theorem isLast_of_follows {stage : Stage} {source : Source}
    (h : stage.Follows config history) (hsource : stage.source? = some source) :
    source.IsLast config history := by
  cases stage with
  | empty => cases hsource
  | loaded own =>
      cases hsource
      exact h
  | standard own model collection =>
      cases hsource
      exact h.1
  | organized own analysis model selection =>
      cases hsource
      obtain ⟨hown, ⟨analyze, hlast, -⟩, -⟩ := h
      exact ⟨hown, some analyze, hlast⟩

/-- A stage that an operation leaves as it is follows from the longer history,
when the operation loads nothing. -/
theorem follows_snoc {stage : Stage} (hop : op.loaded? config = none)
    (h : stage.Follows config history) :
    stage.Follows config (history ++ [(around, op)]) := by
  cases stage with
  | empty => trivial
  | loaded source => exact isLast_snoc hop h
  | standard source model collection =>
      obtain ⟨hlast, moment, hmoment, hcollection⟩ := h
      refine ⟨isLast_snoc hop hlast, moment, ?_, hcollection⟩
      rw [List.map_append]
      exact List.mem_append_left _ hmoment
  | organized source analysis model selection =>
      obtain ⟨hsource, ⟨analyze, hlast, hanswer⟩, hrest⟩ := h
      exact ⟨hsource, ⟨analyze, by rw [lastLoad?_of_not_loaded hop, hlast], hanswer⟩, hrest⟩

end History

/-! ## Operations

What a move to the standard preview does is said twice, once for each outcome of
the base address, and the reader of addresses is kept closed: where the address
is unknown, evaluating it only runs into the decoding of text. -/

attribute [local irreducible] ImportConfig.target?

theorem showStandard_of_none {s : Session} {around : Surroundings}
    (h : s.config.target? around = none) (source : Source) :
    s.showStandard around source = (s, .error (.fault .refusedAddress)) := by
  delta showStandard
  rw [h]

theorem showStandard_of_some {s : Session} {around : Surroundings} {t : Target}
    (h : s.config.target? around = some t) (source : Source) :
    s.showStandard around source =
      ({ s with stage := .standard source s.stage.model? (t.standard source.schema) },
        .ok ()) := by
  delta showStandard
  rw [h]

theorem showStandard_reset (s : Session) (around : Surroundings) (source : Source) :
    (s.showStandard around source).1.reset = s.reset := by
  cases h : s.config.target? around with
  | none => rw [showStandard_of_none h]
  | some t =>
      rw [showStandard_of_some h]
      rfl

theorem showOrganized_reset (s : Session) (source : Source)
    (answer : Except AnalysisError AnalysisAnswer) :
    (s.showOrganized source answer).1.reset = s.reset := by
  match answer with
  | .error (.failed _) => rfl
  | .error (.fault _) => rfl
  | .ok _ => rfl

theorem load_reset (s : Session) (around : Surroundings) (text : String)
    (analyzer : Option Analyzer) : (s.load around text analyzer).1.reset = s.reset := by
  simp only [load]
  split
  · rfl
  · split
    · exact showOrganized_reset _ _ _
    · exact showStandard_reset _ _ _

/-- A fetch asks for the ids, then for a text, and then loads it. -/
theorem fetch_cases (s : Session) (around : Surroundings)
    (fetched : Except Net.FetchError Json) (analyzer : Option Analyzer) :
    (s.config.hasIds = false ∧ s.fetch around fetched analyzer = s.record .missingIds) ∨
      s.config.hasIds = true ∧
        ((∃ message, fetched = .error (.failed message) ∧
            s.fetch around fetched analyzer = s.record (.fetchFailed message)) ∨
          (∃ fault, fetched = .error (.fault fault) ∧
            s.fetch around fetched analyzer = (s, .error (.fault fault))) ∨
          (∃ text, fetched = .ok (.str text) ∧
            s.fetch around fetched analyzer = s.load around text analyzer) ∨
          ∃ document, fetched = .ok document ∧ (∀ text, document ≠ .str text) ∧
            ((document.isEmpty = true ∧
                s.fetch around fetched analyzer = s.reset.record .noContent) ∨
              (document.isEmpty = false ∧
                s.fetch around fetched analyzer = (s.reset, .error (.fault .notText))))) := by
  cases hids : s.config.hasIds with
  | false => exact .inl ⟨rfl, by simp only [fetch, hids]; rfl⟩
  | true =>
      refine .inr ⟨rfl, ?_⟩
      simp only [fetch, hids, if_true]
      match fetched with
      | .error (.failed message) => exact .inl ⟨message, rfl, rfl⟩
      | .error (.fault fault) => exact .inr (.inl ⟨fault, rfl, rfl⟩)
      | .ok (.str text) => exact .inr (.inr (.inl ⟨text, rfl, rfl⟩))
      | .ok .null | .ok (.bool _) | .ok (.int _) | .ok (.float _) | .ok (.arr _)
      | .ok (.obj _) =>
          refine .inr (.inr (.inr ⟨_, rfl, nofun, ?_⟩))
          dsimp only
          split
          next hempty => exact .inl ⟨hempty, rfl⟩
          next hempty => exact .inr ⟨Bool.eq_false_iff.2 hempty, rfl⟩

/-- A fall back asks for a schema. -/
theorem fallBack_cases (s : Session) (around : Surroundings) :
    (s.stage.source? = none ∧ s.fallBack around = (s, .error .noSchema)) ∨
      ∃ source, s.stage.source? = some source ∧
        s.fallBack around = { s with error := none }.showStandard around source := by
  cases hsource : s.stage.source? with
  | none => exact .inl ⟨rfl, by simp only [fallBack, hsource]⟩
  | some source => exact .inr ⟨source, rfl, by simp only [fallBack, hsource]⟩

/-- An edit asks for a selection. -/
theorem edit_cases (s : Session) (e : Selection.Edit) :
    (∃ source analysis model selection, s.stage = .organized source analysis model selection ∧
        s.edit e =
          ({ s with stage := .organized source analysis model (selection.apply e) }, .ok ())) ∨
      s.edit e = (s, .error .noSelection) := by
  cases hstage : s.stage with
  | organized source analysis model selection =>
      exact .inl ⟨source, analysis, model, selection, rfl, by rw [edit, hstage]⟩
  | empty | loaded _ | standard _ _ _ => exact .inr (by rw [edit, hstage])

theorem loaded?_fetch_of_not_hasIds {config : ImportConfig} (h : config.hasIds = false)
    (fetched : Except Net.FetchError Json) (analyzer : Option Analyzer) :
    (Operation.fetch fetched analyzer).loaded? config = none := by
  cases fetched with
  | error e => rfl
  | ok document =>
      cases document with
      | str text =>
          rw [Operation.loaded?, h]
          rfl
      | null | bool _ | int _ | float _ | arr _ | obj _ => rfl

/-- A fetch is a load, or loads nothing and leaves the stage as it is, or ends at the
start. -/
theorem fetch_loads (s : Session) (around : Surroundings)
    (fetched : Except Net.FetchError Json) (analyzer : Option Analyzer) :
    (∃ text, s.fetch around fetched analyzer = s.load around text analyzer ∧
        ((source? text).isOk = true →
          (Operation.fetch fetched analyzer).loaded? s.config = some (text, analyzer))) ∨
      ((Operation.fetch fetched analyzer).loaded? s.config = none ∧
        (s.fetch around fetched analyzer).1.stage = s.stage) ∨
      (s.fetch around fetched analyzer).1.stage = .empty := by
  rcases s.fetch_cases around fetched analyzer with ⟨hids, hfetch⟩ |
    ⟨hids, ⟨message, rfl, hfetch⟩ | ⟨fault, rfl, hfetch⟩ | ⟨text, rfl, hfetch⟩ |
      ⟨_, -, -, ⟨-, hfetch⟩ | ⟨-, hfetch⟩⟩⟩
  · rw [hfetch]
    exact .inr (.inl ⟨loaded?_fetch_of_not_hasIds hids fetched analyzer, rfl⟩)
  · rw [hfetch]
    exact .inr (.inl ⟨rfl, rfl⟩)
  · rw [hfetch]
    exact .inr (.inl ⟨rfl, rfl⟩)
  · refine .inl ⟨text, hfetch, fun hok => ?_⟩
    rw [Operation.loaded?, hids, hok]
    rfl
  · rw [hfetch]
    exact .inr (.inr rfl)
  · rw [hfetch]
    exact .inr (.inr rfl)

/-- An operation changes neither the id nor the configuration of a session: started
again, the session is what it would have been. -/
theorem perform_reset (s : Session) (around : Surroundings) (op : Operation) :
    (s.perform around op).1.reset = s.reset := by
  cases op with
  | load text analyzer => exact s.load_reset around text analyzer
  | fetch fetched analyzer =>
      rcases s.fetch_cases around fetched analyzer with ⟨-, hfetch⟩ |
        ⟨-, ⟨message, -, hfetch⟩ | ⟨fault, -, hfetch⟩ | ⟨text, -, hfetch⟩ |
          ⟨_, -, -, ⟨-, hfetch⟩ | ⟨-, hfetch⟩⟩⟩
      · rw [perform, hfetch]
        rfl
      · rw [perform, hfetch]
        rfl
      · rw [perform, hfetch]
      · rw [perform, hfetch]
        exact s.load_reset around text analyzer
      · rw [perform, hfetch]
        rfl
      · rw [perform, hfetch]
        rfl
  | fallBack =>
      rcases s.fallBack_cases around with ⟨-, hfallBack⟩ | ⟨source, -, hfallBack⟩
      · rw [perform, hfallBack]
      · rw [perform, hfallBack]
        exact showStandard_reset _ _ _
  | edit e =>
      rcases s.edit_cases e with ⟨_, _, _, _, -, hedit⟩ | hedit
      · rw [perform, hedit]
        rfl
      · rw [perform, hedit]
  | reset => rfl

theorem perform_config (s : Session) (around : Surroundings) (op : Operation) :
    (s.perform around op).1.config = s.config := by
  have h := congrArg Session.config (s.perform_reset around op)
  exact h

theorem perform_id (s : Session) (around : Surroundings) (op : Operation) :
    (s.perform around op).1.id = s.id := by
  have h := congrArg Session.id (s.perform_reset around op)
  exact h

theorem run_reset (s : Session) (history : History) : (s.run history).reset = s.reset := by
  induction history generalizing s with
  | nil => rfl
  | cons p rest ih => rw [run, ih, perform_reset]

theorem run_config (s : Session) (history : History) : (s.run history).config = s.config := by
  have h := congrArg Session.config (s.run_reset history)
  exact h

/-! ## Loads

A load goes one of three ways: its text cannot be loaded, its schema is put to the
analyzer, or its schema is shown as it stands. -/

section Loads

variable {s : Session} {around : Surroundings} {text : String} {analyzer : Option Analyzer}

/-- A load does not see what the session was before. -/
theorem load_congr {other : Session} (h : s.reset = other.reset) (text : String)
    (analyzer : Option Analyzer) :
    s.load around text analyzer = other.load around text analyzer := by
  simp only [load, h]

theorem load_of_error {f : Failure} (h : source? text = .error f) :
    s.load around text analyzer = s.reset.record f := by
  simp only [load, h]

theorem load_of_analyzed {source : Source} {analyze : Analyzer}
    (hsource : source? text = .ok source) (hai : s.config.aiEnabled.isOn = true) :
    s.load around text (some analyze) =
      { s.reset with stage := .loaded source }.showOrganized source
        (analyze (s.config.analysisRequest text)) := by
  have hreset : s.reset.config.aiEnabled.isOn = true := hai
  simp only [load, hsource, hreset]
  rfl

theorem load_of_loadsStandard {source : Source} (hsource : source? text = .ok source)
    (h : s.loadsStandard text analyzer = true) :
    s.load around text analyzer =
      { s.reset with stage := .loaded source }.showStandard around source := by
  simp only [load, hsource]
  split
  · next hai =>
      have hreset : s.config.aiEnabled.isOn = true := hai
      simp [loadsStandard, hreset] at h
  · rfl

/-- A text that can be loaded and does not show the standard collection is analyzed. -/
theorem analyzed_of_not_loadsStandard {source : Source} (hsource : source? text = .ok source)
    (h : s.loadsStandard text analyzer = false) :
    s.config.aiEnabled.isOn = true ∧ ∃ analyze, analyzer = some analyze := by
  have hok : (source? text).isOk = true := by rw [hsource]; rfl
  rw [loadsStandard, hok, Bool.true_and, Bool.not_eq_false', Bool.and_eq_true] at h
  exact ⟨h.1, Option.isSome_iff_exists.1 h.2⟩

end Loads

/-! ## Edits of a selection -/

/-- An edit selects nothing that is not among the names. -/
theorem apply_selected {sel : Selection} (e : Selection.Edit)
    (h : ∀ name ∈ sel.selected, name ∈ sel.names) :
    ∀ name ∈ (sel.apply e).selected, name ∈ (sel.apply e).names := by
  rw [Selection.names_apply]
  cases e with
  | selectAll => exact fun _ hname => hname
  | deselectAll => intro name hname; cases hname
  | toggle turned =>
      rw [Selection.apply, Selection.toggle]
      split
      · exact fun name hname => (List.mem_filter.1 hname).1
      · exact h
  | setFilter text => exact h

/-! ## The invariant -/

section Invariant

variable {s : Session} {history : History} {around : Surroundings} {op : Operation}

theorem showStandard_follows {source : Source}
    (hlast : source.IsLast s.config (history ++ [(around, op)]))
    (h : s.stage.Follows s.config (history ++ [(around, op)])) :
    (s.showStandard around source).1.stage.Follows s.config (history ++ [(around, op)]) := by
  cases htarget : s.config.target? around with
  | none => rwa [showStandard_of_none htarget]
  | some t =>
      rw [showStandard_of_some htarget]
      exact ⟨hlast, around, by simp, t, htarget, rfl⟩

theorem showOrganized_follows {source : Source} {text : String} {analyze : Analyzer}
    (hai : s.config.aiEnabled.isOn = true) (hsource : source? text = .ok source)
    (hlast : lastLoad? s.config history = some (text, some analyze))
    (h : s.stage.Follows s.config history) :
    (s.showOrganized source (analyze (s.config.analysisRequest text))).1.stage.Follows
      s.config history := by
  cases hanswer : analyze (s.config.analysisRequest text) with
  | error e =>
      cases e with
      | failed message => exact h
      | fault f => exact h
  | ok answer =>
      obtain rfl := source?_text hsource
      refine ⟨hsource, ⟨analyze, hlast, hanswer⟩, hai, rfl, fun name hname => ?_⟩
      exact (List.mem_filter.1 hname).1

/-- A load follows from any history that it is the last load of, whatever the
session was before. -/
theorem load_follows {text : String} {analyzer : Option Analyzer}
    (hop : (source? text).isOk = true → op.loaded? s.config = some (text, analyzer)) :
    (s.load around text analyzer).1.stage.Follows s.config (history ++ [(around, op)]) := by
  cases hsource : source? text with
  | error f => simp [load, hsource, record, reset, new, Stage.Follows]
  | ok source =>
      have hlast : lastLoad? s.config (history ++ [(around, op)]) = some (text, analyzer) :=
        lastLoad?_of_loaded (hop (by rw [hsource]; rfl))
      have hself : source.IsLast s.config (history ++ [(around, op)]) := by
        obtain rfl := source?_text hsource
        exact ⟨hsource, analyzer, hlast⟩
      simp only [load, hsource]
      split
      · next analyze hai =>
          exact showOrganized_follows (s := { s.reset with stage := .loaded source }) hai
            hsource hlast hself
      · exact showStandard_follows (s := { s.reset with stage := .loaded source }) hself hself

/-- An operation leads from a stage that follows from the history to one that
follows from the history with the operation behind it. -/
theorem perform_follows (h : s.stage.Follows s.config history) :
    (s.perform around op).1.stage.Follows s.config (history ++ [(around, op)]) := by
  cases op with
  | load text analyzer => exact load_follows fun hok => if_pos hok
  | fetch fetched analyzer =>
      have hcases := s.fetch_loads around fetched analyzer
      rw [perform]
      -- Whether a stage follows is told by its constructor; no operation is to be evaluated.
      generalize s.fetch around fetched analyzer = out at hcases ⊢
      rcases hcases with ⟨text, rfl, hloaded⟩ | ⟨hnone, hstage⟩ | hstage
      · exact load_follows hloaded
      · rw [hstage]
        exact follows_snoc hnone h
      · rw [hstage]
        trivial
  | fallBack =>
      have hkept : s.stage.Follows s.config (history ++ [(around, .fallBack)]) :=
        follows_snoc rfl h
      have hcases := s.fallBack_cases around
      rw [perform]
      generalize s.fallBack around = out at hcases ⊢
      rcases hcases with ⟨-, rfl⟩ | ⟨source, hsource, rfl⟩
      · exact hkept
      · refine showStandard_follows (s := { s with error := none }) ?_ hkept
        exact isLast_of_follows hkept hsource
  | edit e =>
      have hkept : s.stage.Follows s.config (history ++ [(around, .edit e)]) :=
        follows_snoc rfl h
      have hcases := s.edit_cases e
      rw [perform]
      generalize s.edit e = out at hcases ⊢
      rcases hcases with ⟨source, analysis, model, selection, hstage, rfl⟩ | rfl
      · rw [hstage] at hkept
        obtain ⟨hsource, hanswer, hai, hnames, hselected⟩ := hkept
        exact ⟨hsource, hanswer, hai, by rw [Selection.names_apply, hnames], apply_selected e hselected⟩
      · exact hkept
  | reset => trivial

theorem run_follows {rest : History} (h : s.stage.Follows s.config history) :
    (s.run rest).stage.Follows s.config (history ++ rest) := by
  induction rest generalizing s history with
  | nil => simpa [run] using h
  | cons p rest ih =>
      have hstep : (s.perform p.1 p.2).1.stage.Follows s.config (history ++ [(p.1, p.2)]) :=
        perform_follows h
      rw [← perform_config s p.1 p.2] at hstep ⊢
      have hrest := ih hstep
      rwa [List.append_assoc] at hrest

/-- The stage of an import follows from its history. -/
theorem new_run_follows (id : String) (config : ImportConfig) (history : History) :
    ((new id config).run history).stage.Follows config history := by
  have h : (new id config).stage.Follows config [] := trivial
  exact run_follows (s := new id config) h

end Invariant

/-! ## Output -/

theorem collection_of_standard {s : Session} {source : Source} {model : Option String}
    {collection : Collection} (hstage : s.stage = .standard source model collection)
    (around : Surroundings) : s.collection around = .ok collection := by
  delta Session.collection
  rw [hstage]

theorem collection_of_organized {s : Session} {source : Source} {analysis : Analysis}
    {model : String} {selection : Selection} {around : Surroundings} {t : Target}
    (hstage : s.stage = .organized source analysis model selection)
    (ht : s.config.target? around = some t) :
    s.collection around =
      .ok (t.organized source.schema analysis (some selection.selected)) := by
  delta Session.collection
  rw [hstage]
  dsimp only
  rw [ht]

theorem selectedTables_of_organized {s : Session} {source : Source} {analysis : Analysis}
    {model : String} {selection : Selection}
    (hstage : s.stage = .organized source analysis model selection) :
    s.state.selectedTables = selection.selectedNames := by
  rw [state, hstage]

/-- The selected names of a selection among its names are its members, put into
the order of the schema. -/
theorem mem_selectedNames_iff {sel : Selection}
    (h : ∀ name ∈ sel.selected, name ∈ sel.names) {name : String} :
    name ∈ sel.selectedNames ↔ name ∈ sel.selected := by
  simp only [Selection.selectedNames, List.mem_filter, Selection.isSelected,
    List.contains_iff_mem]
  exact ⟨fun hname => hname.2, fun hname => ⟨h name hname, hname⟩⟩

end Session

end RequestAtlas

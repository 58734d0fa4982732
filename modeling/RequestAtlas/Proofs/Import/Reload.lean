import RequestAtlas.Proofs.Import.Run

/-!
# A load inherits nothing

An import is loaded again and again: a text is corrected and pasted once more, a
failed analysis is tried another time. A load starts over before it looks at its text,
so what it leaves depends on the configuration, the text and the analyzer, and on
nothing that was there before (`load_inherits_nothing`). The preview of an earlier
load is gone whether the new one succeeds or not.

For this a load has to say everything on every way out. `Settles` is what is said: a
preview with no error on it, or no preview and nothing to import. The three moves that a
load ends with settle it one by one, and `load_settles` puts them together.
-/

namespace RequestAtlas.Session

/-- Whether an operation ends in the given preview without an error, or else fails in
front of any preview, with nothing to import. -/
def Settles (preview : String) (p : Session × Except Failure Unit) : Prop :=
  (p.2 = .ok () ∧ p.1.state.step = preview ∧ p.1.error = none) ∨
    ∃ f, p.2 = .error f ∧ p.1.state.step = "config" ∧
      ∀ later, p.1.collection later = .error .nothingToImport

section Ways

variable {s : Session} {around : Surroundings} {source : Source}

theorem collection_of_config (h : s.stage.name = "config") (later : Surroundings) :
    s.collection later = .error .nothingToImport := by
  rcases Stage.name_eq_config_iff.1 h with hstage | ⟨source, hstage⟩
  · delta Session.collection
    rw [hstage]
  · delta Session.collection
    rw [hstage]

/-- What fails without leaving the start settles. -/
theorem settles_of_error {preview : String} {f : Failure} (h : s.stage.name = "config") :
    Settles preview (s, .error f) :=
  .inr ⟨f, rfl, h, collection_of_config h⟩

theorem record_settles (preview : String) (f : Failure) :
    Settles preview (s.reset.record f) := by
  have hstart : (s.reset.record f).1.stage.name = "config" := rfl
  exact settles_of_error hstart

theorem showStandard_settles (hstart : s.stage.name = "config") (hclean : s.error = none) :
    Settles "preview" (s.showStandard around source) := by
  cases htarget : s.config.target? around with
  | none =>
      rw [showStandard_of_none htarget]
      exact settles_of_error hstart
  | some t =>
      rw [showStandard_of_some htarget]
      exact .inl ⟨rfl, rfl, hclean⟩

theorem showOrganized_settles (hstart : s.stage.name = "config") (hclean : s.error = none)
    (answer : Except AnalysisError AnalysisAnswer) :
    Settles "ai-preview" (s.showOrganized source answer) := by
  match answer with
  | .error (.failed message) =>
      have hfailed : (s.showOrganized source (.error (.failed message))).1.stage.name =
          "config" := hstart
      exact settles_of_error hfailed
  | .error (.fault fault) => exact settles_of_error hstart
  | .ok answer => exact .inl ⟨rfl, rfl, hclean⟩

/-- A load settles: in the preview that is called for, or in none. -/
theorem load_settles (s : Session) (around : Surroundings) (text : String)
    (analyzer : Option Analyzer) :
    Settles (if s.loadsStandard text analyzer then "preview" else "ai-preview")
      (s.load around text analyzer) := by
  cases hsource : source? text with
  | error f =>
      rw [load_of_error hsource]
      exact record_settles _ f
  | ok source =>
      cases hstandard : s.loadsStandard text analyzer with
      | true =>
          rw [load_of_loadsStandard hsource hstandard, if_pos rfl]
          exact showStandard_settles rfl rfl
      | false =>
          obtain ⟨hai, analyze, rfl⟩ := analyzed_of_not_loadsStandard hsource hstandard
          rw [load_of_analyzed hsource hai, if_neg Bool.false_ne_true]
          exact showOrganized_settles rfl rfl _

end Ways

/-- Two sessions with one id and one configuration are the same behind a load, in every
field, and the load has the same outcome, whatever they were before. When it succeeds it
shows the preview that is called for, without an error; when it fails there is no preview,
and to ask for the collection is out of turn. -/
theorem load_inherits_nothing (s other : Session) (hid : s.id = other.id)
    (hconfig : s.config = other.config) (around : Surroundings) (text : String)
    (analyzer : Option Analyzer) :
    let behind := (s.load around text analyzer).1
    s.load around text analyzer = other.load around text analyzer ∧
      ((s.load around text analyzer).2 = .ok () →
        behind.state.step =
            (if s.loadsStandard text analyzer then "preview" else "ai-preview") ∧
          behind.state.error = none) ∧
      ∀ f, (s.load around text analyzer).2 = .error f →
        behind.state.step = "config" ∧
          ∀ later, ∃ g, behind.collection later = .error g ∧ g.family = .flow := by
  have hreset : s.reset = other.reset := by
    rw [reset, reset, hid, hconfig]
  have hsettles := load_settles s around text analyzer
  refine ⟨load_congr hreset text analyzer, ?_, ?_⟩
  · intro hok
    rcases hsettles with ⟨-, hstep, hclean⟩ | ⟨f, herror, -⟩
    · exact ⟨hstep, hclean⟩
    · rw [hok] at herror
      cases herror
  · intro f herror
    rcases hsettles with ⟨hok, -⟩ | ⟨-, -, hstep, hnone⟩
    · rw [hok] at herror
      cases herror
    · exact ⟨hstep, fun later => ⟨.nothingToImport, hnone later, rfl⟩⟩

/-- A session that shows an analyzed text, edited and filtered, and a new one: behind a
load whose analysis fails they are the same, and neither has anything to import. -/
theorem load_inherits_nothing_failed :
    let config : ImportConfig := { aiEnabled := { isOn := true } }
    let used := (new "s1" config).run
      [(default, .load "Table users \x7b\n  id UUID\n\x7d" (some fun _ => .ok ⟨{}, "m"⟩)),
        (default, .edit (.toggle "users")), (default, .edit (.setFilter "use"))]
    let text := "Table orders \x7b\n  id UUID\n\x7d"
    let analyzer : Analyzer := fun _ => .error (.failed "down")
    used.state.step = "ai-preview" ∧ used.state.searchFilter = "use" ∧
      used.id = (new "s1" config).id ∧ used.config = (new "s1" config).config ∧
      used.load default text (some analyzer) =
        (new "s1" config).load default text (some analyzer) ∧
      (used.load default text (some analyzer)).2 = .error (.analysisFailed "down") ∧
      ∃ g, (used.load default text (some analyzer)).1.collection default = .error g ∧
        g.family = .flow := by
  intro config used text analyzer
  have hstep : used.state.step = "ai-preview" := by decide +kernel
  have hfilter : used.state.searchFilter = "use" := by decide +kernel
  have hid : used.id = (new "s1" config).id := by decide +kernel
  have hconfig : used.config = (new "s1" config).config := run_config _ _
  have hloads : (source? text).isOk = true := by decide +kernel
  clear_value used
  have hfailed : (used.load default text (some analyzer)).2 =
      .error (.analysisFailed "down") := by
    cases hsource : source? text with
    | error f =>
        rw [hsource] at hloads
        cases hloads
    | ok source =>
        have hai : used.config.aiEnabled.isOn = true := by rw [hconfig]; rfl
        rw [load_of_analyzed hsource hai]
        rfl
  obtain ⟨hsame, -, hnone⟩ :=
    load_inherits_nothing used (new "s1" config) hid hconfig default text (some analyzer)
  exact ⟨hstep, hfilter, hid, hconfig, hsame, hfailed, (hnone _ hfailed).2 default⟩

end RequestAtlas.Session

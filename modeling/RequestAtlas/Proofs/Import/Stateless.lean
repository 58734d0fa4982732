import RequestAtlas.Proofs.Collection.Placement
import RequestAtlas.Proofs.Import.Run
import RequestAtlas.Service.Registry

/-!
# A session gives what a single call would have given

A client can have its collection in two ways: through an import session, which
keeps the text, the schema, the analysis and a selection that is edited step by
step, or by one call that brings everything along and is answered from scratch.

Both ways end at the same collection (`run_collection_eq_answer`). Whatever the
history of a session, the call with the text that was loaded last, and for the
organized collection with the analysis of that load and the selection as it is
shown, is answered with what the session hands out. So nothing of an earlier load
and no order of edits can show in a collection.

The session keeps its selection as a set and shows it as a list in the order of
the schema; that the call may take the list is `organized_congr`.
-/

namespace RequestAtlas

/-- The call for a collection that says what an import's configuration says. -/
def ImportConfig.generation (c : ImportConfig) (text : String) : Service.Generation where
  text := text
  projectId := Text.trimString c.projectId
  environmentId := Text.trimString c.environmentId
  apiKey := Text.trimString c.apiKey
  baseUrl := c.baseUrl

theorem ImportConfig.generation_target? {c : ImportConfig} {around : Surroundings}
    {base : BaseUrl}
    (h : BaseUrl.ofString? (BaseUrl.resolve around.fallbackUrl c.baseUrl) = some base)
    (text : String) :
    (c.generation text).target? around = some (c.targetAt base around.now) := by
  rw [Service.Generation.target?, generation, h]
  rfl

/-- The answer to a call for a collection when there are tables and an address. -/
theorem Service.generate_eq {e : Environment} {g : Service.Generation} {t : Target}
    {schema : Schema} (build : Target → Schema → Collection)
    (hschema : Schema.read g.text = schema) (htables : schema.tables ≠ [])
    (ht : g.target? e.surroundings = some t) :
    Service.generate e g build = .ok (build t schema).toJson := by
  delta Service.generate
  subst hschema
  have hnonempty : (Schema.read g.text).tables.isEmpty = false := by simpa using htables
  dsimp only
  rw [hnonempty, ht]
  rfl

namespace Session

/-- In the step of a preview a session hands out the collection with which the
call for it is answered, when time stands still and the base address is one. The
text of the call is the last one that was loaded; for the organized collection its
analysis is what the analyzer of that load answered, and its selection is the
one that the session shows. -/
theorem run_collection_eq_answer (e : Environment) (service : Service) (w : Net.World)
    (id : String) (config : ImportConfig) (ops : List Operation) (base : BaseUrl)
    (hbase : BaseUrl.ofString? (BaseUrl.resolve e.surroundings.fallbackUrl config.baseUrl) =
      some base) :
    let history : History := ops.map fun op => (e.surroundings, op)
    let s := (new id config).run history
    let t := config.targetAt base e.surroundings.now
    (s.state.step = "preview" →
      ∃ text analyzer, lastLoad? config history = some (text, analyzer) ∧
        s.collection e.surroundings = .ok (t.standard (Schema.read text)) ∧
        Service.answer e service w (.standard (config.generation text)) =
          (.ok (t.standard (Schema.read text)).toJson, service, w)) ∧
    (s.state.step = "ai-preview" →
      ∃ text analyze answer, lastLoad? config history = some (text, some analyze) ∧
        analyze (config.analysisRequest text) = .ok answer ∧
        s.collection e.surroundings =
          .ok (t.organized (Schema.read text) answer.analysis (some s.state.selectedTables)) ∧
        Service.answer e service w
            (.organized (config.generation text)
              ⟨answer.analysis, some s.state.selectedTables⟩) =
          (.ok (t.organized (Schema.read text) answer.analysis
            (some s.state.selectedTables)).toJson, service, w)) := by
  intro history s t
  have hfollows : s.stage.Follows config history := new_run_follows id config history
  have ht : config.target? e.surroundings = some t := ImportConfig.target?_of_base hbase
  have hconfig : s.config = config := run_config _ _
  have hgiven (text : String) : (config.generation text).target? e.surroundings = some t :=
    ImportConfig.generation_target? hbase text
  constructor
  · intro hstep
    obtain ⟨source, model, collection, hstage⟩ := Stage.name_eq_preview_iff.1 hstep
    rw [hstage] at hfollows
    obtain ⟨⟨hsource, analyzer, hlast⟩, around, haround, t', ht', rfl⟩ := hfollows
    obtain ⟨-, hread, htables⟩ := source?_ok hsource
    -- Every operation had the same surroundings, so the collection was made in them.
    obtain rfl : around = e.surroundings := by
      obtain ⟨p, hp, rfl⟩ := List.mem_map.1 haround
      obtain ⟨op, -, rfl⟩ := List.mem_map.1 hp
      rfl
    obtain rfl : t = t' := Option.some.inj (ht.symm.trans ht')
    refine ⟨source.text, analyzer, hlast, ?_, ?_⟩
    · rw [collection_of_standard hstage, hread]
    · rw [hread]
      exact congrArg (·, service, w) (Service.generate_eq _ hread htables (hgiven _))
  · intro hstep
    obtain ⟨source, analysis, model, selection, hstage⟩ := Stage.name_eq_aiPreview_iff.1 hstep
    rw [hstage] at hfollows
    obtain ⟨hsource, ⟨analyze, hlast, hanswer⟩, -, hnames, hselected⟩ := hfollows
    obtain ⟨-, hread, htables⟩ := source?_ok hsource
    have hsame : t.organized source.schema analysis (some selection.selected) =
        t.organized source.schema analysis (some s.state.selectedTables) := by
      rw [selectedTables_of_organized hstage]
      exact t.organized_congr _ _ fun name => (mem_selectedNames_iff hselected).symm
    refine ⟨source.text, analyze, ⟨analysis, model⟩, hlast, hanswer, ?_, ?_⟩
    · rw [collection_of_organized hstage (by rw [hconfig, ht]), hread, hsame]
    · rw [hread]
      exact congrArg (·, service, w) (Service.generate_eq _ hread htables (hgiven _))

/-- An import whose first load has no table, whose second is analyzed, and whose
selection is edited before a fetch fails: the session shows `orders` alone as
selected, and the call with that list is answered with what the session hands
out. -/
theorem run_collection_eq_answer_edited :
    let e : Environment := ⟨{}, default, "s1"⟩
    let config : ImportConfig := { projectId := " p ", aiEnabled := { isOn := true } }
    let text := "Table users \x7b\n  id UUID\n\x7d\nTable orders \x7b\n  id UUID\n\x7d"
    let answer : AnalysisAnswer :=
      ⟨{ authTables := [{ table := "users" }], skipTables := ["orders"] }, "m"⟩
    let ops : List Operation :=
      [.load "Table users" none, .load text (some fun _ => .ok answer), .edit .selectAll,
        .edit (.toggle "users"), .fetch (.error (.failed "down")) none]
    let base : BaseUrl := ⟨"https://api.admin.u-code.io", some "https",
      ["api", "admin", "u-code", "io"], none, []⟩
    let s := (new "s1" config).run (ops.map fun op => (e.surroundings, op))
    let t := config.targetAt base e.surroundings.now
    BaseUrl.ofString? (BaseUrl.resolve e.surroundings.fallbackUrl config.baseUrl) = some base ∧
      s.state.step = "ai-preview" ∧ s.state.selectedTables = ["orders"] ∧
      s.collection e.surroundings =
        .ok (t.organized (Schema.read text) answer.analysis (some ["orders"])) := by
  intro e config text answer ops base s t
  have hbase : BaseUrl.ofString? (BaseUrl.resolve e.surroundings.fallbackUrl config.baseUrl) =
      some base := by decide +kernel
  have hstep : s.state.step = "ai-preview" := by decide +kernel
  have hselected : s.state.selectedTables = ["orders"] := by decide +kernel
  have hload : (source? text).isOk = true := by decide +kernel
  obtain ⟨text', analyze, answer', hlast, hanswer, hcollection, -⟩ :=
    (run_collection_eq_answer e {} default "s1" config ops base hbase).2 hstep
  have hlast' : lastLoad? config (ops.map fun op => (e.surroundings, op)) =
      some (text, some fun _ => .ok answer) := by
    simp [lastLoad?, ops, Operation.loaded?, hload]
  obtain ⟨rfl, rfl⟩ : text = text' ∧ (fun _ => .ok answer) = analyze := by
    simpa using hlast'.symm.trans hlast
  obtain rfl : answer = answer' := Except.ok.inj hanswer
  exact ⟨hbase, hstep, hselected, by rw [hcollection, hselected]⟩

end Session

end RequestAtlas

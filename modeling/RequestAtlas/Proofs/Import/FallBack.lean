import RequestAtlas.Proofs.Import.Run

/-!
# What a fall back leaves of the analysis

Giving up the analysis shows the standard collection of the schema that is loaded. So
does loading the same text once more, without an analyzer, and a client expects the two
to be the same. In the collection they are, wherever the import was before. In the state
they are but for one field: a load starts over, while a fall back takes back what it
knows of, and the model of the analysis is not among it (`fallBack_eq_load`).

Which model that is, the history says: that of the answer to the last load, if there was
one. `perform_keepsModel` is the step and `run_keepsModel` the induction; no operation
but a load, a fetch or a reset takes the model away, and none brings another.
-/

namespace RequestAtlas

namespace Session

/-- What the analyzer of a load answers, if it is asked and does not fail. -/
def answer? (config : ImportConfig) (l : String × Option Analyzer) : Option AnalysisAnswer :=
  if config.aiEnabled.isOn then
    l.2.bind fun analyze => (analyze (config.analysisRequest l.1)).toOption
  else none

/-- The model that answered the last load. -/
def lastModel? (config : ImportConfig) (history : History) : Option String :=
  (lastLoad? config history).bind fun l => (answer? config l).map (·.model)

end Session

/-- Whether a stage keeps the model of the last load, as long as its schema is loaded. -/
def Stage.KeepsModel (config : ImportConfig) (history : Session.History) (stage : Stage) :
    Prop :=
  ∀ source, stage.source? = some source → stage.model? = Session.lastModel? config history

namespace Session

/-! ## The model on a session -/

section Model

variable {config : ImportConfig} {history : History} {around : Surroundings} {op : Operation}
  {s : Session}

theorem lastModel?_of_loaded {l : String × Option Analyzer} (h : op.loaded? config = some l) :
    lastModel? config (history ++ [(around, op)]) = (answer? config l).map (·.model) := by
  rw [lastModel?, lastLoad?_of_loaded h]
  rfl

theorem lastModel?_of_not_loaded (h : op.loaded? config = none) :
    lastModel? config (history ++ [(around, op)]) = lastModel? config history := by
  rw [lastModel?, lastLoad?_of_not_loaded h]
  rfl

theorem keepsModel_snoc {stage : Stage} (hop : op.loaded? config = none)
    (h : stage.KeepsModel config history) :
    stage.KeepsModel config (history ++ [(around, op)]) := by
  intro source hsource
  rw [h source hsource, lastModel?_of_not_loaded hop]

/-- The standard collection is shown with the model that was there before. -/
theorem showStandard_model? (s : Session) (around : Surroundings) (source : Source) :
    (s.showStandard around source).1.stage.model? = s.stage.model? := by
  cases htarget : s.config.target? around with
  | none => rw [showStandard_of_none htarget]
  | some t =>
      rw [showStandard_of_some htarget]
      rfl

theorem answer?_of_loadsStandard {text : String} {analyzer : Option Analyzer}
    (h : s.loadsStandard text analyzer = true) : answer? s.config (text, analyzer) = none := by
  rw [loadsStandard, Bool.and_eq_true, Bool.not_eq_true', Bool.and_eq_false_iff] at h
  rcases h.2 with hoff | hnone
  · rw [answer?, hoff]
    rfl
  · cases analyzer with
    | none => rw [answer?, Option.bind_none, ite_self]
    | some analyze => cases hnone

/-- A text that can be loaded brings the model of its answer along. -/
theorem load_model? {text : String} {source : Source} (hsource : source? text = .ok source)
    (analyzer : Option Analyzer) :
    (s.load around text analyzer).1.stage.model? =
      (answer? s.config (text, analyzer)).map (·.model) := by
  cases hstandard : s.loadsStandard text analyzer with
  | true =>
      rw [load_of_loadsStandard hsource hstandard, showStandard_model?,
        answer?_of_loadsStandard hstandard]
      rfl
  | false =>
      obtain ⟨hai, analyze, rfl⟩ := analyzed_of_not_loadsStandard hsource hstandard
      have hasked : answer? s.config (text, some analyze) =
          (analyze (s.config.analysisRequest text)).toOption := by
        rw [answer?, if_pos hai]
        rfl
      rw [load_of_analyzed hsource hai, hasked]
      match analyze (s.config.analysisRequest text) with
      | .error (.failed _) => rfl
      | .error (.fault _) => rfl
      | .ok _ => rfl

theorem load_keepsModel {text : String} {analyzer : Option Analyzer}
    (hop : (source? text).isOk = true → op.loaded? s.config = some (text, analyzer)) :
    (s.load around text analyzer).1.stage.KeepsModel s.config
      (history ++ [(around, op)]) := by
  cases hsource : source? text with
  | error f =>
      rw [load_of_error hsource]
      intro source hnone
      cases hnone
  | ok source =>
      intro _ _
      rw [load_model? hsource, lastModel?_of_loaded (hop (by rw [hsource]; rfl))]

/-- A step keeps the model of the last load: a load has its own, and what is no load
leaves the one that is there. -/
theorem perform_keepsModel (h : s.stage.KeepsModel s.config history) :
    (s.perform around op).1.stage.KeepsModel s.config (history ++ [(around, op)]) := by
  cases op with
  | load text analyzer => exact load_keepsModel fun hok => if_pos hok
  | fetch fetched analyzer =>
      rcases s.fetch_loads around fetched analyzer with ⟨text, hfetch, hloaded⟩ |
        ⟨hnone, hstage⟩ | hstage
      · rw [perform, hfetch]
        exact load_keepsModel hloaded
      · rw [perform, hstage]
        exact keepsModel_snoc hnone h
      · rw [perform, hstage]
        intro source hnone
        cases hnone
  | fallBack =>
      have hkept : s.stage.KeepsModel s.config (history ++ [(around, .fallBack)]) :=
        keepsModel_snoc rfl h
      rcases s.fallBack_cases around with ⟨-, hfallBack⟩ | ⟨source, hsource, hfallBack⟩
      · rw [perform, hfallBack]
        exact hkept
      · rw [perform, hfallBack]
        intro _ _
        rw [showStandard_model?]
        exact hkept source hsource
  | edit e =>
      have hkept : s.stage.KeepsModel s.config (history ++ [(around, .edit e)]) :=
        keepsModel_snoc rfl h
      rcases s.edit_cases e with ⟨_, _, _, _, hstage, hedit⟩ | hedit
      · rw [perform, hedit]
        rw [hstage] at hkept
        exact hkept
      · rw [perform, hedit]
        exact hkept
  | reset =>
      intro source hnone
      cases hnone

theorem run_keepsModel {rest : History} (h : s.stage.KeepsModel s.config history) :
    (s.run rest).stage.KeepsModel s.config (history ++ rest) := by
  induction rest generalizing s history with
  | nil => simpa [run] using h
  | cons p rest ih =>
      have hstep : (s.perform p.1 p.2).1.stage.KeepsModel s.config
          (history ++ [(p.1, p.2)]) := perform_keepsModel h
      rw [← perform_config s p.1 p.2] at hstep ⊢
      have hrest := ih hstep
      rwa [List.append_assoc] at hrest

theorem new_run_keepsModel (id : String) (config : ImportConfig) (history : History) :
    ((new id config).run history).stage.KeepsModel config history := by
  have h : (new id config).stage.KeepsModel config [] := nofun
  exact run_keepsModel (s := new id config) h

end Model

/-! ## Falling back -/

section Standard

variable {s : Session} {around : Surroundings} {source : Source} {t : Target}

theorem fallBack_of_some (hsource : s.stage.source? = some source)
    (ht : s.config.target? around = some t) :
    s.fallBack around =
      ({ s.reset with
          stage := .standard source s.stage.model? (t.standard source.schema) }, .ok ()) := by
  simp only [fallBack, hsource]
  rw [showStandard_of_some (s := { s with error := none }) ht]
  rfl

theorem load_of_some {text : String} (hsource : source? text = .ok source)
    (ht : s.config.target? around = some t) :
    s.load around text none =
      ({ s.reset with stage := .standard source none (t.standard source.schema) },
        .ok ()) := by
  have hstandard : s.loadsStandard text none = true := by
    rw [loadsStandard, hsource, Option.isSome_none, Bool.and_false]
    rfl
  rw [load_of_loadsStandard hsource hstandard,
    showStandard_of_some (s := { s.reset with stage := .loaded source }) ht]
  rfl

/-- A fall back shows what a load of the same text shows, and the model that was
there. -/
theorem fallBack_state (hsource : s.stage.source? = some source)
    (hread : source? source.text = .ok source) (ht : s.config.target? around = some t) :
    (s.fallBack around).1.state =
      { (s.load around source.text none).1.state with model := s.stage.model? } := by
  rw [fallBack_of_some hsource ht, load_of_some hread ht]
  rfl

theorem fallBack_collection (hsource : s.stage.source? = some source)
    (hread : source? source.text = .ok source) (ht : s.config.target? around = some t)
    (later : Surroundings) :
    (s.fallBack around).1.collection later =
      (s.load around source.text none).1.collection later := by
  rw [fallBack_of_some hsource ht, load_of_some hread ht]
  exact (collection_of_standard rfl later).trans (collection_of_standard rfl later).symm

end Standard

/-- When there is a base address, a session that falls back gets where a fresh one gets by
loading the same text without an analyzer: to the same collection and to the same state,
but for the model, which is that of the last load's analysis. So the states are the same
just if that load was not answered by an analysis. -/
theorem fallBack_eq_load (id : String) (config : ImportConfig) (history : History)
    (around : Surroundings) (source : Source) (base : BaseUrl)
    (hsource : ((new id config).run history).stage.source? = some source)
    (hbase : BaseUrl.ofString? (BaseUrl.resolve around.fallbackUrl config.baseUrl) =
      some base) :
    let behind := ((new id config).run history).fallBack around
    let fresh := (new id config).load around source.text none
    behind.2 = .ok () ∧ fresh.2 = .ok () ∧
      (∀ later, behind.1.collection later = fresh.1.collection later) ∧
      behind.1.state = { fresh.1.state with model := lastModel? config history } ∧
      (behind.1.state = fresh.1.state ↔ lastModel? config history = none) := by
  have hfollows := new_run_follows id config history
  have hmodel := new_run_keepsModel id config history source hsource
  have hconfig : ((new id config).run history).config = config := run_config _ _
  have hreset : (new id config).reset = ((new id config).run history).reset :=
    (run_reset _ _).symm
  have hread : source? source.text = .ok source := (isLast_of_follows hfollows hsource).1
  generalize (new id config).run history = s at *
  intro behind fresh
  have ht : s.config.target? around = some (config.targetAt base around.now) := by
    rw [hconfig, ImportConfig.target?_of_base hbase]
  have hfresh : fresh = s.load around source.text none := load_congr hreset _ _
  have hstate : behind.1.state = { fresh.1.state with model := lastModel? config history } := by
    rw [hfresh, ← hmodel]
    exact fallBack_state hsource hread ht
  have hnone : fresh.1.state.model = none := by
    rw [hfresh, load_of_some hread ht]
    rfl
  refine ⟨congrArg Prod.snd (fallBack_of_some hsource ht), ?_, ?_, hstate, ?_, ?_⟩
  · rw [hfresh, load_of_some hread ht]
  · rw [hfresh]
    exact fallBack_collection hsource hread ht
  · intro hsame
    have hown := congrArg State.model (hstate.symm.trans hsame)
    exact hown.trans hnone
  · intro hlast
    rw [hstate, hlast, ← hnone]

/-- After a failed analysis a fall back is a standard load in every field. -/
theorem fallBack_eq_load_failed :
    let around : Surroundings := ⟨"https://api.admin.u-code.io", default⟩
    let config : ImportConfig := { aiEnabled := { isOn := true } }
    let text := "Table users \x7b\n  id UUID\n\x7d"
    let history : History :=
      [(around, .load text (some fun _ => .error (.failed "down")))]
    let behind := ((new "s1" config).run history).fallBack around
    let fresh := (new "s1" config).load around text none
    ((new "s1" config).run history).stage.source? = some ⟨text, Schema.read text⟩ ∧
      behind.2 = .ok () ∧ behind.1.state = fresh.1.state ∧
      behind.1.collection around = fresh.1.collection around := by
  intro around config text history behind fresh
  let base : BaseUrl := ⟨"https://api.admin.u-code.io", some "https",
    ["api", "admin", "u-code", "io"], none, []⟩
  have hbase : BaseUrl.ofString? (BaseUrl.resolve around.fallbackUrl config.baseUrl) =
      some base := by decide +kernel
  have hsource : ((new "s1" config).run history).stage.source? =
      some ⟨text, Schema.read text⟩ := by decide +kernel
  have hsilent : lastModel? config history = none := by decide +kernel
  obtain ⟨hok, -, hcollection, -, hstate⟩ :=
    fallBack_eq_load "s1" config history around _ base hsource hbase
  exact ⟨hsource, hok, hstate.2 hsilent, hcollection _⟩

/-- After an analysis the state behind a fall back names its model, and that of a
standard load names none. -/
theorem fallBack_keeps_model :
    let around : Surroundings := ⟨"https://api.admin.u-code.io", default⟩
    let config : ImportConfig := { aiEnabled := { isOn := true } }
    let text := "Table users \x7b\n  id UUID\n\x7d"
    let s := (new "s1" config).run [(around, .load text (some fun _ => .ok ⟨{}, "m"⟩))]
    let fresh := (new "s1" config).load around text none
    s.stage.source? = some ⟨text, Schema.read text⟩ ∧
      (BaseUrl.ofString? (BaseUrl.resolve around.fallbackUrl config.baseUrl)).isSome ∧
      (s.fallBack around).1.state.model = some "m" ∧
      fresh.1.state.model = none ∧
      (s.fallBack around).1.state ≠ fresh.1.state := by
  intro around config text s fresh
  have hsource : s.stage.source? = some ⟨text, Schema.read text⟩ := by decide +kernel
  have hbase : (BaseUrl.ofString?
      (BaseUrl.resolve around.fallbackUrl config.baseUrl)).isSome := by
    decide +kernel
  have hbehind : (s.fallBack around).1.state.model = some "m" := by decide +kernel
  have hfresh : fresh.1.state.model = none := by decide +kernel
  refine ⟨hsource, hbase, hbehind, hfresh, fun hsame => ?_⟩
  have hmodel := congrArg State.model hsame
  rw [hbehind, hfresh] at hmodel
  cases hmodel

end Session

end RequestAtlas

import RequestAtlas.Proofs.Import.Run

/-!
# How the use of a session fails

A client uses a session by its operations and by looking at its rows and at its
collection. Each of these can fail, and there are four ways to (`Fails`): a load or a
fetch fails and leaves its message on the session; anything else is out of turn, and the
session is as it was; a collection should be built, and the base address is refused;
or what came from outside was itself a fault. `attempt_fails` goes through the uses once
and says that there is no fifth.

What a failure leaves is read off it: its message is on the session behind a load and a
fetch, and behind nothing else (`attempt_failed`). A use out of turn shows nothing, and
an older message stays. The other way round, a use that builds a collection without an
address for it does fail (`attempt_of_refused`).
-/

namespace RequestAtlas.Session

/-- A use of a session: an operation, or a look at the rows of its preview or at its
collection. -/
inductive Use where
  | operation (op : Operation)
  | rows
  | collection

/-- The session behind a use, with the outcome. A look leaves the session as it is. -/
def attempt (s : Session) (around : Surroundings) : Use → Session × Except Failure Unit
  | .operation op => s.perform around op
  | .rows => (s, s.rows.map fun _ => ())
  | .collection => (s, (s.collection around).map fun _ => ())

/-- Whether a session shows a message: as its error, with a hint behind it perhaps. -/
def Shows (s : Session) (message : String) : Prop :=
  ∃ hint, s.state.error = some (message ++ hint)

/-- Whether an analyzer answers, or fails with a message, whatever it is asked. -/
def Answers (analyzer : Option Analyzer) : Prop :=
  ∀ analyze ∈ analyzer, ∀ request fault, analyze request ≠ .error (.fault fault)

namespace Use

/-- Whether a use loads a text. -/
def loads : Use → Bool
  | .operation (.load _ _) | .operation (.fetch _ _) => true
  | _ => false

/-- Whether a use of a session builds a collection, if nothing else fails. -/
def builds (s : Session) : Use → Bool
  | .operation (.load text analyzer) => s.loadsStandard text analyzer
  | .operation (.fetch (.ok (.str text)) analyzer) =>
    s.config.hasIds && s.loadsStandard text analyzer
  | .operation .fallBack => s.stage.source?.isSome
  | .collection => s.stage.name == "ai-preview"
  | _ => false

/-- Whether the outside answers a use as it should: what is fetched is a text or a
message, and the analyzer answers or fails with a message. -/
def Answered : Use → Prop
  | .operation (.load _ analyzer) => Answers analyzer
  | .operation (.fetch fetched analyzer) =>
    ((∃ text, fetched = .ok (.str text)) ∨ ∃ message, fetched = .error (.failed message)) ∧
      Answers analyzer
  | _ => True

end Use

/-- How a use of a session fails: by which failure, and with what session left. -/
inductive Fails (s : Session) (around : Surroundings) : Use → Failure → Session → Prop
  /-- A load that fails leaves its message on the session. -/
  | recorded {use f behind message} (loads : use.loads = true)
      (message_eq : f.message? = some message) (shows : behind.Shows message) :
      Fails s around use f behind
  /-- A use out of turn leaves the session as it was. -/
  | outOfTurn {use f message} (loads : use.loads = false)
      (message_eq : f.message? = some message) : Fails s around use f s
  /-- There is no collection without a base address. -/
  | refused {use behind} (address : s.config.target? around = none)
      (builds : use.builds s = true) : Fails s around use (.fault .refusedAddress) behind
  /-- A fault from outside. -/
  | outside {use behind} (fault : Fault) (answered : ¬ use.Answered) :
      Fails s around use (.fault fault) behind

/-! ## The ways to fail -/

section Ways

attribute [local irreducible] ImportConfig.target?

variable {s : Session} {around : Surroundings} {f : Failure}

theorem showStandard_error {source : Source} (h : (s.showStandard around source).2 = .error f) :
    f = .fault .refusedAddress ∧ s.config.target? around = none := by
  cases htarget : s.config.target? around with
  | none =>
      rw [showStandard_of_none htarget] at h
      exact ⟨(Except.error.inj h).symm, rfl⟩
  | some t =>
      rw [showStandard_of_some htarget] at h
      cases h

theorem source?_error {text : String} (h : source? text = .error f) :
    f = .noContent ∨ f = .noTables := by
  simp only [source?] at h
  split at h
  · exact .inl (Except.error.inj h).symm
  · split at h
    · exact .inr (Except.error.inj h).symm
    · cases h

theorem record_shows {message : String} (h : f.message? = some message) :
    (s.record f).1.Shows message :=
  ⟨"", by rw [String.append_empty]; exact h⟩

theorem showOrganized_error {source : Source} {answer : Except AnalysisError AnalysisAnswer}
    (h : (s.showOrganized source answer).2 = .error f) :
    (∃ message, f = .analysisFailed message ∧
      (s.showOrganized source answer).1.Shows message) ∨
      ∃ fault, f = .fault fault ∧ answer = .error (.fault fault) := by
  match answer with
  | .error (.failed message) => exact .inl ⟨message, (Except.error.inj h).symm, _, rfl⟩
  | .error (.fault fault) => exact .inr ⟨fault, (Except.error.inj h).symm, rfl⟩
  | .ok _ => cases h

/-- A load fails by its text or its analysis, and then its message is on the session; by
the base address; or by a fault of its analyzer. -/
theorem load_error {text : String} {analyzer : Option Analyzer}
    (h : (s.load around text analyzer).2 = .error f) :
    (∃ message, f.message? = some message ∧
      (f.family = .emptySchema ∨ f.family = .analysis) ∧
      (s.load around text analyzer).1.Shows message) ∨
      (f = .fault .refusedAddress ∧ s.config.target? around = none ∧
        s.loadsStandard text analyzer = true) ∨
      ∃ fault, f = .fault fault ∧ ¬ Answers analyzer := by
  cases hsource : source? text with
  | error g =>
      rw [load_of_error hsource] at h ⊢
      obtain rfl : g = f := Except.error.inj h
      rcases source?_error hsource with rfl | rfl
      · exact .inl ⟨_, rfl, .inl rfl, record_shows rfl⟩
      · exact .inl ⟨_, rfl, .inl rfl, record_shows rfl⟩
  | ok source =>
      cases hstandard : s.loadsStandard text analyzer with
      | true =>
          rw [load_of_loadsStandard hsource hstandard] at h
          obtain ⟨rfl, htarget⟩ := showStandard_error h
          exact .inr (.inl ⟨rfl, htarget, rfl⟩)
      | false =>
          obtain ⟨hai, analyze, rfl⟩ := analyzed_of_not_loadsStandard hsource hstandard
          rw [load_of_analyzed hsource hai] at h ⊢
          rcases showOrganized_error h with ⟨message, rfl, hshown⟩ | ⟨fault, rfl, hfault⟩
          · exact .inl ⟨message, rfl, .inr rfl, hshown⟩
          · exact .inr (.inr ⟨fault, rfl, fun hanswers => hanswers analyze rfl _ _ hfault⟩)

theorem fetch_fails {fetched : Except Net.FetchError Json} {analyzer : Option Analyzer}
    (h : (s.fetch around fetched analyzer).2 = .error f) :
    Fails s around (.operation (.fetch fetched analyzer)) f
      (s.fetch around fetched analyzer).1 := by
  rcases fetch_cases s around fetched analyzer with ⟨-, hfetch⟩ |
    ⟨hids, ⟨message, rfl, hfetch⟩ | ⟨fault, rfl, hfetch⟩ | ⟨text, rfl, hfetch⟩ |
      ⟨document, rfl, hdocument, ⟨-, hfetch⟩ | ⟨-, hfetch⟩⟩⟩
  · rw [hfetch] at h ⊢
    obtain rfl : Failure.missingIds = f := Except.error.inj h
    exact .recorded rfl rfl (record_shows rfl)
  · rw [hfetch] at h ⊢
    obtain rfl : Failure.fetchFailed message = f := Except.error.inj h
    exact .recorded rfl rfl (record_shows rfl)
  · rw [hfetch] at h ⊢
    obtain rfl : Failure.fault fault = f := Except.error.inj h
    exact .outside fault fun hanswered =>
      hanswered.1.elim (fun ⟨_, h⟩ => nomatch h) fun ⟨_, h⟩ => nomatch h
  · rw [hfetch] at h ⊢
    rcases load_error h with ⟨message, hmessage, -, hshows⟩ | ⟨rfl, htarget, hbuilds⟩ |
      ⟨fault, rfl, hfault⟩
    · exact .recorded rfl hmessage hshows
    · exact .refused htarget (by simp [Use.builds, hids, hbuilds])
    · exact .outside fault fun hanswered => hfault hanswered.2
  · rw [hfetch] at h ⊢
    obtain rfl : Failure.noContent = f := Except.error.inj h
    exact .recorded rfl rfl (record_shows rfl)
  · rw [hfetch] at h ⊢
    obtain rfl : Failure.fault .notText = f := Except.error.inj h
    refine .outside _ fun hanswered => ?_
    rcases hanswered.1 with ⟨text, htext⟩ | ⟨_, hmessage⟩
    · exact hdocument text (Except.ok.inj htext)
    · cases hmessage

theorem rows_error (h : s.rows = .error f) : f = .noSelection := by
  unfold rows at h
  split at h
  · cases h
  · cases h
  · exact (Except.error.inj h).symm

theorem collection_error (h : s.collection around = .error f) :
    f = .nothingToImport ∨
      (f = .fault .refusedAddress ∧ s.config.target? around = none ∧
        s.stage.name = "ai-preview") := by
  delta Session.collection at h
  split at h
  · cases h
  · next hstage =>
      split at h
      · next htarget =>
          exact .inr ⟨(Except.error.inj h).symm, htarget, by rw [hstage]; rfl⟩
      · cases h
  · exact .inl (Except.error.inj h).symm

theorem fallBack_error (h : (s.fallBack around).2 = .error f) :
    (f = .noSchema ∧ (s.fallBack around).1 = s) ∨
      (f = .fault .refusedAddress ∧ s.config.target? around = none ∧
        s.stage.source?.isSome = true) := by
  rcases s.fallBack_cases around with ⟨-, hfallBack⟩ | ⟨source, hsource, hfallBack⟩
  · rw [hfallBack] at h ⊢
    exact .inl ⟨(Except.error.inj h).symm, rfl⟩
  · rw [hfallBack] at h
    obtain ⟨rfl, htarget⟩ := showStandard_error h
    exact .inr ⟨rfl, htarget, by rw [hsource]; rfl⟩

theorem edit_error {e : Selection.Edit} (h : (s.edit e).2 = .error f) :
    f = .noSelection ∧ (s.edit e).1 = s := by
  rcases s.edit_cases e with ⟨_, _, _, _, -, hedit⟩ | hedit
  · rw [hedit] at h
    cases h
  · rw [hedit] at h ⊢
    exact ⟨(Except.error.inj h).symm, rfl⟩

theorem map_eq_error_iff {α β : Type} {x : Except Failure α} {g : α → β} :
    x.map g = .error f ↔ x = .error f := by
  cases x with
  | error e => exact ⟨fun h => congrArg _ (Except.error.inj h), fun h => by cases h; rfl⟩
  | ok a => exact ⟨fun h => (nomatch h), fun h => nomatch h⟩

/-- What a use does when it fails. -/
theorem attempt_fails {use : Use} (h : (s.attempt around use).2 = .error f) :
    Fails s around use f (s.attempt around use).1 := by
  cases use with
  | operation op =>
      cases op with
      | load text analyzer =>
          rcases load_error h with ⟨message, hmessage, -, hshows⟩ | ⟨rfl, htarget, hbuilds⟩ |
            ⟨fault, rfl, hfault⟩
          · exact .recorded rfl hmessage hshows
          · exact .refused htarget hbuilds
          · exact .outside fault hfault
      | fetch fetched analyzer => exact fetch_fails h
      | fallBack =>
          rcases fallBack_error h with ⟨rfl, hsame⟩ | ⟨rfl, htarget, hsource⟩
          · rw [attempt, perform, hsame]
            exact .outOfTurn rfl rfl
          · exact .refused htarget hsource
      | edit e =>
          obtain ⟨rfl, hsame⟩ := edit_error h
          rw [attempt, perform, hsame]
          exact .outOfTurn rfl rfl
      | reset => cases h
  | rows =>
      obtain rfl := rows_error (map_eq_error_iff.1 h)
      exact .outOfTurn rfl rfl
  | collection =>
      rcases collection_error (map_eq_error_iff.1 h) with rfl | ⟨rfl, htarget, hname⟩
      · exact .outOfTurn rfl rfl
      · exact .refused htarget (by simp [Use.builds, hname])

end Ways

/-! ## What a failure leaves -/

/-- A use that fails with a message leaves it on the session if it loads a text, and
leaves everything as it was if it does not. -/
theorem attempt_failed (s : Session) (around : Surroundings) (use : Use) {f : Failure}
    {message : String} (h : (s.attempt around use).2 = .error f)
    (hmessage : f.message? = some message) :
    (use.loads = true → (s.attempt around use).1.Shows message) ∧
      (use.loads = false → (s.attempt around use).1 = s) := by
  have hfails := attempt_fails h
  generalize (s.attempt around use).1 = behind at hfails ⊢
  cases hfails with
  | recorded hloads hown hshows =>
      obtain rfl := Option.some.inj (hown.symm.trans hmessage)
      exact ⟨fun _ => hshows, fun hnot => absurd (hloads.symm.trans hnot) nofun⟩
  | outOfTurn hloads _ =>
      exact ⟨fun hnot => absurd (hloads.symm.trans hnot) nofun, fun _ => rfl⟩
  | refused => cases hmessage
  | outside => cases hmessage

/-- A load whose analysis fails shows the failure's message with a hint behind it. -/
theorem attempt_failed_analysis :
    let s := new "s1" { aiEnabled := { isOn := true } }
    let analyzer : Analyzer := fun _ => .error (.failed "down")
    let use : Use := .operation (.load "Table users \x7b\n  id UUID\n\x7d" (some analyzer))
    (s.attempt default use).2 = .error (.analysisFailed "down") ∧
      (s.attempt default use).1.Shows "down" := by
  intro s analyzer use
  have hloaded : (source? "Table users \x7b\n  id UUID\n\x7d").isOk = true := by
    decide +kernel
  have hfailed : (s.attempt default use).2 = .error (.analysisFailed "down") := by
    cases hsource : source? "Table users \x7b\n  id UUID\n\x7d" with
    | error f =>
        rw [hsource] at hloaded
        cases hloaded
    | ok source => exact congrArg Prod.snd (load_of_analyzed hsource rfl)
  exact ⟨hfailed, (attempt_failed s default use hfailed rfl).1 rfl⟩

/-- A session without a schema does not show why it could not fall back. -/
theorem fallBack_not_shown :
    let s := new "s1" {}
    let use : Use := .operation .fallBack
    (s.attempt default use).2 = .error .noSchema ∧
      Failure.noSchema.message? = some "No schema loaded; fetch or paste DBML first" ∧
      ¬ (s.attempt default use).1.Shows "No schema loaded; fetch or paste DBML first" := by
  intro s use
  exact ⟨rfl, rfl, fun ⟨_, hshown⟩ => nomatch hshown⟩

end RequestAtlas.Session

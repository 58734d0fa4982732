import RequestAtlas.Proofs.Import.Failures

/-!
# A failure in front of a load leaves the import as it is

Two kinds of failure have to be told apart. A load that fails has cleared the session
first, so the import is gone. What fails before it gets to a load, an operation out of
turn or a fetch that brings no text, must not cost the client a preview, or the selection
and the search text in it.

The family of a failure tells the two apart. A load that fails has found no table, has no
analysis or ran into a fault, so it is never out of turn or short of a schema
(`not_precedesLoad_of_load`). A failure of the latter families changes the error of the
session and nothing else, and that only if it was a fetch (`attempt_intact`). What one
such failure leaves, any number of them leave: `run_intact` is the induction.
-/

namespace RequestAtlas

/-- Whether a failure comes in front of a load: an operation was out of turn, or no schema
could be fetched. -/
def Failure.PrecedesLoad (f : Failure) : Prop :=
  f.family = .flow ∨ f.family = .schemaFetch

theorem Failure.precedesLoad_iff {f : Failure} : f.PrecedesLoad ↔
    f.family ≠ .emptySchema ∧ f.family ≠ .analysis ∧ ∀ fault, f ≠ .fault fault := by
  cases f <;> simp [PrecedesLoad, family]

namespace Session

section Ways

attribute [local irreducible] ImportConfig.target?

variable {s : Session} {around : Surroundings} {f : Failure}

theorem not_precedesLoad_of_load {text : String} {analyzer : Option Analyzer}
    (h : (s.load around text analyzer).2 = .error f) : ¬ f.PrecedesLoad := by
  rw [Failure.precedesLoad_iff]
  rintro ⟨hempty, hanalysis, hfault⟩
  rcases load_error h with ⟨-, -, hfamily | hfamily, -⟩ | ⟨rfl, -⟩ | ⟨fault, rfl, -⟩
  · exact hempty hfamily
  · exact hanalysis hfamily
  · exact hfault _ rfl
  · exact hfault _ rfl

/-- A fetch that fails in front of its load lacks an id or a text, and leaves its
message. -/
theorem attempt_fetch_precedesLoad {fetched : Except Net.FetchError Json}
    {analyzer : Option Analyzer}
    (h : (s.attempt around (.operation (.fetch fetched analyzer))).2 = .error f)
    (hf : f.PrecedesLoad) :
    (s.config.hasIds = false ∨ ∃ message, fetched = .error (.failed message)) ∧
      (s.attempt around (.operation (.fetch fetched analyzer))).1 =
        { s with error := f.message? } := by
  rw [attempt, perform] at h ⊢
  rcases fetch_cases s around fetched analyzer with ⟨hids, hfetch⟩ |
    ⟨-, ⟨message, hmessage, hfetch⟩ | ⟨fault, -, hfetch⟩ | ⟨text, -, hfetch⟩ |
      ⟨_, -, -, ⟨-, hfetch⟩ | ⟨-, hfetch⟩⟩⟩
  · rw [hfetch] at h ⊢
    obtain rfl : Failure.missingIds = f := Except.error.inj h
    exact ⟨.inl hids, rfl⟩
  · rw [hfetch] at h ⊢
    obtain rfl : Failure.fetchFailed message = f := Except.error.inj h
    exact ⟨.inr ⟨message, hmessage⟩, rfl⟩
  · rw [hfetch] at h
    obtain rfl : Failure.fault fault = f := Except.error.inj h
    exact absurd rfl ((Failure.precedesLoad_iff.1 hf).2.2 fault)
  · rw [hfetch] at h
    exact absurd hf (not_precedesLoad_of_load h)
  · rw [hfetch] at h
    obtain rfl : Failure.noContent = f := Except.error.inj h
    exact absurd rfl (Failure.precedesLoad_iff.1 hf).1
  · rw [hfetch] at h
    obtain rfl : Failure.fault .notText = f := Except.error.inj h
    exact absurd rfl ((Failure.precedesLoad_iff.1 hf).2.2 .notText)

/-- What loads nothing and is out of turn changes nothing. -/
theorem attempt_outOfTurn {use : Use} (hloads : use.loads = false)
    (h : (s.attempt around use).2 = .error f) (hf : f.PrecedesLoad) :
    (s.attempt around use).1 = s := by
  have hfails := attempt_fails h
  generalize (s.attempt around use).1 = behind at hfails ⊢
  cases hfails with
  | recorded hown _ _ => exact absurd (hown.symm.trans hloads) nofun
  | outOfTurn _ _ => rfl
  | refused _ _ => exact absurd rfl ((Failure.precedesLoad_iff.1 hf).2.2 _)
  | outside fault _ => exact absurd rfl ((Failure.precedesLoad_iff.1 hf).2.2 fault)

/-- Only the error of a session can change. -/
theorem attempt_precedesLoad {use : Use} (h : (s.attempt around use).2 = .error f)
    (hf : f.PrecedesLoad) : ∃ error, (s.attempt around use).1 = { s with error } := by
  cases use with
  | operation op =>
      cases op with
      | load text analyzer => exact absurd hf (not_precedesLoad_of_load h)
      | fetch fetched analyzer => exact ⟨_, (attempt_fetch_precedesLoad h hf).2⟩
      | fallBack | edit _ | reset => exact ⟨s.error, attempt_outOfTurn rfl h hf⟩
  | rows | collection => exact ⟨s.error, attempt_outOfTurn rfl h hf⟩

end Ways

/-! ## What does not depend on the error -/

theorem rows_withError (s : Session) (error : Option String) :
    { s with error }.rows = s.rows := rfl

theorem state_withError (s : Session) (error : Option String) :
    { s with error }.state = { s.state with error } := rfl

theorem collection_withError (s : Session) (error : Option String) (later : Surroundings) :
    { s with error }.collection later = s.collection later := by
  delta Session.collection
  dsimp only

/-- Whether each operation of a history fails when its turn comes, in front of any
load. -/
def Idles (s : Session) : History → Prop
  | [] => True
  | (around, op) :: rest =>
    (∃ f, (s.perform around op).2 = .error f ∧ f.PrecedesLoad) ∧
      (s.perform around op).1.Idles rest

/-- No number of failures in front of a load takes an import away. -/
theorem run_intact {s : Session} {history : History} (h : s.Idles history) :
    ∃ error, s.run history = { s with error } := by
  induction history generalizing s with
  | nil => exact ⟨s.error, rfl⟩
  | cons p rest ih =>
      obtain ⟨⟨f, herror, hf⟩, hrest⟩ := h
      have hfailed : (s.attempt p.1 (.operation p.2)).2 = .error f := herror
      obtain ⟨error, hstep⟩ := attempt_precedesLoad hfailed hf
      obtain ⟨last, hrun⟩ := ih hrest
      refine ⟨last, ?_⟩
      rw [run, hrun]
      exact congrArg (fun behind : Session => { behind with error := last }) hstep

/-- A use that fails out of turn, or because nothing could be fetched, leaves the import.
An operation that is no load, and a look at the rows or at the collection, leave the
session exactly as it was. A fetch fails in this way when it lacks an id or a text, and
then leaves its message as the error of the session. In either case the session has the
same rows, hands out the same collection, and shows the same state but for the error. -/
theorem attempt_intact (s : Session) (around : Surroundings) (use : Use) {f : Failure}
    (h : (s.attempt around use).2 = .error f)
    (hf : f.family = .flow ∨ f.family = .schemaFetch) :
    let behind := (s.attempt around use).1
    (use.loads = false → behind = s) ∧
      (∀ fetched analyzer, use = .operation (.fetch fetched analyzer) →
        (s.config.hasIds = false ∨ ∃ message, fetched = .error (.failed message)) ∧
          behind = { s with error := f.message? }) ∧
      behind.rows = s.rows ∧ (∀ later, behind.collection later = s.collection later) ∧
      behind.state = { s.state with error := behind.error } := by
  intro behind
  obtain ⟨error, hbehind⟩ : ∃ error, behind = { s with error } := attempt_precedesLoad h hf
  refine ⟨fun hloads => attempt_outOfTurn hloads h hf, ?_, ?_, ?_, ?_⟩
  · rintro fetched analyzer rfl
    exact attempt_fetch_precedesLoad h hf
  · rw [hbehind, rows_withError]
  · intro later
    rw [hbehind, collection_withError]
  · rw [hbehind, state_withError]

/-- In the preview of an analyzed text with an edited selection, a fetch that fails leaves
its message; the preview and its search text are still there. -/
theorem attempt_intact_fetch :
    let around : Surroundings := ⟨"https://api.admin.u-code.io", default⟩
    let config : ImportConfig :=
      { projectId := "p", environmentId := "e", aiEnabled := { isOn := true } }
    let s := (new "s1" config).run
      [(around, .load "Table users \x7b\n  id UUID\n\x7d" (some fun _ => .ok ⟨{}, "m"⟩)),
        (around, .edit (.toggle "users")), (around, .edit (.setFilter "use"))]
    let use : Use := .operation (.fetch (.error (.failed "HTTP 500: ")) none)
    let behind := (s.attempt around use).1
    s.state.step = "ai-preview" ∧ (s.attempt around use).2 = .error (.fetchFailed "HTTP 500: ") ∧
      behind.state = { s.state with error := some "HTTP 500: " } ∧
      behind.state.searchFilter = "use" ∧
      behind.collection around = s.collection around := by
  intro around config s use behind
  have hstep : s.state.step = "ai-preview" := by decide +kernel
  have hfilter : s.state.searchFilter = "use" := by decide +kernel
  have hids : s.config.hasIds = true := by decide +kernel
  clear_value s
  have hfailed : (s.attempt around use).2 = .error (.fetchFailed "HTTP 500: ") := by
    rw [attempt, perform, fetch, if_pos hids]
    rfl
  obtain ⟨-, hfetch, -, hcollection, hstate⟩ :=
    attempt_intact s around use hfailed (.inr rfl)
  have hbehind : behind = { s with error := some "HTTP 500: " } := (hfetch _ _ rfl).2
  have herror : behind.error = some "HTTP 500: " := by rw [hbehind]
  rw [herror] at hstate
  exact ⟨hstep, hfailed, hstate, by rw [hstate]; exact hfilter, hcollection around⟩

end Session

end RequestAtlas

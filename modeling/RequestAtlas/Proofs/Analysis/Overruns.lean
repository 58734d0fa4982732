import RequestAtlas.Proofs.Analysis.Fences
import RequestAtlas.Proofs.Import.Run
import RequestAtlas.Proofs.Json.Digits
import RequestAtlas.Proofs.Json.RoundTrip

/-!
# Replies that overrun a limit

Whatever a model replies, an analysis is an answer or fails with a message, but for two things
that no one looks for: an integer with more digits than the reader takes, and a document that is
nested deeper than it goes (`Reply.Overruns`). Both stop the reader, of the reply itself or, when
that is malformed, of the content of its block. Nothing that comes later is a fault, be it that
the document is no object or that it has the wrong shape.

An integer that is too long can be seen in the reply: it is a run of digits in it, since the
content of a block is a part of the reply (`HasDigits.of_content`).
-/

namespace RequestAtlas

open Text

/-! ## Replies -/

namespace Reply

/-! ### The content of a block -/

theorem beforeFence_isInfix (s : List Char) : beforeFence s <:+: s := by
  unfold beforeFence
  split
  next before rest h =>
      rw [eq_append_of_cut? h]
      exact (List.prefix_append _ _).isInfix
  next => exact List.infix_refl s

theorem isInfix_of_cut? {pat s before rest : List Char} (h : cut? pat s = some (before, rest)) :
    rest <:+: s := by
  rw [eq_append_of_cut? h, ← List.append_assoc]
  exact (List.suffix_append _ _).isInfix

theorem unfenced_isInfix (s : List Char) : unfenced s <:+: s := by
  unfold unfenced
  refine (trim_isInfix _).trans ?_
  split
  next before rest h => exact (beforeFence_isInfix rest).trans (isInfix_of_cut? h)
  next =>
      split
      next before rest h => exact (beforeFence_isInfix rest).trans (isInfix_of_cut? h)
      next => exact List.infix_refl s

/-! ### What is read -/

variable [Json.OuterDepth] {reply text : String} {f : Fault}

/-- The text that is read for a reply: the reply itself or, when that is malformed, the content of
its block. -/
inductive IsRead (reply : String) : String → Prop
  | whole (h : ¬ Json.IsMalformed (Json.read reply)) : IsRead reply reply
  | block (h : Json.IsMalformed (Json.read reply)) : IsRead reply (content reply)

/-- Whether a reply overruns a limit of the reader, by the fault that this is. -/
inductive Overruns (reply : String) : Fault → Prop
  | digits {text : String} {n : Nat} (read : IsRead reply text)
      (stops : Json.read text = .error (.longInteger n)) : Overruns reply .longInteger
  | depth {text : String} {container : Json.Container} (read : IsRead reply text)
      (stops : Json.read text = .error (.tooDeep container)) :
      Overruns reply (.tooDeep (Json.ReadError.tooDeep container).message)

theorem exists_isRead (reply : String) : ∃ text, IsRead reply text := by
  by_cases h : Json.IsMalformed (Json.read reply)
  · exact ⟨_, .block h⟩
  · exact ⟨_, .whole h⟩

theorem IsRead.unique {text' : String} (h : IsRead reply text) (h' : IsRead reply text') :
    text = text' := by
  cases h with
  | whole hread =>
      cases h' with
      | whole => rfl
      | block hmalformed => exact absurd hmalformed hread
  | block hmalformed =>
      cases h' with
      | whole hread => exact absurd hmalformed hread
      | block => rfl

theorem IsRead.document (h : IsRead reply text) :
    document reply = (Json.read text).mapError .ofRead := by
  cases h with
  | whole h =>
      rw [Reply.document]
      split
      next flaw place hmalformed => exact absurd ⟨flaw, place, hmalformed⟩ h
      next => rfl
  | block h => exact document_of_isMalformed h

theorem IsRead.isInfix (h : IsRead reply text) : text.toList <:+: reply.toList := by
  cases h with
  | whole => exact List.infix_refl _
  | block =>
      rw [content, String.toList_ofList]
      exact unfenced_isInfix _

/-- The digits of an integer that is too long stand in the reply. -/
theorem Overruns.exists_hasDigits (h : Overruns reply .longInteger) :
    ∃ n, maxDigits < n ∧ Json.HasDigits reply.toList n := by
  cases h with
  | @digits text n read stops =>
      obtain ⟨hlong, hdigits⟩ := Json.read_longInteger stops
      exact ⟨n, hlong, hdigits.mono read.isInfix⟩

/-! ### Faults -/

theorem read_ne_noText (text : String) (flaw : EncodingFlaw) :
    Json.read text ≠ .error (.noText flaw) := by
  intro h
  unfold Json.read at h
  split at h
  · cases h
  · unfold Json.readWhole at h
    dsimp only at h
    split at h
    · cases h
    · cases h
    · cases h
    · split at h <;> cases h

theorem document_eq_fault_iff : document reply = .error (.fault f) ↔ Overruns reply f := by
  obtain ⟨text, hread⟩ := exists_isRead reply
  rw [hread.document]
  constructor
  · intro h
    cases hstops : Json.read text with
    | ok v => rw [hstops] at h; cases h
    | error e =>
        rw [hstops] at h
        cases e with
        | malformed flaw place => cases h
        | longInteger n => cases h; exact .digits hread hstops
        | tooDeep container => cases h; exact .depth hread hstops
        | noText flaw => exact absurd hstops (read_ne_noText text flaw)
  · rintro (⟨hread', hstops⟩ | ⟨hread', hstops⟩)
    · rw [hread.unique hread', hstops]
      rfl
    · rw [hread.unique hread', hstops]
      rfl

end Reply

/-! ## Analyses -/

theorem Analysis.ofReply_eq_fault_iff [Json.OuterDepth] {reply : String} {f : Fault} :
    ofReply reply = .error (.fault f) ↔ Reply.Overruns reply f := by
  rw [← Reply.document_eq_fault_iff, ofReply]
  cases Reply.document reply with
  | error e =>
      refine ⟨fun h => ?_, fun h => ?_⟩
      · cases h; rfl
      · cases h; rfl
  | ok v =>
      refine ⟨fun h => ?_, fun h => ?_⟩
      · cases v with
        | obj fields =>
            dsimp only at h
            split at h <;> cases h
        | _ => cases h
      · cases h

/-- The message of a failed chat, when an error counts as one. -/
def AnalysisError.chatMessage? : AnalysisError → Option String
  | .failed message | .fault (.tooDeep message) => some message
  | .fault _ => none

namespace AnalysisAnswer

section

variable [Json.OuterDepth]

theorem ofChat_error (model : String) (e : AnalysisError) :
    ofChat model (.error e) =
      .error (match e.chatMessage? with
        | some message => .failed ("AI analysis failed: " ++ message)
        | none => e) := by
  cases e with
  | failed message => rfl
  | fault f => cases f <;> rfl

theorem ofChat_reply_eq_fault_iff {model reply : String} {f : Fault} :
    ofChat model (.ok reply) = .error (.fault f) ↔ Reply.Overruns reply f := by
  rw [← Analysis.ofReply_eq_fault_iff, ofChat]
  cases Analysis.ofReply reply with
  | error e =>
      refine ⟨fun h => ?_, fun h => ?_⟩
      · cases h; rfl
      · cases h; rfl
  | ok a => exact ⟨fun h => (nomatch h), fun h => nomatch h⟩

theorem ofChat_error_eq_fault_iff {model : String} {e : AnalysisError} {f : Fault} :
    ofChat model (.error e) = .error (.fault f) ↔ e = .fault f ∧ e.chatMessage? = none := by
  rw [ofChat_error]
  cases h : e.chatMessage? with
  | some message => exact ⟨fun h => (nomatch h), fun h => nomatch h.2⟩
  | none => exact ⟨fun h => ⟨Except.error.inj h, rfl⟩, fun h => congrArg _ h.1⟩

/-- An analysis is a fault just if its chat was one that does not count as failed, or its reply
overruns a limit, and for a long integer that takes more digits in a row than the limit. If it is
none, it is an answer or has a message, and a chat that failed is told by its own. A session that
asks for it then has its preview, or the message and its schema still. -/
theorem ofChat_eq_fault_iff (model : String) (chat : Except AnalysisError String) :
    let done := ofChat model chat
    (∀ f, done = .error (.fault f) ↔
      (∃ reply, chat = .ok reply ∧ Reply.Overruns reply f) ∨
        chat = .error (.fault f) ∧ (AnalysisError.fault f).chatMessage? = none) ∧
    (∀ reply, chat = .ok reply → Reply.Overruns reply .longInteger →
      ∃ n, maxDigits < n ∧ Json.HasDigits reply.toList n) ∧
    (∀ e message, chat = .error e → e.chatMessage? = some message →
      done = .error (.failed ("AI analysis failed: " ++ message))) ∧
    ((∀ f, done ≠ .error (.fault f)) →
      ∀ (s : Session) (around : Surroundings) (text : String) (source : Source),
        Session.source? text = .ok source → s.config.aiEnabled.isOn = true →
        let loaded := s.load around text (some fun _ => done)
        (loaded.2 = .ok () ∧ loaded.1.stage.name = "ai-preview") ∨
          ∃ message, loaded.2 = .error (.analysisFailed message) ∧
            loaded.1.stage = .loaded source ∧
            loaded.1.error =
              some (message ++ ". You can try again or use the standard collection.")) := by
  intro done
  refine ⟨fun f => ?_, fun reply _ hover => hover.exists_hasDigits, fun e message he hmessage => ?_,
    fun hfault s around text source hsource hai => ?_⟩
  · cases chat with
    | ok reply =>
        exact ofChat_reply_eq_fault_iff.trans
          ⟨fun h => .inl ⟨reply, rfl, h⟩, by rintro (⟨_, ⟨⟩, h⟩ | ⟨⟨⟩, -⟩); exact h⟩
    | error e =>
        refine ofChat_error_eq_fault_iff.trans ⟨?_, ?_⟩
        · rintro ⟨rfl, h⟩
          exact .inr ⟨rfl, h⟩
        · rintro (⟨_, ⟨⟩, _⟩ | ⟨⟨⟩, h⟩)
          exact ⟨rfl, h⟩
  · subst he
    change ofChat model (.error e) = _
    rw [ofChat_error, hmessage]
  · intro loaded
    have hloaded : loaded = _ := Session.load_of_analyzed hsource hai
    rw [hloaded]
    match done with
    | .ok answer => exact .inl ⟨rfl, rfl⟩
    | .error (.failed message) => exact .inr ⟨message, rfl, rfl, rfl⟩
    | .error (.fault f) => exact absurd rfl (hfault f)

end

/-- The chat failed, and the session says so. -/
theorem ofChat_eq_fault_iff_failed :
    let s := Session.new "s1" { aiEnabled := { isOn := true } }
    let text := "Table users \x7b\n  id UUID\n\x7d"
    let done := ofChat "m" (.error (.failed "down"))
    (∀ f, done ≠ .error (.fault f)) ∧ done = .error (.failed "AI analysis failed: down") ∧
      (s.load default text (some fun _ => done)).1.error =
        some "AI analysis failed: down. You can try again or use the standard collection." := by
  intro s text done
  obtain ⟨hfault, -, hfailed, hsession⟩ := ofChat_eq_fault_iff "m" (.error (.failed "down"))
  have hdone : done = .error (.failed "AI analysis failed: down") := hfailed _ "down" rfl rfl
  have hnone : ∀ f, done ≠ .error (.fault f) := by
    intro f h
    rcases (hfault f).1 h with ⟨reply, ⟨⟩, -⟩ | ⟨⟨⟩, -⟩
  have hloaded : (Session.source? text).isOk = true := by decide +kernel
  refine ⟨hnone, hdone, ?_⟩
  cases hsource : Session.source? text with
  | error f => rw [hsource] at hloaded; cases hloaded
  | ok source =>
      have hload : (s.load default text (some fun _ => done)).2 =
          .error (.analysisFailed "AI analysis failed: down") := by
        rw [Session.load_of_analyzed hsource rfl, hdone]
        rfl
      rcases hsession hnone s default text source hsource rfl with
        ⟨hok, -⟩ | ⟨message, h, -, herror⟩
      · cases hload.symm.trans hok
      · cases hload.symm.trans h
        exact herror

/-- A count of more digits than are taken is a fault. -/
theorem ofChat_long_count :
    let run := '1' :: List.replicate 4300 '0'
    let reply := String.ofList ('\x7b' :: ("\"table_count_total\": ".toList ++ (run ++ ['\x7d'])))
    ofChat "m" (.ok reply) = .error (.fault .longInteger) := by
  intro run reply
  have hname : Json.SpellsKey "table_count_total" "\"table_count_total\": ".toList :=
    ⟨"table_count_total".toList.flatMap Json.escape, [], [' '], Json.spellsText_flatMap _,
      Json.isGap_nil, by simp [Json.IsGap, Json.isSpace], by decide⟩
  have hdigits : ∀ c ∈ run, c.isDigit = true := by
    refine List.forall_mem_cons.2 ⟨rfl, fun c hc => ?_⟩
    rw [List.eq_of_mem_replicate hc]
    rfl
  have hlong : maxDigits < run.length := by
    rw [List.length_cons, List.length_replicate]
    decide
  have hread : Json.read reply = .error (.longInteger run.length) :=
    Json.read_field_longInteger (Json.allows_outerLimits_iff.2 (by decide)) hname hdigits
      (by rintro ⟨⟩) hlong
  refine ofChat_reply_eq_fault_iff.2 (.digits (.whole ?_) hread)
  rintro ⟨flaw, place, hmalformed⟩
  cases hread.symm.trans hmalformed

end AnalysisAnswer

end RequestAtlas

import RequestAtlas.Net.Chat
import RequestAtlas.Proofs.Net.Exchange

/-!
# What an attempt comes to

An attempt at a chat ends in one of three ways, and which it is can be told from what its
request got: the response says a text (`Response.Says`), there is a reason to try again
(`Retries`), or something has happened that nobody provided for (`Derails`). The three cover
everything that a request can get (`ofOutcome_cases`), so each is an exact description of one
kind of attempt (`ofOutcome_eq_answered_iff`, `ofOutcome_eq_retry_iff`,
`ofOutcome_eq_fault_iff`).

What is provided for is narrow: a key may be missing, but what stands in the place of an object
must be one, and the content must be a text.
-/

namespace RequestAtlas.Net

theorem Response.failure?_eq_none_iff {r : Response} :
    r.failure? = none ↔ isSuccess r.status = true := by
  unfold failure?
  split
  next h => exact iff_of_true rfl h
  next h => exact iff_of_false (fun h => nomatch h) h

/-! ## A field of a document -/

namespace ChatService

theorem exists_of_get? {key : String} {v x : Json} (h : v.get? key = some x) :
    ∃ fields, v = .obj fields ∧ fields.lookup key = some x := by
  cases v with
  | obj fields => exact ⟨fields, rfl, h⟩
  | null | bool _ | int _ | float _ | str _ | arr _ => cases h

theorem field_of_get? {key : String} {v x : Json} (h : v.get? key = some x) :
    field key v = .ok x := by
  obtain ⟨fields, rfl, hx⟩ := exists_of_get? h
  rw [field, hx]

theorem field_of_not_obj {key : String} {v : Json} (h : ∀ fields, v ≠ .obj fields) :
    field key v = .error (.fault .noFields) := by
  unfold field
  split
  next fields => exact absurd rfl (h fields)
  next => rfl

end ChatService

/-! ## What an attempt gets -/

variable [Json.OuterDepth]

/-- Whether a response says a text: it is a success, and the content of the message in its
document is the text, perhaps with blanks around it. -/
def Response.Says (r : Response) (text : String) : Prop :=
  isSuccess r.status = true ∧ ∃ v content, r.document = .ok v ∧
    (v.get? "message").bind (Json.get? "content") = some (.str content) ∧
    text = Text.trimString content

/-- Which faults a response to a chat is. -/
inductive Response.Derails (r : Response) : Fault → Prop
  /-- The document is no object. -/
  | document {v : Json} (read : r.document = .ok v) (shape : ∀ fields, v ≠ .obj fields) :
      Derails r .noFields
  /-- The message is no object. -/
  | message {v m : Json} (read : r.document = .ok v) (found : v.get? "message" = some m)
      (shape : ∀ fields, m ≠ .obj fields) : Derails r .noFields
  /-- The content is no text. -/
  | content {v m x : Json} (read : r.document = .ok v) (found : v.get? "message" = some m)
      (inner : m.get? "content" = some x) (shape : ∀ s, x ≠ .str s) : Derails r .notText
  /-- The document is nested deeper than it is read. -/
  | depth {container : Json.Container} (read : r.document = .error (.tooDeep container)) :
      Derails r (.tooDeep (Json.ReadError.tooDeep container).message)

/-- Why a request is made again, from what it got. -/
inductive Retries : Except SendError Response → String → Prop
  /-- The connection failed. -/
  | failed (reason : String) : Retries (.error (.failed reason)) reason
  /-- A value in the request or in the response was refused. -/
  | refused (f : Fault) (reason : String) : Retries (.error (.refused f reason)) reason
  /-- The response is no success. -/
  | status {r : Response} {reason : String} (failure : r.failure? = some reason) :
      Retries (.ok r) reason
  /-- The body holds no document, or one with an integer of too many digits. -/
  | unread {r : Response} {e : Json.ReadError} (success : isSuccess r.status = true)
      (read : r.document = .error e) (shallow : ∀ container, e ≠ .tooDeep container) :
      Retries (.ok r) e.message
  /-- The document has no message. -/
  | message {r : Response} {fields : Json.Fields} (success : isSuccess r.status = true)
      (read : r.document = .ok (.obj fields)) (missing : fields.lookup "message" = none) :
      Retries (.ok r) "'message'"
  /-- The message has no content. -/
  | content {r : Response} {v : Json} {fields : Json.Fields}
      (success : isSuccess r.status = true) (read : r.document = .ok v)
      (found : v.get? "message" = some (.obj fields))
      (missing : fields.lookup "content" = none) : Retries (.ok r) "'content'"

/-- A request is made again whenever its response is no success. -/
theorem exists_retries_of_status {r : Response} (h : isSuccess r.status = false) :
    ∃ reason, Retries (.ok r) reason := by
  have hfailure : r.failure? ≠ none := fun hnone => by
    rw [Response.failure?_eq_none_iff.1 hnone] at h
    cases h
  obtain ⟨reason, hreason⟩ := Option.ne_none_iff_exists'.1 hfailure
  exact ⟨reason, .status hreason⟩

namespace ChatService

open Response

namespace Attempt

/-- What an attempt gives, from what its request got. -/
def ofOutcome : Except SendError Response → Attempt
  | .error (.failed message) | .error (.refused _ message) => .retry message
  | .error (.fault f) => .fault f
  | .ok r => ofResponse r

variable {x : Except SendError Response} {r : Response} {v : Json}

theorem ofResponse_of_document (hstatus : isSuccess r.status = true) (hread : r.document = .ok v) :
    ofResponse r = ofDocument v := by
  rw [ofResponse, failure?_eq_none_iff.2 hstatus, hread]

/-- What the content of a message gives, or why there is none. -/
def ofContent : Except Attempt Json → Attempt
  | .error a => a
  | .ok (.str s) => .answered (Text.trimString s)
  | .ok _ => .fault .notText

theorem ofResponse_of_message {m : Json} (hstatus : isSuccess r.status = true)
    (hread : r.document = .ok v) (hfound : v.get? "message" = some m) :
    ofResponse r = ofContent (field "content" m) := by
  rw [ofResponse_of_document hstatus hread, ofDocument, field_of_get? hfound]
  rfl

theorem ofOutcome_of_says {text : String} (h : r.Says text) :
    ofOutcome (.ok r) = .answered text := by
  obtain ⟨hstatus, v, content, hread, hcontent, rfl⟩ := h
  obtain ⟨m, hfound, hinner⟩ := Option.bind_eq_some_iff.1 hcontent
  rw [ofOutcome, ofResponse_of_message hstatus hread hfound, field_of_get? hinner, ofContent]

theorem ofOutcome_of_retries {reason : String} (h : Retries x reason) :
    ofOutcome x = .retry reason := by
  cases h with
  | failed | refused => rfl
  | status failure => rw [ofOutcome, ofResponse, failure]
  | unread success read shallow =>
      rw [ofOutcome, ofResponse, failure?_eq_none_iff.2 success, read]
      dsimp only
      split
      next heq => cases heq
      next heq => exact absurd (Except.error.inj heq) (shallow _)
      next heq => rw [Except.error.inj heq]
  | message success read missing =>
      rw [ofOutcome, ofResponse_of_document success read, ofDocument, field, missing]
      rfl
  | content success read found missing =>
      rw [ofOutcome, ofResponse_of_message success read found, field, missing]
      rfl

theorem ofOutcome_of_derails {f : Fault} (hstatus : isSuccess r.status = true)
    (h : r.Derails f) : ofOutcome (.ok r) = .fault f := by
  cases h with
  | document read shape =>
      rw [ofOutcome, ofResponse_of_document hstatus read, ofDocument, field_of_not_obj shape]
      rfl
  | message read found shape =>
      rw [ofOutcome, ofResponse_of_message hstatus read found, field_of_not_obj shape, ofContent]
  | content read found inner shape =>
      rw [ofOutcome, ofResponse_of_message hstatus read found, field_of_get? inner, ofContent]
      exact shape
  | depth read => rw [ofOutcome, ofResponse, failure?_eq_none_iff.2 hstatus, read]

/-! ## Every outcome is one of the three -/

/-- A successful response says a text, derails the chat, or is a reason to try again. -/
theorem says_or_derails_or_retries (hstatus : isSuccess r.status = true) :
    (∃ text, r.Says text) ∨ (∃ f, r.Derails f) ∨ ∃ reason, Retries (.ok r) reason := by
  cases hread : r.document with
  | error e =>
      by_cases hdeep : ∃ container, e = .tooDeep container
      · obtain ⟨container, rfl⟩ := hdeep
        exact .inr (.inl ⟨_, .depth hread⟩)
      · exact .inr (.inr ⟨_, .unread hstatus hread fun container h => hdeep ⟨container, h⟩⟩)
  | ok v =>
      by_cases hobj : ∃ fields, v = .obj fields
      case neg => exact .inr (.inl ⟨_, .document hread fun fields h => hobj ⟨fields, h⟩⟩)
      obtain ⟨fields, rfl⟩ := hobj
      cases hfound : fields.lookup "message" with
      | none => exact .inr (.inr ⟨_, .message hstatus hread hfound⟩)
      | some m =>
          by_cases hobj : ∃ inner, m = .obj inner
          case neg => exact .inr (.inl ⟨_, .message hread hfound fun inner h => hobj ⟨inner, h⟩⟩)
          obtain ⟨inner, rfl⟩ := hobj
          cases hcontent : inner.lookup "content" with
          | none => exact .inr (.inr ⟨_, .content hstatus hread hfound hcontent⟩)
          | some x =>
              by_cases htext : ∃ s, x = .str s
              · obtain ⟨s, rfl⟩ := htext
                have hsaid : (fields.lookup "message").bind (Json.get? "content") = some (.str s) :=
                  Option.bind_eq_some_iff.2 ⟨_, hfound, hcontent⟩
                exact .inl ⟨_, hstatus, _, s, hread, hsaid, rfl⟩
              · exact .inr (.inl ⟨_, .content hread hfound hcontent fun s h => htext ⟨s, h⟩⟩)

theorem ofOutcome_cases (x : Except SendError Response) :
    (∃ text, (∃ r, x = .ok r ∧ r.Says text) ∧ ofOutcome x = .answered text) ∨
      (∃ reason, Retries x reason ∧ ofOutcome x = .retry reason) ∨
      ∃ f, (x = .error (.fault f) ∨
          ∃ r, x = .ok r ∧ isSuccess r.status = true ∧ r.Derails f) ∧ ofOutcome x = .fault f := by
  have hretry {reason : String} (h : Retries x reason) :
      ∃ reason, Retries x reason ∧ ofOutcome x = .retry reason :=
    ⟨reason, h, ofOutcome_of_retries h⟩
  rcases x with (reason | ⟨f, reason⟩ | f) | r
  · exact .inr (.inl (hretry (.failed reason)))
  · exact .inr (.inl (hretry (.refused f reason)))
  · exact .inr (.inr ⟨f, .inl rfl, rfl⟩)
  · cases hstatus : isSuccess r.status with
    | false =>
        obtain ⟨reason, h⟩ := exists_retries_of_status hstatus
        exact .inr (.inl (hretry h))
    | true =>
        rcases says_or_derails_or_retries hstatus with ⟨text, h⟩ | ⟨f, h⟩ | ⟨reason, h⟩
        · exact .inl ⟨text, ⟨r, rfl, h⟩, ofOutcome_of_says h⟩
        · exact .inr (.inr ⟨f, .inr ⟨r, rfl, hstatus, h⟩, ofOutcome_of_derails hstatus h⟩)
        · exact .inr (.inl (hretry h))

theorem ofOutcome_eq_retry_iff {reason : String} :
    ofOutcome x = .retry reason ↔ Retries x reason := by
  constructor
  · intro h
    rcases ofOutcome_cases x with ⟨said, -, hvalue⟩ | ⟨found, hretries, hvalue⟩ | ⟨f, -, hvalue⟩
    · cases h.symm.trans hvalue
    · cases h.symm.trans hvalue
      exact hretries
    · cases h.symm.trans hvalue
  · exact ofOutcome_of_retries

theorem ofOutcome_eq_fault_iff {f : Fault} :
    ofOutcome x = .fault f ↔
      x = .error (.fault f) ∨ ∃ r, x = .ok r ∧ isSuccess r.status = true ∧ r.Derails f := by
  constructor
  · intro h
    rcases ofOutcome_cases x with ⟨said, -, hvalue⟩ | ⟨reason, -, hvalue⟩ | ⟨g, hfault, hvalue⟩
    · cases h.symm.trans hvalue
    · cases h.symm.trans hvalue
    · cases h.symm.trans hvalue
      exact hfault
  · rintro (rfl | ⟨r, rfl, hstatus, hderails⟩)
    · rfl
    · exact ofOutcome_of_derails hstatus hderails

end Attempt

end ChatService

end RequestAtlas.Net

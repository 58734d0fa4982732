import RequestAtlas.Net.Exchange

/-!
# What a request leaves behind

The outside world is a list of replies, taken one by one, and two logs. Sending the same
request several times therefore comes to two things that can be said apart: what the request
gets from the replies in front of the list (`Outgoing.outcome`), and the world behind it, where
those replies are gone and the log has as many entries more (`World.behind`). A request that
cannot be written gets the same for every reply and takes none of them, so both may be told
without asking whether it can be (`send_eq`, `outcome_behind`).

Where a request is written, its body and its address are checked one after the other
(`address_eq_ok_iff`), so that requests which differ in the body or in the form can be compared.
The last part says which faults a request can be: that there is no address, and only this.
-/

namespace RequestAtlas.Net

theorem eq_ok_of_toOption {ε α : Type} {x : Except ε α} {a : α} (h : x.toOption = some a) :
    x = .ok a := by
  cases x with
  | error e => cases h
  | ok b => exact congrArg Except.ok (Option.some.inj h)

theorem exists_of_bind_eq_ok {ε α β : Type} {x : Except ε α} {f : α → Except ε β} {b : β}
    (h : x >>= f = .ok b) : ∃ a, x = .ok a ∧ f a = .ok b := by
  cases x with
  | error e => cases h
  | ok a => exact ⟨a, rfl, h⟩

/-- The reply to the request that has `i` others in front of it. Behind the last reply every
connection fails. -/
def World.reply (w : World) (i : Nat) : Reply :=
  w.replies[i]?.getD (.failure noReply)

namespace Outgoing

/-- A request as it is sent to an address. -/
def sentTo (r : Outgoing) (a : Address) : Sent where
  method := r.method
  url := a.text
  contentType := r.contentType
  authorization := a.credentials?.or r.authorization
  apiKey := r.apiKey
  body := r.body

/-- What a request gets when a reply is ready for it. -/
def outcome (r : Outgoing) (reply : Reply) : Except SendError Response :=
  r.address >>= fun a => reply.outcome a

/-- What a request leaves in the log when it is sent so many times: an entry each time, or
nothing when it cannot be written. -/
def entries (r : Outgoing) (count : Nat) : List Sent :=
  match r.address with
  | .error _ => []
  | .ok a => List.replicate count (r.sentTo a)

variable {r : Outgoing} {a : Address}

theorem outcome_of_address (h : r.address = .ok a) (reply : Reply) :
    r.outcome reply = reply.outcome a := by
  rw [outcome, h]
  rfl

theorem outcome_of_error {e : SendError} (h : r.address = .error e) (reply : Reply) :
    r.outcome reply = .error e := by
  rw [outcome, h]
  rfl

theorem entries_of_address (h : r.address = .ok a) (count : Nat) :
    r.entries count = List.replicate count (r.sentTo a) := by
  rw [entries, h]

theorem entries_zero (r : Outgoing) : r.entries 0 = [] := by
  unfold entries
  split <;> rfl

theorem entries_add (r : Outgoing) (m n : Nat) :
    r.entries (m + n) = r.entries m ++ r.entries n := by
  unfold entries
  split
  · rfl
  · exact List.replicate_append_replicate.symm

end Outgoing

/-! ## Whether a request can be written -/

/-- Checks that requests can be sent to an address. -/
def Address.checkSendable (a : Address) : Except SendError Unit := do
  checkHeader a.authority.hostText
  unless a.isSendable do
    throw (.failed noScheme)
  a.checkHost

namespace Outgoing

/-- The address that a request names, whether or not requests can be sent there. -/
def destination (r : Outgoing) : Except SendError Address := do
  let a ← addressOrFault (Address.read r.url)
  let a ← addressOrFault (a.below [] [])
  r.apiKey.forM fun key => checkHeader key.toList
  if r.form.isEmpty then .ok a else addressOrFault (a.withForm r.form)

theorem address_eq (r : Outgoing) :
    r.address = r.destination >>= fun a =>
      if r.body.all Json.isStandard then a.checkSendable >>= fun _ => .ok a
      else .error (.refused .notFinite notStandard) := by
  have hsendable (a : Address) : (do
      checkHeader a.authority.hostText
      unless a.isSendable do
        throw (.failed noScheme)
      a.checkHost
      return a) = a.checkSendable >>= fun _ => .ok a := by
    rw [Address.checkSendable, bind_assoc]
    refine bind_congr fun _ => ?_
    cases a.isSendable with
    | true => rfl
    | false => rfl
  unfold address destination
  simp only [bind_assoc, ← hsendable]
  refine bind_congr fun _ => bind_congr fun a => bind_congr fun _ => ?_
  cases r.form.isEmpty with
  | true =>
      cases r.body.all Json.isStandard with
      | true => rfl
      | false => rfl
  | false =>
      refine bind_congr fun a => ?_
      cases r.body.all Json.isStandard with
      | true => rfl
      | false => rfl

theorem address_eq_ok_iff {r : Outgoing} {a : Address} :
    r.address = .ok a ↔
      r.destination = .ok a ∧ r.body.all Json.isStandard = true ∧ a.checkSendable = .ok () := by
  rw [address_eq]
  constructor
  · intro h
    obtain ⟨b, hdest, h⟩ := exists_of_bind_eq_ok h
    split at h
    next hbody =>
        obtain ⟨⟨⟩, hcheck, h⟩ := exists_of_bind_eq_ok h
        cases h
        exact ⟨hdest, hbody, hcheck⟩
    next => cases h
  · rintro ⟨hdest, hbody, hcheck⟩
    rw [hdest]
    change (if r.body.all Json.isStandard then a.checkSendable >>= fun _ => .ok a
      else .error (.refused .notFinite notStandard)) = Except.ok a
    rw [if_pos hbody, hcheck]
    rfl

end Outgoing

/-! ## The world behind some requests -/

namespace World

/-- The world behind a request that has been sent so many times. -/
def behind (w : World) (r : Outgoing) (count : Nat) : World :=
  match r.address with
  | .error _ => w
  | .ok _ => { w with replies := w.replies.drop count, sent := w.sent ++ r.entries count }

/-- The world behind some waits. -/
def pause (w : World) (seconds : List Nat) : World :=
  { w with waits := w.waits ++ seconds }

variable (w : World) (r : Outgoing)

@[simp]
theorem behind_zero : w.behind r 0 = w := by
  unfold behind
  split
  · rfl
  · rw [Outgoing.entries_zero, List.append_nil, List.drop_zero]

theorem behind_behind (m n : Nat) : (w.behind r m).behind r n = w.behind r (m + n) := by
  unfold behind
  split
  · rfl
  · dsimp only
    rw [Outgoing.entries_add, List.append_assoc, List.drop_drop]

@[simp]
theorem sent_behind (count : Nat) : (w.behind r count).sent = w.sent ++ r.entries count := by
  unfold behind
  split
  next h => rw [Outgoing.entries, h, List.append_nil]
  next => rfl

@[simp]
theorem waits_behind (count : Nat) : (w.behind r count).waits = w.waits := by
  unfold behind
  split <;> rfl

@[simp]
theorem sent_pause (seconds : List Nat) : (w.pause seconds).sent = w.sent := rfl

@[simp]
theorem waits_pause (seconds : List Nat) : (w.pause seconds).waits = w.waits ++ seconds := rfl

theorem pause_nil : w.pause [] = w := by
  rw [pause, List.append_nil]

theorem pause_pause (m n : List Nat) : (w.pause m).pause n = w.pause (m ++ n) := by
  rw [pause, pause, pause, List.append_assoc]

theorem wait_eq (seconds : Nat) : w.wait seconds = w.pause [seconds] := rfl

theorem reply_pause (seconds : List Nat) (i : Nat) : (w.pause seconds).reply i = w.reply i := rfl

theorem behind_pause (seconds : List Nat) (count : Nat) :
    (w.pause seconds).behind r count = (w.behind r count).pause seconds := by
  unfold behind
  split <;> rfl

/-- What a request gets does not depend on how many of it were sent before, but for the replies
that those have taken. -/
theorem outcome_behind (count i : Nat) :
    r.outcome ((w.behind r count).reply i) = r.outcome (w.reply (count + i)) := by
  cases h : r.address with
  | error e => rw [Outgoing.outcome_of_error h, Outgoing.outcome_of_error h]
  | ok a =>
      have hreply : (w.behind r count).reply i = w.reply (count + i) := by
        rw [behind, h]
        unfold reply
        rw [List.getElem?_drop]
      rw [hreply]

theorem send_eq : w.send r = (r.outcome (w.reply 0), w.behind r 1) := by
  cases h : r.address with
  | error e => rw [send, h, Outgoing.outcome_of_error h, behind, h]
  | ok a =>
      rw [send, h, Outgoing.outcome_of_address h, behind, h, Outgoing.entries_of_address h]
      cases hreplies : w.replies with
      | nil =>
          have hreply : w.reply 0 = .failure noReply := by rw [reply, hreplies]; rfl
          rw [hreply]
          rfl
      | cons reply replies =>
          have hreply : w.reply 0 = reply := by rw [World.reply, hreplies]; rfl
          rw [hreply]
          rfl

end World

/-! ## Faults of a request -/

/-- Whether a sending can be no fault but the one that there is no address. -/
def FaultsAtAddress {α : Type} (x : Except SendError α) : Prop :=
  ∀ f, x = .error (.fault f) → f = .malformedAddress

namespace FaultsAtAddress

variable {α β : Type}

theorem ok (x : α) : FaultsAtAddress (.ok x) :=
  fun _ h => nomatch h

theorem failed (message : String) :
    FaultsAtAddress (.error (.failed message) : Except SendError α) :=
  fun _ h => nomatch h

theorem refused (f : Fault) (message : String) :
    FaultsAtAddress (.error (.refused f message) : Except SendError α) :=
  fun _ h => nomatch h

theorem bind {x : Except SendError α} {f : α → Except SendError β} (h : FaultsAtAddress x)
    (hf : ∀ y, FaultsAtAddress (f y)) : FaultsAtAddress (x >>= f) := by
  cases x with
  | error e => exact fun fault heq => h fault (congrArg Except.error (Except.error.inj heq))
  | ok y => exact hf y

theorem addressOrFault (x : Except AddressFlaw Address) : FaultsAtAddress (addressOrFault x) := by
  intro f h
  cases x with
  | error flaw => exact (SendError.fault.inj (Except.error.inj h)).symm
  | ok a => cases h

theorem checkHeader (s : List Char) : FaultsAtAddress (checkHeader s) := by
  unfold Net.checkHeader
  split
  · exact refused _ _
  · exact ok ()

theorem checkHost (a : Address) : FaultsAtAddress a.checkHost := by
  unfold Address.checkHost
  split
  · exact refused _ _
  · exact ok ()

theorem nextTo (a further : Address) : FaultsAtAddress (a.nextTo further) := by
  unfold Address.nextTo
  split
  · exact refused _ _
  · exact addressOrFault _

theorem forM {x : Option α} {f : α → Except SendError PUnit} (hf : ∀ y, FaultsAtAddress (f y)) :
    FaultsAtAddress (x.forM f) := by
  cases x with
  | none => exact ok _
  | some y => exact hf y

theorem bind_ite {c : Prop} [Decidable c] {x y : Except SendError α}
    {f : α → Except SendError β} (hx : FaultsAtAddress x) (hy : FaultsAtAddress y)
    (hf : ∀ z, FaultsAtAddress (f z)) :
    FaultsAtAddress (if c then x >>= f else y >>= f) := by
  split
  · exact hx.bind hf
  · exact hy.bind hf

theorem checkFurther (a : Address) (location : String) :
    FaultsAtAddress (a.checkFurther location) := by
  unfold Address.checkFurther
  refine .bind (checkHeader _) fun _ => .bind ?_ fun further => ?_
  · cases Address.read location with
    | error flaw => exact failed _
    | ok further => exact ok further
  dsimp only
  split
  · refine .bind (checkHost _) fun _ => ?_
    exact bind_ite (addressOrFault _) (ok _) fun further => bind_ite (ok _) (nextTo a _)
      fun further => bind_ite (addressOrFault _) (ok _) checkHost
  · exact bind_ite (addressOrFault _) (ok _) fun further => bind_ite (ok _) (nextTo a _)
      fun further => bind_ite (addressOrFault _) (ok _) checkHost

end FaultsAtAddress

/-! ## What a reply gives -/

namespace Reply

variable {a : Address} {reply : Reply}

variable (a) in
/-- Whether a reply to a request at an address gives a response: it is that response, and if it
is a redirect, the further address that it names makes sense. -/
structure Gives (reply : Reply) (r : Response) : Prop where
  reply_eq : reply = .response r.status r.location r.body
  url_eq : r.url = a.text
  further : redirectCodes.contains r.status = true → ∀ l ∈ r.location, a.checkFurther l = .ok ()

variable (a) in
/-- Whether a reply is a redirect to a further address that makes no sense, and why. -/
def Strays (reply : Reply) (e : SendError) : Prop :=
  ∃ status location body, reply = .response status (some location) body ∧
    redirectCodes.contains status = true ∧ a.checkFurther location = .error e

/-- A response that is no redirect, or names no further address, is taken as it is. -/
theorem gives_of_no_redirect {status : Nat} {location : Option String}
    (h : redirectCodes.contains status = false ∨ location = none) (body : String) :
    (Reply.response status location body).Gives a ⟨a.text, status, location, body⟩ := by
  refine ⟨rfl, rfl, fun hstatus l hl => ?_⟩
  rcases h with h | rfl
  · exact absurd (h.symm.trans hstatus) Bool.false_ne_true
  · cases hl

theorem outcome_of_gives {r : Response} (h : reply.Gives a r) : reply.outcome a = .ok r := by
  obtain ⟨url, status, location, body⟩ := r
  obtain ⟨rfl, rfl, hfurther⟩ := h
  dsimp only at hfurther
  rw [outcome]
  cases hstatus : redirectCodes.contains status with
  | false => rfl
  | true =>
      cases location with
      | none => rfl
      | some l =>
          change (a.checkFurther l >>= fun _ => _) = _
          rw [hfurther hstatus l rfl]
          rfl

theorem outcome_of_strays {e : SendError} (h : reply.Strays a e) : reply.outcome a = .error e := by
  obtain ⟨status, location, body, rfl, hstatus, hfurther⟩ := h
  rw [outcome, hstatus]
  change (a.checkFurther location >>= fun _ => _) = _
  rw [hfurther]
  rfl

/-- Every reply is a failed connection, gives a response, or leads astray. -/
theorem gives_or_strays (a : Address) (reply : Reply) :
    (∃ message, reply = .failure message) ∨ (∃ r, reply.Gives a r) ∨ ∃ e, reply.Strays a e := by
  rcases reply with ⟨status, location, body⟩ | message
  case failure => exact .inl ⟨message, rfl⟩
  cases hstatus : redirectCodes.contains status with
  | false => exact .inr (.inl ⟨_, gives_of_no_redirect (.inl hstatus) body⟩)
  | true =>
      cases location with
      | none => exact .inr (.inl ⟨_, gives_of_no_redirect (.inr rfl) body⟩)
      | some l =>
          cases hfurther : a.checkFurther l with
          | error e => exact .inr (.inr ⟨e, status, l, body, rfl, hstatus, hfurther⟩)
          | ok =>
              refine .inr (.inl ⟨⟨a.text, status, some l, body⟩, rfl, rfl, fun _ k hk => ?_⟩)
              cases hk
              exact hfurther

theorem outcome_eq_ok_iff {r : Response} : reply.outcome a = .ok r ↔ reply.Gives a r := by
  refine ⟨fun h => ?_, outcome_of_gives⟩
  rcases gives_or_strays a reply with ⟨message, rfl⟩ | ⟨r', hgives⟩ | ⟨e, hstrays⟩
  · cases h
  · cases h.symm.trans (outcome_of_gives hgives)
    exact hgives
  · cases h.symm.trans (outcome_of_strays hstrays)

theorem outcome_eq_error_iff {e : SendError} :
    reply.outcome a = .error e ↔
      (∃ message, reply = .failure message ∧ e = .failed message) ∨ reply.Strays a e := by
  constructor
  · intro h
    rcases gives_or_strays a reply with ⟨message, rfl⟩ | ⟨r, hgives⟩ | ⟨e', hstrays⟩
    · exact .inl ⟨message, rfl, (Except.error.inj h).symm⟩
    · cases h.symm.trans (outcome_of_gives hgives)
    · cases h.symm.trans (outcome_of_strays hstrays)
      exact .inr hstrays
  · rintro (⟨message, rfl, rfl⟩ | hstrays)
    · rfl
    · exact outcome_of_strays hstrays

/-- Only what leads astray can fail otherwise than a connection does. -/
theorem strays_iff {e : SendError} (h : ∀ message, e ≠ .failed message) :
    reply.Strays a e ↔ reply.outcome a = .error e := by
  rw [outcome_eq_error_iff]
  exact ⟨.inr, fun hcases => hcases.resolve_left fun ⟨message, _, he⟩ => h message he⟩

theorem strays_fault_iff {f : Fault} :
    reply.Strays a (.fault f) ↔ reply.outcome a = .error (.fault f) :=
  strays_iff nofun

theorem strays_refused_iff {f : Fault} {message : String} :
    reply.Strays a (.refused f message) ↔ reply.outcome a = .error (.refused f message) :=
  strays_iff nofun

/-- A response that names no further address is taken as it is. -/
theorem outcome_of_no_location (a : Address) (status : Nat) (body : String) :
    (Reply.response status none body).outcome a = .ok ⟨a.text, status, none, body⟩ :=
  outcome_of_gives (gives_of_no_redirect (.inr rfl) body)

theorem faultsAtAddress_outcome (reply : Reply) (a : Address) :
    FaultsAtAddress (reply.outcome a) := by
  intro f h
  rcases outcome_eq_error_iff.1 h with ⟨message, -, ⟨⟩⟩ | ⟨_, location, _, -, -, hfurther⟩
  exact FaultsAtAddress.checkFurther a location f hfurther

end Reply

end RequestAtlas.Net

import RequestAtlas.Proofs.Analysis.Overruns
import RequestAtlas.Proofs.Net.Retries

/-!
# How a chat may fail

A chat that can reach its service gives a text, or fails with a message once all its attempts
are used up. There is a third way out, which no one catches on the way: the first reply that is
no reason to try again may be a response that derails the chat, or a redirect to what is no
address. It is a fault then, and there is no other way to one (`chat_fault_iff`).

An analysis makes a failure of its own of whatever counts as a failed chat. Faults pass through
it, but for one: a document that is nested too deep counts as a failed chat as well.
-/

namespace RequestAtlas.Net

namespace ChatService

section

variable {c : ChatService} {a : Address}

variable (c a) in
/-- Whether chats are sent to an address: it is what the service's host says. -/
def IsAt : Prop :=
  (c.request .null).address = .ok a

/-- Only its body can keep a chat from an address that chats are sent to. -/
theorem IsAt.address (h : c.IsAt a) (body : Json) :
    (c.request body).address =
      if body.isStandard then .ok a else .error (.refused .notFinite notStandard) := by
  obtain ⟨hdestination, -, hsendable⟩ := Outgoing.address_eq_ok_iff.1 h
  have hbody : (c.request body).destination = .ok a := hdestination
  rw [Outgoing.address_eq, hbody]
  change (if body.isStandard = true then a.checkSendable >>= fun _ => .ok a else _) = _
  rw [hsendable]
  rfl

theorem IsAt.outcome_eq_fault_iff (h : c.IsAt a) {body : Json} {reply : Reply} {f : Fault} :
    (c.request body).outcome reply = .error (.fault f) ↔
      body.isStandard = true ∧ f = .malformedAddress ∧ reply.Strays a (.fault f) := by
  have haddress := h.address body
  split at haddress
  next hbody =>
      rw [Outgoing.outcome_of_address haddress]
      constructor
      · intro hfault
        obtain rfl := Reply.faultsAtAddress_outcome reply a f hfault
        exact ⟨hbody, rfl, Reply.strays_fault_iff.2 hfault⟩
      · rintro ⟨-, -, hstrays⟩
        exact Reply.outcome_of_strays hstrays
  next hbody =>
      rw [Outgoing.outcome_of_error haddress]
      exact ⟨fun hfault => (nomatch hfault), fun hfault => absurd hfault.1 hbody⟩

variable [Json.OuterDepth]

variable (c a) in
/-- Whether a reply to a chat is a fault: it redirects to what is no address, or it is a
response that derails the chat. -/
def FailsOn (body : Json) (reply : Reply) (f : Fault) : Prop :=
  (body.isStandard = true ∧ f = .malformedAddress ∧ reply.Strays a (.fault f)) ∨
    ∃ r, (c.request body).outcome reply = .ok r ∧ isSuccess r.status = true ∧ r.Derails f

theorem IsAt.attemptOn_eq_fault_iff (h : c.IsAt a) {body : Json} {reply : Reply} {f : Fault} :
    c.attemptOn body reply = .fault f ↔ c.FailsOn a body reply f := by
  rw [attemptOn, Attempt.ofOutcome_eq_fault_iff, h.outcome_eq_fault_iff]
  rfl

/-- A chat with a service that can be reached is a fault just if the first reply that is no
reason to try again is one. Otherwise it gives a text, or it has made all its attempts and fails
with a message. An analysis that asks for the chat fails with that message, and so it does when
a document was nested too deep; any other fault is its own. -/
theorem chat_fault_iff {c : ChatService} {a : Address} (hc : c.IsAt a) (messages : Json)
    (jsonOnly : Bool) (n : Nat) (w : World) :
    let body := c.payload messages jsonOnly
    let done := c.chat messages jsonOnly n w
    (∀ f, done.1 = .error (.fault f) ↔ ∃ k < n,
      (∀ i < k, c.TriesAgain body (w.reply i)) ∧ c.FailsOn a body (w.reply k) f) ∧
    ((∃ text, done.1 = .ok text) ∨ (∃ f, done.1 = .error (.fault f)) ∨
      (∀ i < n, c.TriesAgain body (w.reply i)) ∧
        done.2.sent = w.sent ++ (c.request body).entries n ∧
        ∃ last, done.1 = .error (.failed (failureMessage n last))) ∧
    ∀ (request : AnalysisRequest) (e : AnalysisError),
      (c.chat (.arr request.messages) true defaultAttempts w).1 = .error e →
        (c.analyze request w).1 = .error (match e.chatMessage? with
          | some message => .failed ("AI analysis failed: " ++ message)
          | none => e) := by
  intro body done
  refine ⟨fun f => ?_, ?_, fun request e he => ?_⟩
  · simp only [← hc.attemptOn_eq_fault_iff]
    constructor
    · intro hfault
      rcases Nat.eq_zero_or_pos n with rfl | hn
      · cases hfault
      · obtain ⟨k, hlast⟩ := exists_isLast c body w hn
        have hconclude : conclude n (c.attemptOn body (w.reply k)) = .error (.fault f) :=
          hlast.chat_log.1.symm.trans hfault
        refine ⟨k, hlast.lt, hlast.again, ?_⟩
        cases hattempt : c.attemptOn body (w.reply k) with
        | answered text => rw [hattempt] at hconclude; cases hconclude
        | retry reason => rw [hattempt] at hconclude; cases hconclude
        | fault g => rw [hattempt] at hconclude; cases hconclude; rfl
    · rintro ⟨k, hk, hagain, hattempt⟩
      have hends : ¬ c.TriesAgain body (w.reply k) :=
        not_triesAgain fun reason heq => nomatch hattempt.symm.trans heq
      have hlast : c.IsLast body w n k := ⟨hk, hagain, .inr hends⟩
      exact hlast.chat_log.1.trans (congrArg (conclude n) hattempt)
  · rcases Nat.eq_zero_or_pos n with rfl | hn
    · refine .inr (.inr ⟨fun i hi => absurd hi (Nat.not_lt_zero i), ?_, none, rfl⟩)
      rw [Outgoing.entries_zero, List.append_nil]
      rfl
    · obtain ⟨k, hlast⟩ := exists_isLast c body w hn
      obtain ⟨hdone, hsent, -⟩ := hlast.chat_log
      cases hattempt : c.attemptOn body (w.reply k) with
      | answered text => exact .inl ⟨text, hdone.trans (congrArg (conclude n) hattempt)⟩
      | fault f => exact .inr (.inl ⟨f, hdone.trans (congrArg (conclude n) hattempt)⟩)
      | retry reason =>
          have hagain : c.TriesAgain body (w.reply k) := triesAgain_iff.2 ⟨reason, hattempt⟩
          have hcount : k + 1 = n := hlast.ends.resolve_right fun hends => hends hagain
          subst hcount
          refine .inr (.inr ⟨fun i hi => ?_, hsent, some reason,
            hdone.trans (congrArg (conclude (k + 1)) hattempt)⟩)
          rcases Nat.lt_succ_iff_lt_or_eq.1 hi with hlt | rfl
          · exact hlast.again i hlt
          · exact hagain
  · have hanalysis : (c.analyze request w).1 = AnalysisAnswer.ofChat c.model (.error e) :=
      congrArg (AnalysisAnswer.ofChat c.model) he
    exact hanalysis.trans (AnalysisAnswer.ofChat_error c.model e)

end

theorem exists_isAt {c : ChatService} (h : (c.request .null).address.toOption.isSome = true) :
    ∃ a, c.IsAt a := by
  obtain ⟨a, ha⟩ := Option.isSome_iff_exists.1 h
  exact ⟨a, eq_ok_of_toOption ha⟩

/-- The chat for an analysis: a connection that fails, then a message whose content is null. -/
theorem chat_fault_iff_content :
    let c : ChatService := ⟨"http://localhost:11434", "m"⟩
    let request : AnalysisRequest := { text := "Table users" }
    let answer := "\x7b\"message\": \x7b\"content\": null\x7d\x7d"
    let w : World := { replies := [.failure "down", .response 200 none answer] }
    ∃ a, c.IsAt a ∧
      (c.chat (.arr request.messages) true (3 : Nat) w).1 = .error (.fault .notText) ∧
      (c.analyze request w).1 = .error (.fault .notText) := by
  intro c request answer w
  obtain ⟨a, hc⟩ := exists_isAt (c := c) (by decide +kernel)
  refine ⟨a, hc, ?_⟩
  have hbody : (c.payload (.arr request.messages) true).isStandard = true := by decide +kernel
  generalize hpayload : c.payload (.arr request.messages) true = body at hbody
  have houtcome (reply : Reply) : (c.request body).outcome reply = reply.outcome a :=
    Outgoing.outcome_of_address ((hc.address body).trans (if_pos hbody)) reply
  have hread : Json.readOctets answer = .ok (.obj [("message", .obj [("content", .null)])]) :=
    eq_ok_of_toOption (by decide +kernel)
  have hagain : c.TriesAgain body (w.reply 0) := ⟨"down", houtcome _ ▸ .failed "down"⟩
  have hfails : c.FailsOn a body (w.reply 1) .notText := by
    refine .inr ⟨⟨a.text, 200, none, answer⟩, ?_, rfl, .content hread rfl rfl fun s h => nomatch h⟩
    exact (houtcome _).trans (Reply.outcome_of_no_location a 200 answer)
  obtain ⟨hfault, -, hanalysis⟩ := chat_fault_iff hc (.arr request.messages) true 3 w
  rw [hpayload] at hfault
  have hfirst : ∀ i < 1, c.TriesAgain body (w.reply i) := by
    intro i hi
    obtain rfl : i = 0 := Nat.lt_one_iff.1 hi
    exact hagain
  have hchat := (hfault .notText).2 ⟨1, by decide, hfirst, hfails⟩
  exact ⟨hchat, hanalysis request _ hchat⟩

/-- A response that is an array ends a chat by a fault at once. -/
theorem chat_array_fault :
    let c : ChatService := ⟨"http://localhost:11434", "m"⟩
    let w : World := { replies := [.response 200 none "[]"] }
    (∃ a, c.IsAt a) ∧
      (∀ text, (c.chat (.arr []) false (1 : Nat) w).1 ≠ .ok text) ∧
      ∀ message, (c.chat (.arr []) false (1 : Nat) w).1 ≠ .error (.failed message) := by
  intro c w
  obtain ⟨a, hc⟩ := exists_isAt (c := c) (by decide +kernel)
  have hbody : (c.payload (.arr []) false).isStandard = true := by decide +kernel
  generalize hpayload : c.payload (.arr []) false = body at hbody
  have hread : Json.readOctets "[]" = .ok (.arr []) := eq_ok_of_toOption (by decide +kernel)
  have hattempt : c.attemptOn body (w.reply 0) = .fault .noFields := by
    refine hc.attemptOn_eq_fault_iff.2 (.inr ⟨⟨a.text, 200, none, "[]"⟩, ?_, rfl,
      .document hread fun fields h => nomatch h⟩)
    exact (Outgoing.outcome_of_address ((hc.address body).trans (if_pos hbody)) _).trans
      (Reply.outcome_of_no_location a 200 "[]")
  have hlast : c.IsLast (c.payload (.arr []) false) w 1 0 :=
    ⟨Nat.one_pos, fun i hi => absurd hi (Nat.not_lt_zero i), .inl rfl⟩
  have hchat : (c.chat (.arr []) false (1 : Nat) w).1 = .error (.fault .noFields) := by
    rw [hlast.chat_log.1, hpayload, hattempt]
    rfl
  rw [hchat]
  exact ⟨⟨a, hc⟩, fun text h => (nomatch h), fun message h => nomatch h⟩

end ChatService

end RequestAtlas.Net

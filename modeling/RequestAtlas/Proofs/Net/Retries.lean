import RequestAtlas.Proofs.Net.Attempt

/-!
# How a chat goes on and ends

A chat is the same request made again and again, with a wait that doubles in between, until an
attempt gives something else than a reason to try again or the attempts are used up. Each
attempt takes one reply, so the replies decide how a chat ends, and none of those behind the
last attempt has a say (`chat_retries`).

The induction is on the attempts that are made again: behind `k` of them a chat is where a chat
is that begins with the next reply, a log of `k` entries and the waits `2, 4, …, 2 ^ k` behind it
(`attemptFrom_of_retries`). How a chat ends is then read off one attempt more, the last one
(`IsLast`), and every chat that makes an attempt has a last one.
-/

namespace RequestAtlas.Net

namespace ChatService

section

variable [Json.OuterDepth]

variable (c : ChatService) (body : Json)

/-- What an attempt gives when a reply is ready for it. -/
def attemptOn (reply : Reply) : Attempt :=
  .ofOutcome ((c.request body).outcome reply)

/-- Whether an attempt that gets a reply is made again. -/
def TriesAgain (reply : Reply) : Prop :=
  ∃ reason, Retries ((c.request body).outcome reply) reason

variable {c body}

theorem triesAgain_iff {reply : Reply} :
    c.TriesAgain body reply ↔ ∃ reason, c.attemptOn body reply = .retry reason :=
  exists_congr fun _ => Attempt.ofOutcome_eq_retry_iff.symm

theorem not_triesAgain {reply : Reply} (h : ∀ reason, c.attemptOn body reply ≠ .retry reason) :
    ¬ c.TriesAgain body reply := by
  intro hagain
  obtain ⟨reason, hattempt⟩ := triesAgain_iff.1 hagain
  exact h reason hattempt

theorem attempt_eq (w : World) :
    c.attempt body w = (c.attemptOn body (w.reply 0), w.behind (c.request body) 1) := by
  unfold attempt attemptOn
  rw [World.send_eq]
  rcases (c.request body).outcome (w.reply 0) with (message | ⟨f, message⟩ | f) | r
  · rfl
  · rfl
  · rfl
  · rfl

theorem attemptOn_behind (w : World) (count i : Nat) :
    c.attemptOn body ((w.behind (c.request body) count).reply i) =
      c.attemptOn body (w.reply (count + i)) := by
  rw [attemptOn, attemptOn, World.outcome_behind]

theorem triesAgain_behind (w : World) (count i : Nat) :
    c.TriesAgain body ((w.behind (c.request body) count).reply i) ↔
      c.TriesAgain body (w.reply (count + i)) := by
  rw [TriesAgain, TriesAgain, World.outcome_behind]

/-! ## Attempts in a row -/

theorem attemptFrom_of_retries (k : Nat) : ∀ {number left : Nat} {w : World}, k ≤ left →
    (∀ i < k, c.TriesAgain body (w.reply i)) →
    c.attemptFrom body number left w =
      c.attemptFrom body (number + k) (left - k)
        ((w.behind (c.request body) k).pause ((List.range' number k).map (Nat.pow 2))) := by
  induction k with
  | zero =>
      intro number left w _ _
      rw [World.behind_zero, List.range'_zero, List.map_nil, World.pause_nil]
      rfl
  | succ k ih =>
      intro number left w hle hagain
      obtain ⟨left, rfl⟩ : ∃ l, left = l + 1 := ⟨left - 1, by omega⟩
      obtain ⟨reason, hfirst⟩ := triesAgain_iff.1 (hagain 0 (Nat.succ_pos k))
      have hrest : ∀ i < k, c.TriesAgain body
          (((w.behind (c.request body) 1).pause [Nat.pow 2 number]).reply i) := by
        intro i hi
        rw [World.reply_pause, triesAgain_behind, Nat.add_comm]
        exact hagain (i + 1) (Nat.succ_lt_succ hi)
      have hnumber : number + 1 + k = number + (k + 1) := by omega
      have hleft : left - k = left + 1 - (k + 1) := by omega
      rw [attemptFrom, attempt_eq, hfirst]
      dsimp only
      rw [World.wait_eq, ih (Nat.le_of_succ_le_succ hle) hrest, World.behind_pause,
        World.behind_behind, World.pause_pause, hnumber, hleft, Nat.add_comm 1 k,
        List.range'_succ]
      rfl

theorem attemptFrom_of_last {number left : Nat} {w : World}
    (h : left = 0 ∨ ¬ c.TriesAgain body (w.reply 0)) :
    c.attemptFrom body number left w =
      (c.attemptOn body (w.reply 0), w.behind (c.request body) 1) := by
  cases left with
  | zero => rw [attemptFrom, attempt_eq]
  | succ left =>
      have hlast := h.resolve_left (Nat.succ_ne_zero left)
      rw [attemptFrom, attempt_eq]
      cases hattempt : c.attemptOn body (w.reply 0) with
      | answered text => rfl
      | fault f => rfl
      | retry reason => exact absurd (triesAgain_iff.2 ⟨reason, hattempt⟩) hlast

variable (c body) in
/-- Whether the attempt with so many in front of it is the last of at most `n`. -/
structure IsLast (w : World) (n k : Nat) : Prop where
  lt : k < n
  /-- Every attempt in front of it is made again. -/
  again : ∀ i < k, c.TriesAgain body (w.reply i)
  /-- It is not, or it is one too many. -/
  ends : k + 1 = n ∨ ¬ c.TriesAgain body (w.reply k)

theorem IsLast.attemptFrom {w : World} {left k : Nat} (h : c.IsLast body w (left + 1) k) :
    c.attemptFrom body 1 left w =
      (c.attemptOn body (w.reply k), (w.behind (c.request body) (k + 1)).pause
        ((List.range' 1 k).map (Nat.pow 2))) := by
  have hends : left - k = 0 ∨ ¬ c.TriesAgain body (((w.behind (c.request body) k).pause
      ((List.range' 1 k).map (Nat.pow 2))).reply 0) := by
    rw [World.reply_pause, triesAgain_behind, Nat.add_zero]
    exact h.ends.imp_left fun heq => by omega
  rw [attemptFrom_of_retries k (Nat.le_of_lt_succ h.lt) h.again, attemptFrom_of_last hends,
    World.reply_pause, attemptOn_behind, Nat.add_zero, World.behind_pause, World.behind_behind]

variable (c body) in
/-- There is a last attempt if there is one at all. -/
theorem exists_isLast (w : World) {n : Nat} (hn : 0 < n) : ∃ k, c.IsLast body w n k := by
  induction n with
  | zero => exact absurd hn (Nat.lt_irrefl 0)
  | succ n ih =>
      rcases Nat.eq_zero_or_pos n with rfl | hpos
      · exact ⟨0, Nat.one_pos, fun i hi => absurd hi (Nat.not_lt_zero i), .inl rfl⟩
      · obtain ⟨k, hk⟩ := ih hpos
        by_cases hagain : c.TriesAgain body (w.reply k)
        · have hlast : k + 1 = n := hk.ends.resolve_right fun h => h hagain
          refine ⟨n, Nat.lt_succ_self n, fun i hi => ?_, .inl rfl⟩
          rcases Nat.lt_succ_iff_lt_or_eq.1 (hlast ▸ hi) with hlt | rfl
          · exact hk.again i hlt
          · exact hagain
        · exact ⟨k, Nat.lt_succ_of_lt hk.lt, hk.again, .inr hagain⟩

/-! ## Chats -/

/-- How a chat of at most `n` attempts ends, from what the last one gave. -/
def conclude (n : Nat) : Attempt → Except AnalysisError String
  | .answered text => .ok text
  | .retry reason => .error (.failed (failureMessage n (some reason)))
  | .fault f => .error (.fault f)

variable {messages : Json} {jsonOnly : Bool}

theorem IsLast.chat {w : World} {n k : Nat} (h : c.IsLast (c.payload messages jsonOnly) w n k) :
    c.chat messages jsonOnly n w =
      (conclude n (c.attemptOn (c.payload messages jsonOnly) (w.reply k)),
        (w.behind (c.request (c.payload messages jsonOnly)) (k + 1)).pause
          ((List.range' 1 k).map (Nat.pow 2))) := by
  obtain ⟨left, rfl⟩ : ∃ left, n = left + 1 := ⟨n - 1, by have := h.lt; omega⟩
  unfold ChatService.chat
  rw [Int.toNat_natCast]
  dsimp only
  rw [h.attemptFrom]
  cases c.attemptOn (c.payload messages jsonOnly) (w.reply k) with
  | answered text => rfl
  | retry reason => rfl
  | fault f => rfl

/-- The last attempt decides, and there are as many entries as attempts and a wait between any
two of them. -/
theorem IsLast.chat_log {w : World} {n k : Nat}
    (h : c.IsLast (c.payload messages jsonOnly) w n k) :
    (c.chat messages jsonOnly n w).1 =
        conclude n (c.attemptOn (c.payload messages jsonOnly) (w.reply k)) ∧
      (c.chat messages jsonOnly n w).2.sent =
        w.sent ++ (c.request (c.payload messages jsonOnly)).entries (k + 1) ∧
      (c.chat messages jsonOnly n w).2.waits =
        w.waits ++ (List.range' 1 k).map (Nat.pow 2) := by
  rw [h.chat, World.sent_pause, World.sent_behind, World.waits_pause, World.waits_behind]
  exact ⟨rfl, rfl, rfl⟩

theorem IsLast.congr {w w' : World} {n k : Nat} (h : c.IsLast body w n k)
    (hsame : ∀ i ≤ k, w'.reply i = w.reply i) : c.IsLast body w' n k where
  lt := h.lt
  again i hi := hsame i (Nat.le_of_lt hi) ▸ h.again i hi
  ends := hsame k (Nat.le_refl k) ▸ h.ends

end

end ChatService

end RequestAtlas.Net

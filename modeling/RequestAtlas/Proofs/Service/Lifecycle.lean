import Mathlib.Data.List.Induction
import RequestAtlas.Proofs.Service.Run

/-!
# The life of a session

A session lives from the request that makes it to the one that ends it: a request
for its collection or for its deletion that is granted. In between it is found under
its id by every request, whatever fails, and before and after by none. So a session
hands out one collection at most, and a client that is refused can try again.

`Tracks` says of a service and the transcript that led to it when a session is found.
A visit keeps it (`Tracks.serve`), so it holds behind every run that starts without
sessions and gives no id twice (`tracks_run`).
-/

namespace RequestAtlas.Service

namespace Served

/-- Whether a command of a session was granted. -/
def Grants (id : String) (c : Command) (x : Served) : Prop :=
  x.visit.request.call = .ok (.session id c) ∧ x.answer.status = 200

/-- Whether a visit ended a session. -/
def Ends (id : String) (x : Served) : Prop :=
  x.Grants id .delete ∨ x.Grants id .collection

/-- Whether a visit made a session. -/
def Makes (id : String) (x : Served) : Prop :=
  x.visit.made? = some id

theorem Ends.call {id : String} {x : Served} (h : x.Ends id) :
    ∃ c, x.visit.request.call = .ok (.session id c) ∧ c.isLast = true ∧
      x.answer.status = 200 := by
  rcases h with ⟨hcall, hok⟩ | ⟨hcall, hok⟩
  · exact ⟨.delete, hcall, rfl, hok⟩
  · exact ⟨.collection, hcall, rfl, hok⟩

end Served

/-- Whether a service has the session of an id just if the transcript in front of it
says so: the session was made and not ended, and nothing is ended that was not
made. -/
structure Tracks (id : String) (before : List Served) (service : Service) : Prop where
  found_iff : (service.session? id).isSome ↔
    (∃ y ∈ before, y.Makes id) ∧ ¬ ∃ y ∈ before, y.Ends id
  made_of_ended : (∃ y ∈ before, y.Ends id) → ∃ y ∈ before, y.Makes id

/-! ## One visit -/

section Step

variable {service behind : Service} {id : String} {before : List Served} {x : Served}

theorem exists_mem_snoc {p : Served → Prop} :
    (∃ y ∈ before ++ [x], p y) ↔ (∃ y ∈ before, p y) ∨ p x := by
  simp [or_and_right, exists_or]

/-- A visit that neither makes nor ends the session leaves it to be found as
before. -/
theorem Tracks.of_quiet (h : Tracks id before service) (hmakes : ¬ x.Makes id)
    (hends : ¬ x.Ends id)
    (hsame : (behind.session? id).isSome = (service.session? id).isSome) :
    Tracks id (before ++ [x]) behind where
  found_iff := by
    rw [hsame, exists_mem_snoc, exists_mem_snoc, or_iff_left hmakes, or_iff_left hends]
    exact h.found_iff
  made_of_ended := by
    rw [exists_mem_snoc, exists_mem_snoc, or_iff_left hmakes, or_iff_left hends]
    exact h.made_of_ended

/-- A visit that makes the session for the first time. -/
theorem Tracks.of_makes (h : Tracks id before service) (hmakes : x.Makes id)
    (hends : ¬ x.Ends id) (hfresh : ¬ ∃ y ∈ before, y.Makes id)
    (hfound : (behind.session? id).isSome) : Tracks id (before ++ [x]) behind where
  found_iff := by
    have hlive : ¬ ∃ y ∈ before, y.Ends id := fun hended => hfresh (h.made_of_ended hended)
    rw [exists_mem_snoc, exists_mem_snoc, or_iff_left hends]
    exact ⟨fun _ => ⟨.inr hmakes, hlive⟩, fun _ => hfound⟩
  made_of_ended _ := exists_mem_snoc.2 (.inr hmakes)

/-- A visit that ends the session. -/
theorem Tracks.of_ends (h : Tracks id before service) (hends : x.Ends id)
    (hfound : (service.session? id).isSome) (hgone : behind.session? id = none) :
    Tracks id (before ++ [x]) behind where
  found_iff := by
    rw [hgone]
    constructor
    · intro hnone
      cases hnone
    · exact fun hlive => absurd (exists_mem_snoc.2 (.inr hends)) hlive.2
  made_of_ended _ := exists_mem_snoc.2 (.inl (h.found_iff.1 hfound).1)

/-- A call to the session ends it or leaves it to be found as before. -/
theorem Tracks.serve_session {v : Visit} {c : Command} (h : Tracks id before service)
    (hcall : v.request.call = .ok (.session id c)) :
    Tracks id (before ++ [⟨v, (service.serve v).1, (service.serve v).2.2⟩])
      (service.serve v).2.1 := by
  have hmakes : v.made? ≠ some id := by
    intro hmade
    obtain ⟨config, hcreate, -⟩ := made?_eq_some_iff.1 hmade
    rw [hcall] at hcreate
    cases hcreate
  rw [serve_of_ok hcall]
  cases hfound : service.session? id with
  | none =>
      rw [answer_session_of_none hfound]
      refine h.of_quiet hmakes (fun hends => ?_) rfl
      obtain ⟨_, -, -, hok⟩ := hends.call
      have hrefused : 404 = 200 := hok
      omega
  | some s =>
      rw [answer_session_of_some hfound]
      have hput := session?_put (e := v.environment) (w := v.world) (c := c) hfound
      rcases command_cases v.environment s v.world c with
        ⟨new, hnew, -, -, hfails⟩ | ⟨hgone, hok, hlast⟩
      · refine h.of_quiet hmakes (fun hends => ?_) ?_
        · obtain ⟨c', hc', hlast, hok⟩ := hends.call
          rw [hcall] at hc'
          cases hc'
          exact hfails hlast hok
        · rw [hput, hnew, hfound]
          rfl
      · have hends : Served.Ends id ⟨v, (command v.environment s v.world c).1,
            (command v.environment s v.world c).2.2⟩ := by
          cases c with
          | delete => exact .inl ⟨hcall, hok⟩
          | collection => exact .inr ⟨hcall, hok⟩
          | state | fetch | paste _ | fallBack | rows | edit _ => cases hlast
        exact h.of_ends hends (by rw [hfound]; rfl) (by rw [hput, hgone])

/-- A visit keeps track of a session, when it does not make one that was made
before. -/
theorem Tracks.serve {v : Visit} (h : Tracks id before service)
    (hfresh : v.made? = some id → ¬ ∃ y ∈ before, y.Makes id) :
    Tracks id (before ++ [⟨v, (service.serve v).1, (service.serve v).2.2⟩])
      (service.serve v).2.1 := by
  by_cases hmakes : v.made? = some id
  · obtain ⟨config, hcall, hid⟩ := made?_eq_some_iff.1 hmakes
    refine h.of_makes hmakes (fun hends => ?_) (hfresh hmakes) ?_
    · obtain ⟨c, hc, -⟩ := hends.call
      rw [hcall] at hc
      cases hc
    · have hfound := session?_create_self service v.environment.newId config
      rw [serve_of_ok hcall, ← hid]
      exact congrArg Option.isSome hfound
  · by_cases hcalled : ∃ c, v.request.call = .ok (.session id c)
    · obtain ⟨c, hcall⟩ := hcalled
      exact h.serve_session hcall
    · refine h.of_quiet hmakes (fun hends => ?_) ?_
      · obtain ⟨c, hc, -⟩ := hends.call
        exact hcalled ⟨c, hc⟩
      · rw [session?_serve_of_untouched hmakes fun c hc => hcalled ⟨c, hc⟩]

end Step

/-! ## Runs -/

theorem exists_makes_iff {service : Service} {visits : List Visit} {id : String} :
    (∃ y ∈ service.transcript visits, y.Makes id) ↔ id ∈ visits.filterMap Visit.made? := by
  have hvisits := map_visit_transcript service visits
  rw [List.mem_filterMap]
  constructor
  · rintro ⟨y, hy, hmakes⟩
    exact ⟨y.visit, hvisits ▸ List.mem_map_of_mem hy, hmakes⟩
  · rintro ⟨v, hv, hmade⟩
    rw [← hvisits] at hv
    obtain ⟨y, hy, rfl⟩ := List.mem_map.1 hv
    exact ⟨y, hy, hmade⟩

/-- Behind every run that gives no id twice a session is found just if the transcript
says so. -/
theorem tracks_run {visits : List Visit} (hfresh : (visits.filterMap Visit.made?).Nodup)
    (id : String) :
    Tracks id (({} : Service).transcript visits) (({} : Service).behind visits) := by
  induction visits using List.reverseRecOn with
  | nil =>
      refine ⟨⟨fun hnone => ?_, fun hlive => ?_⟩, fun hended => ?_⟩
      · cases hnone
      · obtain ⟨_, h, -⟩ := hlive.1
        cases h
      · obtain ⟨_, h, -⟩ := hended
        cases h
  | append_singleton visits v ih =>
      rw [List.filterMap_append, List.nodup_append] at hfresh
      obtain ⟨hearlier, -, hdisjoint⟩ := hfresh
      rw [transcript_append, behind_append]
      refine (ih hearlier).serve fun hmakes => ?_
      rw [exists_makes_iff]
      intro hmem
      exact hdisjoint id hmem id (by simp [hmakes]) rfl

/-- The life of a session, at any moment of a run that starts without sessions and
gives no id twice. A request that makes a call to a session is answered 404 just if
no request made that session before, or an earlier one for its deletion or for its
collection was granted. A session's collection is granted once at most. And a
request that fails takes no session away. -/
theorem lifecycle {visits : List Visit} (hfresh : (visits.filterMap Visit.made?).Nodup)
    {before rest : List Served} {x : Served}
    (hmoment : ({} : Service).transcript visits = before ++ x :: rest) :
    (∀ id c, x.visit.request.call = .ok (.session id c) →
      (x.answer.status = 404 ↔
        (¬ ∃ y ∈ before, y.Makes id) ∨ (∃ y ∈ before, y.Grants id .delete) ∨
          ∃ y ∈ before, y.Grants id .collection)) ∧
    (∀ id, x.Grants id .collection → ¬ ∃ y ∈ before, y.Grants id .collection) ∧
    (400 ≤ x.answer.status →
      (({} : Service).behind (before.map (·.visit) ++ [x.visit])).ids =
        (({} : Service).behind (before.map (·.visit))).ids) := by
  obtain ⟨first, last, rfl, rfl, hanswer⟩ := transcript_split hmoment
  rw [List.filterMap_append, List.nodup_append] at hfresh
  have htracks := tracks_run hfresh.1
  rw [map_visit_transcript]
  have hfound (id : String) (c : Command)
      (hcall : x.visit.request.call = .ok (.session id c)) :
      x.answer.status = 404 ↔ (({} : Service).behind first).session? id = none := by
    rw [hanswer, serve_of_ok hcall]
    cases hsession : (({} : Service).behind first).session? id with
    | none => simp [answer_session_of_none hsession, Answer.noSession, Answer.refuse]
    | some s =>
        rw [answer_session_of_some hsession]
        have hne := status_command_ne x.visit.environment s x.visit.world c
        simp [hne]
  have hnone (id : String) : (({} : Service).behind first).session? id = none ↔
      (¬ ∃ y ∈ ({} : Service).transcript first, y.Makes id) ∨
        ∃ y ∈ ({} : Service).transcript first, y.Ends id := by
    rw [← Option.not_isSome_iff_eq_none, (htracks id).found_iff, not_and_or, not_not]
  refine ⟨fun id c hcall => ?_, fun id hgrants hearlier => ?_, fun hfailed => ?_⟩
  · rw [hfound id c hcall, hnone]
    simp only [Served.Ends, and_or_left, exists_or]
  · obtain ⟨y, hy, hgranted⟩ := hearlier
    have hgone : x.answer.status = 404 := by
      rw [hfound id .collection hgrants.1, hnone]
      exact .inr ⟨y, hy, .inr hgranted⟩
    rw [hgrants.2] at hgone
    omega
  · rw [hanswer] at hfailed
    rw [behind_append]
    exact ids_serve_of_failed hfailed

/-- A session that is made, asked for its collection too early, given a text, and
asked again: the early request is refused and leaves it, the second is granted, and
the request behind it is answered 404. -/
theorem lifecycle_collected :
    let visit (method path : String) (body : Option String) : Visit :=
      ⟨⟨{ analysisEnabled := false }, default, "s1"⟩, {}, ⟨method, path, body⟩⟩
    let early := [visit "POST" "/api/imports" (some "\x7b\x7d"),
      visit "GET" "/api/imports/s1/collection" none,
      visit "POST" "/api/imports/s1/paste"
        (some "\x7b\"dbml\": \"Table t \x7b\\n  id UUID\\n\x7d\"\x7d")]
    let granted := visit "GET" "/api/imports/s1/collection" none
    let late := visit "GET" "/api/imports/s1/" none
    let service := ({} : Service).behind (early ++ [granted])
    (({} : Service).transcript early).map (·.answer.status) = [201, 409, 200] ∧
      ((early ++ [granted] ++ [late]).filterMap Visit.made?).Nodup ∧
      late.request.call = .ok (.session "s1" .state) ∧
      (service.serve late).1.status = 404 := by
  intro visit early granted late service
  have hfresh : ((early ++ [granted] ++ [late]).filterMap Visit.made?).Nodup := by
    decide +kernel
  have hcall : late.request.call = .ok (.session "s1" .state) := by decide +kernel
  have hmoment := transcript_append {} (early ++ [granted]) [late]
  have hearlier := transcript_append {} early [granted]
  refine ⟨by decide +kernel, hfresh, hcall, ?_⟩
  refine ((lifecycle hfresh hmoment).1 "s1" .state hcall).2 (.inr (.inr ?_))
  have hgranted : granted.request.call = .ok (.session "s1" .collection) := by decide +kernel
  have hok : ((({} : Service).behind early).serve granted).1.status = 200 := by decide +kernel
  rw [hearlier]
  exact ⟨_, List.mem_append_right _ List.mem_cons_self, hgranted, hok⟩

end RequestAtlas.Service

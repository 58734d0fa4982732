import RequestAtlas.Proofs.Import.Run
import RequestAtlas.Proofs.Service.Routing
import RequestAtlas.Service.Registry

/-!
# Runs of the service

A service is asked one request after another. Each request meets a service that
the earlier ones left behind, settings and a time of its own, and its own share of
the outside world. This file serves a request, runs a list of them, and says what
a single request can do to the sessions that exist.

`command_cases` is the one place where the commands of a session are gone through:
a command leaves its session where it was and is not answered 404, or it ends the
session and is answered 200, and only the two last commands of a session end it.
All that is said of runs elsewhere rests on it and on three facts about the
registry: what a request does to the session that it is about depends on that
session alone (`serve_congr`), other sessions stay as they are
(`session?_serve_of_not_about`), and a request that fails takes no session away
(`ids_serve_of_failed`).
-/

namespace RequestAtlas.Service

/-! ## Visits -/

/-- A request with what it meets at the service: the settings, the time and the id
for a session that is made now, and the outside world. -/
structure Visit where
  environment : Environment
  world : Net.World
  request : HttpRequest

namespace Visit

/-- The session that a visit makes. -/
def made? (v : Visit) : Option String :=
  match v.request.call with
  | .ok (.create _) => some v.environment.newId
  | _ => none

/-- The session that a visit is about: the one that it makes, or else the one that
its path names. -/
def subject? (v : Visit) : Option String :=
  v.made?.or v.request.session?

/-- Whether a visit is about a session. -/
def isAbout (id : String) (v : Visit) : Bool :=
  v.subject? == some id

end Visit

/-- The answer to a visit, with the service and the world behind it. A request that
makes no call meets neither. -/
def serve (service : Service) (v : Visit) : Answer × Service × Net.World :=
  match v.request.call with
  | .error a => (a, service, v.world)
  | .ok call => service.answer v.environment v.world call

/-- A visit that was answered, and what it did to the outside world. -/
structure Served where
  visit : Visit
  answer : Answer
  world : Net.World

/-- What a service answers to one visit after another. -/
def transcript (service : Service) : List Visit → List Served
  | [] => []
  | v :: rest =>
    let served := service.serve v
    ⟨v, served.1, served.2.2⟩ :: served.2.1.transcript rest

/-- The service behind a list of visits. -/
def behind (service : Service) : List Visit → Service
  | [] => service
  | v :: rest => (service.serve v).2.1.behind rest

/-- The ids of the sessions that exist. -/
def ids (service : Service) : List String :=
  service.sessions.map (·.id)

/-! ## Transcripts -/

theorem transcript_append (service : Service) (first rest : List Visit) :
    service.transcript (first ++ rest) =
      service.transcript first ++ (service.behind first).transcript rest := by
  induction first generalizing service with
  | nil => rfl
  | cons v first ih =>
      rw [List.cons_append, transcript, transcript, behind, ih]
      rfl

theorem behind_append (service : Service) (first rest : List Visit) :
    service.behind (first ++ rest) = (service.behind first).behind rest := by
  induction first generalizing service with
  | nil => rfl
  | cons v first ih => exact ih _

theorem map_visit_transcript (service : Service) (visits : List Visit) :
    (service.transcript visits).map (·.visit) = visits := by
  induction visits generalizing service with
  | nil => rfl
  | cons v rest ih =>
      rw [transcript, List.map_cons, ih]

/-- An entry of a transcript is the answer of the service that the visits in front of
it left behind, and what stands in front of it is their transcript. -/
theorem transcript_split {service : Service} {visits : List Visit} {before rest : List Served}
    {x : Served} (h : service.transcript visits = before ++ x :: rest) :
    ∃ first last, visits = first ++ x.visit :: last ∧ before = service.transcript first ∧
      x.answer = ((service.behind first).serve x.visit).1 := by
  induction before generalizing service visits with
  | nil =>
      cases visits with
      | nil => cases h
      | cons v last =>
          rw [transcript, List.nil_append] at h
          obtain ⟨rfl, -⟩ := List.cons.inj h
          exact ⟨[], last, rfl, rfl, rfl⟩
  | cons y before ih =>
      cases visits with
      | nil => cases h
      | cons v visits =>
          rw [transcript, List.cons_append] at h
          obtain ⟨rfl, htail⟩ := List.cons.inj h
          obtain ⟨first, last, rfl, rfl, hanswer⟩ := ih htail
          exact ⟨v :: first, last, rfl, rfl, hanswer⟩

/-! ## The registry -/

section Registry

variable {service : Service} {id other : String} {s : Session}

theorem id_of_session? (h : service.session? id = some s) : s.id = id := by
  have hid := List.find?_some h
  exact eq_of_beq hid

/-- Putting a session in its place leaves the others where they are. -/
theorem session?_put_of_ne {new : Option Session} (hne : other ≠ id)
    (hnew : ∀ t ∈ new, t.id = other) : (service.put other new).session? id =
      service.session? id := by
  obtain ⟨sessions⟩ := service
  rw [put, session?, session?]
  dsimp only
  induction sessions with
  | nil => rfl
  | cons old rest ih =>
      rw [List.flatMap_cons, List.find?_append, ih]
      by_cases hold : old.id = other
      · have hnone : new.toList.find? (·.id == id) = none := by
          rw [List.find?_eq_none]
          intro t ht
          rw [hnew t (Option.mem_toList.1 ht)]
          simpa using hne
        have hkeep : (old.id == id) = false := by
          rw [hold]
          simpa using hne
        rw [if_pos (by simpa using hold), hnone, Option.none_or, List.find?_cons, hkeep]
      · rw [if_neg (by simpa using hold), List.find?_cons, List.find?_cons, List.find?_nil]
        cases old.id == id <;> rfl

/-- A session that is ended is gone. -/
theorem session?_put_none (service : Service) (id : String) :
    (service.put id none).session? id = none := by
  rw [session?, List.find?_eq_none]
  intro t ht
  rw [put] at ht
  obtain ⟨old, -, hold⟩ := List.mem_flatMap.1 ht
  split at hold
  · cases hold
  · next hne =>
      rwa [List.mem_singleton.1 hold]

/-- A session that is put in its place is found there. -/
theorem session?_put_some {new : Session} (h : service.session? id = some s)
    (hnew : new.id = id) : (service.put id (some new)).session? id = some new := by
  obtain ⟨sessions⟩ := service
  rw [session?] at h
  rw [put, session?]
  dsimp only at h ⊢
  induction sessions with
  | nil => cases h
  | cons old rest ih =>
      rw [List.flatMap_cons, List.find?_append]
      by_cases hold : old.id = id
      · have hfound : (some new).toList.find? (·.id == id) = some new := by
          rw [Option.toList_some, List.find?_cons, hnew, beq_self_eq_true]
        rw [if_pos (by simpa using hold), hfound, Option.some_or]
      · have hother : (old.id == id) = false := by simpa using hold
        rw [List.find?_cons, hother] at h
        rw [if_neg (by simpa using hold), List.find?_cons, hother, List.find?_nil, ih h,
          Option.none_or]

/-- A new session is found under its id. -/
theorem session?_create_self (service : Service) (id : String) (config : ImportConfig) :
    (service.create id config).2.session? id = some (.new id config) := by
  have hnone : (service.sessions.filter (·.id != id)).find? (·.id == id) = none := by
    rw [List.find?_eq_none]
    intro t ht
    have hne := (List.mem_filter.1 ht).2
    simpa using hne
  rw [create, session?]
  dsimp only
  rw [List.find?_append, hnone, Option.none_or, List.find?_cons]
  simp [Session.new]

/-- A new session leaves the others where they are. -/
theorem session?_create_of_ne (hne : other ≠ id) (config : ImportConfig) :
    (service.create other config).2.session? id = service.session? id := by
  have hnone : [Session.new other config].find? (·.id == id) = none := by
    simpa [Session.new] using hne
  rw [create, session?]
  dsimp only
  rw [List.find?_append, hnone, Option.or_none, List.find?_filter, session?]
  congr 1
  funext t
  by_cases ht : t.id = id
  · simp [ht, hne.symm]
  · simp [ht]

/-- Putting a session in the place of one with its id keeps the ids. -/
theorem ids_put {new : Session} (hnew : new.id = id) :
    (service.put id (some new)).ids = service.ids := by
  obtain ⟨sessions⟩ := service
  rw [put, ids, ids]
  dsimp only
  induction sessions with
  | nil => rfl
  | cons old rest ih =>
      rw [List.flatMap_cons, List.map_append, ih, List.map_cons]
      by_cases hold : old.id = id
      · rw [if_pos (by simpa using hold), hold, ← hnew]
        rfl
      · rw [if_neg (by simpa using hold)]
        rfl

end Registry

/-! ## Commands -/

/-- Whether a command ends its session when it succeeds. -/
def Command.isLast : Command → Bool
  | .collection | .delete => true
  | _ => false

/-- A text that is pasted into the service is loaded into the session. -/
theorem loadText_eq (e : Environment) (s : Session) (text : String) (w : Net.World) :
    ∃ analyzer, (loadText e s text w).1 = s.load e.surroundings text analyzer := by
  delta loadText
  generalize consult e (s.question? text) w = r
  exact ⟨r.1, rfl⟩

/-- What the service fetches, the session fetches. -/
theorem fetchText_eq (e : Environment) (s : Session) (w : Net.World) :
    ∃ fetched analyzer, (fetchText e s w).1 = s.fetch e.surroundings fetched analyzer := by
  delta fetchText
  split
  · dsimp only
    generalize Net.SchemaSource.fetch _ _ _ _ _ = r
    obtain ⟨fetched, w⟩ := r
    dsimp only
    split
    · next text =>
        generalize consult e (s.question? text) w = r
        dsimp only
        exact ⟨_, _, rfl⟩
    · dsimp only
      exact ⟨_, _, rfl⟩
  · dsimp only
    exact ⟨_, _, rfl⟩

theorem loadText_id (e : Environment) (s : Session) (text : String) (w : Net.World) :
    (loadText e s text w).1.1.id = s.id := by
  obtain ⟨analyzer, h⟩ := loadText_eq e s text w
  have hid := s.perform_id e.surroundings (.load text analyzer)
  rw [Session.perform] at hid
  rw [h, hid]

theorem fetchText_id (e : Environment) (s : Session) (w : Net.World) :
    (fetchText e s w).1.1.id = s.id := by
  obtain ⟨fetched, analyzer, h⟩ := fetchText_eq e s w
  have hid := s.perform_id e.surroundings (.fetch fetched analyzer)
  rw [Session.perform] at hid
  rw [h, hid]

theorem status_loadAnswer_ne (s : Session) (outcome : Except Failure Unit) :
    (loadAnswer s outcome).status ≠ 404 := by
  unfold loadAnswer
  split
  · simp [Answer.ok]
  · split <;> simp [Answer.refuse, Answer.internalError]

/-- A command out of turn is answered as a failure, and never as if its session did
not exist. -/
theorem status_conflict (f : Failure) :
    (conflict f).status ≠ 404 ∧ (conflict f).status ≠ 200 := by
  unfold conflict
  split <;> simp [Answer.refuse, Answer.internalError]

/-- What a command can do: it leaves the session in its place and is answered neither
404 nor, if it is meant to end the session, 200; or it ends the session, is answered
200, and is meant to. -/
theorem command_cases (e : Environment) (s : Session) (w : Net.World) (c : Command) :
    (∃ new, (command e s w c).2.1 = some new ∧ new.id = s.id ∧
      (command e s w c).1.status ≠ 404 ∧
      (c.isLast = true → (command e s w c).1.status ≠ 200)) ∨
    ((command e s w c).2.1 = none ∧ (command e s w c).1.status = 200 ∧ c.isLast = true) := by
  have hkeeps {P : Prop} (h : c.isLast = false) : c.isLast = true → P := fun hlast =>
    absurd (h.symm.trans hlast) Bool.false_ne_true
  cases c with
  | state => exact .inl ⟨s, rfl, rfl, by simp [command, Answer.ok], hkeeps rfl⟩
  | fetch =>
      have hid := fetchText_id e s w
      rw [command]
      generalize fetchText e s w = r at hid ⊢
      obtain ⟨⟨new, outcome⟩, w⟩ := r
      exact .inl ⟨new, rfl, hid, status_loadAnswer_ne _ _, hkeeps rfl⟩
  | paste text =>
      have hid := loadText_id e s text w
      rw [command]
      generalize loadText e s text w = r at hid ⊢
      obtain ⟨⟨new, outcome⟩, w⟩ := r
      exact .inl ⟨new, rfl, hid, status_loadAnswer_ne _ _, hkeeps rfl⟩
  | fallBack =>
      have hid := s.perform_id e.surroundings .fallBack
      rw [Session.perform] at hid
      rw [command]
      generalize s.fallBack e.surroundings = r at hid ⊢
      obtain ⟨new, outcome⟩ := r
      exact .inl ⟨new, rfl, hid, status_loadAnswer_ne _ _, hkeeps rfl⟩
  | rows =>
      refine .inl ⟨s, ?_, rfl, ?_, hkeeps rfl⟩
      · rw [command]
        split <;> rfl
      · rw [command]
        split
        · simp [Answer.ok]
        · exact (status_conflict _).1
  | edit edit =>
      have hid := s.perform_id e.surroundings (.edit edit)
      rw [Session.perform] at hid
      rw [command]
      split
      · next new hedit =>
          rw [hedit] at hid
          exact .inl ⟨new, rfl, hid, by simp [Answer.ok], hkeeps rfl⟩
      · next new f hedit =>
          rw [hedit] at hid
          exact .inl ⟨new, rfl, hid, (status_conflict f).1, hkeeps rfl⟩
  | collection =>
      rw [command]
      split
      · exact .inr ⟨rfl, rfl, rfl⟩
      · next f _ =>
          exact .inl ⟨s, rfl, rfl, (status_conflict f).1, fun _ => (status_conflict f).2⟩
  | delete => exact .inr ⟨rfl, rfl, rfl⟩

/-- A command to a session that exists is not answered 404. -/
theorem status_command_ne (e : Environment) (s : Session) (w : Net.World) (c : Command) :
    (command e s w c).1.status ≠ 404 := by
  rcases command_cases e s w c with ⟨_, -, -, hne, -⟩ | ⟨-, hok, -⟩
  · exact hne
  · omega

theorem command_id {e : Environment} {s : Session} {w : Net.World} {c : Command} :
    ∀ new ∈ (command e s w c).2.1, new.id = s.id := by
  intro new hnew
  rcases command_cases e s w c with ⟨kept, hkept, hid, -⟩ | ⟨hnone, -⟩
  · rw [hkept] at hnew
    cases hnew
    exact hid
  · rw [hnone] at hnew
    cases hnew

/-- Behind a command the session is what the command left of it. -/
theorem session?_put {service : Service} {id : String} {e : Environment} {s : Session}
    {w : Net.World} {c : Command} (h : service.session? id = some s) :
    (service.put id (command e s w c).2.1).session? id = (command e s w c).2.1 := by
  cases hnew : (command e s w c).2.1 with
  | none => exact session?_put_none service id
  | some new =>
      refine session?_put_some h ?_
      rw [command_id new (by rw [hnew]; rfl), id_of_session? h]

/-! ## Single visits -/

/-- Whether a call has to do with sessions at all. -/
def Call.touchesSessions : Call → Bool
  | .create _ | .session _ _ => true
  | _ => false

section Visits

variable {service other : Service} {v : Visit} {id : String} {call : Call}

theorem serve_of_error {a : Answer} (h : v.request.call = .error a) :
    service.serve v = (a, service, v.world) := by
  rw [serve, h]

theorem serve_of_ok (h : v.request.call = .ok call) :
    service.serve v = service.answer v.environment v.world call := by
  rw [serve, h]

theorem answer_of_not_touching {e : Environment} {w : Net.World}
    (h : call.touchesSessions = false) : (service.answer e w call).2.1 = service := by
  cases call with
  | health => rw [answer]
  | parse text => rfl
  | standard g => rfl
  | organized g a => rfl
  | analyze request => rw [answer]
  | create config => cases h
  | session id c => cases h

theorem answer_session_of_none {e : Environment} {w : Net.World} {c : Command}
    (h : service.session? id = none) :
    service.answer e w (.session id c) = (.noSession id, service, w) := by
  rw [answer, h]

theorem answer_session_of_some {e : Environment} {w : Net.World} {s : Session} {c : Command}
    (h : service.session? id = some s) :
    service.answer e w (.session id c) =
      ((command e s w c).1, service.put id (command e s w c).2.1, (command e s w c).2.2) := by
  rw [answer, h]

theorem made?_eq_some_iff :
    v.made? = some id ↔
      ∃ config, v.request.call = .ok (.create config) ∧ v.environment.newId = id := by
  rw [Visit.made?]
  split
  · next config hcall =>
      rw [hcall]
      exact ⟨fun h => ⟨config, rfl, Option.some.inj h⟩, fun ⟨_, _, h⟩ => congrArg some h⟩
  · next hother =>
      constructor
      · intro h
        cases h
      · rintro ⟨config, hcall, -⟩
        exact absurd hcall (hother config)

/-- A call to a session is made with a path that names it. -/
theorem session?_of_session_call {c : Command} (h : v.request.call = .ok (.session id c)) :
    v.request.session? = some id :=
  session?_of_call h

theorem isAbout_iff :
    v.isAbout id = true ↔ v.made? = some id ∨ v.request.session? = some id := by
  rw [Visit.isAbout, beq_iff_eq, Visit.subject?]
  cases hmade : v.made? with
  | none => simp
  | some made =>
      obtain ⟨config, hcall, -⟩ := made?_eq_some_iff.1 hmade
      have hnone : v.request.session? = none := session?_of_call hcall
      rw [hnone, Option.some_or]
      simp

/-- A session stays as it is when a visit neither makes it nor makes a call to it. -/
theorem session?_serve_of_untouched (hmade : v.made? ≠ some id)
    (hcalled : ∀ c, v.request.call ≠ .ok (.session id c)) :
    (service.serve v).2.1.session? id = service.session? id := by
  cases hcall : v.request.call with
  | error a => rw [serve_of_error hcall]
  | ok call =>
      rw [serve_of_ok hcall]
      cases call with
      | create config =>
          have hne : v.environment.newId ≠ id := fun heq =>
            hmade (made?_eq_some_iff.2 ⟨config, hcall, heq⟩)
          exact session?_create_of_ne hne config
      | session named c =>
          have hne : named ≠ id := fun heq => hcalled c (by rw [hcall, heq])
          cases hfound : service.session? named with
          | none => rw [answer_session_of_none hfound]
          | some s =>
              rw [answer_session_of_some hfound]
              refine session?_put_of_ne hne fun t ht => ?_
              rw [command_id t ht, id_of_session? hfound]
      | health | parse _ | standard _ | organized _ _ | analyze _ =>
          rw [answer_of_not_touching rfl]

theorem session?_serve_of_not_about (h : v.isAbout id = false) :
    (service.serve v).2.1.session? id = service.session? id := by
  have hnot : ¬ (v.made? = some id ∨ v.request.session? = some id) := by
    rw [← isAbout_iff, h]
    exact Bool.false_ne_true
  rw [not_or] at hnot
  exact session?_serve_of_untouched hnot.1 fun c hcall => hnot.2 (session?_of_session_call hcall)

/-- What a visit does to the session that it is about, and what it is answered, hang
on that session alone: on no other session of the service. -/
theorem serve_congr (habout : v.isAbout id = true)
    (h : service.session? id = other.session? id) :
    (service.serve v).1 = (other.serve v).1 ∧
      (service.serve v).2.2 = (other.serve v).2.2 ∧
      (service.serve v).2.1.session? id = (other.serve v).2.1.session? id := by
  cases hcall : v.request.call with
  | error a =>
      rw [serve_of_error hcall, serve_of_error hcall]
      exact ⟨rfl, rfl, h⟩
  | ok call =>
      rw [serve_of_ok hcall, serve_of_ok hcall]
      rcases isAbout_iff.1 habout with hmade | hnamed
      · obtain ⟨config, hcreate, rfl⟩ := made?_eq_some_iff.1 hmade
        rw [hcall] at hcreate
        cases hcreate
        refine ⟨rfl, rfl, ?_⟩
        exact (session?_create_self _ _ _).trans (session?_create_self _ _ _).symm
      · rw [session?_of_call hcall] at hnamed
        cases call with
        | session named c =>
            obtain rfl : named = id := Option.some.inj hnamed
            cases hfound : service.session? named with
            | none =>
                rw [hfound] at h
                rw [answer_session_of_none hfound, answer_session_of_none h.symm]
                exact ⟨rfl, rfl, hfound.trans h⟩
            | some s =>
                rw [hfound] at h
                rw [answer_session_of_some hfound, answer_session_of_some h.symm]
                exact ⟨rfl, rfl, (session?_put hfound).trans (session?_put h.symm).symm⟩
        | health | parse _ | standard _ | organized _ _ | analyze _ | create _ => cases hnamed

/-- A visit that fails takes no session away and adds none. -/
theorem ids_serve_of_failed (h : 400 ≤ (service.serve v).1.status) :
    (service.serve v).2.1.ids = service.ids := by
  cases hcall : v.request.call with
  | error a => rw [serve_of_error hcall]
  | ok call =>
      rw [serve_of_ok hcall] at h ⊢
      cases call with
      | create config =>
          have hcreated : 400 ≤ 201 := h
          omega
      | session id c =>
          cases hfound : service.session? id with
          | none => rw [answer_session_of_none hfound]
          | some s =>
              rw [answer_session_of_some hfound] at h ⊢
              rcases command_cases v.environment s v.world c with
                ⟨new, hnew, hid, -⟩ | ⟨-, hok, -⟩
              · dsimp only
                rw [hnew, ids_put (hid.trans (id_of_session? hfound))]
              · dsimp only at h
                omega
      | health | parse _ | standard _ | organized _ _ | analyze _ =>
          rw [answer_of_not_touching rfl]

end Visits

end RequestAtlas.Service

import RequestAtlas.Proofs.Service.Run

/-!
# Sessions do not meet

Many clients use one service, each with a session of its own, and their requests
arrive in any order between each other. What a client is answered is as if it had
the service to itself: the part of a transcript that is about a session is the
transcript of the requests about that session alone (`transcript_about`). The
requests of the others may be malformed, may fail on the way, and may end or make
sessions as they like.

Two services that agree on a session keep agreeing on it, whatever else happens in
one of them, which is the induction below. Nothing is assumed of ids: an id that is
given out once more stands for its new session in both runs.
-/

namespace RequestAtlas.Service

/-- Of two services that agree on a session, the one that serves all visits and the
one that serves only those about the session answer these alike. -/
theorem transcript_about_of_agree {service other : Service} {id : String}
    (h : service.session? id = other.session? id) (visits : List Visit) :
    (service.transcript visits).filter (·.visit.isAbout id) =
      other.transcript (visits.filter (·.isAbout id)) := by
  induction visits generalizing service other with
  | nil => rfl
  | cons v rest ih =>
      rw [transcript]
      cases habout : v.isAbout id with
      | false =>
          simp only [List.filter_cons, habout, Bool.false_eq_true, if_false]
          refine ih ?_
          rw [session?_serve_of_not_about habout, h]
      | true =>
          obtain ⟨hanswer, hworld, hsession⟩ := serve_congr habout h
          simp only [List.filter_cons, habout, if_true]
          rw [transcript, hanswer, hworld, ih hsession]

/-- What the requests about a session are answered, among the requests of any number
of other sessions, is what they are answered when they alone are made, in the same
order and each in the same circumstances; what they ask of the outside world is the
same too. -/
theorem transcript_about (service : Service) (visits : List Visit) (id : String) :
    (service.transcript visits).filter (·.visit.isAbout id) =
      service.transcript (visits.filter (·.isAbout id)) :=
  transcript_about_of_agree rfl visits

end RequestAtlas.Service

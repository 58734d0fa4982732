import RequestAtlas.Service.Route

/-!
# The session that a request names

A request says with its path which session it is about, long before its body is
looked at. This file reads that id off the path (`HttpRequest.session?`) and
proves that it is the right one: a request that makes a call makes one to the
session that its path names, and to no session when its path names none
(`session?_of_call`).

The id is a matter of the path alone. So a request whose body is refused names a
session too, and a request that makes a new session names none.
-/

namespace RequestAtlas

namespace Check

/-! ## What a valid check says -/

variable {α β : Type}

theorem Checked.both_eq_valid {f : Checked (α → β)} {x : Checked α} {b : β}
    (h : f.both x = .valid b) : ∃ g a, f = .valid g ∧ x = .valid a ∧ g a = b := by
  cases f with
  | invalid issues => cases x <;> cases h
  | valid g =>
      cases x with
      | invalid issues => cases h
      | valid a =>
          cases h
          exact ⟨g, a, rfl, rfl, rfl⟩

theorem Checked.map_eq_valid {f : α → β} {x : Checked α} {b : β} (h : f <$> x = .valid b) :
    ∃ a, f a = b := by
  obtain ⟨g, a, hg, -, hb⟩ := Checked.both_eq_valid (f := .valid f) h
  cases hg
  exact ⟨a, hb⟩

theorem object_eq_valid {check : Json.Fields → Checked α} {v : Json} {a : α}
    (h : object check v = .valid a) : ∃ fields, check fields = .valid a := by
  cases v with
  | obj fields => exact ⟨fields, h⟩
  | null | bool _ | int _ | float _ | str _ | arr _ => cases h

end Check

namespace Service

open Check

/-! ## Calls -/

/-- The session that a call is made to. -/
def Call.session? : Call → Option String
  | .session id _ => some id
  | _ => none

/-- Whether a method of a route can make a call. -/
def Endpoint.Makes : Endpoint → Call → Prop
  | .plain made, call => made = call
  | .withDocument check, call => ∃ v, check v = .valid call

/-- The calls that a check of one field makes. -/
theorem makes_object_map {α : Type} {f : α → Call} {check : Json.Fields → Checked α}
    {call : Call} (h : (Endpoint.withDocument (object fun fields => f <$> check fields)).Makes
      call) : ∃ a, f a = call := by
  obtain ⟨v, hv⟩ := h
  obtain ⟨fields, hfields⟩ := object_eq_valid hv
  exact Checked.map_eq_valid hfields

/-! ## Routes -/

/-- The id that the segments of a path name. -/
def namedIn : List String → Option String
  | "api" :: "imports" :: id :: _ => if id.isEmpty then none else some id
  | _ => none

/-- Every method of a part of a session makes calls to that session. -/
theorem session?_of_sessionRoute? {id name : String} {rest : List String}
    {methods : List (String × Endpoint)} {endpoint : Endpoint} {call : Call}
    (hroute : sessionRoute? id rest = some methods) (hmem : (name, endpoint) ∈ methods)
    (hcall : endpoint.Makes call) : call.session? = some id := by
  unfold sessionRoute? at hroute
  split at hroute
  case h_11 => cases hroute
  all_goals
    cases hroute
    simp only [List.mem_cons, Prod.mk.injEq, List.not_mem_nil, or_false] at hmem
  case h_1 =>
      rcases hmem with ⟨-, rfl⟩ | ⟨-, rfl⟩
      · exact hcall ▸ rfl
      · exact hcall ▸ rfl
  case h_3 | h_9 | h_10 =>
      obtain ⟨-, rfl⟩ := hmem
      obtain ⟨text, rfl⟩ := makes_object_map hcall
      rfl
  all_goals
    obtain ⟨-, rfl⟩ := hmem
    exact hcall ▸ rfl

/-- The calls of a route are made to the session that the path names. -/
theorem session?_of_exactRoute? {segments : List String} {name : String}
    {methods : List (String × Endpoint)} {endpoint : Endpoint} {call : Call}
    (hroute : exactRoute? segments = some methods) (hmem : (name, endpoint) ∈ methods)
    (hcall : endpoint.Makes call) : call.session? = namedIn segments := by
  unfold exactRoute? at hroute
  split at hroute
  case h_7 id rest _ =>
      split at hroute
      · cases hroute
      · next hid =>
          rw [session?_of_sessionRoute? hroute hmem hcall, namedIn, if_neg hid]
  case h_8 => cases hroute
  all_goals
    cases hroute
    simp only [List.mem_cons, Prod.mk.injEq, List.not_mem_nil, or_false] at hmem
    obtain ⟨-, rfl⟩ := hmem
  case h_1 => exact hcall ▸ rfl
  case h_2 | h_3 =>
      obtain ⟨a, rfl⟩ := makes_object_map hcall
      rfl
  case h_4 =>
      obtain ⟨v, hv⟩ := hcall
      obtain ⟨fields, hfields⟩ := object_eq_valid hv
      obtain ⟨g, a, hg, -, rfl⟩ := Checked.both_eq_valid hfields
      obtain ⟨generation, rfl⟩ := Checked.map_eq_valid hg
      rfl
  case h_5 | h_6 =>
      obtain ⟨v, hv⟩ := hcall
      obtain ⟨a, rfl⟩ := Checked.map_eq_valid hv
      rfl

/-- The id that a path names: that in its segments, where a line end behind the last
one is overlooked only if no route has it. -/
def namedOn (path : List Char) : Option String :=
  if (exactRoute? (segments path)).isSome then namedIn (segments path)
  else namedIn (withoutLineEnd (segments path))

theorem session?_of_route? {path : List Char} {name : String}
    {methods : List (String × Endpoint)} {endpoint : Endpoint} {call : Call}
    (hroute : route? path = some methods) (hmem : (name, endpoint) ∈ methods)
    (hcall : endpoint.Makes call) : call.session? = namedOn path := by
  rw [route?] at hroute
  rw [namedOn]
  cases hexact : exactRoute? (segments path) with
  | some exact =>
      rw [hexact, Option.some_or] at hroute
      cases hroute
      exact session?_of_exactRoute? hexact hmem hcall
  | none =>
      rw [hexact, Option.none_or] at hroute
      exact session?_of_exactRoute? hroute hmem hcall

/-! ## Requests -/

/-- The path with a route that an address leads to, led on up to `fuel` times. -/
def findPath? : (fuel : Nat) → String → Option (List Char)
  | 0, _ => none
  | fuel + 1, address =>
    match servedPath address with
    | .error _ => none
    | .ok path =>
      if (route? path).isSome then some path
      else if path.getLast? = some '/' ∧
          (route? (Text.dropEndWhile (· == '/') path)).isSome then
        findPath? fuel (furtherAddress path)
      else none

/-- The route of an address is that of the path it leads to. -/
theorem findRoute?_eq_bind (fuel : Nat) (address : String) :
    findRoute? fuel address = (findPath? fuel address).bind route? := by
  induction fuel generalizing address with
  | zero => rfl
  | succ fuel ih =>
      rw [findRoute?, findPath?]
      cases servedPath address with
      | error flaw => rfl
      | ok path =>
          dsimp only
          cases hroute : route? path with
          | some methods => simp [hroute]
          | none =>
              simp only [Option.isSome_none, Bool.false_eq_true, if_false]
              split
              · exact ih _
              · rfl

/-- The session that a request names with its path. -/
def HttpRequest.session? (r : HttpRequest) : Option String :=
  (findPath? maxHops r.path).bind namedOn

theorem makes_of_readDocument {check : Json → Checked Call} {body : Option String}
    {call : Call} (h : readDocument check body = .ok call) :
    (Endpoint.withDocument check).Makes call := by
  unfold readDocument at h
  split at h
  · cases h
  · cases h
  · split at h
    · cases h
    · cases h
    · next v _ =>
        split at h
        · next made hmade =>
            cases h
            exact ⟨v, hmade⟩
        · cases h

theorem mem_of_lookup {name : String} {methods : List (String × Endpoint)}
    {endpoint : Endpoint} (h : methods.lookup name = some endpoint) :
    (name, endpoint) ∈ methods := by
  obtain ⟨before, after, rfl, -⟩ := List.lookup_eq_some_iff.1 h
  exact List.mem_append_right _ List.mem_cons_self

/-- A request that makes a call makes it to the session that it names, and to none
when it names none. -/
theorem session?_of_call {r : HttpRequest} {call : Call} (h : r.call = .ok call) :
    r.session? = call.session? := by
  unfold HttpRequest.call at h
  dsimp only at h
  rw [findRoute?_eq_bind] at h
  rw [HttpRequest.session?]
  cases hpath : findPath? maxHops r.path with
  | none =>
      rw [hpath] at h
      cases h
  | some path =>
      rw [hpath, Option.bind_some] at h
      rw [Option.bind_some]
      split at h
      · cases h
      · next methods hroute =>
          split at h
          · cases h
          · next made hmethod =>
              cases h
              exact (session?_of_route? hroute (mem_of_lookup hmethod) rfl).symm
          · next check hmethod =>
              exact (session?_of_route? hroute (mem_of_lookup hmethod)
                (makes_of_readDocument h)).symm

end Service

end RequestAtlas

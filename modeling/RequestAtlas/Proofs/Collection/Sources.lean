import RequestAtlas.Proofs.Collection.Groups
import RequestAtlas.Proofs.Collection.Placement

/-!
# Where the requests of a collection come from

A collection has requests of three kinds: those with which users sign in, those for
files, and those of tables. What holds of each kind holds of the requests of every
collection, the standard one and the organized ones, whatever the analysis says and
whichever tables are selected. The two lemmas at the end are how the rest of the
theory goes from a collection to its requests.
-/

namespace RequestAtlas

namespace Section

variable {schema : Schema} {analysis : Analysis} {spec : AuthSpec} {table : Option Table}

/-- Behind the sign-in tables there is none any more. -/
theorem auth_not_mem_rest (skip : List String) : Section.auth spec table ∉
    .files :: domainSections schema analysis skip ++ otherSections schema analysis skip := by
  intro h
  rw [List.cons_append, List.mem_cons, List.mem_append] at h
  rcases h with h | h | h
  · cases h
  · rw [domainSections, List.mem_map] at h
    obtain ⟨d, -, heq⟩ := h
    cases heq
  · rw [otherSections_eq] at h
    split at h
    · cases h
    · cases List.mem_singleton.1 h

/-- A specification that has a section is one of the analysis. -/
theorem mem_authTables_of_mem_arrange {selection : Option (List String)}
    (h : Section.auth spec table ∈ arrange schema analysis selection) :
    spec ∈ analysis.authTables := by
  rw [arrange, List.append_assoc, List.mem_append] at h
  rcases h with h | h
  · rw [authSections, List.mem_map] at h
    obtain ⟨own, hown, heq⟩ := h
    cases heq
    exact (mem_firstSpecs (List.mem_filter.1 hown).1).1
  · exact absurd h (auth_not_mem_rest _)

end Section

namespace Target

variable {t : Target} {schema : Schema} {analysis : Analysis}
  {selection : Option (List String)} {r : Request}

theorem mem_requests_standard (h : r ∈ (t.standard schema).requests) :
    r ∈ t.authRequests ∨ r ∈ t.filesFolder.requests ∨ ∃ table, r ∈ t.tableRequests table := by
  rw [standard, Collection.requests, List.flatMap_cons, List.flatMap_cons,
    Folder.requests_requests, List.mem_append, List.mem_append] at h
  rcases h with h | h | h
  · exact .inl h
  · exact .inr (.inl h)
  · obtain ⟨f, hf, hr⟩ := List.mem_flatMap.1 h
    obtain ⟨table, -, rfl⟩ := List.mem_map.1 hf
    rw [tableFolder, Folder.requests_requests] at hr
    exact .inr (.inr ⟨table, hr⟩)

theorem mem_requests_sectionFolder {s : Section} (h : r ∈ (t.sectionFolder s).requests) :
    (∃ spec table, s = .auth spec table ∧ r ∈ t.specRequests spec) ∨
      r ∈ t.filesFolder.requests ∨ ∃ table, r ∈ t.tableRequests table := by
  cases s with
  | auth spec table =>
      rw [sectionFolder, authFolder, Folder.requests_requests, List.mem_append] at h
      rcases h with h | h
      · exact .inl ⟨spec, table, rfl, h⟩
      · obtain ⟨own, -, hr⟩ := List.mem_flatMap.1 h
        exact .inr (.inr ⟨own, hr⟩)
  | files => exact .inr (.inl h)
  | domain d tables =>
      rw [sectionFolder, Folder.requests, List.flatMap_map] at h
      obtain ⟨⟨own, essential⟩, -, hr⟩ := List.mem_flatMap.1 h
      exact .inr (.inr ⟨own, hr⟩)
  | others tables =>
      rw [sectionFolder, Folder.requests, List.flatMap_map] at h
      obtain ⟨own, -, hr⟩ := List.mem_flatMap.1 h
      exact .inr (.inr ⟨own, hr⟩)

theorem mem_requests_organized (h : r ∈ (t.organized schema analysis selection).requests) :
    (∃ spec ∈ analysis.authTables, r ∈ t.specRequests spec) ∨
      r ∈ t.filesFolder.requests ∨ ∃ table, r ∈ t.tableRequests table := by
  rw [organized, Collection.requests, List.flatMap_map] at h
  obtain ⟨s, hs, hr⟩ := List.mem_flatMap.1 h
  rcases mem_requests_sectionFolder hr with ⟨spec, table, rfl, hspec⟩ | hrest
  · exact .inl ⟨spec, Section.mem_authTables_of_mem_arrange hs, hspec⟩
  · exact .inr hrest

/-- What holds of the requests of each kind holds of those of both collections. -/
theorem forall_requests {P : Request → Prop} (hauth : ∀ r ∈ t.authRequests, P r)
    (hspec : ∀ spec ∈ analysis.authTables, ∀ r ∈ t.specRequests spec, P r)
    (hfiles : ∀ r ∈ t.filesFolder.requests, P r)
    (htable : ∀ table, ∀ r ∈ t.tableRequests table, P r) :
    ∀ c ∈ [t.standard schema, t.organized schema analysis selection],
      ∀ r ∈ c.requests, P r := by
  intro c hc r hr
  rw [List.mem_cons, List.mem_singleton] at hc
  rcases hc with rfl | rfl
  · rcases mem_requests_standard hr with h | h | ⟨table, h⟩
    · exact hauth r h
    · exact hfiles r h
    · exact htable table r h
  · rcases mem_requests_organized hr with ⟨spec, hmem, h⟩ | h | ⟨table, h⟩
    · exact hspec spec hmem r h
    · exact hfiles r h
    · exact htable table r h

end Target

end RequestAtlas

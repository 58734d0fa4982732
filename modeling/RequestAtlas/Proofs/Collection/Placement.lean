import RequestAtlas.Proofs.Collection.Groups

/-!
# Every table has one place

An analysis may name a table in several places, name what no schema has, and
skip what it names; a selection overrides part of that. The arrangement keeps
its sections disjoint all the same, and this file says which section a table
goes to.

The answer needs no state. A table that has requests at all goes to the first
sign-in specification of its name, else to the first domain that mentions it,
else to the section of the others (`arrange_of_admits`); a name that the schema
lacks, or that is skipped, goes nowhere (`arrange_of_not_admits`). The
arrangement gets there by carrying names along, and each of the three lemma
groups below trades that state for a test on the name alone. For the domains
that is one equation, `placeNotes_named`: what a domain places under a name is
decided by whether the name was taken before it and whether it mentions the
name.
-/

namespace RequestAtlas

/-- Whether a domain mentions a table. -/
def Domain.mentions (d : Domain) (name : String) : Bool :=
  d.tables.any (·.name == name)

/-- Whether a table is to have requests: with a selection, when it is selected;
without one, when users sign in with it or the analysis does not skip it. -/
def Analysis.Admits (a : Analysis) : Option (List String) → String → Prop
  | some selected, name => name ∈ selected
  | none, name => name ∈ a.authNames ∨ name ∉ a.skipTables

namespace Schema

theorem table?_name {s : Schema} {name : String} {table : Table}
    (h : s.table? name = some table) : table.name = name := by
  simpa using List.find?_some h

theorem table?_eq_none_iff {s : Schema} {name : String} :
    s.table? name = none ↔ name ∉ s.tableNames := by
  simp [table?, tableNames]

theorem exists_table? {s : Schema} {name : String} (h : name ∈ s.tableNames) :
    ∃ table, s.table? name = some table :=
  Option.ne_none_iff_exists'.1 fun hnone => table?_eq_none_iff.1 hnone h

end Schema

namespace Section

/-- Whether `home` is the one section with a table of the given name. -/
def OnlyIn (name : String) (home : Section) (sections : List Section) : Prop :=
  ∃ before after, sections = before ++ home :: after ∧
    ∀ s ∈ before ++ after, s.named name = []

theorem OnlyIn.append_right {name : String} {home : Section} {xs ys : List Section}
    (h : OnlyIn name home xs) (hys : ∀ s ∈ ys, s.named name = []) :
    OnlyIn name home (xs ++ ys) := by
  obtain ⟨before, after, rfl, hnone⟩ := h
  refine ⟨before, after ++ ys, by simp, fun s hs => ?_⟩
  rw [← List.append_assoc] at hs
  rcases List.mem_append.1 hs with hs | hs
  · exact hnone s hs
  · exact hys s hs

theorem OnlyIn.append_left {name : String} {home : Section} {xs ys : List Section}
    (hxs : ∀ s ∈ xs, s.named name = []) (h : OnlyIn name home ys) :
    OnlyIn name home (xs ++ ys) := by
  obtain ⟨before, after, rfl, hnone⟩ := h
  refine ⟨xs ++ before, after, by simp, fun s hs => ?_⟩
  rw [List.append_assoc] at hs
  rcases List.mem_append.1 hs with hs | hs
  · exact hxs s hs
  · exact hnone s hs

/-- The only section with a table is every section that has it. -/
theorem OnlyIn.eq_of_mem {name : String} {home s : Section} {sections : List Section}
    (h : OnlyIn name home sections) (hs : s ∈ sections) (hnamed : s.named name ≠ []) :
    s = home := by
  obtain ⟨before, after, rfl, hnone⟩ := h
  rcases List.mem_append.1 hs with hs | hs
  · exact absurd (hnone s (List.mem_append_left after hs)) hnamed
  · rcases List.mem_cons.1 hs with rfl | hs
    · rfl
    · exact absurd (hnone s (List.mem_append_right before hs)) hnamed

theorem OnlyIn.mem {name : String} {home : Section} {sections : List Section}
    (h : OnlyIn name home sections) : home ∈ sections := by
  obtain ⟨before, after, rfl, -⟩ := h
  simp

/-! ## Sign-in tables

`firstSpecs` passes over a name it has seen, so behind the first specification
of a name there is no other one of that name. -/

theorem firstSpecs_append (seen : List String) (xs ys : List AuthSpec) :
    firstSpecs seen (xs ++ ys) = firstSpecs seen xs ++
      firstSpecs (((firstSpecs seen xs).map (·.table)).reverse ++ seen) ys := by
  induction xs generalizing seen with
  | nil => rfl
  | cons x xs ih =>
      rw [List.cons_append, firstSpecs, firstSpecs]
      split
      · exact ih seen
      · rw [ih]
        simp

theorem mem_firstSpecs {seen : List String} {specs : List AuthSpec} {spec : AuthSpec}
    (h : spec ∈ firstSpecs seen specs) : spec ∈ specs ∧ spec.table ∉ seen := by
  induction specs generalizing seen with
  | nil => cases h
  | cons x xs ih =>
      rw [firstSpecs] at h
      split at h
      · exact ⟨List.mem_cons_of_mem x (ih h).1, (ih h).2⟩
      · next hseen =>
          rcases List.mem_cons.1 h with rfl | h
          · exact ⟨by simp, by simpa using hseen⟩
          · obtain ⟨hmem, hnot⟩ := ih h
            exact ⟨List.mem_cons_of_mem x hmem, fun hin => hnot (List.mem_cons_of_mem _ hin)⟩

/-- The first specification of a name is kept, and with it no other of that
name. -/
theorem firstSpecs_of_find? {specs : List AuthSpec} {name : String} {spec : AuthSpec}
    (h : specs.find? (·.table == name) = some spec) :
    ∃ before after, firstSpecs [] specs = before ++ spec :: after ∧
      ∀ s ∈ before ++ after, s.table ≠ name := by
  obtain ⟨hname, earlier, later, rfl, hearlier⟩ := List.find?_eq_some_iff_append.1 h
  rw [beq_iff_eq] at hname
  have hfirst : ∀ s ∈ firstSpecs [] earlier, s.table ≠ name := by
    intro s hs
    simpa using hearlier s (mem_firstSpecs hs).1
  rw [firstSpecs_append, firstSpecs, if_neg (by simpa [hname] using hfirst)]
  refine ⟨_, _, rfl, fun s hs => ?_⟩
  rcases List.mem_append.1 hs with hs | hs
  · exact hfirst s hs
  · intro heq
    exact (mem_firstSpecs hs).2 (by simp [hname, heq])

theorem named_auth {schema : Schema} {spec : AuthSpec} {name : String}
    (h : spec.table ≠ name) : (auth spec (schema.table? spec.table)).named name = [] := by
  cases htable : schema.table? spec.table with
  | none => rfl
  | some table => simp [named, tables, Schema.table?_name htable, h]

theorem authSections_onlyIn {schema : Schema} {analysis : Analysis}
    {selection : Option (List String)} {name : String} {spec : AuthSpec}
    (hfind : analysis.authTables.find? (·.table == name) = some spec)
    (hpicked : isPicked selection name = true) :
    OnlyIn name (.auth spec (schema.table? name)) (authSections schema analysis selection) := by
  obtain ⟨before, after, hfirst, hnone⟩ := firstSpecs_of_find? hfind
  have hname : spec.table = name := by simpa using List.find?_some hfind
  rw [authSections, hfirst, List.filter_append, List.filter_cons_of_pos (by rwa [hname]),
    List.map_append, List.map_cons, hname]
  refine ⟨_, _, rfl, fun s hs => ?_⟩
  rw [← List.map_append, ← List.filter_append] at hs
  obtain ⟨other, hother, rfl⟩ := List.mem_map.1 hs
  exact named_auth (hnone other (List.mem_filter.1 hother).1)

theorem authSections_named {schema : Schema} {analysis : Analysis}
    {selection : Option (List String)} {name : String}
    (h : name ∉ analysis.authNames ∨ isPicked selection name = false ∨
      name ∉ schema.tableNames) :
    ∀ s ∈ authSections schema analysis selection, s.named name = [] := by
  intro s hs
  obtain ⟨spec, hspec, rfl⟩ := List.mem_map.1 hs
  obtain ⟨hfirst, hpicked⟩ := List.mem_filter.1 hspec
  by_cases hname : spec.table = name
  · subst hname
    rcases h with h | h | h
    · exact absurd (List.mem_map.2 ⟨spec, (mem_firstSpecs hfirst).1, rfl⟩) h
    · rw [h] at hpicked
      exact Bool.noConfusion hpicked
    · rw [Schema.table?_eq_none_iff.2 h]
      rfl
  · exact named_auth hname

/-! ## Domains -/

/-- What a domain places under a name: the first table of the name, when the
domain mentions it and nothing took it before. -/
theorem placeNotes_named (schema : Schema) (taken : List String) (notes : List TableNote)
    (name : String) :
    ((placeNotes schema taken notes).map (·.1)).filter (·.name == name) =
      if name ∉ taken ∧ notes.any (·.name == name) = true then (schema.table? name).toList
      else [] := by
  induction notes generalizing taken with
  | nil => simp [placeNotes]
  | cons note notes ih =>
      rw [placeNotes]
      by_cases htaken : note.name ∈ taken
      · rw [if_pos (by simpa using htaken), ih]
        have hne : name ∉ taken → note.name ≠ name := fun hn he => hn (he ▸ htaken)
        by_cases hn : name ∈ taken
        · simp [hn]
        · simp [hn, hne hn]
      · rw [if_neg (by simpa using htaken)]
        by_cases hname : note.name = name
        · subst hname
          cases htable : schema.table? note.name with
          | none => simp [ih, htable]
          | some table => simp [ih, htaken, Schema.table?_name htable]
        · have hne : name ≠ note.name := fun he => hname he.symm
          cases htable : schema.table? note.name with
          | none => simp [ih, hname]
          | some table => simp [ih, hne, hname, Schema.table?_name htable]

theorem domain_named (schema : Schema) (taken : List String) (d : Domain) (name : String) :
    (domain d (placeNotes schema taken d.tables)).named name =
      if name ∉ taken ∧ d.mentions name = true then (schema.table? name).toList else [] :=
  placeNotes_named schema taken d.tables name

/-- A taken name, a name that no domain mentions and a name that no table has are
placed by no domain. -/
theorem placeDomains_named {schema : Schema} {taken : List String} {ds : List Domain}
    {name : String} (h : name ∈ taken ∨ (∀ d ∈ ds, d.mentions name = false) ∨
      schema.table? name = none) :
    ∀ p ∈ placeDomains schema taken ds, (domain p.1 p.2).named name = [] := by
  induction ds generalizing taken with
  | nil => intro p hp; cases hp
  | cons d ds ih =>
      intro p hp
      rw [placeDomains] at hp
      rcases List.mem_cons.1 hp with rfl | hp
      · rw [domain_named]
        rcases h with h | h | h
        · simp [h]
        · simp [h d]
        · simp [h]
      · refine ih ?_ p hp
        rcases h with h | h | h
        · exact .inl (List.mem_append_right _ h)
        · exact .inr (.inl fun e he => h e (List.mem_cons_of_mem d he))
        · exact .inr (.inr h)

/-- The first domain that mentions a table places it, and no other does. -/
theorem placeDomains_of_find? {schema : Schema} {taken : List String} {ds : List Domain}
    {name : String} {d : Domain} {table : Table}
    (hfind : ds.find? (·.mentions name) = some d) (htaken : name ∉ taken)
    (htable : schema.table? name = some table) :
    ∃ before placed after, placeDomains schema taken ds = before ++ (d, placed) :: after ∧
      (domain d placed).named name = [table] ∧
      ∀ p ∈ before ++ after, (domain p.1 p.2).named name = [] := by
  induction ds generalizing taken with
  | nil => cases hfind
  | cons e ds ih =>
      rw [placeDomains]
      cases hmentions : e.mentions name with
      | true =>
          obtain rfl : e = d := by simpa [List.find?_cons, hmentions] using hfind
          have hplaced : (domain e (placeNotes schema taken e.tables)).named name = [table] := by
            rw [domain_named]
            simp [htaken, hmentions, htable]
          refine ⟨[], _, _, rfl, hplaced, placeDomains_named (.inl ?_)⟩
          have hmem : table ∈ (domain e (placeNotes schema taken e.tables)).named name := by
            simp [hplaced]
          obtain ⟨hin, hname⟩ := List.mem_filter.1 hmem
          obtain ⟨p, hp, rfl⟩ := List.mem_map.1 hin
          exact List.mem_append_left _ (List.mem_map.2 ⟨p, hp, beq_iff_eq.1 hname⟩)
      | false =>
          have hnone : (domain e (placeNotes schema taken e.tables)).named name = [] := by
            rw [domain_named]
            simp [hmentions]
          have hstill : name ∉ (placeNotes schema taken e.tables).map (·.1.name) ++ taken := by
            rw [List.mem_append, not_or]
            refine ⟨fun hin => ?_, htaken⟩
            obtain ⟨p, hp, hname⟩ := List.mem_map.1 hin
            rw [named, List.filter_eq_nil_iff] at hnone
            exact hnone p.1 (List.mem_map_of_mem hp) (by simpa using hname)
          obtain ⟨before, placed, after, heq, hplaced, hothers⟩ :=
            ih (by simpa [List.find?_cons, hmentions] using hfind) hstill
          refine ⟨(e, _) :: before, placed, after, by rw [heq]; rfl, hplaced, fun p hp => ?_⟩
          rcases List.mem_cons.1 hp with rfl | hp
          · exact hnone
          · exact hothers p hp

theorem mem_domainNames_iff {analysis : Analysis} {name : String} :
    name ∈ analysis.domainNames ↔ ∃ d ∈ analysis.domains, d.mentions name = true := by
  simp only [Analysis.domainNames, Analysis.notes, Domain.mentions, List.mem_map,
    List.mem_flatMap, List.any_eq_true, beq_iff_eq]
  constructor
  · rintro ⟨note, ⟨d, hd, hnote⟩, rfl⟩
    exact ⟨d, hd, note, hnote, rfl⟩
  · rintro ⟨d, hd, note, hnote, rfl⟩
    exact ⟨note, ⟨d, hd, hnote⟩, rfl⟩

theorem mem_domainNames_iff_find? {analysis : Analysis} {name : String} :
    name ∈ analysis.domainNames ↔
      ∃ d, analysis.domains.find? (·.mentions name) = some d := by
  rw [mem_domainNames_iff, ← Option.isSome_iff_exists, List.find?_isSome]

theorem domainSections_onlyIn {schema : Schema} {analysis : Analysis} {skip : List String}
    {name : String} {d : Domain} {table : Table}
    (hfind : analysis.domains.find? (·.mentions name) = some d)
    (hauth : name ∉ analysis.authNames) (hskip : name ∉ skip)
    (htable : schema.table? name = some table) :
    ∃ placed, OnlyIn name (.domain d placed) (domainSections schema analysis skip) ∧
      (domain d placed).named name = [table] := by
  have htaken : name ∉ skip ++ analysis.authNames := by simp [hauth, hskip]
  obtain ⟨before, placed, after, heq, hplaced, hnone⟩ :=
    placeDomains_of_find? hfind htaken htable
  have hkept : (!placed.isEmpty) = true := by
    cases placed with
    | nil => cases hplaced
    | cons p rest => rfl
  refine ⟨placed, ?_, hplaced⟩
  rw [domainSections, heq, List.filter_append, List.filter_cons_of_pos (by exact hkept),
    List.map_append, List.map_cons]
  refine ⟨_, _, rfl, fun s hs => ?_⟩
  rw [← List.map_append, ← List.filter_append] at hs
  obtain ⟨p, hp, rfl⟩ := List.mem_map.1 hs
  exact hnone p (List.mem_filter.1 hp).1

theorem domainSections_named {schema : Schema} {analysis : Analysis} {skip : List String}
    {name : String} (h : name ∈ skip ∨ name ∈ analysis.authNames ∨
      name ∉ analysis.domainNames ∨ name ∉ schema.tableNames) :
    ∀ s ∈ domainSections schema analysis skip, s.named name = [] := by
  intro s hs
  obtain ⟨p, hp, rfl⟩ := List.mem_map.1 hs
  refine placeDomains_named ?_ p (List.mem_filter.1 hp).1
  rcases h with h | h | h | h
  · exact .inl (List.mem_append_left _ h)
  · exact .inl (List.mem_append_right _ h)
  · refine .inr (.inl fun d hd => ?_)
    exact Bool.eq_false_iff.2 fun hm => h (mem_domainNames_iff.2 ⟨d, hd, hm⟩)
  · exact .inr (.inr (Schema.table?_eq_none_iff.2 h))

/-! ## The others -/

/-- The tables that the analysis does not mention and that are not left out. -/
def remaining (schema : Schema) (analysis : Analysis) (skip : List String) : List Table :=
  schema.tables.filter fun t =>
    !analysis.authNames.contains t.name && !analysis.domainNames.contains t.name
      && !skip.contains t.name

theorem otherSections_eq (schema : Schema) (analysis : Analysis) (skip : List String) :
    otherSections schema analysis skip =
      if (remaining schema analysis skip).isEmpty then []
      else [.others (remaining schema analysis skip)] := rfl

theorem mem_remaining {schema : Schema} {analysis : Analysis} {skip : List String}
    {table : Table} :
    table ∈ remaining schema analysis skip ↔ table ∈ schema.tables ∧
      table.name ∉ analysis.authNames ∧ table.name ∉ analysis.domainNames ∧
      table.name ∉ skip := by
  simp [remaining, and_assoc]

/-- What the last section has under a name that the analysis does not mention. -/
theorem otherSections_onlyIn {schema : Schema} {analysis : Analysis} {skip : List String}
    {name : String} (hname : name ∈ schema.tableNames) (hauth : name ∉ analysis.authNames)
    (hdomain : name ∉ analysis.domainNames) (hskip : name ∉ skip) :
    ∃ tables, OnlyIn name (.others tables) (otherSections schema analysis skip) ∧
      (others tables).named name = schema.tables.filter (·.name == name) := by
  have hnamed : (others (remaining schema analysis skip)).named name =
      schema.tables.filter (·.name == name) := by
    rw [named, Section.tables, remaining, List.filter_filter]
    refine List.filter_congr fun table _ => ?_
    by_cases h : table.name = name
    · simp [h, hauth, hdomain, hskip]
    · simp [h]
  have hne : remaining schema analysis skip ≠ [] := by
    obtain ⟨table, hmem, rfl⟩ := List.mem_map.1 hname
    exact List.ne_nil_of_mem (mem_remaining.2 ⟨hmem, hauth, hdomain, hskip⟩)
  refine ⟨_, ⟨[], [], ?_, by simp⟩, hnamed⟩
  rw [otherSections_eq, if_neg (by simpa using hne)]
  rfl

theorem otherSections_named {schema : Schema} {analysis : Analysis} {skip : List String}
    {name : String} (h : name ∈ skip ∨ name ∈ analysis.authNames ∨
      name ∈ analysis.domainNames ∨ name ∉ schema.tableNames) :
    ∀ s ∈ otherSections schema analysis skip, s.named name = [] := by
  intro s hs
  rw [otherSections_eq] at hs
  split at hs
  · cases hs
  · obtain rfl := List.mem_singleton.1 hs
    rw [named, List.filter_eq_nil_iff]
    intro table hmem hname
    obtain ⟨htable, hauth, hdomain, hskip⟩ := mem_remaining.1 hmem
    rw [beq_iff_eq] at hname
    subst hname
    rcases h with h | h | h | h
    · exact hskip h
    · exact hauth h
    · exact hdomain h
    · exact h (List.mem_map_of_mem htable)

/-! ## The arrangement -/

section Arrange

variable {schema : Schema} {analysis : Analysis} {selection : Option (List String)}
  {name : String}

theorem isPicked_iff_admits (h : name ∈ analysis.authNames) :
    isPicked selection name = true ↔ analysis.Admits selection name := by
  cases selection with
  | none => simp [isPicked, Analysis.Admits, h]
  | some selected => simp [isPicked, Analysis.Admits]

theorem mem_skipped_iff (hname : name ∈ schema.tableNames) (hauth : name ∉ analysis.authNames) :
    name ∈ skipped schema analysis selection ↔ ¬ analysis.Admits selection name := by
  cases selection with
  | none => simp [skipped, Analysis.Admits, hauth]
  | some selected => simp [skipped, Analysis.Admits, hname]

theorem mem_authNames_iff : name ∈ analysis.authNames ↔
    ∃ spec, analysis.authTables.find? (·.table == name) = some spec := by
  rw [← Option.isSome_iff_exists, List.find?_isSome]
  simp [Analysis.authNames]

/-- A table with which users sign in is in the section of its first specification;
the domains and the others leave such tables out. -/
theorem arrange_onlyIn_auth {spec : AuthSpec}
    (hfind : analysis.authTables.find? (·.table == name) = some spec)
    (hadmits : analysis.Admits selection name) :
    OnlyIn name (.auth spec (schema.table? name)) (arrange schema analysis selection) := by
  have hauth : name ∈ analysis.authNames := mem_authNames_iff.2 ⟨spec, hfind⟩
  have hin : OnlyIn name (.auth spec (schema.table? name))
      (authSections schema analysis selection) :=
    authSections_onlyIn hfind ((isPicked_iff_admits hauth).2 hadmits)
  have hmiddle : ∀ s ∈ files :: domainSections schema analysis
      (skipped schema analysis selection), s.named name = [] :=
    List.forall_mem_cons.2 ⟨rfl, domainSections_named (.inr (.inl hauth))⟩
  exact (hin.append_right hmiddle).append_right (otherSections_named (.inr (.inl hauth)))

/-- Another table is in the section of the first domain that mentions it. -/
theorem arrange_onlyIn_domain {d : Domain} (hname : name ∈ schema.tableNames)
    (hadmits : analysis.Admits selection name) (hauth : name ∉ analysis.authNames)
    (hfind : analysis.domains.find? (·.mentions name) = some d) :
    ∃ placed, OnlyIn name (.domain d placed) (arrange schema analysis selection) ∧
      (domain d placed).named name = (schema.table? name).toList := by
  obtain ⟨table, htable⟩ := schema.exists_table? hname
  have hskip : name ∉ skipped schema analysis selection :=
    fun h => (mem_skipped_iff hname hauth).1 h hadmits
  have hdomain : name ∈ analysis.domainNames := mem_domainNames_iff_find?.2 ⟨d, hfind⟩
  obtain ⟨placed, hin, hplaced⟩ := domainSections_onlyIn hfind hauth hskip htable
  have hmiddle : OnlyIn name (.domain d placed) (files :: domainSections schema analysis
      (skipped schema analysis selection)) :=
    OnlyIn.append_left (List.forall_mem_singleton.2 rfl) hin
  refine ⟨placed, ?_, by rw [hplaced, htable]; rfl⟩
  exact (hmiddle.append_left (authSections_named (.inl hauth))).append_right
    (otherSections_named (.inr (.inr (.inl hdomain))))

/-- A table that no part of the analysis mentions is with the others. -/
theorem arrange_onlyIn_others (hname : name ∈ schema.tableNames)
    (hadmits : analysis.Admits selection name) (hauth : name ∉ analysis.authNames)
    (hdomain : name ∉ analysis.domainNames) :
    ∃ tables, OnlyIn name (.others tables) (arrange schema analysis selection) ∧
      (others tables).named name = schema.tables.filter (·.name == name) := by
  have hskip : name ∉ skipped schema analysis selection :=
    fun h => (mem_skipped_iff hname hauth).1 h hadmits
  obtain ⟨tables, hin, htables⟩ := otherSections_onlyIn hname hauth hdomain hskip
  have hmiddle : ∀ s ∈ files :: domainSections schema analysis
      (skipped schema analysis selection), s.named name = [] :=
    List.forall_mem_cons.2 ⟨rfl, domainSections_named (.inr (.inr (.inl hdomain)))⟩
  have hfront : ∀ s ∈ authSections schema analysis selection, s.named name = [] :=
    authSections_named (.inl hauth)
  exact ⟨tables, OnlyIn.append_left (List.forall_mem_append.2 ⟨hfront, hmiddle⟩) hin, htables⟩

/-- The section a table belongs to, from its name alone, and the tables of the
name in it: the others have all of them, any other section the first. -/
def IsHome (schema : Schema) (analysis : Analysis) (name : String) (home : Section) : Prop :=
  match analysis.authTables.find? (·.table == name),
    analysis.domains.find? (·.mentions name) with
  | some spec, _ => home = .auth spec (schema.table? name)
  | none, some d => ∃ placed, home = .domain d placed ∧
      home.named name = (schema.table? name).toList
  | none, none => ∃ tables, home = .others tables ∧
      home.named name = schema.tables.filter (·.name == name)

/-- A table of the schema that is admitted has requests in one section, the one
it belongs to. -/
theorem arrange_of_admits (hname : name ∈ schema.tableNames)
    (hadmits : analysis.Admits selection name) :
    ∃ home, OnlyIn name home (arrange schema analysis selection) ∧
      home.IsHome schema analysis name := by
  unfold IsHome
  cases hspec : analysis.authTables.find? (·.table == name) with
  | some spec => exact ⟨_, arrange_onlyIn_auth hspec hadmits, rfl⟩
  | none =>
      have hauth : name ∉ analysis.authNames := by
        rw [mem_authNames_iff, hspec]
        simp
      cases hfind : analysis.domains.find? (·.mentions name) with
      | some d =>
          obtain ⟨placed, hin, hplaced⟩ := arrange_onlyIn_domain hname hadmits hauth hfind
          exact ⟨_, hin, placed, rfl, hplaced⟩
      | none =>
          have hdomain : name ∉ analysis.domainNames := by
            rw [mem_domainNames_iff_find?, hfind]
            simp
          obtain ⟨tables, hin, htables⟩ := arrange_onlyIn_others hname hadmits hauth hdomain
          exact ⟨_, hin, tables, rfl, htables⟩

/-- A name that the schema lacks, or that is not admitted, has requests
nowhere. -/
theorem arrange_of_not_admits
    (h : ¬ (name ∈ schema.tableNames ∧ analysis.Admits selection name)) :
    ∀ s ∈ arrange schema analysis selection, s.named name = [] := by
  by_cases hname : name ∈ schema.tableNames
  · have hnot : ¬ analysis.Admits selection name := fun hadmits => h ⟨hname, hadmits⟩
    have hfront : name ∉ analysis.authNames ∨ isPicked selection name = false := by
      by_cases hauth : name ∈ analysis.authNames
      · exact .inr (Bool.eq_false_iff.2 fun hp => hnot ((isPicked_iff_admits hauth).1 hp))
      · exact .inl hauth
    have hrest : name ∈ skipped schema analysis selection ∨ name ∈ analysis.authNames := by
      by_cases hauth : name ∈ analysis.authNames
      · exact .inr hauth
      · exact .inl ((mem_skipped_iff hname hauth).2 hnot)
    refine List.forall_mem_append.2 ⟨List.forall_mem_append.2 ⟨?_, ?_⟩, ?_⟩
    · exact authSections_named (hfront.imp_right .inl)
    · exact List.forall_mem_cons.2 ⟨rfl, domainSections_named (hrest.imp_right .inl)⟩
    · exact otherSections_named (hrest.imp_right .inl)
  · refine List.forall_mem_append.2 ⟨List.forall_mem_append.2 ⟨?_, ?_⟩, ?_⟩
    · exact authSections_named (.inr (.inr hname))
    · exact List.forall_mem_cons.2 ⟨rfl, domainSections_named (.inr (.inr (.inr hname)))⟩
    · exact otherSections_named (.inr (.inr (.inr hname)))

theorem IsHome.named_ne_nil {home : Section} (h : home.IsHome schema analysis name)
    (hname : name ∈ schema.tableNames) : home.named name ≠ [] := by
  obtain ⟨table, htable⟩ := schema.exists_table? hname
  unfold IsHome at h
  rw [htable] at h
  split at h
  · subst h
    simp [named, tables, Schema.table?_name htable]
  · obtain ⟨placed, rfl, hnamed⟩ := h
    simp [hnamed]
  · obtain ⟨tables, rfl, hnamed⟩ := h
    rw [hnamed]
    have hmem : table ∈ schema.tables.filter (·.name == name) :=
      List.mem_filter.2 ⟨List.mem_of_find?_eq_some htable, by
        simpa using Schema.table?_name htable⟩
    exact List.ne_nil_of_mem hmem

theorem IsHome.isAuth_iff {home : Section} (h : home.IsHome schema analysis name) :
    home.isAuth = true ↔ name ∈ analysis.authNames := by
  rw [mem_authNames_iff]
  unfold IsHome at h
  split at h
  · next spec _ hauth =>
      subst h
      simp [isAuth, hauth]
  · next hauth _ =>
      obtain ⟨placed, rfl, -⟩ := h
      simp [isAuth, hauth]
  · next hauth _ =>
      obtain ⟨tables, rfl, -⟩ := h
      simp [isAuth, hauth]

/-- A table has requests in some section just if the schema has it and it is
admitted. -/
theorem exists_named_iff :
    (∃ s ∈ arrange schema analysis selection, s.named name ≠ []) ↔
      name ∈ schema.tableNames ∧ analysis.Admits selection name := by
  constructor
  · rintro ⟨s, hs, hnamed⟩
    by_cases h : name ∈ schema.tableNames ∧ analysis.Admits selection name
    · exact h
    · exact absurd (arrange_of_not_admits h s hs) hnamed
  · rintro ⟨hname, hadmits⟩
    obtain ⟨home, hin, hhome⟩ := arrange_of_admits hname hadmits
    exact ⟨home, hin.mem, hhome.named_ne_nil hname⟩

/-- It has them in a sign-in section just if the analysis also names it as a table
with which users sign in. -/
theorem exists_auth_named_iff :
    (∃ s ∈ arrange schema analysis selection, s.isAuth = true ∧ s.named name ≠ []) ↔
      name ∈ schema.tableNames ∧ analysis.Admits selection name ∧
        name ∈ analysis.authNames := by
  constructor
  · rintro ⟨s, hs, hauth, hnamed⟩
    obtain ⟨hname, hadmits⟩ := exists_named_iff.1 ⟨s, hs, hnamed⟩
    obtain ⟨home, hin, hhome⟩ := arrange_of_admits hname hadmits
    obtain rfl := hin.eq_of_mem hs hnamed
    exact ⟨hname, hadmits, hhome.isAuth_iff.1 hauth⟩
  · rintro ⟨hname, hadmits, hauth⟩
    obtain ⟨home, hin, hhome⟩ := arrange_of_admits hname hadmits
    exact ⟨home, hin.mem, hhome.isAuth_iff.2 hauth, hhome.named_ne_nil hname⟩

/-- Of a selection only the members count, not their order or how often they are
listed. -/
theorem arrange_congr {selected selected' : List String}
    (h : ∀ name, name ∈ selected ↔ name ∈ selected') :
    arrange schema analysis (some selected) = arrange schema analysis (some selected') := by
  have hcontains : ∀ name, selected.contains name = selected'.contains name := by
    intro name
    rw [Bool.eq_iff_iff, List.contains_iff_mem, List.contains_iff_mem, h]
  have hskipped : skipped schema analysis (some selected) =
      skipped schema analysis (some selected') := by
    simp only [skipped, hcontains]
  have hauth : authSections schema analysis (some selected) =
      authSections schema analysis (some selected') := by
    simp only [authSections, isPicked, Option.all_some, hcontains]
  rw [arrange, arrange, hskipped, hauth]

end Arrange

end Section

namespace Target

theorem organized_congr (t : Target) (schema : Schema) (analysis : Analysis)
    {selected selected' : List String} (h : ∀ name, name ∈ selected ↔ name ∈ selected') :
    t.organized schema analysis (some selected) =
      t.organized schema analysis (some selected') := by
  rw [organized, organized, Section.arrange_congr h]

theorem tableGroups_sectionFolder_ne_nil {t : Target} {s : Section} {name : String} :
    (t.sectionFolder s).tableGroups t.base name ≠ [] ↔ s.named name ≠ [] := by
  rw [tableGroups_sectionFolder, ne_eq, List.map_eq_nil_iff]

/-- The tables with requests in the organized collection. -/
theorem exists_tableGroups_organized_iff {t : Target} {schema : Schema} {analysis : Analysis}
    {selection : Option (List String)} {name : String} :
    (∃ f ∈ (t.organized schema analysis selection).folders, f.tableGroups t.base name ≠ []) ↔
      name ∈ schema.tableNames ∧ analysis.Admits selection name := by
  rw [← Section.exists_named_iff]
  constructor
  · rintro ⟨f, hf, hgroups⟩
    obtain ⟨s, hs, rfl⟩ := List.mem_map.1 hf
    exact ⟨s, hs, tableGroups_sectionFolder_ne_nil.1 hgroups⟩
  · rintro ⟨s, hs, hnamed⟩
    exact ⟨_, List.mem_map_of_mem hs, tableGroups_sectionFolder_ne_nil.2 hnamed⟩

/-- The tables with requests in a folder with which users sign in. -/
theorem exists_signIn_tableGroups_organized_iff {t : Target} {schema : Schema}
    {analysis : Analysis} {selection : Option (List String)} {name : String} :
    (∃ f ∈ (t.organized schema analysis selection).folders,
      f.isSignIn t.base = true ∧ f.tableGroups t.base name ≠ []) ↔
      name ∈ schema.tableNames ∧ analysis.Admits selection name ∧
        name ∈ analysis.authNames := by
  rw [← Section.exists_auth_named_iff]
  constructor
  · rintro ⟨f, hf, hsignIn, hgroups⟩
    obtain ⟨s, hs, rfl⟩ := List.mem_map.1 hf
    rw [isSignIn_sectionFolder] at hsignIn
    exact ⟨s, hs, hsignIn, tableGroups_sectionFolder_ne_nil.1 hgroups⟩
  · rintro ⟨s, hs, hauth, hnamed⟩
    refine ⟨_, List.mem_map_of_mem hs, ?_, tableGroups_sectionFolder_ne_nil.2 hnamed⟩
    rw [isSignIn_sectionFolder, hauth]

/-- Where the organized collection has the requests of a table. When the schema
has the table and it is admitted, one folder has them and no other folder has
any: the folder of the first sign-in specification of its name, else that of the
first domain that mentions it, else that of the others. The others have a group
for every table of the name, the other two one group, of the first. When the
schema lacks the table or it is not admitted, no folder has a request about
it. -/
theorem organized_tableGroups (t : Target) (schema : Schema) (analysis : Analysis)
    (selection : Option (List String)) (name : String) :
    (name ∈ schema.tableNames → analysis.Admits selection name →
      ∃ before home after,
        Section.arrange schema analysis selection = before ++ home :: after ∧
        (t.organized schema analysis selection).folders =
          before.map t.sectionFolder ++ t.sectionFolder home :: after.map t.sectionFolder ∧
        (∀ s ∈ before ++ after, (t.sectionFolder s).tableGroups t.base name = []) ∧
        match analysis.authTables.find? (·.table == name),
          analysis.domains.find? (·.mentions name) with
        | some spec, _ => ∃ table, schema.table? name = some table ∧
            home = .auth spec (some table) ∧
            (t.sectionFolder home).tableGroups t.base name = [t.tableRequests table]
        | none, some d => ∃ table placed, schema.table? name = some table ∧
            home = .domain d placed ∧
            (t.sectionFolder home).tableGroups t.base name = [t.tableRequests table]
        | none, none => ∃ tables, home = .others tables ∧
            (t.sectionFolder home).tableGroups t.base name =
              (schema.tables.filter (·.name == name)).map t.tableRequests) ∧
    (¬ (name ∈ schema.tableNames ∧ analysis.Admits selection name) →
      ∀ f ∈ (t.organized schema analysis selection).folders,
        f.tableGroups t.base name = []) := by
  constructor
  · intro hname hadmits
    obtain ⟨home, ⟨before, after, harrange, hnone⟩, hhome⟩ :=
      Section.arrange_of_admits hname hadmits
    obtain ⟨table, htable⟩ := schema.exists_table? hname
    refine ⟨before, home, after, harrange, by simp [organized, harrange], ?_, ?_⟩
    · intro s hs
      rw [tableGroups_sectionFolder, hnone s hs]
      rfl
    · unfold Section.IsHome at hhome
      rw [htable] at hhome
      split at hhome
      · next spec _ _ _ =>
          subst hhome
          refine ⟨table, htable, rfl, ?_⟩
          rw [tableGroups_sectionFolder]
          simp [Section.named, Section.tables, Schema.table?_name htable]
      · next d _ _ =>
          obtain ⟨placed, rfl, hnamed⟩ := hhome
          refine ⟨table, placed, htable, rfl, ?_⟩
          rw [tableGroups_sectionFolder, hnamed]
          rfl
      · obtain ⟨tables, rfl, hnamed⟩ := hhome
        exact ⟨tables, rfl, by rw [tableGroups_sectionFolder, hnamed]⟩
  · intro hnot f hf
    obtain ⟨s, hs, rfl⟩ := List.mem_map.1 hf
    rw [tableGroups_sectionFolder, Section.arrange_of_not_admits hnot s hs]
    rfl

/-- A schema that declares `orders` twice, and an analysis that names it in two
domains besides a table that no schema has: the first domain has the first of the
two, and no folder else has any. -/
theorem organized_tableGroups_repeated :
    let schema : Schema :=
      ⟨[⟨"users", []⟩, ⟨"orders", []⟩, ⟨"logs", []⟩, ⟨"orders", [⟨"id", "UUID"⟩]⟩], []⟩
    let shop : Domain :=
      { name := "Shop", tables := [{ name := "ghost" }, { name := "orders" }, { name := "users" }] }
    let sales : Domain := { name := "Sales", tables := [{ name := "orders" }, { name := "logs" }] }
    let analysis : Analysis :=
      { domains := [shop, sales]
        authTables := [{ table := "ghost" }, { table := "users" }, { table := "users" }]
        skipTables := ["users", "logs"] }
    let t : Target := default
    "orders" ∈ schema.tableNames ∧ analysis.Admits none "orders" ∧
      ∃ before placed after,
        Section.arrange schema analysis none = before ++ .domain shop placed :: after ∧
        (∀ s ∈ before ++ after, (t.sectionFolder s).tableGroups t.base "orders" = []) ∧
        (t.sectionFolder (.domain shop placed)).tableGroups t.base "orders" =
          [t.tableRequests ⟨"orders", []⟩] := by
  intro schema shop sales analysis t
  have hname : "orders" ∈ schema.tableNames := by decide
  have hadmits : analysis.Admits none "orders" := .inr (by decide)
  obtain ⟨before, home, after, harrange, -, hnone, table, placed, htable, rfl, hgroups⟩ :=
    (organized_tableGroups t schema analysis none "orders").1 hname hadmits
  obtain rfl : ⟨"orders", []⟩ = table := Option.some.inj htable
  exact ⟨hname, hadmits, before, placed, after, harrange, hnone, hgroups⟩

end Target

end RequestAtlas

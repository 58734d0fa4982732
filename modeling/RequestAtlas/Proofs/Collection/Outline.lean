import Mathlib.Data.List.Basic
import RequestAtlas.Proofs.Collection.Deselection

/-!
# The organized collection, folder by folder

The arrangement is made by walking three lists with the names in hand that have their
place already. What comes out can be said without them. The sign-in folders are those of
the first specification of every selected name. A domain has the tables of the names that
it mentions and that no domain before it does, in the order of the domain; a domain that
is left with none has no folder. The others are what the analysis does not mention, in the
order of the schema.

`arrange_eq` is that description, and `organized_folders` writes it as folders. The walk
over the sign-in specifications and the walk over the mentions in a domain keep, of every
name, the first item: `firstsBy` says this once, and `firstSpecs_eq` and `placeNotes_eq`
are the two in its terms. For the domains the induction carries what the names in hand are
good for, namely that they are free just if no domain so far mentions them
(`placeDomains_eq`).

The star of a table is that of the mention that placed it. As the first mention in all the
domains is the one that does, the star is a matter of the name alone (`Analysis.stars`).
-/

namespace RequestAtlas

namespace Analysis

instance (a : Analysis) : ∀ selection name, Decidable (a.Admits selection name)
  | some selected, name => inferInstanceAs (Decidable (name ∈ selected))
  | none, name => inferInstanceAs (Decidable (name ∈ a.authNames ∨ name ∉ a.skipTables))

/-- The first mention of a table in the domains. -/
def note? (a : Analysis) (name : String) : Option TableNote :=
  a.notes.find? (·.name == name)

/-- Whether the first mention of a table says that it is essential. -/
def stars (a : Analysis) (name : String) : Bool :=
  (a.note? name).any (·.essential)

/-- Whether a table is to have requests outside the sign-in folders. -/
def AdmitsOutside (a : Analysis) (selection : Option (List String)) (name : String) : Prop :=
  a.Admits selection name ∧ name ∉ a.authNames

instance (a : Analysis) (selection : Option (List String)) (name : String) :
    Decidable (a.AdmitsOutside selection name) :=
  inferInstanceAs (Decidable (_ ∧ _))

end Analysis

/-! ## The first of every name -/

theorem eraseDups_filter (p : String → Bool) (names : List String) :
    (names.filter p).eraseDups = names.eraseDups.filter p := by
  match names with
  | [] => rfl
  | name :: rest =>
      have hshorter : (rest.filter (!· == name)).length < rest.length + 1 :=
        Nat.lt_succ_of_le (List.length_filter_le _ _)
      have ih := eraseDups_filter p (rest.filter (!· == name))
      rw [List.filter_filter] at ih
      rw [List.eraseDups_cons]
      cases hp : p name with
      | true =>
          rw [List.filter_cons_of_pos hp, List.filter_cons_of_pos hp, List.eraseDups_cons, ← ih,
            List.filter_filter]
          simp only [Bool.and_comm]
      | false =>
          rw [List.filter_cons_of_neg (by simp [hp]), List.filter_cons_of_neg (by simp [hp]), ← ih]
          congr 1
          refine List.filter_congr fun other _ => ?_
          by_cases hother : other = name
          · simp [hother, hp]
          · simp [hother]
termination_by names.length

section Firsts

variable {α : Type} {name : α → String}

theorem name_of_find? {items : List α} {n : String} {first : α}
    (h : items.find? (name · == n) = some first) : name first = n := by
  simpa using List.find?_some h

/-- The first item of every name, in the order in which the names come first. -/
def firstsBy (name : α → String) (items : List α) : List α :=
  (items.map name).eraseDups.filterMap fun n => items.find? (name · == n)

theorem firstsBy_cons (item : α) (items : List α) :
    firstsBy name (item :: items) =
      item :: (firstsBy name items).filter (name · != name item) := by
  have hself : (item :: items).find? (name · == name item) = some item :=
    List.find?_cons_of_pos (by simp)
  rw [firstsBy, List.map_cons, List.eraseDups_cons, List.filterMap_cons, hself,
    eraseDups_filter, List.filterMap_filter, firstsBy, List.filter_filterMap]
  dsimp only
  refine congrArg _ (List.filterMap_congr fun n _ => ?_)
  by_cases hn : n = name item
  · subst hn
    cases hfind : items.find? (name · == name item) with
    | none => simp
    | some first =>
        have hfirst : name first = name item := name_of_find? hfind
        simp [hfirst, Option.filter]
  · have hskip : (item :: items).find? (name · == n) = items.find? (name · == n) :=
      List.find?_cons_of_neg (by simpa using Ne.symm hn)
    rw [hskip]
    cases hfind : items.find? (name · == n) with
    | none => simp
    | some first =>
        have hfirst : name first = n := name_of_find? hfind
        simp [hn, hfirst, Option.filter]

theorem find?_of_mem_firstsBy {items : List α} {item : α} (h : item ∈ firstsBy name items) :
    items.find? (name · == name item) = some item := by
  obtain ⟨n, -, hfind⟩ := List.mem_filterMap.1 h
  obtain rfl : name item = n := name_of_find? hfind
  exact hfind

theorem map_firstsBy (items : List α) :
    (firstsBy name items).map name = (items.map name).eraseDups := by
  have hname : ∀ n ∈ (items.map name).eraseDups,
      (items.find? (name · == n)).map name = some n := by
    intro n hn
    rw [List.mem_eraseDups] at hn
    obtain ⟨item, hitem, rfl⟩ := List.mem_map.1 hn
    cases hfind : items.find? (name · == name item) with
    | none =>
        have hnot := List.find?_eq_none.1 hfind item hitem
        simp at hnot
    | some first =>
        have hfirst : name first = name item := name_of_find? hfind
        rw [Option.map_some, hfirst]
  rw [firstsBy, List.map_filterMap, List.filterMap_congr hname]
  exact List.filterMap_some

end Firsts

namespace Section

/-! ## The two walks -/

theorem firstSpecs_eq (seen : List String) (specs : List AuthSpec) :
    firstSpecs seen specs =
      (firstsBy (·.table) specs).filter fun spec => !seen.contains spec.table := by
  induction specs generalizing seen with
  | nil => rfl
  | cons spec specs ih =>
      rw [firstsBy_cons]
      by_cases hseen : spec.table ∈ seen
      · rw [firstSpecs_of_mem specs hseen, ih, List.filter_cons_of_neg (by simpa using hseen),
          List.filter_filter]
        refine List.filter_congr fun other _ => ?_
        by_cases hother : other.table = spec.table
        · simp [hother, hseen]
        · simp [hother]
      · rw [firstSpecs_of_not_mem specs hseen, ih,
          List.filter_cons_of_pos (by simpa using hseen), List.filter_filter]
        refine congrArg _ (List.filter_congr fun other _ => ?_)
        by_cases hother : other.table = spec.table
        · simp [hother]
        · simp [hother]

theorem placeNotes_eq (schema : Schema) (taken : List String) (notes : List TableNote) :
    placeNotes schema taken notes =
      (firstsBy (·.name) notes).filterMap fun note =>
        (free? schema taken note.name).map fun table => (table, note.essential) := by
  induction notes generalizing taken with
  | nil => rfl
  | cons note notes ih =>
      rw [placeNotes_cons, firstsBy_cons]
      cases hfree : free? schema taken note.name with
      | none =>
          rw [List.filterMap_cons, hfree, Option.map_none, List.filterMap_filter]
          dsimp only
          rw [ih]
          refine List.filterMap_congr fun other _ => ?_
          by_cases hother : other.name = note.name
          · simp [hother, hfree]
          · simp [hother]
      | some table =>
          rw [List.filterMap_cons, hfree, Option.map_some, List.filterMap_filter]
          dsimp only
          rw [ih]
          refine congrArg _ (List.filterMap_congr fun other _ => ?_)
          rw [free?_append]
          by_cases hother : other.name = note.name
          · simp [hother]
          · simp [hother]

theorem mem_names_placeNotes {schema : Schema} {taken : List String} {notes : List TableNote}
    {name : String} :
    name ∈ (placeNotes schema taken notes).map (·.1.name) ↔
      notes.any (·.name == name) = true ∧ (free? schema taken name).isSome = true := by
  have hmem : name ∈ (placeNotes schema taken notes).map (·.1.name) ↔
      ((placeNotes schema taken notes).map (·.1)).filter (·.name == name) ≠ [] := by
    rw [ne_eq, List.filter_eq_nil_iff]
    simp
  rw [hmem, placeNotes_named, free?]
  by_cases htaken : name ∈ taken
  · simp [htaken]
  · cases htable : schema.table? name with
    | none => simp [htaken]
    | some table => simp [htaken]

/-- Behind a domain no name is free that it mentions: it placed the table, or the name was
not free before. -/
theorem free?_placeNotes (schema : Schema) (taken : List String) (d : Domain) (name : String) :
    free? schema ((placeNotes schema taken d.tables).map (·.1.name) ++ taken) name =
      if d.mentions name then none else free? schema taken name := by
  rw [free?_append]
  cases hmentions : d.mentions name with
  | true =>
      rw [if_pos rfl]
      by_cases hplaced : name ∈ (placeNotes schema taken d.tables).map (·.1.name)
      · rw [if_pos hplaced]
      · rw [if_neg hplaced, ← Option.not_isSome_iff_eq_none]
        intro hfree
        exact hplaced (mem_names_placeNotes.2 ⟨hmentions, hfree⟩)
  | false =>
      rw [if_neg Bool.false_ne_true, if_neg]
      intro hplaced
      rw [Domain.mentions, (mem_names_placeNotes.1 hplaced).1] at hmentions
      exact Bool.noConfusion hmentions

/-! ## Domain by domain -/

section Domains

variable {schema : Schema} {analysis : Analysis} {selection : Option (List String)}

/-- The tables of a domain with the given position: of the names that it mentions, in its
order, those that no domain before it mentions and that are to have requests. -/
def domainTables (schema : Schema) (analysis : Analysis) (selection : Option (List String))
    (d : Domain) (position : Nat) : List Table :=
  ((d.tables.map (·.name)).eraseDups.filter fun name =>
    !(analysis.domains.take position).any (·.mentions name) &&
      decide (analysis.AdmitsOutside selection name)).filterMap schema.table?

theorem free?_skipped (name : String) :
    free? schema (skipped schema analysis selection ++ analysis.authNames) name =
      if analysis.AdmitsOutside selection name then schema.table? name else none := by
  by_cases hname : name ∈ schema.tableNames
  · by_cases hauth : name ∈ analysis.authNames
    · simp [free?, Analysis.AdmitsOutside, hauth]
    · have hskip : name ∈ skipped schema analysis selection ↔ ¬ analysis.Admits selection name :=
        mem_skipped_iff hname hauth
      by_cases hadmits : analysis.Admits selection name
      · simp [free?, Analysis.AdmitsOutside, hauth, hskip, hadmits]
      · simp [free?, Analysis.AdmitsOutside, hauth, hskip, hadmits]
  · rw [free?_of_not_mem hname, Schema.table?_eq_none_iff.2 hname, ite_self]

/-- The first mention in a domain is the first in all, when no domain before mentions the
name. -/
theorem note?_of_mem_firstsBy {earlier later : List Domain} {d : Domain} {note : TableNote}
    (hdomains : analysis.domains = earlier ++ d :: later)
    (hnote : note ∈ firstsBy (·.name) d.tables)
    (hearlier : earlier.any (·.mentions note.name) = false) :
    analysis.note? note.name = some note := by
  have hnone : (earlier.flatMap (·.tables)).find? (·.name == note.name) = none := by
    rw [List.find?_eq_none]
    intro other hother hname
    obtain ⟨e, he, hin⟩ := List.mem_flatMap.1 hother
    rw [List.any_eq_false] at hearlier
    exact hearlier e he (List.any_eq_true.2 ⟨other, hin, hname⟩)
  rw [Analysis.note?, Analysis.notes, hdomains, List.flatMap_append, List.find?_append, hnone,
    Option.none_or, List.flatMap_cons, List.find?_append, find?_of_mem_firstsBy hnote,
    Option.some_or]

/-- What a domain places when the names in hand are free just if no domain before it
mentions them. -/
theorem placeNotes_of_free {earlier later : List Domain} {d : Domain} {taken : List String}
    (hdomains : analysis.domains = earlier ++ d :: later)
    (hfree : ∀ name, free? schema taken name = if earlier.any (·.mentions name) then none
      else free? schema (skipped schema analysis selection ++ analysis.authNames) name) :
    placeNotes schema taken d.tables =
      (domainTables schema analysis selection d earlier.length).map fun table =>
        (table, analysis.stars table.name) := by
  have htake : analysis.domains.take earlier.length = earlier := by
    rw [hdomains, List.take_left]
  rw [placeNotes_eq, domainTables, htake, ← map_firstsBy, List.filterMap_filter,
    List.filterMap_map, List.map_filterMap]
  refine List.filterMap_congr fun note hnote => ?_
  rw [Function.comp_apply, hfree, free?_skipped]
  cases hearlier : earlier.any (·.mentions note.name) with
  | true => simp
  | false =>
      by_cases houtside : analysis.AdmitsOutside selection note.name
      · have hstars : analysis.stars note.name = note.essential := by
          rw [Analysis.stars, note?_of_mem_firstsBy hdomains hnote hearlier, Option.any_some]
        cases htable : schema.table? note.name with
        | none => simp [houtside]
        | some table => simp [houtside, Schema.table?_name htable, hstars]
      · simp [houtside]

theorem placeDomains_eq {earlier ds : List Domain} {taken : List String}
    (hdomains : analysis.domains = earlier ++ ds)
    (hfree : ∀ name, free? schema taken name = if earlier.any (·.mentions name) then none
      else free? schema (skipped schema analysis selection ++ analysis.authNames) name) :
    placeDomains schema taken ds =
      (ds.zipIdx earlier.length).map fun (d, position) =>
        (d, (domainTables schema analysis selection d position).map fun table =>
          (table, analysis.stars table.name)) := by
  induction ds generalizing earlier taken with
  | nil => rfl
  | cons d ds ih =>
      have hsplit : analysis.domains = (earlier ++ [d]) ++ ds := by
        rw [hdomains, List.append_assoc]
        rfl
      have hbehind : ∀ name,
          free? schema ((placeNotes schema taken d.tables).map (·.1.name) ++ taken) name =
            if (earlier ++ [d]).any (·.mentions name) then none
            else free? schema (skipped schema analysis selection ++ analysis.authNames) name := by
        intro name
        rw [free?_placeNotes, hfree, List.any_append, List.any_cons, List.any_nil, Bool.or_false]
        cases hmentions : d.mentions name with
        | true => simp
        | false => simp
      have hrest := ih hsplit hbehind
      rw [List.length_append] at hrest
      rw [placeDomains, List.zipIdx_cons, List.map_cons, hrest, placeNotes_of_free hdomains hfree]
      rfl

end Domains

/-! ## The parts -/

section Parts

variable {schema : Schema} {analysis : Analysis} {selection : Option (List String)}

/-- The specifications with a sign-in folder: the first of every selected name. -/
def signInSpecs (analysis : Analysis) (selection : Option (List String)) : List AuthSpec :=
  (firstsBy (·.table) analysis.authTables).filter fun spec => isPicked selection spec.table

/-- The domains with a folder, and the tables of each. -/
def domainPlaces (schema : Schema) (analysis : Analysis) (selection : Option (List String)) :
    List (Domain × List Table) :=
  (analysis.domains.zipIdx.map fun (d, position) =>
    (d, domainTables schema analysis selection d position)).filter (!·.2.isEmpty)

/-- The tables that the analysis does not mention. -/
def otherTables (schema : Schema) (analysis : Analysis) (selection : Option (List String)) :
    List Table :=
  schema.tables.filter fun table =>
    table.name ∉ analysis.domainNames ∧ analysis.AdmitsOutside selection table.name

theorem authSections_eq :
    authSections schema analysis selection =
      (signInSpecs analysis selection).map fun spec => auth spec (schema.table? spec.table) := by
  have hall : firstSpecs [] analysis.authTables = firstsBy (·.table) analysis.authTables := by
    rw [firstSpecs_eq]
    exact List.filter_eq_self.2 fun _ _ => rfl
  rw [authSections, hall, signInSpecs]

theorem domainSections_eq :
    domainSections schema analysis (skipped schema analysis selection) =
      (domainPlaces schema analysis selection).map fun (d, tables) =>
        domain d (tables.map fun table => (table, analysis.stars table.name)) := by
  have hplaced : placeDomains schema (skipped schema analysis selection ++ analysis.authNames)
      analysis.domains = _ :=
    placeDomains_eq (List.nil_append _).symm fun name => (if_neg Bool.false_ne_true).symm
  rw [domainSections, hplaced, domainPlaces, List.filter_map, List.filter_map, List.map_map,
    List.map_map]
  congr 1
  refine List.filter_congr fun p _ => ?_
  exact congrArg _ List.isEmpty_map

theorem remaining_eq :
    remaining schema analysis (skipped schema analysis selection) =
      otherTables schema analysis selection := by
  refine List.filter_congr fun table htable => ?_
  have hname : table.name ∈ schema.tableNames := List.mem_map_of_mem htable
  by_cases hauth : table.name ∈ analysis.authNames
  · simp [Analysis.AdmitsOutside, hauth]
  · simp [Analysis.AdmitsOutside, hauth, mem_skipped_iff hname hauth]

theorem arrange_eq (schema : Schema) (analysis : Analysis) (selection : Option (List String)) :
    arrange schema analysis selection =
      (signInSpecs analysis selection).map (fun spec => auth spec (schema.table? spec.table)) ++
        files :: (domainPlaces schema analysis selection).map (fun (d, tables) =>
          domain d (tables.map fun table => (table, analysis.stars table.name))) ++
        if (otherTables schema analysis selection).isEmpty then []
        else [others (otherTables schema analysis selection)] := by
  rw [arrange, authSections_eq, domainSections_eq, otherSections_eq, remaining_eq]

/-! ## What the parts are -/

theorem map_signInSpecs :
    (signInSpecs analysis selection).map (·.table) =
      analysis.authNames.eraseDups.filter (isPicked selection) := by
  rw [signInSpecs, Analysis.authNames, ← map_firstsBy, List.filter_map]
  rfl

theorem find?_of_mem_signInSpecs {spec : AuthSpec} (h : spec ∈ signInSpecs analysis selection) :
    analysis.authTables.find? (·.table == spec.table) = some spec :=
  find?_of_mem_firstsBy (List.mem_filter.1 h).1

theorem map_domainPlaces_sublist :
    ((domainPlaces schema analysis selection).map (·.1)).Sublist analysis.domains := by
  have hall : (analysis.domains.zipIdx.map fun (d, position) =>
      (d, domainTables schema analysis selection d position)).map (·.1) = analysis.domains := by
    rw [List.map_map]
    exact List.zipIdx_map_fst 0 _
  have hkept := (List.filter_sublist (l := analysis.domains.zipIdx.map fun (d, position) =>
    (d, domainTables schema analysis selection d position)) (p := (!·.2.isEmpty))).map (·.1)
  rwa [hall] at hkept

theorem map_filterMap_table?_sublist (names : List String) :
    ((names.filterMap schema.table?).map (·.name)).Sublist names := by
  induction names with
  | nil => exact List.Sublist.refl _
  | cons name names ih =>
      cases htable : schema.table? name with
      | none =>
          rw [List.filterMap_cons_none htable]
          exact ih.cons name
      | some table =>
          rw [List.filterMap_cons_some htable, List.map_cons, Schema.table?_name htable]
          exact ih.cons_cons name

theorem of_mem_domainPlaces {d : Domain} {tables : List Table}
    (h : (d, tables) ∈ domainPlaces schema analysis selection) :
    tables ≠ [] ∧ ((tables.map (·.name)).Sublist (d.tables.map (·.name)).eraseDups) ∧
      ∀ table ∈ tables, schema.table? table.name = some table ∧
        analysis.AdmitsOutside selection table.name := by
  obtain ⟨hin, hkept⟩ := List.mem_filter.1 h
  obtain ⟨⟨e, position⟩, -, heq⟩ := List.mem_map.1 hin
  obtain ⟨rfl, rfl⟩ := Prod.mk.inj heq
  refine ⟨by simpa using hkept, ?_, ?_⟩
  · exact (map_filterMap_table?_sublist _).trans List.filter_sublist
  · intro table htable
    obtain ⟨name, hname, hfound⟩ := List.mem_filterMap.1 htable
    obtain rfl := Schema.table?_name hfound
    have hpass := (List.mem_filter.1 hname).2
    simp only [Bool.and_eq_true, decide_eq_true_eq] at hpass
    exact ⟨hfound, hpass.2⟩

end Parts

end Section

namespace Target

open Section

/-- The organized collection is, in this order: a sign-in folder for every name with which
users sign in and that is selected, each made from the first specification of the name; the
files; the folders of some of the domains, in their order and none of them empty; and a folder
of the others, unless there are none.

In the folder of a domain the tables stand in the order of the domain, each under its name
with a mark in front of it: that of the first mention that all the domains have of the name.
The others stand in the order of the schema and have the other mark. -/
theorem organized_folders (t : Target) (schema : Schema) (analysis : Analysis)
    (selection : Option (List String)) :
    let specs := signInSpecs analysis selection
    let places := domainPlaces schema analysis selection
    let rest := otherTables schema analysis selection
    (t.organized schema analysis selection).folders =
        specs.map (fun spec => t.authFolder spec (schema.table? spec.table)) ++
          t.filesFolder ::
          places.map (fun (d, tables) =>
            ⟨d.icon ++ " " ++ d.name, tables.map fun table => .group
              ⟨(if analysis.stars table.name then "⭐" else "📋") ++ " " ++ table.name,
                t.tableRequests table⟩⟩) ++
          (if rest.isEmpty then [] else
            [⟨"📦 Other Tables", rest.map fun table => .group
              ⟨"📋 " ++ table.name, t.tableRequests table⟩⟩]) ∧
      specs.map (·.table) = analysis.authNames.eraseDups.filter (isPicked selection) ∧
      (∀ spec ∈ specs, analysis.authTables.find? (·.table == spec.table) = some spec) ∧
      (places.map (·.1)).Sublist analysis.domains ∧
      (∀ p ∈ places, p.2 ≠ [] ∧
        (p.2.map (·.name)).Sublist (p.1.tables.map (·.name)).eraseDups ∧
        ∀ table ∈ p.2, schema.table? table.name = some table) ∧
      rest.Sublist schema.tables := by
  intro specs places rest
  refine ⟨?_, map_signInSpecs, fun spec hspec => find?_of_mem_signInSpecs hspec,
    map_domainPlaces_sublist, ?_, List.filter_sublist⟩
  · rw [organized, arrange_eq]
    simp only [List.map_append, List.map_cons, List.map_map]
    congr 2
    · congr 1
      refine List.map_congr_left fun p _ => ?_
      simp only [Function.comp_apply, sectionFolder, List.map_map]
      rfl
    · split
      · rfl
      · rfl
  · rintro ⟨d, tables⟩ hp
    obtain ⟨hne, hsub, hall⟩ := of_mem_domainPlaces hp
    exact ⟨hne, hsub, fun table htable => (hall table htable).1⟩

/-- A table that no schema has, and second mentions, inside a domain and behind it: they place
nothing, and the domain that has nothing else has no folder. -/
example :
    let orders : Table := ⟨"orders", []⟩
    let schema : Schema := ⟨[⟨"users", []⟩, orders, ⟨"logs", []⟩], []⟩
    let shop : Domain :=
      { name := "Shop"
        tables := [{ name := "ghost" }, { name := "orders" },
          { name := "orders", essential := true }] }
    let sales : Domain :=
      { name := "Sales", tables := [{ name := "orders", essential := true }, { name := "users" }] }
    let analysis : Analysis := { domains := [shop, sales], authTables := [{ table := "users" }] }
    domainPlaces schema analysis none = [(shop, [orders])] ∧
      analysis.stars "orders" = false ∧ otherTables schema analysis none = [⟨"logs", []⟩] := by
  decide +kernel

end Target

end RequestAtlas

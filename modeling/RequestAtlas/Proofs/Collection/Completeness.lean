import Mathlib.Data.List.Perm.Basic
import RequestAtlas.Proofs.Collection.Placement
import RequestAtlas.Schema.Reader

/-!
# Which requests the organized collection has

The standard collection has a group of nine requests for every table of the
schema. The organized collection arranges the tables by an analysis, and this
file says when it still has a group for each of them, if every table is selected.

It has none twice (`placed_subperm`). What it can lack are tables that share their
name with an earlier one. The arrangement goes by names: a name that the analysis
covers, for a sign-in table or in a domain, is looked up in the schema, and the
lookup finds the first table. The others are walked table by table, so a repeated
name that the analysis does not cover loses nothing. Hence the groups are the
same, up to their order, just if no covered name is repeated
(`organized_tableGroups_perm_iff`).

The comparison is made on the tables first, name by name: `placed_named` is the
placement law read as what the arrangement has under a name. Groups of requests
are compared by the tables that they are about.
-/

namespace RequestAtlas

/-- The groups of tables in a collection, in the order of its folders. -/
def Collection.tableGroups (base : BaseUrl) (c : Collection) : List (List Request) :=
  c.folders.flatMap (Folder.groupsWhere base Option.isSome)

/-- Whether an analysis gives a table a place: among the tables with which users
sign in, or in a domain. -/
def Analysis.Covers (a : Analysis) (name : String) : Prop :=
  name ∈ a.authNames ∨ name ∈ a.domainNames

instance (a : Analysis) (name : String) : Decidable (a.Covers name) :=
  inferInstanceAs (Decidable (_ ∨ _))

/-! ## Tables by name -/

/-- Two lists of tables with the same tables under every name are the same up to
their order. -/
theorem Table.perm_of_named {xs ys : List Table}
    (h : ∀ name, xs.filter (·.name == name) = ys.filter (·.name == name)) : xs.Perm ys := by
  rw [List.perm_iff_count]
  intro table
  have hcount := congrArg (List.count table) (h table.name)
  rwa [List.count_filter (by simp), List.count_filter (by simp)] at hcount

/-- If under every name a list has some of the tables of another list, it has some
of its tables. -/
theorem Table.subperm_of_named {xs ys : List Table}
    (h : ∀ name, (xs.filter (·.name == name)).Sublist (ys.filter (·.name == name))) :
    xs.Subperm ys := by
  rw [List.subperm_ext_iff]
  intro table _
  have hcount := (h table.name).count_le table
  rwa [List.count_filter (by simp), List.count_filter (by simp)] at hcount

namespace Schema

theorem length_named (s : Schema) (name : String) :
    (s.tables.filter (·.name == name)).length = s.tableNames.count name := by
  rw [tableNames, List.count, List.countP_map, List.countP_eq_length_filter]
  rfl

/-- The first table of a name is the first of all tables of the name. -/
theorem table?_eq_head? (s : Schema) (name : String) :
    s.table? name = (s.tables.filter (·.name == name)).head? := by
  rw [table?, List.head?_filter]

theorem toList_table?_sublist (s : Schema) (name : String) :
    (s.table? name).toList.Sublist (s.tables.filter (·.name == name)) := by
  rw [table?_eq_head?]
  cases s.tables.filter (·.name == name) with
  | nil => exact List.nil_sublist _
  | cons table rest => exact List.Sublist.cons_cons _ (List.nil_sublist _)

theorem toList_table?_of_count {s : Schema} {name : String} (h : s.tableNames.count name ≤ 1) :
    (s.table? name).toList = s.tables.filter (·.name == name) := by
  rw [← length_named] at h
  rw [table?_eq_head?]
  generalize s.tables.filter (·.name == name) = tables at h
  match tables with
  | [] => rfl
  | [_] => rfl
  | _ :: _ :: _ => simp at h

theorem named_eq_nil {s : Schema} {name : String} (h : name ∉ s.tableNames) :
    s.tables.filter (·.name == name) = [] := by
  rw [List.filter_eq_nil_iff]
  intro table htable hname
  exact h (List.mem_map.2 ⟨table, htable, by simpa using hname⟩)

end Schema

namespace Section

/-! ## What an arrangement places -/

/-- The tables that an arrangement has requests for, section by section. -/
def placed (schema : Schema) (analysis : Analysis) (selection : Option (List String)) :
    List Table :=
  (arrange schema analysis selection).flatMap tables

theorem flatMap_named {name : String} {sections : List Section}
    (h : ∀ s ∈ sections, s.named name = []) : sections.flatMap (named name) = [] :=
  List.flatMap_eq_nil_iff.2 h

theorem OnlyIn.flatMap_named {name : String} {home : Section} {sections : List Section}
    (h : OnlyIn name home sections) : sections.flatMap (named name) = home.named name := by
  obtain ⟨before, after, rfl, hnone⟩ := h
  have hbefore : before.flatMap (named name) = [] :=
    Section.flatMap_named fun s hs => hnone s (List.mem_append_left _ hs)
  have hafter : after.flatMap (named name) = [] :=
    Section.flatMap_named fun s hs => hnone s (List.mem_append_right _ hs)
  rw [List.flatMap_append, List.flatMap_cons, hbefore, hafter, List.nil_append, List.append_nil]

section Placed

variable {schema : Schema} {analysis : Analysis} {selection : Option (List String)}
  {name : String}

theorem placed_filter (name : String) :
    (placed schema analysis selection).filter (·.name == name) =
      (arrange schema analysis selection).flatMap (named name) := by
  rw [placed, List.filter_flatMap]
  rfl

/-- A table's home has the first table of its name when the analysis covers the
name, and all of them when it does not. -/
theorem IsHome.named_eq {home : Section} (h : home.IsHome schema analysis name) :
    home.named name = if analysis.Covers name then (schema.table? name).toList
      else schema.tables.filter (·.name == name) := by
  unfold IsHome at h
  split at h
  · next spec hspec =>
      have hcovers : analysis.Covers name := .inl (mem_authNames_iff.2 ⟨spec, hspec⟩)
      rw [if_pos hcovers, h]
      cases htable : schema.table? name with
      | none => rfl
      | some table => simp [named, tables, Schema.table?_name htable]
  · next d _ hd =>
      obtain ⟨placed, -, hnamed⟩ := h
      have hcovers : analysis.Covers name := .inr (mem_domainNames_iff_find?.2 ⟨d, hd⟩)
      rw [if_pos hcovers, hnamed]
  · next hspec hd =>
      obtain ⟨tables, -, hnamed⟩ := h
      have hcovers : ¬ analysis.Covers name := by
        rw [Analysis.Covers, mem_authNames_iff, mem_domainNames_iff_find?, hspec, hd]
        simp
      rw [if_neg hcovers, hnamed]

/-- What an arrangement has under a name that is admitted. -/
theorem placed_named (hadmits : analysis.Admits selection name) :
    (placed schema analysis selection).filter (·.name == name) =
      if analysis.Covers name then (schema.table? name).toList
      else schema.tables.filter (·.name == name) := by
  rw [placed_filter]
  by_cases hname : name ∈ schema.tableNames
  · obtain ⟨home, hin, hhome⟩ := arrange_of_admits hname hadmits
    rw [hin.flatMap_named, hhome.named_eq]
  · rw [flatMap_named (arrange_of_not_admits fun h => hname h.1),
      Schema.table?_eq_none_iff.2 hname, Schema.named_eq_nil hname]
    simp

end Placed

/-! ## With all tables selected -/

section AllSelected

variable {schema : Schema} {analysis : Analysis} {selected : List String}
  (hall : ∀ name ∈ schema.tableNames, name ∈ selected)

include hall

/-- Every name is admitted that the schema has; under any other there is no
table. -/
theorem placed_named_of_all (name : String) :
    (placed schema analysis (some selected)).filter (·.name == name) =
      if analysis.Covers name then (schema.table? name).toList
      else schema.tables.filter (·.name == name) := by
  by_cases hname : name ∈ schema.tableNames
  · exact placed_named (hall name hname)
  · rw [placed_filter, flatMap_named (arrange_of_not_admits fun h => hname h.1),
      Schema.table?_eq_none_iff.2 hname, Schema.named_eq_nil hname]
    simp

/-- No table is placed twice. -/
theorem placed_subperm : (placed schema analysis (some selected)).Subperm schema.tables := by
  refine Table.subperm_of_named fun name => ?_
  rw [placed_named_of_all hall]
  split
  · exact schema.toList_table?_sublist name
  · exact List.Sublist.refl _

theorem placed_perm (h : ∀ name, analysis.Covers name → schema.tableNames.count name ≤ 1) :
    (placed schema analysis (some selected)).Perm schema.tables := by
  refine Table.perm_of_named fun name => ?_
  rw [placed_named_of_all hall]
  split
  · next hcovers => exact Schema.toList_table?_of_count (h name hcovers)
  · rfl

theorem length_placed_named_le {name : String} (hcovers : analysis.Covers name) :
    ((placed schema analysis (some selected)).filter (·.name == name)).length ≤ 1 := by
  rw [placed_named_of_all hall, if_pos hcovers]
  cases schema.table? name <;> simp

end AllSelected

end Section

namespace Target

/-! ## Groups of requests -/

theorem tableGroups_organized (t : Target) (schema : Schema) (analysis : Analysis)
    (selection : Option (List String)) :
    (t.organized schema analysis selection).tableGroups t.base =
      (Section.placed schema analysis selection).map t.tableRequests := by
  have hsection : ∀ s : Section, (t.sectionFolder s).groupsWhere t.base Option.isSome =
      s.tables.map t.tableRequests := by
    intro s
    rw [groupsWhere_sectionFolder t s rfl]
    simp
  rw [Collection.tableGroups, organized, List.flatMap_map, Section.placed, List.map_flatMap]
  simp only [hsection]

theorem tableGroups_standard (t : Target) (schema : Schema) :
    (t.standard schema).tableGroups t.base = schema.tables.map t.tableRequests := by
  have hfiles : t.filesFolder.groupsWhere t.base Option.isSome = [] :=
    t.groupsWhere_sectionFolder .files rfl
  have hauth : (Folder.mk "🔐 Authentication" (t.authRequests.map .request)).groupsWhere
      t.base Option.isSome = [] := by
    rw [Folder.groupsWhere, Folder.runs_requests, List.map_singleton, authRequests,
      filter_signInRequests _ _ _ rfl]
    rfl
  rw [Collection.tableGroups, standard, List.flatMap_cons, List.flatMap_cons, hfiles, hauth,
    List.nil_append, List.nil_append, List.flatMap_map, List.map_eq_flatMap]
  simp only [groupsWhere_tableFolder, Option.isSome_some, if_true]

/-- The groups about one table, among the groups of some tables. -/
theorem filter_map_tableRequests (t : Target) (tables : List Table) (name : String) :
    (tables.map t.tableRequests).filter (fun g => g.any (·.table? t.base == some name)) =
      (tables.filter (·.name == name)).map t.tableRequests := by
  rw [List.filter_map]
  congr 1
  refine List.filter_congr fun table _ => ?_
  obtain ⟨r, rest, hr⟩ := List.exists_cons_of_ne_nil (t.tableRequests_ne_nil table)
  rw [Function.comp_apply, Bool.eq_iff_iff, List.any_eq_true, beq_iff_eq]
  constructor
  · rintro ⟨r, hmem, habout⟩
    rw [table?_tableRequests hmem] at habout
    simpa using habout
  · intro hname
    have hmem : r ∈ t.tableRequests table := by simp [hr]
    exact ⟨r, hmem, by rw [table?_tableRequests hmem, hname]; simp⟩

/-- When two collections have the same groups, they have the same number of them
about every table. -/
theorem length_named_of_perm {t : Target} {xs ys : List Table}
    (h : (xs.map t.tableRequests).Perm (ys.map t.tableRequests)) (name : String) :
    (xs.filter (·.name == name)).length = (ys.filter (·.name == name)).length := by
  have hlength := (h.filter fun g => g.any (·.table? t.base == some name)).length_eq
  rwa [filter_map_tableRequests, filter_map_tableRequests, List.length_map,
    List.length_map] at hlength

/-- The standard collection has the nine requests of every table as a group. With
every table selected, the organized collection has no group that is not among
these, and none more often; and it has all of them, up to their order, just if no
name that the analysis covers is the name of two tables. -/
theorem organized_tableGroups_perm_iff (t : Target) (schema : Schema) (analysis : Analysis)
    (selected : List String) (hall : ∀ name ∈ schema.tableNames, name ∈ selected) :
    (t.standard schema).tableGroups t.base = schema.tables.map t.tableRequests ∧
    ((t.organized schema analysis (some selected)).tableGroups t.base).Subperm
      ((t.standard schema).tableGroups t.base) ∧
    (((t.organized schema analysis (some selected)).tableGroups t.base).Perm
        ((t.standard schema).tableGroups t.base) ↔
      ∀ name, analysis.Covers name → schema.tableNames.count name ≤ 1) := by
  rw [tableGroups_organized, tableGroups_standard]
  refine ⟨rfl, ?_, ?_⟩
  · have hplaced : (Section.placed schema analysis (some selected)).Subperm schema.tables :=
      Section.placed_subperm hall
    obtain ⟨tables, hperm, hsublist⟩ := hplaced
    exact ⟨tables.map t.tableRequests, hperm.map _, hsublist.map _⟩
  · constructor
    · intro h name hcovers
      rw [← schema.length_named, ← length_named_of_perm h name]
      exact Section.length_placed_named_le hall hcovers
    · intro h
      exact (Section.placed_perm hall h).map _

/-- A schema that declares `logs` twice, for an analysis that covers the other two
tables only: every table keeps its group. -/
theorem organized_tableGroups_perm_uncovered :
    let schema : Schema :=
      ⟨[⟨"logs", []⟩, ⟨"users", []⟩, ⟨"orders", []⟩, ⟨"logs", [⟨"id", "UUID"⟩]⟩], []⟩
    let analysis : Analysis :=
      { domains := [{ name := "Sales", tables := [{ name := "orders" }, { name := "users" }] }]
        authTables := [{ table := "users" }]
        skipTables := ["logs"] }
    let selected := ["users", "orders", "logs"]
    let t : Target := default
    (∀ name ∈ schema.tableNames, name ∈ selected) ∧
      ((t.organized schema analysis (some selected)).tableGroups t.base).Perm
        ((t.standard schema).tableGroups t.base) := by
  intro schema analysis selected t
  have hall : ∀ name ∈ schema.tableNames, name ∈ selected := by decide
  have honce : ∀ name, analysis.Covers name → schema.tableNames.count name ≤ 1 := by
    have hbounded : ∀ name ∈ analysis.authNames ++ analysis.domainNames,
        schema.tableNames.count name ≤ 1 := by decide
    intro name hcovers
    exact hbounded name (List.mem_append.2 hcovers)
  exact ⟨hall, (organized_tableGroups_perm_iff t schema analysis selected hall).2.2.2 honce⟩

/-- A text that declares `orders` twice, for an analysis with `orders` in a domain:
although every name is selected, the second table has no group. -/
theorem organized_drops_repeated_table :
    let text := "Table orders {
  id UUID
}
Table orders {
  id UUID
  total FLOAT
}"
    let analysis : Analysis :=
      { domains := [{ name := "Sales", tables := [{ name := "orders" }] }] }
    let t : Target :=
      { base := ⟨"https://api.admin.u-code.io", some "https", ["api", "admin", "u-code", "io"],
          none, []⟩
        projectId := ""
        environmentId := ""
        apiKey := ""
        now := default }
    (∀ name ∈ (Schema.read text).tableNames, name ∈ ["orders"]) ∧
      ¬ ((t.organized (Schema.read text) analysis (some ["orders"])).tableGroups t.base).Perm
        ((t.standard (Schema.read text)).tableGroups t.base) := by
  intro text analysis t
  have hread : Schema.read text =
      ⟨[⟨"orders", [⟨"id", "UUID"⟩]⟩, ⟨"orders", [⟨"id", "UUID"⟩, ⟨"total", "FLOAT"⟩]⟩], []⟩ := by
    decide +kernel
  rw [hread]
  refine ⟨by decide, fun hperm => ?_⟩
  rw [tableGroups_organized, tableGroups_standard] at hperm
  have hlength := hperm.length_eq
  rw [List.length_map, List.length_map] at hlength
  revert hlength
  decide

end Target

end RequestAtlas

import RequestAtlas.Proofs.Collection.Outline
import RequestAtlas.Proofs.Import.Coherence
import RequestAtlas.Proofs.Import.Preview

/-!
# The badge of a row and the star of its table

The rows of a preview say of a table that it is essential, and so does the star in front of
its group in the collection. They are not the same. A row has the badge if any mention of
the table in the domains is essential (`organizedRow`); a group has the star if the first
mention is (`Analysis.stars`), since that one places the table. So a star is always seen as
a badge before, and a badge turns into a star except where an essential mention comes behind
one that is not.

`badge_eq_star_iff` says so for every preview of an analyzed text and every group of its
collection. It rests on `groups_organized`, which reads off the sections what a group in the
collection can be: the requests of a table outside the sign-in folders, under the mark of
its name.
-/

namespace RequestAtlas

/-- Whether a group holds requests about the table of the given name. -/
def Group.isAbout (base : BaseUrl) (name : String) (g : Group) : Bool :=
  g.requests.any fun r => r.table? base == some name

/-- Whether a group has the name of a table behind the star. -/
def Group.IsStarred (name : String) (g : Group) : Prop :=
  g.name = Target.essentialMark ++ " " ++ name

/-! ## Marks -/

namespace Analysis

/-- The mark of a table's group. -/
def mark (a : Analysis) (name : String) : String :=
  if a.stars name then Target.essentialMark else Target.tableMark

theorem mem_essentialNames {a : Analysis} {name : String} :
    name ∈ a.essentialNames ↔ ∃ note ∈ a.notes, note.name = name ∧ note.essential = true := by
  rw [essentialNames, List.mem_map]
  constructor
  · rintro ⟨note, hnote, hname⟩
    obtain ⟨hin, hessential⟩ := List.mem_filter.1 hnote
    exact ⟨note, hin, hname, hessential⟩
  · rintro ⟨note, hin, hname, hessential⟩
    exact ⟨note, List.mem_filter.2 ⟨hin, hessential⟩, hname⟩

theorem mem_essentialNames_of_stars {a : Analysis} {name : String} (h : a.stars name = true) :
    name ∈ a.essentialNames := by
  rw [stars, Option.any_eq_true] at h
  obtain ⟨note, hnote, hessential⟩ := h
  have hname : note.name = name := name_of_find? hnote
  exact mem_essentialNames.2 ⟨note, List.mem_of_find?_eq_some hnote, hname, hessential⟩

theorem stars_of_not_mem_domainNames {a : Analysis} {name : String}
    (h : name ∉ a.domainNames) : a.stars name = false := by
  have hnone : a.note? name = none := by
    rw [note?, List.find?_eq_none]
    intro note hnote hname
    exact h (List.mem_map.2 ⟨note, hnote, by simpa using hname⟩)
  rw [stars, hnone, Option.any_none]

/-- A badge is a star, unless an essential mention stands behind a first one that is not. -/
theorem stars_of_mem_essentialNames_iff {a : Analysis} {name : String} :
    (name ∈ a.essentialNames → a.stars name = true) ↔
      ∀ first, a.note? name = some first → ∀ note ∈ a.notes, note.name = name →
        note.essential = true → first.essential = true := by
  constructor
  · intro h first hfirst note hnote hname hessential
    have hstars := h (mem_essentialNames.2 ⟨note, hnote, hname, hessential⟩)
    rwa [stars, hfirst, Option.any_some] at hstars
  · intro h hname
    obtain ⟨note, hnote, hnamed, hessential⟩ := mem_essentialNames.1 hname
    have hsome : (a.note? name).isSome = true := by
      rw [note?, List.find?_isSome]
      exact ⟨note, hnote, by simpa using hnamed⟩
    obtain ⟨first, hfirst⟩ := Option.isSome_iff_exists.1 hsome
    rw [stars, hfirst, Option.any_some]
    exact h first hfirst note hnote hnamed hessential

theorem mark_eq_essentialMark_iff {a : Analysis} {name : String} :
    a.mark name = Target.essentialMark ↔ a.stars name = true := by
  rw [mark]
  cases a.stars name with
  | true => simp
  | false => simp [Target.tableMark, Target.essentialMark]

end Analysis

/-! ## The groups of the organized collection -/

namespace Target

variable {t : Target} {schema : Schema} {analysis : Analysis}
  {selection : Option (List String)}

theorem isAbout_tableGroup (t : Target) (mark : String) (table : Table) (name : String) :
    (t.tableGroup mark table).isAbout t.base name = true ↔ table.name = name := by
  rw [Group.isAbout, tableGroup, List.any_eq_true]
  constructor
  · rintro ⟨r, hr, habout⟩
    rw [table?_tableRequests hr] at habout
    simpa using habout
  · intro hname
    obtain ⟨r, rest, hr⟩ := List.exists_cons_of_ne_nil (t.tableRequests_ne_nil table)
    have hmem : r ∈ t.tableRequests table := by rw [hr]; exact List.mem_cons_self
    exact ⟨r, hmem, by rw [table?_tableRequests hmem, hname]; exact beq_self_eq_true _⟩

/-- A group in the collection has the requests of a table that is to have some outside the
sign-in folders, under the mark of the table's name. -/
theorem groups_organized {f : Folder} {g : Group}
    (hf : f ∈ (t.organized schema analysis selection).folders) (hg : .group g ∈ f.entries) :
    ∃ table ∈ schema.tables, analysis.AdmitsOutside selection table.name ∧
      g = t.tableGroup (analysis.mark table.name) table := by
  obtain ⟨s, hs, rfl⟩ := List.mem_map.1 hf
  rw [Section.arrange_eq, List.append_assoc, List.mem_append, List.cons_append, List.mem_cons,
    List.mem_append] at hs
  rcases hs with hauth | rfl | hdomain | hothers
  · obtain ⟨spec, -, rfl⟩ := List.mem_map.1 hauth
    obtain ⟨r, -, hr⟩ := List.mem_map.1 hg
    cases hr
  · simp [sectionFolder, filesFolder] at hg
  · obtain ⟨⟨d, tables⟩, hplace, rfl⟩ := List.mem_map.1 hdomain
    obtain ⟨p, hp, hgroup⟩ := List.mem_map.1 hg
    obtain ⟨table, htable, rfl⟩ := List.mem_map.1 hp
    obtain ⟨hfound, houtside⟩ := (Section.of_mem_domainPlaces hplace).2.2 table htable
    exact ⟨table, List.mem_of_find?_eq_some hfound, houtside, (Entry.group.inj hgroup).symm⟩
  · split at hothers
    · cases hothers
    · obtain rfl := List.mem_singleton.1 hothers
      obtain ⟨table, htable, hgroup⟩ := List.mem_map.1 hg
      obtain ⟨hin, hnames⟩ := List.mem_filter.1 htable
      obtain ⟨hdomains, houtside⟩ := of_decide_eq_true hnames
      have hmark : analysis.mark table.name = tableMark := by
        rw [Analysis.mark, Analysis.stars_of_not_mem_domainNames hdomains]
        rfl
      exact ⟨table, hin, houtside, by rw [hmark]; exact (Entry.group.inj hgroup).symm⟩

/-- A section that is no sign-in section has a group for each of its tables. -/
theorem exists_group_sectionFolder {s : Section} {table : Table} (hauth : s.isAuth = false)
    (h : table ∈ s.tables) :
    ∃ mark, .group (t.tableGroup mark table) ∈ (t.sectionFolder s).entries := by
  cases s with
  | auth spec table => cases hauth
  | files => cases h
  | domain d tables =>
      obtain ⟨p, hp, rfl⟩ := List.mem_map.1 h
      exact ⟨_, List.mem_map.2 ⟨p, hp, rfl⟩⟩
  | others tables => exact ⟨_, List.mem_map.2 ⟨table, h, rfl⟩⟩

/-- The tables with a group are those that are to have requests outside the sign-in
folders. -/
theorem exists_group_organized_iff {name : String} :
    (∃ f ∈ (t.organized schema analysis selection).folders, ∃ g, .group g ∈ f.entries ∧
      g.isAbout t.base name = true) ↔
      name ∈ schema.tableNames ∧ analysis.AdmitsOutside selection name := by
  constructor
  · rintro ⟨f, hf, g, hg, habout⟩
    obtain ⟨table, htable, houtside, rfl⟩ := groups_organized hf hg
    obtain rfl := (t.isAbout_tableGroup _ table name).1 habout
    exact ⟨List.mem_map_of_mem htable, houtside⟩
  · rintro ⟨hname, hadmits, hauth⟩
    obtain ⟨home, hin, hhome⟩ := Section.arrange_of_admits hname hadmits
    have hother : home.isAuth = false :=
      Bool.eq_false_iff.2 fun h => hauth (hhome.isAuth_iff.1 h)
    obtain ⟨table, htable⟩ := List.exists_mem_of_ne_nil _ (hhome.named_ne_nil hname)
    obtain ⟨hmem, hnamed⟩ := List.mem_filter.1 htable
    obtain ⟨mark, hgroup⟩ := exists_group_sectionFolder (t := t) hother hmem
    refine ⟨_, List.mem_map_of_mem hin.mem, _, hgroup, ?_⟩
    exact (t.isAbout_tableGroup mark table name).2 (by simpa using hnamed)

/-- The group of a table has the star just if the first mention of the table is
essential. -/
theorem isStarred_iff {f : Folder} {g : Group} {name : String}
    (hf : f ∈ (t.organized schema analysis selection).folders) (hg : .group g ∈ f.entries)
    (habout : g.isAbout t.base name = true) :
    g.IsStarred name ↔ analysis.stars name = true := by
  obtain ⟨table, -, -, rfl⟩ := groups_organized hf hg
  obtain rfl := (t.isAbout_tableGroup _ table name).1 habout
  rw [Group.IsStarred, tableGroup, String.append_left_inj, String.append_left_inj]
  exact Analysis.mark_eq_essentialMark_iff

end Target

namespace Session

/-- The rows with a group in the collection are those that are selected and not of a sign-in
table. -/
theorem exists_group_row_iff (t : Target) {schema : Schema} (analysis : Analysis)
    {selection : Selection} (hselected : ∀ name ∈ selection.selected, name ∈ selection.names)
    (hnames : selection.names = schema.tableNames) (name : String) :
    (∃ f ∈ (t.organized schema analysis (some selection.selected)).folders, ∃ g,
      .group g ∈ f.entries ∧ g.isAbout t.base name = true) ↔
      (organizedRow analysis selection name).selected = true ∧
        (organizedRow analysis selection name).isAuth = false := by
  rw [organizedRow_selected_iff, ← Bool.not_eq_true, organizedRow_isAuth_iff,
    Target.exists_group_organized_iff]
  exact ⟨fun h => h.2, fun h => ⟨hnames ▸ hselected name h.1, h⟩⟩

/-- In the preview of an analyzed text, for every row: the row has the badge just if some
mention of its table in the domains is essential; the collection has a group of the table
just if the row is selected and not of a sign-in table; and such a group has the star just
if the first mention of the table is essential. So a star is always seen as a badge, and the
two agree just if no essential mention stands behind a first one that is not. -/
theorem badge_eq_star_iff (id : String) (config : ImportConfig) (history : History)
    (around : Surroundings) (base : BaseUrl)
    (hbase : BaseUrl.ofString? (BaseUrl.resolve around.fallbackUrl config.baseUrl) =
      some base) :
    let s := (new id config).run history
    s.state.step = "ai-preview" →
      ∃ analysis rows c, s.analysis? = some analysis ∧ s.rows = .ok rows ∧
        s.collection around = .ok c ∧
        ∀ row ∈ rows,
          (row.isEssential = true ↔
            ∃ note ∈ analysis.notes, note.name = row.name ∧ note.essential = true) ∧
          ((∃ f ∈ c.folders, ∃ g, .group g ∈ f.entries ∧ g.isAbout base row.name = true) ↔
            row.selected = true ∧ row.isAuth = false) ∧
          ∀ f ∈ c.folders, ∀ g, .group g ∈ f.entries → g.isAbout base row.name = true →
            (g.IsStarred row.name ↔
              ∃ first, analysis.note? row.name = some first ∧ first.essential = true) ∧
            (g.IsStarred row.name → row.isEssential = true) ∧
            ((row.isEssential = true ↔ g.IsStarred row.name) ↔
              ∀ first, analysis.note? row.name = some first → ∀ note ∈ analysis.notes,
                note.name = row.name → note.essential = true → first.essential = true) := by
  intro s hstep
  obtain ⟨source, analysis, model, selection, hstage, hselected, hnames, -, hrows, hcollection⟩ :=
    shown_of_aiPreview hbase hstep
  refine ⟨analysis, _, _, by rw [analysis?, hstage], hrows, hcollection, fun row hrow => ?_⟩
  obtain ⟨name, -, rfl⟩ := List.mem_map.1 hrow
  rw [organizedRow_isEssential_iff, organizedRow_name]
  refine ⟨Analysis.mem_essentialNames, exists_group_row_iff _ analysis hselected hnames name,
    fun f hf g hg habout => ?_⟩
  have hstar : g.IsStarred name ↔ analysis.stars name = true :=
    Target.isStarred_iff hf hg habout
  have hmentions : g.IsStarred name → name ∈ analysis.essentialNames :=
    fun h => Analysis.mem_essentialNames_of_stars (hstar.1 h)
  refine ⟨?_, hmentions, ?_⟩
  · refine hstar.trans ?_
    rw [Analysis.stars, Option.any_eq_true]
  · rw [← Analysis.stars_of_mem_essentialNames_iff, ← hstar]
    exact ⟨Iff.mp, fun h => ⟨h, hmentions⟩⟩

/-- Two rows with the badge, one of a table whose first mention is essential and one of a
table whose second mention is: the first has a group with the star. -/
theorem badge_eq_star_iff_mentioned :
    let config : ImportConfig := { aiEnabled := { isOn := true } }
    let text := "Table orders \x7b\n  id UUID\n\x7d\nTable items \x7b\n  id UUID\n\x7d"
    let items : TableNote := { name := "items", essential := true }
    let analysis : Analysis :=
      { domains := [{ name := "Shop", tables := [{ name := "orders" }, items] },
          { name := "Sales", tables := [{ name := "orders", essential := true }] }] }
    let around : Surroundings := ⟨"https://api.admin.u-code.io", default⟩
    let base : BaseUrl := ⟨"https://api.admin.u-code.io", some "https",
      ["api", "admin", "u-code", "io"], none, []⟩
    let s := (new "s1" config).run [(around, .load text (some fun _ => .ok ⟨analysis, "m"⟩))]
    BaseUrl.ofString? (BaseUrl.resolve around.fallbackUrl config.baseUrl) = some base ∧
      s.state.step = "ai-preview" ∧
      s.rows =
        .ok [⟨"orders", true, false, false, true⟩, ⟨"items", true, false, false, true⟩] ∧
      ∃ c, s.collection around = .ok c ∧ ∃ f ∈ c.folders, ∃ g, .group g ∈ f.entries ∧
        g.isAbout base "items" = true ∧ g.IsStarred "items" := by
  intro config text items analysis around base s
  have hbase : BaseUrl.ofString? (BaseUrl.resolve around.fallbackUrl config.baseUrl) =
      some base := by decide +kernel
  have hstep : s.state.step = "ai-preview" := by decide +kernel
  have hrows : s.rows =
      .ok [⟨"orders", true, false, false, true⟩, ⟨"items", true, false, false, true⟩] := by
    decide +kernel
  have hanalysis : s.analysis? = some analysis := by decide +kernel
  have hfirst : analysis.note? "items" = some items := by decide +kernel
  obtain ⟨shown, rows, c, hshown, hrows', hcollection, hall⟩ :=
    badge_eq_star_iff "s1" config _ around base hbase hstep
  obtain rfl : analysis = shown := Option.some.inj (hanalysis.symm.trans hshown)
  have hrow : ⟨"items", true, false, false, true⟩ ∈ rows := by
    rw [← Except.ok.inj (hrows.symm.trans hrows')]
    exact List.mem_cons_of_mem _ (List.mem_singleton_self _)
  obtain ⟨-, hgroup, hstar⟩ := hall _ hrow
  obtain ⟨f, hf, g, hg, habout⟩ := hgroup.2 ⟨rfl, rfl⟩
  exact ⟨hbase, hstep, hrows, c, hcollection, f, hf, g, hg, habout,
    (hstar f hf g hg habout).1.2 ⟨items, hfirst, rfl⟩⟩

/-- A table whose second mention is essential and whose first is not: its row has the badge,
and the group of its requests has no star. -/
theorem badge_without_star :
    let config : ImportConfig := { aiEnabled := { isOn := true } }
    let text := "Table orders \x7b\n  id UUID\n\x7d"
    let analysis : Analysis :=
      { domains := [{ name := "Shop", tables := [{ name := "orders" }] },
          { name := "Sales", tables := [{ name := "orders", essential := true }] }] }
    let around : Surroundings := ⟨"https://api.admin.u-code.io", default⟩
    let base : BaseUrl := ⟨"https://api.admin.u-code.io", some "https",
      ["api", "admin", "u-code", "io"], none, []⟩
    let s := (new "s1" config).run [(around, .load text (some fun _ => .ok ⟨analysis, "m"⟩))]
    s.state.step = "ai-preview" ∧
      ∃ row c, s.rows = .ok [row] ∧ s.collection around = .ok c ∧
        ∃ f ∈ c.folders, ∃ g, .group g ∈ f.entries ∧ g.isAbout base row.name = true ∧
          row.isEssential = true ∧ g.name = "📋 orders" ∧
          ¬ (row.isEssential = true ↔ g.IsStarred row.name) := by
  intro config text analysis around base s
  have hbase : BaseUrl.ofString? (BaseUrl.resolve around.fallbackUrl config.baseUrl) =
      some base := by decide +kernel
  have hstep : s.state.step = "ai-preview" := by decide +kernel
  have hrows : s.rows = .ok [⟨"orders", true, false, false, true⟩] := by decide +kernel
  have hanalysis : s.analysis? = some analysis := by decide +kernel
  have hstars : analysis.stars "orders" = false := by decide +kernel
  obtain ⟨source, shown, model, selection, hstage, hselected, hnames, -, hrows', hcollection⟩ :=
    shown_of_aiPreview hbase hstep
  obtain rfl : analysis = shown := by
    rw [Session.analysis?, hstage] at hanalysis
    exact (Option.some.inj hanalysis).symm
  have hvisible : selection.visible.map (organizedRow analysis selection) =
      [⟨"orders", true, false, false, true⟩] := Except.ok.inj (hrows'.symm.trans hrows)
  have hrow : ⟨"orders", true, false, false, true⟩ ∈
      selection.visible.map (organizedRow analysis selection) := by
    rw [hvisible]
    exact List.mem_singleton_self _
  obtain ⟨name, -, hmade⟩ := List.mem_map.1 hrow
  obtain rfl : name = "orders" := congrArg Row.name hmade
  obtain ⟨f, hf, g, hg, habout⟩ :=
    (exists_group_row_iff (config.targetAt base around.now) analysis hselected hnames "orders").2
      ⟨congrArg Row.selected hmade, congrArg Row.isAuth hmade⟩
  have hstar : ¬ g.IsStarred "orders" := by
    rw [Target.isStarred_iff hf hg habout, hstars]
    exact Bool.false_ne_true
  refine ⟨hstep, _, _, hrows, hcollection, f, hf, g, hg, habout, rfl, ?_, ?_⟩
  · obtain ⟨table, -, -, rfl⟩ := Target.groups_organized hf hg
    have hname : table.name = "orders" := (Target.isAbout_tableGroup _ _ table _).1 habout
    rw [Target.tableGroup, hname, Analysis.mark, hstars]
    rfl
  · intro hsame
    exact hstar (hsame.1 rfl)

end Session

end RequestAtlas

import RequestAtlas.Collection.Requests
import RequestAtlas.Proofs.Url.Form
import RequestAtlas.Schema.Reader

/-!
# The resource that the text of an address names

A client may go by the text of an address instead of its parts: it takes the path from the
text, behind the authority and up to the query or a fragment, and cuts it at the slashes. It
arrives at the path that the parts give just if no segment holds a character that ends a
segment or the path (`rawPath_url_iff`), since segments, unlike the values of a query, are
written as they are.

The requests of a table name the table in their path, and all else in it is fixed. So they
name one resource in text and in parts just if the name of the table has no such character
(`rawPath_tableRequests_iff`). A name is any word, so the reader of schemas lets such names
pass (`rawPath_question_mark`).
-/

namespace RequestAtlas

open Text

/-- What stands behind the authority in the text of an address, up to a query or fragment. -/
def Url.pathText (s : List Char) : List Char :=
  (cutAuthority (cutAt ':' s).2).2.takeWhile fun c => c != '?' && c != '#'

/-- The pieces of the path in the text of an address. -/
def Url.rawPath (u : Url) : List String :=
  (splitAt '/' (pathText u.raw.toList)).map String.ofList

/-- Whether a segment holds no character that ends a segment or the path. -/
def Url.KeepsPath (segment : List Char) : Prop :=
  '/' ∉ segment ∧ '?' ∉ segment ∧ '#' ∉ segment

instance (segment : List Char) : Decidable (Url.KeepsPath segment) :=
  inferInstanceAs (Decidable (_ ∧ _ ∧ _))

theorem Url.keepsPath_iff {segment : List Char} :
    KeepsPath segment ↔
      '/' ∉ segment ∧ ∀ c ∈ segment, (c != '?' && c != '#') = true := by
  rw [KeepsPath]
  refine and_congr_right fun _ => ⟨fun h c hc => ?_, fun h => ⟨fun hmem => ?_, fun hmem => ?_⟩⟩
  · have hquestion : c ≠ '?' := fun heq => h.1 (heq ▸ hc)
    have hfragment : c ≠ '#' := fun heq => h.2 (heq ▸ hc)
    simp [hquestion, hfragment]
  · exact absurd (h '?' hmem) (by decide)
  · exact absurd (h '#' hmem) (by decide)

namespace BaseUrl

theorem head?_queryText (query : List Parameter) :
    ∀ c ∈ (queryText query).head?, (c != '?' && c != '#') = false := by
  rw [queryText]
  split
  · simp
  · rintro c ⟨⟩
    decide

namespace Form

variable {f : Form} {path : List String} {query : List Parameter}

theorem IsPlain.pathText_raw (h : f.IsPlain) (hpath : path ≠ []) :
    Url.pathText (f.base.url path query).raw.toList =
      '/' :: (join ['/'] (f.segments ++ path.map String.toList) ++ queryText query).takeWhile
        fun c => c != '?' && c != '#' := by
  have hcolon : ':' ∉ f.scheme := fun hmem =>
    absurd (h.scheme.chars ':' hmem).1 (by decide)
  have hslash : ∀ rest : List Char, ∀ c ∈ ('/' :: rest).head?, Url.endsAuthority c = true := by
    rintro rest c ⟨⟩
    decide
  rw [f.toList_raw hpath, Url.pathText, cutAt_append_cons _ hcolon]
  dsimp only
  rw [h.cutAuthority _ (hslash _), List.takeWhile_cons_of_pos (by decide)]

theorem IsPlain.keepsPath (h : f.IsPlain) : ∀ segment ∈ f.segments, Url.KeepsPath segment := by
  intro segment hsegment
  have hplain := (h.segments segment hsegment).2
  exact ⟨fun hmem => hplain '/' hmem (by decide), fun hmem => hplain '?' hmem (by decide),
    fun hmem => hplain '#' hmem (by decide)⟩

/-- Below a plain base address the text names the path of the parts just if each segment
keeps it. -/
theorem IsPlain.rawPath_url_iff (h : f.IsPlain) (hpath : path ≠ []) :
    (f.base.url path query).rawPath = "" :: (f.base.url path query).path ↔
      ∀ segment ∈ path, Url.KeepsPath segment.toList := by
  have hpieces : f.segments ++ path.map String.toList ≠ [] := by simp [hpath]
  have hparts : "" :: (f.base.url path query).path =
      ([] :: (f.segments ++ path.map String.toList)).map String.ofList := by
    simp [url, base, Function.comp_def]
  have hinjective : Function.Injective String.ofList := fun _ _ => String.ofList_injective
  rw [Url.rawPath, hparts, (List.map_injective_iff.2 hinjective).eq_iff, h.pathText_raw hpath,
    splitAt_cons_self, List.cons.injEq, eq_self, true_and,
    splitAt_takeWhile_eq_iff (by decide) hpieces (head?_queryText query)]
  simp only [← Url.keepsPath_iff, List.forall_mem_append, List.forall_mem_map]
  exact and_iff_right h.keepsPath

end Form

end BaseUrl

/-! ## The requests of a table -/

namespace Target

theorem url_tableRequests {t : Target} {table : Table} {r : Request}
    (h : r ∈ t.tableRequests table) :
    ∃ more query, (∀ segment ∈ more, Url.KeepsPath segment.toList) ∧
      r.url = t.base.url ("v2" :: "items" :: table.name :: more) query := by
  simp only [tableRequests, List.mem_cons, List.not_mem_nil, or_false] at h
  rcases h with rfl | rfl | rfl | rfl | rfl | rfl | rfl | rfl | rfl
  case inr.inr.inl | inr.inr.inr.inr.inr.inr.inl => exact ⟨[rowVariable], _, by decide, rfl⟩
  case inr.inr.inr.inr.inr.inr.inr.inr => exact ⟨["aggregation"], _, by decide, rfl⟩
  all_goals exact ⟨[], _, by simp, rfl⟩

theorem rawPath_tableRequests {f : BaseUrl.Form} (h : f.IsPlain) {t : Target}
    (hbase : t.base = f.base) {table : Table} {r : Request} (hr : r ∈ t.tableRequests table) :
    r.url.rawPath = "" :: r.url.path ↔ Url.KeepsPath table.name.toList := by
  obtain ⟨more, query, hmore, hurl⟩ := url_tableRequests hr
  rw [hurl, hbase, h.rawPath_url_iff (by simp), List.forall_mem_cons, List.forall_mem_cons,
    List.forall_mem_cons, and_iff_right (by decide), and_iff_right (by decide),
    and_iff_left hmore]

/-- Below a plain base address a request of a table names one resource in text and in parts
just if the name of the table holds neither a slash nor a mark that ends the path. -/
theorem rawPath_tableRequests_iff {f : BaseUrl.Form} (h : f.IsPlain) (slashes : Nat) {t : Target}
    (hbase : BaseUrl.ofString? (String.ofList (f.text ++ List.replicate slashes '/')) =
      some t.base) {table : Table} {r : Request} (hr : r ∈ t.tableRequests table) :
    r.url.rawPath = "" :: r.url.path ↔
      '/' ∉ table.name.toList ∧ '?' ∉ table.name.toList ∧ '#' ∉ table.name.toList := by
  have htaken : t.base = f.base := by
    rw [h.ofString?_text] at hbase
    split at hbase
    · exact (Option.some.inj hbase).symm
    · cases hbase
  exact rawPath_tableRequests h htaken hr

/-- A name with every other sign that an address knows, below a base address with a port, a
segment and a slash at its end. -/
theorem rawPath_tableRequests_iff_signs :
    let f : BaseUrl.Form := ⟨"https".toList, "a.io".toList, some "1".toList, ["x".toList]⟩
    let t : Target := ⟨f.base, "", "", "", default⟩
    let table : Table := ⟨"%2F:@&=\x7b[;]", []⟩
    (f.IsPlain ∧
        BaseUrl.ofString? (String.ofList (f.text ++ List.replicate 1 '/')) = some t.base) ∧
      ∀ r ∈ t.tableRequests table, r.url.rawPath = "" :: r.url.path := by
  intro f t table
  have hplain : f.IsPlain := ⟨by decide, by decide, by decide, by decide⟩
  have hbase : BaseUrl.ofString? (String.ofList (f.text ++ List.replicate 1 '/')) =
      some t.base := by
    decide +kernel
  exact ⟨⟨hplain, hbase⟩, fun r hr =>
    (rawPath_tableRequests_iff hplain 1 hbase hr).2 (by decide)⟩

/-- A schema has a table with a question mark in its name, and no request of the table names
the same resource in text and in parts. -/
theorem rawPath_question_mark :
    let t : Target := ⟨⟨"https://a.io", some "https", ["a", "io"], none, []⟩, "", "", "", default⟩
    BaseUrl.ofString? "https://a.io" = some t.base ∧
      ∃ table ∈ (Schema.read "Table a?b \x7b\n  id UUID\n\x7d").tables,
        ∀ r ∈ t.tableRequests table, r.url.rawPath ≠ "" :: r.url.path := by
  intro t
  let f : BaseUrl.Form := ⟨"https".toList, "a.io".toList, none, []⟩
  have hplain : f.IsPlain := ⟨by decide, by decide, by decide, by decide⟩
  have htaken : t.base = f.base := by decide +kernel
  have htable : ⟨"a?b", [⟨"id", "UUID"⟩]⟩ ∈
      (Schema.read "Table a?b \x7b\n  id UUID\n\x7d").tables := by
    decide +kernel
  refine ⟨by decide +kernel, _, htable, fun r hr => ?_⟩
  rw [ne_eq, rawPath_tableRequests hplain htaken hr]
  decide

end Target

end RequestAtlas

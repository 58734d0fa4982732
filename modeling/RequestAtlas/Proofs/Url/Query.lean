import Mathlib.Data.List.DropRight
import RequestAtlas.Proofs.Text.Percent
import RequestAtlas.Proofs.Text.Pieces
import RequestAtlas.Url.Basic

/-!
# Queries read back from the text of an address

A client that is given the text of an address takes the query from it: what stands behind
the first question mark, cut at the ampersands, each piece cut at its first equals sign, and
the values decoded. It finds the parameters that the address was made with
(`rawQuery_url`), whatever the values are, since an encoded value has none of the characters
at which the text is cut. A value with a variable in it is not encoded, and keys never are.
-/

namespace RequestAtlas

open Text

/-- The parameter that a piece of a query is read as. -/
def Parameter.ofPiece (piece : List Char) : Parameter :=
  let (key, value) := cutAt '=' piece
  ⟨String.ofList key, String.ofList (percentDecode value)⟩

/-- The query that is read from the text of an address. -/
def Url.rawQuery (u : Url) : List Parameter :=
  (splitAt '&' (cutAt '?' u.raw.toList).2).map .ofPiece

namespace BaseUrl

theorem text_of_ofString? {text : String} {base : BaseUrl} (h : ofString? text = some base) :
    base.text = dropEndSlashes text := by
  rw [ofString?] at h
  obtain ⟨parts, -, rfl⟩ := Option.map_eq_some_iff.1 h
  rfl

theorem mem_of_mem_text {text : String} {base : BaseUrl} (h : ofString? text = some base)
    {c : Char} (hc : c ∈ base.text.toList) : c ∈ text.toList := by
  rw [text_of_ofString? h, dropEndSlashes, String.toList_ofList, dropEndWhile_eq_rdropWhile] at hc
  exact (List.rdropWhile_prefix _ _).subset hc

theorem queryValue_eq {value : String} (h : ¬ variableMark <:+: value.toList) :
    queryValue value = percentEncode isUnreserved value.toList := by
  rw [queryValue, if_neg fun hmark => h (contains_iff.1 hmark)]

theorem isEncoded_queryValue {value : String} (h : ¬ variableMark <:+: value.toList) :
    IsEncoded (queryValue value) := by
  rw [queryValue_eq h]
  exact isEncoded_percentEncode value.toList

/-- The piece that a parameter is written as. -/
def queryPiece (p : Parameter) : List Char :=
  p.key.toList ++ '=' :: queryValue p.value

theorem queryText_eq {query : List Parameter} (h : query ≠ []) :
    queryText query = '?' :: join ['&'] (query.map queryPiece) := by
  rw [queryText, if_neg (by simpa using h)]
  rfl

theorem ofPiece_queryPiece {p : Parameter} (hkey : '=' ∉ p.key.toList)
    (hvalue : ¬ variableMark <:+: p.value.toList) : .ofPiece (queryPiece p) = p := by
  rw [Parameter.ofPiece, queryPiece, cutAt_append_cons _ hkey, queryValue_eq hvalue]
  dsimp only
  rw [percentDecode_percentEncode (by decide), String.ofList_toList, String.ofList_toList]

theorem ampersand_not_mem_queryPiece {p : Parameter} (hkey : '&' ∉ p.key.toList)
    (hvalue : ¬ variableMark <:+: p.value.toList) : '&' ∉ queryPiece p := by
  have hencoded : '&' ∉ queryValue p.value :=
    (isEncoded_queryValue hvalue).not_mem (by decide) (by decide)
  simp [queryPiece, hkey, hencoded]

/-- The text in front of a query has a question mark only where a part of it has one. -/
theorem question_not_mem_text {text : String} {base : BaseUrl} (hbase : ofString? text = some base)
    (htext : '?' ∉ text.toList) {path : List String}
    (hpath : ∀ segment ∈ path, '?' ∉ segment.toList) :
    '?' ∉ base.text.toList ++ '/' :: join ['/'] (path.map String.toList) := by
  have hjoin : ∀ c ∈ join ['/'] (path.map String.toList), c ≠ '?' := by
    rw [forall_mem_join (by decide), List.forall_mem_map]
    rintro segment hsegment c hc rfl
    exact hpath segment hsegment hc
  rw [List.mem_append, List.mem_cons]
  rintro (hmem | hmem | hmem)
  · exact htext (mem_of_mem_text hbase hmem)
  · exact absurd hmem (by decide)
  · exact hjoin '?' hmem rfl

/-- The query of an address can be read from its text, where neither a part in front of the
query has a question mark nor a key one of the marks of a query. Its values are encoded. -/
theorem rawQuery_url {text : String} {base : BaseUrl} (hbase : ofString? text = some base)
    (htext : '?' ∉ text.toList) {path : List String}
    (hpath : ∀ segment ∈ path, '?' ∉ segment.toList) {query : List Parameter} (hquery : query ≠ [])
    (hkeys : ∀ p ∈ query, '&' ∉ p.key.toList ∧ '=' ∉ p.key.toList)
    (hvalues : ∀ p ∈ query, ¬ variableMark <:+: p.value.toList) :
    (base.url path query).rawQuery = query ∧ ∀ p ∈ query, IsEncoded (queryValue p.value) := by
  refine ⟨?_, fun p hp => isEncoded_queryValue (hvalues p hp)⟩
  have hcut : cutAt '?' (base.url path query).raw.toList =
      (base.text.toList ++ '/' :: join ['/'] (path.map String.toList),
        join ['&'] (query.map queryPiece)) := by
    rw [url, String.toList_ofList, queryText_eq hquery]
    exact cutAt_append_cons _ (question_not_mem_text hbase htext hpath)
  have hpieces : ∀ piece ∈ query.map queryPiece, '&' ∉ piece := by
    rw [List.forall_mem_map]
    exact fun p hp => ampersand_not_mem_queryPiece (hkeys p hp).1 (hvalues p hp)
  have hread : ∀ p ∈ query, (Parameter.ofPiece ∘ queryPiece) p = p := fun p hp =>
    ofPiece_queryPiece (hkeys p hp).2 (hvalues p hp)
  rw [Url.rawQuery, hcut, splitAt_join (by simpa using hquery) hpieces, List.map_map,
    List.map_congr_left hread, List.map_id']

/-- Values of every length of octets and with every delimiter, a parameter without key, and a
base address and a path with escapes of their own. -/
theorem rawQuery_url_delimiters :
    let base : BaseUrl := ⟨"https://h:1/%3F", some "https", ["h"], some "1", ["%3F"]⟩
    let path := ["a&b=c", "\x7b\x7bguid\x7d\x7d"]
    let query : List Parameter :=
      [⟨"q", "é€😀\x00"⟩, ⟨"", "&=?#%/+ \x7b"⟩, ⟨"q", ""⟩]
    (ofString? "https://h:1/%3F/" = some base ∧ '?' ∉ "https://h:1/%3F/".toList ∧
        (∀ segment ∈ path, '?' ∉ segment.toList) ∧ query ≠ [] ∧
        (∀ p ∈ query, '&' ∉ p.key.toList ∧ '=' ∉ p.key.toList) ∧
        ∀ p ∈ query, ¬ variableMark <:+: p.value.toList) ∧
      (base.url path query).rawQuery = query ∧
        ∀ p ∈ query, IsEncoded (queryValue p.value) := by
  intro base path query
  have hbase : ofString? "https://h:1/%3F/" = some base := by decide +kernel
  have htext : '?' ∉ "https://h:1/%3F/".toList := by decide
  have hpath : ∀ segment ∈ path, '?' ∉ segment.toList := by decide
  have hquery : query ≠ [] := by decide
  have hkeys : ∀ p ∈ query, '&' ∉ p.key.toList ∧ '=' ∉ p.key.toList := by decide
  have hvalues : ∀ p ∈ query, ¬ variableMark <:+: p.value.toList := by
    have hmarks : ∀ p ∈ query, Text.contains variableMark p.value.toList = false := by decide
    exact fun p hp hmark => by simpa [hmarks p hp] using contains_iff.2 hmark
  exact ⟨⟨hbase, htext, hpath, hquery, hkeys, hvalues⟩,
    rawQuery_url hbase htext hpath hquery hkeys hvalues⟩

end BaseUrl

end RequestAtlas

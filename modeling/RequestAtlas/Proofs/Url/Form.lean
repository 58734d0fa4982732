import RequestAtlas.Proofs.Text.Pieces
import RequestAtlas.Url.Basic

/-!
# Base addresses as they are written

A base address is written as a scheme, two slashes, a host, perhaps a port, and segments,
each behind a slash. What it is written as are the parts that it is taken for, whatever
number of slashes stands at its end (`Form.ofString?_text`): nothing in such a text can be
taken for a delimiter that was not put there. It is refused only for a character of the
authority that is a compatibility form of a delimiter, and no such character is ASCII.

The text of a request's address is made from the text of the base, and its parts from the
parts of the base, so that the two might drift apart. They do not: the parts make the text
(`url_raw_eq_rebuilt`).
-/

namespace RequestAtlas

open Text

/-- The text that the parts of an address make. -/
def Url.rebuilt (u : Url) : String :=
  let pair (p : Parameter) : String := p.key ++ "=" ++ String.ofList (BaseUrl.queryValue p.value)
  u.protocol.getD "" ++ "://" ++ ".".intercalate u.host ++ u.port.elim "" (":" ++ ·) ++ "/"
    ++ "/".intercalate u.path
    ++ if u.query.isEmpty then "" else "?" ++ "&".intercalate (u.query.map pair)

/-- No form of a delimiter is ASCII. -/
theorem Url.le_of_mem_delimiterForms {n : Nat} (h : n ∈ delimiterForms) : 0x80 ≤ n :=
  (by decide : ∀ n ∈ delimiterForms, 0x80 ≤ n) n h

namespace BaseUrl

/-- What a base address is written as. -/
structure Form where
  scheme : List Char
  host : List Char
  port : Option (List Char)
  segments : List (List Char)

namespace Form

variable {f : Form}

/-- The host with its port. -/
def authority (f : Form) : List Char :=
  f.host ++ f.port.elim [] (':' :: ·)

/-- The text of a base address. -/
def text (f : Form) : List Char :=
  f.scheme ++ ':' :: '/' :: '/' :: join ['/'] (f.authority :: f.segments)

/-- Whether a text is a scheme in lower case. -/
structure IsScheme (s : List Char) : Prop where
  letter : s.head?.any Char.isLower = true
  chars : ∀ c ∈ s, Url.isSchemeChar c = true ∧ c.isUpper = false

/-- Whether a text can be a host or a port. -/
def IsAuthorityPart (s : List Char) : Prop :=
  s ≠ [] ∧ ∀ c ∈ s, c ∉ ['/', '?', '#', '@', ':', '[', ']', '\t', '\n', '\r']

/-- Whether a text can be a segment. -/
def IsSegment (s : List Char) : Prop :=
  s ≠ [] ∧ ∀ c ∈ s, c ∉ ['/', '?', '#', '\t', '\n', '\r']

instance (s : List Char) : Decidable (IsScheme s) :=
  decidable_of_iff (s.head?.any Char.isLower = true ∧
      (s.all fun c => Url.isSchemeChar c && !c.isUpper) = true) <| by
    simp only [List.all_eq_true, Bool.and_eq_true, Bool.not_eq_true']
    exact ⟨fun h => ⟨h.1, h.2⟩, fun h => ⟨h.letter, h.chars⟩⟩

instance (s : List Char) : Decidable (IsAuthorityPart s) :=
  letI : Decidable (∀ c ∈ s, c ∉ ['/', '?', '#', '@', ':', '[', ']', '\t', '\n', '\r']) :=
    List.decidableBAll _ s
  inferInstanceAs (Decidable (_ ∧ _))

instance (s : List Char) : Decidable (IsSegment s) :=
  letI : Decidable (∀ c ∈ s, c ∉ ['/', '?', '#', '\t', '\n', '\r']) := List.decidableBAll _ s
  inferInstanceAs (Decidable (_ ∧ _))

/-- Whether no part has a character that would end it or be dropped. -/
structure IsPlain (f : Form) : Prop where
  scheme : IsScheme f.scheme
  host : IsAuthorityPart f.host
  port : ∀ port ∈ f.port, IsAuthorityPart port
  segments : ∀ segment ∈ f.segments, IsSegment segment

/-- What a base address of the form is taken for. -/
def base (f : Form) : BaseUrl where
  text := String.ofList f.text
  protocol := some (String.ofList f.scheme)
  host := (splitAt '.' f.host).map String.ofList
  port := f.port.map String.ofList
  path := f.segments.map String.ofList

/-! ## The characters of the text -/

theorem forall_mem_authority {good : Char → Prop} (hcolon : good ':')
    (hhost : ∀ c ∈ f.host, good c) (hport : ∀ port ∈ f.port, ∀ c ∈ port, good c) :
    ∀ c ∈ f.authority, good c := by
  rw [authority, List.forall_mem_append]
  refine ⟨hhost, ?_⟩
  cases hf : f.port with
  | none => simp
  | some port =>
      rw [Option.elim_some, List.forall_mem_cons]
      exact ⟨hcolon, hport port hf⟩

theorem IsPlain.forall_mem_authority (h : f.IsPlain) {good : Char → Prop} (hcolon : good ':')
    (hgood : ∀ c, c ∉ ['/', '?', '#', '@', ':', '[', ']', '\t', '\n', '\r'] → good c) :
    ∀ c ∈ f.authority, good c :=
  Form.forall_mem_authority hcolon (fun c hc => hgood c (h.host.2 c hc))
    fun port hport c hc => hgood c ((h.port port hport).2 c hc)

theorem IsPlain.not_mem_authority (h : f.IsPlain) {d : Char} (hcolon : ':' ≠ d)
    (hd : d ∈ ['/', '?', '#', '@', ':', '[', ']', '\t', '\n', '\r']) : d ∉ f.authority := by
  have hne : ∀ c ∈ f.authority, c ≠ d :=
    h.forall_mem_authority hcolon fun c hc heq => hc (heq ▸ hd)
  exact fun hmem => hne d hmem rfl

theorem IsPlain.authority_ne (h : f.IsPlain) : f.authority ≠ [] := by
  rw [authority]
  exact List.append_ne_nil_of_left_ne_nil h.host.1 _

/-- No character of the path ends the path or is dropped. -/
theorem IsPlain.forall_mem_path (h : f.IsPlain) :
    ∀ c ∈ join ['/'] ([] :: f.segments), c ∉ ['?', '#', '\t', '\n', '\r'] := by
  rw [forall_mem_join (by decide), List.forall_mem_cons]
  refine ⟨by simp, fun segment hsegment c hc hmem => ?_⟩
  exact (h.segments segment hsegment).2 c hc (List.mem_cons_of_mem '/' hmem)

theorem IsScheme.exists_cons {s : List Char} (h : IsScheme s) :
    ∃ c r, s = c :: r ∧ c.isLower = true := by
  cases s with
  | nil => exact absurd h.letter (by simp)
  | cons c r => exact ⟨c, r, rfl, by simpa using h.letter⟩

theorem toNat_of_isLower {c : Char} (h : c.isLower = true) : 97 ≤ c.toNat := by
  have hlow : decide (97 ≤ c.val) = true := (Bool.and_eq_true_iff.1 h).1
  exact of_decide_eq_true hlow

theorem IsScheme.map_toLower {s : List Char} (h : IsScheme s) : s.map Char.toLower = s := by
  have hsame : ∀ c ∈ s, c.toLower = c := by
    intro c hc
    have hupper : ¬ (c.val ≥ 'A'.val ∧ c.val ≤ 'Z'.val) := of_decide_eq_false (h.chars c hc).2
    exact dif_neg hupper
  rw [List.map_congr_left hsame, List.map_id']

/-! ## Cutting the text -/

theorem text_eq (f : Form) :
    f.text = f.scheme ++ ':' :: '/' :: '/' :: (f.authority ++ join ['/'] ([] :: f.segments)) := by
  rw [text, join_cons_eq_append]

theorem IsPlain.forall_mem_text (h : f.IsPlain) : ∀ c ∈ f.text, c ∉ ['\t', '\n', '\r'] := by
  have hscheme : ∀ c ∈ f.scheme, c ∉ ['\t', '\n', '\r'] := by
    intro c hc hmem
    have hchar := (h.scheme.chars c hc).1
    simp only [List.mem_cons, List.not_mem_nil, or_false] at hmem
    rcases hmem with rfl | rfl | rfl <;> revert hchar <;> decide
  have hauthority : ∀ c ∈ f.authority, c ∉ ['\t', '\n', '\r'] :=
    h.forall_mem_authority (by decide) fun c hc hmem =>
      hc (List.mem_append_right ['/', '?', '#', '@', ':', '[', ']'] hmem)
  have hpath : ∀ c ∈ join ['/'] ([] :: f.segments), c ∉ ['\t', '\n', '\r'] := fun c hc hmem =>
    h.forall_mem_path c hc (List.mem_append_right ['?', '#'] hmem)
  rw [text_eq, List.forall_mem_append, List.forall_mem_cons, List.forall_mem_cons,
    List.forall_mem_cons, List.forall_mem_append]
  exact ⟨hscheme, by decide, by decide, by decide, hauthority, hpath⟩

theorem IsPlain.cleaned_text (h : f.IsPlain) : Url.cleaned f.text = f.text := by
  obtain ⟨c, r, hcons, hlower⟩ := h.scheme.exists_cons
  have hbegins : ¬ c.toNat ≤ 0x20 := by
    have := toNat_of_isLower hlower
    omega
  have hdrop : (f.text.dropWhile fun c => decide (c.toNat ≤ 0x20)) = f.text := by
    rw [text, hcons, List.cons_append, List.dropWhile_cons_of_neg (by simpa using hbegins)]
  have hkept : ∀ c ∈ f.text, (!(c == '\t' || c == '\n' || c == '\r')) = true := by
    intro c hc
    simpa [not_or, and_assoc] using h.forall_mem_text c hc
  rw [Url.cleaned, hdrop, List.filter_eq_self.2 hkept]

theorem IsPlain.cutScheme_text (h : f.IsPlain) :
    Url.cutScheme f.text =
      (f.scheme, '/' :: '/' :: (f.authority ++ join ['/'] ([] :: f.segments))) := by
  obtain ⟨c, r, hcons, hlower⟩ := h.scheme.exists_cons
  have hletter : f.scheme.head?.any Char.isAlpha = true := by
    rw [hcons]
    have halpha : (c.isUpper || c.isLower) = true := by rw [hlower, Bool.or_true]
    exact halpha
  have hstop : ∀ c ∈ (':' :: '/' :: '/' ::
      (f.authority ++ join ['/'] ([] :: f.segments))).head?, Url.isSchemeChar c = false := by
    rintro c ⟨⟩
    decide
  obtain ⟨htake, hdrop⟩ := span_append (fun c hc => (h.scheme.chars c hc).1) hstop
  rw [text_eq, Url.cutScheme, htake, hdrop]
  show (if f.scheme.head?.any Char.isAlpha = true then (f.scheme.map Char.toLower, _) else _) = _
  rw [if_pos hletter, h.scheme.map_toLower]

theorem IsPlain.cutAuthority (h : f.IsPlain) (path : List Char)
    (hpath : ∀ c ∈ path.head?, Url.endsAuthority c = true) :
    Url.cutAuthority ('/' :: '/' :: (f.authority ++ path)) = (f.authority, path) := by
  have hrun : ∀ c ∈ f.authority, (!Url.endsAuthority c) = true :=
    h.forall_mem_authority (by decide) fun c hc => by
      simp only [List.mem_cons, not_or] at hc
      simp [Url.endsAuthority, hc.1, hc.2.1, hc.2.2.1]
  have hstop : ∀ c ∈ path.head?, (!Url.endsAuthority c) = false := fun c hc => by
    rw [hpath c hc]
    rfl
  obtain ⟨htake, hdrop⟩ := span_append hrun hstop
  rw [Url.cutAuthority, htake, hdrop]

theorem head?_path (f : Form) :
    ∀ c ∈ (join ['/'] ([] :: f.segments)).head?, Url.endsAuthority c = true := by
  cases f.segments with
  | nil => simp [join]
  | cons segment segments =>
      rw [join_cons [] (by simp)]
      rintro c ⟨⟩
      decide

/-- Without brackets an authority is refused for a form of a delimiter only. -/
theorem isValidAuthority_eq {authority : List Char} (hopen : '[' ∉ authority)
    (hclose : ']' ∉ authority) :
    Url.isValidAuthority authority =
      authority.all fun c => !Url.delimiterForms.contains c.toNat := by
  have hflaw : Url.bracketFlaw? authority = none := by
    simp [Url.bracketFlaw?, hopen, hclose]
  rw [Url.isValidAuthority, hflaw]
  rfl

theorem IsPlain.split?_text (h : f.IsPlain) :
    Url.split? f.text =
      if f.authority.all fun c => !Url.delimiterForms.contains c.toNat then
        some ⟨f.scheme, f.authority, join ['/'] ([] :: f.segments)⟩
      else none := by
  have hopen : '[' ∉ f.authority := h.not_mem_authority (by decide) (by decide)
  have hclose : ']' ∉ f.authority := h.not_mem_authority (by decide) (by decide)
  have hpath : (join ['/'] ([] :: f.segments)).takeWhile (fun c => c != '?' && c != '#') =
      join ['/'] ([] :: f.segments) := by
    refine List.takeWhile_eq_self_iff.2 fun c hc => ?_
    have hplain := h.forall_mem_path c hc
    simp only [List.mem_cons, not_or] at hplain
    simp [hplain.1, hplain.2.1]
  rw [Url.split?, h.cleaned_text, h.cutScheme_text]
  dsimp only
  rw [h.cutAuthority _ f.head?_path, hpath, isValidAuthority_eq hopen hclose]

/-! ## The parts -/

/-- The text of a base address ends in a part of it. -/
theorem IsPlain.text_ends (h : f.IsPlain) :
    ∃ before last, f.text = before ++ last ∧ last ≠ [] ∧ '/' ∉ last := by
  rcases List.eq_nil_or_concat f.segments with hnil | ⟨segments, last, hlast⟩
  · refine ⟨f.scheme ++ [':', '/', '/'], f.authority, ?_, h.authority_ne, ?_⟩
    · simp [text, hnil, join]
    · exact h.not_mem_authority (by decide) (by decide)
  · have hsegment := h.segments last (by simp [hlast])
    refine ⟨f.scheme ++ ':' :: '/' :: '/' :: (join ['/'] (f.authority :: segments) ++ ['/']), last,
      ?_, hsegment.1, fun hmem => hsegment.2 '/' hmem (by simp)⟩
    have hjoin : join ['/'] (f.authority :: segments ++ [last]) =
        join ['/'] (f.authority :: segments) ++ '/' :: join ['/'] [last] :=
      join_append (by simp) (by simp)
    rw [text, hlast, List.concat_eq_append, ← List.cons_append, hjoin]
    simp [join]

theorem IsPlain.dropEndSlashes_text (h : f.IsPlain) (slashes : Nat) :
    dropEndSlashes (String.ofList (f.text ++ List.replicate slashes '/')) =
      String.ofList f.text := by
  obtain ⟨before, last, htext, hne, hslash⟩ := h.text_ends
  have hlast : dropEndWhile (· == '/') f.text = f.text := by
    rw [dropEndWhile_eq_rdropWhile, List.rdropWhile_eq_self_iff, htext]
    intro hne' hend
    rw [List.getLast_append_of_ne_nil hne' hne] at hend
    exact hslash (beq_iff_eq.1 hend ▸ List.getLast_mem hne)
  have hslashes : ∀ c ∈ List.replicate slashes '/', (c == '/') = true := fun c hc =>
    beq_iff_eq.2 (List.eq_of_mem_replicate hc)
  rw [dropEndSlashes, String.toList_ofList, dropEndWhile_append_of_pos hslashes, hlast]

theorem IsPlain.cutAt_authority (h : f.IsPlain) :
    cutAt ':' (afterLast '@' f.authority) = (f.host, f.port.getD []) := by
  have hat : '@' ∉ f.authority := h.not_mem_authority (by decide) (by decide)
  have hcolon : ':' ∉ f.host := fun hmem => h.host.2 ':' hmem (by simp)
  rw [afterLast_of_not_mem hat, authority]
  cases f.port with
  | none =>
      rw [Option.elim_none, List.append_nil]
      exact cutAt_of_not_mem hcolon
  | some port => exact cutAt_append_cons port hcolon

theorem IsPlain.splitAt_path (h : f.IsPlain) :
    (splitAt '/' (join ['/'] ([] :: f.segments))).filter (!·.isEmpty) = f.segments := by
  have hslash : ∀ p ∈ [] :: f.segments, '/' ∉ p := by
    rw [List.forall_mem_cons]
    exact ⟨by simp, fun p hp hmem => (h.segments p hp).2 '/' hmem (by simp)⟩
  have hfull : f.segments.filter (!·.isEmpty) = f.segments :=
    List.filter_eq_self.2 fun p hp => by simp [(h.segments p hp).1]
  rw [splitAt_join (by simp) hslash]
  simp [hfull]

/-- A base address is taken for the parts it is written as, unless its authority has a
form of a delimiter. -/
theorem IsPlain.ofString?_text (h : f.IsPlain) (slashes : Nat) :
    ofString? (String.ofList (f.text ++ List.replicate slashes '/')) =
      if f.authority.all fun c => !Url.delimiterForms.contains c.toNat then some f.base
      else none := by
  have hscheme : nonEmpty? f.scheme = some (String.ofList f.scheme) := by
    obtain ⟨c, r, hcons, -⟩ := h.scheme.exists_cons
    simp [nonEmpty?, hcons]
  have hhost : f.host.isEmpty = false := by simp [h.host.1]
  have hport : nonEmpty? (f.port.getD []) = f.port.map String.ofList := by
    cases hf : f.port with
    | none => rfl
    | some port => simp [nonEmpty?, (h.port port hf).1]
  rw [ofString?, h.dropEndSlashes_text, String.toList_ofList, h.split?_text]
  split
  · rw [Option.map_some, h.cutAt_authority, h.splitAt_path]
    simp only [hscheme, hhost, hport, Bool.false_eq_true, if_false, base]
  · rfl

/-! ## The text of an address below it -/

theorem toList_raw (f : Form) {path : List String} (hpath : path ≠ []) (query : List Parameter) :
    (f.base.url path query).raw.toList =
      f.scheme ++ ':' :: '/' :: '/' ::
        (f.authority ++ '/' :: (join ['/'] (f.segments ++ path.map String.toList) ++
          queryText query)) := by
  have hpieces : path.map String.toList ≠ [] := by simpa using hpath
  have hjoin : join ['/'] (f.authority :: f.segments) ++ '/' :: join ['/'] (path.map String.toList) =
      f.authority ++ '/' :: join ['/'] (f.segments ++ path.map String.toList) := by
    rw [← join_append (by simp) hpieces, List.cons_append, join_cons _ (by simp [hpath])]
  calc (f.base.url path query).raw.toList
      = f.text ++ '/' :: join ['/'] (path.map String.toList) ++ queryText query := by
        simp [url, base]
    _ = f.scheme ++ ':' :: '/' :: '/' :: (join ['/'] (f.authority :: f.segments) ++
          '/' :: join ['/'] (path.map String.toList) ++ queryText query) := by simp [text]
    _ = _ := by
        rw [hjoin]
        simp

theorem toList_host (f : Form) : (".".intercalate f.base.host).toList = f.host := by
  rw [String.toList_intercalate, base, List.map_map]
  simpa [join, Function.comp_def] using join_splitAt '.' f.host

theorem toList_rebuilt (f : Form) (path : List String) (query : List Parameter) :
    (f.base.url path query).rebuilt.toList =
      f.scheme ++ ':' :: '/' :: '/' ::
        (f.authority ++ '/' :: (join ['/'] (f.segments ++ path.map String.toList) ++
          queryText query)) := by
  have hprotocol : (f.base.protocol.getD "").toList = f.scheme := by simp [base]
  have hport : (f.base.port.elim "" (":" ++ ·)).toList = f.port.elim [] (':' :: ·) := by
    cases hf : f.port <;> simp [base, hf]
  have hpath : ("/".intercalate (f.base.path ++ path)).toList =
      join ['/'] (f.segments ++ path.map String.toList) := by
    simp [String.toList_intercalate, base, join, Function.comp_def]
  have hquery : (if query.isEmpty then "" else "?" ++ "&".intercalate (query.map fun p =>
      p.key ++ "=" ++ String.ofList (queryValue p.value))).toList = queryText query := by
    cases hq : query.isEmpty with
    | true => simp [queryText, hq]
    | false =>
        rw [queryText, hq, if_neg (by simp), if_neg (by simp), String.toList_append,
          String.toList_intercalate, List.map_map]
        simp [join, Function.comp_def]
  simp only [Url.rebuilt, url, String.toList_append, hprotocol, toList_host, hport, hpath]
  simpa [authority] using hquery

end Form

/-- Below a base address of the plain form, with any number of slashes at its end, every
address exists, has the parts that were written, and is written as its parts are. -/
theorem url_raw_eq_rebuilt {f : Form} (h : f.IsPlain) (hascii : ∀ c ∈ f.authority, c.toNat < 0x80)
    (slashes : Nat) {path : List String} (hpath : path ≠ []) (query : List Parameter) :
    ∃ base, ofString? (String.ofList (f.text ++ List.replicate slashes '/')) = some base ∧
      let u := base.url path query
      u.raw = u.rebuilt ∧ u.protocol = some (String.ofList f.scheme) ∧
        ".".intercalate u.host = String.ofList f.host ∧ u.port = f.port.map String.ofList ∧
        u.path = f.segments.map String.ofList ++ path ∧ u.query = query := by
  have haccepted : (f.authority.all fun c => !Url.delimiterForms.contains c.toNat) = true := by
    rw [List.all_eq_true]
    intro c hc
    have hform : c.toNat ∉ Url.delimiterForms := fun hmem =>
      Nat.not_lt.2 (Url.le_of_mem_delimiterForms hmem) (hascii c hc)
    simpa using hform
  refine ⟨f.base, by rw [h.ofString?_text, if_pos haccepted], ?_, rfl, ?_, rfl, rfl, rfl⟩
  · rw [← String.toList_inj, f.toList_raw hpath, f.toList_rebuilt]
  · rw [← String.toList_inj, String.toList_ofList]
    exact f.toList_host

/-- A scheme with signs, a host with an empty label and an escaped bracket, segments that look
like a host, a query and a user, two slashes at the end, and a path with a slash of its own. -/
theorem url_raw_eq_rebuilt_signs :
    let f : Form :=
      ⟨"git+ssh-2.0".toList, "a..%5B".toList, some "http".toList, ["x:y@z".toList, "[é]".toList]⟩
    let path := ["v2", "i/t?"]
    let query : List Parameter := [⟨"a=b", "\x7b\x7b"⟩, ⟨"", "é&"⟩]
    (f.IsPlain ∧ (∀ c ∈ f.authority, c.toNat < 0x80) ∧ path ≠ []) ∧
      ∃ base, ofString? (String.ofList (f.text ++ List.replicate 2 '/')) = some base ∧
        let u := base.url path query
        u.raw = u.rebuilt ∧ u.protocol = some (String.ofList f.scheme) ∧
          ".".intercalate u.host = String.ofList f.host ∧ u.port = f.port.map String.ofList ∧
          u.path = f.segments.map String.ofList ++ path ∧ u.query = query := by
  intro f path query
  have hplain : f.IsPlain := ⟨by decide, by decide, by decide, by decide⟩
  have hall : (f.authority.all fun c => c.toNat < 0x80) = true := by decide
  have hascii : ∀ c ∈ f.authority, c.toNat < 0x80 := fun c hc =>
    of_decide_eq_true (List.all_eq_true.1 hall c hc)
  have hpath : path ≠ [] := by decide
  exact ⟨⟨hplain, hascii, hpath⟩, url_raw_eq_rebuilt hplain hascii 2 hpath query⟩

end BaseUrl

end RequestAtlas

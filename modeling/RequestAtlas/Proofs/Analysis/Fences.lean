import RequestAtlas.Analysis.Reply
import RequestAtlas.Proofs.Json.Trimmed

/-!
# An answer in a fenced block

A model may put its answer in a fenced block, with chatter in front of it and behind it. The
reply is no JSON then, so the block is looked for and its content read, and what comes out is
what the bare answer would have given, be it an analysis or an error
(`Analysis.ofReply_eq_of_fences`).

Two things have to meet. The search goes by the first fence, so a fence must not begin
earlier than where it was put: not in a backtick that stands in front of it, nor, for a block
marked as JSON, inside the chatter. And the content of a block is trimmed, which the bare
answer is not, unless it is malformed; so both are read as the trimmed answer is.
-/

namespace RequestAtlas

open Text

namespace Reply

/-- What may stand behind the content of a block: nothing, or the closing fence and more. -/
inductive Ending : List Char → Prop
  | unclosed : Ending []
  | closed (more : List Char) : Ending (fence ++ more)

/-- Whether a reply holds a text in its first fenced block, which is marked as JSON if any block
is. -/
inductive Fences (t : List Char) : List Char → Prop
  | marked {before rest : List Char} (first : ¬ jsonFence <:+: before) (ending : Ending rest) :
      Fences t (before ++ (jsonFence ++ (t ++ rest)))
  | plain {before rest : List Char} (first : ¬ fence <:+: before)
      (apart : before.getLast? ≠ some '\x60') (ending : Ending rest)
      (unmarked : ¬ jsonFence <:+: before ++ (fence ++ (t ++ rest))) :
      Fences t (before ++ (fence ++ (t ++ rest)))

/-! ## The block that is found -/

variable {s t rest : List Char}

theorem fence_isInfix_jsonFence : fence <:+: jsonFence :=
  List.IsPrefix.isInfix ⟨"json".toList, rfl⟩

theorem getLast?_not_mem_fence (h : t.getLast? ≠ some '\x60') : ∀ c ∈ t.getLast?, c ∉ fence := by
  rintro c hc hmem
  obtain rfl : c = '\x60' := by simpa [fence] using hmem
  exact h hc

theorem beforeFence_append (ht : ¬ fence <:+: t) (hend : t.getLast? ≠ some '\x60')
    (hrest : Ending rest) : beforeFence (t ++ rest) = t := by
  cases hrest with
  | unclosed => rw [List.append_nil, beforeFence, cut?_eq_none_iff.2 ht]
  | closed more =>
      rw [beforeFence, cut?_append_of_getLast? more ht (getLast?_not_mem_fence hend)]

theorem unfenced_of_not_infix (ht : ¬ fence <:+: t) : unfenced t = trim t := by
  have hmarked : ¬ jsonFence <:+: t := fun h => ht (fence_isInfix_jsonFence.trans h)
  rw [unfenced, cut?_eq_none_iff.2 hmarked, cut?_eq_none_iff.2 ht]

theorem unfenced_of_fences (h : Fences t s) (ht : ¬ fence <:+: t)
    (hend : t.getLast? ≠ some '\x60') : unfenced s = trim t := by
  cases h with
  | marked first ending =>
      rw [unfenced, cut?_append_of_unbordered _ first (by decide)]
      dsimp only
      rw [beforeFence_append ht hend ending]
  | plain first apart ending unmarked =>
      rw [unfenced, cut?_eq_none_iff.2 unmarked,
        cut?_append_of_getLast? _ first (getLast?_not_mem_fence apart)]
      dsimp only
      rw [beforeFence_append ht hend ending]

/-! ## The document that is read -/

variable [Json.OuterDepth] {reply text : String}

theorem document_of_isMalformed (h : Json.IsMalformed (Json.read reply)) :
    document reply = (Json.read (content reply)).mapError .ofRead := by
  obtain ⟨flaw, place, hread⟩ := h
  rw [document, hread]

theorem document_of_not_infix (h : ¬ fence <:+: text.toList) :
    document text = (Json.read (trimString text)).mapError .ofRead := by
  by_cases hread : Json.IsMalformed (Json.read text)
  · rw [document_of_isMalformed hread, content, unfenced_of_not_infix h, trimString]
  · rw [(Json.read_trimString text).resolve_left hread, document]
    split
    next flaw place heq => exact absurd ⟨flaw, place, heq⟩ hread
    next => rfl

end Reply

/-- A reply that is no JSON itself gives what the text in its first fenced block gives. -/
theorem Analysis.ofReply_eq_of_fences [Json.OuterDepth] {reply text : String}
    (hreply : Json.IsMalformed (Json.read reply))
    (hfences : Reply.Fences text.toList reply.toList)
    (htext : ¬ Reply.fence <:+: text.toList) (hend : text.toList.getLast? ≠ some '\x60') :
    ofReply reply = ofReply text := by
  have hdocument : Reply.document reply = Reply.document text := by
    rw [Reply.document_of_isMalformed hreply, Reply.document_of_not_infix htext, Reply.content,
      Reply.unfenced_of_fences hfences htext hend, trimString]
  rw [ofReply, ofReply, hdocument]

/-- A block behind two backticks, with blanks in it that are no space in JSON, a backtick in its
text, and another block behind it. -/
theorem Analysis.ofReply_eq_of_fences_blanks :
    let t := "\u00a0\n\x7b\"skip_tables\": [\"a`b\"]\x7d\u3000".toList
    let text := String.ofList t
    let reply := String.ofList ("Sure, ``".toList ++
      (Reply.jsonFence ++ (t ++ (Reply.fence ++ " or ```json\n[]```".toList))))
    (Json.IsMalformed (Json.read reply) ∧ Reply.Fences text.toList reply.toList ∧
        ¬ Reply.fence <:+: text.toList ∧ text.toList.getLast? ≠ some '\x60') ∧
      ofReply reply = ofReply text := by
  intro t text reply
  have htext : ¬ Reply.fence <:+: text.toList ∧ text.toList.getLast? ≠ some '\x60' := by
    rw [String.toList_ofList]
    decide +kernel
  have hfences : Reply.Fences text.toList reply.toList := by
    rw [String.toList_ofList, String.toList_ofList]
    exact .marked (by decide +kernel) (.closed _)
  have hhead : (Json.skipSpace reply.toList).head? = some 'S' := by
    rw [String.toList_ofList]
    decide +kernel
  have hreply : Json.IsMalformed (Json.read reply) := by
    refine Json.isMalformed_read ?_
    rw [hhead]
    rintro c ⟨⟩
    decide
  exact ⟨⟨hreply, hfences, htext⟩, ofReply_eq_of_fences hreply hfences htext.1 htext.2⟩

end RequestAtlas

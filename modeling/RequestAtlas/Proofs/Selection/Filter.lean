import Mathlib.Data.List.Basic
import RequestAtlas.Proofs.Text.Case
import RequestAtlas.Selection

/-!
# What a search text finds

A name is visible if its lower-case form holds that of the search text. So a search text
finds a name in which it stands, and a longer one finds no further names, wherever the
lower-case form of a part stands in that of the whole. A capital sigma is the only
character that can stand in the way: where it ends the search text it is lowered as at
the end of a word, and inside a name it may not be at one.

Each search text is one of two kinds. One without open sigma finds every name in which
it stands, and typing more only narrows what it finds; one with an open sigma does
neither (`visible_setFilter`).
-/

namespace RequestAtlas.Selection

open Text

variable {s : Selection} {f g n : String} {before behind : List Char}

theorem mem_visible_setFilter_iff :
    n ∈ (s.setFilter f).visible ↔ n ∈ s.names ∧ lower f.toList <:+: lower n.toList := by
  rw [visible, List.mem_filter, matchesFilter, contains_iff]
  rfl

theorem visible_sublist_of_lower_infix (s : Selection) (h : lower f.toList <:+: lower g.toList) :
    (s.setFilter g).visible.Sublist (s.setFilter f).visible := by
  refine List.monotone_filter_right s.names fun name hname => ?_
  rw [matchesFilter, contains_iff] at hname ⊢
  exact h.trans hname

theorem lower_infix_of_keepsSigmas (hwhole : g.toList = before ++ (f.toList ++ behind))
    (h : KeepsSigmas before f.toList behind) : lower f.toList <:+: lower g.toList := by
  rw [hwhole]
  exact h.lower_infix

theorem lower_infix_of_not_hasOpenSigma (h : ¬ HasOpenSigma f.toList)
    (hwithin : f.toList <:+: g.toList) : lower f.toList <:+: lower g.toList := by
  obtain ⟨before, behind, hwhole⟩ := hwithin
  rw [List.append_assoc] at hwhole
  exact lower_infix_of_keepsSigmas hwhole.symm (keepsSigmas_of_not_hasOpenSigma h before behind)

/-- A name that holds a text with an open sigma and is not found by it. -/
theorem exists_not_visible (h : HasOpenSigma f.toList) :
    ∃ n : String, f.toList <:+: n.toList ∧ ¬ lower f.toList <:+: lower n.toList := by
  obtain ⟨t, hwithin, hmissed⟩ := exists_not_lower_infix h
  exact ⟨String.ofList t, by simpa using hwithin, by simpa using hmissed⟩

/-- What a search text finds among names in which it stands, and among what a longer
search text finds. Where its capital sigmas are final as in the text alone, it finds the
name, and all that the longer text finds. It does so everywhere just if none of its
sigmas is open. -/
theorem visible_setFilter (f : String) :
    (∀ (s : Selection) (n : String) (before behind : List Char), n ∈ s.names →
        n.toList = before ++ (f.toList ++ behind) → KeepsSigmas before f.toList behind →
          n ∈ (s.setFilter f).visible) ∧
      (∀ (s : Selection) (g : String) (before behind : List Char),
        g.toList = before ++ (f.toList ++ behind) → KeepsSigmas before f.toList behind →
          (s.setFilter g).visible.Sublist (s.setFilter f).visible) ∧
      ((∀ (s : Selection) (n : String), n ∈ s.names → f.toList <:+: n.toList →
          n ∈ (s.setFilter f).visible) ↔ ¬ HasOpenSigma f.toList) ∧
      ((∀ (s : Selection) (g : String), f.toList <:+: g.toList →
          (s.setFilter g).visible.Sublist (s.setFilter f).visible) ↔
        ¬ HasOpenSigma f.toList) := by
  refine ⟨?_, ?_, ⟨?_, ?_⟩, ⟨?_, ?_⟩⟩
  · intro s n before behind hn hwhole hkeeps
    exact mem_visible_setFilter_iff.2 ⟨hn, lower_infix_of_keepsSigmas hwhole hkeeps⟩
  · intro s g before behind hwhole hkeeps
    exact visible_sublist_of_lower_infix s (lower_infix_of_keepsSigmas hwhole hkeeps)
  · intro hfinds hopen
    obtain ⟨n, hwithin, hmissed⟩ := exists_not_visible hopen
    have hvisible := hfinds ⟨[n], [], ""⟩ n (by simp) hwithin
    exact hmissed (mem_visible_setFilter_iff.1 hvisible).2
  · intro hclosed s n hn hwithin
    exact mem_visible_setFilter_iff.2 ⟨hn, lower_infix_of_not_hasOpenSigma hclosed hwithin⟩
  · intro hnarrows hopen
    obtain ⟨n, hwithin, hmissed⟩ := exists_not_visible hopen
    have hself : n ∈ ((⟨[n], [], ""⟩ : Selection).setFilter n).visible :=
      mem_visible_setFilter_iff.2 ⟨by simp, List.infix_rfl⟩
    have hvisible := (hnarrows ⟨[n], [], ""⟩ n hwithin).subset hself
    exact hmissed (mem_visible_setFilter_iff.1 hvisible).2
  · intro hclosed s g hwithin
    exact visible_sublist_of_lower_infix s (lower_infix_of_not_hasOpenSigma hclosed hwithin)

/-- A text that ends in a capital sigma, at the end of a name. -/
theorem visible_setFilter_end :
    let s := ofSkipped ["users", "ΟΔΟΣ"] []
    KeepsSigmas "Ο".toList "ΔΟΣ".toList [] ∧ "ΟΔΟΣ" ∈ (s.setFilter "ΔΟΣ").visible ∧
      (s.setFilter "ΟΔΟΣ").visible.Sublist (s.setFilter "ΔΟΣ").visible := by
  intro s
  have hkeeps : KeepsSigmas "Ο".toList "ΔΟΣ".toList [] :=
    lowerWithin_eq_lower_iff.1 (by decide +kernel)
  obtain ⟨hfinds, hnarrows, -⟩ := visible_setFilter "ΔΟΣ"
  exact ⟨hkeeps, hfinds s "ΟΔΟΣ" "Ο".toList [] (by decide) (by decide) hkeeps,
    hnarrows s "ΟΔΟΣ" "Ο".toList [] (by decide) hkeeps⟩

/-- A lone capital sigma misses the name that it ends, though one more character in
front of it finds the name. -/
theorem setFilter_misses_sigma :
    let s := ofSkipped ["ΟΔΟΣ"] []
    ("ΟΔΟΣ" ∈ s.names ∧ "Σ".toList <:+: "ΟΔΟΣ".toList ∧ "ΟΔΟΣ" ∉ (s.setFilter "Σ").visible) ∧
      "Σ".toList <:+: "ΟΣ".toList ∧
        ¬ (s.setFilter "ΟΣ").visible.Sublist (s.setFilter "Σ").visible := by
  decide +kernel

end RequestAtlas.Selection

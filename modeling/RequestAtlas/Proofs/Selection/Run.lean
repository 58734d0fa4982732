import Mathlib.Data.List.Induction
import RequestAtlas.Analysis.Basic
import RequestAtlas.Selection

/-!
# A run of edits in closed form

What is selected behind a run of edits does not need the run. The last edit of all names
at once says where a name starts, and from there on only the turns of that name count:
an odd number of them turns it over (`status`). An edit of the search text counts for
nothing, and neither does a turn of a name that the selection does not have.

The inductions add an edit at the end of the run. There a bulk edit starts anew, and a
turn adds one to the turns of its name (`status_toggle`).
-/

namespace RequestAtlas.Selection

/-- Whether an edit selects or deselects all names at once. -/
def Edit.isBulk : Edit → Bool
  | .selectAll | .deselectAll => true
  | .toggle _ | .setFilter _ => false

/-- The search text that an edit sets. -/
def Edit.filter? : Edit → Option String
  | .setFilter text => some text
  | _ => none

/-- The selection behind a run of edits. -/
def applyAll (s : Selection) (edits : List Edit) : Selection :=
  edits.foldl apply s

/-- Whether a name is selected before it is turned over for the first time: what the
last bulk edit says, and without one whether the name is not to be skipped. -/
def base (skipped : List String) (edits : List Edit) (name : String) : Bool :=
  match edits.reverse.find? Edit.isBulk with
  | some .selectAll => true
  | some _ => false
  | none => !skipped.contains name

/-- How often a name is turned over behind the last bulk edit, or from the start. -/
def turns (edits : List Edit) (name : String) : Nat :=
  (edits.reverse.takeWhile (!·.isBulk)).count (.toggle name)

/-- Whether a name of the selection is selected behind a run of edits. -/
def status (skipped : List String) (edits : List Edit) (name : String) : Bool :=
  base skipped edits name ^^ turns edits name % 2 == 1

/-- The search text behind a run of edits. -/
def lastFilter (edits : List Edit) : String :=
  (edits.reverse.findSome? Edit.filter?).getD ""

/-! ## One more edit -/

theorem names_apply (s : Selection) (e : Edit) : (s.apply e).names = s.names := by
  cases e with
  | toggle name =>
      rw [apply, toggle]
      split <;> rfl
  | selectAll | deselectAll | setFilter _ => rfl

theorem applyAll_concat (s : Selection) (edits : List Edit) (e : Edit) :
    s.applyAll (edits ++ [e]) = (s.applyAll edits).apply e := by
  rw [applyAll, List.foldl_append]
  rfl

section
variable (skipped : List String) (edits : List Edit) (name : String)

theorem status_nil : status skipped [] name = !skipped.contains name := by
  simp [status, base, turns]

theorem status_selectAll : status skipped (edits ++ [.selectAll]) = fun _ => true := by
  funext name
  simp [status, base, turns, Edit.isBulk, List.find?_cons]

theorem status_deselectAll : status skipped (edits ++ [.deselectAll]) = fun _ => false := by
  funext name
  simp [status, base, turns, Edit.isBulk, List.find?_cons]

theorem status_setFilter (text : String) :
    status skipped (edits ++ [.setFilter text]) = status skipped edits := by
  funext name
  simp [status, base, turns, Edit.isBulk]

theorem turns_toggle (other : String) :
    turns (edits ++ [.toggle other]) name = turns edits name + if other = name then 1 else 0 := by
  simp [turns, Edit.isBulk, List.count_cons]

theorem status_toggle (other : String) :
    status skipped (edits ++ [.toggle other]) name =
      (status skipped edits name != (name == other)) := by
  have hbase : base skipped (edits ++ [.toggle other]) name = base skipped edits name := by
    simp [base, Edit.isBulk]
  rw [status, hbase, turns_toggle, status]
  by_cases h : other = name
  · rcases Nat.mod_two_eq_zero_or_one (turns edits name) with hparity | hparity <;>
      simp [h, hparity, Nat.add_mod]
  · simp [h, beq_false_of_ne (Ne.symm h)]

end

theorem lastFilter_concat (edits : List Edit) (e : Edit) :
    lastFilter (edits ++ [e]) = e.filter?.getD (lastFilter edits) := by
  cases e <;> simp [lastFilter, Edit.filter?, List.findSome?_cons]

/-! ## The run -/

section
variable (names skipped : List String) (edits : List Edit)

theorem names_applyAll : ((ofSkipped names skipped).applyAll edits).names = names := by
  induction edits using List.reverseRecOn with
  | nil => rfl
  | append_singleton edits e ih => rw [applyAll_concat, names_apply, ih]

theorem filter_applyAll :
    ((ofSkipped names skipped).applyAll edits).filter = lastFilter edits := by
  induction edits using List.reverseRecOn with
  | nil => rfl
  | append_singleton edits e ih =>
      rw [applyAll_concat, lastFilter_concat]
      cases e with
      | setFilter text => rfl
      | toggle name =>
          rw [apply, toggle]
          split <;> exact ih
      | selectAll | deselectAll => exact ih

theorem selected_applyAll :
    ((ofSkipped names skipped).applyAll edits).selected = names.filter (status skipped edits) := by
  induction edits using List.reverseRecOn with
  | nil => exact List.filter_congr fun n _ => (status_nil skipped n).symm
  | append_singleton edits e ih =>
      have hstatus : ∀ n ∈ names, ((ofSkipped names skipped).applyAll edits).isSelected n =
          status skipped edits n := by
        intro n hn
        rw [isSelected, ih, Bool.eq_iff_iff]
        simp [hn]
      rw [applyAll_concat]
      cases e with
      | selectAll =>
          rw [status_selectAll, List.filter_eq_self.2 fun _ _ => rfl]
          exact names_applyAll names skipped edits
      | deselectAll =>
          rw [status_deselectAll, List.filter_eq_nil_iff.2 fun _ _ => Bool.false_ne_true]
          rfl
      | setFilter text =>
          rw [status_setFilter]
          exact ih
      | toggle name =>
          rw [apply, toggle, names_applyAll]
          split
          · refine List.filter_congr fun n hn => ?_
            rw [hstatus n hn, status_toggle]
          · next hnew =>
              -- no name of the selection is turned over
              rw [ih]
              refine List.filter_congr fun n hn => ?_
              have hne : n ≠ name := by
                intro heq
                exact hnew (by simpa [heq] using hn)
              rw [status_toggle, beq_false_of_ne hne, Bool.bne_false]

end

/-- The selection behind any run of edits, from the one that an analysis gives. -/
theorem applyAll_ofSkipped (names : List String) (analysis : Analysis) (edits : List Edit) :
    let s := (ofSkipped names analysis.skipTables).applyAll edits
    (∀ n, s.isSelected n = (names.contains n && status analysis.skipTables edits n)) ∧
      s.selectedNames = names.filter (status analysis.skipTables edits) ∧
      s.names = names ∧ s.filter = lastFilter edits := by
  intro s
  have hselected : ∀ n, s.isSelected n =
      (names.contains n && status analysis.skipTables edits n) := by
    intro n
    rw [isSelected, selected_applyAll, Bool.eq_iff_iff]
    simp
  refine ⟨hselected, ?_, names_applyAll .., filter_applyAll ..⟩
  rw [selectedNames, names_applyAll]
  refine List.filter_congr fun n hn => ?_
  simp [hselected, hn]

end RequestAtlas.Selection

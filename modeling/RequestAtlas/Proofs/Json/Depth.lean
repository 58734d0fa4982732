import RequestAtlas.Proofs.Json.Spelling

/-!
# How deep a reader goes

A reader with a limit on the depth is the reader without, but for one thing: it may stop
because arrays and objects stand too deep one inside the other. When it does not, it
reads the same value and leaves the same text, and the value keeps the limit
(`cuts_readValue`). The three readers call each other, so the law is one induction on
their fuel over all three, and one lemma carries it through a sequence of readings
(`Cuts.bind`).

The converse holds of the texts of a value. A value that its texts tell exactly, were it
not for the depth, is read from them just if it keeps the limit (`readWhole_levels`). It
does not hold of all that can be read: where a key is there twice, a deep value may be
gone from what is read.
-/

namespace RequestAtlas.Json

mutual

/-- How many arrays and objects at most stand one inside the other in a value. -/
def levels : Json → Nat
  | .arr items => levelsOfItems items + 1
  | .obj fields => levelsOfFields fields + 1
  | _ => 0

/-- The most levels of an item of an array. -/
def levelsOfItems : List Json → Nat
  | [] => 0
  | item :: items => max (levels item) (levelsOfItems items)

/-- The most levels of a value in the fields of an object. -/
def levelsOfFields : List (String × Json) → Nat
  | [] => 0
  | (_, value) :: fields => max (levels value) (levelsOfFields fields)

end

theorem levelsOfItems_le_iff {n : Nat} {items : List Json} :
    levelsOfItems items ≤ n ↔ ∀ item ∈ items, item.levels ≤ n := by
  induction items with
  | nil => simp [levelsOfItems]
  | cons item items ih => rw [levelsOfItems, Nat.max_le, ih, List.forall_mem_cons]

theorem levelsOfFields_le_iff {n : Nat} {fields : Fields} :
    levelsOfFields fields ≤ n ↔ ∀ field ∈ fields, field.2.levels ≤ n := by
  induction fields with
  | nil => simp [levelsOfFields]
  | cons field fields ih =>
      obtain ⟨key, value⟩ := field
      rw [levelsOfFields, Nat.max_le, ih, List.forall_mem_cons]

/-- So many arrays, one inside the other. -/
def nested : Nat → Json
  | 0 => .null
  | n + 1 => .arr [nested n]

theorem levels_nested (n : Nat) : (nested n).levels = n := by
  induction n with
  | zero => rfl
  | succ n ih => rw [nested, levels, levelsOfItems, ih, levelsOfItems, Nat.max_zero]

theorem exact_nested {digits : Option Nat} (n : Nat) : (nested n).Exact ⟨digits, none⟩ := by
  induction n with
  | zero => exact .null
  | succ n ih => exact .arr rfl (List.forall_mem_singleton.2 ih)

/-! ## Fields that are written in turn -/

namespace Fields

theorem mem_set {key : String} {value : Json} {fields : Fields} {field : String × Json}
    (h : field ∈ fields.set key value) : field ∈ fields ∨ field.2 = value := by
  induction fields with
  | nil =>
      obtain rfl := List.mem_singleton.1 h
      exact .inr rfl
  | cons old rest ih =>
      obtain ⟨k, v⟩ := old
      rw [set] at h
      split at h
      · rcases List.mem_cons.1 h with rfl | hrest
        · exact .inr rfl
        · exact .inl (List.mem_cons_of_mem _ hrest)
      · rcases List.mem_cons.1 h with rfl | hrest
        · exact .inl List.mem_cons_self
        · exact (ih hrest).imp_left (List.mem_cons_of_mem _)

theorem levelsOfFields_setAll {n : Nat} {fields pairs : Fields}
    (hfields : levelsOfFields fields ≤ n) (hpairs : levelsOfFields pairs ≤ n) :
    levelsOfFields (fields.setAll pairs) ≤ n := by
  induction pairs generalizing fields with
  | nil => exact hfields
  | cons pair rest ih =>
      obtain ⟨key, value⟩ := pair
      rw [levelsOfFields, Nat.max_le] at hpairs
      refine ih (levelsOfFields_le_iff.2 fun field hfield => ?_) hpairs.2
      rcases mem_set hfield with hold | hnew
      · exact levelsOfFields_le_iff.1 hfields field hold
      · exact hnew ▸ hpairs.1

/-- No value is deeper in an object than it was in the fields that were written. -/
theorem levelsOfFields_ofPairs (pairs : Fields) :
    levelsOfFields (ofPairs pairs) ≤ levelsOfFields pairs :=
  levelsOfFields_setAll (Nat.zero_le _) (Nat.le_refl _)

end Fields

/-! ## Readings side by side -/

/-- Whether a reading with a limit on the depth does as the one without: it stops for the
depth, or gives the same and what it has read is no deeper. -/
def Cuts {α : Type} (levels : α → Nat) (depth : Nat)
    (limited unlimited : Except Stop (α × List Char)) : Prop :=
  (∃ container, limited = .error (.tooDeep container)) ∨
    limited = unlimited ∧ ∀ a r, limited = .ok (a, r) → levels a ≤ depth

namespace Cuts

variable {α β : Type} {levels : α → Nat} {levels' : β → Nat} {depth depth' : Nat}

theorem of_le {x : Except Stop (α × List Char)}
    (h : ∀ a r, x = .ok (a, r) → levels a ≤ depth) : Cuts levels depth x x :=
  .inr ⟨rfl, h⟩

theorem ok {a : α} {r : List Char} (h : levels a ≤ depth) :
    Cuts levels depth (.ok (a, r)) (.ok (a, r)) :=
  of_le fun _ _ heq => by cases heq; exact h

theorem error (e : Stop) : Cuts levels depth (.error e) (.error e) :=
  of_le fun _ _ heq => nomatch heq

/-- What follows a reading may rely on how deep it went. -/
theorem bind {x y : Except Stop (α × List Char)}
    {f g : α × List Char → Except Stop (β × List Char)} (h : Cuts levels depth x y)
    (hf : ∀ a r, levels a ≤ depth → Cuts levels' depth' (f (a, r)) (g (a, r))) :
    Cuts levels' depth' (x >>= f) (y >>= g) := by
  rcases h with ⟨container, rfl⟩ | ⟨rfl, hle⟩
  · exact .inl ⟨container, rfl⟩
  · cases x with
    | error e => exact error e
    | ok p => exact hf p.1 p.2 (hle p.1 p.2 rfl)

end Cuts

/-! ## The readers -/

section Readers

variable {digits : Option Nat} {depth fuel : Nat}

theorem levels_of_readNumberAfter {limits : Limits} {negative : Bool} {whole s r : List Char}
    {v : Json} (h : readNumberAfter limits negative whole s = .ok (v, r)) : v.levels = 0 := by
  unfold readNumberAfter at h
  split at h
  split at h
  · cases h; rfl
  · split at h
    · split at h
      · cases h
      · cases h; rfl
    · cases h; rfl

theorem levels_of_readDigits {limits : Limits} {negative : Bool} {whole s r : List Char}
    {v : Json} (h : readDigits limits negative whole s = .ok (v, r)) : v.levels = 0 := by
  unfold readDigits at h
  split at h
  · exact levels_of_readNumberAfter h
  · split at h
    · exact levels_of_readNumberAfter h
    · cases h
  · cases h

theorem levels_of_readScalar {limits : Limits} {s r : List Char} {v : Json}
    (h : readScalar limits s = .ok (v, r)) : v.levels = 0 := by
  unfold readScalar at h
  split at h
  case h_7 => exact levels_of_readDigits h
  case h_8 => exact levels_of_readDigits h
  all_goals cases h; rfl

theorem cuts_readScalar (s : List Char) :
    Cuts levels depth (readScalar ⟨digits, some depth⟩ s) (readScalar ⟨digits, none⟩ s) := by
  -- a scalar is read by the limit on digits alone
  have hsame : readScalar ⟨digits, some depth⟩ s = readScalar ⟨digits, none⟩ s := rfl
  rw [hsame]
  refine .of_le fun v r h => ?_
  rw [levels_of_readScalar h]
  exact Nat.zero_le _

theorem cuts_readText {opening s : List Char} :
    Cuts (fun _ => 0) 0 (readText opening 0 s) (readText opening 0 s) :=
  .of_le fun _ _ _ => Nat.le_refl 0

theorem cuts_readItems_succ
    (hvalue : ∀ s, Cuts levels depth (readValue ⟨digits, some depth⟩ fuel s)
      (readValue ⟨digits, none⟩ fuel s))
    (hitems : ∀ s, Cuts levelsOfItems depth (readItems ⟨digits, some depth⟩ fuel s)
      (readItems ⟨digits, none⟩ fuel s)) (s : List Char) :
    Cuts levelsOfItems depth (readItems ⟨digits, some depth⟩ (fuel + 1) s)
      (readItems ⟨digits, none⟩ (fuel + 1) s) := by
  rw [readItems, readItems]
  refine (hvalue s).bind fun item r hitem => ?_
  dsimp only
  split
  next => exact .ok (Nat.max_le.2 ⟨hitem, Nat.zero_le _⟩)
  next => exact (hitems _).bind fun items r hrest => .ok (Nat.max_le.2 ⟨hitem, hrest⟩)
  next => exact .error _

theorem cuts_readFields_succ
    (hvalue : ∀ s, Cuts levels depth (readValue ⟨digits, some depth⟩ fuel s)
      (readValue ⟨digits, none⟩ fuel s))
    (hfields : ∀ s, Cuts levelsOfFields depth (readFields ⟨digits, some depth⟩ fuel s)
      (readFields ⟨digits, none⟩ fuel s)) (s : List Char) :
    Cuts levelsOfFields depth (readFields ⟨digits, some depth⟩ (fuel + 1) s)
      (readFields ⟨digits, none⟩ (fuel + 1) s) := by
  rw [readFields.eq_def, readFields.eq_def]
  dsimp only
  split
  next =>
      refine cuts_readText.bind fun key r _ => ?_
      dsimp only
      split
      next =>
          refine (hvalue _).bind fun value r hvalue => ?_
          dsimp only
          split
          next => exact .ok (Nat.max_le.2 ⟨hvalue, Nat.zero_le _⟩)
          next => exact (hfields _).bind fun fields r hrest => .ok (Nat.max_le.2 ⟨hvalue, hrest⟩)
          next => exact .error _
      next => exact .error _
  next => exact .error _

/-- The opening of a container costs a level, if there is one. -/
theorem cuts_inside {container : Container} {f : Limits → Except Stop (Json × List Char)}
    (h : ∀ inner, depth = inner + 1 →
      Cuts levels depth (f ⟨digits, some inner⟩) (f ⟨digits, none⟩)) :
    Cuts levels depth (Limits.inside ⟨digits, some depth⟩ container >>= f)
      (Limits.inside ⟨digits, none⟩ container >>= f) := by
  cases depth with
  | zero => exact .inl ⟨container, rfl⟩
  | succ inner => exact h inner rfl

theorem cuts_readValue_succ
    (hitems : ∀ inner s, Cuts levelsOfItems inner (readItems ⟨digits, some inner⟩ fuel s)
      (readItems ⟨digits, none⟩ fuel s))
    (hfields : ∀ inner s, Cuts levelsOfFields inner (readFields ⟨digits, some inner⟩ fuel s)
      (readFields ⟨digits, none⟩ fuel s)) (s : List Char) :
    Cuts levels depth (readValue ⟨digits, some depth⟩ (fuel + 1) s)
      (readValue ⟨digits, none⟩ (fuel + 1) s) := by
  rw [readValue.eq_def, readValue.eq_def]
  dsimp only
  split
  next => exact cuts_readText.bind fun _ _ _ => .ok (Nat.zero_le _)
  next =>
      refine cuts_inside fun inner hinner => ?_
      subst hinner
      split
      next => exact .ok (Nat.succ_le_succ (Nat.zero_le _))
      next => exact (hitems inner _).bind fun items r hle => .ok (Nat.succ_le_succ hle)
  next =>
      refine cuts_inside fun inner hinner => ?_
      subst hinner
      split
      next => exact .ok (Nat.succ_le_succ (Nat.zero_le _))
      next =>
          exact (hfields inner _).bind fun pairs r hle =>
            .ok (Nat.succ_le_succ (Nat.le_trans (Fields.levelsOfFields_ofPairs pairs) hle))
  next => exact cuts_readScalar _

theorem cuts_readers (fuel : Nat) : ∀ depth s,
    Cuts levels depth (readValue ⟨digits, some depth⟩ fuel s) (readValue ⟨digits, none⟩ fuel s) ∧
      Cuts levelsOfItems depth (readItems ⟨digits, some depth⟩ fuel s)
        (readItems ⟨digits, none⟩ fuel s) ∧
      Cuts levelsOfFields depth (readFields ⟨digits, some depth⟩ fuel s)
        (readFields ⟨digits, none⟩ fuel s) := by
  induction fuel with
  | zero =>
      intro depth s
      rw [readValue, readValue, readItems, readItems, readFields, readFields]
      exact ⟨.error _, .error _, .error _⟩
  | succ fuel ih =>
      intro depth s
      refine ⟨?_, ?_, ?_⟩
      · exact cuts_readValue_succ (fun inner s => (ih inner s).2.1)
          (fun inner s => (ih inner s).2.2) s
      · exact cuts_readItems_succ (fun s => (ih depth s).1) (fun s => (ih depth s).2.1) s
      · exact cuts_readFields_succ (fun s => (ih depth s).1) (fun s => (ih depth s).2.2) s

/-- A reader with a limit on the depth stops for the depth or reads what the reader
without reads, and then the value keeps the limit. -/
theorem cuts_readValue (depth : Nat) (s : List Char) :
    Cuts levels depth (readValue ⟨digits, some depth⟩ fuel s)
      (readValue ⟨digits, none⟩ fuel s) :=
  (cuts_readers fuel depth s).1

end Readers

/-! ## The texts of a value -/

theorem Limits.digits_of_inside {limits inner : Limits} {container : Container}
    (h : limits.inside container = .ok inner) : inner.digits = limits.digits :=
  digits_of_inner? (inside_eq_ok_iff.1 h)

/-- A value that its texts tell exactly but for the depth is within a limit on the depth
that its levels keep. -/
theorem Exact.of_levels {limits : Limits} {v : Json} (h : v.Exact limits) {depth : Nat}
    (hle : v.levels ≤ depth) : v.Exact ⟨limits.digits, some depth⟩ := by
  induction h generalizing depth with
  | null => exact .null
  | bool b => exact .bool b
  | int hdigits => exact .int hdigits
  | str s => exact .str s
  | @arr limits inner items room _ ih =>
      rw [levels] at hle
      obtain ⟨depth, rfl⟩ := Nat.exists_eq_add_one_of_ne_zero (by omega : depth ≠ 0)
      have hitems := levelsOfItems_le_iff.1 (Nat.le_of_succ_le_succ hle)
      refine .arr rfl fun item hitem => ?_
      rw [← Limits.digits_of_inside room]
      exact ih item hitem (hitems item hitem)
  | @obj limits inner fields room nodup _ ih =>
      rw [levels] at hle
      obtain ⟨depth, rfl⟩ := Nat.exists_eq_add_one_of_ne_zero (by omega : depth ≠ 0)
      have hfields := levelsOfFields_le_iff.1 (Nat.le_of_succ_le_succ hle)
      refine .obj rfl nodup fun field hfield => ?_
      rw [← Limits.digits_of_inside room]
      exact ih field hfield (hfields field hfield)

/-- A text that tells a value exactly but for the depth is read as the value just if the
value keeps the limit on the depth, and is too deep otherwise. -/
theorem readWhole_levels {digits : Option Nat} {v : Json} {s : List Char}
    (h : v.Exact ⟨digits, none⟩) (hs : IsDocument v s) (depth : Nat) :
    (v.levels ≤ depth → readWhole ⟨digits, some depth⟩ s = .ok v) ∧
      (depth < v.levels → ∃ container,
        readWhole ⟨digits, some depth⟩ s = .error (.tooDeep container)) := by
  refine ⟨fun hle => readWhole_of_isDocument (h.of_levels hle) hs, fun hlt => ?_⟩
  obtain ⟨after, -, hvalue⟩ := readValue_of_isDocument h hs
  rcases cuts_readValue depth (skipSpace s) with ⟨container, hdeep⟩ | ⟨hsame, hle⟩
  · exact ⟨container, by rw [readWhole, hdeep]⟩
  · exact absurd (hle v after (hsame.trans hvalue)) (Nat.not_le.2 hlt)

/-- What comes from outside is read just if the reader goes as deep, however deep that is. -/
theorem read_levels [OuterDepth] {v : Json} {text : String}
    (h : v.Exact { digits := some Text.maxDigits }) (hs : IsDocument v text.toList) :
    (outerLimits.Allows v.levels → read text = .ok v) ∧
      (¬ outerLimits.Allows v.levels → ∃ container,
        read text = .error (.tooDeep container)) := by
  rw [read_of_isDocument hs, allows_outerLimits_iff, Nat.not_le]
  exact readWhole_levels h hs OuterDepth.depth

end RequestAtlas.Json

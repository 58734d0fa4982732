import RequestAtlas.Json.Value

/-!
# Fields that are written in turn

An object is made by writing fields one after the other. A key that is new goes to the
end, and a key that is there keeps its place and takes the new value. After all of them
the keys stand in the order in which they came first (`keys_ofPairs`), each has the value
that was written last (`lookup_ofPairs`), and leaving keys out before or after makes no
difference (`filter_ofPairs`).

What one write does is said first. A law about all the writes is an induction over them,
for any fields to begin with.
-/

namespace RequestAtlas.Json.Fields

variable {fields pairs : Fields} {key : String} {value : Json}

/-! ## One write -/

theorem set_of_not_mem (h : key ∉ keys fields) :
    set key value fields = fields ++ [(key, value)] := by
  induction fields with
  | nil => rfl
  | cons field rest ih =>
      obtain ⟨k, v⟩ := field
      rw [keys, List.map_cons, List.mem_cons, not_or] at h
      rw [set, if_neg (Ne.symm h.1), ih h.2, List.cons_append]

theorem keys_set_of_mem (h : key ∈ keys fields) : keys (set key value fields) = keys fields := by
  induction fields with
  | nil => cases h
  | cons field rest ih =>
      obtain ⟨k, v⟩ := field
      rw [set]
      split
      next heq => rw [keys, keys, List.map_cons, List.map_cons, heq]
      next hne =>
          have hrest : key ∈ keys rest := (List.mem_cons.1 h).resolve_left (Ne.symm hne)
          exact congrArg (k :: ·) (ih hrest)

theorem nodup_keys_set (h : (keys fields).Nodup) : (keys (set key value fields)).Nodup := by
  by_cases hmem : key ∈ keys fields
  · rw [keys_set_of_mem hmem]
    exact h
  · rw [set_of_not_mem hmem, keys, List.map_append, List.nodup_append]
    refine ⟨h, List.nodup_cons.2 ⟨List.not_mem_nil, List.nodup_nil⟩, ?_⟩
    rintro a ha b hb rfl
    obtain rfl : a = key := List.mem_singleton.1 hb
    exact hmem ha

theorem lookup_cons_ite (k : String) :
    List.lookup k ((key, value) :: fields) = if k = key then some value else fields.lookup k := by
  rw [List.lookup_cons]
  by_cases hk : k = key
  · simp [hk]
  · rw [if_neg hk, beq_eq_false_iff_ne.2 hk]

theorem lookup_map {α : Type} {key : α → String} {value : α → Json} (items : List α)
    (name : String) :
    (items.map fun item => (key item, value item)).lookup name =
      (items.find? (key · == name)).map value := by
  induction items with
  | nil => rfl
  | cons item rest ih =>
      rw [List.map_cons, lookup_cons_ite, List.find?_cons, ih]
      by_cases hname : name = key item
      · simp [hname]
      · have hkey : (key item == name) = false := by simpa using Ne.symm hname
        rw [if_neg hname, hkey]

theorem lookup_set (k : String) :
    (set key value fields).lookup k = if k = key then some value else fields.lookup k := by
  induction fields with
  | nil => rw [set, lookup_cons_ite]
  | cons field rest ih =>
      obtain ⟨old, v⟩ := field
      rw [set, lookup_cons_ite]
      split
      next heq => subst heq; rw [lookup_cons_ite]; split <;> rfl
      next hne =>
          rw [lookup_cons_ite, ih]
          by_cases hk : k = old
          · simp [hk, hne]
          · simp [hk]

theorem filter_set (p : String → Bool) :
    (set key value fields).filter (p ·.1) =
      if p key then set key value (fields.filter (p ·.1)) else fields.filter (p ·.1) := by
  induction fields with
  | nil => cases hp : p key <;> simp [set, hp]
  | cons field rest ih =>
      obtain ⟨k, v⟩ := field
      rw [set]
      split
      next heq =>
          subst heq
          cases hp : p k with
          | true => simp [hp, set]
          | false => simp [hp]
      next hne =>
          rw [List.filter_cons, List.filter_cons, ih]
          cases hp : p k with
          | true => cases hkey : p key <;> simp [set, hne]
          | false => simp

/-! ## All the writes -/

theorem setAll_cons (pair : String × Json) :
    setAll fields (pair :: pairs) = setAll (fields.set pair.1 pair.2) pairs :=
  rfl

theorem setAll_of_nodup {pairs : Fields} (h : (keys (fields ++ pairs)).Nodup) :
    setAll fields pairs = fields ++ pairs := by
  induction pairs generalizing fields with
  | nil => rw [List.append_nil]; rfl
  | cons pair rest ih =>
      obtain ⟨k, v⟩ := pair
      have hsplit : fields ++ (k, v) :: rest = (fields ++ [(k, v)]) ++ rest := by
        rw [List.append_assoc, List.singleton_append]
      have hnew : k ∉ keys fields := by
        intro hmem
        rw [keys, List.map_append, List.nodup_append] at h
        exact h.2.2 k hmem k List.mem_cons_self rfl
      rw [hsplit] at h ⊢
      rw [← ih h, ← set_of_not_mem hnew]
      rfl

/-- Fields of distinct keys are what is left after writing them in turn. -/
theorem ofPairs_of_nodup {pairs : Fields} (h : (keys pairs).Nodup) : ofPairs pairs = pairs :=
  setAll_of_nodup h

theorem keys_setAll :
    keys (setAll fields pairs) =
      keys fields ++ ((keys pairs).filter (· ∉ keys fields)).eraseDups := by
  induction pairs generalizing fields with
  | nil => simp [setAll, keys]
  | cons pair rest ih =>
      obtain ⟨k, v⟩ := pair
      have hkeys : keys ((k, v) :: rest) = k :: keys rest := rfl
      rw [setAll_cons, ih, hkeys]
      by_cases hk : k ∈ keys fields
      · rw [keys_set_of_mem hk, List.filter_cons_of_neg (by simpa using hk)]
      · have hnew : keys (set k v fields) = keys fields ++ [k] := by
          rw [set_of_not_mem hk, keys, keys, List.map_append]
          rfl
        have hrest : (keys rest).filter (· ∉ keys fields ++ [k]) =
            (keys rest).filter fun other => !other == k && other ∉ keys fields := by
          refine List.filter_congr fun other _ => ?_
          by_cases hother : other = k
          · simp [hother]
          · simp [hother]
        rw [hnew, hrest, List.filter_cons_of_pos (by simpa using hk), List.eraseDups_cons,
          List.filter_filter, List.append_assoc, List.singleton_append]

theorem nodup_keys_setAll (h : (keys fields).Nodup) : (keys (setAll fields pairs)).Nodup := by
  induction pairs generalizing fields with
  | nil => exact h
  | cons pair rest ih => exact ih (nodup_keys_set h)

theorem lookup_setAll (k : String) :
    (setAll fields pairs).lookup k = (pairs.reverse.lookup k).or (fields.lookup k) := by
  induction pairs generalizing fields with
  | nil => rfl
  | cons pair rest ih =>
      obtain ⟨key, v⟩ := pair
      rw [setAll_cons, ih, List.reverse_cons, List.lookup_append, Option.or_assoc, lookup_set,
        lookup_cons_ite]
      split <;> rfl

theorem filter_setAll (p : String → Bool) :
    (setAll fields pairs).filter (p ·.1) =
      setAll (fields.filter (p ·.1)) (pairs.filter (p ·.1)) := by
  induction pairs generalizing fields with
  | nil => rfl
  | cons pair rest ih =>
      rw [setAll_cons, ih, filter_set, List.filter_cons]
      split
      · rw [setAll_cons]
      · rfl

theorem keys_ofPairs : keys (ofPairs pairs) = (keys pairs).eraseDups := by
  have hall : (keys pairs).filter (· ∉ keys []) = keys pairs :=
    List.filter_eq_self.2 fun _ _ => rfl
  rw [ofPairs, keys_setAll, hall]
  rfl

theorem nodup_keys_ofPairs : (keys (ofPairs pairs)).Nodup :=
  nodup_keys_setAll List.nodup_nil

theorem lookup_ofPairs (k : String) : (ofPairs pairs).lookup k = pairs.reverse.lookup k := by
  rw [ofPairs, lookup_setAll, List.lookup_nil, Option.or_none]

theorem filter_ofPairs (p : String → Bool) :
    (ofPairs pairs).filter (p ·.1) = ofPairs (pairs.filter (p ·.1)) :=
  filter_setAll p

end RequestAtlas.Json.Fields

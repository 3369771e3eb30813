import Cabinet.Value

/-!
Ordered fields: what is found at a key, and which keys there are, after a value is put or dropped.
-/

namespace Cabinet

theorem lookup_filter_ne {α β : Type} [DecidableEq α] (entries : List (α × β)) (dropped key : α) :
    (entries.filter (·.1 != dropped)).lookup key =
      if key = dropped then none else entries.lookup key := by
  induction entries with
  | nil => simp
  | cons entry rest ih =>
    obtain ⟨k, v⟩ := entry
    by_cases hk : k = dropped
    · subst hk
      rw [List.filter_cons_of_neg (by simp), ih, List.lookup_cons]
      by_cases hq : key = k
      · simp [hq]
      · simp [hq, beq_eq_false_iff_ne.mpr hq]
    · rw [List.filter_cons_of_pos (by simpa using hk), List.lookup_cons, List.lookup_cons, ih]
      by_cases hq : key = k
      · simp [hq, hk]
      · simp [beq_eq_false_iff_ne.mpr hq]

namespace Fields

variable {α β : Type} {fields : Fields α} {key : String} {v : α}

@[simp] theorem get?_nil (key : String) : get? ([] : Fields α) key = none := rfl

theorem get?_cons (k : String) (v : α) (fields : Fields α) (key : String) :
    get? ((k, v) :: fields) key = if key = k then some v else fields.get? key := by
  simp only [get?, List.lookup_cons]
  by_cases h : key = k
  · simp [h]
  · simp [h, beq_eq_false_iff_ne.mpr h]

theorem get?_put (k : String) (v : α) (fields : Fields α) (key : String) :
    get? (put k v fields) key = if key = k then some v else fields.get? key := by
  induction fields with
  | nil => simp [put, get?_cons]
  | cons entry rest ih =>
    obtain ⟨j, u⟩ := entry
    rw [put]
    by_cases hj : j = k
    · by_cases hk : key = k <;> simp [hj, hk, get?_cons]
    · rw [if_neg hj, get?_cons, get?_cons, ih]
      by_cases hk : key = j
      · rw [if_pos hk, if_pos hk, if_neg (by rw [hk]; exact hj)]
      · rw [if_neg hk, if_neg hk]

theorem get?_drop (k : String) (fields : Fields α) (key : String) :
    get? (drop k fields) key = if key = k then none else fields.get? key :=
  lookup_filter_ne fields k key

theorem get?_map (g : α → β) (fields : Fields α) (key : String) :
    get? (fields.map fun (k, v) => (k, g v)) key = (fields.get? key).map g := by
  induction fields with
  | nil => rfl
  | cons entry rest ih =>
    obtain ⟨k, v⟩ := entry
    rw [List.map_cons, get?_cons, get?_cons, ih]
    split <;> rfl

theorem mem_of_get? (h : fields.get? key = some v) : (key, v) ∈ fields := by
  induction fields with
  | nil => simp at h
  | cons entry rest ih =>
    obtain ⟨k, u⟩ := entry
    rw [get?_cons] at h
    split at h
    · simp_all
    · exact List.mem_cons_of_mem _ (ih h)

theorem get?_isSome_iff : (fields.get? key).isSome ↔ key ∈ fields.keys := by
  induction fields with
  | nil => simp [keys]
  | cons entry rest ih =>
    obtain ⟨k, u⟩ := entry
    rw [get?_cons]
    by_cases h : key = k
    · simp [h, keys]
    · rw [if_neg h, ih]
      simp [keys, h]

theorem mem_keys (h : fields.get? key = some v) : key ∈ fields.keys :=
  get?_isSome_iff.mp (by rw [h]; rfl)

theorem get?_eq_none_iff : fields.get? key = none ↔ key ∉ fields.keys := by
  rw [← get?_isSome_iff, Option.not_isSome_iff_eq_none]

theorem contains_iff : fields.contains key = true ↔ key ∈ fields.keys := by
  simp [contains, keys]

theorem get?_eq_some_iff (hd : fields.keys.Nodup) :
    fields.get? key = some v ↔ (key, v) ∈ fields := by
  refine ⟨mem_of_get?, fun h => ?_⟩
  induction fields with
  | nil => simp at h
  | cons entry rest ih =>
    obtain ⟨k, u⟩ := entry
    have hd' := List.nodup_cons.mp hd
    rw [get?_cons]
    rcases List.mem_cons.mp h with he | hm
    · simp_all
    · have hk : key ≠ k := by
        rintro rfl
        exact hd'.1 (List.mem_map_of_mem (f := (·.1)) hm)
      rw [if_neg hk]
      exact ih hd'.2 hm

/-- A value that is put at a new key comes last. -/
theorem put_eq_append (hk : key ∉ fields.keys) : put key v fields = fields ++ [(key, v)] := by
  induction fields with
  | nil => rfl
  | cons entry rest ih =>
    obtain ⟨k, u⟩ := entry
    have hk' := not_or.mp (mt List.mem_cons.mpr hk)
    rw [put, if_neg (Ne.symm hk'.1), ih hk'.2, List.cons_append]

/-- A value that is there already changes nothing. -/
theorem put_get? (h : fields.get? key = some v) : put key v fields = fields := by
  induction fields with
  | nil => simp at h
  | cons entry rest ih =>
    obtain ⟨k, u⟩ := entry
    rw [get?_cons] at h
    rw [put]
    by_cases hk : key = k
    · simp_all
    · rw [if_neg hk] at h
      rw [if_neg (Ne.symm hk), ih h]

@[simp] theorem put_put (key : String) (u v : α) (fields : Fields α) :
    put key v (put key u fields) = put key v fields := by
  induction fields with
  | nil => simp [put]
  | cons entry rest ih =>
    obtain ⟨k, w⟩ := entry
    rw [put]
    split <;> simp_all [put]

@[simp] theorem keys_map (g : α → β) (fields : Fields α) :
    keys (fields.map fun (k, v) => (k, g v)) = fields.keys := by
  simp [keys]

theorem keys_put_of_mem (hk : key ∈ fields.keys) : (put key v fields).keys = fields.keys := by
  induction fields with
  | nil => simp [keys] at hk
  | cons entry rest ih =>
    obtain ⟨k, u⟩ := entry
    rw [put]
    by_cases h : k = key
    · simp [keys, h]
    · rcases List.mem_cons.mp hk with he | hm
      · exact absurd he.symm h
      · have := ih hm
        simp_all [keys]

theorem keys_put_of_not_mem (hk : key ∉ fields.keys) :
    (put key v fields).keys = fields.keys ++ [key] := by
  simp [put_eq_append hk, keys]

theorem keys_drop (key : String) (fields : Fields α) :
    (drop key fields).keys = fields.keys.filter (· != key) := by
  simp only [keys, drop, List.filter_map]
  rfl

theorem length_put (key : String) (v : α) (fields : Fields α) :
    (put key v fields).length = if key ∈ fields.keys then fields.length else fields.length + 1 := by
  by_cases hk : key ∈ fields.keys
  · have h := congrArg List.length (keys_put_of_mem (v := v) hk)
    rw [if_pos hk]
    simpa only [keys, List.length_map] using h
  · simp [put_eq_append hk, hk]

theorem length_drop (hd : fields.keys.Nodup) (hk : key ∈ fields.keys) :
    (drop key fields).length + 1 = fields.length := by
  have h := congrArg List.length (keys_drop key fields)
  rw [← hd.erase_eq_filter key, List.length_erase_of_mem hk] at h
  have hpos := List.length_pos_of_mem hk
  simp only [keys, List.length_map] at h hpos
  omega

theorem nodup_keys_put (hd : fields.keys.Nodup) (key : String) (v : α) :
    (put key v fields).keys.Nodup := by
  by_cases hk : key ∈ fields.keys
  · rwa [keys_put_of_mem hk]
  · rw [keys_put_of_not_mem hk]
    refine List.nodup_append.mpr ⟨hd, by simp, ?_⟩
    rintro a ha b hb rfl
    exact hk (List.mem_singleton.mp hb ▸ ha)

theorem nodup_keys_drop (hd : fields.keys.Nodup) (key : String) : (drop key fields).keys.Nodup := by
  rw [keys_drop]
  exact hd.filter _

theorem forall_get?_put {P : α → Prop} (h : ∀ {k u}, fields.get? k = some u → P u) (hv : P v)
    {k : String} {u : α} (hg : (put key v fields).get? k = some u) : P u := by
  rw [get?_put] at hg
  split at hg
  · exact Option.some.inj hg ▸ hv
  · exact h hg

theorem forall_get?_drop {P : α → Prop} (h : ∀ {k u}, fields.get? k = some u → P u) {k : String}
    {u : α} (hg : (drop key fields).get? k = some u) : P u := by
  rw [get?_drop] at hg
  split at hg
  · exact absurd hg (by simp)
  · exact h hg

theorem mem_of_mem_put {entry : String × α} (h : entry ∈ put key v fields) :
    entry = (key, v) ∨ entry ∈ fields := by
  induction fields with
  | nil => exact .inl (List.mem_singleton.mp h)
  | cons first rest ih =>
    obtain ⟨k, u⟩ := first
    unfold put at h
    split at h
    · rcases List.mem_cons.mp h with rfl | hrest
      · exact .inl rfl
      · exact .inr (List.mem_cons_of_mem _ hrest)
    · rcases List.mem_cons.mp h with rfl | hrest
      · exact .inr List.mem_cons_self
      · exact (ih hrest).imp_right (List.mem_cons_of_mem _)

theorem mem_keys_put {k : String} : k ∈ (put key v fields).keys ↔ k = key ∨ k ∈ fields.keys := by
  rw [← get?_isSome_iff, get?_put, ← get?_isSome_iff]
  split <;> simp_all

/-- Assignments to keys that are all different stay as they are. -/
theorem ofAssignments_eq (hd : fields.keys.Nodup) : ofAssignments fields = fields := by
  have run : ∀ (rest before : Fields α), (before ++ rest).keys.Nodup →
      rest.foldl (fun fields (key, value) => fields.put key value) before = before ++ rest := by
    intro rest
    induction rest with
    | nil => simp
    | cons entry rest ih =>
      intro before hd
      obtain ⟨k, v⟩ := entry
      have hnew : k ∉ before.keys := by
        intro hk
        rw [keys, List.map_append] at hd
        exact (List.nodup_append.mp hd).2.2 _ hk _ (by simp) rfl
      rw [List.foldl_cons]
      change rest.foldl _ (put k v before) = _
      rw [put_eq_append hnew, ih _ (by simpa [List.append_assoc] using hd)]
      simp
  simpa [ofAssignments] using run fields [] (by simpa using hd)

theorem nodup_keys_ofAssignments (assignments : List (String × α)) :
    (ofAssignments assignments).keys.Nodup :=
  List.foldlRecOn assignments _ (motive := fun fields => keys fields |>.Nodup) List.nodup_nil
    fun _ hd entry _ => nodup_keys_put hd entry.1 entry.2

theorem length_ofAssignments_le (assignments : List (String × α)) :
    (ofAssignments assignments).length ≤ assignments.length := by
  have run : ∀ (rest : List (String × α)) (fields : Fields α),
      (rest.foldl (fun fields (key, value) => fields.put key value) fields).length ≤
        fields.length + rest.length := by
    intro rest
    induction rest with
    | nil => exact fun _ => Nat.le_refl _
    | cons entry rest ih =>
      intro fields
      obtain ⟨key, u⟩ := entry
      have hput : (fields.put key u).length ≤ fields.length + 1 := by
        rw [length_put]
        split <;> omega
      refine Nat.le_trans (ih (fields.put key u)) ?_
      rw [List.length_cons]
      omega
  have hrun := run assignments []
  rwa [List.length_nil, Nat.zero_add] at hrun

theorem mem_of_mem_ofAssignments {assignments : List (String × α)} {entry : String × α}
    (h : entry ∈ ofAssignments assignments) : entry ∈ assignments := by
  have hall : ∀ e ∈ ofAssignments assignments, e ∈ assignments :=
    List.foldlRecOn assignments _ (motive := fun fields => ∀ e ∈ fields, e ∈ assignments)
      (fun _ he => nomatch he) fun fields hf assigned ha e he =>
        (mem_of_mem_put he).elim (fun heq => heq ▸ ha) (hf e)
  exact hall entry h

end Fields

end Cabinet

import Cabinet.Proofs.Record.Table

/-!
The columns of a table in the order of their indices, as a list: what changes of columns do to it.
-/

namespace Cabinet

open Schema

/-- Columns with the indices at which they stand in a list. -/
def Column.numbered (columns : List Column) : List Column :=
  columns.mapIdx fun i c => { c with index := i }

namespace Table

variable {t t' : Table} {name new : String} {c d : Column} {columns : List Column}

@[simp] theorem length_ordered (t : Table) : t.ordered.length = t.columns.length := by
  rw [ordered, List.length_mergeSort, List.length_map]

/-- A column that stands in the order is the one that goes by its name. -/
theorem mem_ordered_iff (ht : t.WellFormed) : c ∈ t.ordered ↔ t.columns.get? c.name = some c := by
  rw [ordered, List.mem_mergeSort, List.mem_map]
  constructor
  · rintro ⟨e, he, rfl⟩
    have hget := ht.get?_of_mem he
    rw [(ht.named hget).1, hget]
  · intro hget
    exact ⟨_, Fields.mem_of_get? hget, rfl⟩

/-- In order, the indices are those from zero on. -/
theorem WellFormed.map_index_ordered (h : t.WellFormed) :
    t.ordered.map (·.index) = (List.range t.columns.length).map Int.ofNat := by
  have hperm : (t.ordered.map (·.index)).Perm ((List.range t.columns.length).map Int.ofNat) := by
    have hmap := (List.mergeSort_perm (t.columns.map (·.2)) fun a b => a.index ≤ b.index).map (·.index)
    rw [List.map_map] at hmap
    exact hmap.trans h.indices_perm
  have hsorted : (t.ordered.map (·.index)).Pairwise (· ≤ ·) := by
    have hpairwise : t.ordered.Pairwise fun a b => decide (a.index ≤ b.index) = true :=
      List.pairwise_mergeSort (by grind) (by grind) _
    exact List.pairwise_map.mpr (hpairwise.imp fun hle => of_decide_eq_true hle)
  have hrange : ((List.range t.columns.length).map Int.ofNat).Pairwise (· ≤ ·) :=
    List.pairwise_map.mpr (List.pairwise_le_range.imp fun hle => Int.ofNat_le.mpr hle)
  exact hperm.eq_of_pairwise (fun a b _ _ hab hba => Int.le_antisymm hab hba) hsorted hrange

/-- A column stands at its index. -/
theorem WellFormed.getElem?_ordered (h : t.WellFormed) {i : Nat} :
    t.ordered[i]? = some c ↔ t.columns.get? c.name = some c ∧ c.index = i := by
  have hindex : ∀ {j : Nat} {e : Column}, t.ordered[j]? = some e → e.index = j := by
    intro j e he
    obtain ⟨hj, -⟩ := List.getElem?_eq_some_iff.mp he
    have hmap := congrArg (·[j]?) h.map_index_ordered
    simp only [List.getElem?_map, he, List.getElem?_range (length_ordered t ▸ hj)] at hmap
    exact Option.some.inj hmap
  constructor
  · intro hc
    exact ⟨(mem_ordered_iff h).mp (List.mem_of_getElem? hc), hindex hc⟩
  · rintro ⟨hget, hi⟩
    obtain ⟨j, hj⟩ := List.mem_iff_getElem?.mp ((mem_ordered_iff h).mpr hget)
    have := hindex hj
    obtain rfl : j = i := by omega
    exact hj

/-- A column is found in order at its index. -/
theorem WellFormed.getElem?_index (h : t.WellFormed) (hc : t.columns.get? name = some c) :
    t.ordered[c.index.toNat]? = some c := by
  have hindex := Int.toNat_of_nonneg (h.range hc).1
  exact h.getElem?_ordered.mpr ⟨(h.named hc).1.symm ▸ hc, hindex.symm⟩

/-- Nothing changes where a column is put in its own place. -/
theorem WellFormed.set_ordered (h : t.WellFormed) (hc : t.columns.get? name = some c) :
    t.ordered.set c.index.toNat c = t.ordered := by
  obtain ⟨hlt, hget⟩ := List.getElem?_eq_some_iff.mp (h.getElem?_index hc)
  have hset := List.set_getElem_self hlt
  rwa [hget] at hset

/-- Columns are those of a table in order, if there are as many and each is one of the table that
stands at its index. -/
theorem WellFormed.ordered_eq (h : t.WellFormed) (hlen : columns.length = t.columns.length)
    (hcolumns : ∀ (i : Nat) c, columns[i]? = some c → t.columns.get? c.name = some c ∧ c.index = i) :
    t.ordered = columns := by
  apply List.ext_getElem?
  intro i
  cases hi : columns[i]? with
  | some c => exact h.getElem?_ordered.mpr (hcolumns i c hi)
  | none =>
    rw [List.getElem?_eq_none_iff] at hi ⊢
    rw [length_ordered, ← hlen]
    exact hi

/-- In order, a column that keeps its index takes the place of the one that goes. -/
theorem WellFormed.ordered_set (h : t.WellFormed) (h' : t'.WellFormed)
    (hc : t.columns.get? name = some c) (hlen : t'.columns.length = t.columns.length)
    (hd : t'.columns.get? d.name = some d) (hi : d.index = c.index)
    (hothers : ∀ {k e}, k ≠ name → t.columns.get? k = some e → t'.columns.get? k = some e) :
    t'.ordered = t.ordered.set c.index.toNat d := by
  have hrange := h.range hc
  refine h'.ordered_eq (by simp [hlen]) ?_
  intro i e he
  rw [List.getElem?_set] at he
  split at he
  · next heq =>
    split at he
    · obtain rfl := Option.some.inj he
      exact ⟨hd, by omega⟩
    · simp at he
  · next hne =>
    obtain ⟨hget, hindex⟩ := h.getElem?_ordered.mp he
    refine ⟨hothers ?_ hget, hindex⟩
    rintro hname
    rw [hname, hc] at hget
    obtain rfl := Option.some.inj hget
    omega

theorem WellFormed.ordered_revise (h : t.WellFormed) (hc : t.columns.get? name = some c)
    (hn : d.name = c.name) (hi : d.index = c.index)
    (hp : d.type = c.type ∨ name ∉ Column.protectedNames) :
    Table.ordered { t with columns := t.columns.put name d } =
      t.ordered.set c.index.toNat d := by
  have hname : d.name = name := hn.trans (h.named hc).1
  have hget := fun k => Fields.get?_put name d t.columns k
  refine h.ordered_set (h.revise hc hn hi hp) hc ?_ ?_ hi ?_
  · rw [Fields.length_put, if_pos (Fields.mem_keys hc)]
  · rw [hget, if_pos hname]
  · intro k e hk he
    rw [hget, if_neg hk, he]

theorem WellFormed.ordered_rename (h : t.WellFormed) (hc : t.columns.get? name = some c)
    (hpn : name ∉ Column.protectedNames) (hn : new ∉ t.columns.keys) (hnormal : Name.IsNormal new) :
    (Table.put { c with name := new } { t with columns := t.columns.drop name }).ordered =
      t.ordered.set c.index.toNat { c with name := new } := by
  have hnew : new ∉ Fields.keys (t.columns.drop name) := by
    rw [Fields.keys_drop]
    exact fun hm => hn (List.mem_filter.mp hm).1
  refine h.ordered_set (h.rename hc hpn hn hnormal) hc ?_ ?_ rfl ?_
  · rw [put, Fields.length_put, if_neg hnew]
    exact Fields.length_drop h.nodup (Fields.mem_keys hc)
  · rw [put, Fields.get?_put, if_pos rfl]
  · intro k e hk he
    have hkn : k ≠ new := fun heq => hn (heq ▸ Fields.mem_keys he)
    rw [put, Fields.get?_put, if_neg hkn, Fields.get?_drop, if_neg hk, he]

/-- The columns of a table are in order those of a list with new numbers, if there are as many and each
stands in the table at its place. -/
theorem WellFormed.ordered_numbered (h : t.WellFormed) (hlen : columns.length = t.columns.length)
    (hcolumns : ∀ (i : Nat) c, columns[i]? = some c →
      t.columns.get? c.name = some { c with index := i }) :
    t.ordered = Column.numbered columns := by
  refine h.ordered_eq (by simp [Column.numbered, hlen]) ?_
  intro i e he
  rw [Column.numbered, List.getElem?_mapIdx] at he
  obtain ⟨c, hc, rfl⟩ := Option.map_eq_some_iff.mp he
  exact ⟨hcolumns i c hc, rfl⟩

/-- The columns of a table are numbered in order. -/
theorem WellFormed.numbered_ordered (h : t.WellFormed) : Column.numbered t.ordered = t.ordered := by
  refine (h.ordered_numbered (length_ordered t) fun i c hc => ?_).symm
  obtain ⟨hget, hindex⟩ := h.getElem?_ordered.mp hc
  rw [hget, ← hindex]

/-- A column that comes in is inserted at its index. -/
theorem WellFormed.ordered_insert (h : t.WellFormed) (hn : c.name ∉ t.columns.keys)
    (hnormal : Name.IsNormal c.name) (hi : 0 ≤ c.index ∧ c.index ≤ t.columns.length)
    (hm : ensureMovable (columnsIn (c.index ≤ ·) t) = .ok ()) :
    ((shift (c.index ≤ ·) 1 t).put c).ordered =
      Column.numbered (t.ordered.insertIdx c.index.toNat c) := by
  have hget : ∀ k, ((shift (c.index ≤ ·) 1 t).put c).columns.get? k =
      if k = c.name then some c else (t.columns.get? k).map fun e =>
        if c.index ≤ e.index then { e with index := e.index + 1 } else e := by
    intro k
    simp [put, Fields.get?_put, get?_shift]
  refine (h.insert hn hnormal hi hm).ordered_numbered ?_ ?_
  · rw [List.length_insertIdx, length_ordered, if_pos (by omega), put, Fields.length_put, shift,
      keys_mapColumns, if_neg hn, length_mapColumns]
  · intro i e he
    rw [List.getElem?_insertIdx, length_ordered] at he
    -- Before the index nothing moves, and from there on all stand one place higher.
    have hkept : ∀ {j : Nat}, t.ordered[j]? = some e → e.name ≠ c.name ∧
        t.columns.get? e.name = some e ∧ e.index = j := by
      intro j hj
      obtain ⟨hget, hindex⟩ := h.getElem?_ordered.mp hj
      exact ⟨fun heq => hn (heq ▸ Fields.mem_keys hget), hget, hindex⟩
    rw [hget]
    split at he
    · obtain ⟨hne, hold, hindex⟩ := hkept he
      rw [if_neg hne, hold, Option.map_some, if_neg (by omega), ← hindex]
    · split at he
      · next heq =>
        rw [if_pos (by omega)] at he
        obtain rfl := Option.some.inj he
        rw [if_pos rfl, heq, Int.toNat_of_nonneg hi.1]
      · obtain ⟨hne, hold, hindex⟩ := hkept he
        rw [if_neg hne, hold, Option.map_some, if_pos (by omega)]
        congr 2
        omega

/-- A column that goes is erased from its place. -/
theorem WellFormed.ordered_remove (h : t.WellFormed) (hc : t.columns.get? name = some c)
    (hpn : name ∉ Column.protectedNames) :
    (shift (c.index < ·) (-1) { t with columns := t.columns.drop name }).ordered =
      Column.numbered (t.ordered.eraseIdx c.index.toNat) := by
  have hrange := h.range hc
  have hget : ∀ k, (shift (c.index < ·) (-1) { t with columns := t.columns.drop name }).columns.get? k =
      if k = name then none else (t.columns.get? k).map fun e =>
        if c.index < e.index then { e with index := e.index + -1 } else e := by
    intro k
    rw [get?_shift, Fields.get?_drop]
    split <;> simp
  have hlen := Fields.length_drop h.nodup (Fields.mem_keys hc)
  refine (h.remove hc hpn).ordered_numbered ?_ ?_
  · rw [List.length_eraseIdx, length_ordered, if_pos (by omega), shift, length_mapColumns]
    exact (Nat.eq_sub_of_add_eq hlen).symm
  · intro i e he
    rw [List.getElem?_eraseIdx] at he
    -- Before the place nothing moves, and behind it all stand one place lower.
    have hkept : ∀ {j : Nat}, j ≠ c.index.toNat → t.ordered[j]? = some e → e.name ≠ name ∧
        t.columns.get? e.name = some e ∧ e.index = j := by
      intro j hj hplace
      obtain ⟨hget, hindex⟩ := h.getElem?_ordered.mp hplace
      refine ⟨?_, hget, hindex⟩
      intro heq
      rw [heq, hc] at hget
      obtain rfl := Option.some.inj hget
      omega
    rw [hget]
    split at he
    · obtain ⟨hne, hold, hindex⟩ := hkept (by omega) he
      rw [if_neg hne, hold, Option.map_some, if_neg (by omega), ← hindex]
    · obtain ⟨hne, hold, hindex⟩ := hkept (by omega) he
      rw [if_neg hne, hold, Option.map_some, if_pos (by omega)]
      congr 2
      omega

/-- Entries of a list that change places are each put at the place of the other. -/
theorem toList_swapIfInBounds {α : Type} {l : List α} {i j : Nat} {a b : α} (hi : l[i]? = some a)
    (hj : l[j]? = some b) : (l.toArray.swapIfInBounds i j).toList = (l.set i b).set j a := by
  obtain ⟨hi', rfl⟩ := List.getElem?_eq_some_iff.mp hi
  obtain ⟨hj', rfl⟩ := List.getElem?_eq_some_iff.mp hj
  rw [Array.swapIfInBounds_def, dif_pos (by simpa using hi'), dif_pos (by simpa using hj'),
    Array.swap_def]
  simp

/-- The entries of a list are the same after two of them have changed places. -/
theorem perm_swapIfInBounds {α : Type} (l : List α) (i j : Nat) :
    (l.toArray.swapIfInBounds i j).toList.Perm l := by
  rw [Array.swapIfInBounds_def]
  split
  · split
    · exact Array.perm_iff_toList_perm.mp (Array.swap_perm _ _)
    · exact .refl _
  · exact .refl _

/-- Two columns that change places do so in order. -/
theorem WellFormed.ordered_exchange (h : t.WellFormed) {other : String}
    (hc : t.columns.get? name = some c) (hd : t.columns.get? other = some d) (hne : other ≠ name)
    (hpn : name ∉ Column.protectedNames) (hpo : other ∉ Column.protectedNames) :
    Table.ordered { t with
      columns := (t.columns.put other { d with index := c.index }).put name
        { c with index := d.index } } =
      Column.numbered ((t.ordered.set c.index.toNat d).set d.index.toNat c) := by
  have hrangec := h.range hc
  have hranged := h.range hd
  have hnamec := (h.named hc).1
  have hnamed := (h.named hd).1
  have hapart : c.index ≠ d.index := fun heq => hne (h.apart hd hc heq.symm)
  have hget : ∀ k, ((t.columns.put other { d with index := c.index }).put name
      { c with index := d.index }).get? k = if k = name then some { c with index := d.index }
        else if k = other then some { d with index := c.index } else t.columns.get? k := by
    intro k
    simp only [Fields.get?_put]
  -- The new columns are well formed, so their list is told by what is at each index: the other
  -- column, this one, or what was there before.
  refine (h.exchange hc hd hne hpn hpo).ordered_numbered ?_ ?_
  · have hname : name ∈ (t.columns.put other { d with index := c.index }).keys := by
      rw [Fields.keys_put_of_mem (Fields.mem_keys hd)]
      exact Fields.mem_keys hc
    rw [List.length_set, List.length_set, length_ordered, Fields.length_put, if_pos hname,
      Fields.length_put, if_pos (Fields.mem_keys hd)]
  · intro i e he
    rw [hget]
    simp only [List.getElem?_set, List.length_set, length_ordered] at he
    split at he
    · next hi =>
      rw [if_pos (by omega)] at he
      obtain rfl := Option.some.inj he
      rw [if_pos hnamec, ← hi, Int.toNat_of_nonneg hranged.1]
    · split at he
      · next hi =>
        rw [if_pos (by omega)] at he
        obtain rfl := Option.some.inj he
        rw [if_neg (hnamed ▸ hne), if_pos hnamed, ← hi, Int.toNat_of_nonneg hrangec.1]
      · obtain ⟨hold, hindex⟩ := h.getElem?_ordered.mp he
        have hkept : ∀ {k u}, t.columns.get? k = some u → u.index.toNat ≠ i → e.name ≠ k := by
          intro k u hu hi heq
          rw [heq, hu] at hold
          obtain rfl := Option.some.inj hold
          omega
        rw [if_neg (hkept hc ‹_›), if_neg (hkept hd ‹_›), hold, ← hindex]

/-- Where an entry of a list comes from that is not the one that was moved. -/
theorem getElem?_insertIdx_eraseIdx {α : Type} {l : List α} {a : α} {i j k : Nat} (hi : i < l.length)
    (hk : k ≠ j) : ((l.eraseIdx i).insertIdx j a)[k]? =
      l[if i ≤ k ∧ k < j then k + 1 else if j < k ∧ k ≤ i then k - 1 else k]? := by
  rw [List.getElem?_insertIdx, List.length_eraseIdx, if_pos hi]
  simp only [List.getElem?_eraseIdx, if_neg hk]
  grind

/-- A column that moves is erased from its place and inserted at its new index. -/
theorem WellFormed.ordered_move (h : t.WellFormed) {i step : Int} {between : Int → Bool}
    (hc : t.columns.get? name = some c) (hpn : name ∉ Column.protectedNames)
    (hi : 0 ≤ i ∧ i < t.columns.length)
    (hb : (c.index < i ∧ step = -1 ∧ ∀ j, between j = true ↔ c.index < j ∧ j ≤ i) ∨
      (i ≤ c.index ∧ step = 1 ∧ ∀ j, between j = true ↔ i ≤ j ∧ j < c.index))
    (hm : ensureMovable (columnsIn between t) = .ok ()) :
    Table.ordered { t with
      columns := (shift between step t).columns.put name { c with index := i } } =
      Column.numbered ((t.ordered.eraseIdx c.index.toNat).insertIdx i.toNat c) := by
  have hrange := h.range hc
  have hname := (h.named hc).1
  have hget : ∀ k, ((shift between step t).columns.put name { c with index := i }).get? k =
      if k = name then some { c with index := i } else (t.columns.get? k).map fun e =>
        if between e.index then { e with index := e.index + step } else e := by
    intro k
    rw [Fields.get?_put, get?_shift]
  -- As for an exchange, the list is told by what is at each index.
  refine (h.move hc hpn hi hb hm).ordered_numbered ?_ ?_
  · rw [List.length_insertIdx, List.length_eraseIdx, length_ordered, Fields.length_put, shift,
      keys_mapColumns, if_pos (Fields.mem_keys hc), length_mapColumns]
    grind
  · intro k e he
    rw [hget]
    by_cases hk : k = i.toNat
    · rw [hk, List.getElem?_insertIdx_self, if_pos (by rw [List.length_eraseIdx, length_ordered]; grind)]
        at he
      obtain rfl := Option.some.inj he
      rw [if_pos hname, hk, Int.toNat_of_nonneg hi.1]
    · -- Any other column has come from where the columns in between have closed up.
      rw [getElem?_insertIdx_eraseIdx (by rw [length_ordered]; omega) hk] at he
      obtain ⟨hold, hindex⟩ := h.getElem?_ordered.mp he
      have hne : e.name ≠ name := by
        intro heq
        rw [heq, hc] at hold
        obtain rfl := Option.some.inj hold
        split at hindex
        · omega
        · split at hindex <;> omega
      have hstep : (if between e.index then e.index + step else e.index) = k := by
        grind
      rw [if_neg hne, hold, Option.map_some, ← hstep]
      split <;> rfl

end Table

end Cabinet

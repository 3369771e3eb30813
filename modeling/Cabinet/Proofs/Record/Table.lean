import Cabinet.Proofs.Except
import Cabinet.Proofs.Fields
import Cabinet.Proofs.Name
import Cabinet.Schema.Change
import Mathlib.Data.List.Nodup
import Mathlib.Data.List.Perm.Subperm
import Mathlib.Tactic.ByContra

/-!
Tables whose columns are numbered without gaps, the protected ones first, and what keeps them so.
-/

namespace Cabinet

open Schema

/-- The columns of a table go by their names, no two have the same index, the indices are below the
number of the columns, and the protected columns are at their places. -/
structure Table.WellFormed (t : Table) : Prop where
  nodup : t.columns.keys.Nodup
  named : ∀ {k c}, t.columns.get? k = some c → c.name = k ∧ Name.IsNormal k
  range : ∀ {k c}, t.columns.get? k = some c → 0 ≤ c.index ∧ c.index < t.columns.length
  apart : ∀ {k c l d}, t.columns.get? k = some c → t.columns.get? l = some d →
    c.index = d.index → k = l
  anchored : ∀ d ∈ Column.protectedDefinitions, ∃ c,
    t.columns.get? d.name = some c ∧ c.type = d.type ∧ c.index = d.index

theorem Name.isNormal_of_protected {name : String} (h : name ∈ Column.protectedNames) :
    Name.IsNormal name := by
  have hne : ∀ name ∈ Column.protectedNames, name ≠ "" := by decide
  have hnorm : ∀ name ∈ Column.protectedNames, Name.normalize name = name := by decide +kernel
  exact ⟨hne name h, hnorm name h⟩

namespace Table

variable {t : Table} {name : String} {c d : Column}

theorem get?_mapColumns (f : Column → Column) (t : Table) (key : String) :
    (t.mapColumns f).columns.get? key = (t.columns.get? key).map f :=
  Fields.get?_map f t.columns key

@[simp] theorem keys_mapColumns (f : Column → Column) (t : Table) :
    (t.mapColumns f).columns.keys = t.columns.keys :=
  Fields.keys_map f t.columns

@[simp] theorem length_mapColumns (f : Column → Column) (t : Table) :
    (t.mapColumns f).columns.length = t.columns.length := by
  simp [mapColumns]

theorem column_eq_ok {table : String} (h : t.column name table = .ok c) :
    t.columns.get? name = some c := by
  unfold column at h
  split at h <;> simp_all

theorem name_mem_of_mem_definitions (hd : d ∈ Column.protectedDefinitions) :
    d.name ∈ Column.protectedNames := by
  simp only [Column.protectedDefinitions, Column.protectedNames, List.mem_map] at hd ⊢
  obtain ⟨⟨p, i⟩, hp, rfl⟩ := hd
  exact ⟨p, (List.mem_zipIdx' hp).2 ▸ List.getElem_mem _, rfl⟩

/-- Columns that may be moved are not protected. -/
theorem not_protected_of_movable {inRange : Int → Bool} (ht : t.WellFormed)
    (h : ensureMovable (columnsIn inRange t) = .ok ()) (hc : t.columns.get? name = some c)
    (hr : inRange c.index = true) : name ∉ Column.protectedNames := by
  unfold ensureMovable at h
  split at h
  · simp at h
  next hnone =>
    have hmem : c ∈ columnsIn inRange t :=
      List.mem_filter.mpr ⟨List.mem_map_of_mem (f := (·.2)) (Fields.mem_of_get? hc), hr⟩
    have hno := List.find?_eq_none.mp hnone c hmem
    rw [← (ht.named hc).1]
    simpa [Column.isProtected] using hno

/-- The column of a protected name is as it is defined. -/
theorem WellFormed.exists_definition (h : t.WellFormed) (hn : name ∈ Column.protectedNames) :
    ∃ d ∈ Column.protectedDefinitions, d.name = name ∧
      ∃ c, t.columns.get? name = some c ∧ c.type = d.type ∧ c.index = d.index := by
  have hdef : ∀ n ∈ Column.protectedNames, ∃ d ∈ Column.protectedDefinitions, d.name = n := by
    decide
  obtain ⟨d, hd, rfl⟩ := hdef name hn
  exact ⟨d, hd, rfl, h.anchored d hd⟩

/-- A protected column has the type that it is defined with. -/
theorem WellFormed.type_eq {type : ColumnType} (h : t.WellFormed) (hc : t.columns.get? name = some c)
    (hn : name ∈ Column.protectedNames)
    (hd : ∀ d ∈ Column.protectedDefinitions, d.name = name → d.type = type) : c.type = type := by
  obtain ⟨d, hmem, hname, c', hc', htype, -⟩ := h.exists_definition hn
  obtain rfl : c' = c := by simpa [hc] using hc'.symm
  exact htype.trans (hd d hmem hname)

theorem WellFormed.mem_keys_of_protected (h : t.WellFormed) (hn : name ∈ Column.protectedNames) :
    name ∈ t.columns.keys := by
  obtain ⟨-, -, -, c, hc, -⟩ := h.exists_definition hn
  exact Fields.mem_keys hc

/-- The protected columns have the indices before all others. -/
theorem WellFormed.index_of_protected (h : t.WellFormed) (hn : name ∈ Column.protectedNames)
    (hc : t.columns.get? name = some c) : c.index < Column.protectedNames.length := by
  have hindex : ∀ d ∈ Column.protectedDefinitions, d.index < Column.protectedNames.length := by
    decide
  obtain ⟨d, hd, -, c', hc', -, hi⟩ := h.exists_definition hn
  obtain rfl : c' = c := by simpa [hc] using hc'.symm
  exact hi ▸ hindex d hd

theorem WellFormed.index_of_not_protected (h : t.WellFormed) (hn : name ∉ Column.protectedNames)
    (hc : t.columns.get? name = some c) : Column.protectedNames.length ≤ c.index := by
  have hdef : ∀ i < Column.protectedNames.length, ∃ d ∈ Column.protectedDefinitions,
      d.index = (i : Int) := by
    decide
  -- Each index below is that of a protected column, and no two columns share an index.
  by_contra hlt
  have hpos := (h.range hc).1
  obtain ⟨d, hd, hi⟩ := hdef c.index.toNat (by omega)
  obtain ⟨c', hc', -, hi'⟩ := h.anchored d hd
  have hname := h.apart hc' hc (by omega)
  exact hn (hname ▸ name_mem_of_mem_definitions hd)

theorem WellFormed.get?_of_mem (h : t.WellFormed) {e : String × Column} (he : e ∈ t.columns) :
    t.columns.get? e.1 = some e.2 :=
  (Fields.get?_eq_some_iff h.nodup).mpr he

/-- The indices are those from zero on, in some order. -/
theorem WellFormed.indices_perm (h : t.WellFormed) :
    (t.columns.map (·.2.index)).Perm ((List.range t.columns.length).map Int.ofNat) := by
  have hnodup : (t.columns.map (·.2.index)).Nodup := by
    refine List.Nodup.map_on ?_ (List.Nodup.of_map _ h.nodup)
    intro e he e' he' hi
    have hkey := h.apart (h.get?_of_mem he) (h.get?_of_mem he') hi
    have hget := h.get?_of_mem he
    rw [hkey, h.get?_of_mem he'] at hget
    exact Prod.ext hkey (Option.some.inj hget).symm
  have hsub : t.columns.map (·.2.index) ⊆ (List.range t.columns.length).map Int.ofNat := by
    intro i hi
    obtain ⟨e, he, rfl⟩ := List.mem_map.mp hi
    have hrange := h.range (h.get?_of_mem he)
    exact List.mem_map.mpr ⟨e.2.index.toNat, List.mem_range.mpr (by omega), Int.toNat_of_nonneg hrange.1⟩
  exact (List.subperm_of_subset hnodup hsub).perm_of_length_le (by simp)

/-- The columns that are not protected have the indices from the number of the protected ones
on. -/
theorem WellFormed.index_iff (h : t.WellFormed) (i : Int) :
    (∃ e ∈ t.columns, e.1 ∉ Column.protectedNames ∧ e.2.index = i) ↔
      Column.protectedNames.length ≤ i ∧ i < t.columns.length := by
  constructor
  · rintro ⟨e, he, hn, rfl⟩
    have hget := h.get?_of_mem he
    exact ⟨h.index_of_not_protected hn hget, (h.range hget).2⟩
  · intro hi
    have hm : i ∈ (List.range t.columns.length).map Int.ofNat :=
      List.mem_map.mpr ⟨i.toNat, List.mem_range.mpr (by omega), Int.toNat_of_nonneg (by omega)⟩
    obtain ⟨e, he, rfl⟩ := List.mem_map.mp (h.indices_perm.mem_iff.mpr hm)
    refine ⟨e, he, fun hn => ?_, rfl⟩
    have := h.index_of_protected hn (h.get?_of_mem he)
    omega

theorem fresh_wellFormed : fresh.WellFormed where
  nodup := by decide
  named h := by
    have hname : ∀ e ∈ fresh.columns, e.2.name = e.1 ∧ e.1 ∈ Column.protectedNames := by decide
    have hm := hname _ (Fields.mem_of_get? h)
    exact ⟨hm.1, Name.isNormal_of_protected hm.2⟩
  range h := by
    have hrange : ∀ e ∈ fresh.columns, 0 ≤ e.2.index ∧ e.2.index < fresh.columns.length := by decide
    exact hrange _ (Fields.mem_of_get? h)
  apart hc hd hi := by
    have hapart : ∀ e ∈ fresh.columns, ∀ e' ∈ fresh.columns, e.2.index = e'.2.index → e.1 = e'.1 := by
      decide
    exact hapart _ (Fields.mem_of_get? hc) _ (Fields.mem_of_get? hd) hi
  anchored := by
    simp [Column.protectedDefinitions, Column.protectedColumns, fresh, Fields.get?_cons]

/-- The columns that are kept may get other indices, if these are apart and below the number of the
columns, and if the protected columns stay where they are. -/
theorem WellFormed.reindex {t' : Table} (h : t.WellFormed) (φ : Int → Int)
    (nodup : t'.columns.keys.Nodup)
    (kept : ∀ {k e}, t'.columns.get? k = some e →
      ∃ c, t.columns.get? k = some c ∧ e.name = c.name ∧ e.index = φ c.index)
    (range : ∀ {k c}, k ∈ t'.columns.keys → t.columns.get? k = some c →
      0 ≤ φ c.index ∧ φ c.index < t'.columns.length)
    (apart : ∀ {k c l d}, k ∈ t'.columns.keys → l ∈ t'.columns.keys →
      t.columns.get? k = some c → t.columns.get? l = some d → φ c.index = φ d.index →
      c.index = d.index)
    (anchored : ∀ {k c}, k ∈ Column.protectedNames → t.columns.get? k = some c →
      ∃ e, t'.columns.get? k = some e ∧ e.type = c.type ∧ e.index = c.index) :
    t'.WellFormed where
  nodup := nodup
  named he := by
    obtain ⟨c, hc, hname, -⟩ := kept he
    exact ⟨hname.trans (h.named hc).1, (h.named hc).2⟩
  range he := by
    obtain ⟨c, hc, -, hindex⟩ := kept he
    exact hindex ▸ range (Fields.mem_keys he) hc
  apart he he' hi := by
    obtain ⟨c, hc, -, hindex⟩ := kept he
    obtain ⟨c', hc', -, hindex'⟩ := kept he'
    exact h.apart hc hc' (apart (Fields.mem_keys he) (Fields.mem_keys he') hc hc'
      (by rw [← hindex, ← hindex', hi]))
  anchored p hp := by
    obtain ⟨c, hc, htype, hindex⟩ := h.anchored p hp
    obtain ⟨e, he, htype', hindex'⟩ := anchored (name_mem_of_mem_definitions hp) hc
    exact ⟨e, he, htype'.trans htype, hindex'.trans hindex⟩

/-- A column may change all but its name and its index, and its type if it is not protected. -/
theorem WellFormed.revise (h : t.WellFormed) (hc : t.columns.get? name = some c)
    (hn : d.name = c.name) (hi : d.index = c.index)
    (hp : d.type = c.type ∨ name ∉ Column.protectedNames) :
    WellFormed { t with columns := t.columns.put name d } := by
  have hget := fun k => Fields.get?_put name d t.columns k
  have hlen : (t.columns.put name d).length = t.columns.length := by
    rw [Fields.length_put, if_pos (Fields.mem_keys hc)]
  refine h.reindex id (Fields.nodup_keys_put h.nodup name d) ?_ ?_ ?_ ?_
  · grind
  · exact fun _ he => hlen ▸ h.range he
  · exact fun _ _ _ _ hi => hi
  · intro k e hk he
    by_cases hkn : k = name
    · subst hkn
      obtain rfl : c = e := by simpa [hc] using he
      exact ⟨d, (hget k).trans (if_pos rfl), hp.resolve_right (not_not_intro hk), hi⟩
    · exact ⟨e, (hget k).trans (by rw [if_neg hkn, he]), rfl, rfl⟩

/-- Two columns that are not protected may change places. -/
theorem WellFormed.exchange (h : t.WellFormed) {other : String} (hc : t.columns.get? name = some c)
    (hd : t.columns.get? other = some d) (hne : other ≠ name) (hpn : name ∉ Column.protectedNames)
    (hpo : other ∉ Column.protectedNames) :
    WellFormed { t with
      columns := (t.columns.put other { d with index := c.index }).put name
        { c with index := d.index } } := by
  let columns := (t.columns.put other { d with index := c.index }).put name { c with index := d.index }
  have hget : ∀ k, columns.get? k = if k = name then some { c with index := d.index }
      else if k = other then some { d with index := c.index } else t.columns.get? k := by
    simp [columns, Fields.get?_put]
  have hname : name ∈ (t.columns.put other { d with index := c.index }).keys := by
    rw [Fields.keys_put_of_mem (Fields.mem_keys hd)]
    exact Fields.mem_keys hc
  have hlen : columns.length = t.columns.length := by
    rw [Fields.length_put, if_pos hname, Fields.length_put, if_pos (Fields.mem_keys hd)]
  have hapart := @h.apart
  -- Of the indices, this exchanges two and leaves the others.
  refine h.reindex (fun i => if i = c.index then d.index else if i = d.index then c.index else i)
    (Fields.nodup_keys_put (Fields.nodup_keys_put h.nodup _ _) _ _) ?_ ?_ ?_ ?_
  · intro k e he
    rw [hget] at he
    grind
  · intro k e _ he
    have := h.range hc
    have := h.range hd
    have := h.range he
    rw [hlen]
    grind
  · intro k e l e' _ _ _ _ hi
    grind
  · intro k e hk he
    have hkn : k ≠ name := fun hkn => hpn (hkn ▸ hk)
    have hko : k ≠ other := fun hko => hpo (hko ▸ hk)
    exact ⟨e, by rw [hget, if_neg hkn, if_neg hko, he], rfl, rfl⟩

theorem get?_shift (inRange : Int → Bool) (step : Int) (t : Table) (key : String) :
    (shift inRange step t).columns.get? key =
      (t.columns.get? key).map fun c =>
        if inRange c.index then { c with index := c.index + step } else c :=
  get?_mapColumns _ t key

/-- What a shifted column was before. -/
theorem of_get?_shift {inRange : Int → Bool} {step : Int}
    (h : (shift inRange step t).columns.get? name = some d) :
    ∃ c, t.columns.get? name = some c ∧ d.name = c.name ∧ d.type = c.type ∧
      d.index = if inRange c.index then c.index + step else c.index := by
  rw [get?_shift] at h
  obtain ⟨c, hc, rfl⟩ := Option.map_eq_some_iff.mp h
  refine ⟨c, hc, ?_⟩
  split <;> exact ⟨rfl, rfl, rfl⟩

theorem get?_shift_of_not {inRange : Int → Bool} {step : Int} (hc : t.columns.get? name = some c)
    (h : inRange c.index = false) : (shift inRange step t).columns.get? name = some c := by
  simp [get?_shift, hc, h]

/-- A column may move, if the columns that close up behind it are not protected. -/
theorem WellFormed.move (h : t.WellFormed) {i step : Int} {between : Int → Bool}
    (hc : t.columns.get? name = some c) (hpn : name ∉ Column.protectedNames)
    (hi : 0 ≤ i ∧ i < t.columns.length)
    (hb : (c.index < i ∧ step = -1 ∧ ∀ j, between j = true ↔ c.index < j ∧ j ≤ i) ∨
      (i ≤ c.index ∧ step = 1 ∧ ∀ j, between j = true ↔ i ≤ j ∧ j < c.index))
    (hm : ensureMovable (columnsIn between t) = .ok ()) :
    WellFormed { t with
      columns := (shift between step t).columns.put name { c with index := i } } := by
  have hget := Fields.get?_put name { c with index := i } (shift between step t).columns
  have hkeys := Fields.mem_keys hc
  have hlen : ((shift between step t).columns.put name { c with index := i }).length =
      t.columns.length := by
    rw [Fields.length_put, shift, keys_mapColumns, if_pos hkeys, length_mapColumns]
  -- Those in between step towards the index that is left, and so nobody keeps the one that is taken.
  refine h.reindex (fun j => if j = c.index then i else if between j then j + step else j)
    (Fields.nodup_keys_put (by simpa [shift] using h.nodup) _ _) ?_ ?_ ?_ ?_
  · intro k e he
    rw [hget] at he
    split at he
    · next hk =>
      obtain rfl := Option.some.inj he
      exact ⟨c, hk ▸ hc, rfl, by simp⟩
    · next hk =>
      obtain ⟨c', hc', hname, -, hindex⟩ := of_get?_shift he
      have hne : c'.index ≠ c.index := fun heq => hk (h.apart hc' hc heq)
      exact ⟨c', hc', hname, by rw [if_neg hne]; exact hindex⟩
  · intro k e _ he
    have := h.range hc
    have := h.range he
    rw [hlen]
    grind
  · intro k e l e' _ _ _ _ hφ
    grind
  · intro k e hk he
    have hkn : k ≠ name := fun hkn => hpn (hkn ▸ hk)
    have hstays : between e.index = false :=
      Bool.eq_false_iff.mpr fun hr => not_protected_of_movable h hm he hr hk
    exact ⟨e, by rw [hget, if_neg hkn, get?_shift_of_not he hstays], rfl, rfl⟩

/-- A column that is not protected may go, if the columns after it close up. -/
theorem WellFormed.remove (h : t.WellFormed) (hc : t.columns.get? name = some c)
    (hpn : name ∉ Column.protectedNames) :
    WellFormed (shift (c.index < ·) (-1) { t with columns := t.columns.drop name }) := by
  have hget := fun k => Fields.get?_drop name t.columns k
  have hlen := Fields.length_drop h.nodup (Fields.mem_keys hc)
  have hgone : ∀ {k e}, k ∈ (t.columns.drop name).keys → t.columns.get? k = some e →
      e.index ≠ c.index := by
    intro k e hk he heq
    rw [Fields.keys_drop, List.mem_filter, h.apart he hc heq] at hk
    simp at hk
  -- As nobody has the index that was freed, those above it may step down.
  refine h.reindex (fun j => if c.index < j then j - 1 else j)
    (by simpa [shift] using Fields.nodup_keys_drop h.nodup name) ?_ ?_ ?_ ?_
  · intro k e he
    obtain ⟨c', hc', hname, -, hindex⟩ := of_get?_shift he
    rw [hget] at hc'
    split at hc'
    · simp at hc'
    · exact ⟨c', hc', hname, by simpa [← Int.sub_eq_add_neg] using hindex⟩
  · intro k e hk he
    have := hgone (by simpa only [shift, keys_mapColumns] using hk) he
    have := h.range hc
    have := h.range he
    simp only [shift, length_mapColumns]
    grind
  · intro k e l e' hk hl he he' hφ
    have := hgone (by simpa only [shift, keys_mapColumns] using hk) he
    have := hgone (by simpa only [shift, keys_mapColumns] using hl) he'
    grind
  · intro k e hk he
    have hkn : k ≠ name := fun hkn => hpn (hkn ▸ hk)
    have := h.index_of_protected hk he
    have := h.index_of_not_protected hpn hc
    refine ⟨e, get?_shift_of_not ?_ (decide_eq_false (by omega)), rfl, rfl⟩
    rw [hget, if_neg hkn, he]

/-- A column may come in at an index, if the columns from there on move up and none is
protected. -/
theorem WellFormed.insert (h : t.WellFormed) (hn : c.name ∉ t.columns.keys)
    (hnormal : Name.IsNormal c.name) (hi : 0 ≤ c.index ∧ c.index ≤ t.columns.length)
    (hm : ensureMovable (columnsIn (c.index ≤ ·) t) = .ok ()) :
    WellFormed ((shift (c.index ≤ ·) 1 t).put c) where
  nodup := Fields.nodup_keys_put (by simpa [shift] using h.nodup) _ _
  named {k e} he := by
    rw [put, Fields.get?_put] at he
    split at he
    · next hk =>
      obtain rfl := Option.some.inj he
      exact ⟨hk.symm, hk ▸ hnormal⟩
    · obtain ⟨c', hc', hname, -⟩ := of_get?_shift he
      exact ⟨hname.trans (h.named hc').1, (h.named hc').2⟩
  range {k e} he := by
    have hlen : ((shift (c.index ≤ ·) 1 t).put c).columns.length = t.columns.length + 1 := by
      rw [put, Fields.length_put, shift, keys_mapColumns, if_neg hn, length_mapColumns]
    rw [hlen]
    rw [put, Fields.get?_put] at he
    split at he
    · obtain rfl := Option.some.inj he
      omega
    · obtain ⟨c', hc', -, -, hindex⟩ := of_get?_shift he
      have := h.range hc'
      grind
  apart {k e l e'} he he' hi' := by
    have hnew : ∀ {k e}, (shift (c.index ≤ ·) 1 t).columns.get? k = some e → e.index ≠ c.index := by
      intro k e he
      obtain ⟨c', hc', -, -, hindex⟩ := of_get?_shift he
      grind
    rw [put, Fields.get?_put] at he he'
    -- Either column may be the new one, whose index no shifted column has.
    split at he <;> split at he'
    · simp_all
    · exact absurd hi'.symm (by rw [← Option.some.inj he]; exact hnew he')
    · exact absurd hi' (by rw [← Option.some.inj he']; exact hnew he)
    · obtain ⟨c₁, hc₁, -, -, hindex₁⟩ := of_get?_shift he
      obtain ⟨c₂, hc₂, -, -, hindex₂⟩ := of_get?_shift he'
      exact h.apart hc₁ hc₂ (by grind)
  anchored p hp := by
    obtain ⟨e, he, htype, hindex⟩ := h.anchored p hp
    have hne : p.name ≠ c.name := fun heq => hn (heq ▸ Fields.mem_keys he)
    have hstays : (decide (c.index ≤ e.index)) = false :=
      Bool.eq_false_iff.mpr fun hr =>
        not_protected_of_movable h hm he hr (name_mem_of_mem_definitions hp)
    exact ⟨e, by rw [put, Fields.get?_put, if_neg hne, get?_shift_of_not he hstays], htype, hindex⟩

/-- A column that is not protected may go by another name, under which it comes last. -/
theorem WellFormed.rename (h : t.WellFormed) {new : String} (hc : t.columns.get? name = some c)
    (hpn : name ∉ Column.protectedNames) (hn : new ∉ t.columns.keys) (hnormal : Name.IsNormal new) :
    WellFormed (Table.put { c with name := new } { t with columns := t.columns.drop name }) where
  nodup := Fields.nodup_keys_put (Fields.nodup_keys_drop h.nodup _) _ _
  named {k e} he := by
    rw [put, Fields.get?_put, Fields.get?_drop] at he
    -- What goes by a key is the renamed column under the new name, or an old one under its own.
    have := @h.named
    grind
  range {k e} he := by
    have hdrop := Fields.length_drop h.nodup (Fields.mem_keys hc)
    have hlen : (Table.put { c with name := new }
        { t with columns := t.columns.drop name }).columns.length = t.columns.length := by
      have hnew : new ∉ Fields.keys (t.columns.drop name) := by
        rw [Fields.keys_drop]
        exact fun hm => hn (List.mem_filter.mp hm).1
      rw [put, Fields.length_put, if_neg hnew]
      exact hdrop
    rw [hlen]
    rw [put, Fields.get?_put, Fields.get?_drop] at he
    have hrange := @h.range
    have := hrange hc
    grind
  apart {k e l e'} he he' hi := by
    rw [put, Fields.get?_put, Fields.get?_drop] at he he'
    have := @h.apart
    grind
  anchored p hp := by
    obtain ⟨e, he, htype, hindex⟩ := h.anchored p hp
    have hold : p.name ≠ name := fun heq => hpn (heq ▸ name_mem_of_mem_definitions hp)
    have hnew : p.name ≠ new := fun heq => hn (heq ▸ Fields.mem_keys he)
    exact ⟨e, by rw [put, Fields.get?_put, if_neg hnew, Fields.get?_drop, if_neg hold, he], htype,
      hindex⟩

end Table

end Cabinet

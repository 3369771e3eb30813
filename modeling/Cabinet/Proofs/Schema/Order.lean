import Cabinet.Proofs.Record.Order
import Cabinet.Proofs.Schema.Agreement
import Cabinet.Proofs.Schema.Request
import Cabinet.Proofs.Storage.Accepts

/-!
Changes of columns as changes of a list: a column is inserted in the order of its table, erased from it,
moved in it, or changes places with another one.
-/

namespace Cabinet

open Schema Storage

namespace Table

variable {t : Table} {name : String} {c : Column} {inRange : Int → Bool}

/-- There is a column at each index. -/
theorem WellFormed.exists_at (h : t.WellFormed) {i : Int} (hi : 0 ≤ i ∧ i < t.columns.length) :
    ∃ c, t.columns.get? c.name = some c ∧ c.index = i := by
  have hlt : i.toNat < t.ordered.length := by
    rw [length_ordered]
    omega
  obtain ⟨hget, hindex⟩ := h.getElem?_ordered.mp (List.getElem?_eq_getElem hlt)
  exact ⟨_, hget, hindex.trans (Int.toNat_of_nonneg hi.1)⟩

/-- There are at least the protected columns. -/
theorem WellFormed.protected_le (h : t.WellFormed) :
    Column.protectedNames.length ≤ t.columns.length := by
  have hlast : ∃ d ∈ Column.protectedDefinitions, d.index + 1 = Column.protectedNames.length := by
    decide
  obtain ⟨d, hd, hindex⟩ := hlast
  obtain ⟨c, hc, -, hi⟩ := h.anchored d hd
  have := (h.range hc).2
  omega

theorem WellFormed.protected_iff (h : t.WellFormed) (hc : t.columns.get? name = some c) :
    name ∈ Column.protectedNames ↔ c.index < Column.protectedNames.length := by
  constructor
  · intro hp
    exact h.index_of_protected hp hc
  · intro hlt
    by_contra hp
    have := h.index_of_not_protected hp hc
    omega

/-- Columns may be moved where none of the protected ones is in range. -/
theorem WellFormed.movable (h : t.WellFormed)
    (hr : ∀ i, inRange i = true → Column.protectedNames.length ≤ i) :
    ensureMovable (columnsIn inRange t) = .ok () := by
  unfold ensureMovable
  split
  · next c hfind =>
    obtain ⟨hmem, hin⟩ := List.mem_filter.mp (List.mem_of_find?_eq_some hfind)
    obtain ⟨e, he, rfl⟩ := List.mem_map.mp hmem
    have hget := h.get?_of_mem he
    have hp : e.1 ∈ Column.protectedNames := by
      rw [← (h.named hget).1]
      simpa [Column.isProtected] using List.find?_some hfind
    have := (h.protected_iff hget).mp hp
    have := hr _ hin
    omega
  · rfl

/-- Columns may not be moved where one of the protected ones is in range. -/
theorem WellFormed.not_movable (h : t.WellFormed) (inRange : Int → Bool) {i : Int}
    (hi : 0 ≤ i ∧ i < Column.protectedNames.length) (hr : inRange i = true) :
    ∃ e, ensureMovable (columnsIn inRange t) = .error e ∧ e.kind = .shielded := by
  have hlen := h.protected_le
  obtain ⟨c, hget, rfl⟩ := h.exists_at (i := i) (by omega)
  unfold ensureMovable
  split
  · exact ⟨_, rfl, rfl⟩
  · next hnone =>
    have hmem : c ∈ columnsIn inRange t :=
      List.mem_filter.mpr ⟨List.mem_map_of_mem (f := (·.2)) (Fields.mem_of_get? hget), hr⟩
    have hp := (h.protected_iff hget).mpr hi.2
    exact absurd (by simpa [Column.isProtected] using hp) (List.find?_eq_none.mp hnone c hmem)

/-- The column at an index is the one that is found there. -/
theorem WellFormed.find?_at (h : t.WellFormed) (hc : t.columns.get? c.name = some c) :
    t.columns.find? (fun (_, d) => d.index == c.index) = some (c.name, c) := by
  cases hf : t.columns.find? (fun (_, d) => d.index == c.index) with
  | none => simpa using List.find?_eq_none.mp hf _ (Fields.mem_of_get? hc)
  | some e =>
    have hget := h.get?_of_mem (List.mem_of_find?_eq_some hf)
    have hkey := h.apart hget hc (by simpa using List.find?_some hf)
    rw [hkey, hc] at hget
    exact congrArg some (Prod.ext hkey (Option.some.inj hget).symm)

theorem WellFormed.find?_outside (h : t.WellFormed) {i : Int} (hi : i < 0 ∨ t.columns.length ≤ i) :
    t.columns.find? (fun (_, d) => d.index == i) = none := by
  refine List.find?_eq_none.mpr fun e he hindex => ?_
  have hrange := h.range (h.get?_of_mem he)
  have heq : e.2.index = i := by simpa using hindex
  omega

end Table

namespace Schema

/-- How a request ends that names an index: the column has taken its place there, behind the protected
ones; or the index is that of a protected column; or it lies outside. -/
inductive Placed {α : Type} (bound index : Int) (outside : Kind) (done : α → Prop) : Except Error α → Prop
  | placed {a : α} (behind : Column.protectedNames.length ≤ index) (below : index < bound)
    (made : done a) : Placed bound index outside done (.ok a)
  | shielded {e : Error} (lower : 0 ≤ index) (upper : index < Column.protectedNames.length)
    (kind : e.kind = .shielded) : Placed bound index outside done (.error e)
  | outside {e : Error} (range : index < 0 ∨ bound ≤ index) (kind : e.kind = outside) :
    Placed bound index outside done (.error e)

/-- Of a record nothing is changed but that the columns of a table come in another order. -/
def Relisted (r : Record) (table : String) (t : Table) (columns : List Column) (r' : Record) : Prop :=
  ∃ t', r' = r.put table t' ∧ t'.hidden = t.hidden ∧ t'.ordered = columns

/-- What is made of a record are its columns in another order. -/
def Relists (r : Record) (table : String) (t : Table) (columns : List Column)
    (made : Option (Record × Database)) : Prop :=
  ∃ r' db, made = some (r', db) ∧ Relisted r table t columns r'

variable {r r' : Record} {db db' : Database} {table name : String} {t : Table} {c : Column}

section Making

variable (hr : r.Sound) (ht : r.tables.get? table = some t)

include hr ht

/-- A new column is inserted at its index. -/
theorem createColumn_placed (hdb : db.Regular) (hholds : db.Holds r.tables) (hn : Name.IsNormal name)
    (hclean : admitTexts [name] = .ok ()) (hnew : name ∉ t.columns.keys) (type : ColumnType)
    (hidden : Bool) (index? : Option Int) :
    Placed (t.columns.length + 1) (index?.getD t.columns.length) .validation
      (Relists r table t (Column.numbered (t.ordered.insertIdx (index?.getD t.columns.length).toNat
        { name, type, index := index?.getD t.columns.length, hidden })))
      ((createColumn table name type hidden index?).made r db) := by
  have hs := hr.tables ht
  have hcontains : t.columns.contains name = false := by
    rw [Bool.eq_false_iff]
    exact mt Fields.contains_iff.mp hnew
  simp only [Change.made, createColumn, Record.table_eq_ok.mpr ht, ok_bind, hcontains,
    Bool.false_eq_true, if_false, throw_eq_error, error_bind]
  generalize index?.getD (t.columns.length : Int) = index
  by_cases houtside : index < 0 ∨ t.columns.length < index
  · rw [if_pos (by simpa using houtside)]
    exact .outside (by omega) rfl
  rw [if_neg (by simpa using houtside)]
  by_cases hshielded : index < Column.protectedNames.length
  · obtain ⟨e, he, hkind⟩ := hs.not_movable (index ≤ ·) (i := index) (by omega) (by simp)
    rw [he]
    exact .shielded (by omega) hshielded hkind
  · have hm : ensureMovable (columnsIn (index ≤ ·) t) = .ok () :=
      hs.movable fun i hi => by
        have := of_decide_eq_true hi
        omega
    obtain ⟨db', hdb'⟩ := hholds.addColumn_accepted hr.areNamed hdb ht hn hclean hnew type.storage
    have hon : (Statement.addColumn table name type.storage).on db = .ok db' :=
      Statement.on_eq_ok.mpr hdb'
    rw [hm, ok_bind, hon, ok_bind]
    refine .placed (by omega) (by omega) ⟨_, _, rfl, _, rfl, rfl, ?_⟩
    exact hs.ordered_insert (c := { name, type, index, hidden }) hnew hn (by dsimp only; omega) hm

variable (hc : t.columns.get? name = some c) (hp : name ∉ Column.protectedNames)

include hc hp

/-- A column is erased from its place, and inserted at its new index. -/
theorem moveColumn_placed (index : Int) :
    Placed t.columns.length index .validation
      (Relists r table t (Column.numbered
        ((t.ordered.eraseIdx c.index.toNat).insertIdx index.toNat c)))
      ((moveColumn table name index).made r db) := by
  have hs := hr.tables ht
  have hrange := hs.range hc
  have hbehind := hs.index_of_not_protected hp hc
  have hcolumn : t.column name table = .ok c := by rw [Table.column, hc]
  simp only [Revision.made, moveColumn, Record.table_eq_ok.mpr ht, ok_bind, hcolumn]
  by_cases houtside : index < 0 ∨ t.columns.length ≤ index
  · rw [if_pos (by simpa using houtside)]
    exact .outside houtside rfl
  rw [if_neg (by simpa using houtside)]
  -- Upwards only columns behind the moved one give way, none of which is protected; downwards the
  -- column may meet one that is.
  by_cases hup : c.index < index
  · have hm : ensureMovable (columnsIn (fun i => c.index < i && i ≤ index) t) = .ok () :=
      hs.movable fun i hi => by
        rw [Bool.and_eq_true, decide_eq_true_eq, decide_eq_true_eq] at hi
        omega
    simp only [if_pos hup, hm, ok_bind]
    refine .placed (by omega) (by omega) ⟨_, _, rfl, _, rfl, rfl, ?_⟩
    exact hs.ordered_move hc hp (by omega) (.inl ⟨hup, rfl, by simp⟩) hm
  simp only [if_neg hup]
  by_cases hshielded : index < Column.protectedNames.length
  · obtain ⟨e, he, hkind⟩ := hs.not_movable (fun i => index ≤ i && i < c.index) (i := index)
      (by omega) (by
        rw [Bool.and_eq_true, decide_eq_true_eq, decide_eq_true_eq]
        omega)
    rw [he]
    exact .shielded (by omega) hshielded hkind
  · have hm : ensureMovable (columnsIn (fun i => index ≤ i && i < c.index) t) = .ok () :=
      hs.movable fun i hi => by
        rw [Bool.and_eq_true, decide_eq_true_eq, decide_eq_true_eq] at hi
        omega
    rw [hm, ok_bind]
    refine .placed (by omega) (by omega) ⟨_, _, rfl, _, rfl, rfl, ?_⟩
    exact hs.ordered_move hc hp (by omega) (.inr ⟨by omega, rfl, by simp⟩) hm

/-- A column changes places with the one at an index. -/
theorem swapColumn_placed (index : Int) :
    Placed t.columns.length index .notFound
      (Relists r table t (Column.numbered
        (t.ordered.toArray.swapIfInBounds c.index.toNat index.toNat).toList))
      ((swapColumn table name index).made r db) := by
  have hs := hr.tables ht
  have hcolumn : t.column name table = .ok c := by rw [Table.column, hc]
  simp only [Revision.made, swapColumn, Record.table_eq_ok.mpr ht, ok_bind, hcolumn]
  by_cases houtside : index < 0 ∨ t.columns.length ≤ index
  · rw [hs.find?_outside houtside]
    exact .outside houtside rfl
  obtain ⟨d, hd, rfl⟩ := hs.exists_at (i := index) (by omega)
  rw [hs.find?_at hd, Table.toList_swapIfInBounds (hs.getElem?_index hc) (hs.getElem?_index hd)]
  by_cases hpd : d.name ∈ Column.protectedNames
  · have hupper := (hs.protected_iff hd).mp hpd
    have hrefused : ensureUnprotected d.name "moved" = .error (.protectedColumn d.name "moved") :=
      if_pos (List.contains_iff_mem.mpr hpd)
    simp only [hrefused]
    exact .shielded (by omega) hupper rfl
  have hfree : ensureUnprotected d.name "moved" = .ok () :=
    if_neg (mt List.contains_iff_mem.mp hpd)
  have hbehind := hs.index_of_not_protected hpd hd
  simp only [hfree, ok_bind]
  by_cases hsame : d.name = name
  · obtain rfl : c = d := by
      rw [hsame, hc] at hd
      exact Option.some.inj hd
    rw [if_pos hsame]
    refine .placed hbehind (by omega) ⟨_, _, rfl, t, ?_, rfl, ?_⟩
    · rw [Record.put, Fields.put_get? ht]
    · rw [hs.set_ordered hc, hs.set_ordered hc, hs.numbered_ordered]
  · rw [if_neg hsame]
    refine .placed hbehind (by omega) ⟨_, _, rfl, _, rfl, rfl, ?_⟩
    exact hs.ordered_exchange hc hd hsame hp hpd

/-- A column is erased from the order. -/
theorem deleteColumn_relists (hdb : db.Regular) (hholds : db.Holds r.tables) :
    ∃ made, (deleteColumn table name).made r db = .ok made ∧
      Relists r table t (Column.numbered (t.ordered.eraseIdx c.index.toNat)) made := by
  have hs := hr.tables ht
  have hcolumn : t.column name table = .ok c := by rw [Table.column, hc]
  obtain ⟨db', hdb'⟩ := hholds.dropColumn_accepted hr.areNamed hdb ht (Fields.mem_keys hc) hp
  have hon : (Statement.dropColumn table name).on db = .ok db' := Statement.on_eq_ok.mpr hdb'
  simp only [Change.made, deleteColumn, Record.table_eq_ok.mpr ht, ok_bind, hcolumn, hon]
  exact ⟨_, rfl, _, _, rfl, _, rfl, rfl, hs.ordered_remove hc hp⟩

end Making

section Editing

variable (hr : r.Sound) (ht : r.tables.get? table = some t) (hc : t.columns.get? name = some c)

include hr ht hc

/-- A column that is revised stays in its place. -/
theorem Revised.relisted {d : Column} (h : Revised r table name d r') :
    ∃ d, d.index = c.index ∧ Relisted r table t (t.ordered.set c.index.toNat d) r' := by
  obtain ⟨u, e, hu, he, hname, htype, hindex, rfl⟩ := h
  obtain rfl := Option.some.inj (hu.symm.trans ht)
  obtain rfl := Option.some.inj (he.symm.trans hc)
  exact ⟨d, hindex, _, rfl, rfl, (hr.tables ht).ordered_revise hc hname hindex (.inl htype)⟩

/-- A column that is renamed or retyped stays in its place. -/
theorem editColumn_relisted {id : String} {name? : Option String} {type? : Option ColumnType}
    {out : Outcome Column} (hp : name ∉ Column.protectedNames) (hn : ∀ new ∈ name?, Name.IsNormal new)
    (h : editColumn id table name name? type? r db = .ok out) :
    ∃ d, d.index = c.index ∧ Relisted r table t (t.ordered.set c.index.toNat d) out.record := by
  obtain ⟨u, e, t₁, c₁, db₁, t₂, c₂, hu, he, hfirst, hsecond, hout⟩ := editColumn_eq_ok h
  obtain rfl := Option.some.inj (hu.symm.trans ht)
  obtain rfl := Option.some.inj (he.symm.trans hc)
  have hs := hr.tables ht
  have hname := (hs.named hc).1
  have hrenamed : t₁.WellFormed ∧ t₁.columns.get? c₁.name = some c₁ ∧
      c₁.name ∉ Column.protectedNames ∧ c₁.index = e.index ∧ t₁.hidden = u.hidden ∧
      t₁.ordered = u.ordered.set e.index.toNat c₁ := by
    rcases hfirst with ⟨-, heq⟩ | ⟨new, hnew, -, hrename⟩
    · simp only [Prod.mk.injEq] at heq
      obtain ⟨rfl, rfl, rfl⟩ := heq
      exact ⟨hs.toWellFormed, hname.symm ▸ hc, hname.symm ▸ hp, rfl, rfl, (hs.set_ordered hc).symm⟩
    · obtain ⟨hfree, -, rfl, rfl⟩ := renameColumn_eq_ok hrename
      obtain ⟨hs₁, hc₁, hp₁⟩ := renameColumn_sound hs hc hp (hn new hnew) hrename
      exact ⟨hs₁.toWellFormed, hc₁, hp₁, rfl, rfl, hs.ordered_rename hc hp hfree (hn new hnew)⟩
  obtain ⟨hs₁, hc₁, hp₁, hindex, hhidden, hordered⟩ := hrenamed
  rcases hsecond with ⟨-, heq⟩ | ⟨type, -, -, hretype⟩
  · simp only [Prod.mk.injEq] at heq
    obtain ⟨rfl, rfl, -⟩ := heq
    exact ⟨c₂, hindex, t₂, hout, hhidden, hordered⟩
  · obtain ⟨-, rfl, rfl⟩ := retypeColumn_eq_ok hretype
    let d : Column := { c₁ with type, tags := [], rule := .text "" }
    refine ⟨d, hindex, _, hout, hhidden, ?_⟩
    have hset : ∀ d, t₁.ordered.set c₁.index.toNat d = u.ordered.set e.index.toNat d := by
      intro d
      rw [hordered, hindex, List.set_set]
    exact (hs₁.ordered_revise (d := d) hc₁ rfl rfl (.inr hp₁)).trans (hset d)

end Editing

end Schema

end Cabinet

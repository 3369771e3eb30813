import Cabinet.Proofs.Record.Order
import Cabinet.Record.Document

/-!
Records that can be written: whether one can depends on its numbers alone, and those of its columns are
the indices.
-/

namespace Cabinet

open Json

namespace Json

theorem fieldsAreWritable_iff {fields : List (String × Value)} :
    fieldsAreWritable fields = true ↔ ∀ e ∈ fields, isWritable e.2 = true := by
  induction fields with
  | nil => simp [fieldsAreWritable]
  | cons e rest ih => simp [fieldsAreWritable, ih]

end Json

namespace Record

variable {r : Record} {t : Table} {c : Column} {name : String}

/-- A column can be written at an index that can be written. -/
theorem isWritable_columnDocument_at (h : isWritable (columnDocument c) = true) {i : Int}
    (hi : isWritable (.int i) = true) : isWritable (columnDocument { c with index := i }) = true := by
  simp only [columnDocument, isWritable, fieldsAreWritable_iff, List.mem_append] at h ⊢
  rintro e (he | he)
  · simp only [List.mem_cons, List.not_mem_nil, or_false] at he
    rcases he with rfl | rfl | rfl
    · rfl
    · rfl
    · exact hi
  · exact h e (.inr he)

theorem isWritable_index (h : isWritable (columnDocument c) = true) :
    isWritable (.int c.index) = true := by
  simp only [columnDocument, isWritable, fieldsAreWritable_iff] at h
  exact h ("index", .int c.index) (by simp)

/-- A new column can be written at an index that can be written. -/
theorem isWritable_new (name : String) (type : ColumnType) {index : Int}
    (hi : isWritable (.int index) = true) (hidden : Bool) :
    isWritable (columnDocument { name, type, index, hidden }) = true := by
  refine isWritable_columnDocument_at (c := { name, type, index := 0, hidden }) ?_ hi
  have hzero : isWritable (.int 0) = true := by decide
  simp only [columnDocument, isWritable, fieldsAreWritable_iff, List.mem_append]
  rintro e (he | he)
  · simp only [List.mem_cons, List.not_mem_nil, or_false] at he
    rcases he with rfl | rfl | rfl
    · rfl
    · rfl
    · exact hzero
  · split at he
    · obtain rfl := List.mem_singleton.mp he
      rfl
    · split at he
      · obtain rfl := List.mem_singleton.mp he
        rfl
      · simp at he

theorem isWritable_tableDocument :
    isWritable (tableDocument t) = true ↔ ∀ e ∈ t.columns, isWritable (columnDocument e.2) = true := by
  simp only [tableDocument, isWritable, fieldsAreWritable, fieldsAreWritable_iff, List.forall_mem_map,
    Bool.true_and, Bool.and_true]

theorem isWritable_column (h : isWritable r.toDocument = true) (ht : r.tables.get? name = some t)
    {key : String} (hc : t.columns.get? key = some c) : isWritable (columnDocument c) = true := by
  simp only [toDocument, isWritable, fieldsAreWritable, Bool.and_eq_true] at h
  obtain ⟨-, -, -, -, -, -, -, -, htables, -⟩ := h
  rw [fieldsAreWritable_iff] at htables
  have htable := htables _ (List.mem_map_of_mem (Fields.mem_of_get? ht))
  exact isWritable_tableDocument.mp htable _ (Fields.mem_of_get? hc)

/-- A record can be written after a table has changed, if its next version and the columns can be. -/
theorem isWritable_put (h : isWritable r.toDocument = true) {version : Int}
    (hv : isWritable (.int version) = true)
    (ht : ∀ e ∈ t.columns, isWritable (columnDocument e.2) = true) (name stamp : String) :
    isWritable (toDocument { r.put name t with modifiedAt := .text stamp, version }) = true := by
  simp only [toDocument, isWritable, fieldsAreWritable, Bool.and_eq_true] at h ⊢
  obtain ⟨hid, hname, hcreated, -, hdescription, htags, -, -, htables, -⟩ := h
  refine ⟨hid, hname, hcreated, trivial, hdescription, htags, trivial, hv, ?_, trivial⟩
  rw [fieldsAreWritable_iff] at htables ⊢
  intro e he
  obtain ⟨entry, hentry, rfl⟩ := List.mem_map.mp he
  rcases Fields.mem_of_mem_put hentry with rfl | hold
  · exact isWritable_tableDocument.mpr ht
  · exact htables _ (List.mem_map_of_mem hold)

/-- Of the indices of a table that can be written each can be written. -/
theorem isWritable_of_lt (h : isWritable r.toDocument = true) (ht : r.tables.get? name = some t)
    (hw : t.WellFormed) {i : Nat} (hi : i < t.columns.length) : isWritable (.int i) = true := by
  rw [← Table.length_ordered] at hi
  obtain ⟨hget, hindex⟩ := hw.getElem?_ordered.mp (List.getElem?_eq_getElem hi)
  exact hindex ▸ isWritable_index (isWritable_column h ht hget)

/-- Columns that are put in another order can be written, if their new indices can be. -/
theorem isWritable_of_numbered {t' : Table} {columns : List Column} (hw : t'.WellFormed)
    (hordered : t'.ordered = Column.numbered columns)
    (hcolumns : ∀ c ∈ columns, isWritable (columnDocument c) = true)
    (hindices : ∀ i : Nat, i < columns.length → isWritable (.int i) = true) :
    ∀ e ∈ t'.columns, isWritable (columnDocument e.2) = true := by
  intro e he
  have hget := hw.get?_of_mem he
  have hmem := (Table.mem_ordered_iff hw).mpr ((hw.named hget).1 ▸ hget)
  rw [hordered, Column.numbered, List.mem_mapIdx] at hmem
  obtain ⟨i, hi, heq⟩ := hmem
  exact heq ▸ isWritable_columnDocument_at (hcolumns _ (List.getElem_mem hi)) (hindices i hi)

end Record

end Cabinet

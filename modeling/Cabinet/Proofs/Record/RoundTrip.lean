import Cabinet.Column.Accept
import Cabinet.Proofs.Json.RoundTrip
import Cabinet.Proofs.Record.Table
import Cabinet.Record.Document

/-!
Records that are read as they were written.
-/

namespace Cabinet

open Json

/-- A column of the catalog, whose texts are values that are read as they were written. -/
structure Column.Typed (c : Column) : Prop where
  catalog : c.type.isOther = false
  tags : ∀ t ∈ c.tags, IsPlain t.name ∧ IsPlain t.description
  rule : IsPlain c.rule

structure Table.Typed (t : Table) : Prop where
  nodup : t.columns.keys.Nodup
  columns : ∀ e ∈ t.columns, e.2.Typed

/-- Whether the types of all columns are in the catalog. -/
def Table.Catalogued (t : Table) : Prop :=
  ∀ e ∈ t.columns, e.2.type.isOther = false

def Record.Catalogued (r : Record) : Prop :=
  ∀ e ∈ r.tables, e.2.Catalogued

/-- A record of values that are read as they were written. -/
structure Record.Typed (r : Record) : Prop where
  plain : ∀ v ∈ [r.id, r.displayName, r.createdAt, r.modifiedAt, r.description], IsPlain v
  tags : ∀ v ∈ r.tags, IsPlain v
  nodup : r.tables.keys.Nodup
  tables : ∀ e ∈ r.tables, e.2.Typed

/-- What a document keeps of a column: tags and rules only where the type has a use for them. -/
def Column.kept (name : String) (c : Column) : Column :=
  { c with
    name
    tags := if c.type.isTag then c.tags else []
    rule := if c.type = .custom then c.rule else .text "" }

def Table.kept (t : Table) : Table :=
  { t with columns := t.columns.map fun (name, c) => (name, c.kept name) }

/-- What a document keeps of a record. -/
def Record.kept (r : Record) : Record :=
  { r with tables := r.tables.map fun (name, t) => (name, t.kept) }

/-- A column keeps what a document says of it: its type is in the catalog, and it has tags or a rule
only where the type has a use for them. The names of the tags are normal, and no two are the same; a
rule that is not empty can be compiled. -/
structure Column.Sound (c : Column) : Prop where
  catalog : c.type.isOther = false
  tags : ∀ t ∈ c.tags, IsPlain t.name ∧ IsPlain t.description
  tagless : c.type.isTag = false → c.tags = []
  rule : IsPlain c.rule
  ruleless : c.type ≠ .custom → c.rule = .text ""
  named : ∀ t ∈ c.tags, ∃ tag, t.name = .text tag ∧ Name.IsNormal tag
  distinct : (c.tags.map (·.name)).Nodup
  compiled : ∃ rule, c.rule = .text rule ∧ (rule ≠ "" → ∃ p, c.compileRule rule = .ok p)

/-- A well-formed table whose columns are read as they were written. -/
structure Table.Sound (t : Table) : Prop extends t.WellFormed where
  columns : ∀ {key c}, t.columns.get? key = some c → c.Sound

/-- A record whose names are normal, whose tables are well-formed, and which is read as it was
written. -/
structure Record.Sound (r : Record) : Prop where
  plain : ∀ v ∈ [r.id, r.displayName, r.createdAt, r.modifiedAt, r.description], IsPlain v
  tags : ∀ v ∈ r.tags, IsPlain v
  nodup : r.tables.keys.Nodup
  normal : ∀ {name t}, r.tables.get? name = some t → Name.IsNormal name
  tables : ∀ {name t}, r.tables.get? name = some t → t.Sound

theorem Json.isPlain_text (s : String) : IsPlain (.text s) := trivial

namespace Record.Sound

variable {r : Record}

theorem id (h : r.Sound) : IsPlain r.id :=
  h.plain _ (by simp)

theorem displayName (h : r.Sound) : IsPlain r.displayName :=
  h.plain _ (by simp)

theorem modifiedAt (h : r.Sound) : IsPlain r.modifiedAt :=
  h.plain _ (by simp)

theorem at_version (h : r.Sound) (version : Int) : Record.Sound { r with version } :=
  ⟨h.plain, h.tags, h.nodup, h.normal, h.tables⟩

theorem shown (h : r.Sound) (hidden : Bool) : Record.Sound { r with hidden } :=
  ⟨h.plain, h.tags, h.nodup, h.normal, h.tables⟩

theorem relabel (h : r.Sound) {id displayName modifiedAt : Value} (hid : IsPlain id)
    (hname : IsPlain displayName) (hat : IsPlain modifiedAt) :
    Record.Sound { r with id, displayName, modifiedAt } where
  plain := by
    have hplain := h.plain
    simp only [List.mem_cons, List.not_mem_nil, or_false, forall_eq_or_imp, forall_eq] at hplain ⊢
    exact ⟨hid, hname, hplain.2.2.1, hat, hplain.2.2.2.2⟩
  tags := h.tags
  nodup := h.nodup
  normal := h.normal
  tables := h.tables

end Record.Sound

namespace Json

theorem arePlain_iff {items : List Value} : ArePlain items ↔ ∀ v ∈ items, IsPlain v := by
  induction items with
  | nil => simp [ArePlain]
  | cons v rest ih => simp [ArePlain, ih]

theorem fieldsArePlain_iff {fields : Fields Value} :
    FieldsArePlain fields ↔ ∀ e ∈ fields, IsPlain e.2 := by
  induction fields with
  | nil => simp [FieldsArePlain]
  | cons e rest ih => simp [FieldsArePlain, ih]

theorem isPlain_object {fields : Fields Value} :
    IsPlain (.object fields) ↔ fields.keys.Nodup ∧ ∀ e ∈ fields, IsPlain e.2 := by
  rw [IsPlain, fieldsArePlain_iff]

end Json

namespace ColumnType

theorem ofLabel?_label {type : ColumnType} (h : type.isOther = false) :
    ofLabel? type.label = some type := by
  cases type with
  | other name => simp [isOther] at h
  | _ => rfl

end ColumnType

namespace Record

variable {r : Record} {t : Table} {c : Column}

theorem readTag_tagDocument (t : Tag) : readTag (tagDocument t) = .ok t := rfl

theorem elements_list (items : List Value) : elements (.list items) = .ok items := rfl

theorem readColumn_columnDocument (table : String) (place : Nat) (name : String)
    (h : c.type.isOther = false) :
    readColumn table place name (columnDocument c) = .ok (c.kept name) := by
  have htype := ColumnType.ofLabel?_label h
  have htags : (c.tags.map tagDocument).mapM readTag = .ok c.tags := by
    have hread := mapM_map_eq_ok (k := fun t => t) fun t (_ : t ∈ c.tags) => readTag_tagDocument t
    simpa using hread
  obtain ⟨own, type, index, hidden, tags, rule⟩ := c
  by_cases hi : type.isTag = true
  · have hc : type ≠ .custom := by rintro rfl; simp [ColumnType.isTag] at hi
    simp_all [readColumn, columnDocument, members, readType, integer, Fields.get?_cons,
      Value.truthy, elements_list, Column.kept]
  · by_cases hc : type = .custom
    · simp_all [readColumn, columnDocument, members, readType, integer, Fields.get?_cons,
        Value.truthy, elements_list, Column.kept]
    · simp_all [readColumn, columnDocument, members, readType, integer, Fields.get?_cons,
        Value.truthy, elements_list, Column.kept]

theorem readColumns_tableDocument (name : String) (h : t.Catalogued) :
    (t.columns.map fun (key, c) => (key, columnDocument c)).zipIdx.mapM (fun ((column, d), place) => do
      let c ← readColumn name place column d
      return (column, c)) = .ok t.kept.columns := by
  refine mapM_zipIdx_map_eq_ok 0 fun e he i => ?_
  have hread := readColumn_columnDocument name i e.1 (h e he)
  simp [hread]

theorem readTable_tableDocument (name : String) (h : t.Catalogued) :
    readTable name (tableDocument t) = .ok t.kept := by
  have hcolumns := readColumns_tableDocument name h
  obtain ⟨hidden, columns⟩ := t
  simp_all [readTable, tableDocument, members, Fields.get?_cons, Value.truthy, Table.kept]

theorem readTables_toDocument (h : r.Catalogued) :
    (r.tables.map fun (name, t) => (name, tableDocument t)).mapM (fun (name, d) => do
      let t ← readTable name d
      return (name, t)) = .ok r.kept.tables := by
  refine mapM_map_eq_ok fun e he => ?_
  have hread := readTable_tableDocument e.1 (h e he)
  simp [hread]

/-- The document of a record is read as what it keeps. -/
theorem ofDocument_toDocument (h : r.Catalogued) : ofDocument r.toDocument = .ok r.kept := by
  have htables := readTables_toDocument h
  obtain ⟨id, displayName, createdAt, modifiedAt, description, tags, hidden, version, tables⟩ := r
  simp_all [ofDocument, toDocument, members, Fields.get?_cons, Value.truthy, integer, elements_list,
    kept]

theorem isPlain_columnDocument (h : c.Typed) : IsPlain (columnDocument c) := by
  have htags : ArePlain (c.tags.map tagDocument) := by
    refine arePlain_iff.mpr fun v hv => ?_
    obtain ⟨t, ht, rfl⟩ := List.mem_map.mp hv
    have hplain := h.tags t ht
    exact isPlain_object.mpr ⟨by simp [Fields.keys], by simp [hplain.1, hplain.2]⟩
  have hrule := h.rule
  rw [columnDocument, isPlain_object]
  split
  · simp [Fields.keys, IsPlain, htags]
  · split <;> simp [Fields.keys, IsPlain, hrule]

theorem isPlain_tableDocument (h : t.Typed) : IsPlain (tableDocument t) := by
  have hcolumns : IsPlain (.object (t.columns.map fun (name, c) => (name, columnDocument c))) := by
    refine isPlain_object.mpr ⟨by simpa only [Fields.keys_map] using h.nodup, fun e he => ?_⟩
    obtain ⟨⟨name, c⟩, hm, rfl⟩ := List.mem_map.mp he
    exact isPlain_columnDocument (h.columns _ hm)
  refine isPlain_object.mpr ⟨by simp [Fields.keys], ?_⟩
  simp only [List.mem_cons, List.not_mem_nil, or_false, forall_eq_or_imp, forall_eq]
  exact ⟨trivial, hcolumns⟩

theorem isPlain_toDocument (h : r.Typed) : IsPlain r.toDocument := by
  have htables : IsPlain (.object (r.tables.map fun (name, t) => (name, tableDocument t))) := by
    refine isPlain_object.mpr ⟨by simpa only [Fields.keys_map] using h.nodup, fun e he => ?_⟩
    obtain ⟨⟨name, t⟩, hm, rfl⟩ := List.mem_map.mp he
    exact isPlain_tableDocument (h.tables _ hm)
  have htags : IsPlain (.list r.tags) := arePlain_iff.mpr h.tags
  have hplain := h.plain
  simp only [List.mem_cons, List.not_mem_nil, or_false, forall_eq_or_imp, forall_eq] at hplain
  refine isPlain_object.mpr ⟨by simp [Fields.keys], ?_⟩
  simp only [List.mem_cons, List.not_mem_nil, or_false, forall_eq_or_imp, forall_eq]
  exact ⟨hplain.1, hplain.2.1, hplain.2.2.1, hplain.2.2.2.1, hplain.2.2.2.2, htags, trivial, trivial,
    htables⟩

/-- A record that was written is read as what its document keeps. -/
theorem read_write_kept (h : r.Typed) (hw : isWritable r.toDocument = true) :
    read r.write = .ok r.kept := by
  rw [read, write, Json.read_write (isPlain_toDocument h) hw]
  exact ofDocument_toDocument fun e he f hf => ((h.tables e he).columns f hf).catalog

end Record

theorem Column.Typed.kept {c : Column} (h : c.Typed) (name : String) : (c.kept name).Typed where
  catalog := h.catalog
  tags := by
    intro t ht
    simp only [Column.kept] at ht
    split at ht
    · exact h.tags t ht
    · simp at ht
  rule := by
    simp only [Column.kept]
    split
    · exact h.rule
    · exact Json.isPlain_text ""

theorem Table.Typed.kept {t : Table} (h : t.Typed) : t.kept.Typed where
  nodup := by simpa [Table.kept, Fields.keys, Function.comp_def] using h.nodup
  columns := by
    intro e he
    obtain ⟨e', he', rfl⟩ := List.mem_map.mp he
    exact (h.columns e' he').kept e'.1

theorem Record.Typed.kept {r : Record} (h : r.Typed) : r.kept.Typed where
  plain := h.plain
  tags := h.tags
  nodup := by simpa only [Record.kept, Fields.keys_map] using h.nodup
  tables := by
    intro e he
    obtain ⟨e', he', rfl⟩ := List.mem_map.mp he
    exact (h.tables e' he').kept

theorem Record.Typed.at_version {r : Record} (h : r.Typed) (version : Int) :
    Record.Typed { r with version } :=
  ⟨h.plain, h.tags, h.nodup, h.tables⟩

theorem Column.Sound.typed {c : Column} (h : c.Sound) : c.Typed :=
  ⟨h.catalog, h.tags, h.rule⟩

theorem Column.Sound.kept_eq {c : Column} (h : c.Sound) : c.kept c.name = c := by
  obtain ⟨name, type, index, hidden, tags, rule⟩ := c
  have htagless : type.isTag = false → tags = [] := h.tagless
  have hruleless : type ≠ .custom → rule = .text "" := h.ruleless
  simp only [Column.kept, Column.mk.injEq, true_and]
  constructor
  · split
    · rfl
    · next hi => exact (htagless (by simpa using hi)).symm
  · split
    · rfl
    · next hc => exact (hruleless hc).symm

theorem Table.Sound.typed {t : Table} (h : t.Sound) : t.Typed :=
  ⟨h.nodup, fun _ he => (h.columns (h.get?_of_mem he)).typed⟩

theorem Table.Sound.kept_eq {t : Table} (h : t.Sound) : t.kept = t := by
  have hcolumns : (t.columns.map fun (name, c) => (name, c.kept name)) = t.columns := by
    refine (List.map_congr_left fun e he => ?_).trans t.columns.map_id
    have hget := h.get?_of_mem he
    have hkept := (h.columns hget).kept_eq
    rw [(h.named hget).1] at hkept
    exact Prod.ext rfl hkept
  rw [Table.kept, hcolumns]

namespace Record

variable {r : Record}

theorem Sound.typed (h : r.Sound) : r.Typed :=
  ⟨h.plain, h.tags, h.nodup, fun _ he => (h.tables ((Fields.get?_eq_some_iff h.nodup).mpr he)).typed⟩

theorem Sound.kept_eq (h : r.Sound) : r.kept = r := by
  have htables : (r.tables.map fun (name, t) => (name, t.kept)) = r.tables := by
    refine (List.map_congr_left fun e he => ?_).trans r.tables.map_id
    exact Prod.ext rfl (h.tables ((Fields.get?_eq_some_iff h.nodup).mpr he)).kept_eq
  rw [kept, htables]

/-- A record that was written is read as it was. -/
theorem read_write (h : r.Sound) (hw : isWritable r.toDocument = true) : read r.write = .ok r := by
  rw [read_write_kept h.typed hw, h.kept_eq]

end Record

end Cabinet

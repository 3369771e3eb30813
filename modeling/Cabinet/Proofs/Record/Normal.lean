import Cabinet.Proofs.Record.RoundTrip

/-!
Reading a document brings it into a form that writing and reading keep: what was left out is filled in,
what has no place is gone, and the text of the record is the text of what that text is read as.
-/

namespace Cabinet

open Json

/-- Whether a value is a number that is written with a fraction or an exponent. -/
def Json.IsFractionalNumber : Value → Prop
  | .float x => x.isFinite = true
  | _ => False

/-- What is read as a column: its key is its name, its type is in the catalog, its index is short, and
its values are read as they were written. -/
structure Column.Firm (key : String) (c : Column) : Prop where
  named : c.name = key
  catalog : c.type.isOther = false
  index : Text.IsShort c.index
  tags : ∀ t ∈ c.tags, t.name.All IsFirm ∧ t.description.All IsFirm
  rule : c.rule.All IsFirm

structure Table.Firm (t : Table) : Prop where
  nodup : t.columns.keys.Nodup
  columns : ∀ e ∈ t.columns, e.2.Firm e.1

structure Record.Firm (r : Record) : Prop where
  values : ∀ v ∈ [r.id, r.displayName, r.createdAt, r.modifiedAt, r.description], v.All IsFirm
  tags : ∀ v ∈ r.tags, v.All IsFirm
  version : Text.IsShort r.version
  nodup : r.tables.keys.Nodup
  tables : ∀ e ∈ r.tables, e.2.Firm

/-- Whether two columns differ in no more than tags or a rule that their type has no use for. -/
structure Column.Alike (c d : Column) : Prop where
  name : d.name = c.name
  type : d.type = c.type
  index : d.index = c.index
  hidden : d.hidden = c.hidden
  tags : c.type.isTag = true → d.tags = c.tags
  rule : c.type = .custom → d.rule = c.rule

/-- Whether two tables have the same columns in the same order, up to what their types have no use
for. -/
structure Table.Alike (t u : Table) : Prop where
  hidden : u.hidden = t.hidden
  columns : List.Forall₂ (fun e f => f.1 = e.1 ∧ e.2.Alike f.2) t.columns u.columns

/-- Whether two records are the same but for tags and rules that the types of the columns have no use
for. -/
structure Record.Alike (r s : Record) : Prop where
  outside : { s with tables := r.tables } = r
  tables : List.Forall₂ (fun e f => f.1 = e.1 ∧ e.2.Alike f.2) r.tables s.tables

namespace Value

variable {p : Value → Prop} {fields : Fields Value} {key : String} {v : Value}

theorem all_empty (h : p (.object [])) : (Value.object []).All p :=
  ⟨h, trivial⟩

theorem All.get? (h : (Value.object fields).All p) (hv : fields.get? key = some v) : v.All p :=
  (all_object.mp h).2 _ (Fields.mem_of_get? hv)

theorem All.getD (h : (Value.object fields).All p) (hv : v.All p) :
    ((fields.get? key).getD v).All p := by
  cases hget : fields.get? key with
  | none => exact hv
  | some u => exact h.get? hget

end Value

namespace Record

variable {document v : Value} {c : Column} {t : Table} {r : Record} {table name : String}
  {place : Nat} {items : List Value} {tag : Tag} {n : Int}

theorem members_eq_ok {fields : Fields Value} (h : members v = .ok fields) : v = .object fields := by
  cases v with
  | object fields' => exact congrArg _ (Except.ok.inj h)
  | _ => cases h

/-- An integer that a value stands for is short, if the integers in it are. -/
theorem isShort_integer (hv : v.All IsFirm) (h : integer v = .ok n) : Text.IsShort n := by
  cases v with
  | int m => exact Except.ok.inj h ▸ hv
  | bool b =>
    obtain rfl := Except.ok.inj h
    cases b <;> exact Text.isShort_iff.mpr (Nat.lt_of_lt_of_le (by decide)
      (Nat.pow_le_pow_right (by decide) (by decide : 1 ≤ Text.maxIntegerDigits)))
  | float x =>
    cases x with
    | nan => cases h
    | infinite negative => cases h
    | finite => exact absurd hv (by simp [Value.All, IsFirm, Binary64.isFinite])
  | text s =>
    unfold integer at h
    dsimp only at h
    split at h
    · next m hm => exact Except.ok.inj h ▸ Text.isShort_integer? hm
    · cases h
  | _ => cases h

theorem all_elements (hv : v.All IsFirm) (h : elements v = .ok items) :
    ∀ item ∈ items, item.All IsFirm := by
  cases v with
  | list items' =>
    obtain rfl := Except.ok.inj h
    exact (Value.all_list.mp hv).2
  | text s =>
    obtain rfl := Except.ok.inj h
    intro item hitem
    obtain ⟨c, -, rfl⟩ := List.mem_map.mp hitem
    trivial
  | object fields =>
    obtain rfl := Except.ok.inj h
    intro item hitem
    obtain ⟨e, -, rfl⟩ := List.mem_map.mp hitem
    trivial
  | _ => cases h

theorem all_readTag (hv : v.All IsFirm) (h : readTag v = .ok tag) :
    tag.name.All IsFirm ∧ tag.description.All IsFirm := by
  cases v with
  | object fields =>
    unfold readTag at h
    dsimp only at h
    split at h
    · next name hname =>
      obtain rfl := Except.ok.inj h
      exact ⟨hv.get? hname, hv.getD trivial⟩
    · cases h
  | _ => cases h

theorem isOther_readType {type : ColumnType} (h : readType name table v = .ok type) :
    type.isOther = false := by
  have hcatalog : ∀ type ∈ ColumnType.catalog, type.isOther = false := by decide
  cases v with
  | text label =>
    unfold readType at h
    dsimp only at h
    split at h
    · next type' hlabel =>
      obtain rfl := Except.ok.inj h
      exact hcatalog _ (List.mem_of_find?_eq_some hlabel)
    · cases h
  | _ => cases h

theorem firm_readColumn (hv : v.All IsFirm) (hplace : Text.IsShort place)
    (h : readColumn table place name v = .ok c) : c.Firm name := by
  unfold readColumn at h
  obtain ⟨fields, hfields, h⟩ := bind_eq_ok_iff.mp h
  obtain ⟨type, htype, h⟩ := bind_eq_ok_iff.mp h
  obtain ⟨index, hindex, h⟩ := bind_eq_ok_iff.mp h
  obtain ⟨items, hitems, h⟩ := bind_eq_ok_iff.mp h
  obtain ⟨tags, htags, h⟩ := bind_eq_ok_iff.mp h
  obtain rfl := Except.ok.inj h
  obtain rfl := members_eq_ok hfields
  have hitem : ∀ item ∈ items, item.All IsFirm :=
    all_elements (hv.getD (v := .list []) ⟨trivial, trivial⟩) hitems
  refine ⟨rfl, isOther_readType htype, isShort_integer (hv.getD (v := .int place) hplace) hindex,
    fun t ht => ?_, hv.getD (v := .text "") trivial⟩
  obtain ⟨item, hmem, hread⟩ := exists_of_mapM_eq_ok htags t ht
  exact all_readTag (hitem item hmem) hread

/-- The places of the columns are short numbers, as there are no more columns than there is room for in
the text. -/
theorem firm_readTable (hv : v.All IsFirm) {most : Nat} (hmost : v.All (IsRead most))
    (hshort : most ≤ 10 ^ Text.maxIntegerDigits) (h : readTable name v = .ok t) : t.Firm := by
  unfold readTable at h
  obtain ⟨fields, hfields, h⟩ := bind_eq_ok_iff.mp h
  obtain ⟨columns, hcolumns, h⟩ := bind_eq_ok_iff.mp h
  obtain ⟨results, hresults, h⟩ := bind_eq_ok_iff.mp h
  obtain rfl := Except.ok.inj h
  obtain rfl := members_eq_ok hfields
  have hfirm : ((Fields.get? fields "columns").getD (.object [])).All IsFirm :=
    hv.getD (Value.all_empty List.nodup_nil)
  have hroom : ((Fields.get? fields "columns").getD (.object [])).All (IsRead most) :=
    hmost.getD (Value.all_empty ⟨List.nodup_nil, Nat.zero_le most⟩)
  rw [members_eq_ok hcolumns] at hfirm hroom
  have hlength : columns.length ≤ most := hroom.self.2
  constructor
  · have hkeys : results.map (·.1) = columns.zipIdx.map (·.1.1) :=
      map_eq_of_mapM_eq_ok (fun a b hb => by
        obtain ⟨c, -, hb⟩ := bind_eq_ok_iff.mp hb
        exact congrArg Prod.fst (Except.ok.inj hb).symm) hresults
    have hnodup : (Fields.keys columns).Nodup := hfirm.self
    rw [Fields.keys, hkeys, ← Function.comp_def, ← List.map_map, List.zipIdx_map_fst]
    exact hnodup
  · intro e he
    obtain ⟨⟨⟨key, d⟩, place⟩, hmem, hread⟩ := exists_of_mapM_eq_ok hresults e he
    obtain ⟨c, hc, hread⟩ := bind_eq_ok_iff.mp hread
    obtain rfl := Except.ok.inj hread
    obtain ⟨-, hplace, -⟩ := List.mem_zipIdx hmem
    have hd : (key, d) ∈ columns := List.fst_mem_of_mem_zipIdx hmem
    refine firm_readColumn ((Value.all_object.mp hfirm).2 _ hd) (Text.isShort_iff.mpr ?_) hc
    rw [Int.natAbs_natCast]
    omega

theorem firm_ofDocument (hv : document.All IsFirm) {most : Nat} (hmost : document.All (IsRead most))
    (hshort : most ≤ 10 ^ Text.maxIntegerDigits) (h : ofDocument document = .ok r) : r.Firm := by
  unfold ofDocument at h
  obtain ⟨fields, hfields, h⟩ := bind_eq_ok_iff.mp h
  -- What holds everywhere in the document holds of each member, or else of the default that is
  -- taken for it.
  rw [members_eq_ok hfields] at hv hmost
  obtain ⟨tables, htables, h⟩ := bind_eq_ok_iff.mp h
  obtain ⟨results, hresults, h⟩ := bind_eq_ok_iff.mp h
  split at h
  · cases h
  next id hid =>
  obtain ⟨tags, htags, h⟩ := bind_eq_ok_iff.mp h
  obtain ⟨version, hversion, h⟩ := bind_eq_ok_iff.mp h
  obtain rfl := Except.ok.inj h
  have hidfirm : id.All IsFirm := hv.get? hid
  have hzero : (Value.int 0).All IsFirm := by
    exact Text.isShort_iff.mpr (Nat.pow_pos (by decide))
  have hfirm : ((Fields.get? fields "tables").getD (.object [])).All IsFirm :=
    hv.getD (Value.all_empty List.nodup_nil)
  have hroom : ((Fields.get? fields "tables").getD (.object [])).All (IsRead most) :=
    hmost.getD (Value.all_empty ⟨List.nodup_nil, Nat.zero_le most⟩)
  have hget : (Fields.get? fields "tables").getD (.object []) = .object tables := members_eq_ok htables
  rw [hget] at hfirm hroom
  refine ⟨?_, all_elements (hv.getD (v := .list []) ⟨trivial, trivial⟩) htags,
    isShort_integer (hv.getD hzero) hversion, ?_, fun e he => ?_⟩
  · have htext : ∀ key, ((Fields.get? fields key).getD (.text "")).All IsFirm := fun key =>
      hv.getD (v := .text "") trivial
    simp only [List.forall_mem_cons]
    exact ⟨hidfirm, hv.getD hidfirm, htext _, htext _, htext _, List.forall_mem_nil _⟩
  · have hkeys : results.map (·.1) = tables.map (·.1) :=
      map_eq_of_mapM_eq_ok (fun a b hb => by
        obtain ⟨t, -, hb⟩ := bind_eq_ok_iff.mp hb
        exact congrArg Prod.fst (Except.ok.inj hb).symm) hresults
    have hnodup : (Fields.keys tables).Nodup := hfirm.self
    rw [Fields.keys, hkeys]
    exact hnodup
  · obtain ⟨⟨key, d⟩, hmem, hread⟩ := exists_of_mapM_eq_ok hresults e he
    obtain ⟨t, ht, hread⟩ := bind_eq_ok_iff.mp hread
    obtain rfl := Except.ok.inj hread
    exact firm_readTable ((Value.all_object.mp hfirm).2 _ hmem) ((Value.all_object.mp hroom).2 _ hmem)
      hshort ht

theorem all_columnDocument {key : String} (h : c.Firm key) : (columnDocument c).All IsFirm := by
  have htags : (Value.list (c.tags.map tagDocument)).All IsFirm := by
    refine Value.all_list.mpr ⟨trivial, fun v hv => ?_⟩
    obtain ⟨t, ht, rfl⟩ := List.mem_map.mp hv
    have hfirm := h.tags t ht
    exact Value.all_object.mpr ⟨by simp [IsFirm, Fields.keys], by simp [hfirm.1, hfirm.2]⟩
  have htype : (Value.text c.type.label).All IsFirm := trivial
  have hhidden : (Value.bool c.hidden).All IsFirm := trivial
  have hindex : (Value.int c.index).All IsFirm := h.index
  have hrule := h.rule
  rw [columnDocument, Value.all_object]
  split
  · simp [IsFirm, Fields.keys, htags, htype, hhidden, hindex]
  · split <;> simp [IsFirm, Fields.keys, hrule, htype, hhidden, hindex]

/-- The values of fields with different keys are parts of one object. -/
theorem all_fields {α : Type} {fields : Fields α} {toValue : α → Value}
    (hnodup : fields.keys.Nodup) (h : ∀ e ∈ fields, (toValue e.2).All IsFirm) :
    (Value.object (fields.map fun e => (e.1, toValue e.2))).All IsFirm := by
  refine Value.all_object.mpr ⟨?_, fun e he => ?_⟩
  · rw [IsFirm, Fields.keys_map]
    exact hnodup
  · obtain ⟨e', he', rfl⟩ := List.mem_map.mp he
    exact h e' he'

theorem all_tableDocument (h : t.Firm) : (tableDocument t).All IsFirm := by
  have hcolumns := all_fields h.nodup fun e he => all_columnDocument (h.columns e he)
  have hhidden : (Value.bool t.hidden).All IsFirm := trivial
  refine Value.all_object.mpr ⟨by simp [IsFirm, Fields.keys], ?_⟩
  simp only [List.forall_mem_cons]
  exact ⟨hhidden, hcolumns, List.forall_mem_nil _⟩

theorem all_toDocument (h : r.Firm) : r.toDocument.All IsFirm := by
  have htables := all_fields h.nodup fun e he => all_tableDocument (h.tables e he)
  have htags : (Value.list r.tags).All IsFirm := Value.all_list.mpr ⟨trivial, h.tags⟩
  have hhidden : (Value.bool r.hidden).All IsFirm := trivial
  have hversion : (Value.int r.version).All IsFirm := h.version
  have hvalues := h.values
  simp only [List.forall_mem_cons] at hvalues
  refine Value.all_object.mpr ⟨by simp [IsFirm, Fields.keys], ?_⟩
  simp only [List.forall_mem_cons]
  exact ⟨hvalues.1, hvalues.2.1, hvalues.2.2.1, hvalues.2.2.2.1, hvalues.2.2.2.2.1, htags, hhidden,
    hversion, htables, List.forall_mem_nil _⟩

/-- What a document does not keep, it does not show. -/
theorem columnDocument_kept (name : String) (c : Column) :
    columnDocument (c.kept name) = columnDocument c := by
  unfold columnDocument Column.kept
  grind

theorem toDocument_kept (r : Record) : r.kept.toDocument = r.toDocument := by
  simp only [toDocument, kept, Table.kept, tableDocument, List.map_map, Function.comp_def,
    columnDocument_kept]

end Record

theorem Column.Firm.alike_kept {key : String} {c : Column} (h : c.Firm key) :
    c.Alike (c.kept key) where
  name := h.named.symm
  type := rfl
  index := rfl
  hidden := rfl
  tags := fun htag => if_pos htag
  rule := fun hcustom => if_pos hcustom

theorem Table.Firm.alike_kept {t : Table} (h : t.Firm) : t.Alike t.kept where
  hidden := rfl
  columns := List.forall₂_map_right_iff.mpr
    (List.forall₂_same.mpr fun e he => ⟨rfl, (h.columns e he).alike_kept⟩)

theorem Record.Firm.alike_kept {r : Record} (h : r.Firm) : r.Alike r.kept where
  outside := rfl
  tables := List.forall₂_map_right_iff.mpr
    (List.forall₂_same.mpr fun e he => ⟨rfl, (h.tables e he).alike_kept⟩)

theorem Record.Firm.catalogued {r : Record} (h : r.Firm) : r.Catalogued :=
  fun e he f hf => ((h.tables e he).columns f hf).catalog

namespace Record

variable {s : List Char} {document : Value} {r : Record}

/-- What is read of a text without fractional numbers is firm throughout. -/
theorem firm_read (hlength : s.length < 2 ^ 63) (hread : Json.read s = .ok document)
    (hwhole : document.All fun v => ¬IsFractionalNumber v) (hr : read s = .ok r) : r.Firm := by
  have hmost := all_isRead hread
  have hfirm : document.All IsFirm := hmost.and_imp hwhole fun v hv hnot => by
    cases v with
    | float x => simpa [IsFirm, IsFractionalNumber] using hnot
    | int n => exact hv
    | object fields => exact hv.1
    | _ => trivial
  have hdigits : 20 ≤ Text.maxIntegerDigits := by decide
  have hpow := Nat.pow_le_pow_right (n := 10) (by decide) hdigits
  refine firm_ofDocument hfirm hmost (Nat.le_trans ?_ hpow) ?_
  · omega
  · simpa only [read, hread] using hr

/-- Reading settles a record. A text of fewer than `2 ^ 63` characters, as all texts are, in which no
number has a fraction or an exponent may have its keys in any order and more than once, may leave keys
out or have others. If it is read as a record then that record can be written, and its text is read as
a record that is written as the same text and differs from the first one in no more than tags and
rules that the types of their columns have no use for. -/
theorem settled_by_reading (hlength : s.length < 2 ^ 63) (hread : Json.read s = .ok document)
    (hwhole : document.All fun v => ¬IsFractionalNumber v) (hr : read s = .ok r) :
    isWritable r.toDocument = true ∧ ∃ r', read r.write = .ok r' ∧
      isWritable r'.toDocument = true ∧ r'.write = r.write ∧ r.Alike r' := by
  have hfirm := firm_read hlength hread hwhole hr
  have hdocument := all_toDocument hfirm
  have hwritable := isWritable_of_all hdocument
  refine ⟨hwritable, r.kept, ?_, ?_, ?_, hfirm.alike_kept⟩
  · rw [read, write, read_write_all hdocument]
    exact ofDocument_toDocument hfirm.catalogued
  · rwa [toDocument_kept]
  · rw [write, write, toDocument_kept]

/-- A text that has a key twice and one that has no place, and leaves most of the others out. -/
def untidyText : List Char :=
  "\x7b\"tables\": \x7b\"t\": \x7b\"columns\": \x7b\"x\": ".toList ++
    "\x7b\"rule\": \"r\", \"type\": \"integer\"\x7d\x7d\x7d\x7d, ".toList ++
    "\"id\": 1, \"note\": NaN, \"version\": \"07\", \"id\": \"a\"\x7d".toList

def untidyDocument : Value :=
  .object [("tables", .object [("t", .object [("columns", .object
      [("x", .object [("rule", .text "r"), ("type", .text "integer")])])])]),
    ("id", .text "a"), ("note", .float .nan), ("version", .text "07")]

def untidyRecord : Record where
  id := .text "a"
  displayName := .text "a"
  createdAt := .text ""
  modifiedAt := .text ""
  version := 7
  tables := [("t", { columns := [("x",
    { name := "x", type := .integer, index := 0, rule := .text "r" })] })]

theorem untidy_settled : untidyText.length < 2 ^ 63 ∧ Json.read untidyText = .ok untidyDocument ∧
    (untidyDocument.All fun v => ¬IsFractionalNumber v) ∧ read untidyText = .ok untidyRecord ∧
    ∃ r', read untidyRecord.write = .ok r' ∧ r'.write = untidyRecord.write ∧ untidyRecord.Alike r' := by
  have hlength : untidyText.length < 2 ^ 63 := by decide +kernel
  have hread : Json.read untidyText = .ok untidyDocument := by cbv
  have hwhole : untidyDocument.All fun v => ¬IsFractionalNumber v := by
    simp [untidyDocument, Value.All, Value.AllFields, IsFractionalNumber, Binary64.isFinite]
  have hr : read untidyText = .ok untidyRecord := by
    rw [read, hread]
    rfl
  obtain ⟨-, r', hagain, -, hwrite, halike⟩ := settled_by_reading hlength hread hwhole hr
  exact ⟨hlength, hread, hwhole, hr, r', hagain, hwrite, halike⟩

end Record

end Cabinet

import Cabinet.Proofs.Record.Table

/-!
What the changes of tables and columns check, and what they leave behind.
-/

namespace Cabinet

open Storage

namespace Storage.Statement

theorem on_eq_ok {α : Type} {s : Statement α} {db : Database} {a : α} :
    s.on db = .ok a ↔ s.run db = .ok a := by
  unfold on named
  split <;> simp_all

end Storage.Statement

theorem Record.table_eq_ok {r : Record} {name : String} {t : Table} :
    r.table name = .ok t ↔ r.tables.get? name = some t := by
  unfold table
  split <;> simp_all

namespace Schema

variable {r r' : Record} {db : Database} {id name old new table : String}

theorem newName_eq_ok {what : String} {v : Value} (h : newName what v = .ok name) :
    Name.IsNormal name := by
  unfold newName at h
  split at h
  · next given =>
    by_cases hne : (Name.normalize given).isEmpty = true
    · simp [hne] at h
    · simp only [if_neg hne, Except.ok.injEq] at h
      exact h ▸ Name.isNormal_normalize (by simpa using hne)
  · simp at h

theorem newType_eq_ok {v : Value} {type : ColumnType} (h : newType v = .ok type) :
    type.isOther = false := by
  have hcatalog : ∀ type ∈ ColumnType.catalog, type.isOther = false := by decide
  unfold newType ColumnType.read? at h
  split at h
  · next hread =>
    obtain rfl := Except.ok.inj h
    exact hcatalog _ (List.mem_of_find?_eq_some hread)
  · simp at h

theorem ensureUnprotected_eq_ok {action : String} {u : Unit}
    (h : ensureUnprotected name action = .ok u) : name ∉ Column.protectedNames := by
  unfold ensureUnprotected at h
  split at h <;> simp_all

theorem createTable_eq_ok {out : Outcome Table} (h : createTable id name r db = .ok out) :
    name ∉ r.tables.keys ∧ ∃ stored, db.createTable (freshSheet name) = .ok stored ∧
      out = { answer := .fresh, record := r.put name .fresh, stored } := by
  simp only [createTable, bind_eq_ok_iff, throw_eq_error, check_eq_ok_iff, Statement.on_eq_ok] at h
  obtain ⟨exists?, -, hnew, stored, hstored, hout⟩ := h
  simp only [Bool.or_eq_true, not_or, Fields.contains_iff] at hnew
  exact ⟨hnew.1, stored, hstored, (Except.ok.inj hout).symm⟩

theorem renameTable_eq_ok {out : Outcome Unit} (h : renameTable id old new r db = .ok out) :
    ∃ t stored, r.tables.get? old = some t ∧ new ∉ r.tables.keys ∧
      db.renameTable old new = .ok stored ∧
      out = { answer := (), record := { r with tables := (r.tables.drop old).put new t }, stored } := by
  simp only [renameTable, bind_eq_ok_iff, throw_eq_error, check_eq_ok_iff, Statement.on_eq_ok,
    Record.table_eq_ok] at h
  obtain ⟨t, ht, exists?, -, hnew, stored, hstored, hout⟩ := h
  simp only [Bool.or_eq_true, not_or, Fields.contains_iff] at hnew
  exact ⟨t, stored, ht, hnew.1, hstored, (Except.ok.inj hout).symm⟩

theorem deleteTable_eq_ok {out : Outcome Unit} (h : deleteTable name r db = .ok out) :
    ∃ t stored, r.tables.get? name = some t ∧
      (if db.hasTable name then db.dropTable name = .ok stored else stored = db) ∧
      out = { answer := (), record := { r with tables := r.tables.drop name }, stored } := by
  simp only [deleteTable, bind_eq_ok_iff, Statement.on_eq_ok, Record.table_eq_ok] at h
  obtain ⟨t, ht, exists?, hexists, h⟩ := h
  obtain rfl : db.hasTable name = exists? := Except.ok.inj hexists
  split at h
  · next hyes =>
    obtain ⟨stored, hstored, hout⟩ := bind_eq_ok_iff.mp h
    have hdrop : db.dropTable name = .ok stored := Statement.on_eq_ok.mp hstored
    exact ⟨t, stored, ht, by rwa [if_pos hyes], (Except.ok.inj hout).symm⟩
  · next hno => exact ⟨t, db, ht, by simp [hno], (Except.ok.inj h).symm⟩

theorem createColumn_eq_ok {type : ColumnType} {hidden : Bool} {index? : Option Int}
    {out : Outcome Column} (h : createColumn table name type hidden index? r db = .ok out) :
    ∃ (t : Table) (c : Column) (stored : Database), r.tables.get? table = some t ∧
      name ∉ t.columns.keys ∧ c = { name, type, index := c.index, hidden } ∧
      (0 ≤ c.index ∧ c.index ≤ t.columns.length) ∧
      ensureMovable (columnsIn (c.index ≤ ·) t) = .ok () ∧
      db.addColumn table (Statement.declared name type.storage) = .ok stored ∧
      out = { answer := c, record := r.put table ((shift (c.index ≤ ·) 1 t).put c), stored } := by
  simp only [createColumn, bind_eq_ok_iff, throw_eq_error, check_eq_ok_iff, Statement.on_eq_ok,
    Record.table_eq_ok] at h
  obtain ⟨t, ht, hnew, hrange, ⟨⟩, hm, stored, hstored, hout⟩ := h
  simp only [Bool.or_eq_true, decide_eq_true_eq, not_or, Int.not_lt] at hrange
  exact ⟨t, _, stored, ht, mt Fields.contains_iff.mpr hnew, rfl, hrange, hm, hstored,
    (Except.ok.inj hout).symm⟩

theorem renameColumn_eq_ok {t t' : Table} {c c' : Column} {stored : Database}
    (h : renameColumn table old new t c db = .ok (t', c', stored)) :
    new ∉ t.columns.keys ∧ db.renameColumn table old new = .ok stored ∧
      c' = { c with name := new } ∧
      t' = Table.put c' { t with columns := t.columns.drop old } := by
  simp only [renameColumn, bind_eq_ok_iff, throw_eq_error, check_eq_ok_iff, Statement.on_eq_ok] at h
  obtain ⟨hnew, stored', hstored, hout⟩ := h
  simp only [pure_eq_ok, Except.ok.injEq, Prod.mk.injEq] at hout
  obtain ⟨rfl, rfl, rfl⟩ := hout
  exact ⟨mt Fields.contains_iff.mpr hnew, hstored, rfl, rfl⟩

theorem retypeColumn_eq_ok {t t' : Table} {c c' : Column} {type : ColumnType} {stored : Database}
    (h : retypeColumn table type t c db = .ok (t', c', stored)) :
    (∃ without, db.dropColumn table c.name = .ok without ∧
      without.addColumn table (Statement.declared c.name type.storage) = .ok stored) ∧
      c' = { c with type, tags := [], rule := .text "" } ∧ t' = t.put c' := by
  simp only [retypeColumn, bind_eq_ok_iff, Statement.on_eq_ok] at h
  obtain ⟨without, hwithout, stored', hstored, hout⟩ := h
  simp only [pure_eq_ok, Except.ok.injEq, Prod.mk.injEq] at hout
  obtain ⟨rfl, rfl, rfl⟩ := hout
  exact ⟨⟨without, hwithout, hstored⟩, rfl, rfl⟩

/-- The second step of an edit of a column. -/
theorem retype?_eq_ok {t : Table} {c : Column} {type? : Option ColumnType} {out : Outcome Column}
    (h : (match type? with
      | some type =>
        if type = c.type then
          (pure { answer := c, record := r.put table t, stored := db } : Except Error (Outcome Column))
        else do
          let (t, d, db) ← retypeColumn table type t c db
          return {
            answer := d, record := r.put table t, stored := db
            warnings := [retypeWarning id table c.name c.type type] }
      | none => pure { answer := c, record := r.put table t, stored := db }) = .ok out) :
    ∃ t' c', (type?.getD c.type = c.type ∧ (t', c', out.stored) = (t, c, db) ∨
      ∃ type, type? = some type ∧ type ≠ c.type ∧
        retypeColumn table type t c db = .ok (t', c', out.stored)) ∧
      out.record = r.put table t' := by
  split at h
  · split at h
    · next hsame =>
      obtain rfl := Except.ok.inj h
      exact ⟨t, c, .inl ⟨hsame, rfl⟩, rfl⟩
    · next hne =>
      obtain ⟨⟨t', c', db'⟩, hretype, h⟩ := bind_eq_ok_iff.mp h
      obtain rfl := Except.ok.inj h
      exact ⟨t', c', .inr ⟨_, rfl, hne, hretype⟩, rfl⟩
  · obtain rfl := Except.ok.inj h
    exact ⟨t, c, .inl ⟨rfl, rfl⟩, rfl⟩

/-- A column is edited in two steps, of which either is left out where it would change nothing. -/
theorem editColumn_eq_ok {name? : Option String} {type? : Option ColumnType} {out : Outcome Column}
    (h : editColumn id table old name? type? r db = .ok out) :
    ∃ t c t₁ c₁ db₁ t₂ c₂, r.tables.get? table = some t ∧ t.columns.get? old = some c ∧
      (name?.getD old = old ∧ (t₁, c₁, db₁) = (t, c, db) ∨
        ∃ new, name? = some new ∧ new ≠ old ∧
          renameColumn table old new t c db = .ok (t₁, c₁, db₁)) ∧
      (type?.getD c₁.type = c₁.type ∧ (t₂, c₂, out.stored) = (t₁, c₁, db₁) ∨
        ∃ type, type? = some type ∧ type ≠ c₁.type ∧
          retypeColumn table type t₁ c₁ db₁ = .ok (t₂, c₂, out.stored)) ∧
      out.record = r.put table t₂ := by
  simp only [editColumn, bind_eq_ok_iff, Record.table_eq_ok] at h
  obtain ⟨t, ht, c, hc, h⟩ := h
  split at h
  · next new =>
    split at h
    · next hsame =>
      obtain ⟨t₂, c₂, hsecond⟩ := retype?_eq_ok h
      exact ⟨t, c, t, c, db, t₂, c₂, ht, Table.column_eq_ok hc, .inl ⟨hsame, rfl⟩, hsecond⟩
    · next hne =>
      obtain ⟨⟨t₁, c₁, db₁⟩, hrename, h⟩ := bind_eq_ok_iff.mp h
      obtain ⟨t₂, c₂, hsecond⟩ := retype?_eq_ok h
      exact ⟨t, c, t₁, c₁, db₁, t₂, c₂, ht, Table.column_eq_ok hc, .inr ⟨new, rfl, hne, hrename⟩,
        hsecond⟩
  · obtain ⟨t₂, c₂, hsecond⟩ := retype?_eq_ok h
    exact ⟨t, c, t, c, db, t₂, c₂, ht, Table.column_eq_ok hc, .inl ⟨rfl, rfl⟩, hsecond⟩

theorem deleteColumn_eq_ok {out : Outcome Unit} (h : deleteColumn table name r db = .ok out) :
    ∃ t c stored, r.tables.get? table = some t ∧ t.columns.get? name = some c ∧
      db.dropColumn table name = .ok stored ∧
      out = {
        answer := (), stored
        record := r.put table
          (shift (c.index < ·) (-1) { t with columns := t.columns.drop name }) } := by
  simp only [deleteColumn, bind_eq_ok_iff, Statement.on_eq_ok, Record.table_eq_ok] at h
  obtain ⟨t, ht, c, hc, stored, hstored, hout⟩ := h
  exact ⟨t, c, stored, ht, Table.column_eq_ok hc, hstored, (Except.ok.inj hout).symm⟩

theorem setTableVisibility_eq_ok {hidden : Bool} {u : Unit}
    (h : setTableVisibility name hidden r = .ok (u, r')) :
    ∃ t, r.tables.get? name = some t ∧ r' = r.put name { t with hidden } := by
  simp only [setTableVisibility, bind_eq_ok_iff, Record.table_eq_ok] at h
  obtain ⟨t, ht, hout⟩ := h
  exact ⟨t, ht, (Prod.ext_iff.mp (Except.ok.inj hout)).2.symm⟩

theorem revise_eq_ok {f : Column → Except Error Column} {d : Column}
    (h : revise table name f r = .ok (d, r')) :
    ∃ t c, r.tables.get? table = some t ∧ t.columns.get? name = some c ∧ f c = .ok d ∧
      r' = r.put table { t with columns := t.columns.put name d } := by
  simp only [revise, bind_eq_ok_iff, Record.table_eq_ok] at h
  obtain ⟨t, ht, c, hc, d', hd, hout⟩ := h
  obtain ⟨rfl, rfl⟩ := Prod.ext_iff.mp (Except.ok.inj hout)
  exact ⟨t, c, ht, Table.column_eq_ok hc, hd, rfl⟩

/-- A column of a record has been revised that keeps its name, its type and its index. -/
def Revised (r : Record) (table name : String) (d : Column) (r' : Record) : Prop :=
  ∃ t c, r.tables.get? table = some t ∧ t.columns.get? name = some c ∧ d.name = c.name ∧
    d.type = c.type ∧ d.index = c.index ∧
    r' = r.put table { t with columns := t.columns.put name d }

section Revised

variable {d : Column}

theorem revise_revised {f : Column → Except Error Column}
    (hf : ∀ c d, f c = .ok d → d.name = c.name ∧ d.type = c.type ∧ d.index = c.index)
    (h : revise table name f r = .ok (d, r')) : Revised r table name d r' := by
  obtain ⟨t, c, ht, hc, hd, rfl⟩ := revise_eq_ok h
  obtain ⟨hname, htype, hindex⟩ := hf c d hd
  exact ⟨t, c, ht, hc, hname, htype, hindex, rfl⟩

theorem setColumnVisibility_revised {hidden : Bool}
    (h : setColumnVisibility table name hidden r = .ok (d, r')) : Revised r table name d r' := by
  refine revise_revised (fun c d hd => ?_) h
  obtain rfl := Except.ok.inj hd
  exact ⟨rfl, rfl, rfl⟩

theorem registerTag_revised {tag : String} {description : Value}
    (h : registerTag table name tag description r = .ok (d, r')) : Revised r table name d r' := by
  refine revise_revised (fun c d hd => ?_) h
  simp only [bind_eq_ok_iff, throw_eq_error, check_eq_ok_iff] at hd
  obtain ⟨-, -, -, hd⟩ := hd
  obtain rfl := Except.ok.inj hd
  exact ⟨rfl, rfl, rfl⟩

theorem unregisterTag_revised {tag : String} (h : unregisterTag table name tag r = .ok (d, r')) :
    Revised r table name d r' := by
  refine revise_revised (fun c d hd => ?_) h
  simp only [bind_eq_ok_iff] at hd
  obtain ⟨-, -, hd⟩ := hd
  obtain rfl := Except.ok.inj hd
  exact ⟨rfl, rfl, rfl⟩

theorem setRule_revised {rule : Value} (h : setRule table name rule r = .ok (d, r')) :
    Revised r table name d r' := by
  refine revise_revised (fun c d hd => ?_) h
  simp only [throw_eq_error, check_eq_ok_iff] at hd
  obtain ⟨-, hd⟩ := hd
  split at hd
  · obtain ⟨-, -, hd⟩ := bind_eq_ok_iff.mp hd
    obtain rfl := Except.ok.inj hd
    exact ⟨rfl, rfl, rfl⟩
  · simp at hd

end Revised

theorem swapColumn_eq_ok {index : Int} {d : Column}
    (h : swapColumn table name index r = .ok (d, r')) :
    ∃ t c, r.tables.get? table = some t ∧ t.columns.get? name = some c ∧
      (r' = r ∨ ∃ key other, (key, other) ∈ t.columns ∧ key ≠ name ∧
        other.name ∉ Column.protectedNames ∧
        r' = r.put table { t with
          columns := (t.columns.put key { other with index := c.index }).put name
            { c with index := other.index } }) := by
  simp only [swapColumn, bind_eq_ok_iff, Record.table_eq_ok] at h
  obtain ⟨t, ht, c, hc, h⟩ := h
  refine ⟨t, c, ht, Table.column_eq_ok hc, ?_⟩
  split at h
  · simp at h
  next key other hfind =>
  obtain ⟨⟨⟩, hfree, h⟩ := bind_eq_ok_iff.mp h
  split at h
  · exact .inl (Prod.ext_iff.mp (Except.ok.inj h)).2.symm
  · next hne =>
    exact .inr ⟨key, other, List.mem_of_find?_eq_some hfind, hne, ensureUnprotected_eq_ok hfree,
      (Prod.ext_iff.mp (Except.ok.inj h)).2.symm⟩

theorem moveColumn_eq_ok {index : Int} {d : Column}
    (h : moveColumn table name index r = .ok (d, r')) :
    ∃ t c between step, r.tables.get? table = some t ∧ t.columns.get? name = some c ∧
      (0 ≤ index ∧ index < t.columns.length) ∧
      ((c.index < index ∧ step = -1 ∧ ∀ j, between j = true ↔ c.index < j ∧ j ≤ index) ∨
        (index ≤ c.index ∧ step = 1 ∧ ∀ j, between j = true ↔ index ≤ j ∧ j < c.index)) ∧
      ensureMovable (columnsIn between t) = .ok () ∧
      r' = r.put table { t with
        columns := (shift between step t).columns.put name { c with index } } := by
  simp only [moveColumn, bind_eq_ok_iff, throw_eq_error, check_eq_ok_iff, Record.table_eq_ok] at h
  obtain ⟨t, ht, c, hc, hrange, h⟩ := h
  simp only [Bool.or_eq_true, decide_eq_true_eq, not_or, Int.not_lt, Int.not_le] at hrange
  obtain ⟨⟨⟩, hm, hout⟩ := h
  have hr := (Prod.ext_iff.mp (Except.ok.inj hout)).2.symm
  refine ⟨t, c, _, _, ht, Table.column_eq_ok hc, hrange, ?_, hm, hr⟩
  split <;> simp_all

end Schema

end Cabinet

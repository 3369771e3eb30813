import Cabinet.Proofs.Schema.Sound
import Cabinet.Proofs.Storage.Database

/-!
Changes of tables and columns keep the stored tables in step with the record.
-/

namespace Cabinet

open Storage

variable {R : Sheet → Table → Prop} {T : Int → Prop}

/-- What is stored is still what the record says. -/
def Revision.Faithful {α : Type} (revision : Revision α) (R : Sheet → Table → Prop) : Prop :=
  ∀ {r a r'} {db : Database}, r.Sound → db.Holds r.tables R → revision r = .ok (a, r') →
    db.Holds r'.tables R

/-- What is stored changes as the record does. -/
def Change.Faithful {α : Type} (change : Change α) (R : Sheet → Table → Prop) : Prop :=
  ∀ {r db out}, r.Sound → db.Holds r.tables R → change r db = .ok out →
    out.stored.Holds out.record.tables R

theorem Record.Sound.areNamed {r : Record} (h : r.Sound) : AreNamed r.tables :=
  ⟨h.normal, fun ht => (h.tables ht).isNamed⟩

namespace Table

variable {t : Table} {name key : String} {c d : Column}

theorem kind?_put (hidden : Bool) (t : Table) (name : String) (d : Column) (key : String) :
    kind? { hidden, columns := t.columns.put name d } key =
      if key = name then some (d.name, d.type) else t.kind? key := by
  rw [kind?, Fields.get?_put]
  split <;> rfl

theorem kind?_drop (t : Table) (name key : String) :
    kind? { t with columns := t.columns.drop name } key =
      if key = name then none else t.kind? key := by
  rw [kind?, Fields.get?_drop]
  split <;> rfl

@[simp] theorem kind?_shift (inRange : Int → Bool) (step : Int) (t : Table) (key : String) :
    (Schema.shift inRange step t).kind? key = t.kind? key := by
  rw [kind?, get?_shift, Option.map_map, kind?]
  congr 1
  funext c
  simp only [Function.comp_apply]
  split <;> rfl

theorem kind?_of_get? (h : t.columns.get? name = some c) : t.kind? name = some (c.name, c.type) := by
  rw [kind?, h, Option.map_some]

theorem stored?_of_get? (h : t.columns.get? name = some c) : t.stored? name = some c.stored := by
  rw [stored?, h, Option.map_some]

/-- A column is revised that keeps its name and its type. -/
theorem kind?_revise (h : t.columns.get? name = some c) (hn : d.name = c.name) (ht : d.type = c.type)
    (hidden : Bool) : kind? { hidden, columns := t.columns.put name d } = t.kind? := by
  funext key
  rw [kind?_put]
  split
  · next heq => rw [heq, kind?_of_get? h, hn, ht]
  · rfl

end Table

namespace Schema

variable {id name old new table : String}

theorem createTable_faithful (hR : Sheet.Lasting R T) (id name : String) :
    (createTable id name).Faithful R := by
  intro r db out hr hdb h
  obtain ⟨hnew, stored, hstored, rfl⟩ := createTable_eq_ok h
  exact hdb.createTable hR hnew hstored

theorem renameTable_faithful (hR : Sheet.Lasting R T) (id old new : String) :
    (renameTable id old new).Faithful R := by
  intro r db out hr hdb h
  obtain ⟨t, stored, ht, hnew, hstored, rfl⟩ := renameTable_eq_ok h
  exact hdb.renameTable hR hr.areNamed ht hnew hstored

theorem deleteTable_faithful (name : String) : (deleteTable name).Faithful R := by
  intro r db out hr hdb h
  obtain ⟨t, stored, ht, hstored, rfl⟩ := deleteTable_eq_ok h
  rw [if_pos (Database.hasTable_of_mem (hdb.tables ht))] at hstored
  exact hdb.dropTable hr.areNamed ht hstored

theorem setTableVisibility_faithful (hR : Sheet.Lasting R T) (name : String) (hidden : Bool) :
    (setTableVisibility name hidden).Faithful R := by
  intro r a r' db hr hdb h
  obtain ⟨t, ht, rfl⟩ := setTableVisibility_eq_ok h
  exact hdb.congr hR ht rfl

theorem createColumn_faithful (hR : Sheet.Lasting R T) (table name : String) (type : ColumnType)
    (hidden : Bool) (index? : Option Int) :
    (createColumn table name type hidden index?).Faithful R := by
  intro r db out hr hdb h
  obtain ⟨t, c, stored, ht, hnew, hc, -, -, hstored, rfl⟩ := createColumn_eq_ok h
  have hname : c.name = name := by rw [hc]
  have htype : c.type = type := by rw [hc]
  have hprotected : name ∉ Column.protectedNames := fun hm =>
    hnew ((hr.tables ht).mem_keys_of_protected hm)
  refine hdb.addColumn hR hr.areNamed ht hnew hprotected hstored fun key => ?_
  rw [Table.put, Table.kind?_put, Table.kind?_shift, hname, htype]

theorem renameColumn_faithful (hR : Sheet.Lasting R T) {tables : Fields Table} {t t' : Table}
    {c c' : Column} {db stored : Database} (hn : AreNamed tables) (hdb : db.Holds tables R)
    (ht : tables.get? table = some t) (hs : t.WellFormed) (hc : t.columns.get? old = some c)
    (hp : old ∉ Column.protectedNames)
    (h : renameColumn table old new t c db = .ok (t', c', stored)) :
    stored.Holds (tables.put table t') R := by
  obtain ⟨hnew, hstored, rfl, rfl⟩ := renameColumn_eq_ok h
  have hname := (hs.named hc).1
  have hprotected : new ∉ Column.protectedNames := fun hm => hnew (hs.mem_keys_of_protected hm)
  have hkind : t.kind? old = some (old, c.type) := by rw [Table.kind?_of_get? hc, hname]
  refine hdb.renameColumn hR hn ht hkind hp hnew hprotected hstored fun key => ?_
  rw [Table.put, Table.kind?_put, Table.kind?_drop]

theorem retypeColumn_faithful (hR : Sheet.Lasting R T) {tables : Fields Table} {t t' : Table}
    {c c' : Column} {type : ColumnType} {db stored : Database} (hn : AreNamed tables)
    (hdb : db.Holds tables R) (ht : tables.get? table = some t)
    (hc : t.columns.get? c.name = some c) (hp : c.name ∉ Column.protectedNames)
    (h : retypeColumn table type t c db = .ok (t', c', stored)) :
    stored.Holds (tables.put table t') R := by
  obtain ⟨⟨without, hwithout, hstored⟩, rfl, rfl⟩ := retypeColumn_eq_ok h
  have hname := hn.named ht hc
  let u : Table := { t with columns := t.columns.drop c.name }
  have hu : u.Named := fun hk => by
    rw [Fields.get?_drop] at hk
    split at hk
    · simp at hk
    · exact hn.named ht hk
  have hdropped : without.Holds (tables.put table u) R :=
    hdb.dropColumn hR hn ht hname.2.normalize_eq hwithout fun key => Table.kind?_drop t c.name key
  have hnew : c.name ∉ u.columns.keys := by simp [u, Fields.keys_drop]
  have hrenewed : ∀ key, (t.put { c with type, tags := [], rule := .text "" }).kind? key =
      if key = c.name then some (c.name, type) else u.kind? key := by
    intro key
    rw [Table.put, Table.kind?_put, Table.kind?_drop]
    split <;> rfl
  have hadded := hdropped.addColumn hR (hn.put ht hu) (t := u) (by rw [Fields.get?_put, if_pos rfl])
    hnew hp hstored hrenewed
  rwa [Fields.put_put] at hadded

theorem editColumn_faithful (hR : Sheet.Lasting R T) (id table : String) {name? : Option String}
    {type? : Option ColumnType} (hp : old ∉ Column.protectedNames)
    (hn : ∀ new ∈ name?, Name.IsNormal new) : (editColumn id table old name? type?).Faithful R := by
  intro r db out hr hdb h
  obtain ⟨t, c, t₁, c₁, db₁, t₂, c₂, ht, hc, hfirst, hsecond, hout⟩ := editColumn_eq_ok h
  have hs := hr.tables ht
  have hname := (hs.named hc).1
  have hrenamed : t₁.Sound ∧ t₁.columns.get? c₁.name = some c₁ ∧
      c₁.name ∉ Column.protectedNames ∧ db₁.Holds (r.tables.put table t₁) R := by
    rcases hfirst with ⟨-, heq⟩ | ⟨new, hnew, -, hrename⟩
    · simp only [Prod.mk.injEq] at heq
      obtain ⟨rfl, rfl, rfl⟩ := heq
      exact ⟨hs, hname.symm ▸ hc, hname.symm ▸ hp, by rwa [Fields.put_get? ht]⟩
    · obtain ⟨hs₁, hc₁, hp₁⟩ := renameColumn_sound hs hc hp (hn new hnew) hrename
      exact ⟨hs₁, hc₁, hp₁,
        renameColumn_faithful hR hr.areNamed hdb ht hs.toWellFormed hc hp hrename⟩
  obtain ⟨hs₁, hc₁, hp₁, hdb₁⟩ := hrenamed
  rw [hout]
  rcases hsecond with ⟨-, heq⟩ | ⟨type, hty, -, hretype⟩
  · simp only [Prod.mk.injEq] at heq
    rw [heq.1, heq.2.2]
    exact hdb₁
  · have hretyped := retypeColumn_faithful hR (hr.areNamed.put ht hs₁.isNamed) hdb₁
      (by rw [Fields.get?_put, if_pos rfl]) hc₁ hp₁ hretype
    rwa [Fields.put_put] at hretyped

theorem deleteColumn_faithful (hR : Sheet.Lasting R T) (table name : String) :
    (deleteColumn table name).Faithful R := by
  intro r db out hr hdb h
  obtain ⟨t, c, stored, ht, hc, hstored, rfl⟩ := deleteColumn_eq_ok h
  have hnormal := ((hr.tables ht).named hc).2.normalize_eq
  refine hdb.dropColumn hR hr.areNamed ht hnormal hstored fun key => ?_
  rw [Table.kind?_shift, Table.kind?_drop]

/-- A revision of one column keeps what is stored. -/
theorem Revised.holds (hR : Sheet.Lasting R T) {r r' : Record} {d : Column} {db : Database}
    (h : Revised r table name d r') (hdb : db.Holds r.tables R) : db.Holds r'.tables R := by
  obtain ⟨t, c, ht, hc, hname, htype, -, rfl⟩ := h
  exact hdb.congr hR ht (Table.kind?_revise hc hname htype _)

theorem setColumnVisibility_faithful (hR : Sheet.Lasting R T) (table name : String)
    (hidden : Bool) : (setColumnVisibility table name hidden).Faithful R :=
  fun _ hdb h => (setColumnVisibility_revised h).holds hR hdb

theorem swapColumn_faithful (hR : Sheet.Lasting R T) (table name : String) (index : Int) :
    (swapColumn table name index).Faithful R := by
  intro r a r' db hr hdb h
  obtain ⟨t, c, ht, hc, rfl | ⟨key, other, hm, hne, -, rfl⟩⟩ := swapColumn_eq_ok h
  · exact hdb
  have hkey : t.columns.get? key = some other := (hr.tables ht).get?_of_mem hm
  refine hdb.congr hR ht ?_
  let u : Table := { t with columns := t.columns.put key { other with index := c.index } }
  have hfirst : u.kind? = t.kind? :=
    Table.kind?_revise (d := { other with index := c.index }) hkey rfl rfl t.hidden
  have hcu : u.columns.get? name = some c := by rw [Fields.get?_put, if_neg (Ne.symm hne), hc]
  have hsecond := Table.kind?_revise (d := { c with index := other.index }) hcu rfl rfl t.hidden
  exact hsecond.trans hfirst

theorem moveColumn_faithful (hR : Sheet.Lasting R T) (table name : String) (index : Int) :
    (moveColumn table name index).Faithful R := by
  intro r a r' db hr hdb h
  obtain ⟨t, c, between, step, ht, hc, -, -, -, rfl⟩ := moveColumn_eq_ok h
  refine hdb.congr hR ht (funext fun key => ?_)
  rw [Table.kind?_put, Table.kind?_shift]
  split
  · next heq => rw [heq, Table.kind?_of_get? hc]
  · rfl

theorem registerTag_faithful (hR : Sheet.Lasting R T) (table name tag : String)
    (description : Value) : (registerTag table name tag description).Faithful R :=
  fun _ hdb h => (registerTag_revised h).holds hR hdb

theorem unregisterTag_faithful (hR : Sheet.Lasting R T) (table name tag : String) :
    (unregisterTag table name tag).Faithful R :=
  fun _ hdb h => (unregisterTag_revised h).holds hR hdb

theorem setRule_faithful (hR : Sheet.Lasting R T) (table name : String) (rule : Value) :
    (setRule table name rule).Faithful R :=
  fun _ hdb h => (setRule_revised h).holds hR hdb

end Schema

end Cabinet

import Cabinet.Proofs.Schema.Sound
import Cabinet.Proofs.Storage.Numbers

/-!
Changes of tables and columns leave stored tables as the library makes them, whether or not these are
the tables of the record.
-/

namespace Cabinet

open Storage

/-- Stored tables stay as the library makes them, and go on with the numbers of their rows. -/
def Change.Regular {α : Type} (change : Change α) : Prop :=
  ∀ {r db out}, r.Sound → db.Regular → change r db = .ok out →
    out.stored.Regular ∧ db.Continues out.stored

namespace Schema

variable {name old new : String}

theorem createTable_regular (id name : String) : (createTable id name).Regular := by
  intro r db out _ hdb h
  obtain ⟨-, stored, hstored, rfl⟩ := createTable_eq_ok h
  exact ⟨hdb.createTable hstored, hdb.continues_createTable hstored⟩

theorem renameTable_regular (id old new : String) : (renameTable id old new).Regular := by
  intro r db out _ hdb h
  obtain ⟨-, stored, -, -, hstored, rfl⟩ := renameTable_eq_ok h
  exact ⟨hdb.renameTable hstored, (hdb.numbers_renameTable hstored).1⟩

theorem deleteTable_regular (name : String) : (deleteTable name).Regular := by
  intro r db out _ hdb h
  obtain ⟨-, stored, -, hstored, rfl⟩ := deleteTable_eq_ok h
  split at hstored
  · exact ⟨hdb.dropTable hstored, hdb.continues_dropTable hstored⟩
  · subst hstored
    exact ⟨hdb, .refl _⟩

theorem createColumn_regular (table : String) (h : Name.IsNormal name) (type : ColumnType)
    (hidden : Bool) (index? : Option Int) : (createColumn table name type hidden index?).Regular := by
  intro r db out _ hdb hout
  obtain ⟨-, -, stored, -, -, -, -, -, hstored, rfl⟩ := createColumn_eq_ok hout
  exact ⟨hdb.addColumn h hstored, .of_eq (hdb.numbers_addColumn hstored)⟩

/-- A column that is retyped is dropped, and added again. -/
theorem retypeColumn_regular {table : String} {t t' : Table} {c c' : Column} {type : ColumnType}
    {db stored : Database} (hdb : db.Regular) (hn : Name.IsNormal c.name)
    (hp : c.name ∉ Column.protectedNames)
    (h : retypeColumn table type t c db = .ok (t', c', stored)) :
    stored.Regular ∧ stored.numbers = db.numbers := by
  obtain ⟨⟨without, hwithout, hstored⟩, -, -⟩ := retypeColumn_eq_ok h
  have hdropped := hdb.dropColumn hn.normalize_eq hp hwithout
  exact ⟨hdropped.addColumn hn hstored,
    (hdropped.numbers_addColumn hstored).trans (hdb.numbers_dropColumn hwithout)⟩

theorem editColumn_regular (id table : String) {name? : Option String} {type? : Option ColumnType}
    (hp : old ∉ Column.protectedNames) (hn : ∀ new ∈ name?, Name.IsNormal new) :
    (editColumn id table old name? type?).Regular := by
  intro r db out hr hdb h
  obtain ⟨t, c, t₁, c₁, db₁, t₂, c₂, ht, hc, hfirst, hsecond, -⟩ := editColumn_eq_ok h
  have hs := hr.tables ht
  obtain ⟨hname, hnormal⟩ := hs.named hc
  have hrenamed : Name.IsNormal c₁.name ∧ c₁.name ∉ Column.protectedNames ∧ db₁.Regular ∧
      db₁.numbers = db.numbers := by
    rcases hfirst with ⟨-, heq⟩ | ⟨new, hnew, -, hrename⟩
    · simp only [Prod.mk.injEq] at heq
      obtain ⟨rfl, rfl, rfl⟩ := heq
      exact ⟨hname ▸ hnormal, hname ▸ hp, hdb, rfl⟩
    · obtain ⟨hfree, hstored, rfl, -⟩ := renameColumn_eq_ok hrename
      have hprotected : new ∉ Column.protectedNames := fun hm => hfree (hs.mem_keys_of_protected hm)
      exact ⟨hn new hnew, hprotected, hdb.renameColumn hnormal.normalize_eq hp (hn new hnew) hstored,
        hdb.numbers_renameColumn hstored⟩
  obtain ⟨hn₁, hp₁, hdb₁, hnumbers₁⟩ := hrenamed
  rcases hsecond with ⟨-, heq⟩ | ⟨type, -, -, hretype⟩
  · simp only [Prod.mk.injEq] at heq
    exact heq.2.2 ▸ ⟨hdb₁, .of_eq hnumbers₁⟩
  · obtain ⟨hregular, hnumbers⟩ := retypeColumn_regular hdb₁ hn₁ hp₁ hretype
    exact ⟨hregular, .of_eq (hnumbers.trans hnumbers₁)⟩

theorem deleteColumn_regular (table : String) (hp : name ∉ Column.protectedNames) :
    (deleteColumn table name).Regular := by
  intro r db out hr hdb h
  obtain ⟨t, c, stored, ht, hc, hstored, rfl⟩ := deleteColumn_eq_ok h
  have hnormal := ((hr.tables ht).named hc).2.normalize_eq
  exact ⟨hdb.dropColumn hnormal hp hstored, .of_eq (hdb.numbers_dropColumn hstored)⟩

end Schema

end Cabinet

import Cabinet.Proofs.Storage.Sheet
import Cabinet.Rows

/-!
Relations between stored tables and tables of a record that last: no change of tables, columns or
rows breaks them.
-/

namespace Cabinet

open Storage

variable {T : Int → Prop}

/-- Where a value that is written in a row comes from: it has been accepted for its column, or it is
the time, or it tells whether the row is hidden. -/
inductive Column.Written (T : Int → Prop) (c : Column) : Value → Prop
  | accepted {given v : Value} (accepted : Rows.stored c given = .ok v)
    (free : c.name ∉ Rows.skippedNames)
    (title : c.name = "title" → ∃ s, v = .text s ∧ Text.isAllBlank s.toList = false) : c.Written T v
  | time {n : Int} (time : T n) (name : c.name = "date_created" ∨ c.name = "date_modified") :
    c.Written T (.int n)
  | flag {n : Int} (flag : n = 0 ∨ n = 1) (name : c.name = "hidden") : c.Written T (.int n)

/-- Values that are written in a row of a table, each for a column. -/
def Table.Writes (T : Int → Prop) (t : Table) (values : Fields Value) : Prop :=
  ∀ e ∈ values, ∃ c, t.columns.get? e.1 = some c ∧ c.Written T e.2

namespace Storage.Sheet

/-- A relation between stored tables and tables of a record that holds of new tables, and goes on to
hold whatever is done to both at times of some kind. -/
structure Lasting (R : Sheet → Table → Prop) (T : Int → Prop) : Prop where
  holds {s t} : R s t → s.Holds t
  fresh (name) : R (freshSheet name) .fresh
  named {s t} (name) : R s t → R { s with name } t
  congr {s t t'} : R s t → t'.kind? = t.kind? → R s t'
  addColumn {s s' t t' name type} : R s t → t.Named → name ∉ t.columns.keys →
    name ∉ Column.protectedNames → s.addColumn (Statement.declared name type.storage) = .ok s' →
    (∀ key, t'.kind? key = if key = name then some (name, type) else t.kind? key) → R s' t'
  dropColumn {s s' t t' name} : R s t → t.Named → Name.normalize name = name →
    s.dropColumn name = .ok s' → (∀ key, t'.kind? key = if key = name then none else t.kind? key) →
    R s' t'
  renameColumn {s s' t t' old new type} : R s t → t.Named → t.kind? old = some (old, type) →
    old ∉ Column.protectedNames → new ∉ t.columns.keys → new ∉ Column.protectedNames →
    s.renameColumn old new = .ok s' →
    (∀ key, t'.kind? key = if key = new then some (new, type) else if key = old then none
      else t.kind? key) → R s' t'
  insert {s s' t values cells id} : R s t → t.WellFormed → t.Writes T values →
    "title" ∈ values.keys → "date_modified" ∈ values.keys →
    Cell.ofValues (values.map (·.2)) = .ok cells → s.insert (values.keys.zip cells) = .ok (id, s') →
    R s' t
  update {s s' t values cells key n} : R s t → t.WellFormed → t.Writes T values →
    Cell.ofValues (values.map (·.2)) = .ok cells →
    s.update key (values.keys.zip cells) = .ok (n, s') → R s' t
  delete {s t} (key) : R s t → R (s.delete key).2 t

/-- That a stored table has the columns that a table says lasts. -/
theorem Holds.lasting (T : Int → Prop) : Lasting Holds T where
  holds h := h
  fresh := freshSheet_holds
  named _ h := ⟨h.nodup, h.mem, h.rows⟩
  congr h ht := h.congr (Table.stored?_congr ht)
  addColumn {s s' t t' name type} h ht hn hp ha ht' := by
    refine h.addColumn ht hn ha fun key => ?_
    rw [Table.stored?_eq, ht', Table.stored?_eq]
    change _ = if key = name then _ else _
    split
    · exact congrArg some (Column.stored_of_not_protected hp)
    · rfl
  dropColumn h ht hn hd ht' := by
    refine h.dropColumn ht hn hd fun key => ?_
    rw [Table.stored?_eq, ht', Table.stored?_eq]
    split <;> rfl
  renameColumn {s s' t t' old new type} h ht ho hp hn hp' hr ht' := by
    obtain ⟨c, hc, hname, -⟩ := Table.kind?_eq_some.mp ho
    have hnormal : Name.normalize old = old := (ht hc).2.normalize_eq
    refine h.renameColumn ht hnormal hn hr fun key => ?_
    rw [Table.stored?_eq, ht', Table.stored?_eq, Table.stored?_eq, ho]
    split
    · -- Neither name is protected, so both columns are stored by the type alone.
      have hold := Column.stored_of_not_protected (c := { name := old, type, index := 0 }) hp
      have hnew := Column.stored_of_not_protected (c := { name := new, type, index := 0 }) hp'
      simp only [Option.map_some, hold, hnew]
      rfl
    · split <;> rfl
  insert h _ _ _ _ _ hi := h.insert hi
  update h _ _ _ hu := h.update hu
  delete key h := h.delete key

end Storage.Sheet

end Cabinet

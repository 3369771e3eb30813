import Cabinet.Proofs.Schema.Regular
import Cabinet.Proofs.Storage.Contents

/-!
What changes of columns make of the rows: each concerns one column, and leaves what is held in the others.
-/

namespace Cabinet

open Schema Storage

variable {r : Record} {db stored : Database} {id table name old new : String} {t t' : Table}
  {c c' : Column} {type : ColumnType}

theorem Table.get?_put (c : Column) (t : Table) :
    (t.put c).columns.get? = Function.update t.columns.get? c.name (some c) :=
  Fields.get?_put_eq_update _ _ _

namespace Schema

/-- A column that is renamed goes with what it holds. -/
theorem renameColumn_rewrites (hdb : db.Regular) (ho : Name.normalize old = old) (hne : new ≠ old)
    (h : renameColumn table old new t c db = .ok (t', c', stored)) :
    t'.hidden = t.hidden ∧ c' = { c with name := new } ∧
      t'.columns.get? = Function.update (Function.update t.columns.get? old none) new (some c') ∧
      db.Rewrites stored table fun held =>
        Function.update (Function.update held old none) new (held old) := by
  obtain ⟨-, hstored, rfl, rfl⟩ := renameColumn_eq_ok h
  refine ⟨rfl, rfl, ?_, hdb.rewrites_renameColumn ho hne hstored⟩
  rw [Table.get?_put, Fields.get?_drop_eq_update]

/-- A column that is retyped holds nothing any more. -/
theorem retypeColumn_rewrites (hdb : db.Regular) (hn : Name.IsNormal c.name)
    (hp : c.name ∉ Column.protectedNames)
    (h : retypeColumn table type t c db = .ok (t', c', stored)) :
    t'.hidden = t.hidden ∧ c' = { c with type, tags := [], rule := .text "" } ∧
      t'.columns.get? = Function.update t.columns.get? c.name (some c') ∧
      db.Rewrites stored table (Function.update · c.name (some .null)) := by
  obtain ⟨⟨without, hwithout, hstored⟩, rfl, rfl⟩ := retypeColumn_eq_ok h
  -- The column is dropped and added again under its name.
  have hdropped := hdb.rewrites_dropColumn hn.normalize_eq hwithout
  have hadded := (hdb.dropColumn hn.normalize_eq hp hwithout).rewrites_addColumn hstored
  refine ⟨rfl, rfl, Table.get?_put _ _, ?_⟩
  have hboth := hdropped.trans hadded
  simp only [Function.comp_def, Function.update_idem] at hboth
  exact hboth

/-- A column that is renamed or retyped or both: with its type it keeps all that it is and holds, and with
a new type it keeps its index and whether it is hidden, and holds nothing any more. -/
theorem editColumn_rewrites {name? : Option String} {type? : Option ColumnType} {out : Outcome Column}
    (hr : r.Sound) (hdb : db.Regular) (hp : old ∉ Column.protectedNames)
    (hn : ∀ new ∈ name?, Name.IsNormal new) (h : editColumn id table old name? type? r db = .ok out) :
    ∃ t c t', r.tables.get? table = some t ∧ t.columns.get? old = some c ∧
      out.record = r.put table t' ∧ t'.hidden = t.hidden ∧
      t'.columns.get? = Function.update (Function.update t.columns.get? old none) (name?.getD old)
        (some (if type?.getD c.type = c.type then { c with name := name?.getD old }
          else { c with
            name := name?.getD old, type := type?.getD c.type, tags := [], rule := .text "" })) ∧
      db.Rewrites out.stored table fun held =>
        Function.update (Function.update held old none) (name?.getD old)
          (if type?.getD c.type = c.type then held old else some .null) := by
  obtain ⟨t, c, t₁, c₁, db₁, t₂, c₂, ht, hc, hfirst, hsecond, hout⟩ := editColumn_eq_ok h
  have hs := hr.tables ht
  obtain ⟨hname, hnormal⟩ := hs.named hc
  -- The name comes first: whether it changes or not, the column has the new one when its type changes.
  have hrenamed : Name.IsNormal c₁.name ∧ c₁.name ∉ Column.protectedNames ∧ db₁.Regular ∧
      t₁.hidden = t.hidden ∧ c₁ = { c with name := name?.getD old } ∧
      t₁.columns.get? =
        Function.update (Function.update t.columns.get? old none) (name?.getD old) (some c₁) ∧
      db.Rewrites db₁ table fun held =>
        Function.update (Function.update held old none) (name?.getD old) (held old) := by
    rcases hfirst with ⟨hsame, heq⟩ | ⟨new, rfl, hne, hrename⟩
    · simp only [Prod.mk.injEq] at heq
      obtain ⟨rfl, rfl, rfl⟩ := heq
      have hkept : (fun held : String → Option Cell =>
          Function.update (Function.update held old none) old (held old)) = fun held => held := by
        funext held
        rw [Function.update_idem, Function.update_eq_self]
      rw [hsame, Function.update_idem, ← hc, Function.update_eq_self, hkept]
      exact ⟨hname ▸ hnormal, hname ▸ hp, hdb, rfl, by rw [← hname], rfl, .refl _ _⟩
    · obtain ⟨hhidden, hc₁, hcolumns, hrewrites⟩ :=
        renameColumn_rewrites hdb hnormal.normalize_eq hne hrename
      obtain ⟨hfree, hstored, -, -⟩ := renameColumn_eq_ok hrename
      have hnew := hn new rfl
      have hprotected : new ∉ Column.protectedNames := fun hm => hfree (hs.mem_keys_of_protected hm)
      exact ⟨by rwa [hc₁], by rwa [hc₁], hdb.renameColumn hnormal.normalize_eq hp hnew hstored, hhidden,
        hc₁, hcolumns, hrewrites⟩
  obtain ⟨hn₁, hp₁, hdb₁, hhidden₁, rfl, hcolumns₁, hrewrites₁⟩ := hrenamed
  refine ⟨t, c, t₂, ht, hc, hout, ?_⟩
  rcases hsecond with ⟨hsame, heq⟩ | ⟨type, rfl, hne, hretype⟩
  · simp only [Prod.mk.injEq] at heq
    obtain ⟨rfl, -, hstored⟩ := heq
    have hkept : type?.getD c.type = c.type := hsame
    simp only [if_pos hkept, hstored]
    exact ⟨hhidden₁, hcolumns₁, hrewrites₁⟩
  · obtain ⟨hhidden₂, rfl, hcolumns₂, hrewrites₂⟩ := retypeColumn_rewrites hdb₁ hn₁ hp₁ hretype
    have hboth := hrewrites₁.trans hrewrites₂
    simp only [Function.comp_def, Function.update_idem] at hboth
    have hne' : type ≠ c.type := hne
    simp only [Option.getD_some, if_neg hne']
    rw [hcolumns₁, Function.update_idem] at hcolumns₂
    exact ⟨hhidden₂.trans hhidden₁, hcolumns₂, hboth⟩

end Schema

end Cabinet

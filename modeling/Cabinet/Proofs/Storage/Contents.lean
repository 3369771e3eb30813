import Cabinet.Proofs.Storage.Numbers
import Mathlib.Logic.Function.Basic

/-!
What the rows of stored tables hold under the names of the columns, and what becomes of it as columns are
added, dropped and renamed.
-/

namespace Cabinet

namespace Fields

variable {α : Type} {fields : Fields α} {key old new : String}

theorem get?_put_eq_update (key : String) (v : α) (fields : Fields α) :
    (put key v fields).get? = Function.update fields.get? key (some v) := by
  funext k
  rw [get?_put, Function.update_apply]

theorem get?_drop_eq_update (key : String) (fields : Fields α) :
    (drop key fields).get? = Function.update fields.get? key none := by
  funext k
  rw [get?_drop, Function.update_apply]

/-- A value goes with its key to the new name of that key. -/
theorem get?_rename (hn : new ∉ fields.keys) :
    get? (fields.map fun (k, v) => (if k = old then new else k, v)) =
      Function.update (Function.update fields.get? old none) new (fields.get? old) := by
  funext k
  induction fields with
  | nil => simp [Function.update_apply]
  | cons entry rest ih =>
    obtain ⟨j, v⟩ := entry
    obtain ⟨hne, hrest⟩ := not_or.mp (mt List.mem_cons.mpr hn)
    have ih := ih hrest
    simp only [List.map_cons, get?_cons, Function.update_apply] at ih ⊢
    rw [ih]
    dsimp only at hne
    grind

end Fields

namespace Storage

/-- What the rows of a stored table hold under the names of its columns, each with its id. -/
def Sheet.contents (s : Sheet) : List (Int × (String → Option Cell)) :=
  s.rows.map fun row => (row.id, (s.fields row).get?)

namespace Sheet

variable {s s' : Sheet} {name old new : String} {type : StorageType} {row : Row}

theorem keys_fields (h : row.cells.length = s.columns.length) : (s.fields row).keys = s.columnNames :=
  List.map_fst_zip (by simp [columnNames, h])

/-- What is held changes in each row alike. -/
theorem contents_eq {φ : (String → Option Cell) → String → Option Cell} {g : Row → Row}
    (hrows : s'.rows = s.rows.map g) (h : ∀ row ∈ s.rows, (g row).id = row.id ∧
      (s'.fields (g row)).get? = φ (s.fields row).get?) :
    s'.contents = s.contents.map (Prod.map id φ) := by
  rw [contents, contents, hrows, List.map_map, List.map_map]
  refine List.map_congr_left fun row hrow => ?_
  exact Prod.ext (h row hrow).1 (h row hrow).2

/-- A column that is added holds nothing in any row. -/
theorem contents_addColumn (h : s.Regular) (ha : s.addColumn (Statement.declared name type) = .ok s') :
    s'.contents = s.contents.map (Prod.map id (Function.update · name (some .null))) := by
  obtain ⟨hno, rfl⟩ := addColumn_eq_ok ha
  refine contents_eq rfl fun row hrow => ⟨rfl, ?_⟩
  have hnew : name ∉ (s.fields row).keys := by
    rw [keys_fields (h.rows row hrow)]
    intro hmem
    obtain ⟨c, hc, rfl⟩ := List.mem_map.mp hmem
    exact Bool.eq_false_iff.mp hno (hasColumn_iff.mpr ⟨c, hc, sameName_iff.mpr rfl⟩)
  have hlength : s.columnNames.length = row.cells.length := by simp [columnNames, h.rows row hrow]
  rw [← Fields.get?_put_eq_update, Fields.put_eq_append hnew]
  simp only [fields, columnNames, List.map_append] at hlength ⊢
  rw [List.zip_append hlength]
  rfl

/-- A column that is dropped goes with what it holds. -/
theorem contents_dropColumn (h : s.Regular) (hn : Name.normalize name = name)
    (hd : s.dropColumn name = .ok s') :
    s'.contents = s.contents.map (Prod.map id (Function.update · name none)) := by
  obtain rfl := dropColumn_of_apart (fun _ => h.sameName_iff hn) hd
  refine contents_eq rfl fun row hrow => ⟨rfl, ?_⟩
  rw [← Fields.get?_drop_eq_update, fields, columnNames, List.zip_map_left,
    zip_kept (fun d => d.name != name) (h.rows row hrow), fields, columnNames, List.zip_map_left,
    Fields.drop, List.filter_map]
  rfl

/-- A column that is renamed keeps what it holds. -/
theorem contents_renameColumn (h : s.Regular) (ho : Name.normalize old = old) (hne : new ≠ old)
    (hr : s.renameColumn old new = .ok s') :
    s'.contents = s.contents.map (Prod.map id fun held =>
      Function.update (Function.update held old none) new (held old)) := by
  obtain ⟨hold, hnodup, rfl⟩ := renameColumn_of_apart (fun _ => h.sameName_iff ho) hr
  rw [columnNames, map_name_renamed] at hnodup
  -- Were the new name there already, two columns would go by it now.
  have hnew : new ∉ s.columnNames := by
    intro hmem
    exact hne (List.inj_on_of_nodup_map hnodup hmem hold (by simp [hne]))
  refine contents_eq (List.map_id _).symm fun row hrow => ⟨rfl, ?_⟩
  rw [← Fields.get?_rename (keys_fields (h.rows row hrow) ▸ hnew), id, fields, columnNames, map_name_renamed,
    List.zip_map_left]
  rfl

end Sheet

/-- What the rows of a table hold, and the greatest id that was given in it. -/
def Database.contents (db : Database) (name : String) :
    Option (List (Int × (String → Option Cell)) × Int) :=
  (db.find? name).map fun s => (s.contents, s.counter)

/-- In each row of one table what is held has changed in one way, and the other tables have stayed as they
were. -/
structure Database.Rewrites (db db' : Database) (name : String)
    (φ : (String → Option Cell) → String → Option Cell) : Prop where
  contents : db'.contents name =
    (db.contents name).map (Prod.map (List.map (Prod.map id φ)) id)
  others : ∀ other, sameName name other = false → db'.find? other = db.find? other

namespace Database

variable {db db' db'' : Database} {s s' : Sheet} {name old new column : String} {type : StorageType}
  {φ ψ : (String → Option Cell) → String → Option Cell}

theorem Rewrites.refl (db : Database) (name : String) : db.Rewrites db name id where
  contents := by simp
  others _ _ := rfl

theorem Rewrites.trans (h : db.Rewrites db' name φ) (h' : db'.Rewrites db'' name ψ) :
    db.Rewrites db'' name (ψ ∘ φ) where
  contents := by
    rw [h'.contents, h.contents, Option.map_map, Prod.map_comp_map, List.map_comp_map,
      Prod.map_comp_map]
    rfl
  others other hother := (h'.others other hother).trans (h.others other hother)

/-- A stored table takes the place of one whose rows hold the same but for one change. -/
theorem Regular.rewrites_replace (h : db.Regular) (hf : db.find? name = some s)
    (hname : s'.name = s.name) (hcounter : s'.counter = s.counter)
    (hcontents : s'.contents = s.contents.map (Prod.map id φ)) :
    db.Rewrites (db.replace name s') name φ where
  contents := by
    have hsame := (of_find?_eq_some hf).2
    rw [Database.contents, Database.contents, h.find?_replace_eq hf hname, if_pos hsame, hf]
    simp [hcontents, hcounter]
  others other hother := by
    have hsame := (of_find?_eq_some hf).2
    rw [h.find?_replace_eq hf hname, if_neg]
    intro heq
    rw [sameName_iff.mpr (hsame.trans heq.symm)] at hother
    cases hother

section Statements

variable (h : db.Regular)

include h

theorem Regular.rewrites_addColumn
    (ha : db.addColumn name (Statement.declared column type) = .ok db') :
    db.Rewrites db' name (Function.update · column (some .null)) := by
  obtain ⟨s, s', hs, -, hs', rfl⟩ := addColumn_eq_ok ha
  exact h.rewrites_replace hs (Sheet.name_of_addColumn hs')
    (congrArg Prod.snd (Sheet.numbers_of_addColumn hs')) (Sheet.contents_addColumn (h.of_find? hs) hs')

theorem Regular.rewrites_dropColumn (hn : Name.normalize column = column)
    (hd : db.dropColumn name column = .ok db') :
    db.Rewrites db' name (Function.update · column none) := by
  obtain ⟨s, s', hs, hs', rfl⟩ := dropColumn_eq_ok hd
  exact h.rewrites_replace hs (Sheet.name_of_dropColumn hs')
    (congrArg Prod.snd (Sheet.numbers_of_dropColumn hs'))
    (Sheet.contents_dropColumn (h.of_find? hs) hn hs')

theorem Regular.rewrites_renameColumn (ho : Name.normalize old = old) (hne : new ≠ old)
    (hr : db.renameColumn name old new = .ok db') : db.Rewrites db' name fun held =>
      Function.update (Function.update held old none) new (held old) := by
  obtain ⟨s, s', hs, -, hs', rfl⟩ := renameColumn_eq_ok hr
  exact h.rewrites_replace hs (Sheet.name_of_renameColumn hs')
    (congrArg Prod.snd (Sheet.numbers_of_renameColumn hs'))
    (Sheet.contents_renameColumn (h.of_find? hs) ho hne hs')

end Statements

end Database

end Storage

end Cabinet

import Cabinet.Proofs.Storage.Regular

/-!
The ids of the rows of stored tables, and the greatest ids that were ever given: changes of tables and
columns leave both as they are.
-/

namespace Cabinet.Storage

/-- The ids of the rows of a stored table, and the greatest id that was ever given there. -/
def Sheet.numbers (s : Sheet) : List Int × Int :=
  (s.rows.map (·.id), s.counter)

namespace Sheet

variable {s s' : Sheet} {c : SheetColumn} {name old new : String}

theorem numbers_of_addColumn (h : s.addColumn c = .ok s') : s'.numbers = s.numbers := by
  obtain ⟨-, rfl⟩ := addColumn_eq_ok h
  rw [numbers, numbers, List.map_map]
  rfl

theorem numbers_of_dropColumn (h : s.dropColumn name = .ok s') : s'.numbers = s.numbers := by
  obtain ⟨c, -, -, rfl⟩ := dropColumn_eq_ok h
  rw [numbers, numbers, List.map_map]
  rfl

theorem numbers_of_renameColumn (h : s.renameColumn old new = .ok s') : s'.numbers = s.numbers := by
  obtain ⟨-, -, rfl⟩ := renameColumn_eq_ok h
  rfl

end Sheet

/-- The numbers of the stored table with a name. -/
def Database.numbers (db : Database) (name : String) : Option (List Int × Int) :=
  (db.find? name).map Sheet.numbers

/-- Of the tables with one name before and after, the numbers are the same. -/
def Database.Continues (db db' : Database) : Prop :=
  ∀ name {n n'}, db.numbers name = some n → db'.numbers name = some n' → n' = n

namespace Database

variable {db db' : Database} {s s' : Sheet} {name old new key column : String} {c : SheetColumn}

theorem Continues.refl (db : Database) : db.Continues db :=
  fun _ _ _ h h' => Option.some.inj (h'.symm.trans h)

theorem Continues.of_eq (h : db'.numbers = db.numbers) : db.Continues db' :=
  fun name _ _ hn hn' => Option.some.inj (hn'.symm.trans ((congrFun h name).trans hn))

/-- It makes no difference in which case of the alphabet a table is called. -/
theorem numbers_of_sameName (h : sameName key name = true) : db.numbers key = db.numbers name := by
  have hsame : ∀ other, sameName key other = sameName name other := fun other => by
    rw [sameName, sameName, sameName_iff.mp h]
  simp only [numbers, find?, hsame]

section Statements

variable (h : db.Regular)

include h

/-- A table that takes the place of one leaves those of other names as they are. -/
theorem Regular.find?_replace_of_ne (hf : db.find? old = some s)
    (hname : s'.name = s.name ∨ db.find? s'.name = none) {key : String}
    (hkey : Text.foldAscii key.toList ≠ Text.foldAscii s.name.toList)
    (hkey' : Text.foldAscii key.toList ≠ Text.foldAscii s'.name.toList) :
    (db.replace old s').find? key = db.find? key := by
  refine Option.ext fun t => ?_
  rw [Database.find?_eq_some_iff (h.apart_replace hf hname), h.find?_eq_some_iff, h.sheets_replace hf]
  refine and_congr_left fun hsame => ?_
  -- Neither the table that came nor the one that went is the one that is asked for.
  constructor
  · intro ht
    obtain ⟨before, hbefore, rfl⟩ := List.mem_map.mp ht
    split at hsame
    · exact absurd hsame hkey'
    · next hno => exact (if_neg hno).symm ▸ hbefore
  · intro ht
    have hne : t ≠ s := fun heq => hkey (heq ▸ hsame)
    exact List.mem_map.mpr ⟨t, ht, if_neg hne⟩

/-- A table takes the place of one by the same name. -/
theorem Regular.find?_replace_eq (hf : db.find? old = some s) (hname : s'.name = s.name)
    (key : String) : (db.replace old s').find? key =
      if Text.foldAscii key.toList = Text.foldAscii s.name.toList then some s' else db.find? key := by
  split
  · next hkey => exact h.find?_replace hf (.inl hname) (hname ▸ hkey)
  · next hkey => exact h.find?_replace_of_ne hf (.inl hname) hkey (hname ▸ hkey)

theorem Regular.numbers_replace (hf : db.find? old = some s) (hname : s'.name = s.name)
    (hnumbers : s'.numbers = s.numbers) :
    (db.replace old s').numbers = db.numbers := by
  funext key
  rw [numbers, h.find?_replace_eq hf hname, numbers]
  split
  · next hkey =>
    rw [h.find?_eq_some_iff.mpr ⟨(of_find?_eq_some hf).1, hkey⟩, Option.map_some, Option.map_some,
      hnumbers]
  · rfl

/-- A table that is found by its name is the one that was there. -/
theorem Regular.continues_of_mem (h' : db'.Regular) (hmem : ∀ {name s s'}, db.find? name = some s →
    db'.find? name = some s' → s ∈ db'.sheets ∨ s' ∈ db.sheets) : db.Continues db' := by
  intro name n n' hn hn'
  obtain ⟨s, hs, rfl⟩ := Option.map_eq_some_iff.mp hn
  obtain ⟨s', hs', rfl⟩ := Option.map_eq_some_iff.mp hn'
  have hsame := (of_find?_eq_some hs).2.symm.trans (of_find?_eq_some hs').2
  rcases hmem hs hs' with hin | hin
  · rw [h'.eq_of_name hin (of_find?_eq_some hs').1 hsame]
  · rw [h.eq_of_name (of_find?_eq_some hs).1 hin hsame]

theorem Regular.continues_createTable (hc : db.createTable (freshSheet name) = .ok db') :
    db.Continues db' := by
  refine h.continues_of_mem (h.createTable hc) fun hs _ => .inl ?_
  simp only [Database.createTable, bind_eq_ok_iff, check_eq_ok_iff] at hc
  obtain ⟨-, -, -, -, -, -, -, hc⟩ := hc
  exact Except.ok.inj hc ▸ List.mem_append_left _ (of_find?_eq_some hs).1

theorem Regular.continues_dropTable (hd : db.dropTable name = .ok db') : db.Continues db' := by
  refine h.continues_of_mem (h.dropTable hd) fun _ hs' => .inr ?_
  simp only [Database.dropTable, bind_eq_ok_iff, check_eq_ok_iff] at hd
  obtain ⟨-, -, -, -, -, hd⟩ := hd
  obtain rfl := Except.ok.inj hd
  exact List.mem_of_mem_filter (of_find?_eq_some hs').1

/-- A table goes with its rows to its new name. -/
theorem Regular.find?_renameTable (hd : db.renameTable old new = .ok db') :
    ∃ s, db.find? old = some s ∧ db'.find? new = some { s with name := new } ∧
      ∀ other, sameName old other = false → sameName new other = false →
        db'.find? other = db.find? other := by
  obtain ⟨s, hs, hfree, -, -, rfl⟩ := renameTable_eq_ok hd
  have hfree' : db.find? { s with name := new }.name = none := hfree
  refine ⟨s, hs, h.find?_replace hs (.inr hfree') rfl, fun other hold hnew => ?_⟩
  refine h.find?_replace_of_ne hs (.inr hfree') (fun heq => ?_) fun heq => ?_
  · rw [sameName_iff.mpr ((of_find?_eq_some hs).2.trans heq.symm)] at hold
    cases hold
  · rw [sameName_iff.mpr heq.symm] at hnew
    cases hnew

/-- A table takes its numbers with it to its new name. -/
theorem Regular.numbers_renameTable (hd : db.renameTable old new = .ok db') :
    db.Continues db' ∧ db'.numbers new = db.numbers old := by
  have hregular := h.renameTable hd
  obtain ⟨s, hs, hnew, -⟩ := h.find?_renameTable hd
  have hnumbers : db'.numbers new = db.numbers old := by
    rw [numbers, hnew, numbers, hs]
    rfl
  refine ⟨?_, hnumbers⟩
  obtain ⟨moved, -, hfree, -, -, rfl⟩ := renameTable_eq_ok hd
  refine h.continues_of_mem hregular fun hu hu' => .inr ?_
  obtain ⟨hmem, hsame⟩ := of_find?_eq_some hu'
  obtain ⟨before, hbefore, rfl⟩ := List.mem_map.mp hmem
  split at hsame
  · obtain ⟨hu, hsame'⟩ := of_find?_eq_some hu
    exact absurd (sameName_iff.mpr (hsame.symm.trans hsame')) (List.find?_eq_none.mp hfree _ hu)
  · next hno => exact (if_neg hno).symm ▸ hbefore

theorem Regular.numbers_addColumn (ha : db.addColumn name c = .ok db') :
    db'.numbers = db.numbers := by
  obtain ⟨s, s', hs, -, hs', rfl⟩ := addColumn_eq_ok ha
  exact h.numbers_replace hs (Sheet.name_of_addColumn hs') (Sheet.numbers_of_addColumn hs')

theorem Regular.numbers_dropColumn (hd : db.dropColumn name column = .ok db') :
    db'.numbers = db.numbers := by
  obtain ⟨s, s', hs, hs', rfl⟩ := dropColumn_eq_ok hd
  exact h.numbers_replace hs (Sheet.name_of_dropColumn hs') (Sheet.numbers_of_dropColumn hs')

theorem Regular.numbers_renameColumn (hr : db.renameColumn name old new = .ok db') :
    db'.numbers = db.numbers := by
  obtain ⟨s, s', hs, -, hs', rfl⟩ := renameColumn_eq_ok hr
  exact h.numbers_replace hs (Sheet.name_of_renameColumn hs') (Sheet.numbers_of_renameColumn hs')

end Statements

end Database

end Cabinet.Storage

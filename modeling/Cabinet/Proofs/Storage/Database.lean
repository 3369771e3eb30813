import Cabinet.Proofs.Storage.Lasting

/-!
Stored tables that are those of a record, and statements that keep them so.
-/

namespace Cabinet.Storage

/-- The stored tables are those that a record tells of, and each holds what is said there, or relates
to it in another way. -/
structure Database.Holds (db : Database) (tables : Fields Table)
    (R : Sheet → Table → Prop := Sheet.Holds) : Prop where
  nodup : (db.sheets.map (·.name)).Nodup
  sheets : ∀ s ∈ db.sheets, ∃ t, tables.get? s.name = some t ∧ R s t
  tables : ∀ {name t}, tables.get? name = some t → name ∈ db.sheets.map (·.name)
  admitted : ∀ s ∈ db.sheets, admitTexts [s.name] = .ok ()

/-- Tables and columns go by normal names. -/
structure AreNamed (tables : Fields Table) : Prop where
  normal : ∀ {name t}, tables.get? name = some t → Name.IsNormal name
  named : ∀ {name t}, tables.get? name = some t → t.Named

/-- Naming is kept where a table is put whose columns go by normal names. -/
theorem AreNamed.put {tables : Fields Table} (h : AreNamed tables) {name : String} {t u : Table}
    (ht : tables.get? name = some t) (hu : u.Named) : AreNamed (tables.put name u) where
  normal {key v} hk := by
    rw [Fields.get?_put] at hk
    split at hk
    · next heq => exact heq ▸ h.normal ht
    · exact h.normal hk
  named hk := Fields.forall_get?_put (P := Table.Named) h.named hu hk

namespace Database

variable {db db' : Database} {tables tables' : Fields Table} {name old new : String}
  {s s' : Sheet} {t t' : Table} {R : Sheet → Table → Prop} {T : Int → Prop}

theorem holds_nil : Holds {} [] R :=
  ⟨List.nodup_nil, by simp, by simp, by simp⟩

/-- The stored tables have the names of the tables that a record tells of. -/
theorem Holds.names_perm (h : db.Holds tables R) (hd : tables.keys.Nodup) :
    (db.sheets.map (·.name)).Perm tables.keys := by
  refine (List.perm_ext_iff_of_nodup h.nodup hd).mpr fun name => ⟨fun hm => ?_, fun hk => ?_⟩
  · obtain ⟨s, hs, rfl⟩ := List.mem_map.mp hm
    obtain ⟨t, ht, -⟩ := h.sheets s hs
    exact Fields.mem_keys ht
  · obtain ⟨t, ht⟩ := Option.isSome_iff_exists.mp (Fields.get?_isSome_iff.mpr hk)
    exact h.tables ht

theorem Holds.eq_of_name (h : db.Holds tables R) (hs : s ∈ db.sheets) (hs' : s' ∈ db.sheets)
    (hn : s.name = s'.name) : s = s' :=
  List.inj_on_of_nodup_map h.nodup hs hs' hn

theorem Holds.sameName_iff (h : db.Holds tables R) (hr : AreNamed tables) (hn : Name.normalize name = name)
    (hs : s ∈ db.sheets) : sameName name s.name = true ↔ s.name = name := by
  obtain ⟨t, ht, -⟩ := h.sheets s hs
  rw [Name.sameName_iff hn (hr.normal ht).normalize_eq, eq_comm]

theorem Holds.of_find?_eq_some (h : db.Holds tables R) (hr : AreNamed tables) (hn : Name.normalize name = name)
    (hf : db.find? name = some s) : s ∈ db.sheets ∧ s.name = name := by
  have hs := List.mem_of_find?_eq_some hf
  exact ⟨hs, (h.sameName_iff hr hn hs).mp (by simpa using List.find?_some hf)⟩

theorem Holds.of_find_eq_ok (h : db.Holds tables R) (hr : AreNamed tables) (hn : Name.normalize name = name)
    (hf : db.find name = .ok s) : s ∈ db.sheets ∧ s.name = name := by
  unfold Database.find at hf
  split at hf
  · next hfind =>
    obtain rfl := Except.ok.inj hf
    exact h.of_find?_eq_some hr hn hfind
  · simp at hf

theorem Holds.of_findAlterable_eq_ok (h : db.Holds tables R) (hr : AreNamed tables)
    (hn : Name.normalize name = name) (hf : db.findAlterable name = .ok s) :
    s ∈ db.sheets ∧ s.name = name := by
  unfold findAlterable at hf
  split at hf
  · simp at hf
  · exact h.of_find_eq_ok hr hn hf

/-- The stored table of a table that a record tells of is found. -/
theorem Holds.find?_eq_some (h : db.Holds tables R) (hr : AreNamed tables)
    (ht : tables.get? name = some t) : ∃ s, db.find? name = some s ∧ s.name = name ∧ R s t := by
  have hn := (hr.normal ht).normalize_eq
  obtain ⟨s, hs, rfl⟩ := List.mem_map.mp (h.tables ht)
  obtain ⟨u, hu, hsu⟩ := h.sheets s hs
  obtain rfl : t = u := by simpa [ht] using hu
  cases hf : db.find? s.name with
  | none =>
    have hno := List.find?_eq_none.mp hf s hs
    exact absurd ((h.sameName_iff hr hn hs).mpr rfl) hno
  | some s' =>
    obtain ⟨hs', hname⟩ := h.of_find?_eq_some hr hn hf
    obtain rfl := h.eq_of_name hs' hs hname
    exact ⟨s', rfl, rfl, hsu⟩

theorem hasTable_of_mem (h : name ∈ db.sheets.map (·.name)) : db.hasTable name = true := by
  obtain ⟨s, hs, rfl⟩ := List.mem_map.mp h
  simp only [hasTable, Bool.or_eq_true, List.any_eq_true]
  exact .inl ⟨s, hs, by simp⟩

/-- A stored table takes the place of one as a table of the record does, by the same name or by a
new one. -/
theorem Holds.replaceBy (h : db.Holds tables R) (hr : AreNamed tables) (ht : tables.get? old = some t)
    (hs' : R s' t') (hnew : s'.name = old ∨ s'.name ∉ tables.keys)
    (hclean : admitTexts [s'.name] = .ok ())
    (htables : ∀ k, tables'.get? k =
      if k = s'.name then some t' else if k = old then none else tables.get? k) :
    (db.replace old s').Holds tables' R := by
  have hn := (hr.normal ht).normalize_eq
  have hsheets : (db.replace old s').sheets =
      db.sheets.map fun s => if s.name = old then s' else s :=
    List.map_congr_left fun s hs => by simp only [h.sameName_iff hr hn hs]
  have hapart : ∀ s ∈ db.sheets, s.name ≠ old → s.name ≠ s'.name := by
    intro s hs hne heq
    obtain ⟨u, hu, -⟩ := h.sheets s hs
    rcases hnew with hsame | hno
    · exact hne (heq.trans hsame)
    · exact hno (heq ▸ Fields.mem_keys hu)
  refine ⟨?_, fun s hs => ?_, fun {name u} hu => ?_, fun s hs => ?_⟩
  · rw [hsheets, List.map_map]
    -- Of two tables that have one name now, both or none have been replaced.
    refine (List.Nodup.of_map _ h.nodup).map_on fun a ha b hb hab => ?_
    have := fun heq => h.eq_of_name ha hb heq
    have := hapart a ha
    have := hapart b hb
    grind
  · obtain ⟨s₀, hs₀, rfl⟩ := List.mem_map.mp (hsheets ▸ hs)
    by_cases heq : s₀.name = old
    · exact ⟨t', by simp [heq, htables], by simpa [heq] using hs'⟩
    · obtain ⟨u, hu, hsu⟩ := h.sheets s₀ hs₀
      exact ⟨u, by simp [heq, htables, hu, hapart s₀ hs₀ heq], by simpa [heq] using hsu⟩
  · rw [htables] at hu
    rw [hsheets, List.mem_map]
    simp only [List.mem_map]
    split at hu
    · next heq =>
      obtain ⟨s, hs, hsn⟩ := List.mem_map.mp (h.tables ht)
      exact ⟨s', ⟨s, hs, by simp [hsn]⟩, heq.symm⟩
    · split at hu
      · simp at hu
      · next hne =>
        obtain ⟨s, hs, rfl⟩ := List.mem_map.mp (h.tables hu)
        exact ⟨s, ⟨s, hs, by simp [hne]⟩, rfl⟩
  · obtain ⟨s₀, hs₀, rfl⟩ := List.mem_map.mp (hsheets ▸ hs)
    split
    · exact hclean
    · exact h.admitted s₀ hs₀

/-- A stored table takes the place of one, and the table of the record does so too. -/
theorem Holds.replace (h : db.Holds tables R) (hr : AreNamed tables) (ht : tables.get? name = some t)
    (hname : s'.name = name) (hs' : R s' t') :
    (db.replace name s').Holds (tables.put name t') R := by
  obtain ⟨s, hs, hsn⟩ := List.mem_map.mp (h.tables ht)
  refine h.replaceBy hr ht hs' (.inl hname) (hname ▸ hsn ▸ h.admitted s hs) fun k => ?_
  rw [Fields.get?_put, hname]
  split <;> rfl

/-- A stored table may change as long as it still holds what the record says. -/
theorem Holds.replace_same (h : db.Holds tables R) (hr : AreNamed tables)
    (ht : tables.get? name = some t) (hname : s'.name = name) (hs' : R s' t) :
    (db.replace name s').Holds tables R := by
  have hput := h.replace hr ht hname hs'
  rwa [Fields.put_get? ht] at hput

theorem Holds.createTable (hR : Sheet.Lasting R T) (h : db.Holds tables R) (hn : name ∉ tables.keys)
    (hc : db.createTable (freshSheet name) = .ok db') : db'.Holds (tables.put name .fresh) R := by
  simp only [Database.createTable, bind_eq_ok_iff, check_eq_ok_iff] at hc
  obtain ⟨_, hclean, -, -, -, -, -, hc⟩ := hc
  obtain rfl := Except.ok.inj hc
  have hname : (freshSheet name).name = name := rfl
  refine ⟨?_, fun s hs => ?_, fun {key t} ht => ?_, fun s hs => ?_⟩
  · rw [List.map_append, List.map_singleton]
    refine List.nodup_append.mpr ⟨h.nodup, by simp, ?_⟩
    rintro a ha b hb rfl
    obtain ⟨s, hs, rfl⟩ := List.mem_map.mp ha
    obtain ⟨t, ht, -⟩ := h.sheets s hs
    exact hn (hname ▸ List.mem_singleton.mp hb ▸ Fields.mem_keys ht)
  · rw [Fields.get?_put]
    rcases List.mem_append.mp hs with hs | hs
    · obtain ⟨t, ht, hst⟩ := h.sheets s hs
      have hne : s.name ≠ name := fun heq => hn (heq ▸ Fields.mem_keys ht)
      exact ⟨t, by rw [if_neg hne, ht], hst⟩
    · obtain rfl := List.mem_singleton.mp hs
      exact ⟨.fresh, if_pos hname, hR.fresh name⟩
  · rw [List.map_append, List.map_singleton, List.mem_append, List.mem_singleton]
    rw [Fields.get?_put] at ht
    split at ht
    · next heq => exact .inr heq
    · exact .inl (h.tables ht)
  · rcases List.mem_append.mp hs with hs | hs
    · exact h.admitted s hs
    · obtain rfl := List.mem_singleton.mp hs
      exact admitTexts_eq_ok.mp hclean _ List.mem_cons_self

theorem Holds.renameTable (hR : Sheet.Lasting R T) (h : db.Holds tables R) (hr : AreNamed tables)
    (ht : tables.get? old = some t) (hn : new ∉ tables.keys)
    (hd : db.renameTable old new = .ok db') : db'.Holds ((tables.drop old).put new t) R := by
  simp only [Database.renameTable, bind_eq_ok_iff, check_eq_ok_iff] at hd
  obtain ⟨_, hclean, s, hs, -, -, hd⟩ := hd
  obtain rfl := Except.ok.inj hd
  obtain ⟨hmem, hname⟩ := h.of_findAlterable_eq_ok hr (hr.normal ht).normalize_eq hs
  obtain ⟨u, hu, hsu⟩ := h.sheets s hmem
  obtain rfl : t = u := by simpa [hname, ht] using hu
  refine h.replaceBy hr ht (hR.named new hsu) (.inr hn)
    (admitTexts_eq_ok.mp hclean _ (by simp)) fun k => ?_
  rw [Fields.get?_put, Fields.get?_drop]

theorem Holds.dropTable (h : db.Holds tables R) (hr : AreNamed tables) (ht : tables.get? name = some t)
    (hd : db.dropTable name = .ok db') : db'.Holds (tables.drop name) R := by
  simp only [Database.dropTable, bind_eq_ok_iff, check_eq_ok_iff] at hd
  obtain ⟨-, -, -, -, -, hd⟩ := hd
  obtain rfl := Except.ok.inj hd
  have hkept : ∀ s, s ∈ db.sheets.filter (fun s => !sameName name s.name) ↔
      s ∈ db.sheets ∧ s.name ≠ name := by
    intro s
    rw [List.mem_filter]
    refine and_congr_right fun hs => ?_
    have hsame := h.sameName_iff hr (hr.normal ht).normalize_eq hs
    cases hb : sameName name s.name <;> simp_all
  refine ⟨?_, fun s hs => ?_, fun {key u} hu => ?_, fun s hs => ?_⟩
  · exact (List.filter_sublist.map _).nodup h.nodup
  · obtain ⟨hs, hne⟩ := (hkept s).mp hs
    obtain ⟨u, hu, hsu⟩ := h.sheets s hs
    exact ⟨u, by rw [Fields.get?_drop, if_neg hne, hu], hsu⟩
  · rw [Fields.get?_drop] at hu
    split at hu
    · simp at hu
    · next hne =>
      obtain ⟨s, hs, rfl⟩ := List.mem_map.mp (h.tables hu)
      exact List.mem_map_of_mem ((hkept s).mpr ⟨hs, hne⟩)
  · exact h.admitted s ((hkept s).mp hs).1

/-- What a record says may change where the name and the type of no column do. -/
theorem Holds.congr (hR : Sheet.Lasting R T) (h : db.Holds tables R) (ht : tables.get? name = some t)
    (hs : t'.kind? = t.kind?) : db.Holds (tables.put name t') R where
  nodup := h.nodup
  sheets s hs' := by
    obtain ⟨u, hu, hsu⟩ := h.sheets s hs'
    rw [Fields.get?_put]
    by_cases heq : s.name = name
    · obtain rfl : t = u := by simpa [heq, ht] using hu
      exact ⟨t', if_pos heq, hR.congr hsu hs⟩
    · exact ⟨u, by rw [if_neg heq, hu], hsu⟩
  tables {key u} hu := by
    rw [Fields.get?_put] at hu
    split at hu
    · next heq => exact heq ▸ h.tables ht
    · exact h.tables hu
  admitted := h.admitted

/-- A statement that alters one stored table, as the table of the record changes. -/
theorem Holds.alter (h : db.Holds tables R) (hr : AreNamed tables) (ht : tables.get? name = some t)
    (hf : db.findAlterable name = .ok s) (hs : R s t → R s' t') (hname : s'.name = s.name) :
    (db.replace name s').Holds (tables.put name t') R := by
  obtain ⟨hmem, hsn⟩ := h.of_findAlterable_eq_ok hr (hr.normal ht).normalize_eq hf
  obtain ⟨u, hu, hsu⟩ := h.sheets s hmem
  obtain rfl : t = u := by simpa [hsn, ht] using hu
  exact h.replace hr ht (hname.trans hsn) (hs hsu)

theorem Holds.addColumn {column : String} {type : ColumnType} (hR : Sheet.Lasting R T)
    (h : db.Holds tables R) (hr : AreNamed tables) (ht : tables.get? name = some t)
    (hn : column ∉ t.columns.keys) (hp : column ∉ Column.protectedNames)
    (ha : db.addColumn name (Statement.declared column type.storage) = .ok db')
    (ht' : ∀ key, t'.kind? key = if key = column then some (column, type) else t.kind? key) :
    db'.Holds (tables.put name t') R := by
  simp only [Database.addColumn, bind_eq_ok_iff] at ha
  obtain ⟨-, -, s, hs, s', hs', ha⟩ := ha
  obtain rfl := Except.ok.inj ha
  exact h.alter hr ht hs (fun hst => hR.addColumn hst (hr.named ht) hn hp hs' ht')
    (Sheet.name_of_addColumn hs')

theorem Holds.dropColumn {column : String} (hR : Sheet.Lasting R T) (h : db.Holds tables R)
    (hr : AreNamed tables) (ht : tables.get? name = some t) (hn : Name.normalize column = column)
    (hd : db.dropColumn name column = .ok db')
    (ht' : ∀ key, t'.kind? key = if key = column then none else t.kind? key) :
    db'.Holds (tables.put name t') R := by
  simp only [Database.dropColumn, bind_eq_ok_iff] at hd
  obtain ⟨-, -, s, hs, s', hs', hd⟩ := hd
  obtain rfl := Except.ok.inj hd
  exact h.alter hr ht hs (fun hst => hR.dropColumn hst (hr.named ht) hn hs' ht')
    (Sheet.name_of_dropColumn hs')

theorem Holds.renameColumn {type : ColumnType} (hR : Sheet.Lasting R T) (h : db.Holds tables R)
    (hr : AreNamed tables) (ht : tables.get? name = some t) (ho : t.kind? old = some (old, type))
    (hp : old ∉ Column.protectedNames) (hn : new ∉ t.columns.keys)
    (hp' : new ∉ Column.protectedNames) (hd : db.renameColumn name old new = .ok db')
    (ht' : ∀ key, t'.kind? key = if key = new then some (new, type) else if key = old then none
      else t.kind? key) :
    db'.Holds (tables.put name t') R := by
  simp only [Database.renameColumn, bind_eq_ok_iff] at hd
  obtain ⟨-, -, s, hs, s', hs', hd⟩ := hd
  obtain rfl := Except.ok.inj hd
  exact h.alter hr ht hs (fun hst => hR.renameColumn hst (hr.named ht) ho hp hn hp' hs' ht')
    (Sheet.name_of_renameColumn hs')

/-- A statement that changes the rows of one stored table. -/
theorem Holds.changeRows (h : db.Holds tables R) (hr : AreNamed tables)
    (ht : tables.get? name = some t) (hf : db.find name = .ok s) (hs : R s t → R s' t)
    (hname : s'.name = s.name) : (db.replace name s').Holds tables R := by
  obtain ⟨hmem, hsn⟩ := h.of_find_eq_ok hr (hr.normal ht).normalize_eq hf
  obtain ⟨u, hu, hsu⟩ := h.sheets s hmem
  obtain rfl : t = u := by simpa [hsn, ht] using hu
  exact h.replace_same hr ht (hname.trans hsn) (hs hsu)

section Rows

variable {values : Fields Value} {id : Int} {n : Nat}

theorem insert_eq_ok (h : db.insert name values = .ok (id, db')) : ∃ s cells s',
    db.find name = .ok s ∧ (∀ key ∈ values.keys, s.hasColumn key = true) ∧
      Cell.ofValues (values.map (·.2)) = .ok cells ∧
      s.insert (values.keys.zip cells) = .ok (id, s') ∧ db' = db.replace name s' := by
  simp only [Database.insert, bind_eq_ok_iff, check_eq_ok_iff] at h
  obtain ⟨-, -, -, s, hs, h⟩ := h
  split at h
  · simp at h
  · next hnone =>
    simp only [bind_eq_ok_iff] at h
    obtain ⟨cells, hcells, ⟨key, s'⟩, hs', h⟩ := h
    obtain ⟨rfl, rfl⟩ := Prod.ext_iff.mp (Except.ok.inj h)
    exact ⟨s, cells, s', hs, by simpa [Fields.keys] using hnone, hcells, hs', rfl⟩

theorem update_eq_ok (h : db.update name id values = .ok (n, db')) : ∃ s cells key position s',
    db.find name = .ok s ∧ (∀ key ∈ values.keys, s.hasColumn key = true) ∧
      Cell.ofValues (values.map (·.2)) = .ok cells ∧
      Cell.ofValue position (.int id) = .ok key ∧
      s.update key (values.keys.zip cells) = .ok (n, s') ∧ db' = db.replace name s' := by
  simp only [Database.update, bind_eq_ok_iff, check_eq_ok_iff] at h
  obtain ⟨-, -, -, s, hs, h⟩ := h
  split at h
  · simp at h
  · next hnone =>
    simp only [bind_eq_ok_iff] at h
    obtain ⟨cells, hcells, key, hkey, ⟨m, s'⟩, hs', h⟩ := h
    obtain ⟨rfl, rfl⟩ := Prod.ext_iff.mp (Except.ok.inj h)
    exact ⟨s, cells, key, _, s', hs, by simpa [Fields.keys] using hnone, hcells, hkey, hs', rfl⟩

theorem delete_eq_ok (h : db.delete name id = .ok (n, db')) : ∃ s key,
    db.find name = .ok s ∧ Cell.ofValue 1 (.int id) = .ok key ∧ n = (s.delete key).1 ∧
      db' = db.replace name (s.delete key).2 := by
  simp only [Database.delete, bind_eq_ok_iff] at h
  obtain ⟨-, -, s, hs, key, hkey, h⟩ := h
  obtain ⟨rfl, rfl⟩ := Prod.ext_iff.mp (Except.ok.inj h)
  exact ⟨s, key, hs, hkey, rfl, rfl⟩

theorem Holds.insert (hR : Sheet.Lasting R T) (h : db.Holds tables R) (hr : AreNamed tables)
    (ht : tables.get? name = some t) (hw : t.WellFormed) (hv : t.Writes T values)
    (htitle : "title" ∈ values.keys) (hmodified : "date_modified" ∈ values.keys)
    (hi : db.insert name values = .ok (id, db')) : db'.Holds tables R := by
  obtain ⟨s, cells, s', hs, -, hcells, hs', rfl⟩ := insert_eq_ok hi
  exact h.changeRows hr ht hs (fun hst => hR.insert hst hw hv htitle hmodified hcells hs')
    (Sheet.name_of_insert hs')

theorem Holds.update (hR : Sheet.Lasting R T) (h : db.Holds tables R) (hr : AreNamed tables)
    (ht : tables.get? name = some t) (hw : t.WellFormed) (hv : t.Writes T values)
    (hu : db.update name id values = .ok (n, db')) : db'.Holds tables R := by
  obtain ⟨s, cells, key, -, s', hs, -, hcells, -, hs', rfl⟩ := update_eq_ok hu
  exact h.changeRows hr ht hs (fun hst => hR.update hst hw hv hcells hs') (Sheet.name_of_update hs')

theorem Holds.delete (hR : Sheet.Lasting R T) (h : db.Holds tables R) (hr : AreNamed tables)
    (ht : tables.get? name = some t) (hd : db.delete name id = .ok (n, db')) :
    db'.Holds tables R := by
  obtain ⟨s, key, hs, -, -, rfl⟩ := delete_eq_ok hd
  exact h.changeRows hr ht hs (hR.delete key) rfl

end Rows

end Database

end Cabinet.Storage

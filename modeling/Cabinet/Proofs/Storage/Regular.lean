import Cabinet.Proofs.Storage.Sheet

/-!
Stored tables as the library makes them, whatever a record says of them: which columns they have, and
that rows come in the order of their ids, none of which is above the counter.
-/

namespace Cabinet.Storage

/-- A stored table with the columns of a new one, and others that hold nothing where nothing is given.
Its rows hold no NaN, and they come in the order of their ids, which they hold, and which have been
counted. -/
structure Sheet.Regular (s : Sheet) : Prop where
  nodup : s.columnNames.Nodup
  normal : ∀ c ∈ s.columns, Name.IsNormal c.name
  first : ∀ c ∈ (freshSheet "").columns, c ∈ s.columns
  others : ∀ c ∈ s.columns, c.name ∉ Column.protectedNames → c.isKey = false ∧ c.default = .null
  rows : ∀ row ∈ s.rows, row.cells.length = s.columns.length
  ids : ∀ row ∈ s.rows, ∀ e ∈ s.columns.zip row.cells, e.1.isKey = true → e.2 = .integer row.id
  numbers : ∀ row ∈ s.rows, ∀ cell ∈ row.cells, cell ≠ .real .nan
  ascending : s.rows.Pairwise (·.id < ·.id)
  counted : s.isCounted = true
  counter : 0 ≤ s.counter
  below : ∀ row ∈ s.rows, row.id ≤ s.counter

/-- A stored table with names that statements may hold; its own is none of the storage itself. -/
structure Sheet.Admitted (s : Sheet) : Prop where
  named : admitTexts [s.name] = .ok ()
  free : isReserved s.name = false
  clean : ∀ c ∈ s.columns, admitTexts [c.name] = .ok ()

/-- Stored tables as the library makes them, whose names storage tells apart. -/
structure Database.Regular (db : Database) : Prop where
  sheets : ∀ s ∈ db.sheets, s.Regular
  admitted : ∀ s ∈ db.sheets, s.Admitted
  apart : (db.sheets.map fun s => Text.foldAscii s.name.toList).Nodup

theorem sameName_iff {a b : String} :
    sameName a b = true ↔ Text.foldAscii a.toList = Text.foldAscii b.toList := by
  simp [sameName]

namespace Sheet

variable {s s' : Sheet} {c d : SheetColumn} {name old new : String} {type : StorageType} {row : Row}

section Columns

variable (h : s.Regular)

include h

theorem Regular.eq_of_name (hc : c ∈ s.columns) (hd : d ∈ s.columns) (hname : c.name = d.name) :
    c = d :=
  List.inj_on_of_nodup_map h.nodup hc hd hname

theorem Regular.eq_of_id {other : Row} (hrow : row ∈ s.rows) (hother : other ∈ s.rows)
    (hid : row.id = other.id) : row = other := by
  have hnodup : (s.rows.map (·.id)).Nodup :=
    List.pairwise_map.mpr (h.ascending.imp fun hlt => Int.ne_of_lt hlt)
  exact List.inj_on_of_nodup_map hnodup hrow hother hid

/-- A column is one of a new table, or it goes by another name. -/
theorem Regular.column_cases (hc : c ∈ s.columns) : c ∈ (freshSheet "").columns ∨
    c.name ∉ Column.protectedNames ∧ c.isKey = false ∧ c.default = .null := by
  by_cases hp : c.name ∈ Column.protectedNames
  · have hfresh : (freshSheet "").columns.map (·.name) = Column.protectedNames := by decide
    obtain ⟨d, hd, hname⟩ := List.mem_map.mp (hfresh ▸ hp)
    exact .inl (h.eq_of_name (h.first d hd) hc hname ▸ hd)
  · exact .inr ⟨hp, h.others c hc hp⟩

theorem Regular.isKey_iff (hc : c ∈ s.columns) : c.isKey = true ↔ c.name = "id" := by
  have hfresh : ∀ c ∈ (freshSheet "").columns, c.isKey = true ↔ c.name = "id" := by decide
  rcases h.column_cases hc with hmem | ⟨hp, hkey, -⟩
  · exact hfresh c hmem
  · rw [hkey]
    exact iff_of_false Bool.false_ne_true fun hname => hp (hname ▸ by decide)

/-- Where nothing is given, a column holds nothing, but for the one that tells of hidden rows. -/
theorem Regular.default_eq (hc : c ∈ s.columns) (hname : c.name ≠ "hidden") : c.default = .null := by
  have hfresh : ∀ c ∈ (freshSheet "").columns, c.name ≠ "hidden" → c.default = .null := by decide
  rcases h.column_cases hc with hmem | ⟨-, -, hdefault⟩
  · exact hfresh c hmem hname
  · exact hdefault

/-- Storage tells the columns of a stored table apart. -/
theorem Regular.sameName_iff (hn : Name.normalize name = name) (hc : c ∈ s.columns) :
    sameName name c.name = true ↔ c.name = name := by
  rw [Name.sameName_iff hn (h.normal c hc).normalize_eq, eq_comm]

end Columns

theorem freshSheet_regular (name : String) : (freshSheet name).Regular where
  nodup := by
    have hfresh : (freshSheet "").columnNames.Nodup := by decide
    exact hfresh
  normal c hc := by
    have hfresh : ∀ c ∈ (freshSheet "").columns, c.name ∈ Column.protectedNames := by decide
    exact Name.isNormal_of_protected (hfresh c hc)
  first c hc := hc
  others c hc hp := by
    have hfresh : ∀ c ∈ (freshSheet "").columns, c.name ∈ Column.protectedNames := by decide
    exact absurd (hfresh c hc) hp
  rows _ hrow := nomatch hrow
  ids _ hrow := nomatch hrow
  numbers _ hrow := nomatch hrow
  ascending := .nil
  counted := rfl
  counter := Int.le_refl 0
  below _ hrow := nomatch hrow

theorem Regular.named (h : s.Regular) (name : String) : { s with name }.Regular :=
  { h with }

/-- A new column has a name of its own, and holds nothing. -/
theorem Regular.addColumn (h : s.Regular) (hn : Name.IsNormal name)
    (ha : s.addColumn (Statement.declared name type) = .ok s') : s'.Regular := by
  obtain ⟨hnew, rfl⟩ := addColumn_eq_ok ha
  have hapart : ∀ c ∈ s.columns, c.name ≠ name := by
    intro c hc hname
    have hthere := hasColumn_iff.mpr ⟨c, hc, (h.sameName_iff hn.normalize_eq hc).mpr hname⟩
    exact Bool.eq_false_iff.mp hnew hthere
  refine ⟨?_, fun c hc => ?_, fun c hc => ?_, fun c hc hp => ?_, ?_, ?_, ?_, ?_, h.counted, h.counter,
    ?_⟩
  · rw [columnNames, List.map_append, List.map_singleton]
    refine List.nodup_append.mpr ⟨h.nodup, by simp, ?_⟩
    rintro a ha b hb rfl
    obtain ⟨c, hc, rfl⟩ := List.mem_map.mp ha
    exact hapart c hc (List.mem_singleton.mp hb)
  · rcases List.mem_append.mp hc with hc | hc
    · exact h.normal c hc
    · exact List.mem_singleton.mp hc ▸ hn
  · exact List.mem_append_left _ (h.first c hc)
  · rcases List.mem_append.mp hc with hc | hc
    · exact h.others c hc hp
    · exact List.mem_singleton.mp hc ▸ ⟨rfl, rfl⟩
  · simpa using h.rows
  · intro row hrow e he hkey
    obtain ⟨before, hbefore, rfl⟩ := List.mem_map.mp hrow
    rw [List.zip_append (h.rows before hbefore).symm] at he
    rcases List.mem_append.mp he with he | he
    · exact h.ids before hbefore e he hkey
    · obtain rfl := List.mem_singleton.mp he
      exact absurd hkey Bool.false_ne_true
  · intro row hrow cell hcell
    obtain ⟨before, hbefore, rfl⟩ := List.mem_map.mp hrow
    rcases List.mem_append.mp hcell with hcell | hcell
    · exact h.numbers before hbefore cell hcell
    · obtain rfl := List.mem_singleton.mp hcell
      intro heq
      cases heq
  · exact List.pairwise_map.mpr h.ascending
  · simpa using h.below

/-- A column that is not protected goes with what is held in it. -/
theorem Regular.dropColumn (h : s.Regular) (hn : Name.normalize name = name)
    (hp : name ∉ Column.protectedNames) (hd : s.dropColumn name = .ok s') : s'.Regular := by
  obtain rfl := dropColumn_of_apart (fun _ => h.sameName_iff hn) hd
  have hfresh : (freshSheet "").columns.map (·.name) = Column.protectedNames := by decide
  have hkept : ∀ d ∈ s.columns.filter (fun d => d.name != name), d ∈ s.columns :=
    fun d hd => List.mem_of_mem_filter hd
  refine ⟨(List.filter_sublist.map SheetColumn.name).nodup h.nodup, fun d hd => h.normal d (hkept d hd),
    fun d hd => ?_, fun d hd => h.others d (hkept d hd), ?_, ?_, ?_, ?_, h.counted, h.counter, ?_⟩
  · refine List.mem_filter.mpr ⟨h.first d hd, bne_iff_ne.mpr fun hname => hp ?_⟩
    exact hname ▸ hfresh ▸ List.mem_map_of_mem hd
  · intro row hrow
    obtain ⟨before, hbefore, rfl⟩ := List.mem_map.mp hrow
    exact length_kept (fun d => d.name != name) (h.rows before hbefore)
  · intro row hrow e he hkey
    obtain ⟨before, hbefore, rfl⟩ := List.mem_map.mp hrow
    have hzip := zip_kept (fun d => d.name != name) (h.rows before hbefore)
    exact h.ids before hbefore e (List.mem_filter.mp (hzip ▸ he)).1 hkey
  · intro row hrow cell hcell
    obtain ⟨before, hbefore, rfl⟩ := List.mem_map.mp hrow
    obtain ⟨e, he, rfl⟩ := List.mem_map.mp hcell
    exact h.numbers before hbefore e.2 (List.of_mem_zip (List.mem_filter.mp he).1).2
  · exact List.pairwise_map.mpr h.ascending
  · simpa using h.below

/-- What is held in a column that is not protected goes with it to its new name. -/
theorem Regular.renameColumn (h : s.Regular) (ho : Name.normalize old = old)
    (hp : old ∉ Column.protectedNames) (hn : Name.IsNormal new) (hr : s.renameColumn old new = .ok s') :
    s'.Regular := by
  have hfresh : (freshSheet "").columns.map (·.name) = Column.protectedNames := by decide
  obtain ⟨-, hnodup, rfl⟩ := renameColumn_of_apart (fun _ => h.sameName_iff ho) hr
  -- A column of a new table has kept its name, so that the new name is none of theirs.
  have hkept : ∀ c ∈ (freshSheet "").columns, c.renamed old new = c := by
    intro c hc
    exact SheetColumn.renamed_of_ne fun hname => hp (hname ▸ hfresh ▸ List.mem_map_of_mem hc)
  refine ⟨hnodup, fun d hd => ?_, fun c hc => ?_, fun d hd hname => ?_, by simpa using h.rows, ?_,
    h.numbers, h.ascending, h.counted, h.counter, h.below⟩
  · obtain ⟨c, hc, rfl⟩ := List.mem_map.mp hd
    rw [SheetColumn.name_renamed]
    split
    · exact hn
    · exact h.normal c hc
  · exact hkept c hc ▸ List.mem_map_of_mem (h.first c hc)
  · obtain ⟨c, hc, rfl⟩ := List.mem_map.mp hd
    rw [SheetColumn.isKey_renamed, SheetColumn.default_renamed]
    by_cases hco : c.name = old
    · exact h.others c hc (hco ▸ hp)
    · exact h.others c hc (SheetColumn.renamed_of_ne hco ▸ hname)
  · intro row hrow e he hkey
    rw [List.zip_map_left] at he
    obtain ⟨⟨c, cell⟩, hmem, rfl⟩ := List.mem_map.mp he
    exact h.ids row hrow (c, cell) hmem (SheetColumn.isKey_renamed.symm.trans hkey)

theorem Admitted.congr (h : s.Admitted) (hname : s'.name = s.name) (hcolumns : s'.columns = s.columns) :
    s'.Admitted :=
  ⟨hname ▸ h.named, hname ▸ h.free, fun c hc => h.clean c (hcolumns ▸ hc)⟩

theorem Admitted.addColumn (h : s.Admitted) (hc : admitTexts [c.name] = .ok ())
    (ha : s.addColumn c = .ok s') : s'.Admitted := by
  obtain ⟨-, rfl⟩ := addColumn_eq_ok ha
  refine ⟨h.named, h.free, fun d hd => ?_⟩
  rcases List.mem_append.mp hd with hd | hd
  · exact h.clean d hd
  · exact List.mem_singleton.mp hd ▸ hc

theorem Admitted.dropColumn (h : s.Admitted) (hd : s.dropColumn name = .ok s') : s'.Admitted := by
  obtain ⟨c, -, -, rfl⟩ := dropColumn_eq_ok hd
  exact ⟨h.named, h.free, fun d hd => h.clean d (List.mem_of_mem_filter hd)⟩

theorem Admitted.renameColumn (h : s.Admitted) (hn : admitTexts [new] = .ok ())
    (hr : s.renameColumn old new = .ok s') : s'.Admitted := by
  obtain ⟨-, -, rfl⟩ := renameColumn_eq_ok hr
  refine ⟨h.named, h.free, fun d hd => ?_⟩
  obtain ⟨c, hc, rfl⟩ := List.mem_map.mp hd
  split
  · exact hn
  · exact h.clean c hc

end Sheet

namespace Database

variable {db db' : Database} {s s' : Sheet} {name old new column : String} {type : StorageType}

theorem regular_nil : Regular {} :=
  ⟨by simp, by simp, List.nodup_nil⟩

theorem of_find?_eq_some (hf : db.find? name = some s) :
    s ∈ db.sheets ∧ Text.foldAscii name.toList = Text.foldAscii s.name.toList :=
  ⟨List.mem_of_find?_eq_some hf, sameName_iff.mp (by simpa using List.find?_some hf)⟩

theorem find_eq_ok : db.find name = .ok s ↔ db.find? name = some s := by
  unfold Database.find
  split <;> simp_all

theorem findAlterable_eq_ok (h : db.findAlterable name = .ok s) : db.find? name = some s := by
  unfold findAlterable at h
  split at h
  · simp at h
  · exact find_eq_ok.mp h

theorem find?_eq_some_iff (h : (db.sheets.map fun s => Text.foldAscii s.name.toList).Nodup) :
    db.find? name = some s ↔
      s ∈ db.sheets ∧ Text.foldAscii name.toList = Text.foldAscii s.name.toList := by
  refine ⟨of_find?_eq_some, fun ⟨hs, hname⟩ => ?_⟩
  cases hf : db.find? name with
  | none => exact absurd (sameName_iff.mpr hname) (List.find?_eq_none.mp hf s hs)
  | some found =>
    obtain ⟨hmem, hsame⟩ := of_find?_eq_some hf
    exact congrArg some (List.inj_on_of_nodup_map h hmem hs (hsame.symm.trans hname))

section Found

variable (h : db.Regular)

include h

theorem Regular.eq_of_name (hs : s ∈ db.sheets) (hs' : s' ∈ db.sheets)
    (hname : Text.foldAscii s.name.toList = Text.foldAscii s'.name.toList) : s = s' :=
  List.inj_on_of_nodup_map h.apart hs hs' hname

theorem Regular.find?_eq_some_iff : db.find? name = some s ↔
    s ∈ db.sheets ∧ Text.foldAscii name.toList = Text.foldAscii s.name.toList :=
  Database.find?_eq_some_iff h.apart

theorem Regular.of_find? (hf : db.find? name = some s) : s.Regular :=
  h.sheets s (of_find?_eq_some hf).1

theorem Regular.admitted_of_find? (hf : db.find? name = some s) : s.Admitted :=
  h.admitted s (of_find?_eq_some hf).1

/-- It is one stored table whose place another one takes. -/
theorem Regular.sheets_replace (hf : db.find? old = some s) :
    (db.replace old s').sheets = db.sheets.map fun t => if t = s then s' else t := by
  obtain ⟨hs, hold⟩ := of_find?_eq_some hf
  refine List.map_congr_left fun t ht => if_congr ?_ rfl rfl
  rw [sameName_iff]
  exact ⟨fun hsame => h.eq_of_name ht hs (hsame.symm.trans hold), fun heq => heq ▸ hold⟩

/-- Names stay apart where a stored table takes the place of one, by the same name or by one that no
other has. -/
theorem Regular.apart_replace (hf : db.find? old = some s)
    (hname : s'.name = s.name ∨ db.find? s'.name = none) :
    ((db.replace old s').sheets.map fun s => Text.foldAscii s.name.toList).Nodup := by
  obtain ⟨hs, hold⟩ := of_find?_eq_some hf
  have hfree : ∀ t ∈ db.sheets, t ≠ s →
      Text.foldAscii t.name.toList ≠ Text.foldAscii s'.name.toList := by
    intro t ht hne heq
    rcases hname with hsame | hnone
    · exact hne (h.eq_of_name ht hs (hsame ▸ heq))
    · exact List.find?_eq_none.mp hnone t ht (sameName_iff.mpr heq.symm)
  rw [h.sheets_replace hf, List.map_map]
  refine (List.Nodup.of_map _ h.apart).map_on fun a ha b hb hab => ?_
  have := fun heq => h.eq_of_name ha hb heq
  have := hfree a ha
  have := hfree b hb
  grind

/-- A stored table takes the place of one, by the same name or by one that no other has. -/
theorem Regular.replace (hf : db.find? old = some s) (hs' : s'.Regular) (ha : s'.Admitted)
    (hname : s'.name = s.name ∨ db.find? s'.name = none) : (db.replace old s').Regular := by
  have hsheets : (db.replace old s').sheets = _ := h.sheets_replace hf
  refine ⟨fun t ht => ?_, fun t ht => ?_, h.apart_replace hf hname⟩
  · obtain ⟨before, hbefore, rfl⟩ := List.mem_map.mp (hsheets ▸ ht)
    split
    · exact hs'
    · exact h.sheets before hbefore
  · obtain ⟨before, hbefore, rfl⟩ := List.mem_map.mp (hsheets ▸ ht)
    split
    · exact ha
    · exact h.admitted before hbefore

/-- The stored table that took the place of another is found by its name. -/
theorem Regular.find?_replace (hf : db.find? old = some s)
    (hname : s'.name = s.name ∨ db.find? s'.name = none)
    (hnew : Text.foldAscii new.toList = Text.foldAscii s'.name.toList) :
    (db.replace old s').find? new = some s' := by
  obtain ⟨hs, -⟩ := of_find?_eq_some hf
  refine (Database.find?_eq_some_iff (h.apart_replace hf hname)).mpr ⟨?_, hnew⟩
  exact h.sheets_replace hf ▸ List.mem_map.mpr ⟨s, hs, if_pos rfl⟩

theorem Regular.createTable (hc : db.createTable (freshSheet name) = .ok db') : db'.Regular := by
  simp only [Database.createTable, bind_eq_ok_iff, check_eq_ok_iff] at hc
  obtain ⟨_, hclean, hfree, hnone, -, -, -, hc⟩ := hc
  obtain rfl := Except.ok.inj hc
  rw [Bool.not_eq_true, Option.isSome_eq_false_iff, Option.isNone_iff_eq_none] at hnone
  rw [Bool.not_eq_true] at hfree
  refine ⟨fun s hs => ?_, fun s hs => ?_, ?_⟩
  · rcases List.mem_append.mp hs with hs | hs
    · exact h.sheets s hs
    · exact List.mem_singleton.mp hs ▸ Sheet.freshSheet_regular name
  · rcases List.mem_append.mp hs with hs | hs
    · exact h.admitted s hs
    · have hnamed := admitTexts_eq_ok.mp hclean
      refine List.mem_singleton.mp hs ▸ ⟨hnamed _ List.mem_cons_self, hfree, fun c hc => ?_⟩
      exact hnamed _ (List.mem_cons_of_mem _ (List.mem_map_of_mem hc))
  · rw [List.map_append, List.map_singleton]
    refine List.nodup_append.mpr ⟨h.apart, by simp, ?_⟩
    rintro a ha b hb rfl
    obtain ⟨s, hs, rfl⟩ := List.mem_map.mp ha
    exact List.find?_eq_none.mp hnone s hs (sameName_iff.mpr (List.mem_singleton.mp hb).symm)

theorem Regular.dropTable (hd : db.dropTable name = .ok db') : db'.Regular := by
  simp only [Database.dropTable, bind_eq_ok_iff, check_eq_ok_iff] at hd
  obtain ⟨-, -, -, -, -, hd⟩ := hd
  obtain rfl := Except.ok.inj hd
  exact ⟨fun s hs => h.sheets s (List.mem_of_mem_filter hs),
    fun s hs => h.admitted s (List.mem_of_mem_filter hs), (List.filter_sublist.map _).nodup h.apart⟩

omit h in
theorem renameTable_eq_ok (hd : db.renameTable old new = .ok db') : ∃ s,
    db.find? old = some s ∧ db.find? new = none ∧ admitTexts [new] = .ok () ∧
      isReserved new = false ∧ db' = db.replace old { s with name := new } := by
  simp only [Database.renameTable, bind_eq_ok_iff, check_eq_ok_iff] at hd
  obtain ⟨_, hclean, s, hs, hfree, hreserved, hd⟩ := hd
  rw [Bool.or_eq_true, not_or, Bool.not_eq_true, Option.isSome_eq_false_iff,
    Option.isNone_iff_eq_none] at hfree
  exact ⟨s, findAlterable_eq_ok hs, hfree.1, admitTexts_eq_ok.mp hclean _ (by simp),
    Bool.not_eq_true _ ▸ hreserved, (Except.ok.inj hd).symm⟩

theorem Regular.renameTable (hd : db.renameTable old new = .ok db') : db'.Regular := by
  obtain ⟨s, hs, hfree, hclean, hreserved, rfl⟩ := renameTable_eq_ok hd
  exact h.replace hs ((h.of_find? hs).named new)
    ⟨hclean, hreserved, (h.admitted_of_find? hs).clean⟩ (.inr hfree)

omit h in
theorem addColumn_eq_ok {c : SheetColumn} (ha : db.addColumn name c = .ok db') : ∃ s s',
    db.find? name = some s ∧ admitTexts [c.name] = .ok () ∧ s.addColumn c = .ok s' ∧
      db' = db.replace name s' := by
  simp only [Database.addColumn, bind_eq_ok_iff] at ha
  obtain ⟨_, hclean, s, hs, s', hs', ha⟩ := ha
  exact ⟨s, s', findAlterable_eq_ok hs, admitTexts_eq_ok.mp hclean _ (by simp), hs',
    (Except.ok.inj ha).symm⟩

theorem Regular.addColumn (hn : Name.IsNormal column)
    (ha : db.addColumn name (Statement.declared column type) = .ok db') : db'.Regular := by
  obtain ⟨s, s', hs, hclean, hs', rfl⟩ := addColumn_eq_ok ha
  exact h.replace hs ((h.of_find? hs).addColumn hn hs')
    ((h.admitted_of_find? hs).addColumn hclean hs') (.inl (Sheet.name_of_addColumn hs'))

omit h in
theorem dropColumn_eq_ok (hd : db.dropColumn name column = .ok db') : ∃ s s',
    db.find? name = some s ∧ s.dropColumn column = .ok s' ∧ db' = db.replace name s' := by
  simp only [Database.dropColumn, bind_eq_ok_iff] at hd
  obtain ⟨-, -, s, hs, s', hs', hd⟩ := hd
  exact ⟨s, s', findAlterable_eq_ok hs, hs', (Except.ok.inj hd).symm⟩

theorem Regular.dropColumn (hn : Name.normalize column = column) (hp : column ∉ Column.protectedNames)
    (hd : db.dropColumn name column = .ok db') : db'.Regular := by
  obtain ⟨s, s', hs, hs', rfl⟩ := dropColumn_eq_ok hd
  exact h.replace hs ((h.of_find? hs).dropColumn hn hp hs') ((h.admitted_of_find? hs).dropColumn hs')
    (.inl (Sheet.name_of_dropColumn hs'))

omit h in
theorem renameColumn_eq_ok (hr : db.renameColumn name old new = .ok db') : ∃ s s',
    db.find? name = some s ∧ admitTexts [new] = .ok () ∧ s.renameColumn old new = .ok s' ∧
      db' = db.replace name s' := by
  simp only [Database.renameColumn, bind_eq_ok_iff] at hr
  obtain ⟨_, hclean, s, hs, s', hs', hr⟩ := hr
  exact ⟨s, s', findAlterable_eq_ok hs, admitTexts_eq_ok.mp hclean _ (by simp), hs',
    (Except.ok.inj hr).symm⟩

theorem Regular.renameColumn (ho : Name.normalize old = old) (hp : old ∉ Column.protectedNames)
    (hn : Name.IsNormal new) (hr : db.renameColumn name old new = .ok db') : db'.Regular := by
  obtain ⟨s, s', hs, hclean, hs', rfl⟩ := renameColumn_eq_ok hr
  exact h.replace hs ((h.of_find? hs).renameColumn ho hp hn hs')
    ((h.admitted_of_find? hs).renameColumn hclean hs') (.inl (Sheet.name_of_renameColumn hs'))

end Found

end Database

end Cabinet.Storage

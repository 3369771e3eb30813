import Cabinet.Proofs.Schema.Change

/-!
Stored tables that hold what the tables of a record say: the same columns, each declared as its type
calls for, and in each row a cell for each column.
-/

namespace Cabinet

open Storage

/-- The stored form of a column. The protected columns have forms of their own. -/
def Column.stored (c : Column) : SheetColumn :=
  ((freshSheet "").columns.find? (·.name == c.name)).getD (Statement.declared c.name c.type.storage)

/-- The stored form of the column with a name. -/
def Table.stored? (t : Table) (name : String) : Option SheetColumn :=
  (t.columns.get? name).map Column.stored

/-- The name and the type of the column with a name. -/
def Table.kind? (t : Table) (name : String) : Option (String × ColumnType) :=
  (t.columns.get? name).map fun c => (c.name, c.type)

namespace Column

variable {c d : Column}

theorem stored_of_not_protected (h : c.name ∉ protectedNames) :
    c.stored = Statement.declared c.name c.type.storage := by
  have hfresh : (freshSheet "").columns.map (·.name) = protectedNames := by decide
  rw [stored, List.find?_eq_none.mpr, Option.getD_none]
  intro s hs hname
  exact h (hfresh ▸ List.mem_map.mpr ⟨s, hs, by simpa using hname⟩)

@[simp] theorem name_stored (c : Column) : c.stored.name = c.name := by
  unfold stored
  cases hf : (freshSheet "").columns.find? (·.name == c.name) with
  | none => rfl
  | some s => simpa using List.find?_some hf

theorem stored_congr (hn : d.name = c.name) (ht : d.type = c.type) : d.stored = c.stored := by
  rw [stored, stored, hn, ht]

end Column

namespace Table

variable {t t' : Table} {name old new : String} {type : ColumnType}

theorem kind?_eq_some : t.kind? name = some (old, type) ↔
    ∃ c, t.columns.get? name = some c ∧ c.name = old ∧ c.type = type := by
  simp only [kind?, Option.map_eq_some_iff, Prod.mk.injEq]

/-- The stored form of a column comes from its name and its type. -/
theorem stored?_eq (t : Table) (name : String) : t.stored? name =
    (t.kind? name).map fun k => Column.stored { name := k.1, type := k.2, index := 0 } := by
  rw [stored?, kind?, Option.map_map]
  exact congrArg (Option.map · _) (funext fun c => Column.stored_congr rfl rfl)

theorem stored?_congr (h : t'.kind? = t.kind?) (name : String) : t'.stored? name = t.stored? name := by
  rw [stored?_eq, stored?_eq, h]

end Table

/-- Each column of a table is declared as its type calls for. -/
theorem Table.WellFormed.affinity_stored {t : Table} (h : t.WellFormed) {name : String} {c : Column}
    (hc : t.columns.get? name = some c) : c.stored.affinity = .ofStorage c.type.storage := by
  have hprotected : ∀ d ∈ Column.protectedDefinitions,
      d.stored.affinity = .ofStorage d.type.storage := by decide
  obtain ⟨hname, -⟩ := h.named hc
  by_cases hp : c.name ∈ Column.protectedNames
  · obtain ⟨d, hd, hdn, c', hc', htype, -⟩ := h.exists_definition hp
    obtain rfl : c = c' := by
      rw [hname, hc] at hc'
      exact Option.some.inj hc'
    rw [Column.stored_congr hdn.symm htype, htype]
    exact hprotected d hd
  · rw [Column.stored_of_not_protected hp]
    rfl

/-- The columns of a table go by their names. -/
def Table.Named (t : Table) : Prop :=
  ∀ {key c}, t.columns.get? key = some c → c.name = key ∧ Name.IsNormal key

theorem Table.WellFormed.isNamed {t : Table} (h : t.WellFormed) : t.Named :=
  h.named

namespace Storage

theorem admitTexts_eq_ok {texts : List String} {u : Unit} :
    admitTexts texts = .ok u ↔ ∀ s ∈ texts, admitTexts [s] = .ok () := by
  unfold admitTexts
  simp

/-- A column after a renaming: only the one that goes by the old name gets the new one. -/
def SheetColumn.renamed (old new : String) (c : SheetColumn) : SheetColumn :=
  if c.name = old then { c with name := new } else c

namespace SheetColumn

variable {c : SheetColumn} {old new : String}

@[simp] theorem name_renamed : (c.renamed old new).name = if c.name = old then new else c.name := by
  unfold renamed
  split <;> rfl

@[simp] theorem isKey_renamed : (c.renamed old new).isKey = c.isKey := by
  unfold renamed
  split <;> rfl

@[simp] theorem default_renamed : (c.renamed old new).default = c.default := by
  unfold renamed
  split <;> rfl

theorem renamed_of_ne (h : c.name ≠ old) : c.renamed old new = c :=
  if_neg h

end SheetColumn

/-- A stored table has the columns that a table says, and its rows have a cell for each. -/
structure Sheet.Holds (s : Sheet) (t : Table) : Prop where
  nodup : s.columnNames.Nodup
  mem : ∀ {c}, c ∈ s.columns ↔ t.stored? c.name = some c
  rows : ∀ row ∈ s.rows, row.cells.length = s.columns.length

namespace Sheet

variable {s s' : Sheet} {t t' : Table} {name old new : String} {c : SheetColumn}

theorem Holds.congr (h : s.Holds t) (ht : ∀ name, t'.stored? name = t.stored? name) : s.Holds t' where
  nodup := h.nodup
  mem {c} := (ht c.name).symm ▸ h.mem
  rows := h.rows

theorem stored?_name (ht : t.Named) (h : t.stored? name = some c) : c.name = name := by
  obtain ⟨d, hd, rfl⟩ := Option.map_eq_some_iff.mp h
  rw [Column.name_stored, (ht hd).1]

/-- The stored columns have the names of the columns that the table says. -/
theorem Holds.mem_columnNames (h : s.Holds t) (ht : t.Named) :
    name ∈ s.columnNames ↔ name ∈ t.columns.keys := by
  rw [← Fields.get?_isSome_iff, ← Option.isSome_map (f := Column.stored), columnNames, List.mem_map]
  constructor
  · rintro ⟨c, hc, rfl⟩
    exact Option.isSome_iff_exists.mpr ⟨c, h.mem.mp hc⟩
  · intro hsome
    obtain ⟨c, hc⟩ := Option.isSome_iff_exists.mp hsome
    have hname : c.name = name := stored?_name ht hc
    exact ⟨c, h.mem.mpr (hname ▸ hc), hname⟩

theorem Holds.columnNames_perm (h : s.Holds t) (ht : t.WellFormed) :
    s.columnNames.Perm t.columns.keys :=
  (List.perm_ext_iff_of_nodup h.nodup ht.nodup).mpr fun _ => h.mem_columnNames ht.isNamed

theorem Holds.isNormal (h : s.Holds t) (ht : t.Named) (hc : c ∈ s.columns) :
    Name.IsNormal c.name := by
  obtain ⟨d, hd, -⟩ := Option.map_eq_some_iff.mp (h.mem.mp hc)
  exact (ht hd).2

/-- Storage tells the columns of a stored table apart. -/
theorem Holds.sameName_iff (h : s.Holds t) (ht : t.Named) (hn : Name.normalize name = name)
    (hc : c ∈ s.columns) : sameName name c.name = true ↔ c.name = name := by
  rw [Name.sameName_iff hn (h.isNormal ht hc).normalize_eq, eq_comm]

theorem freshSheet_holds (name : String) : (freshSheet name).Holds Table.fresh where
  nodup := by
    have hfresh : (freshSheet "").columnNames.Nodup := by decide
    exact hfresh
  mem {c} := by
    have hfound : ∀ c ∈ (freshSheet "").columns, Table.fresh.stored? c.name = some c := by decide
    have hmem : ∀ e ∈ Table.fresh.columns, e.2.stored ∈ (freshSheet "").columns := by decide
    refine ⟨hfound c, fun h => ?_⟩
    obtain ⟨d, hd, rfl⟩ := Option.map_eq_some_iff.mp h
    exact hmem _ (Fields.mem_of_get? hd)
  rows := by simp [freshSheet]

theorem hasColumn_iff : s.hasColumn name = true ↔ ∃ c ∈ s.columns, sameName name c.name = true := by
  simp [hasColumn]

/-- A column is added under a name that no other goes by, and with its default in all rows. -/
theorem addColumn_eq_ok (h : s.addColumn c = .ok s') : s.hasColumn c.name = false ∧ s' = { s with
    columns := s.columns ++ [c]
    rows := s.rows.map fun row => { row with cells := row.cells ++ [c.default] } } := by
  unfold Sheet.addColumn at h
  split at h
  · simp at h
  · next hno => exact ⟨Bool.eq_false_iff.mpr hno, (Except.ok.inj h).symm⟩

/-- A column that goes by the name is dropped, in all rows. -/
theorem dropColumn_eq_ok (h : s.dropColumn name = .ok s') :
    ∃ c ∈ s.columns, sameName name c.name = true ∧ s' = { s with
      columns := s.columns.filter fun d => d.name != c.name
      rows := s.rows.map fun row => { row with
        cells := ((s.columns.zip row.cells).filter fun (d, _) => d.name != c.name).map (·.2) } } := by
  unfold Sheet.dropColumn at h
  split at h
  · simp at h
  next c hfind =>
  split at h
  · simp at h
  split at h
  · simp at h
  · exact ⟨c, List.mem_of_find?_eq_some hfind, by simpa using List.find?_some hfind,
      (Except.ok.inj h).symm⟩

/-- The columns that go by the old name get the new one, and no name is repeated then. -/
theorem renameColumn_eq_ok (h : s.renameColumn old new = .ok s') : s.hasColumn old = true ∧
    repeated? [] s'.columnNames = none ∧ s' = { s with
      columns := s.columns.map fun c => if sameName old c.name then { c with name := new } else c } := by
  unfold Sheet.renameColumn at h
  split at h
  · simp at h
  next hthere =>
  dsimp only at h
  split at h
  · simp at h
  next hrepeated =>
  obtain rfl := Except.ok.inj h
  exact ⟨by simpa using hthere, hrepeated, rfl⟩

/-- Where no name is repeated, storage tells all of them apart. -/
theorem nodup_of_repeated? {before names : List String} (h : repeated? before names = none) :
    names.Nodup ∧ ∀ name ∈ names, name ∉ before := by
  induction names generalizing before with
  | nil => exact ⟨.nil, fun _ hname => nomatch hname⟩
  | cons name rest ih =>
    rw [repeated?] at h
    split at h
    · simp at h
    next hno =>
    obtain ⟨hrest, hbefore⟩ := ih h
    refine ⟨List.nodup_cons.mpr ⟨fun hmem => hbefore name hmem List.mem_cons_self, hrest⟩, ?_⟩
    refine List.forall_mem_cons.mpr ⟨fun hmem => hno ?_, fun other hother hmem => ?_⟩
    · exact List.any_eq_true.mpr ⟨name, hmem, by simp [sameName]⟩
    · exact hbefore other hother (List.mem_cons_of_mem name hmem)

section Apart

/-!
Where storage tells a name apart from those of the other columns, it is the column of that name that is
dropped or renamed.
-/

theorem dropColumn_of_apart (hsame : ∀ c ∈ s.columns, sameName name c.name = true ↔ c.name = name)
    (h : s.dropColumn name = .ok s') : s' = { s with
      columns := s.columns.filter fun d => d.name != name
      rows := s.rows.map fun row => { row with
        cells := ((s.columns.zip row.cells).filter fun (d, _) => d.name != name).map (·.2) } } := by
  obtain ⟨c, hc, hname, rfl⟩ := dropColumn_eq_ok h
  obtain rfl := (hsame c hc).mp hname
  rfl

theorem renameColumn_of_apart (hsame : ∀ c ∈ s.columns, sameName old c.name = true ↔ c.name = old)
    (h : s.renameColumn old new = .ok s') : old ∈ s.columnNames ∧ s'.columnNames.Nodup ∧
      s' = { s with columns := s.columns.map (.renamed old new) } := by
  obtain ⟨hthere, hrepeated, hs'⟩ := renameColumn_eq_ok h
  obtain ⟨c, hc, hname⟩ := hasColumn_iff.mp hthere
  refine ⟨(hsame c hc).mp hname ▸ List.mem_map_of_mem hc, (nodup_of_repeated? hrepeated).1, ?_⟩
  rw [hs', List.map_congr_left fun c hc => if_congr (hsame c hc) rfl rfl]
  rfl

/-- The names of the columns after a renaming. -/
theorem map_name_renamed (columns : List SheetColumn) (old new : String) :
    (columns.map (SheetColumn.renamed old new)).map (·.name) =
      (columns.map (·.name)).map fun name => if name = old then new else name := by
  rw [List.map_map, List.map_map]
  exact List.map_congr_left fun c _ => c.name_renamed

end Apart

theorem name_of_addColumn (h : s.addColumn c = .ok s') : s'.name = s.name := by
  obtain ⟨-, rfl⟩ := addColumn_eq_ok h
  rfl

theorem name_of_dropColumn (h : s.dropColumn name = .ok s') : s'.name = s.name := by
  obtain ⟨c, -, -, rfl⟩ := dropColumn_eq_ok h
  rfl

theorem name_of_renameColumn (h : s.renameColumn old new = .ok s') : s'.name = s.name := by
  obtain ⟨-, -, rfl⟩ := renameColumn_eq_ok h
  rfl

section Rows

variable {cells : List (String × Cell)} {id : Int} {key : Cell} {n : Nat}

/-- A new row comes to stand among the others by its id, once it has been admitted. -/
theorem insert_eq_ok (h : s.insert cells = .ok (id, s')) : s.newId cells = .ok id ∧
    s.admitRow ⟨id, s.columns.map (newCell id cells)⟩ s.rows = .ok () ∧ s' = { s with
      rows := insertRow ⟨id, s.columns.map (newCell id cells)⟩ s.rows
      counter := max s.counter id } := by
  simp only [Sheet.insert, bind_eq_ok_iff] at h
  obtain ⟨next, hnext, ⟨⟩, hadmitted, h⟩ := h
  obtain ⟨rfl, rfl⟩ := Prod.ext_iff.mp (Except.ok.inj h)
  exact ⟨hnext, hadmitted, rfl⟩

/-- An assignment leaves all of a stored table as it is, but for the rows. -/
theorem update_eq_ok (h : s.update key cells = .ok (n, s')) : s' = { s with rows := s'.rows } := by
  simp only [Sheet.update, bind_eq_ok_iff] at h
  obtain ⟨rows, -, h⟩ := h
  obtain ⟨-, rfl⟩ := Prod.ext_iff.mp (Except.ok.inj h)
  rfl

/-- What holds of the rows holds after an assignment too, if it goes on as each of the rows that are
called is changed and comes to stand among the others by its id. -/
theorem update_invariant {P : List Row → Prop} (h : s.update key cells = .ok (n, s')) (hrows : P s.rows)
    (hstep : ∀ {rows row changed}, row ∈ s.rows → s.changedRow cells row = .ok changed →
      s.admitRow changed (rows.filter (·.id != row.id)) = .ok () → P rows →
      P (insertRow changed (rows.filter (·.id != row.id)))) : P s'.rows := by
  simp only [Sheet.update, bind_eq_ok_iff] at h
  obtain ⟨rows, hfold, h⟩ := h
  obtain ⟨-, rfl⟩ := Prod.ext_iff.mp (Except.ok.inj h)
  refine foldlM_invariant hrows (fun before row hrow after hbefore hone => ?_) hfold
  simp only [bind_eq_ok_iff] at hone
  obtain ⟨changed, hchanged, ⟨⟩, hadmitted, hone⟩ := hone
  obtain rfl := Except.ok.inj hone
  exact hstep (List.mem_of_mem_filter hrow) hchanged hadmitted hbefore

theorem name_of_insert (h : s.insert cells = .ok (id, s')) : s'.name = s.name := by
  obtain ⟨-, -, rfl⟩ := insert_eq_ok h
  rfl

theorem name_of_update (h : s.update key cells = .ok (n, s')) : s'.name = s.name := by
  rw [update_eq_ok h]

theorem columns_of_insert (h : s.insert cells = .ok (id, s')) : s'.columns = s.columns := by
  obtain ⟨-, -, rfl⟩ := insert_eq_ok h
  rfl

theorem columns_of_update (h : s.update key cells = .ok (n, s')) : s'.columns = s.columns := by
  rw [update_eq_ok h]

end Rows

/-- A stored column is added as a table gets a new one. -/
theorem Holds.addColumn (h : s.Holds t) (ht : t.Named) (hn : c.name ∉ t.columns.keys)
    (ha : s.addColumn c = .ok s')
    (ht' : ∀ name, t'.stored? name = if name = c.name then some c else t.stored? name) :
    s'.Holds t' := by
  obtain ⟨-, rfl⟩ := addColumn_eq_ok ha
  have hnew : c.name ∉ s.columnNames := mt (h.mem_columnNames ht).mp hn
  refine ⟨?_, fun {d} => ?_, ?_⟩
  · rw [columnNames, List.map_append, List.map_singleton]
    refine List.nodup_append.mpr ⟨h.nodup, by simp, ?_⟩
    rintro a ha b hb rfl
    exact hnew (List.mem_singleton.mp hb ▸ ha)
  · rw [List.mem_append, List.mem_singleton, h.mem, ht']
    split
    · next heq =>
      have hno : t.stored? c.name = none := by
        rw [Table.stored?, Fields.get?_eq_none_iff.mpr hn, Option.map_none]
      rw [heq, hno]
      simp [eq_comm]
    · next hne =>
      have hdc : d ≠ c := fun heq => hne (heq ▸ rfl)
      simp [hdc]
  · simpa using h.rows

theorem columns_kept {columns : List SheetColumn} {cells : List Cell} (keep : SheetColumn → Bool)
    (h : cells.length = columns.length) :
    ((columns.zip cells).filter fun (c, _) => keep c).map (·.1) = columns.filter keep := by
  have hfst := congrArg (List.filter keep) (@List.map_fst_zip _ _ columns cells (Nat.le_of_eq h.symm))
  rw [List.filter_map] at hfst
  exact hfst

/-- Of the cells of a row, as many are kept as there are columns that are kept. -/
theorem length_kept {columns : List SheetColumn} {cells : List Cell} (keep : SheetColumn → Bool)
    (h : cells.length = columns.length) :
    (((columns.zip cells).filter fun (c, _) => keep c).map (·.2)).length =
      (columns.filter keep).length := by
  rw [← columns_kept keep h, List.length_map, List.length_map]

/-- The cells that are kept stand under the columns they stood under before. -/
theorem zip_kept {columns : List SheetColumn} {cells : List Cell} (keep : SheetColumn → Bool)
    (h : cells.length = columns.length) :
    (columns.filter keep).zip (((columns.zip cells).filter fun (c, _) => keep c).map (·.2)) =
      (columns.zip cells).filter fun (c, _) => keep c :=
  (List.zip_of_prod (columns_kept keep h) rfl).symm

/-- A stored column is dropped as a table loses it. -/
theorem Holds.dropColumn (h : s.Holds t) (ht : t.Named) (hn : Name.normalize name = name)
    (hd : s.dropColumn name = .ok s')
    (ht' : ∀ key, t'.stored? key = if key = name then none else t.stored? key) :
    s'.Holds t' := by
  obtain rfl := dropColumn_of_apart (fun _ => h.sameName_iff ht hn) hd
  refine ⟨?_, fun {d} => ?_, ?_⟩
  · exact (List.filter_sublist.map SheetColumn.name).nodup h.nodup
  · rw [List.mem_filter, h.mem, ht']
    split <;> simp_all
  · intro row hrow
    obtain ⟨row, hold, rfl⟩ := List.mem_map.mp hrow
    exact length_kept (fun d => d.name != name) (h.rows row hold)

/-- A stored column gets a new name as the column of a table does. -/
theorem Holds.renameColumn (h : s.Holds t) (ht : t.Named) (ho : Name.normalize old = old)
    (hn : new ∉ t.columns.keys) (hr : s.renameColumn old new = .ok s')
    (ht' : ∀ key, t'.stored? key = if key = new then (t.stored? old).map ({ · with name := new })
      else if key = old then none else t.stored? key) :
    s'.Holds t' := by
  have hnew : new ∉ s.columnNames := mt (h.mem_columnNames ht).mp hn
  obtain ⟨-, hnodup, rfl⟩ := renameColumn_of_apart (fun _ => h.sameName_iff ht ho) hr
  refine ⟨hnodup, fun {d} => ?_, by simpa using h.rows⟩
  rw [ht', List.mem_map]
  constructor
  · rintro ⟨c, hc, rfl⟩
    have hstored := h.mem.mp hc
    have hcn : c.name ≠ new := fun heq => hnew (heq ▸ List.mem_map_of_mem hc)
    by_cases hco : c.name = old
    · subst hco
      simp [SheetColumn.renamed, hstored]
    · simp [SheetColumn.renamed_of_ne hco, hco, hcn, hstored]
  · -- A column that is there afterwards is the renamed one, or it was there before.
    intro hd
    split at hd
    · next hdn =>
      obtain ⟨c, hc, rfl⟩ := Option.map_eq_some_iff.mp hd
      have hco := stored?_name ht hc
      exact ⟨c, h.mem.mpr (hco.symm ▸ hc), if_pos hco⟩
    · split at hd
      · simp at hd
      · next hdo => exact ⟨d, h.mem.mpr hd, SheetColumn.renamed_of_ne hdo⟩

theorem mem_insertRow {row new : Row} {rows : List Row} (h : row ∈ insertRow new rows) :
    row = new ∨ row ∈ rows := by
  induction rows with
  | nil => exact .inl (List.mem_singleton.mp h)
  | cons r rest ih =>
    rw [insertRow] at h
    split at h <;> grind

/-- A row with an id of its own comes to stand in the order of the ids. -/
theorem pairwise_insertRow {new : Row} {rows : List Row} (h : rows.Pairwise (·.id < ·.id))
    (hfree : ∀ row ∈ rows, row.id ≠ new.id) : (insertRow new rows).Pairwise (·.id < ·.id) := by
  induction rows with
  | nil => exact List.pairwise_singleton _ _
  | cons r rest ih =>
    obtain ⟨hlater, hrest⟩ := List.pairwise_cons.mp h
    obtain ⟨hne, hfree⟩ := List.forall_mem_cons.mp hfree
    rw [insertRow]
    split
    · next hlt =>
      refine List.pairwise_cons.mpr ⟨fun row hrow => ?_, h⟩
      rcases List.mem_cons.mp hrow with rfl | hrow
      · exact hlt
      · exact Int.lt_trans hlt (hlater row hrow)
    · next hle =>
      refine List.pairwise_cons.mpr ⟨fun row hrow => ?_, ih hrest hfree⟩
      rcases mem_insertRow hrow with rfl | hrow
      · omega
      · exact hlater row hrow

/-- A row is refused that has the id of another. -/
theorem free_of_admitRow {new : Row} {others : List Row} {u : Unit}
    (h : s.admitRow new others = .ok u) : ∀ row ∈ others, row.id ≠ new.id := by
  unfold admitRow at h
  split at h
  · simp at h
  · split at h
    · simp at h
    · next hno => simpa using hno

theorem Holds.insert {id : Int} {cells : List (String × Cell)} (h : s.Holds t)
    (hi : s.insert cells = .ok (id, s')) : s'.Holds t := by
  obtain ⟨-, -, rfl⟩ := insert_eq_ok hi
  refine ⟨h.nodup, h.mem, fun row hrow => ?_⟩
  rcases mem_insertRow hrow with rfl | hold
  · exact List.length_map _
  · exact h.rows row hold

theorem length_changedRow {cells : List (String × Cell)} {row changed : Row}
    (hlen : row.cells.length = s.columns.length) (h : s.changedRow cells row = .ok changed) :
    changed.cells.length = s.columns.length := by
  unfold changedRow at h
  split at h
  all_goals
    obtain ⟨key, -, h⟩ := bind_eq_ok_iff.mp h
    obtain rfl := Except.ok.inj h
    simp [hlen]

theorem Holds.update {n : Nat} {id : Cell} {cells : List (String × Cell)} (h : s.Holds t)
    (hu : s.update id cells = .ok (n, s')) : s'.Holds t := by
  have hlengths := update_invariant (P := fun rows => ∀ row ∈ rows, row.cells.length = s.columns.length)
    hu h.rows fun hrow hchanged _ hrows row' hrow' => by
      rcases mem_insertRow hrow' with rfl | hold
      · exact length_changedRow (h.rows _ hrow) hchanged
      · exact hrows row' (List.mem_of_mem_filter hold)
  rw [update_eq_ok hu]
  exact ⟨h.nodup, h.mem, hlengths⟩

/-- Where storage tells a name apart from the others, the first cell that is found under it is the
one that goes by it. -/
theorem exists_cell {columns : List SheetColumn} {cells : List Cell}
    (hlen : cells.length = columns.length)
    (hsame : ∀ c ∈ columns, sameName name c.name = true ↔ c.name = name)
    (hname : name ∈ columns.map (·.name)) :
    ∃ c ∈ columns, c.name = name ∧ ∃ cell,
      ((columns.map (·.name)).zip cells).lookup name = some cell ∧
        (columns.zip cells).find? (fun (c, _) => sameName name c.name) = some (c, cell) := by
  induction columns generalizing cells with
  | nil => simp at hname
  | cons c rest ih =>
    obtain ⟨cell, cells, rfl⟩ := List.exists_cons_of_length_eq_add_one hlen
    have hc := hsame c List.mem_cons_self
    by_cases heq : c.name = name
    · exact ⟨c, List.mem_cons_self, heq, cell, by simp [heq], by simp [hc.mpr heq]⟩
    · have hbeq : (name == c.name) = false := beq_false_of_ne (Ne.symm heq)
      have hrest : name ∈ rest.map (·.name) :=
        (List.mem_cons.mp hname).resolve_left (Ne.symm heq)
      obtain ⟨d, hd, hdn, held, hlookup, hfind⟩ :=
        ih (by simpa using hlen) (fun d hd => hsame d (List.mem_cons_of_mem _ hd)) hrest
      refine ⟨d, List.mem_cons_of_mem _ hd, hdn, held, ?_, ?_⟩
      · rw [List.map_cons, List.zip_cons_cons, List.lookup_cons, hbeq]
        exact hlookup
      · have hne : sameName name c.name = false := Bool.eq_false_iff.mpr (mt hc.mp heq)
        simpa [hne] using hfind

/-- A row holds a cell for each column, and storage finds it by the name of the column. -/
theorem Holds.find?_cell {row : Row} (h : s.Holds t) (ht : t.Named) (hrow : row ∈ s.rows) {d : Column}
    (hd : t.columns.get? name = some d) :
    ∃ cell, (s.fields row).get? name = some cell ∧
      (s.columns.zip row.cells).find? (fun (c, _) => sameName name c.name) = some (d.stored, cell) := by
  have hkey := (h.mem_columnNames ht).mpr (Fields.mem_keys hd)
  obtain ⟨c, hc, rfl, cell, hlookup, hfind⟩ := exists_cell (h.rows row hrow)
    (fun c hc => h.sameName_iff ht (ht hd).2.normalize_eq hc) hkey
  have hstored : c = d.stored := by
    have hmem := h.mem.mp hc
    rw [Table.stored?, hd] at hmem
    exact (Option.some.inj hmem).symm
  exact ⟨cell, hlookup, hstored ▸ hfind⟩

/-- What a row holds is found under the name of the column. -/
theorem Holds.lookup {row : Row} (h : s.Holds t) (ht : t.Named) (hrow : row ∈ s.rows) {d : Column}
    (hd : t.columns.get? name = some d) :
    ∃ cell, (s.fields row).get? name = some cell ∧ s.lookup row name = (d.stored.affinity, cell) := by
  obtain ⟨cell, hcell, hfind⟩ := h.find?_cell ht hrow hd
  exact ⟨cell, hcell, by rw [Sheet.lookup, hfind]⟩

theorem Holds.delete (h : s.Holds t) (id : Cell) : (s.delete id).2.Holds t :=
  ⟨h.nodup, h.mem, fun row hrow => h.rows row (List.mem_filter.mp hrow).1⟩

end Sheet

end Storage

end Cabinet

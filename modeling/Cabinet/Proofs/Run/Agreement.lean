import Cabinet.Proofs.Run.Basic

/-!
As long as no inconsistency has been told of, the stored tables of every database are those of its
record, and nothing is found wrong with them.
-/

namespace Cabinet

open Operation Storage

namespace Schema

/-- Indices from zero on, each once, are so in order as well. -/
theorem areContiguous_mergeSort {indices : List Int}
    (h : indices.Perm ((List.range indices.length).map Int.ofNat)) :
    areContiguous (indices.mergeSort (· ≤ ·)) = true := by
  have hperm := (indices.mergeSort_perm (· ≤ ·)).trans h
  have hsorted := @List.pairwise_mergeSort _ (fun a b : Int => decide (a ≤ b)) (by grind) (by grind) indices
  have hrange : ((List.range indices.length).map Int.ofNat).Pairwise fun a b => decide (a ≤ b) = true :=
    List.pairwise_map.mpr (List.pairwise_le_range.imp fun h => by simpa using h)
  have heq := hperm.eq_of_pairwise (fun a b _ _ hab hba => by grind) hsorted hrange
  rw [areContiguous, List.length_mergeSort, heq]
  simp

/-- Nothing is wrong with a table that is stored with its columns. -/
theorem problems_eq_nil {t : Table} (ht : t.WellFormed) {stored : List String}
    (hs : stored.Perm t.columns.keys) : problems t stored = [] := by
  have hmissing : (Text.sort t.columns.keys).filter (fun c => !stored.contains c) = [] := by
    refine List.filter_eq_nil_iff.mpr fun c hc => ?_
    have hkey := (t.columns.keys.mergeSort_perm _).mem_iff.mp hc
    simp [hs.mem_iff, hkey]
  have hextra : (Text.sort stored).filter (fun c => !t.columns.contains c) = [] := by
    refine List.filter_eq_nil_iff.mpr fun c hc => ?_
    have hkey := hs.mem_iff.mp ((stored.mergeSort_perm _).mem_iff.mp hc)
    simp [Fields.contains_iff, hkey]
  have hindices : (t.columns.map (·.2.index)).Perm
      ((List.range (t.columns.map (·.2.index)).length).map Int.ofNat) := by
    simpa using ht.indices_perm
  rw [problems, hmissing, hextra, areContiguous_mergeSort hindices]
  rfl

end Schema

variable {f : Folders} {w : World} {id name : String} {r : Record} {db : Database} {t : Table}

theorem Storage.Database.Holds.columnNames (h : db.Holds r.tables) (hr : r.Sound)
    (ht : r.tables.get? name = some t) : (db.columnNames name).Perm t.columns.keys := by
  obtain ⟨s, hfind, -, hst⟩ := h.find?_eq_some hr.areNamed ht
  rw [Database.columnNames, hfind]
  exact hst.columnNames_perm (hr.tables ht).toWellFormed

/-- The check of a table of a database that is stored as its record says. -/
theorem Schema.exec_check (hs : f.records.Stores id r w.files)
    (hdb : w.files.get? (Store.place f.data id) = some (.database db)) (h : db.Holds r.tables)
    {given : String} (ht : r.tables.get? (Name.normalize given) = some t) :
    (check f id given).exec w = (.ok [], w) := by
  have htable : (table f id (Name.normalize given)).exec w = (.ok t, w) := by
    simp only [table, exec_bind, hs.read, exec_of, Name.normalize_normalize, Record.table, ht]
  have hmem := h.tables ht
  obtain ⟨s, hsheet, hname⟩ := List.mem_map.mp hmem
  have hclean : admitTexts [Name.normalize given] = .ok () := hname ▸ h.admitted s hsheet
  have hcolumns : (Statement.columnNames (Name.normalize given)).on db =
      .ok (db.columnNames (Name.normalize given)) := by
    rw [Statement.on_eq_ok]
    change (admitTexts [Name.normalize given] >>= fun _ => pure (db.columnNames _)) = _
    rw [hclean, ok_bind, pure_eq_ok]
  have hthere : (Statement.hasTable (Name.normalize given)).on db = .ok true := by
    rw [Statement.on_eq_ok]
    exact congrArg Except.ok (Database.hasTable_of_mem hmem)
  have hproblems := problems_eq_nil (hs.sound.tables ht).toWellFormed (h.columnNames hs.sound ht)
  simp only [check, exec_bind, htable, Store.exec_existing, Files.has_eq, hdb, Option.isSome_some,
    if_true, Store.exec_connect hdb, Store.exec_ask, hthere, hcolumns, hproblems, exec_pure]

/-- In a run that has told of no inconsistency, every database has a record that can be read; the
stored tables are those of the record, with its columns; columns that are not protected are declared
as their types call for; and a check finds nothing wrong with any table. -/
theorem Reachable.stored_tables_agree (h : Reachable f true w) {file : File}
    (hfile : w.files.get? (Store.place f.data id) = some file) :
    ∃ db r, file = .database db ∧ (f.records.read id).exec w = (.ok r, w) ∧
      (db.sheets.map (·.name)).Perm r.tables.keys ∧
      ∀ name t, r.tables.get? name = some t →
        (∃ s ∈ db.sheets, s.name = name ∧ s.columnNames.Perm t.columns.keys ∧
          ∀ key c, t.columns.get? key = some c → key ∉ Column.protectedNames →
            ∃ d ∈ s.columns, d.name = key ∧ d.affinity = .ofStorage c.type.storage) ∧
        ∀ given, Name.normalize given = name → (Schema.check f id given).exec w = (.ok [], w) := by
  obtain ⟨db, rfl⟩ := h.good.sound.database hfile
  obtain ⟨r, hstores, hholds⟩ := (h.good.at (.inl rfl) id rfl).record hfile
  refine ⟨db, r, rfl, hstores.read, hholds.names_perm hstores.sound.nodup, fun name t ht => ⟨?_, ?_⟩⟩
  · obtain ⟨s, hs, rfl⟩ := List.mem_map.mp (hholds.tables ht)
    obtain ⟨u, hu, hsu⟩ := hholds.sheets s hs
    obtain ⟨⟩ := ht.symm.trans hu
    have hwell := (hstores.sound.tables ht).toWellFormed
    refine ⟨s, hs, rfl, hsu.columnNames_perm hwell, fun key c hc hp => ?_⟩
    obtain ⟨hname, -⟩ := hwell.named hc
    refine ⟨c.stored, hsu.mem.mpr ?_, (Column.name_stored c).trans hname, ?_⟩
    · rw [Column.name_stored, hname, Table.stored?_of_get? hc]
    · rw [Column.stored_of_not_protected (hname ▸ hp)]
      rfl
  · rintro given rfl
    exact Schema.exec_check hstores hfile hholds ht

/-- A new database agrees with its record after a column has been added. -/
theorem Reachable.added_column_agrees :
    ∃ (db : Database) (r : Record), (Request.runAll ⟨"data", "backup"⟩ Request.priced (true, {})).2.files.get?
        (Store.place "data" "a_0") = some (.database db) ∧
      (db.sheets.map (·.name)).Perm r.tables.keys ∧
      ∀ name t, r.tables.get? name = some t → ∀ given, Name.normalize given = name →
        ((Schema.check ⟨"data", "backup"⟩ "a_0" given).exec
          (Request.runAll ⟨"data", "backup"⟩ Request.priced (true, {})).2).1 = .ok [] := by
  have hrun : (Request.runAll ⟨"data", "backup"⟩ Request.priced (true, {})).1 = true ∧
      ((Request.runAll ⟨"data", "backup"⟩ Request.priced (true, {})).2.files.get?
        (Store.place "data" "a_0")).isSome = true := by
    decide +kernel
  have hreach := (Reachable.start (f := ⟨"data", "backup"⟩) 0 {} []).runAll Request.priced
  rw [hrun.1] at hreach
  obtain ⟨file, hfile⟩ := Option.isSome_iff_exists.mp hrun.2
  obtain ⟨db, r, rfl, -, hnames, htables⟩ := hreach.stored_tables_agree hfile
  exact ⟨db, r, hfile, hnames, fun name t ht given hg =>
    congrArg Prod.fst ((htables name t ht).2 given hg)⟩

end Cabinet

import Cabinet.Proofs.Run.Frame
import Cabinet.Proofs.Storage.Listing

/-!
The list of the stored tables of a database, as runs leave it behind: it has the tables of the record,
but for those whose names look as if they belonged to the storage.
-/

namespace Cabinet

open Operation Storage

variable {f : Folders} {admitted : Faults → Prop} {agreed : Bool} {w : World}

theorem Within.reachable {times : Int → Prop} (h : Within f times admitted agreed w) :
    Reachable f agreed w := by
  induction h with
  | @start time faults _ _ log => exact .start time faults log
  | request _ q ih => exact ih.request q
  | wait _ _ ih => exact ih.wait _
  | inject _ _ ih => exact ih.inject _

/-- Databases stay paired with their records, be it that nothing else has been told or that nothing can
part them. -/
theorem Within.good_columns (h : Within f (fun _ => True) admitted agreed w)
    (hsafe : agreed = true ∨ ∀ faults, admitted faults → faults.Harmless) :
    ∃ safe, World.Good { Bond.columns with safe } f true w := by
  rcases hsafe with rfl | hsafe
  · exact ⟨false, Within.good (b := { Bond.columns with safe := false }) h fun hfalse => nomatch hfalse⟩
  · have hgood := Within.good (b := { Bond.columns with safe := true }) h fun _ => hsafe
    rw [Bool.or_true] at hgood
    exact ⟨true, hgood⟩

/-- While no inconsistency has been told of or none can come: in every database and every backup, the
tables of the record are those that are there and not reserved. The list of stored tables is in order,
and has those of them that are not called `sqlite` and something more; so it has them all exactly if
none is called so. -/
theorem Within.tables_listed (h : Within f (fun _ => True) admitted agreed w)
    (hsafe : agreed = true ∨ ∀ faults, admitted faults → faults.Harmless) {g : RecordFolder}
    (hg : g = f.records ∨ g = f.backupRecords) {id : String} {file : File}
    (hfile : w.files.get? (Store.place g.folder id) = some file) :
    ∃ db r, file = .database db ∧ (g.read id).exec w = (.ok r, w) ∧
      (∀ name, name ∈ r.tables.keys ↔
        db.hasTable name = true ∧ Schema.ensureNotReserved name = .ok ()) ∧
      db.tableNames.Pairwise (· < ·) ∧
      (∀ name, name ∈ db.tableNames ↔ db.hasTable name = true ∧ ¬LooksReserved name) ∧
      db.tableNames = Text.sort (r.tables.keys.filter fun name => ¬LooksReserved name) ∧
      (db.tableNames = Text.sort r.tables.keys ↔ ∀ name ∈ r.tables.keys, ¬LooksReserved name) := by
  obtain ⟨safe, hgood⟩ := h.good_columns hsafe
  obtain ⟨db, rfl⟩ := hgood.sound.database hfile
  obtain ⟨r, hstores, hholds⟩ := (hgood.at hg id rfl).record hfile
  have hregular : db.Regular := h.reachable.regular.of_get? hfile
  have hnodup := hstores.sound.nodup
  exact ⟨db, r, rfl, hstores.read, fun name => hholds.mem_keys_iff hnodup hregular,
    hholds.pairwise_tableNames, fun name => Database.mem_tableNames, hholds.tableNames_eq hnodup,
    hholds.tableNames_eq_iff hnodup⟩

/-- A workspace whose database has a second table, which is called `sqlite` and something more. -/
def World.lookingReserved : Folders.Sample ⟨"data", "backup"⟩ fun w =>
    w.files.has (Store.place "data" "a_0") = true ∧
      ((RecordFolder.read ⟨"data", false⟩ "a_0").exec w).1.toOption.map (·.tables.keys) =
        some ["entries", "sqlitexy"] :=
  Request.sample _ [.createDatabase (.text "a") "", .schema "a_0" (.addTable (.text "SQLiteXY"))]
    (by decide +kernel)

/-- The second table is left out. -/
theorem Within.looking_reserved_listed : ∃ db r,
    World.lookingReserved.val.files.get? (Store.place "data" "a_0") = some (.database db) ∧
      (RecordFolder.read ⟨"data", false⟩ "a_0").exec World.lookingReserved.val =
        (.ok r, World.lookingReserved.val) ∧
      r.tables.keys = ["entries", "sqlitexy"] ∧ db.tableNames = ["entries"] := by
  obtain ⟨w, hreach, hthere, hkeys⟩ := World.lookingReserved
  dsimp only
  rw [Files.has_eq, Option.isSome_iff_exists] at hthere
  obtain ⟨file, hfile⟩ := hthere
  obtain ⟨db, r, rfl, hread, -, -, -, hlist, -⟩ :=
    hreach.within.tables_listed (.inl rfl) (g := ⟨"data", false⟩) (.inl rfl) hfile
  have hnames : r.tables.keys = ["entries", "sqlitexy"] := by
    rw [hread] at hkeys
    exact Option.some.inj hkeys
  have hkept : (r.tables.keys.filter fun name => ¬LooksReserved name) = ["entries"] := by
    rw [hnames]
    decide
  rw [hkept] at hlist
  exact ⟨db, r, hfile, hread, hnames, hlist.trans (List.mergeSort_singleton ..)⟩

/-- A table of the record that is there, and that could be made as its name is not reserved, is not
listed. -/
theorem Reachable.table_not_listed : ∃ w db r, Reachable ⟨"data", "backup"⟩ true w ∧
    w.files.get? (Store.place "data" "a_0") = some (.database db) ∧
    (RecordFolder.read ⟨"data", false⟩ "a_0").exec w = (.ok r, w) ∧
    "sqlitexy" ∈ r.tables.keys ∧ db.hasTable "sqlitexy" = true ∧
    Schema.ensureNotReserved "sqlitexy" = .ok () ∧ "sqlitexy" ∉ db.tableNames := by
  obtain ⟨w, hreach, hthere, hkeys⟩ := World.lookingReserved
  rw [Files.has_eq, Option.isSome_iff_exists] at hthere
  obtain ⟨file, hfile⟩ := hthere
  obtain ⟨db, rfl⟩ := hreach.good.sound.database hfile
  have hpaired := hreach.good.at (g := ⟨"data", false⟩) (.inl rfl) "a_0" rfl
  obtain ⟨r, hstores, hholds⟩ := hpaired.record hfile
  have hnames : r.tables.keys = ["entries", "sqlitexy"] := by
    rw [hstores.read] at hkeys
    exact Option.some.inj hkeys
  have hmem : "sqlitexy" ∈ r.tables.keys := by simp [hnames]
  have hfound := (hholds.mem_keys_iff hstores.sound.nodup (hreach.regular.of_get? hfile)).mp hmem
  refine ⟨w, db, r, hreach, hfile, hstores.read, hmem, hfound.1, hfound.2, fun hlisted => ?_⟩
  have hlooks : LooksReserved "sqlitexy" := by decide
  exact (Database.mem_tableNames.mp hlisted).2 hlooks

end Cabinet

import Cabinet.Proofs.Backups

/-!
What backups and restorations leave behind when they fail: nothing, unless there is a text in the place
of the stored tables that were to be copied.
-/

namespace Cabinet.Backups

open Operation

/-- A backup leaves an empty file behind if there is a text in the place of the stored tables, while
their record can be read. -/
theorem create_leaves_iff (f : Folders) (id : String) (w : World) :
    (∃ e w', (create f id).exec w = (.error e, w') ∧ Store.LeavesEmpty (Store.place f.data id)
      (Store.place f.backup (Name.backup id w.time)) e w w') ↔
      (∃ c s, w.files.get? (Store.place f.data id) = some (.text (c :: s))) ∧
        (∃ r, f.records.Finds id r w.files) ∧
        w.files.get? (Store.place f.backup (Name.backup id w.time)) = none := by
  constructor
  · rintro ⟨e, w', hexec, hleft⟩
    obtain ⟨c, s, hfile⟩ := hleft.unreadable
    refine ⟨hleft.unreadable, ?_, hleft.free⟩
    cases hfinds : RecordFolder.readFile (.text id) (w.files.get? (f.records.place id)) with
    | ok r => exact ⟨r, hfinds⟩
    | error e' =>
      have hsame : (create f id).exec w = (.error e', w) := by
        simp only [create, exec_bind, Store.exec_existing, Files.has_eq, hfile, Option.isSome_some,
          if_true, RecordFolder.exec_read, hfinds]
      exact absurd (congrArg Prod.snd (hexec.symm.trans hsame)) hleft.ne
  · rintro ⟨⟨c, s, hfile⟩, ⟨r, hr⟩, hfree⟩
    obtain ⟨e, w', hcopy, hleft⟩ := Store.exec_copy_unreadable hfile hfree
    refine ⟨e, w', ?_, hleft⟩
    simp only [create, exec_bind, Store.exec_existing, Files.has_eq, hfile, Option.isSome_some, if_true,
      hr.read, exec_now, exec_hasFile, hfree, Option.isSome_none, Bool.false_eq_true, if_false, hcopy]

/-- A restoration leaves an empty file behind if there is a text in the place of the backup, while its
record can be read and nothing goes by the id that the database is to have. -/
theorem restore_leaves_iff (f : Folders) (name : String) (w : World) :
    (∃ e w', (restore f name).exec w = (.error e, w') ∧ Store.LeavesEmpty (Store.place f.backup name)
      (Store.place f.data (Name.restored name)) e w w') ↔
      (∃ c s, w.files.get? (Store.place f.backup name) = some (.text (c :: s))) ∧
        (∃ r, f.backupRecords.Finds name r w.files) ∧
        w.files.get? (Store.place f.data (Name.restored name)) = none ∧
        w.files.get? (f.records.place (Name.restored name)) = none := by
  constructor
  · rintro ⟨e, w', hexec, hleft⟩
    obtain ⟨c, s, hfile⟩ := hleft.unreadable
    have hfree := hleft.free
    cases hnone : w.files.get? (f.records.place (Name.restored name)) with
    | some file =>
      have hsame : (restore f name).exec w = (.error (.databaseExists (Name.restored name)), w) := by
        simp only [restore, exec_bind, exec_existing, Files.has_eq, hfile, Option.isSome_some, if_true,
          RecordFolder.has, exec_hasFile, hfree, hnone, Bool.or_true, exec_throw]
      exact absurd (congrArg Prod.snd (hexec.symm.trans hsame)) hleft.ne
    | none =>
    cases hfinds : RecordFolder.readFile (.text name) (w.files.get? (f.backupRecords.place name)) with
    | ok r => exact ⟨hleft.unreadable, ⟨r, hfinds⟩, hfree, rfl⟩
    | error e' =>
      have hsame : (restore f name).exec w = (.error e', w) := by
        simp only [restore, exec_bind, exec_existing, Files.has_eq, hfile, Option.isSome_some, if_true,
          RecordFolder.has, exec_hasFile, hfree, hnone, Option.isSome_none, Bool.or_self,
          Bool.false_eq_true, if_false, RecordFolder.exec_read, hfinds]
      exact absurd (congrArg Prod.snd (hexec.symm.trans hsame)) hleft.ne
  · rintro ⟨⟨c, s, hfile⟩, ⟨r, hr⟩, hfree, hnone⟩
    obtain ⟨e, w', hcopy, hleft⟩ := Store.exec_copy_unreadable hfile hfree
    refine ⟨e, w', ?_, hleft⟩
    simp only [restore, exec_bind, exec_existing, Files.has_eq, hfile, Option.isSome_some, if_true,
      RecordFolder.has, exec_hasFile, hfree, hnone, Option.isSome_none, Bool.or_self,
      Bool.false_eq_true, if_false, hr.read, exec_stamp, hcopy]

/-- A backup or a restoration that fails changes nothing, so that what is listed stays the same, unless
it leaves an empty file behind. That happens if there is a text in the place of the stored tables that
were to be copied and nothing else stands in the way. -/
theorem failure_changes_nothing (f : Folders) (w : World) :
    (∀ id e w', (create f id).exec w = (.error e, w') →
      w' = w ∨ Store.LeavesEmpty (Store.place f.data id)
        (Store.place f.backup (Name.backup id w.time)) e w w') ∧
    (∀ id, (∃ e w', (create f id).exec w = (.error e, w') ∧ Store.LeavesEmpty (Store.place f.data id)
        (Store.place f.backup (Name.backup id w.time)) e w w') ↔
      (∃ c s, w.files.get? (Store.place f.data id) = some (.text (c :: s))) ∧
        (∃ r, f.records.Finds id r w.files) ∧
        w.files.get? (Store.place f.backup (Name.backup id w.time)) = none) ∧
    (∀ name e w', (restore f name).exec w = (.error e, w') →
      w' = w ∨ Store.LeavesEmpty (Store.place f.backup name)
        (Store.place f.data (Name.restored name)) e w w') ∧
    (∀ name, (∃ e w', (restore f name).exec w = (.error e, w') ∧
        Store.LeavesEmpty (Store.place f.backup name) (Store.place f.data (Name.restored name)) e w w') ↔
      (∃ c s, w.files.get? (Store.place f.backup name) = some (.text (c :: s))) ∧
        (∃ r, f.backupRecords.Finds name r w.files) ∧
        w.files.get? (Store.place f.data (Name.restored name)) = none ∧
        w.files.get? (f.records.place (Name.restored name)) = none) := by
  refine ⟨fun id e w' h => ?_, (create_leaves_iff f · w), fun name e w' h => ?_,
    (restore_leaves_iff f · w)⟩
  · rcases create_outcome f id w with ⟨e', hexec⟩ | ⟨e', w'', hexec, hleft⟩ | ⟨_, _, _, _, -, hexec⟩
    · exact .inl (Prod.mk.inj (h.symm.trans hexec)).2
    · obtain ⟨he, rfl⟩ := Prod.mk.inj (h.symm.trans hexec)
      exact .inr (Except.error.inj he ▸ hleft)
    · exact nomatch (Prod.mk.inj (h.symm.trans hexec)).1
  · rcases restore_outcome f name w with ⟨e', hexec⟩ | ⟨e', w'', hexec, hleft⟩ | ⟨_, _, _, _, -, hexec⟩
    · exact .inl (Prod.mk.inj (h.symm.trans hexec)).2
    · obtain ⟨he, rfl⟩ := Prod.mk.inj (h.symm.trans hexec)
      exact .inr (Except.error.inj he ▸ hleft)
    · exact nomatch (Prod.mk.inj (h.symm.trans hexec)).1

theorem exec_list (f : Folders) (w : World) : (list f).exec w =
    (.ok (Text.sort ((w.files.namesIn f.backup).filterMap (RecordFolder.stem? Store.suffix))), w) := rfl

/-- Two folders, in the first of which there is a record, with a text in the place of its stored
tables. -/
def sampleFolders : Folders := ⟨"data", "backup"⟩

def overwrittenRecord : Record :=
  Databases.newRecord "a" "A" (.text (String.ofList (Calendar.momentText 0))) (.text "")

def overwritten : World where
  files := [(Store.place "data" "a", .text ['x']),
    (sampleFolders.records.place "a", .text overwrittenRecord.write)]
  time := 5

theorem overwritten_unreadable :
    (∃ c s, overwritten.files.get? (Store.place "data" "a") = some (.text (c :: s))) ∧
      (∃ r, sampleFolders.records.Finds "a" r overwritten.files) ∧
      overwritten.files.get? (Store.place "backup" (Name.backup "a" 5)) = none := by
  refine ⟨⟨'x', [], rfl⟩, ⟨overwrittenRecord, ?_⟩, by decide +kernel⟩
  have hfile : overwritten.files.get? (sampleFolders.records.place "a") =
      some (.text overwrittenRecord.write) := by
    simp [overwritten, Files.get?, List.lookup_cons,
      beq_eq_false_iff_ne.mpr (RecordFolder.place_ne _ _ _ _)]
  rw [RecordFolder.Finds, hfile, RecordFolder.readFile]
  exact Record.read_write (Databases.newRecord_sound "a" "A" "" 0) (by decide +kernel)

theorem failure_changes_nothing_overwritten :
    (∃ e w', (create sampleFolders "a").exec overwritten = (.error e, w') ∧
      (w' = overwritten ∨ Store.LeavesEmpty (Store.place "data" "a")
        (Store.place "backup" (Name.backup "a" 5)) e overwritten w')) ∧
    ∃ e w', (restore sampleFolders "b").exec overwritten = (.error e, w') ∧
      (w' = overwritten ∨ Store.LeavesEmpty (Store.place "backup" "b")
        (Store.place "data" (Name.restored "b")) e overwritten w') := by
  obtain ⟨hcreate, hleaves, hrestore, -⟩ := failure_changes_nothing sampleFolders overwritten
  obtain ⟨e, w', hexec, -⟩ := (hleaves "a").mpr overwritten_unreadable
  have hmissing : (restore sampleFolders "b").exec overwritten =
      (.error (.backupMissing "b"), overwritten) := by
    have hno : overwritten.files.has (Store.place sampleFolders.backup "b") = false := by decide +kernel
    simp only [restore, exec_bind, exec_existing, hno, Bool.false_eq_true, if_false]
  exact ⟨⟨e, w', hexec, hcreate "a" e w' hexec⟩, _, _, hmissing, hrestore "b" _ _ hmissing⟩

/-- A backup that has failed is listed among the backups. -/
theorem failed_backup_listed : ∃ e w', (create sampleFolders "a").exec overwritten = (.error e, w') ∧
    ((list sampleFolders).exec overwritten).1 = .ok [] ∧
    ((list sampleFolders).exec w').1 = .ok ["backup_a_5"] := by
  obtain ⟨e, w', hexec, hleft⟩ :=
    (create_leaves_iff sampleFolders "a" overwritten).mpr overwritten_unreadable
  have hname : Name.backup "a" 5 = "backup_a_5" := by decide +kernel
  have hfiles : w'.files = overwritten.files.put (Store.place "backup" "backup_a_5") (.database {}) := by
    rw [hleft.world, ← hname]
    rfl
  refine ⟨e, w', hexec, ?_, ?_⟩
  · rw [exec_list]
    exact congrArg Except.ok (by decide +kernel)
  · rw [exec_list, hfiles]
    exact congrArg Except.ok (by decide +kernel)

end Cabinet.Backups

import Cabinet.Backups
import Cabinet.Proofs.Databases

/-!
Backups are made, restored and removed together with their records.
-/

namespace Cabinet

open Operation Storage

/-- What a copy leaves behind whose source holds no stored tables: an empty file where there was
none. -/
structure Store.LeavesEmpty (source target : Place) (e : Error) (w w' : World) : Prop where
  unreadable : ∃ c s, w.files.get? source = some (.text (c :: s))
  free : w.files.get? target = none
  error : e = .storage ("copy '" ++ source.path ++ "' to '" ++ target.path ++ "'") .notADatabase
  world : w' = { w with files := w.files.put target (.database {}) }

/-- That a file holds no stored tables is seen when the file for the copy is there already. -/
theorem Store.exec_copy_unreadable {w : World} {source target : Place} {c : Char} {s : List Char}
    (hs : w.files.get? source = some (.text (c :: s))) (ht : w.files.get? target = none) :
    ∃ e w', (copy source target).exec w = (.error e, w') ∧ LeavesEmpty source target e w w' := by
  refine ⟨_, _, ?_, ⟨c, s, hs⟩, ht, rfl, rfl⟩
  simp only [copy, connect, exec_bind, exec_file?, hs, ht, exec_pure, opened, exec_putFile]
  rfl

/-- A file is copied to a place where there is none. If it is a folder then nothing changes, but if it
holds no stored tables then an empty file is left behind. -/
theorem Store.copy_cases {w : World} {source target : Place} {file : File}
    (hs : w.files.get? source = some file) (ht : w.files.get? target = none) :
    (∃ e, (copy source target).exec w = (.error e, w)) ∨
      (∃ e w', (copy source target).exec w = (.error e, w') ∧ LeavesEmpty source target e w w') ∨
      ∃ db, opened file = .ok db ∧ (copy source target).exec w =
        (.ok (), { w with files := w.files.put target (.database db) }) := by
  have hopens : ∀ db, opened file = .ok db → (connect source).exec w = (.ok (.ok db), w) →
      (copy source target).exec w = (.ok (), { w with files := w.files.put target (.database db) }) := by
    intro db hopened hconnect
    simp only [copy, exec_bind, hconnect, exec_file?, ht, exec_putFile, exec_of]
    simp only [Statement.named, Files.put_put]
  match file with
  | .folder =>
    refine .inl ⟨.storage ("open database file '" ++ source.path ++ "'") .cannotOpen, ?_⟩
    simp only [copy, connect, exec_bind, exec_file?, hs, exec_throw]
  | .text (c :: s) => exact .inr (.inl (exec_copy_unreadable hs ht))
  | .text [] =>
    refine .inr (.inr ⟨{}, rfl, hopens {} rfl ?_⟩)
    simp only [connect, exec_bind, exec_file?, hs, exec_pure, opened]
  | .database db => exact .inr (.inr ⟨db, rfl, hopens db rfl (exec_connect hs)⟩)

/-- Where an empty file is left behind, the workspace is not what it was. -/
theorem Store.LeavesEmpty.ne {source target : Place} {e : Error} {w w' : World}
    (h : LeavesEmpty source target e w w') : w' ≠ w := by
  intro heq
  have hthere := Files.get?_put_self target (.database {}) w.files
  have hfiles : w.files.put target (.database {}) = w.files :=
    congrArg World.files (h.world.symm.trans heq)
  rw [hfiles, h.free] at hthere
  cases hthere

/-- Where every file is one that the library makes, no empty file is left behind. -/
theorem Store.LeavesEmpty.not_sound {folder id : String} {target : Place} {e : Error} {w w' : World}
    (h : LeavesEmpty (place folder id) target e w w') : ¬w.files.Sound := by
  intro hs
  obtain ⟨c, s, hfile⟩ := h.unreadable
  obtain ⟨db, hdb⟩ := hs.database hfile
  cases hdb

namespace Backups

variable {α : Type} {b : Bond} {f : Folders} {g : RecordFolder} {id : String} {agreed : Bool}
  {w : World} {r : Record} {db : Database} {files : Files}

theorem exec_existing (f : Folders) (name : String) (w : World) :
    (existing f name).exec w =
      (if w.files.has (Store.place f.backup name) then .ok (Store.place f.backup name)
        else .error (.backupMissing name), w) := by
  simp only [existing, exec_bind, exec_hasFile, exec_ite, exec_pure, exec_throw]
  split <;> rfl

/-- The record of a copy. -/
def recordOf (r : Record) (name : String) (time : Int) : Record :=
  { r with
    id := .text name
    modifiedAt := .text (String.ofList (Calendar.momentText time))
    version := 1 }

theorem recordOf_sound (h : r.Sound) (name : String) (time : Int) : (recordOf r name time).Sound :=
  (h.relabel (Json.isPlain_text name) h.displayName (Json.isPlain_text _)).at_version 1

/-- Stored tables are there with their record, and nothing goes by the name that a copy of them is to
have. -/
structure Copies (source target : RecordFolder) (id name : String) (r : Record) (db : Database)
    (w : World) : Prop where
  stores : source.Stores id r w.files
  tables : w.files.get? (Store.place source.folder id) = some (.database db)
  free : w.files.get? (Store.place target.folder name) = none
  unrecorded : w.files.get? (target.place name) = none
  writable : Json.isWritable (recordOf r name w.time).toDocument = true

/-- The files among which there is a copy of stored tables, with its record. -/
def copied (target : RecordFolder) (name : String) (r : Record) (db : Database) (w : World) : Files :=
  (w.files.put (Store.place target.folder name) (.database db)).put (target.place name)
    (.text (recordOf r name w.time).write)

/-- A copy of stored tables gets its record, or it is removed again. -/
theorem recordCopy_cases (g : RecordFolder) (hnone : w.files.get? (Store.place g.folder id) = none)
    (hown : r.id = .text id) (db : Database) :
    (∃ e, (recordCopy (Store.place g.folder id) g r).exec
        { w with files := w.files.put (Store.place g.folder id) (.database db) } = (.error e, w)) ∨
      w.files.get? (g.place id) = none ∧
        RecordFolder.CanWrite { r with version := 1 } w.faults ∧
        (recordCopy (Store.place g.folder id) g r).exec
          { w with files := w.files.put (Store.place g.folder id) (.database db) } =
            (.ok (), g.written id { r with version := 1 }
              { w with files := w.files.put (Store.place g.folder id) (.database db) }) := by
  have hput : (w.files.put (Store.place g.folder id) (.database db)).get? (g.place id) =
      w.files.get? (g.place id) := Files.get?_put_of_ne (g.place_ne _ _ _) _ _
  have hdrop := RecordFolder.exec_dropFile (p := Store.place g.folder id) (w := {
    w with files := w.files.put (Store.place g.folder id) (.database db) })
    (by simp [Files.get?_put_self])
  rw [Files.drop_put, Files.drop_of_get?_none hnone] at hdrop
  rcases g.create_cases hown { w with files := w.files.put (Store.place g.folder id) (.database db) } with
    ⟨hfree, hcan, hcreate⟩ | ⟨e, -, hcreate⟩
  · refine .inr ⟨hput.symm.trans hfree, hcan, ?_⟩
    simp only [recordCopy, exec_bind, exec_tryCatch, hcreate, exec_pure]
  · refine .inl ⟨e, ?_⟩
    simp only [recordCopy, exec_bind, exec_tryCatch, hcreate, hdrop, exec_throw]

/-- A file is copied with the record that goes with it to where there was nothing. -/
structure Transfers (source target : RecordFolder) (id name : String) (file : File) (r : Record)
    (db : Database) (w : World) : Prop where
  there : w.files.get? (Store.place source.folder id) = some file
  opened : Store.opened file = .ok db
  finds : source.Finds id r w.files
  free : w.files.get? (Store.place target.folder name) = none
  unrecorded : w.files.get? (target.place name) = none
  writable : Json.isWritable (recordOf r name w.time).toDocument = true

theorem Transfers.copies {source target : RecordFolder} {name : String} {file : File}
    (h : Transfers source target id name file r db w) (hs : w.files.Sound) :
    Copies source target id name r db w := by
  have hfile : file = .database db := by
    obtain ⟨db', rfl⟩ := hs.database h.there
    exact congrArg _ (Except.ok.inj h.opened)
  have hstores : source.Stores id r w.files := by
    rcases RecordFolder.read_cases hs source id with ⟨r', hstores, -⟩ | ⟨hnone, -⟩
    · exact h.finds.unique hstores.finds ▸ hstores
    · have hfinds := h.finds
      rw [RecordFolder.Finds, hnone] at hfinds
      cases hfinds
  exact ⟨hstores, hfile ▸ h.there, h.free, h.unrecorded, h.writable⟩

/-- A database is copied with its record, or nothing changes, or what was to be copied holds no stored
tables and leaves an empty file behind. -/
theorem create_outcome (f : Folders) (id : String) (w : World) :
    (∃ e, (create f id).exec w = (.error e, w)) ∨
      (∃ e w', (create f id).exec w = (.error e, w') ∧ Store.LeavesEmpty (Store.place f.data id)
        (Store.place f.backup (Name.backup id w.time)) e w w') ∨
      ∃ file r db log, Transfers f.records f.backupRecords id (Name.backup id w.time) file r db w ∧
        (create f id).exec w = (.ok (Name.backup id w.time), {
          w with files := copied f.backupRecords (Name.backup id w.time) r db w, log }) := by
  simp only [create, exec_bind, Store.exec_existing, Files.has_eq]
  cases hthere : w.files.get? (Store.place f.data id) with
  | none => exact .inl ⟨_, rfl⟩
  | some file =>
  simp only [Option.isSome_some, if_true, RecordFolder.exec_read]
  cases hfinds : RecordFolder.readFile (.text id) (w.files.get? (f.records.place id)) with
  | error e => exact .inl ⟨e, rfl⟩
  | ok r =>
  simp only [exec_now, exec_hasFile, Files.has_eq]
  generalize Name.backup id w.time = name
  cases hnone : w.files.get? (Store.place f.backup name) with
  | some _ => exact .inl ⟨_, rfl⟩
  | none =>
  simp only [Option.isSome_none, Bool.false_eq_true, if_false, exec_bind]
  rcases Store.copy_cases hthere hnone with ⟨e, hexec⟩ | ⟨e, w', hexec, hleft⟩ | ⟨db, hopened, hexec⟩
  · exact .inl ⟨e, by simp only [hexec]⟩
  · exact .inr (.inl ⟨e, w', by simp only [hexec], hleft⟩)
  simp only [hexec, exec_stamp]
  rcases recordCopy_cases f.backupRecords (r := { r with
      id := .text name, modifiedAt := .text (String.ofList (Calendar.momentText w.time)) })
      hnone rfl db with ⟨e, hcopy⟩ | ⟨hfree, hcan, hcopy⟩
  · simp only [Folders.backupRecords_folder] at hcopy
    exact .inl ⟨e, by simp only [hcopy]⟩
  · simp only [Folders.backupRecords_folder] at hcopy
    simp only [hcopy, exec_log, exec_pure]
    exact .inr (.inr ⟨file, r, db, _, ⟨hthere, hopened, hfinds, hnone, hfree, hcan.1⟩, rfl⟩)

/-- A backup is copied with its record, or nothing changes, or it holds no stored tables and leaves an
empty file behind. -/
theorem restore_outcome (f : Folders) (name : String) (w : World) :
    (∃ e, (restore f name).exec w = (.error e, w)) ∨
      (∃ e w', (restore f name).exec w = (.error e, w') ∧ Store.LeavesEmpty (Store.place f.backup name)
        (Store.place f.data (Name.restored name)) e w w') ∨
      ∃ file r db log, Transfers f.backupRecords f.records name (Name.restored name) file r db w ∧
        (restore f name).exec w = (.ok (Name.restored name), {
          w with files := copied f.records (Name.restored name) r db w, log }) := by
  simp only [restore, exec_bind, exec_existing, Files.has_eq]
  cases hthere : w.files.get? (Store.place f.backup name) with
  | none => exact .inl ⟨_, rfl⟩
  | some file =>
  simp only [Option.isSome_some, if_true, RecordFolder.has, exec_hasFile, Files.has_eq]
  generalize Name.restored name = id
  cases hnone : w.files.get? (Store.place f.data id) with
  | some _ => exact .inl ⟨_, rfl⟩
  | none =>
  cases hnone' : w.files.get? (f.records.place id) with
  | some _ => exact .inl ⟨_, rfl⟩
  | none =>
  simp only [Option.isSome_none, Bool.or_self, Bool.false_eq_true, if_false, exec_bind,
    RecordFolder.exec_read]
  cases hfinds : RecordFolder.readFile (.text name) (w.files.get? (f.backupRecords.place name)) with
  | error e => exact .inl ⟨e, rfl⟩
  | ok r =>
  simp only [exec_stamp]
  -- Only now is a file written: up to here the world is as it was, and what can still fail leaves
  -- an empty file or removes what was copied.
  rcases Store.copy_cases hthere hnone with ⟨e, hexec⟩ | ⟨e, w', hexec, hleft⟩ | ⟨db, hopened, hexec⟩
  · exact .inl ⟨e, by simp only [hexec]⟩
  · exact .inr (.inl ⟨e, w', by simp only [hexec], hleft⟩)
  simp only [hexec]
  rcases recordCopy_cases f.records (r := { r with
      id := .text id, modifiedAt := .text (String.ofList (Calendar.momentText w.time)) })
      hnone rfl db with ⟨e, hcopy⟩ | ⟨hfree, hcan, hcopy⟩
  · simp only [Folders.records_folder] at hcopy
    exact .inl ⟨e, by simp only [hcopy]⟩
  · simp only [Folders.records_folder] at hcopy
    simp only [hcopy, exec_log, exec_pure]
    exact .inr (.inr ⟨file, r, db, _, ⟨hthere, hopened, hfinds, hnone, hfree, hcan.1⟩, rfl⟩)

/-- A database is copied with its record, or no file changes. -/
theorem create_cases (hs : w.files.Sound) (f : Folders) (id : String) :
    (∃ e, (create f id).exec w = (.error e, w)) ∨
      ∃ r db log, Copies f.records f.backupRecords id (Name.backup id w.time) r db w ∧
        (create f id).exec w = (.ok (Name.backup id w.time), {
          w with files := copied f.backupRecords (Name.backup id w.time) r db w, log }) := by
  rcases create_outcome f id w with h | ⟨e, w', -, hleft⟩ | ⟨file, r, db, log, htransfers, hexec⟩
  · exact .inl h
  · exact absurd hs hleft.not_sound
  · exact .inr ⟨r, db, log, htransfers.copies hs, hexec⟩

/-- A backup is copied with its record, or no file changes. -/
theorem restore_cases (hs : w.files.Sound) (f : Folders) (name : String) :
    (∃ e, (restore f name).exec w = (.error e, w)) ∨
      ∃ r db log, Copies f.backupRecords f.records name (Name.restored name) r db w ∧
        (restore f name).exec w = (.ok (Name.restored name), {
          w with files := copied f.records (Name.restored name) r db w, log }) := by
  rcases restore_outcome f name w with h | ⟨e, w', -, hleft⟩ | ⟨file, r, db, log, htransfers, hexec⟩
  · exact .inl h
  · exact absurd hs hleft.not_sound
  · exact .inr ⟨r, db, log, htransfers.copies hs, hexec⟩

/-- What is found after a copy has been made. -/
theorem get?_copied (target : RecordFolder) (name : String) (r : Record) (db : Database) (w : World)
    (p : Place) : (copied target name r db w).get? p =
      if p = target.place name then some (.text (recordOf r name w.time).write)
      else if p = Store.place target.folder name then some (.database db) else w.files.get? p := by
  rw [copied, Files.get?_put, Files.get?_put]

theorem copied_tables (target : RecordFolder) (name : String) (r : Record) (db : Database) (w : World) :
    (copied target name r db w).get? (Store.place target.folder name) = some (.database db) := by
  rw [get?_copied, if_neg (target.place_ne _ _ _).symm, if_pos rfl]

section Copies

variable {source target : RecordFolder} {name : String}

/-- The record of a copy is the record of what was copied, but for its id, the time and the version. -/
theorem Copies.copy_stores (h : Copies source target id name r db w) :
    target.Stores name (recordOf r name w.time) (copied target name r db w) where
  file := by rw [get?_copied, if_pos rfl]
  sound := recordOf_sound h.stores.sound name w.time
  writable := h.writable
  own := rfl

theorem Copies.sound (h : Copies source target id name r db w) (hs : w.files.Sound) :
    (copied target name r db w).Sound :=
  (hs.put (.tables target.folder name db)).put
    (.record target name (recordOf_sound h.stores.sound name w.time) h.writable rfl)

/-- A copy takes no other file's place. -/
theorem Copies.stays (h : Copies source target id name r db w) {p : Place} {file : File}
    (hp : w.files.get? p = some file) : (copied target name r db w).get? p = some file := by
  rw [get?_copied, if_neg, if_neg, hp]
  · rintro rfl
    exact nomatch hp.symm.trans h.free
  · rintro rfl
    exact nomatch hp.symm.trans h.unrecorded

/-- A workspace stays good when a copy is made. -/
theorem Copies.good (h : Copies source target id name r db w) (hw : World.Good b f agreed w)
    (hsource : source = f.records ∨ source = f.backupRecords) (log : List LogEntry) :
    World.Good b f agreed { w with files := copied target name r db w, log } := by
  refine hw.update target name (h.sound hw.sound) (fun p hp hp' => ?_) fun hb => ?_
  · exact (get?_copied ..).trans ((if_neg hp').trans (if_neg hp))
  · have hholds := (hw.at hsource id hb).holds h.stores h.tables
    exact .inr ⟨_, db, h.copy_stores, copied_tables .., hholds⟩

end Copies

theorem create_keeps (f : Folders) (id : String) : (create f id).Keeps b f := by
  intro agreed w hw
  rcases create_cases hw.sound f id with ⟨e, hexec⟩ | ⟨r, db, log, hcopies, hexec⟩
  · rw [hexec]
    exact hw.weaken _
  · rw [hexec]
    exact (hcopies.good hw (.inl rfl) log).weaken _

theorem restore_keeps (f : Folders) (name : String) : (restore f name).Keeps b f := by
  intro agreed w hw
  rcases restore_cases hw.sound f name with ⟨e, hexec⟩ | ⟨r, db, log, hcopies, hexec⟩
  · rw [hexec]
    exact hw.weaken _
  · rw [hexec]
    exact (hcopies.good hw (.inr rfl) log).weaken _

theorem delete_keeps (f : Folders) (name : String) : (delete f name).Keeps b f := by
  intro agreed w hw
  rw [delete, exec_bind, exec_existing]
  cases w.files.has (Store.place f.backup name) with
  | false => exact hw.weaken _
  | true => exact f.backupRecords.removal_keeps name (Quiet.log _ _ _).keeps hw

theorem list_keeps (f : Folders) : (list f).Keeps b f :=
  Keeps.world.bind fun _ => .of (.ok _)

end Backups

end Cabinet

import Cabinet.Proofs.Rows.Outcome
import Cabinet.Proofs.Run.Basic
import Cabinet.Proofs.Workspace.Touched

/-!
Which files a request may touch: those of the database or of the backup that it is about, and those of
ids by which nothing goes.
-/

namespace Cabinet

open Operation Storage

variable {α : Type} {f : Folders} {id : String} {w : World} {own : Place → Prop}

theorem Folders.has_records (f : Folders) {p : Place} (h : f.records.Owns id p) : f.Has p :=
  ⟨f.records, id, .inl rfl, h⟩

namespace RecordFolder

theorem owns_store (g : RecordFolder) (id : String) : g.Owns id (Store.place g.folder id) :=
  .inl rfl

theorem owns_record (g : RecordFolder) (id : String) : g.Owns id (g.place id) :=
  .inr rfl

end RecordFolder

/-- A sound record is written in the place of its id. -/
theorem Files.Touched.put_record {files files' : Files} {r : Record} (h : Touched f own files files')
    (hr : r.Sound) (hwritable : Json.isWritable r.toDocument = true) (hown : r.id = .text id)
    (hp : own (f.records.place id) := by exact RecordFolder.owns_record _ _) :
    Touched f own files (files'.put (f.records.place id) (.text r.write)) :=
  h.put hp (f.has_records (f.records.owns_record id)) (.record f.records id hr hwritable hown)
    (fun _ _ hfile => nomatch hfile)

/-- Stored tables are written in the place of an id. -/
theorem Files.Touched.put_tables {files files' : Files} {db : Database}
    (h : Touched f (f.records.Owns id) files files') (hdb : files.Regular → db.Regular) :
    Touched f (f.records.Owns id) files (files'.put (Store.place f.data id) (.database db)) :=
  h.put (f.records.owns_store id) (f.has_records (f.records.owns_store id)) (.tables f.data id db)
    fun hr _ hfile => File.database.inj hfile ▸ hdb hr

namespace Schema

theorem applyRevision_touches {revision : Revision α} (hr : revision.Lawful) :
    (applyRevision f id revision).Touches f (f.records.Owns id) := by
  intro w hs
  rcases applyRevision_cases f id hs hr with
    ⟨found, a, revised, faults, hrev, hexec⟩ | ⟨-, e, faults, -, -, hexec⟩
  swap
  · rw [hexec]
    exact .refl ..
  obtain ⟨hsound, hid⟩ := hr.sound hrev.stores.sound hrev.revision
  rw [hexec]
  exact (Files.Touched.refl ..).put_record (replacement_sound _ hsound w.time) hrev.writes.1
    (hid.trans hrev.stores.own)

theorem applyChange_touches {change : Change α} (hc : change.Lawful) (action : String) :
    (applyChange f id action change).Touches f (f.records.Owns id) := by
  intro w hs
  have hended := applyChange_ended f id hs hc action
  generalize (applyChange f id action change).exec w = result at hended ⊢
  have hwritten : ∀ {found db out faults}, Changes f id change w found db out faults →
      Files.Touched f (f.records.Owns id) w.files
        (w.files.put (f.records.place id) (.text (replacement found out.record w.time).write)) := by
    intro found db out faults changed
    obtain ⟨hsound, hid⟩ := hc.sound changed.stores.sound changed.change
    exact (Files.Touched.refl ..).put_record (replacement_sound _ hsound w.time) changed.writes.1
      (hid.trans changed.stores.own)
  cases hended with
  | refused => exact .refl ..
  | kept changed =>
    exact (hwritten changed).put_tables fun hr =>
      (hc.regular changed.stores.sound (hr.of_get? changed.tables) changed.change).1
  | undone changed _ restores =>
    exact (hwritten changed).put_record (changed.stores.sound.at_version _)
      restores.choose_spec.2.1 changed.stores.own
  | diverged changed => exact hwritten changed

theorem Mutation.touches {op : Operation α} (h : Mutation f id op) :
    op.Touches f (f.records.Owns id) := by
  induction h with
  | revision lawful => exact applyRevision_touches lawful
  | change action lawful => exact applyChange_touches lawful action
  | answer x => exact .of x
  | check _ _ ih => exact .of_bind ih
  | reading reads _ ih => exact reads.touches.bind ih
  | quietly _ quiet ih => exact ih.bind fun a => (quiet a).touches

theorem addTable_touches (f : Folders) (id : String) (name : Value) :
    (addTable f id name).Touches f (f.records.Owns id) := by
  intro w hs
  have hsilent := ((Request.addTable name).run_mutation f id).touches hs
  simpa only [Request.run, exec_silent] using hsilent

end Schema

namespace Store

/-- What only asks the stored tables of a database. -/
theorem asking_touches {next : Opened → Operation α} (hn : ∀ tables, (next tables).Touches f own) :
    (existing f id >>= fun p => connect p >>= next).Touches f own := by
  intro w hs
  simp only [exec_bind, exec_existing, Files.has_eq]
  cases hthere : w.files.get? (place f.data id) with
  | none => exact .refl ..
  | some file =>
    obtain ⟨db, rfl⟩ := hs.database hthere
    simp only [Option.isSome_some, if_true, exec_connect hthere]
    exact hn _ hs

end Store

namespace Rows

variable (f id)

theorem create_touches (table : String) (data : List (String × Value)) :
    (create f id table data).Touches f (f.records.Owns id) := by
  intro w hs
  rcases create_cases f id table hs data with
    ⟨e, log, hexec⟩ | ⟨t, db, values, n, db', row, log, told, hv, -, hinsert, -, hexec⟩
  · rw [hexec]
    exact .refl ..
  · rw [hexec]
    exact (Files.Touched.refl ..).put_tables fun hr => (hr.of_get? told.stored).insert hv hinsert

theorem get_touches (table : String) (row : Int) : (get f id table row).Touches f own :=
  (Schema.reads_table f id _).touches.bind fun _ => Store.asking_touches fun _ =>
    (Touches.of _).bind fun _ => .of _

theorem update_touches (table : String) (row : Int) (data : List (String × Value)) :
    (update f id table row data).Touches f (f.records.Owns id) := by
  intro w hs
  rcases update_cases f id table hs row data with
    ⟨e, hexec⟩ | ⟨t, db, accepted, k, db', row, told, hv, -, hupdate, -, -, hexec⟩
  · rw [hexec]
    exact .refl ..
  · rw [hexec]
    exact (Files.Touched.refl ..).put_tables fun hr => (hr.of_get? told.stored).update hv hupdate

theorem setVisibility_touches (table : String) (row : Int) (hidden : Value) :
    (setVisibility f id table row hidden).Touches f (f.records.Owns id) := by
  intro w hs
  rcases setVisibility_cases f id table hs row hidden with
    ⟨e, hexec⟩ | ⟨t, db, flag, k, db', row, told, -, hv, hupdate, -, -, hexec⟩
  · rw [hexec]
    exact .refl ..
  · rw [hexec]
    exact (Files.Touched.refl ..).put_tables fun hr => (hr.of_get? told.stored).update hv hupdate

theorem delete_touches (table : String) (row : Int) :
    (delete f id table row).Touches f (f.records.Owns id) := by
  intro w hs
  rcases delete_cases f id table hs row with ⟨e, hexec⟩ | ⟨t, db, k, db', told, hdelete, -, hexec⟩
  · rw [hexec]
    exact .refl ..
  · rw [hexec]
    exact (Files.Touched.refl ..).put_tables fun hr => (hr.of_get? told.stored).delete hdelete

theorem search_touches (table : String) (options : SearchOptions) :
    (search f id table options).Touches f own :=
  (Touches.of _).bind fun _ => (Touches.of _).bind fun _ =>
    (Schema.reads_table f id _).touches.bind fun _ => (Touches.of _).bind fun _ =>
      (noteFallback_quiet _).touches.bind fun _ => (Touches.of _).bind fun _ =>
        Store.asking_touches fun _ => (Touches.of _).bind fun _ => (Touches.of _).bind fun _ =>
          (Touches.of _).bind fun _ => .of (.ok _)

end Rows

/-- Stored tables are removed together with their record. -/
theorem RecordFolder.exec_removal (hs : w.files.Sound) (g : RecordFolder) (id : String) (level : Level)
    (source text : String) : ∃ entries, (dropFile (Store.place g.folder id) >>= fun _ =>
      g.delete id >>= fun _ => log level source text).exec w = (.ok (), {
        w with
        files := (w.files.drop (Store.place g.folder id)).drop (g.place id)
        log := entries }) := by
  have hdelete := g.exec_delete (w := { w with files := w.files.drop (Store.place g.folder id) })
    ((hs.drop _).ne_folder (g.place id))
  simp only [exec_bind, exec_dropFile (hs.ne_folder _), hdelete, exec_log]
  exact ⟨_, rfl⟩

theorem RecordFolder.removal_touches (g : RecordFolder) (id : String) (level : Level)
    (source text : String) :
    (dropFile (Store.place g.folder id) >>= fun _ => g.delete id >>= fun _ =>
      log level source text).Touches f (g.Owns id) := by
  intro w hs
  obtain ⟨entries, hexec⟩ := RecordFolder.exec_removal hs g id level source text
  rw [hexec]
  exact ((Files.Touched.refl ..).drop (g.owns_store id)).drop (g.owns_record id)

namespace Databases

theorem complete_touches (f : Folders) (id name : String) :
    (complete f id name).Touches f (f.records.Owns id) := by
  intro w hs
  have htable := Schema.addTable_touches f id (.text firstTable) hs
  simp only [complete, exec_bind, exec_tryCatch]
  rcases hadd : (Schema.addTable f id (.text firstTable)).exec w with ⟨e | t, w₁⟩
  all_goals rw [hadd] at htable
  · simp only [exec_discard ((htable.sound hs).ne_folder _) ((htable.sound hs).ne_folder _),
      exec_throw]
    exact (htable.drop (f.records.owns_record id)).drop (f.records.owns_store id)
  · simp only [exec_pure, exec_log]
    have hread : ∀ log, Files.Touched f (f.records.Owns id) w₁.files
        ((f.records.read id).exec { w₁ with log }).2.files :=
      fun log => (f.records.reads_read id).touches (w := { w₁ with log }) (htable.sound hs)
    exact htable.trans (hread _)

/-- A new database comes under an id by which nothing goes. -/
theorem create_touched (hs : w.files.Sound) (f : Folders) (given : Value) (description : String) :
    Files.Touched f (f.Vacant w.files) w.files
      ((create f given (.text description)).exec w).2.files := by
  rcases create_cases hs f given description with ⟨e, hexec⟩ |
    ⟨id, name, hstore, hrecord, hcan, hexec⟩
  · rw [hexec]
    exact .refl ..
  · rw [hexec]
    have hr : (firstRecord id name description w.time).Sound :=
      (newRecord_sound id name description w.time).at_version 1
    have hbegun : Files.Touched f (f.records.Owns id) w.files
        (begun f id name description w).files :=
      ((Files.Touched.refl ..).put_tables fun _ => Database.regular_nil).put_record hr hcan.1 rfl
    -- The id is new, so the places that it owns had been free.
    exact (hbegun.trans (complete_touches f id name (hbegun.sound hs))).mono fun p hp =>
      ⟨f.records, id, .inl rfl, ⟨hstore, hrecord⟩, hp⟩

/-- A database is moved to an id by which nothing goes. -/
theorem rename_touched (hs : w.files.Sound) (f : Folders) (id : String) (given : Value) :
    Files.Touched f (fun p => f.records.Owns id p ∨ f.Vacant w.files p) w.files
      ((rename f id given).exec w).2.files := by
  rcases rename_ends hs f id given with ⟨e, hexec⟩ | ⟨name, -, hends⟩
  · rw [hexec]
    exact .refl ..
  generalize (rename f id given).exec w = result at hends ⊢
  have hvacant : ∀ {r db p}, Movable f id (Name.databaseId name w.time) r db w.files →
      f.records.Owns (Name.databaseId name w.time) p → f.Vacant w.files p :=
    fun movable hp => ⟨f.records, _, .inl rfl, ⟨movable.free, movable.unrecorded⟩, hp⟩
  have hmoved : ∀ {r db}, Movable f id (Name.databaseId name w.time) r db w.files →
      Files.Touched f (fun p => f.records.Owns id p ∨ f.Vacant w.files p) w.files
        (w.files.move (Store.place f.data id) (Store.place f.data (Name.databaseId name w.time))) :=
    fun movable => (Files.Touched.refl ..).move (.inl (f.records.owns_store id))
      (.inr (hvacant movable (f.records.owns_store _))) (f.has_records (f.records.owns_store _)) hs
  cases hends with
  | refused => exact .refl ..
  | @moved r db log new movable record writable =>
    have hsound : new.Sound := record ▸ (movable.stores.sound.relabel (Json.isPlain_text _)
      (Json.isPlain_text name) (Json.isPlain_text _)).at_version (r.version + 1)
    exact ((hmoved movable).put (.inr (hvacant movable (f.records.owns_record _)))
      (f.has_records (f.records.owns_record _)) (.record f.records _ hsound writable (by rw [record]; rfl))
        (fun _ _ hfile => nomatch hfile)).drop (.inl (f.records.owns_record id))
  | back movable =>
    exact (hmoved movable).move (.inr (hvacant movable (f.records.owns_store _)))
      (.inl (f.records.owns_store id)) (f.has_records (f.records.owns_store id)) hs.move
  | stuck movable => exact hmoved movable

theorem setVisibility_touches (f : Folders) (id : String) (hidden : Bool) :
    (setVisibility f id hidden).Touches f (· = f.records.place id) := by
  refine (Store.reads_existing f id).touches.bind fun _ => ?_
  intro w hs
  rcases f.records.read_cases hs id with ⟨found, hstores, hread⟩ | ⟨-, hread⟩
  swap
  · simp only [exec_bind, hread]
    exact .refl ..
  simp only [exec_bind, hread, exec_stamp]
  rcases hstores.swap_cases (r := { found with
      hidden
      modifiedAt := .text (String.ofList (Calendar.momentText w.time)) }) hstores.own with
    ⟨faults, -, hcan, hswap⟩ | ⟨-, e, faults, -, -, hswap⟩
  · rw [hswap]
    exact (Files.Touched.refl ..).put_record
      (Schema.replacement_sound _ (hstores.sound.shown hidden) w.time) hcan.1 hstores.own rfl
  · rw [hswap]
    exact .refl ..

theorem delete_touches (f : Folders) (id : String) :
    (delete f id).Touches f (f.records.Owns id) := by
  refine (Touches.of_same fun _ _ => rfl).bind fun _ => (Touches.of_same fun _ _ => rfl).bind fun _ => ?_
  split
  · exact .of (.error _)
  · exact f.records.removal_touches id _ _ _

end Databases

namespace Backups

/-- A copy comes under an id by which nothing goes. -/
theorem Copies.touched {source target : RecordFolder} {name : String} {r : Record} {db : Database}
    (h : Copies source target id name r db w) (htarget : target = f.records ∨ target = f.backupRecords) :
    Files.Touched f (f.Vacant w.files) w.files (copied target name r db w) := by
  have hvacant : ∀ {p}, target.Owns name p → f.Vacant w.files p := fun hp =>
    ⟨target, name, htarget, ⟨h.free, h.unrecorded⟩, hp⟩
  have hhas : ∀ {p}, target.Owns name p → f.Has p := fun hp => ⟨target, name, htarget, hp⟩
  have htables : Files.Touched f (f.Vacant w.files) w.files
      (w.files.put (Store.place target.folder name) (.database db)) :=
    (Files.Touched.refl ..).put (hvacant (target.owns_store name)) (hhas (target.owns_store name))
      (.tables ..) fun hr _ hfile => File.database.inj hfile ▸ hr.of_get? h.tables
  exact htables.put (hvacant (target.owns_record name)) (hhas (target.owns_record name))
    (.record target name (recordOf_sound h.stores.sound name w.time) h.writable rfl)
    fun _ _ hfile => nomatch hfile

theorem create_touched (hs : w.files.Sound) (f : Folders) (id : String) :
    Files.Touched f (f.Vacant w.files) w.files ((create f id).exec w).2.files := by
  rcases create_cases hs f id with ⟨e, hexec⟩ | ⟨r, db, log, hcopies, hexec⟩
  · rw [hexec]
    exact .refl ..
  · rw [hexec]
    exact hcopies.touched (.inr rfl)

theorem restore_touched (hs : w.files.Sound) (f : Folders) (name : String) :
    Files.Touched f (f.Vacant w.files) w.files ((restore f name).exec w).2.files := by
  rcases restore_cases hs f name with ⟨e, hexec⟩ | ⟨r, db, log, hcopies, hexec⟩
  · rw [hexec]
    exact .refl ..
  · rw [hexec]
    exact hcopies.touched (.inl rfl)

theorem delete_touches (f : Folders) (name : String) :
    (delete f name).Touches f (f.backupRecords.Owns name) := by
  intro w hs
  rw [delete, exec_bind, exec_existing]
  cases w.files.has (Store.place f.backup name) with
  | false => exact .refl ..
  | true => exact f.backupRecords.removal_touches name _ _ _ hs

end Backups

namespace Request

/-- The places of what a request is about: it may change what is there. -/
def Owns (f : Folders) : Request → Place → Prop
  | renameDatabase id _ => f.records.Owns id
  | setDatabaseVisibility id _ => f.records.Owns id
  | deleteDatabase id => f.records.Owns id
  | schema id _ => f.records.Owns id
  | createRow id _ _ => f.records.Owns id
  | updateRow id _ _ _ => f.records.Owns id
  | setRowVisibility id _ _ _ => f.records.Owns id
  | deleteRow id _ _ => f.records.Owns id
  | deleteBackup name => f.backupRecords.Owns name
  | _ => fun _ => False

/-- A request touches what it is about, and ids by which nothing goes. -/
theorem touched (hs : w.files.Sound) (f : Folders) (q : Request) :
    Files.Touched f (fun p => q.Owns f p ∨ f.Vacant w.files p) w.files ((q.run f).exec w).2.files := by
  have hsilent : ∀ {α : Type} (op : Operation α), (op.silent.exec w).2 = (op.exec w).2 :=
    fun op => by rw [exec_silent]
  -- A request reads, or it changes what it is about, or it makes something new.
  have hreads : ∀ {α : Type} {op : Operation α}, (op.Touches f fun _ => False) →
      Files.Touched f (fun p => q.Owns f p ∨ f.Vacant w.files p) w.files (op.exec w).2.files :=
    fun h => (h hs).mono fun _ hp => hp.elim
  have howned : ∀ {α : Type} {op : Operation α}, op.Touches f (q.Owns f) →
      Files.Touched f (fun p => q.Owns f p ∨ f.Vacant w.files p) w.files (op.exec w).2.files :=
    fun h => (h hs).mono fun _ hp => .inl hp
  have hnew : ∀ {files : Files}, Files.Touched f (f.Vacant w.files) w.files files →
      Files.Touched f (fun p => q.Owns f p ∨ f.Vacant w.files p) w.files files :=
    fun h => h.mono fun _ hp => .inr hp
  cases q with
  | createDatabase name description =>
    exact (hsilent _).symm ▸ hnew (Databases.create_touched hs f name description)
  | listDatabases includeHidden =>
    refine (hsilent _).symm ▸ hreads ?_
    exact (Touches.of_same fun _ _ => rfl).bind fun _ =>
      (Touches.mapM (fun id => (f.records.reads_read id).touches) _).bind fun _ => .of (.ok _)
  | getDatabase id =>
    refine (hsilent _).symm ▸ hreads ?_
    exact (Store.reads_existing f id).touches.bind fun _ => (f.records.reads_read id).touches
  | renameDatabase id name => exact (hsilent _).symm ▸ Databases.rename_touched hs f id name
  | setDatabaseVisibility id hidden =>
    exact (hsilent _).symm ▸ howned ((Databases.setVisibility_touches f id hidden).mono fun _ hp => .inr hp)
  | deleteDatabase id => exact howned (Databases.delete_touches f id)
  | listTables id =>
    exact (hsilent _).symm ▸ hreads ((f.records.reads_read id).touches.bind fun _ => .of (.ok _))
  | getTable id table => exact (hsilent _).symm ▸ hreads (Schema.reads_table f id table).touches
  | checkTable id table =>
    refine (hsilent _).symm ▸ hreads ?_
    refine (Schema.reads_table f id _).touches.bind fun t => Store.asking_touches fun stored =>
      (Touches.of _).bind fun there => ?_
    split
    · exact (Touches.of _).bind fun _ => .of (.ok _)
    · exact .of (.ok _)
  | listColumns id table =>
    exact (hsilent _).symm ▸ hreads ((Schema.reads_table f id table).touches.bind fun _ => .of (.ok _))
  | getColumn id table column =>
    exact (hsilent _).symm ▸ hreads (Schema.reads_column f id table column).touches
  | schema id q => exact howned (q.run_mutation f id).touches
  | createRow id table data => exact (hsilent _).symm ▸ howned (Rows.create_touches f id table data)
  | getRow id table row => exact (hsilent _).symm ▸ hreads (Rows.get_touches f id table row)
  | updateRow id table row data =>
    exact (hsilent _).symm ▸ howned (Rows.update_touches f id table row data)
  | setRowVisibility id table row hidden =>
    exact (hsilent _).symm ▸ howned (Rows.setVisibility_touches f id table row hidden)
  | deleteRow id table row => exact howned (Rows.delete_touches f id table row)
  | searchRows id table options =>
    exact (hsilent _).symm ▸ hreads (Rows.search_touches f id table options)
  | createBackup id => exact (hsilent _).symm ▸ hnew (Backups.create_touched hs f id)
  | listBackups =>
    exact (hsilent _).symm ▸ hreads ((Touches.of_same fun _ _ => rfl).bind fun _ => .of (.ok _))
  | restoreBackup name => exact (hsilent _).symm ▸ hnew (Backups.restore_touched hs f name)
  | deleteBackup name => exact howned (Backups.delete_touches f name)

/-- What is there stays there, unless the request is about it. -/
theorem stays (hs : w.files.Sound) (f : Folders) (q : Request) {p : Place} {file : File}
    (hp : w.files.get? p = some file) (hown : ¬q.Owns f p) :
    ((q.run f).exec w).2.files.get? p = some file := by
  rw [(q.touched hs f).others p, hp]
  rintro (hp' | hvacant)
  · exact hown hp'
  · exact nomatch hp.symm.trans hvacant.get?_eq_none

end Request

/-- Whatever a run does, all stored tables are such as the library makes. -/
theorem Reachable.regular {agreed : Bool} (h : Reachable f agreed w) : w.files.Regular := by
  induction h with
  | start => exact fun _ _ he => nomatch he
  | request h q ih => exact (q.touched h.good.sound f).regular ih
  | wait _ _ ih => exact ih
  | inject _ _ ih => exact ih

end Cabinet

import Cabinet.Proofs.Run.Copies

/-!
What is asked of one database is done to that database alone: all other databases and all backups stay
as they are, and what is new comes where nothing has been.
-/

namespace Cabinet

open Operation

variable {f : Folders} {agreed : Bool} {w w' : World} {g : RecordFolder} {id : String}
  {files files' files'' : Files}

namespace RecordFolder

/-- What goes by an id is what it was: its stored tables, and its record. -/
structure Unchanged (g : RecordFolder) (id : String) (files files' : Files) : Prop where
  tables : files'.get? (Store.place g.folder id) = files.get? (Store.place g.folder id)
  record : files'.get? (g.place id) = files.get? (g.place id)

theorem Unchanged.trans (h : g.Unchanged id files files') (h' : g.Unchanged id files' files'') :
    g.Unchanged id files files'' :=
  ⟨h'.tables.trans h.tables, h'.record.trans h.record⟩

theorem Unchanged.vacant_iff (h : g.Unchanged id files files') :
    g.Vacant id files' ↔ g.Vacant id files := by
  constructor
  · intro hvacant
    exact ⟨h.tables.symm.trans hvacant.tables, h.record.symm.trans hvacant.record⟩
  · intro hvacant
    exact ⟨h.tables.trans hvacant.tables, h.record.trans hvacant.record⟩

/-- A place of an id by which nothing goes tells that nothing goes by this id. -/
theorem Owns.vacant {p : Place} (hp : g.Owns id p) (h : f.Vacant files p) : g.Vacant id files := by
  obtain ⟨g', id', -, hvacant, hp'⟩ := h
  obtain ⟨hfolder, rfl⟩ := hp.unique hp'
  have hplace : g.place id = g'.place id := by rw [place, place, hfolder]
  exact ⟨hfolder ▸ hvacant.tables, hplace ▸ hvacant.record⟩

end RecordFolder

namespace Request

/-- The database that a request is addressed to. -/
def database? : Request → Option String
  | createDatabase _ _ => none
  | listDatabases _ => none
  | getDatabase id => some id
  | renameDatabase id _ => some id
  | setDatabaseVisibility id _ => some id
  | deleteDatabase id => some id
  | listTables id => some id
  | getTable id _ => some id
  | checkTable id _ => some id
  | listColumns id _ => some id
  | getColumn id _ _ => some id
  | schema id _ => some id
  | createRow id _ _ => some id
  | getRow id _ _ => some id
  | updateRow id _ _ _ => some id
  | setRowVisibility id _ _ _ => some id
  | deleteRow id _ _ => some id
  | searchRows id _ _ => some id
  | createBackup id => some id
  | listBackups => none
  | restoreBackup _ => none
  | deleteBackup _ => none

/-- A request that may change what goes by an id: it is addressed to this database, or it removes this
backup. -/
def Concerns (f : Folders) (g : RecordFolder) (id : String) (q : Request) : Prop :=
  (g.folder = f.data ∧ q.database? = some id) ∨ (g.folder = f.backup ∧ q = .deleteBackup id)

/-- What a request is about goes by the id that it concerns. -/
theorem Owns.concerns {q : Request} {p : Place} (h : q.Owns f p) (hp : g.Owns id p) :
    q.Concerns f g id := by
  have haddressed : ∀ {d}, f.records.Owns d p → q.database? = some d → q.Concerns f g id := by
    intro d hd hq
    obtain ⟨hfolder, rfl⟩ := hp.unique hd
    exact .inl ⟨hfolder, hq⟩
  cases q with
  | renameDatabase d _ | setDatabaseVisibility d _ | deleteDatabase d | schema d _
  | createRow d _ _ | updateRow d _ _ _ | setRowVisibility d _ _ _ | deleteRow d _ _ =>
    exact haddressed h rfl
  | deleteBackup name =>
    have hbackup : f.backupRecords.Owns name p := h
    obtain ⟨hfolder, rfl⟩ := hp.unique hbackup
    exact .inr ⟨hfolder, rfl⟩
  | _ => exact h.elim

/-- What there is by an id stays as it is under every request that does not concern it. -/
theorem unchanged (hs : w.files.Sound) {q : Request} (hq : ¬q.Concerns f g id)
    (hthere : ¬g.Vacant id w.files) : g.Unchanged id w.files ((q.run f).exec w).2.files := by
  have hothers : ∀ p, g.Owns id p → ¬(q.Owns f p ∨ f.Vacant w.files p) := by
    rintro p hp (hown | hvacant)
    · exact hq (Owns.concerns hown hp)
    · exact hthere (hp.vacant hvacant)
  have htouched := q.touched hs f
  exact ⟨htouched.others _ (hothers _ (g.owns_store id)),
    htouched.others _ (hothers _ (g.owns_record id))⟩

end Request

/-- It stays as it is through a whole run of such requests, while faults come and go. -/
theorem Onward.unchanged (h : Onward f (fun q => ¬q.Concerns f g id) w w') (hs : w.files.Sound)
    (hthere : ¬g.Vacant id w.files) : w'.files.Sound ∧ g.Unchanged id w.files w'.files := by
  induction h with
  | refl => exact ⟨hs, rfl, rfl⟩
  | request _ q hq ih =>
    obtain ⟨hs', hsame⟩ := ih
    have hthere' := mt hsame.vacant_iff.mp hthere
    exact ⟨(q.touched hs' f).sound hs', hsame.trans (Request.unchanged hs' hq hthere')⟩
  | wait _ _ ih => exact ih
  | inject _ _ ih => exact ih

/-- Making a database leaves all files as they are. -/
theorem Databases.create_stays (hs : w.files.Sound) (f : Folders) (given : Value) (description : String)
    {p : Place} {file : File} (hp : w.files.get? p = some file) :
    ((create f given (.text description)).exec w).2.files.get? p = some file := by
  refine ((create_touched hs f given description).others p ?_).trans hp
  intro hvacant
  exact nomatch hp.symm.trans hvacant.get?_eq_none

/-- Renaming a database leaves all files as they are that are not its own. -/
theorem Databases.rename_stays (hs : w.files.Sound) (f : Folders) (given : Value) {p : Place}
    {file : File} (hp : w.files.get? p = some file) (hown : ¬f.records.Owns id p) :
    ((rename f id given).exec w).2.files.get? p = some file := by
  refine ((rename_touched hs f id given).others p ?_).trans hp
  rintro (hp' | hvacant)
  · exact hown hp'
  · exact nomatch hp.symm.trans hvacant.get?_eq_none

/-- A request that is addressed to a database leaves the record and the stored tables of every other one
as they are, and no request changes a backup but the one that removes it, whether they succeed or fail,
and whatever faults there are. Databases and backups are made, renamed and restored without any file
being overwritten or removed, but for the two of the database that is renamed. What is there through a
run of requests that do not concern it is there unchanged at the end. -/
theorem Reachable.databases_isolated (h : Reachable f agreed w) :
    (∀ (q : Request) d, q.database? = some d → ∀ e, e ≠ d → ¬f.records.Vacant e w.files →
      f.records.Unchanged e w.files ((q.run f).exec w).2.files) ∧
    (∀ (q : Request) name, q ≠ .deleteBackup name → (f.backup = f.data → q.database? ≠ some name) →
      ¬f.backupRecords.Vacant name w.files →
      f.backupRecords.Unchanged name w.files ((q.run f).exec w).2.files) ∧
    (∀ p file, w.files.get? p = some file →
      (∀ given description,
        ((Databases.create f given (.text description)).exec w).2.files.get? p = some file) ∧
      (∀ id given, ¬f.records.Owns id p →
        ((Databases.rename f id given).exec w).2.files.get? p = some file) ∧
      (∀ id, ((Backups.create f id).exec w).2.files.get? p = some file) ∧
      ∀ name, ((Backups.restore f name).exec w).2.files.get? p = some file) ∧
    ∀ g id w', Onward f (fun q => ¬q.Concerns f g id) w w' → ¬g.Vacant id w.files →
      g.Unchanged id w.files w'.files := by
  have hs := h.good.sound
  refine ⟨fun q d hd e hne => Request.unchanged hs ?_, fun q name hq hdata => Request.unchanged hs ?_,
    fun p file hp => ?_, fun g id w' honward hthere => (honward.unchanged hs hthere).2⟩
  · rintro (⟨-, hd'⟩ | ⟨-, rfl⟩)
    · exact hne (Option.some.inj (hd'.symm.trans hd))
    · exact nomatch hd
  · rintro (⟨hfolder, hd⟩ | ⟨-, hq'⟩)
    · exact hdata hfolder hd
    · exact hq hq'
  · exact ⟨fun given description => Databases.create_stays hs f given description hp,
      fun id given hown => Databases.rename_stays hs f given hp hown,
      fun id => Backups.create_stays hs f id hp, fun name => Backups.restore_stays hs f name hp⟩

/-- A workspace with two databases, one of them backed up. -/
def World.neighbours : Folders.Sample ⟨"data", "backup"⟩ fun w =>
    (w.files.has (Store.place "data" "b_0") && w.files.has (Store.place "backup" "backup_a_0")) = true :=
  Request.sample _ [.createDatabase (.text "a") "", .createDatabase (.text "b") "", .createBackup "a_0"]
    (by decide +kernel)

/-- One of them cannot be renamed and gets stuck, and the other one and the backup are what they were. -/
theorem Reachable.neighbours_kept :
    ∃ db copy w', World.neighbours.val.files.get? (Store.place "data" "b_0") = some db ∧
      World.neighbours.val.files.get? (Store.place "backup" "backup_a_0") = some copy ∧
      (((Request.renameDatabase "a_0" (.text "c")).run ⟨"data", "backup"⟩).exec
        { World.neighbours.val with faults := { rename := some .blocked } }).2 = w' ∧
      w'.files.get? (Store.place "data" "b_0") = some db ∧
      w'.files.get? (Store.place "backup" "backup_a_0") = some copy := by
  obtain ⟨w, hreach, hthere⟩ := World.neighbours
  rw [Bool.and_eq_true, Files.has_eq, Files.has_eq] at hthere
  obtain ⟨db, hdb⟩ := Option.isSome_iff_exists.mp hthere.1
  obtain ⟨copy, hcopy⟩ := Option.isSome_iff_exists.mp hthere.2
  obtain ⟨hdatabases, hbackups, -⟩ :=
    (hreach.inject { rename := some .blocked }).databases_isolated
  have hb := hdatabases (.renameDatabase "a_0" (.text "c")) "a_0" rfl "b_0" (by decide)
    fun hvacant => nomatch hdb.symm.trans hvacant.tables
  have hkept := hbackups (.renameDatabase "a_0" (.text "c")) "backup_a_0" (by simp) (by decide)
    fun hvacant => nomatch hcopy.symm.trans hvacant.tables
  exact ⟨db, copy, _, hdb, hcopy, rfl, hb.tables.trans hdb, hkept.tables.trans hcopy⟩

end Cabinet

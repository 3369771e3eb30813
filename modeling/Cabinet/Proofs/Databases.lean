import Cabinet.Databases
import Cabinet.Proofs.Schema.Kept

/-!
Databases are made, renamed and removed together with their records.
-/

namespace Cabinet

open Operation Storage

/-- Stored tables are removed together with their record. -/
theorem RecordFolder.removal_keeps {α : Type} {b : Bond} {f : Folders} (g : RecordFolder) (id : String)
    {next : Operation α} (hn : next.Keeps b f) :
    (dropFile (Store.place g.folder id) >>= fun _ => g.delete id >>= fun _ => next).Keeps b f := by
  intro agreed w hw
  have hdelete := g.exec_delete (w := { w with files := w.files.drop (Store.place g.folder id) })
    ((hw.sound.drop _).ne_folder (g.place id))
  simp only [exec_bind, exec_dropFile (hw.sound.ne_folder _), hdelete]
  refine hn (hw.remove g id fun p => ?_)
  rw [Files.get?_drop, Files.get?_drop]
  split <;> simp_all

/-- Stored tables and their record go to another id, under which there is nothing. -/
theorem World.Good.move {b : Bond} {f : Folders} {agreed : Bool} {w w' : World} {id new : String}
    {r renamed : Record} {db : Database} (hw : Good b f agreed w)
    (hdb : w.files.get? (Store.place f.data id) = some (.database db))
    (hr : f.records.Stores id r w.files) (hn : f.records.Stores new renamed w'.files)
    (ht : renamed.tables = r.tables) (hs : w'.files.Sound)
    (hstore : w'.files.get? (Store.place f.data new) = some (.database db))
    (hf : ∀ p, p ≠ Store.place f.data new → p ≠ f.records.place new → w'.files.get? p =
      ((w.files.drop (Store.place f.data id)).drop (f.records.place id)).get? p)
    (hbeside : w.Beside w' := by exact ⟨rfl, fun h => h⟩) : Good b f agreed w' := by
  have hgone : Good b f agreed
      { w with files := (w.files.drop (Store.place f.data id)).drop (f.records.place id) } :=
    hw.remove f.records id fun p => by
      simp only [Files.get?_drop, Folders.records_folder]
      split <;> simp_all
  refine hgone.update f.records new hs hf (fun hb => ?_) ⟨hbeside.time, hbeside.harmless⟩
  exact .inr ⟨renamed, db, hn, hstore, ht ▸ (hw.at (.inl rfl) id hb).holds hr hdb⟩

namespace Databases

variable {α : Type} {b : Bond} {f : Folders} {id : String} {w : World} {agreed : Bool}

theorem exec_discard (hrecord : w.files.get? (f.records.place id) ≠ some .folder)
    (hstore : w.files.get? (Store.place f.data id) ≠ some .folder) :
    (discard f id).exec w = (.ok (), {
      w with files := (w.files.drop (f.records.place id)).drop (Store.place f.data id) }) := by
  rw [discard, exec_bind, f.records.exec_delete hrecord]
  refine RecordFolder.exec_dropFile (w := { w with files := w.files.drop (f.records.place id) }) ?_
  rwa [Files.get?_drop, if_neg (f.records.place_ne f.data id id).symm]

/-- Nothing is left under an id after what there was of a database has been removed. -/
theorem get?_discarded (f : Folders) (id : String) (files : Files) (p : Place) :
    ((files.drop (f.records.place id)).drop (Store.place f.data id)).get? p =
      if p = Store.place f.data id ∨ p = f.records.place id then none else files.get? p := by
  rw [Files.get?_drop, Files.get?_drop]
  split <;> simp_all

theorem ensureFree_cases (f : Folders) (id : String) (w : World) :
    (w.files.get? (Store.place f.data id) = none ∧ w.files.get? (f.records.place id) = none ∧
      (ensureFree f id).exec w = (.ok (), w)) ∨
      (ensureFree f id).exec w = (.error (.databaseExists id), w) := by
  simp only [ensureFree, RecordFolder.has, exec_bind, exec_hasFile, Files.has_eq]
  cases hstore : w.files.get? (Store.place f.data id) with
  | some _ => exact .inr rfl
  | none =>
    cases hrecord : w.files.get? (f.records.place id) with
    | some _ => exact .inr rfl
    | none => exact .inl ⟨rfl, rfl, rfl⟩

theorem newRecord_sound (id name description : String) (time : Int) :
    (newRecord id name (.text (String.ofList (Calendar.momentText time))) (.text description)).Sound
    where
  plain := by simp [newRecord, Json.IsPlain]
  tags := by simp [newRecord]
  nodup := List.nodup_nil
  normal h := nomatch h
  tables h := nomatch h

/-- The record of a new database, as it is written. -/
def firstRecord (id name description : String) (time : Int) : Record :=
  { newRecord id name (.text (String.ofList (Calendar.momentText time))) (.text description) with
    version := 1 }

/-- The workspace in which a new database has its record, and no table yet. -/
def begun (f : Folders) (id name description : String) (w : World) : World :=
  f.records.written id (firstRecord id name description w.time)
    { w with files := w.files.put (Store.place f.data id) (.database {}) }

/-- What is left to do for a new database that has its record. -/
def complete (f : Folders) (id name : String) : Operation Record := do
  try
    let _ ← Schema.addTable f id (.text firstTable)
  catch e =>
    discard f id
    throw e
  log .info source ("Created database '" ++ id ++ "' (" ++ name ++ ")")
  f.records.read id

/-- A new database is refused, or it gets its record under an id by which nothing goes, and then its
first table. -/
theorem create_cases (hs : w.files.Sound) (f : Folders) (given : Value) (description : String) :
    (∃ e, (create f given (.text description)).exec w = (.error e, w)) ∨
      ∃ id name, w.files.get? (Store.place f.data id) = none ∧
        w.files.get? (f.records.place id) = none ∧
        RecordFolder.CanWrite (firstRecord id name description w.time) w.faults ∧
        (create f given (.text description)).exec w =
          (complete f id name).exec (begun f id name description w) := by
  cases hname : displayName none given with
  | error e => exact .inl ⟨e, by simp only [create, exec_bind, exec_of, hname]⟩
  | ok name =>
  generalize hid : Name.databaseId name w.time = id
  rcases ensureFree_cases f id w with ⟨hstore, hrecord, hfree⟩ | hfree
  swap
  · exact .inl ⟨.databaseExists id, by
      simp only [create, exec_bind, exec_of, hname, exec_now, hid, hfree]⟩
  have hsound : (w.files.put (Store.place f.data id) (.database {})).Sound := hs.put (.tables f.data id {})
  rcases f.records.create_cases (r := newRecord id name
      (.text (String.ofList (Calendar.momentText w.time))) (.text description)) rfl
      { w with files := w.files.put (Store.place f.data id) (.database {}) } with
    ⟨-, hcan, hcreate⟩ | ⟨e, -, hcreate⟩
  · refine .inr ⟨id, name, hstore, hrecord, hcan, ?_⟩
    simp only [create, exec_bind, exec_of, hname, exec_now, hid, hfree, exec_stamp, Store.connect,
      exec_file?, hstore, exec_putFile, exec_pure, exec_tryCatch, hcreate, complete]
    rfl
  · -- The file that was made for the tables goes again, and the record was not there before.
    have hdiscard := exec_discard (w := {
      w with files := w.files.put (Store.place f.data id) (.database {}) })
      (hsound.ne_folder (f.records.place id)) (hsound.ne_folder (Store.place f.data id))
    have hput : (w.files.put (Store.place f.data id) (.database {})).get? (f.records.place id) = none :=
      (Files.get?_put_of_ne (f.records.place_ne _ _ _) _ _).trans hrecord
    rw [Files.drop_of_get?_none hput, Files.drop_put, Files.drop_of_get?_none hstore] at hdiscard
    refine .inl ⟨e, ?_⟩
    simp only [create, exec_bind, exec_of, hname, exec_now, hid, hfree, exec_stamp, Store.connect,
      exec_file?, hstore, exec_putFile, exec_pure, exec_tryCatch, hcreate, hdiscard, exec_throw]

/-- A new database that has its record gets its first table, or nothing is left of it. -/
theorem complete_keeps (f : Folders) (id name : String) : (complete f id name).Keeps b f := by
  intro agreed w hw
  have htable := Schema.addTable_keeps f id (.text firstTable) hw
  simp only [complete, exec_bind, exec_tryCatch]
  rcases hadd : (Schema.addTable f id (.text firstTable)).exec w with ⟨e | t, w₁⟩
  all_goals rw [hadd] at htable
  · simp only [exec_discard (htable.sound.ne_folder _) (htable.sound.ne_folder _), exec_throw]
    exact htable.remove f.records id (get?_discarded f id w₁.files)
  · have hmade : World.Good b f agreed w₁ := by simpa [tells] using htable
    have hlogged := (Quiet.log (.info) source
      ("Created database '" ++ id ++ "' (" ++ name ++ ")")).keeps hmade
    simpa [tells] using (f.records.reads_read id).keeps hlogged

/-- A database is made with its record and its first table, or nothing is. -/
theorem create_keeps (f : Folders) (given : Value) (description : String) :
    (create f given (.text description)).Keeps b f := by
  intro agreed w hw
  rcases create_cases hw.sound f given description with ⟨e, hexec⟩ |
    ⟨id, name, -, -, hcan, hexec⟩
  · rw [hexec]
    exact hw.weaken _
  · rw [hexec]
    have hr : (firstRecord id name description w.time).Sound :=
      (newRecord_sound id name description w.time).at_version 1
    have hsound := hw.sound.put (.tables f.data id {})
    have hstores := f.records.written_stores hr hcan.1 rfl
      { w with files := w.files.put (Store.place f.data id) (.database {}) }
    refine complete_keeps f id name (hw.update f.records id ?_ (fun p hp hp' => ?_) fun _ =>
      .inr ⟨_, {}, hstores, ?_, Database.holds_nil⟩)
    · exact hsound.put (.record f.records id hr hcan.1 rfl)
    · exact (Files.get?_put_of_ne hp' _ _).trans (Files.get?_put_of_ne hp _ _)
    · exact (Files.get?_put_of_ne (f.records.place_ne _ _ _).symm _ _).trans (Files.get?_put_self _ _ _)

theorem get_keeps (f : Folders) (id : String) : (get f id).Keeps b f :=
  (Store.reads_existing f id).keeps.bind fun _ => (f.records.reads_read id).keeps

theorem list_keeps (f : Folders) (includeHidden : Bool) : (list f includeHidden).Keeps b f :=
  Keeps.world.bind fun _ => (Keeps.mapM (fun id => (f.records.reads_read id).keeps) _).bind fun _ =>
    .of (.ok _)

/-- The record of a database that has been given a new id and a new name. -/
def renamed (r : Record) (id name : String) (time : Int) : Record :=
  { r with
    id := .text id
    displayName := .text name
    modifiedAt := .text (String.ofList (Calendar.momentText time)) }

/-- A file is moved back, or it is told that it could not be. -/
theorem moveBack_cases (id : String) (source target : Place) (cause : Error) (w : World) :
    (¬w.faults.Harmless ∧ ∃ e entries, e.kind = .inconsistent ∧
      (moveBack id source target cause).exec w = (.error e, { w with log := entries })) ∨
      (moveBack id source target cause).exec w =
        (.ok (), { w with files := w.files.move source target }) := by
  simp only [moveBack, exec_bind, exec_faults]
  by_cases hblocked : w.faults.rename = some .blocked
  · simp only [if_pos hblocked, exec_bind, exec_log, exec_throw]
    exact .inl ⟨fun harmless => harmless.2 hblocked, _, _, rfl, rfl⟩
  · refine .inr ?_
    simp only [if_neg hblocked, exec_modifyFiles]

/-- A database that is there can be given a name: nothing goes by the new id. -/
structure Movable (f : Folders) (id new : String) (r : Record) (db : Database) (files : Files) :
    Prop where
  stores : f.records.Stores id r files
  tables : files.get? (Store.place f.data id) = some (.database db)
  free : files.get? (Store.place f.data new) = none
  unrecorded : files.get? (f.records.place new) = none

theorem Movable.ne {new : String} {r : Record} {db : Database} {files : Files}
    (h : Movable f id new r db files) : new ≠ id := by
  rintro rfl
  exact nomatch h.tables.symm.trans h.free

/-- How the renaming of a database can end: it is refused; or the database is moved with its record;
or its record cannot be moved and its file is moved back; or the file could not be moved back
either. -/
inductive Renaming (f : Folders) (id name : String) (w : World) : Except Error Record × World → Prop
  | refused {e : Error} : Renaming f id name w (.error e, w)
  | moved {r : Record} {db : Database} {log : List LogEntry} {new : Record}
    (movable : Movable f id (Name.databaseId name w.time) r db w.files)
    (record : new = { renamed r (Name.databaseId name w.time) name w.time with
      version := r.version + 1 })
    (writable : Json.isWritable new.toDocument = true) :
    Renaming f id name w (.ok new, {
      w with
      files := ((w.files.move (Store.place f.data id)
        (Store.place f.data (Name.databaseId name w.time))).put
          (f.records.place (Name.databaseId name w.time)) (.text new.write)).drop (f.records.place id)
      log })
  | back {e : Error} {r : Record} {db : Database} {log : List LogEntry}
    (movable : Movable f id (Name.databaseId name w.time) r db w.files) :
    Renaming f id name w (.error e, {
      w with
      files := (w.files.move (Store.place f.data id)
        (Store.place f.data (Name.databaseId name w.time))).move
          (Store.place f.data (Name.databaseId name w.time)) (Store.place f.data id)
      log })
  | stuck {e : Error} {r : Record} {db : Database} {log : List LogEntry}
    (movable : Movable f id (Name.databaseId name w.time) r db w.files)
    (inconsistent : e.kind = .inconsistent) (harmful : ¬w.faults.Harmless) :
    Renaming f id name w (.error e, {
      w with
      files := w.files.move (Store.place f.data id)
        (Store.place f.data (Name.databaseId name w.time))
      log })

theorem rename_ends (hs : w.files.Sound) (f : Folders) (id : String) (given : Value) :
    (∃ e, (rename f id given).exec w = (.error e, w)) ∨
      ∃ name, displayName (some id) given = .ok name ∧
        Renaming f id name w ((rename f id given).exec w) := by
  cases hname : displayName (some id) given with
  | error e => exact .inl ⟨e, by simp only [rename, exec_bind, exec_of, hname]⟩
  | ok name =>
  refine .inr ⟨name, rfl, ?_⟩
  simp only [rename, exec_bind, exec_of, hname, Store.exec_existing, Files.has_eq]
  cases hthere : w.files.get? (Store.place f.data id) with
  | none => exact .refused
  | some file =>
  obtain ⟨db, rfl⟩ := hs.database hthere
  rcases f.records.read_cases hs id with ⟨r, hstores, hread⟩ | ⟨-, hread⟩
  swap
  · simp only [Option.isSome_some, if_true, hread]
    exact .refused
  simp only [Option.isSome_some, if_true, hread, exec_now]
  rcases ensureFree_cases f (Name.databaseId name w.time) w with ⟨hstore, hrecord, hfree⟩ | hfree
  swap
  · simp only [hfree]
    exact .refused
  have hmovable : Movable f id (Name.databaseId name w.time) r db w.files :=
    ⟨hstores, hthere, hstore, hrecord⟩
  simp only [hfree, exec_modifyFiles, exec_stamp, exec_tryCatch]
  rcases f.records.rename_cases (w := {
      w with
      files := w.files.move (Store.place f.data id)
        (Store.place f.data (Name.databaseId name w.time)) })
      (r := renamed r (Name.databaseId name w.time) name w.time) rfl hmovable.ne hs.move with
    ⟨hcan, -, hrename⟩ | ⟨e, -, hrename⟩
  · simp only [renamed] at hrename
    simp only [exec_bind, hrename, exec_log]
    exact .moved hmovable rfl hcan.1
  · simp only [renamed] at hrename
    simp only [exec_bind, hrename]
    -- The record has not followed, so the file goes back where it was, if it can.
    rcases moveBack_cases id (Store.place f.data (Name.databaseId name w.time)) (Store.place f.data id) e {
        w with
        files := w.files.move (Store.place f.data id)
          (Store.place f.data (Name.databaseId name w.time)) } with
      ⟨hfaults, e', entries, hkind, hback⟩ | hback
    · simp only [hback]
      exact .stuck hmovable hkind hfaults
    · simp only [hback, exec_log, exec_throw]
      exact .back hmovable

/-- A file that is moved to a place where there is none is as it was after it has been moved back. -/
theorem get?_move_back {p q : Place} {file : File} {files : Files} (hp : files.get? p = some file)
    (hq : files.get? q = none) (place : Place) :
    ((files.move p q).move q p).get? place = files.get? place := by
  have hthere : (files.move p q).get? q = some file := (Files.get?_move hp q q).trans (if_pos rfl)
  rw [Files.get?_move hthere, Files.get?_move hp]
  split
  · next heq => rw [heq, hp]
  · split
    · next heq => rw [heq, hq]
    · rfl

/-- A database and its record go to another id together, or stay where they are. -/
theorem rename_keeps (f : Folders) (id : String) (given : Value) : (rename f id given).Keeps b f := by
  intro agreed w hw
  rcases rename_ends hw.sound f id given with ⟨e, hexec⟩ | ⟨name, -, hends⟩
  · rw [hexec]
    exact hw.weaken _
  generalize (rename f id given).exec w = result at hends ⊢
  -- Of the ways in which it ends only the one that is stuck leaves record and tables under
  -- different ids, and it tells of it.
  cases hends with
  | refused => exact hw.weaken _
  | @moved r db log new movable record writable =>
    have hsound : new.Sound := record ▸ (movable.stores.sound.relabel (Json.isPlain_text _)
      (Json.isPlain_text name) (Json.isPlain_text _)).at_version (r.version + 1)
    have hown : new.id = .text (Name.databaseId name w.time) := by rw [record]; rfl
    have htables : new.tables = r.tables := by rw [record]; rfl
    have hmoved := Files.get?_move movable.tables
      (Store.place f.data (Name.databaseId name w.time))
    have hapart : f.records.place (Name.databaseId name w.time) ≠ f.records.place id :=
      fun h => movable.ne (RecordFolder.place_injective h).2
    refine (hw.weaken _).move movable.tables movable.stores
      (show f.records.Stores _ new _ from ⟨?_, hsound, writable, hown⟩) htables
      ((hw.sound.move.put (.record f.records _ hsound writable hown)).drop _) ?_ fun p hp hp' => ?_
    · exact (Files.get?_drop ..).trans ((if_neg hapart).trans (Files.get?_put_self _ _ _))
    · have hplace := (f.records.place_ne f.data (Name.databaseId name w.time)
        (Name.databaseId name w.time)).symm
      have hplace' := (f.records.place_ne f.data id (Name.databaseId name w.time)).symm
      exact (Files.get?_drop ..).trans ((if_neg hplace').trans ((Files.get?_put_of_ne hplace _ _).trans
        ((hmoved _).trans (if_pos rfl))))
    · refine (Files.get?_drop ..).trans ?_
      rw [Files.get?_drop, Files.get?_drop]
      exact if_congr .rfl rfl ((Files.get?_put_of_ne hp' _ _).trans ((hmoved p).trans (if_neg hp)))
  | back movable => exact (hw.weaken _).congr (get?_move_back movable.tables movable.free)
  | stuck movable inconsistent harmful =>
    exact hw.parted (by simp [tells, inconsistent]) harmful ⟨rfl, fun h => h⟩ hw.sound.move

theorem setVisibility_keeps (f : Folders) (id : String) (hidden : Bool) :
    (setVisibility f id hidden).Keeps b f := by
  refine (Store.reads_existing f id).keeps.bind fun _ => ?_
  intro agreed w hw
  rcases f.records.read_cases hw.sound id with ⟨found, hstores, hread⟩ | ⟨-, hread⟩
  · simp only [exec_bind, hread, exec_stamp]
    rcases hstores.swap_cases (r := { found with
        hidden
        modifiedAt := .text (String.ofList (Calendar.momentText w.time)) }) hstores.own with
      ⟨faults, hcounted, hcan, hswap⟩ | ⟨-, e, faults, hleft, -, hswap⟩
    · rw [hswap]
      exact (hw.weaken _).rewrite hstores
        (Schema.replacement_sound _ (hstores.sound.shown hidden) w.time) hcan.1 hstores.own
        (fun _ hdb => hdb) (.inr hcounted)
    · rw [hswap]
      exact (hw.weaken _).congr (fun _ => rfl) (.of_leaves hleft _ _)
  · simp only [exec_bind, hread]
    exact hw.weaken _

theorem delete_keeps (f : Folders) (id : String) : (delete f id).Keeps b f := by
  refine Keeps.hasFile.bind fun _ => Keeps.hasFile.bind fun _ => ?_
  split
  · exact .of (.error _)
  · exact f.records.removal_keeps id (Quiet.log _ _ _).keeps

end Databases

end Cabinet

import Cabinet.Proofs.Run.Frame

/-!
Backups and what is restored from them: a copy is what was copied, whatever is done in between to
others, and copies of copies are named after the same database.
-/

namespace Cabinet

open Operation Storage

namespace Name

theorem dropBeginning?_append (beginning : String) (s : List Char) :
    dropBeginning? beginning (beginning.toList ++ s) = some s := by
  have hprefix : beginning.toList.isPrefixOf (beginning.toList ++ s) = true :=
    List.isPrefixOf_iff_prefix.mpr (List.prefix_append _ _)
  rw [dropBeginning?, if_pos hprefix, ← String.length_toList, List.drop_left]

/-- What the backups of a database are named after. -/
def backupBase (id : String) : List Char :=
  (withoutCopyPrefix id.toList).takeWhile (· != '_')

theorem toList_backup (id : String) (ms : Int) :
    (backup id ms).toList = backupPrefix.toList ++ (backupBase id ++ '_' :: Text.intText ms) := by
  have hline : "_".toList = ['_'] := rfl
  simp only [backup, backupBase, String.toList_append, String.toList_ofList, hline,
    List.append_assoc, List.singleton_append]

theorem toList_restored_backup (id : String) (ms : Int) :
    (restored (backup id ms)).toList =
      restoredPrefix.toList ++ (backupBase id ++ '_' :: Text.intText ms) := by
  rw [restored, toList_backup, dropBeginning?_append, String.toList_append, String.toList_ofList,
    Option.getD_some]

/-- What is restored from a backup is named after the same database. -/
theorem backupBase_restored (id : String) (ms : Int) :
    backupBase (restored (backup id ms)) = backupBase id := by
  have hplain : ∀ c ∈ backupBase id, (c != '_') = true := List.all_eq_true.mp List.all_takeWhile
  -- A restored id begins with `r`, and so not as a backup does.
  have hother : ∀ s, dropBeginning? backupPrefix (restoredPrefix.toList ++ s) = none := fun s => rfl
  rw [backupBase, toList_restored_backup, withoutCopyPrefix, hother, dropBeginning?_append,
    Option.none_or, Option.getD_some, List.takeWhile_append_of_pos hplain]
  simp

theorem backup_eq_of_base {id id' : String} (h : backupBase id = backupBase id') (ms : Int) :
    backup id ms = backup id' ms :=
  String.toList_injective (by rw [toList_backup, toList_backup, h])

/-- However often a database is backed up and restored, its backups have the same names. -/
theorem backup_cycles (times : List Int) (id : String) (ms : Int) :
    backup (times.foldl (fun id time => restored (backup id time)) id) ms = backup id ms := by
  induction times generalizing id with
  | nil => rfl
  -- What a name tells of an id is its base, and one cycle leaves the base alone.
  | cons time rest ih => exact (ih _).trans (backup_eq_of_base (backupBase_restored id time) ms)

end Name

/-- A request that is not about a backup. -/
def Request.Spares (f : Folders) (name : String) (q : Request) : Prop :=
  ∀ p, f.backupRecords.Owns name p → ¬q.Owns f p

/-- Where backups have a folder of their own, it is only its removal that is about a backup. -/
theorem Request.spares_iff {f : Folders} (hne : f.data ≠ f.backup) {name : String} {q : Request} :
    q.Spares f name ↔ q ≠ .deleteBackup name := by
  have hother : ∀ {id p}, f.backupRecords.Owns name p → ¬f.records.Owns id p :=
    fun hp hp' => hne (hp'.unique hp).1
  constructor
  · rintro hspares rfl
    exact hspares _ (f.backupRecords.owns_store name) (f.backupRecords.owns_store name)
  · intro hq p hp
    cases q with
    | deleteBackup name' =>
      intro hown
      exact hq (congrArg Request.deleteBackup (hown.unique hp).2)
    -- All other requests are about a database, or about nothing that is there.
    | _ => first | exact hother hp | exact id

/-- The workspaces that runs lead to from another one, with only some requests. -/
inductive Onward (f : Folders) (allowed : Request → Prop) (w : World) : World → Prop
  | refl : Onward f allowed w w
  | request {w' : World} (h : Onward f allowed w w') (q : Request) (hq : allowed q) :
    Onward f allowed w ((q.run f).exec w').2
  | wait {w' : World} (h : Onward f allowed w w') (time : Int) : Onward f allowed w { w' with time }
  | inject {w' : World} (h : Onward f allowed w w') (faults : Faults) :
    Onward f allowed w { w' with faults }

variable {f : Folders} {agreed : Bool} {w w' : World} {id name : String}

/-- What no request is about stays as it is. -/
theorem Onward.stays {allowed : Request → Prop} (h : Onward f allowed w w') (hs : w.files.Sound)
    {p : Place} {file : File} (hp : w.files.get? p = some file)
    (hown : ∀ q, allowed q → ¬q.Owns f p) :
    w'.files.Sound ∧ w'.files.get? p = some file := by
  induction h with
  | refl => exact ⟨hs, hp⟩
  | request _ q hq ih => exact ⟨(q.touched ih.1 f).sound ih.1, q.stays ih.1 f ih.2 (hown q hq)⟩
  | wait _ _ ih => exact ih
  | inject _ _ ih => exact ih

namespace Backups

variable {w₁ w₂ w₃ : World} {newId : String}

/-- What is restored is a copy of a copy: as long as no request is about the backup, it is still what
has been backed up. -/
theorem restore_copies (hs : w.files.Sound) (hcreate : (create f id).exec w = (.ok name, w₁))
    (hbetween : Onward f (Request.Spares f name) w₁ w₂)
    (hrestore : (restore f name).exec w₂ = (.ok newId, w₃)) :
    ∃ r db, Copies f.records f.backupRecords id name r db w ∧
      Copies f.backupRecords f.records name newId (recordOf r name w.time) db w₂ ∧
      w₃.files = copied f.records newId (recordOf r name w.time) db w₂ := by
  rcases create_cases hs f id with ⟨e, hfailed⟩ | ⟨r, db, log, hcopies, hdone⟩
  · cases (Prod.ext_iff.mp (hcreate.symm.trans hfailed)).1
  obtain ⟨⟨⟩, rfl⟩ := Prod.ext_iff.mp (hcreate.symm.trans hdone)
  -- Both files of the backup are what they were when it was made.
  have hstores := hcopies.copy_stores
  have htables := copied_tables f.backupRecords (Name.backup id w.time) r db w
  obtain ⟨hs₂, hfile⟩ := hbetween.stays (hcopies.sound hs) hstores.file
    fun q hq => hq _ (f.backupRecords.owns_record _)
  obtain ⟨-, htables₂⟩ := hbetween.stays (hcopies.sound hs) htables
    fun q hq => hq _ (f.backupRecords.owns_store _)
  have hstores₂ : f.backupRecords.Stores (Name.backup id w.time)
      (recordOf r (Name.backup id w.time) w.time) w₂.files :=
    ⟨hfile, hstores.sound, hstores.writable, hstores.own⟩
  rcases restore_cases hs₂ f (Name.backup id w.time) with
    ⟨e, hfailed⟩ | ⟨r', db', log', hcopies', hdone'⟩
  · cases (Prod.ext_iff.mp (hrestore.symm.trans hfailed)).1
  obtain ⟨⟨⟩, rfl⟩ := Prod.ext_iff.mp (hrestore.symm.trans hdone')
  obtain rfl := hcopies'.stores.unique (w := w₂) hstores₂
  obtain ⟨⟩ := Option.some.inj (hcopies'.tables.symm.trans htables₂)
  exact ⟨r, db, hcopies, hcopies', rfl⟩

/-- Backing up leaves all files as they are. -/
theorem create_stays (hs : w.files.Sound) (f : Folders) (id : String) {p : Place} {file : File}
    (hp : w.files.get? p = some file) : ((create f id).exec w).2.files.get? p = some file :=
  ((create_touched hs f id).others p fun hvacant => nomatch hp.symm.trans hvacant.get?_eq_none).trans hp

/-- Restoring leaves all files as they are. -/
theorem restore_stays (hs : w.files.Sound) (f : Folders) (name : String) {p : Place} {file : File}
    (hp : w.files.get? p = some file) : ((restore f name).exec w).2.files.get? p = some file :=
  ((restore_touched hs f name).others p fun hvacant => nomatch hp.symm.trans hvacant.get?_eq_none).trans hp

end Backups

/-- Backing up and restoring leave every file as it is, also where they fail. What is restored from a
backup has the tables that were backed up and their record, but for the id, the time and the version,
whatever has been done in between that is not about the backup. However often a database is backed up
and restored, its backups are named alike. -/
theorem Reachable.backup_restored (h : Reachable f agreed w) :
    (∀ {p file}, w.files.get? p = some file →
      (∀ id, ((Backups.create f id).exec w).2.files.get? p = some file) ∧
      ∀ name, ((Backups.restore f name).exec w).2.files.get? p = some file) ∧
    (∀ {id name newId w₁ w₂ w₃}, (Backups.create f id).exec w = (.ok name, w₁) →
      Onward f (Request.Spares f name) w₁ w₂ →
      (Backups.restore f name).exec w₂ = (.ok newId, w₃) →
      ∃ r db, (f.records.read id).exec w = (.ok r, w) ∧
        w.files.get? (Store.place f.data id) = some (.database db) ∧
        w₂.files.get? (Store.place f.data newId) = none ∧
        w₃.files.get? (Store.place f.data newId) = some (.database db) ∧
        (f.records.read newId).exec w₃ = (.ok { r with
          id := .text newId
          modifiedAt := .text (String.ofList (Calendar.momentText w₂.time))
          version := 1 }, w₃) ∧
        ∀ p file, w₂.files.get? p = some file → w₃.files.get? p = some file) ∧
    (∀ id t t', Name.backup (Name.restored (Name.backup id t)) t' = Name.backup id t') ∧
    ∀ id (times : List Int) t,
      Name.backup (times.foldl (fun id time => Name.restored (Name.backup id time)) id) t =
        Name.backup id t := by
  have hs := h.good.sound
  refine ⟨fun {p file} hp => ?_, fun {id name newId w₁ w₂ w₃} hcreate hbetween hrestore => ?_,
    fun id t t' => Name.backup_cycles [t] id t', fun id times t => Name.backup_cycles times id t⟩
  · exact ⟨fun id => Backups.create_stays hs f id hp, fun name => Backups.restore_stays hs f name hp⟩
  · obtain ⟨r, db, hcopies, hcopies', hfiles⟩ :=
      Backups.restore_copies hs hcreate hbetween hrestore
    -- What is restored is what was backed up, as the backup is still there after what was done in
    -- between.
    have hstores := hfiles ▸ hcopies'.copy_stores
    refine ⟨r, db, hcopies.stores.read, hcopies.tables, hcopies'.free, ?_, hstores.read, ?_⟩
    · rw [hfiles]
      exact Backups.copied_tables f.records newId _ db w₂
    · intro p file hp
      rw [hfiles]
      exact hcopies'.stays hp

/-- A workspace with a database that can be backed up, and restored after it has been removed. -/
def World.restorable : Folders.Sample ⟨"data", "backup"⟩ fun w =>
    ((Backups.create ⟨"data", "backup"⟩ "a_0").exec w).1.toOption = some "backup_a_0" ∧
      ((Backups.restore ⟨"data", "backup"⟩ "backup_a_0").exec
        (((Request.deleteDatabase "a_0").run ⟨"data", "backup"⟩).exec
          ((Backups.create ⟨"data", "backup"⟩ "a_0").exec w).2).2).1.isOk = true :=
  Request.sample _ Request.priced (by decide +kernel)

/-- The database is restored after it has been removed. -/
theorem Reachable.removed_database_restored :
    ∃ w₁ newId w₃ db,
      (Backups.create ⟨"data", "backup"⟩ "a_0").exec World.restorable.val =
        (.ok "backup_a_0", w₁) ∧
      (Backups.restore ⟨"data", "backup"⟩ "backup_a_0").exec
        (((Request.deleteDatabase "a_0").run ⟨"data", "backup"⟩).exec w₁).2 = (.ok newId, w₃) ∧
      World.restorable.val.files.get? (Store.place "data" "a_0") = some (.database db) ∧
      w₃.files.get? (Store.place "data" newId) = some (.database db) := by
  obtain ⟨hreach, hmade, hok⟩ := World.restorable.property
  generalize World.restorable.val = w at hreach hmade hok ⊢
  obtain ⟨-, hrestored, -⟩ := hreach.backup_restored
  rcases hcreate : (Backups.create ⟨"data", "backup"⟩ "a_0").exec w with ⟨result, w₁⟩
  rw [hcreate] at hmade hok
  obtain rfl := eq_ok_of_toOption hmade
  have hspares : (Request.deleteDatabase "a_0").Spares ⟨"data", "backup"⟩ "backup_a_0" :=
    (Request.spares_iff (by decide)).mpr (by simp)
  rcases hrestore : (Backups.restore ⟨"data", "backup"⟩ "backup_a_0").exec
      (((Request.deleteDatabase "a_0").run ⟨"data", "backup"⟩).exec w₁).2 with ⟨e | newId, w₃⟩
  · simp [hrestore, Except.isOk, Except.toBool] at hok
  obtain ⟨r, db, -, hdb, -, hdb₃, -⟩ :=
    hrestored hcreate (.request .refl (.deleteDatabase "a_0") hspares) hrestore
  exact ⟨w₁, newId, w₃, db, rfl, hrestore, hdb, hdb₃⟩

end Cabinet

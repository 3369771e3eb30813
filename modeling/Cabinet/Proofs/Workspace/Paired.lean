import Cabinet.Proofs.Storage.Database
import Cabinet.Proofs.Workspace.Reading

/-!
Workspaces in which databases and records come in pairs, and operations that keep them so.
-/

namespace Cabinet

open Operation

/-- What binds stored tables to the tables of a record: a relation that lasts through all that is
done at some times; and whether the faults are kept away that could part them. -/
structure Bond where
  relation : Storage.Sheet → Table → Prop
  times : Int → Prop
  lasting : Storage.Sheet.Lasting relation times
  safe : Bool

/-- Under an id there is neither a record nor stored tables, or there are both and they are bound to
each other. -/
def RecordFolder.Paired (g : RecordFolder) (b : Bond) (id : String) (files : Files) : Prop :=
  (files.get? (Store.place g.folder id) = none ∧ files.get? (g.place id) = none) ∨
    ∃ r db, g.Stores id r files ∧ files.get? (Store.place g.folder id) = some (.database db) ∧
      db.Holds r.tables b.relation

/-- Databases and backups are paired with their records. -/
def Folders.Paired (f : Folders) (b : Bond) (files : Files) : Prop :=
  ∀ id, f.records.Paired b id files ∧ f.backupRecords.Paired b id files

/-- Faults that do not keep a record from being put back, or a file from being moved back. -/
def Faults.Harmless (faults : Faults) : Prop :=
  faults.commit = false ∧ faults.rename ≠ some .blocked

/-- A workspace whose files the library has made; and as long as no inconsistency has been told of,
databases are paired with their records. -/
structure World.Good (b : Bond) (f : Folders) (agreed : Bool) (w : World) : Prop where
  sound : w.files.Sound
  paired : agreed = true → f.Paired b w.files
  time : b.times w.time
  harmless : b.safe = true → w.faults.Harmless

/-- Whether an answer tells of an inconsistency. -/
def tells {α : Type} : Except Error α → Bool
  | .error e => e.kind == .inconsistent
  | .ok _ => false

/-- An operation that keeps workspaces good; what it tells of as an inconsistency need not be paired
any more, unless the faults are kept away that lead to it. -/
def Operation.Keeps {α : Type} (b : Bond) (f : Folders) (op : Operation α) : Prop :=
  ∀ ⦃agreed w⦄, World.Good b f agreed w →
    World.Good b f (agreed && (b.safe || !tells (op.exec w).1)) (op.exec w).2

/-- A workspace at the same time as another, where the faults have become no worse. -/
structure World.Beside (w w' : World) : Prop where
  time : w'.time = w.time
  harmless : w.faults.Harmless → w'.faults.Harmless

theorem World.Beside.of_leaves {g : RecordFolder} {w : World} {faults : Faults}
    (h : g.Leaves w.faults faults) (files : Files) (log : List LogEntry) :
    w.Beside { w with files, faults, log } :=
  ⟨rfl, fun hw => by rw [h.eq]; exact hw⟩

theorem World.Beside.of_harmful {w : World} (h : ¬w.faults.Harmless) (files : Files) (faults : Faults)
    (log : List LogEntry) : w.Beside { w with files, faults, log } :=
  ⟨rfl, fun hw => absurd hw h⟩

namespace RecordFolder

variable {b : Bond} {g g' : RecordFolder} {id : String} {files files' : Files} {r r' : Record}
  {db : Storage.Database}

theorem Stores.congr (h : g.Stores id r files)
    (hf : files'.get? (g'.place id) = files.get? (g.place id)) : g'.Stores id r files' :=
  ⟨hf.trans h.file, h.sound, h.writable, h.own⟩

theorem Paired.congr (h : g.Paired b id files)
    (hs : files'.get? (Store.place g'.folder id) = files.get? (Store.place g.folder id))
    (hr : files'.get? (g'.place id) = files.get? (g.place id)) : g'.Paired b id files' := by
  rcases h with ⟨hstore, hrecord⟩ | ⟨r, db, hstores, hdb, hholds⟩
  · exact .inl ⟨hs.trans hstore, hr.trans hrecord⟩
  · exact .inr ⟨r, db, hstores.congr hr, hs.trans hdb, hholds⟩

/-- Where there are stored tables, there is a record that says the same. -/
theorem Paired.record (h : g.Paired b id files)
    (hdb : files.get? (Store.place g.folder id) = some (.database db)) :
    ∃ r, g.Stores id r files ∧ db.Holds r.tables b.relation := by
  obtain ⟨hnone, -⟩ | ⟨r, stored, hr, hstored, hholds⟩ := h
  · simp [hdb] at hnone
  obtain ⟨⟩ := hdb.symm.trans hstored
  exact ⟨r, hr, hholds⟩

theorem Paired.holds (h : g.Paired b id files) (hr : g.Stores id r files)
    (hdb : files.get? (Store.place g.folder id) = some (.database db)) :
    db.Holds r.tables b.relation := by
  obtain ⟨found, hfound, hholds⟩ := h.record hdb
  obtain rfl := Stores.unique (w := { files }) hr hfound
  exact hholds

/-- A record is replaced by one that tells of the same stored tables. -/
theorem Paired.replace (h : g.Paired b id files) (hf : g.Stores id r files)
    (hr : g.Stores id r' files')
    (hstore : files'.get? (Store.place g.folder id) = files.get? (Store.place g.folder id))
    (hdb : ∀ db : Storage.Database, db.Holds r.tables b.relation →
      db.Holds r'.tables b.relation) : g.Paired b id files' := by
  rcases h with ⟨-, hnone⟩ | ⟨found, db, hfound, hplace, hholds⟩
  · simp [hf.file] at hnone
  · obtain rfl := Stores.unique (w := { files }) hf hfound
    exact .inr ⟨r', db, hr, hstore.trans hplace, hdb db hholds⟩

end RecordFolder

namespace Folders

variable {b : Bond} {f : Folders} {g : RecordFolder} {id : String} {files files' : Files} {r : Record}

theorem Paired.of (h : f.Paired b files) (hg : g = f.records ∨ g = f.backupRecords) (id : String) :
    g.Paired b id files := by
  rcases hg with rfl | rfl
  · exact (h id).1
  · exact (h id).2

/-- Pairs are kept where only the files of one id change, and these are paired again. -/
theorem Paired.update (h : f.Paired b files) (g : RecordFolder) (id : String)
    (hother : ∀ p, p ≠ Store.place g.folder id → p ≠ g.place id → files'.get? p = files.get? p)
    (hown : g.Paired b id files') : f.Paired b files' := by
  have hall : ∀ g' : RecordFolder, ∀ id', g'.Paired b id' files → g'.Paired b id' files' := by
    intro g' id' h'
    -- Databases and backups may share a folder, and then one file is read as either.
    by_cases hsame : g'.folder = g.folder ∧ id' = id
    · obtain ⟨hfolder, rfl⟩ := hsame
      exact hown.congr (by rw [hfolder]) (by rw [RecordFolder.place, hfolder]; rfl)
    · refine h'.congr (hother _ (fun heq => hsame (Store.place_injective heq)) ?_)
        (hother _ (g'.place_ne _ _ _) fun heq => hsame (RecordFolder.place_injective heq))
      exact fun heq => g.place_ne _ _ _ heq.symm
  exact fun id' => ⟨hall _ _ (h id').1, hall _ _ (h id').2⟩

theorem paired_nil (b : Bond) (f : Folders) : f.Paired b [] :=
  fun _ => ⟨.inl ⟨rfl, rfl⟩, .inl ⟨rfl, rfl⟩⟩

end Folders

namespace World

variable {b : Bond} {f : Folders} {agreed : Bool} {w w' : World}

/-- Beside a good workspace only the files count. -/
theorem Good.beside (h : Good b f agreed w) (hw : w.Beside w') (hs : w'.files.Sound)
    (hp : agreed = true → f.Paired b w'.files) : Good b f agreed w' where
  sound := hs
  paired := hp
  time := hw.time ▸ h.time
  harmless hsafe := hw.harmless (h.harmless hsafe)

theorem Good.weaken (h : Good b f agreed w) (other : Bool) : Good b f (agreed && other) w :=
  ⟨h.sound, fun hb => h.paired (Bool.and_eq_true_iff.mp hb).1, h.time, h.harmless⟩

/-- What is told of as an inconsistency may be parted, unless such faults are kept away. -/
theorem Good.parted (h : Good b f agreed w) {told : Bool} (ht : told = true)
    (hfaults : ¬w.faults.Harmless) (hw : w.Beside w') (hs : w'.files.Sound) :
    Good b f (agreed && (b.safe || !told)) w' := by
  have hsafe : b.safe = false := Bool.eq_false_iff.mpr fun hsafe => hfaults (h.harmless hsafe)
  exact (h.weaken _).beside hw hs (by simp [ht, hsafe])

theorem Good.at (h : Good b f agreed w) {g : RecordFolder}
    (hg : g = f.records ∨ g = f.backupRecords) (id : String) (hb : agreed = true) :
    g.Paired b id w.files :=
  (h.paired hb).of hg id

/-- A workspace stays good where only the files of one id change, and these are paired again. -/
theorem Good.update (h : Good b f agreed w) (g : RecordFolder) (id : String) (hs : w'.files.Sound)
    (hother : ∀ p, p ≠ Store.place g.folder id → p ≠ g.place id →
      w'.files.get? p = w.files.get? p)
    (hown : agreed = true → g.Paired b id w'.files) (hw : w.Beside w' := by exact ⟨rfl, fun h => h⟩) :
    Good b f agreed w' :=
  h.beside hw hs fun hb => (h.paired hb).update g id hother (hown hb)

theorem Good.congr (h : Good b f agreed w) (hf : ∀ p, w'.files.get? p = w.files.get? p)
    (hw : w.Beside w' := by exact ⟨rfl, fun h => h⟩) : Good b f agreed w' :=
  h.beside hw (fun _ _ hp => h.sound ((hf _).symm.trans hp)) fun hb id =>
    ⟨(h.paired hb id).1.congr (hf _) (hf _), (h.paired hb id).2.congr (hf _) (hf _)⟩

/-- A workspace stays good where all that goes by an id is removed. -/
theorem Good.remove (h : Good b f agreed w) (g : RecordFolder) (id : String)
    (hf : ∀ p, w'.files.get? p =
      if p = Store.place g.folder id ∨ p = g.place id then none else w.files.get? p)
    (hw : w.Beside w' := by exact ⟨rfl, fun h => h⟩) : Good b f agreed w' := by
  refine h.update g id (fun p file hp => ?_) (fun p hstore hrecord => ?_)
    (fun _ => .inl ⟨?_, ?_⟩) hw
  · rw [hf] at hp
    split at hp
    · simp at hp
    · exact h.sound hp
  · rw [hf, if_neg (by simp [hstore, hrecord])]
  · rw [hf, if_pos (.inl rfl)]
  · rw [hf, if_pos (.inr rfl)]

end World

namespace Operation

variable {α β : Type} {b : Bond} {f : Folders} {op : Operation α} {next : α → Operation β}

/-- An operation that at most logs something. -/
theorem Keeps.of_log (h : ∀ w, ∃ log, (op.exec w).2 = { w with log }) : op.Keeps b f := by
  intro agreed w hw
  obtain ⟨entries, hop⟩ := h w
  rw [hop]
  exact (hw.weaken _).congr fun _ => rfl

theorem Keeps.of (x : Except Error α) : (Operation.of x).Keeps b f :=
  .of_log fun w => ⟨w.log, by rw [exec_of]⟩

theorem Keeps.hasFile {p : Place} : (hasFile p).Keeps b f :=
  .of_log fun w => ⟨w.log, rfl⟩

theorem Keeps.world : (get : Operation World).Keeps b f :=
  .of_log fun w => ⟨w.log, rfl⟩

theorem Reads.keeps (h : op.Reads) : op.Keeps b f := by
  intro agreed w hw
  obtain ⟨x, -, hop⟩ := h hw.sound
  rw [hop w rfl]
  exact hw.weaken _

theorem Quiet.keeps (h : op.Quiet) : op.Keeps b f :=
  .of_log fun w => by
    obtain ⟨a, entries, hop⟩ := h w
    exact ⟨entries, by rw [hop]⟩

theorem Keeps.bind (h : op.Keeps b f) (hn : ∀ a, (next a).Keeps b f) :
    (op >>= next).Keeps b f := by
  intro agreed w hw
  have hop := h hw
  rw [exec_bind]
  rcases hexec : op.exec w with ⟨_ | a, w'⟩ <;> rw [hexec] at hop
  · exact hop
  · have hnext := hn a hop
    simpa [tells] using hnext

theorem Keeps.mapM {op : α → Operation β} (h : ∀ a, (op a).Keeps b f) (items : List α) :
    (items.mapM op).Keeps b f := by
  induction items with
  | nil => exact .of (.ok [])
  | cons a rest ih =>
    rw [List.mapM_cons]
    exact (h a).bind fun c => ih.bind fun others => .of (.ok (c :: others))

/-- A check of arguments before an operation, which may use what was checked. -/
theorem Keeps.of_bind {x : Except Error α} (hn : ∀ a, x = .ok a → (next a).Keeps b f) :
    (Operation.of x >>= next).Keeps b f := by
  intro agreed w hw
  rw [exec_bind, exec_of]
  cases x with
  | error e => exact hw.weaken _
  | ok a => exact hn a rfl hw

end Operation

end Cabinet

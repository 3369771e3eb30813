import Cabinet.Proofs.Storage.Regular
import Cabinet.Proofs.Workspace.Reading

/-!
Which files an operation may touch. All others stay as they are, every place is still there once, files
come up only at the places of databases and of backups, and stored tables are such as the library makes.
-/

namespace Cabinet

open Operation

/-- The places of what goes by an id: its stored tables and its record. -/
def RecordFolder.Owns (g : RecordFolder) (id : String) (p : Place) : Prop :=
  p = Store.place g.folder id ∨ p = g.place id

instance (g : RecordFolder) (id : String) (p : Place) : Decidable (g.Owns id p) :=
  inferInstanceAs (Decidable (_ ∨ _))

/-- A place is that of one id in one folder. -/
theorem RecordFolder.Owns.unique {g g' : RecordFolder} {id id' : String} {p : Place}
    (h : g.Owns id p) (h' : g'.Owns id' p) : g.folder = g'.folder ∧ id = id' := by
  rcases h with rfl | rfl
  · rcases h' with heq | heq
    · exact Store.place_injective heq
    · exact absurd heq.symm (g'.place_ne _ _ _)
  · rcases h' with heq | heq
    · exact absurd heq (g.place_ne _ _ _)
    · exact RecordFolder.place_injective heq

/-- An id by which nothing goes: there are neither tables nor a record. -/
structure RecordFolder.Vacant (g : RecordFolder) (id : String) (files : Files) : Prop where
  tables : files.get? (Store.place g.folder id) = none
  record : files.get? (g.place id) = none

theorem RecordFolder.Vacant.get?_eq_none {g : RecordFolder} {id : String} {files : Files} {p : Place}
    (h : g.Vacant id files) (hp : g.Owns id p) : files.get? p = none := by
  rcases hp with rfl | rfl
  · exact h.tables
  · exact h.record

/-- The places of ids by which nothing goes. -/
def Folders.Vacant (f : Folders) (files : Files) (p : Place) : Prop :=
  ∃ g id, (g = f.records ∨ g = f.backupRecords) ∧ g.Vacant id files ∧ g.Owns id p

theorem Folders.Vacant.get?_eq_none {f : Folders} {files : Files} {p : Place}
    (h : f.Vacant files p) : files.get? p = none := by
  obtain ⟨g, id, -, hvacant, hp⟩ := h
  exact hvacant.get?_eq_none hp

/-- The places of databases and of backups. -/
def Folders.Has (f : Folders) (p : Place) : Prop :=
  ∃ g id, (g = f.records ∨ g = f.backupRecords) ∧ g.Owns id p

/-- All stored tables in files are such as the library makes. -/
def Files.Regular (files : Files) : Prop :=
  ∀ p db, (p, File.database db) ∈ files → db.Regular

theorem Files.Regular.of_get? {files : Files} (h : files.Regular) {p : Place} {db : Storage.Database}
    (hp : files.get? p = some (.database db)) : db.Regular := by
  obtain ⟨before, rest, rfl, -⟩ := List.lookup_eq_some_iff.mp hp
  exact h p db (by simp)

/-- Files that have come of others, where only those at some places may have been touched. -/
structure Files.Touched (f : Folders) (own : Place → Prop) (files files' : Files) : Prop where
  sound : files.Sound → files'.Sound
  others : ∀ p, ¬own p → files'.get? p = files.get? p
  distinct : (files.map (·.1)).Nodup → (files'.map (·.1)).Nodup
  inside : (∀ e ∈ files, f.Has e.1) → ∀ e ∈ files', f.Has e.1
  regular : files.Regular → files'.Regular

namespace Files.Touched

variable {f : Folders} {own own' : Place → Prop} {files files' files'' : Files} {p q : Place}

theorem refl (f : Folders) (own : Place → Prop) (files : Files) : Touched f own files files :=
  ⟨id, fun _ _ => rfl, id, id, id⟩

theorem trans (h : Touched f own files files') (h' : Touched f own files' files'') :
    Touched f own files files'' where
  sound hs := h'.sound (h.sound hs)
  others p hp := (h'.others p hp).trans (h.others p hp)
  distinct hd := h'.distinct (h.distinct hd)
  inside hi := h'.inside (h.inside hi)
  regular hr := h'.regular (h.regular hr)

theorem mono (h : Touched f own files files') (hown : ∀ p, own p → own' p) :
    Touched f own' files files' :=
  ⟨h.sound, fun p hp => h.others p fun hp' => hp (hown p hp'), h.distinct, h.inside, h.regular⟩

theorem drop (hp : own p) (h : Touched f own files files') : Touched f own files (files'.drop p) where
  sound hs := (h.sound hs).drop p
  others q hq := by
    rw [Files.get?_drop, if_neg, h.others q hq]
    rintro rfl
    exact hq hp
  distinct hd := (h.distinct hd).sublist (List.filter_sublist.map _)
  inside hi e he := h.inside hi e (List.mem_of_mem_filter he)
  regular hr p db he := h.regular hr p db (List.mem_of_mem_filter he)

theorem put (hp : own p) (hin : f.Has p) {file : File} (hf : Files.Entry p file)
    (hregular : files.Regular → ∀ db, file = .database db → db.Regular)
    (h : Touched f own files files') : Touched f own files (files'.put p file) where
  sound hs := (h.sound hs).put hf
  others q hq := by
    rw [Files.get?_put_of_ne, h.others q hq]
    rintro rfl
    exact hq hp
  distinct hd := by
    have hdropped := (h.drop hp).distinct hd
    refine List.nodup_cons.mpr ⟨fun hmem => ?_, hdropped⟩
    obtain ⟨e, he, heq⟩ := List.mem_map.mp hmem
    exact bne_iff_ne.mp (List.mem_filter.mp he).2 heq
  inside hi e he := by
    rcases List.mem_cons.mp he with rfl | he
    · exact hin
    · exact (h.drop hp).inside hi e he
  regular hr q db he := by
    rcases List.mem_cons.mp he with heq | he
    · exact hregular hr db (Prod.ext_iff.mp heq).2.symm
    · exact (h.drop hp).regular hr q db he

/-- Stored tables are moved to the place of another id. -/
theorem move {folder folder' id id' : String} (hp : own (Store.place folder id))
    (hq : own (Store.place folder' id')) (hin : f.Has (Store.place folder' id'))
    (hs : files'.Sound) (h : Touched f own files files') :
    Touched f own files (files'.move (Store.place folder id) (Store.place folder' id')) := by
  unfold Files.move
  split
  · next file hfile =>
    obtain ⟨db, rfl⟩ := hs.database hfile
    refine (h.drop hp).put hq hin (.tables folder' id' db) fun hr db' hdb' => ?_
    exact (h.regular hr).of_get? (File.database.inj hdb' ▸ hfile)
  · exact h

end Files.Touched

/-- An operation that touches files at some places only. -/
def Operation.Touches {α : Type} (f : Folders) (own : Place → Prop) (op : Operation α) : Prop :=
  ∀ ⦃w : World⦄, w.files.Sound → Files.Touched f own w.files (op.exec w).2.files

namespace Operation

variable {α β : Type} {f : Folders} {own own' : Place → Prop} {op : Operation α}
  {next : α → Operation β}

theorem Touches.mono (h : op.Touches f own) (hown : ∀ p, own p → own' p) : op.Touches f own' :=
  fun _ hs => (h hs).mono hown

/-- An operation that changes no file. -/
theorem Touches.of_same (h : ∀ w : World, w.files.Sound → (op.exec w).2.files = w.files) :
    op.Touches f own := by
  intro w hs
  rw [h w hs]
  exact .refl f own w.files

theorem Touches.of (x : Except Error α) : (Operation.of x).Touches f own :=
  .of_same fun w _ => by rw [exec_of]

theorem Reads.touches (h : op.Reads) : op.Touches f own :=
  .of_same fun w hs => by
    obtain ⟨x, -, hop⟩ := h hs
    rw [hop w rfl]

theorem Quiet.touches (h : op.Quiet) : op.Touches f own :=
  .of_same fun w _ => by
    obtain ⟨a, log, hop⟩ := h w
    rw [hop]

theorem Touches.bind (h : op.Touches f own) (hn : ∀ a, (next a).Touches f own) :
    (op >>= next).Touches f own := by
  intro w hs
  have hop := h hs
  rw [exec_bind]
  rcases hexec : op.exec w with ⟨e | a, w'⟩ <;> rw [hexec] at hop
  · exact hop
  · exact hop.trans (hn a (hop.sound hs))

/-- What is computed first changes no file, and what comes then may use it. -/
theorem Touches.of_bind {x : Except Error α} (hn : ∀ a, x = .ok a → (next a).Touches f own) :
    (Operation.of x >>= next).Touches f own := by
  intro w hs
  rw [exec_bind, exec_of]
  cases x with
  | error e => exact .refl f own w.files
  | ok a => exact hn a rfl hs

theorem Touches.mapM {op : α → Operation β} (h : ∀ a, (op a).Touches f own) (items : List α) :
    (items.mapM op).Touches f own := by
  induction items with
  | nil => exact .of (.ok [])
  | cons a rest ih =>
    rw [List.mapM_cons]
    exact (h a).bind fun c => ih.bind fun others => .of (.ok (c :: others))

end Operation

end Cabinet

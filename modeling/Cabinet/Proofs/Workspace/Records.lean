import Cabinet.Proofs.Files
import Cabinet.Proofs.Operation
import Cabinet.Proofs.Record.RoundTrip

/-!
Workspaces in which every file is a record or holds stored tables, and what reading and writing
records does there.
-/

namespace Cabinet

open Operation

/-- A file that the library makes: stored tables or a record, at the place of its id. A record is in
its file as it is written. -/
inductive Files.Entry : Place → File → Prop
  | tables (folder id : String) (db : Storage.Database) : Entry (Store.place folder id) (.database db)
  | record (f : RecordFolder) (id : String) {r : Record} (sound : r.Sound)
    (writable : Json.isWritable r.toDocument = true) (own : r.id = .text id) :
    Entry (f.place id) (.text r.write)

/-- Every file is one that the library makes. -/
def Files.Sound (files : Files) : Prop :=
  ∀ ⦃p file⦄, files.get? p = some file → Entry p file

namespace RecordFolder

/-- The file of the record with an id holds a sound record of that id. -/
structure Stores (f : RecordFolder) (id : String) (r : Record) (files : Files) : Prop where
  file : files.get? (f.place id) = some (.text r.write)
  sound : r.Sound
  writable : Json.isWritable r.toDocument = true
  own : r.id = .text id

/-- The file of the record with an id holds a document of this record. -/
def Finds (f : RecordFolder) (id : String) (r : Record) (files : Files) : Prop :=
  readFile (.text id) (files.get? (f.place id)) = .ok r

end RecordFolder

namespace Files

variable {files : Files} {f : RecordFolder} {folder id : String} {file : File} {p q : Place}
  {r : Record}

theorem sound_nil : Files.Sound [] :=
  fun p file h => absurd h (by simp [get?])

theorem Sound.stores (h : files.Sound) (hf : files.get? (f.place id) = some file) :
    ∃ r, file = .text r.write ∧ f.Stores id r files := by
  generalize hp : f.place id = p at hf
  cases h hf with
  | tables folder' id' db => exact absurd hp (f.place_ne folder' id id')
  | record f' id' sound writable own =>
    obtain ⟨-, rfl⟩ := RecordFolder.place_injective hp
    exact ⟨_, rfl, hp ▸ hf, sound, writable, own⟩

/-- A text is that of a sound record. -/
theorem Sound.document (h : files.Sound) {p : Place} {s : List Char}
    (hf : files.get? p = some (.text s)) :
    ∃ r, s = r.write ∧ r.Sound ∧ Record.read s = .ok r := by
  cases h hf with
  | record g id sound writable own => exact ⟨_, rfl, sound, Record.read_write sound writable⟩

theorem Sound.database (h : files.Sound) (hf : files.get? (Store.place folder id) = some file) :
    ∃ db, file = .database db := by
  generalize hp : Store.place folder id = p at hf
  cases h hf with
  | tables folder' id' db => exact ⟨db, rfl⟩
  | record f' id' sound writable own => exact absurd hp.symm (f'.place_ne folder id' id)

theorem Sound.put (h : files.Sound) (hf : Entry p file) : (files.put p file).Sound := by
  intro q file' hq
  rw [get?_put] at hq
  split at hq
  · next heq =>
    obtain rfl := Option.some.inj hq
    exact heq ▸ hf
  · exact h hq

theorem Sound.drop (h : files.Sound) (p : Place) : (files.drop p).Sound := by
  intro q file' hq
  rw [get?_drop] at hq
  split at hq
  · simp at hq
  · exact h hq

/-- Stored tables may be moved to the place of another id. -/
theorem Sound.move (h : files.Sound) {folder' id' : String} :
    (files.move (Store.place folder id) (Store.place folder' id')).Sound := by
  unfold Files.move
  split
  · next file hf =>
    obtain ⟨db, rfl⟩ := h.database hf
    exact (h.drop _).put (.tables folder' id' db)
  · exact h

/-- Nothing that is stored is a folder. -/
theorem Sound.ne_folder (h : files.Sound) (p : Place) : files.get? p ≠ some .folder :=
  fun hp => nomatch h hp

end Files

namespace RecordFolder

variable {f : RecordFolder} {id : String} {r found : Record} {w w' : World} {e : Error}

@[simp] theorem placeOf_text (f : RecordFolder) (id : String) : f.placeOf (.text id) = f.place id := by
  simp [placeOf, Value.plain]

theorem exec_read (f : RecordFolder) (id : String) (w : World) :
    (f.read id).exec w = (readFile (.text id) (w.files.get? (f.place id)), w) := by
  simp only [RecordFolder.read, readOf, exec_bind, exec_file?, exec_of, placeOf_text]

theorem Finds.read (h : f.Finds id r w.files) : (f.read id).exec w = (.ok r, w) := by
  rw [exec_read, h]

theorem Finds.unique {files : Files} (h : f.Finds id r files) (h' : f.Finds id found files) :
    r = found :=
  Except.ok.inj (h.symm.trans h')

theorem Stores.finds {files : Files} (h : f.Stores id r files) : f.Finds id r files := by
  rw [Finds, h.file, readFile, Record.read_write h.sound h.writable]

theorem Stores.read (h : f.Stores id r w.files) : (f.read id).exec w = (.ok r, w) :=
  h.finds.read

/-- Reading a record finds what is stored, or fails because nothing is. -/
theorem read_cases (h : w.files.Sound) (f : RecordFolder) (id : String) :
    (∃ r, f.Stores id r w.files ∧ (f.read id).exec w = (.ok r, w)) ∨
      (w.files.get? (f.place id) = none ∧
        (f.read id).exec w = (.error (.recordMissing (.text id)), w)) := by
  cases hf : w.files.get? (f.place id) with
  | none =>
    refine .inr ⟨rfl, ?_⟩
    simp [RecordFolder.read, readOf, exec_bind, hf, readFile]
  | some file =>
    obtain ⟨r, -, hr⟩ := h.stores hf
    exact .inl ⟨r, hr, hr.read⟩

theorem Stores.unique (h : f.Stores id r w.files) (h' : f.Stores id found w.files) : r = found :=
  h.finds.unique h'.finds

/-- What the faults are after a swap has been counted, unless it fails for them. -/
def counted? (f : RecordFolder) (faults : Faults) : Option Faults :=
  if f.isBackup then some faults
  else
    match faults.swaps with
    | none => some faults
    | some 0 => none
    | some (n + 1) => some { faults with swaps := some n }

/-- The faults that are left after a swap was tried: it has been counted or not. -/
def Leaves (f : RecordFolder) (faults left : Faults) : Prop :=
  left = faults ∨ f.counted? faults = some left

/-- Only the number of swaps to come can have changed. -/
theorem Leaves.eq {f : RecordFolder} {faults left : Faults} (h : f.Leaves faults left) :
    left = { faults with swaps := left.swaps } := by
  rcases h with rfl | h
  · rfl
  unfold counted? at h
  split at h
  · exact Option.some.inj h ▸ rfl
  · split at h
    · exact Option.some.inj h ▸ rfl
    · simp at h
    · exact Option.some.inj h ▸ rfl

theorem Leaves.commit {f : RecordFolder} {faults left : Faults} (h : f.Leaves faults left) :
    left.commit = faults.commit := by
  rw [h.eq]

theorem counted?_commit (f : RecordFolder) (faults : Faults) (commit : Bool) :
    f.counted? { faults with commit } =
      (f.counted? faults).map fun left : Faults => { left with commit } := by
  unfold counted?
  split
  · rfl
  · rcases hs : faults.swaps with _ | _ | n <;> simp [hs]

theorem counted?_nothing (f : RecordFolder) : f.counted? {} = some {} := by
  unfold counted?
  split <;> rfl

theorem exec_countSwap (f : RecordFolder) (w : World) :
    f.countSwap.exec w =
      match f.counted? w.faults with
      | some faults => (.ok (), { w with faults })
      | none => (.error (.systemFault "read-only file system"), w) := by
  unfold countSwap counted?
  cases hb : f.isBackup with
  | true => simp
  | false =>
    simp only [Bool.false_eq_true, if_false, exec_bind, exec_faults]
    cases hs : w.faults.swaps with
    | none => rfl
    | some n => cases n <;> rfl

/-- The world after a record has been written. -/
def written (f : RecordFolder) (id : String) (r : Record) (w : World) : World :=
  { w with
    files := w.files.put (f.place id) (.text r.write)
    log := ⟨.debug, "tagged_tables.metadata", "Wrote metadata " ++ (f.place id).name ++ " (version " ++
      Error.number r.version ++ ")"⟩ :: w.log }

/-- Whether records can be written, and this one can. -/
def CanWrite (r : Record) (faults : Faults) : Prop :=
  Json.isWritable r.toDocument = true ∧ faults.replace = false

theorem exec_dropFile {p : Place} (h : w.files.get? p ≠ some .folder) :
    (dropFile p).exec w = (.ok (), { w with files := w.files.drop p }) := by
  simp only [dropFile, exec_bind, exec_file?]
  cases hf : w.files.get? p with
  | none => rfl
  | some file =>
    cases file with
    | folder => exact absurd hf h
    | _ => rfl

theorem exec_save (f : RecordFolder) (hid : r.id = .text id) (w : World) :
    (CanWrite r w.faults ∧ (f.save r).exec w = (.ok (), f.written id r w)) ∨
      (¬CanWrite r w.faults ∧ ∃ e, e.kind ≠ .inconsistent ∧ (f.save r).exec w = (.error e, w)) := by
  have hplace : f.placeOf r.id = f.place id := by rw [hid, placeOf_text]
  have hunused := Files.get?_unused f.folder w.files
  generalize hp : w.files.unused f.folder = p at hunused
  have hgone := Files.drop_of_get?_none hunused
  -- Whatever the temporary file holds, the other files are there again once it is removed.
  have hremove : ∀ s, (dropFile p).exec { w with files := w.files.put p (.text s) } = (.ok (), w) := by
    intro s
    rw [exec_dropFile (by simp [Files.get?_put_self]), Files.drop_put, hgone]
  cases hw : Json.isWritable r.toDocument with
  | false =>
    refine .inr ⟨by simp [CanWrite, hw], .unreadable, by decide, ?_⟩
    simp [save, hw, exec_bind, exec_tryCatch, hp, hremove]
  | true =>
    cases hr : w.faults.replace with
    | true =>
      refine .inr ⟨by simp [CanWrite, hr], .systemFault "cannot replace", nofun, ?_⟩
      simp [save, hw, hr, exec_bind, exec_tryCatch, hp, Files.put_put, hremove]
    | false =>
      refine .inl ⟨⟨hw, hr⟩, ?_⟩
      simp [save, hw, hr, exec_bind, exec_tryCatch, hp, Files.put_put, Files.move_put, hgone, hplace,
        noteWritten, written]

theorem written_stores (f : RecordFolder) (hs : r.Sound) (hw : Json.isWritable r.toDocument = true)
    (hid : r.id = .text id) (w : World) : f.Stores id r (f.written id r w).files :=
  ⟨by simp [written, Files.get?_put], hs, hw, hid⟩

/-- A swap writes the new record if it was made from the version that is there, or it changes no
file. -/
theorem Finds.swap_cases (h : f.Finds id found w.files) (hid : r.id = .text id) (expected : Int) :
    (found.version = expected ∧ ∃ faults, f.counted? w.faults = some faults ∧
      CanWrite { r with version := expected + 1 } faults ∧
      (f.swap r expected).exec w = (.ok { r with version := expected + 1 },
        f.written id { r with version := expected + 1 } { w with faults })) ∨
      ((found.version = expected → ∀ faults, f.counted? w.faults = some faults →
        ¬CanWrite { r with version := expected + 1 } faults) ∧
        ∃ e faults, f.Leaves w.faults faults ∧ e.kind ≠ .inconsistent ∧
          (f.swap r expected).exec w = (.error e, { w with faults })) := by
  have hcount := f.exec_countSwap w
  cases hc : f.counted? w.faults with
  | none =>
    refine .inr ⟨by simp, .systemFault "read-only file system", w.faults, .inl rfl, nofun, ?_⟩
    simp [swap, exec_bind, hcount, hc]
  | some faults =>
    have hread : (f.readOf r.id).exec { w with faults } = (.ok found, { w with faults }) := by
      rw [hid]
      exact Finds.read (w := { w with faults }) h
    by_cases hversion : found.version = expected
    swap
    · refine .inr ⟨fun heq => absurd heq hversion, .recordChanged r.id expected found.version, faults,
        .inr hc, nofun, ?_⟩
      simp [swap, exec_bind, hcount, hc, hread, hversion]
    rcases f.exec_save (r := { r with version := expected + 1 }) hid { w with faults } with
      ⟨hcan, hsave⟩ | ⟨hcannot, e, he, hsave⟩
    · refine .inl ⟨hversion, faults, rfl, hcan, ?_⟩
      simp [swap, exec_bind, hcount, hc, hread, hversion, hsave, Except.map]
    · refine .inr ⟨fun _ => by simpa using hcannot, e, faults, .inr hc, he, ?_⟩
      simp [swap, exec_bind, hcount, hc, hread, hversion, hsave, Except.map]

/-- A swap of the record that is there writes the new record, or changes no file. -/
theorem Stores.swap_cases (h : f.Stores id found w.files) (hid : r.id = .text id) :
    (∃ faults, f.counted? w.faults = some faults ∧
      CanWrite { r with version := found.version + 1 } faults ∧
      (f.swap r found.version).exec w =
        (.ok { r with version := found.version + 1 },
          f.written id { r with version := found.version + 1 } { w with faults })) ∨
      ((∀ faults, f.counted? w.faults = some faults →
        ¬CanWrite { r with version := found.version + 1 } faults) ∧
        ∃ e faults, f.Leaves w.faults faults ∧ e.kind ≠ .inconsistent ∧
          (f.swap r found.version).exec w = (.error e, { w with faults })) := by
  rcases h.finds.swap_cases hid found.version with hdone | ⟨hcannot, e, faults, hleft, he, hexec⟩
  · exact .inl hdone.2
  · exact .inr ⟨hcannot rfl, e, faults, hleft, he, hexec⟩

/-- Whether the making of records fails. -/
def FailsToCreate (f : RecordFolder) (faults : Faults) : Bool :=
  if f.isBackup then faults.backupCreate else faults.create

/-- No record is made where there is one. -/
theorem exec_create_taken (hid : r.id = .text id) (hfault : f.FailsToCreate w.faults = false)
    (h : w.files.get? (f.place id) ≠ none) : (f.create r).exec w = (.error (.recordExists r.id), w) := by
  have hplace : f.placeOf r.id = f.place id := by rw [hid, placeOf_text]
  have hthere : (w.files.get? (f.place id)).isSome = true := Option.isSome_iff_ne_none.mpr h
  rw [FailsToCreate] at hfault
  simp only [create, exec_bind, exec_faults, hfault, Bool.false_eq_true, if_false, exec_hasFile, hplace,
    Files.has_eq, hthere, if_true, exec_throw]

/-- Where there is no record one is made, or no file changes. -/
theorem exec_create (hid : r.id = .text id) (hfault : f.FailsToCreate w.faults = false)
    (h : w.files.get? (f.place id) = none) :
    (CanWrite { r with version := 1 } w.faults ∧
      (f.create r).exec w = (.ok { r with version := 1 }, f.written id { r with version := 1 } w)) ∨
      (¬CanWrite { r with version := 1 } w.faults ∧
        ∃ e, e.kind ≠ .inconsistent ∧ (f.create r).exec w = (.error e, w)) := by
  have hplace : f.placeOf r.id = f.place id := by rw [hid, placeOf_text]
  rw [FailsToCreate] at hfault
  rcases f.exec_save (r := { r with version := 1 }) hid w with ⟨hcan, hsave⟩ | ⟨hcannot, e, he, hsave⟩
  · refine .inl ⟨hcan, ?_⟩
    simp only [create, exec_bind, exec_faults, hfault, Bool.false_eq_true, if_false, exec_hasFile, hplace,
      Files.has_eq, h, Option.isSome_none, hsave, exec_pure]
  · refine .inr ⟨hcannot, e, he, ?_⟩
    simp only [create, exec_bind, exec_faults, hfault, Bool.false_eq_true, if_false, exec_hasFile, hplace,
      Files.has_eq, h, Option.isSome_none, hsave]

/-- A record is made where none is, or no file changes. -/
theorem create_cases (f : RecordFolder) (hid : r.id = .text id) (w : World) :
    (w.files.get? (f.place id) = none ∧
      CanWrite { r with version := 1 } w.faults ∧
      (f.create r).exec w = (.ok { r with version := 1 }, f.written id { r with version := 1 } w)) ∨
      ∃ e, e.kind ≠ .inconsistent ∧ (f.create r).exec w = (.error e, w) := by
  cases hfault : f.FailsToCreate w.faults with
  | true =>
    refine .inr ⟨.systemFault "read-only file system", nofun, ?_⟩
    rw [FailsToCreate] at hfault
    simp only [create, exec_bind, exec_faults, hfault, if_true, exec_throw]
  | false =>
    cases hthere : w.files.get? (f.place id) with
    | some file => exact .inr ⟨.recordExists r.id, nofun, exec_create_taken hid hfault (by simp [hthere])⟩
    | none =>
      rcases exec_create hid hfault hthere with ⟨hcan, hexec⟩ | ⟨-, hfailed⟩
      · exact .inl ⟨rfl, hcan, hexec⟩
      · exact .inr hfailed

/-- A record moves to the place of another id where none is, or no file changes. -/
theorem rename_cases (f : RecordFolder) {old : String} (hid : r.id = .text id) (hne : id ≠ old)
    (hs : w.files.Sound) :
    (CanWrite { r with version := r.version + 1 } w.faults ∧
      w.files.get? (f.place id) = none ∧
      (f.rename old r).exec w = (.ok { r with version := r.version + 1 },
        { f.written id { r with version := r.version + 1 } w with
          files := (f.written id { r with version := r.version + 1 } w).files.drop (f.place old) })) ∨
      ∃ e, e.kind ≠ .inconsistent ∧ (f.rename old r).exec w = (.error e, w) := by
  have hplace : f.placeOf r.id = f.place id := by rw [hid, placeOf_text]
  cases hfault : w.faults.rename.isSome && !f.isBackup with
  | true =>
    refine .inr ⟨.taken r.id, nofun, ?_⟩
    simp only [rename, exec_bind, exec_faults, hfault, if_true, exec_throw]
  | false =>
    cases hold : w.files.get? (f.place old) with
    | none =>
      refine .inr ⟨.recordMissing (.text old), nofun, ?_⟩
      simp only [rename, exec_bind, exec_faults, hfault, Bool.false_eq_true, if_false, has,
        exec_hasFile, hplace, Files.has_eq, hold, Option.isSome_none, Bool.not_false, if_true, exec_throw]
    | some _ =>
      cases hthere : w.files.get? (f.place id) with
      | some file =>
        refine .inr ⟨.recordExists r.id, nofun, ?_⟩
        simp only [rename, exec_bind, exec_faults, hfault, Bool.false_eq_true, if_false, has,
          exec_hasFile, hplace, Files.has_eq, hold, Option.isSome_some, Bool.not_true, hthere, if_true,
          exec_throw]
      | none =>
        rcases f.exec_save (r := { r with version := r.version + 1 }) hid w with
          ⟨hcan, hsave⟩ | ⟨-, e, he, hsave⟩
        · refine .inl ⟨hcan, rfl, ?_⟩
          have hapart : f.place old ≠ f.place id := fun heq => hne (place_injective heq).2.symm
          have hdrop := exec_dropFile (w := f.written id { r with version := r.version + 1 } w)
            (p := f.place old) (by
              simpa [written, Files.get?_put, hapart] using hs.ne_folder (f.place old))
          simp only [rename, exec_bind, exec_faults, hfault, Bool.false_eq_true, if_false, has,
            exec_hasFile, hplace, Files.has_eq, hold, Option.isSome_some, Bool.not_true, hthere,
            Option.isSome_none, hsave, hdrop, exec_pure]
        · refine .inr ⟨e, he, ?_⟩
          simp only [rename, exec_bind, exec_faults, hfault, Bool.false_eq_true, if_false, has,
            exec_hasFile, hplace, Files.has_eq, hold, Option.isSome_some, Bool.not_true, hthere,
            Option.isSome_none, hsave]

theorem exec_delete (f : RecordFolder) (h : w.files.get? (f.place id) ≠ some .folder) :
    (f.delete id).exec w = (.ok (), { w with files := w.files.drop (f.place id) }) := by
  cases hthere : w.files.get? (f.place id) with
  | none => simp [delete, exec_bind, has, Files.has_eq, hthere, Files.drop_of_get?_none hthere]
  | some file => simp [delete, exec_bind, has, Files.has_eq, hthere, exec_dropFile h]

end RecordFolder

end Cabinet

import Cabinet.Proofs.Schema.Request

/-!
The two halves of a request, which others may come between. The first changes nothing. The second
does what the whole request would do if the record is still the one that was read, and changes
nothing if its version is another.
-/

namespace Cabinet.Schema

open Operation

variable {α : Type} {f : Folders} {id : String} {w : World} {found stored : Record}
  {first : Operation (Option (Operation Unit))} {making : Making} {later : Operation Unit}
  {there : Bool}

/-- What is left to do after a record has been read; a change is left only where there are stored
tables. -/
inductive Second (f : Folders) (id : String) (there : Bool) (found : Record) :
    Operation Unit → Prop
  | revision {α : Type} {revision : Revision α} (lawful : revision.Lawful) :
    Second f id there found (finishRevision f found revision).silent
  | change {α : Type} {change : Change α} {note : α → Operation Unit} (action : String)
    (tables : there = true) (lawful : change.Lawful) (quiet : ∀ a, (note a).Quiet) :
    Second f id there found (do note (← finishChange f (Store.place f.data id) found action change))

theorem exec_read_bind {β : Type} (f : RecordFolder) (id : String) (next : Record → Operation β)
    (w : World) : (f.read id >>= next).exec w =
      match RecordFolder.readFile (.text id) (w.files.get? (f.place id)) with
      | .ok r => (next r).exec w
      | .error e => (.error e, w) := by
  rw [exec_bind, RecordFolder.exec_read]
  cases RecordFolder.readFile (.text id) (w.files.get? (f.place id)) <;> rfl

theorem exec_beginRevision (f : Folders) (id : String) (revision : Revision α) (w : World) :
    (beginRevision f id revision).exec w =
      ((RecordFolder.readFile (.text id) (w.files.get? (f.records.place id))).map fun found =>
        some (finishRevision f found revision).silent, w) := by
  rw [beginRevision, exec_read_bind]
  cases RecordFolder.readFile (.text id) (w.files.get? (f.records.place id)) <;> rfl

theorem exec_beginChange (f : Folders) (id action : String) (change : Change α)
    (note : α → Operation Unit) (w : World) :
    (beginChange f id action change note).exec w =
      (if w.files.has (Store.place f.data id) then
        (RecordFolder.readFile (.text id) (w.files.get? (f.records.place id))).map fun found =>
          some (do note (← finishChange f (Store.place f.data id) found action change))
        else .error (.databaseMissing id), w) := by
  rw [beginChange, exec_bind, Store.exec_existing]
  cases w.files.has (Store.place f.data id) with
  | false => rfl
  | true =>
    simp only [if_true, exec_read_bind]
    cases RecordFolder.readFile (.text id) (w.files.get? (f.records.place id)) <;> rfl

/-- The first half changes nothing, and it ends in the same way wherever the record is the same and
there are stored tables as well. -/
theorem Begins.exec (h : Begins f id first making) (w : World) : ∃ x, first.exec w = (x, w) ∧
    ∀ w', w'.files.get? (f.records.place id) = w.files.get? (f.records.place id) →
      w'.files.has (Store.place f.data id) = w.files.has (Store.place f.data id) →
      first.exec w' = (x, w') := by
  induction h with
  | answered => exact ⟨.ok none, rfl, fun _ _ _ => rfl⟩
  | revision lawful =>
    exact ⟨_, exec_beginRevision .., fun w' hrecord _ => by rw [exec_beginRevision, hrecord]⟩
  | change action lawful quiet =>
    exact ⟨_, exec_beginChange .., fun w' hrecord hstore => by
      rw [exec_beginChange, hrecord, hstore]⟩
  | @check _ x next _ calm _ ih =>
    cases x with
    | error e => exact ⟨.error e, by simp [exec_bind], fun _ _ _ => by simp [exec_bind]⟩
    | ok a =>
      obtain ⟨y, hy, hagain⟩ := ih a rfl
      exact ⟨y, by simp [exec_bind, hy], fun w' hrecord hstore => by
        simp [exec_bind, hagain w' hrecord hstore]⟩
  | @reading next _ _ ih =>
    cases hread : RecordFolder.readFile (.text id) (w.files.get? (f.records.place id)) with
    | error e =>
      exact ⟨.error e, by rw [exec_read_bind, hread], fun w' hrecord _ => by
        rw [exec_read_bind, hrecord, hread]⟩
    | ok r =>
      obtain ⟨y, hy, hagain⟩ := ih r
      refine ⟨y, by rw [exec_read_bind, hread]; exact hy, fun w' hrecord hstore => ?_⟩
      rw [exec_read_bind, hrecord, hread]
      exact hagain w' hrecord hstore

/-- What the first half leaves to do is to be done with the record that is there. -/
theorem Begins.second (h : Begins f id first making) (hs : w.files.Sound)
    (hexec : (first.exec w).1 = .ok (some later)) : ∃ found, f.records.Stores id found w.files ∧
      Second f id (w.files.has (Store.place f.data id)) found later := by
  -- What can be read under the id is what is stored there, as sound files hold nothing else in that
  -- place.
  have hread : ∀ {found}, RecordFolder.readFile (.text id) (w.files.get? (f.records.place id)) =
      .ok found → f.records.Stores id found w.files := by
    intro found hfound
    rcases f.records.read_cases hs id with ⟨r, hstores, -⟩ | ⟨hnone, -⟩
    · exact (hstores.finds.unique hfound) ▸ hstores
    · simp [hnone, RecordFolder.readFile] at hfound
  induction h with
  | answered => simp at hexec
  | revision lawful =>
    rw [exec_beginRevision] at hexec
    cases hfile : RecordFolder.readFile (.text id) (w.files.get? (f.records.place id)) with
    | error e => simp [hfile, Except.map] at hexec
    | ok found =>
      rw [hfile] at hexec
      obtain rfl := Option.some.inj (Except.ok.inj hexec)
      exact ⟨found, hread hfile, .revision lawful⟩
  | change action lawful quiet =>
    rw [exec_beginChange] at hexec
    cases hthere : w.files.has (Store.place f.data id) with
    | false => simp [hthere] at hexec
    | true =>
      rw [hthere, if_pos rfl] at hexec
      cases hfile : RecordFolder.readFile (.text id) (w.files.get? (f.records.place id)) with
      | error e => simp [hfile, Except.map] at hexec
      | ok found =>
        rw [hfile] at hexec
        obtain rfl := Option.some.inj (Except.ok.inj hexec)
        exact ⟨found, hread hfile, .change action rfl lawful quiet⟩
  | @check _ x next _ calm _ ih =>
    obtain ⟨a, hx, hnext⟩ := of_bind_eq_ok hexec
    exact ih a hx hnext
  | @reading next _ _ ih =>
    cases hfile : RecordFolder.readFile (.text id) (w.files.get? (f.records.place id)) with
    | error e => simp [exec_read_bind, hfile] at hexec
    | ok r =>
      rw [exec_read_bind, hfile] at hexec
      exact ih r hexec

/-- Files in which a record has taken the place of another one, and at most the stored tables of its
id are others, too. -/
structure Replaces (f : Folders) (id : String) (new : Record) (files files' : Files) : Prop where
  stores : f.records.Stores id new files'
  sound : files'.Sound
  others : ∀ p, p ≠ Store.place f.data id → p ≠ f.records.place id → files'.get? p = files.get? p
  there : files'.has (Store.place f.data id) = files.has (Store.place f.data id)

/-- How a second half ends where commits do not fail. It is done, if the version that is stored is the
one that was read, and it would be done in the same way at the same time without any faults; or it
fails, and no file changes. -/
inductive Ends (f : Folders) (id : String) (stored found : Record) (later : Operation Unit)
    (w : World) : Prop
  | done {new : Record} {files : Files} {faults : Faults} {log : List LogEntry}
    (version : stored.version = found.version) (replaces : Replaces f id new w.files files)
    (next : new.version = found.version + 1) (commit : faults.commit = false)
    (exec : later.exec w = (.ok (), { w with files, faults, log }))
    (again : ∀ before, ∃ after, later.exec { files := w.files, time := w.time, log := before } =
      (.ok (), { files, time := w.time, log := after })) : Ends f id stored found later w
  | failed {e : Error} {faults : Faults} {log : List LogEntry} (commit : faults.commit = false)
    (exec : later.exec w = (.error e, { w with faults, log })) : Ends f id stored found later w

/-- A record is put in the place of another one. -/
theorem Replaces.of_put {new : Record} {files : Files} (hs : files.Sound) (hnew : new.Sound)
    (hwritable : Json.isWritable new.toDocument = true) (hown : new.id = .text id) :
    Replaces f id new files (files.put (f.records.place id) (.text new.write)) where
  stores := ⟨Files.get?_put_self _ _ _, hnew, hwritable, hown⟩
  sound := hs.put (.record f.records id hnew hwritable hown)
  others p _ hp := Files.get?_put_of_ne hp _ _
  there := by
    rw [Files.has_eq, Files.has_eq]
    exact congrArg Option.isSome (Files.get?_put_of_ne (f.records.place_ne _ _ _).symm _ _)

/-- Then stored tables are put in the place of others. -/
theorem Replaces.put_database {new : Record} {files files' : Files} (h : Replaces f id new files files')
    (hthere : files.has (Store.place f.data id) = true) (db : Storage.Database) :
    Replaces f id new files (files'.put (Store.place f.data id) (.database db)) where
  stores := ⟨(Files.get?_put_of_ne (f.records.place_ne _ _ _) _ _).trans h.stores.file,
    h.stores.sound, h.stores.writable, h.stores.own⟩
  sound := h.sound.put (.tables f.data id db)
  others p hp hp' := (Files.get?_put_of_ne hp _ _).trans (h.others p hp hp')
  there := by rw [hthere, Files.has_eq, Files.get?_put_self, Option.isSome_some]

theorem finishRevision_ends (hs : w.files.Sound) (hstored : f.records.Stores id stored w.files)
    (hfound : found.Sound) (hid : found.id = .text id) (hcommit : w.faults.commit = false)
    {revision : Revision α} (hr : revision.Lawful) :
    Ends f id stored found (finishRevision f found revision).silent w := by
  rcases finishRevision_cases hstored.finds hfound hid hr with
    ⟨a, revised, faults, hversion, hrev, hcounted, hwrites, hexec⟩ |
      ⟨-, e, faults, hfaults, -, hexec⟩
  swap
  · have hfailed : (finishRevision f found revision).silent.exec w =
        (.error e, { w with faults, log := w.log }) := by
      rw [exec_silent, hexec]
      rfl
    exact .failed (hfaults.commit.trans hcommit) hfailed
  have hleft : f.records.Leaves w.faults faults := .inr hcounted
  obtain ⟨hrevised, hown⟩ := hr.sound hfound hrev
  refine .done hversion (.of_put hs (replacement_sound found hrevised w.time) hwrites.1
    (hown.trans hid)) rfl (hleft.commit.trans hcommit) (by rw [exec_silent, hexec]; rfl)
    fun before => ?_
  have hnothing := f.records.counted?_nothing
  rcases finishRevision_cases (w := { files := w.files, time := w.time, log := before }) hstored.finds
    hfound hid hr with ⟨a', revised', faults', -, hrev', hcounted', -, hexec'⟩ | ⟨hcannot, -⟩
  · obtain ⟨⟩ := hrev.symm.trans hrev'
    obtain ⟨⟩ := hnothing.symm.trans hcounted'
    exact ⟨_, by rw [exec_silent, hexec']; rfl⟩
  · exact absurd ⟨hwrites.1, rfl⟩ (hcannot hversion a revised {} hrev hnothing)

theorem finishChange_ends (hs : w.files.Sound) (hstored : f.records.Stores id stored w.files)
    (hfound : found.Sound) (hid : found.id = .text id) (hcommit : w.faults.commit = false)
    (tables : w.files.has (Store.place f.data id) = true) {change : Change α} (hc : change.Lawful)
    (action : String) {note : α → Operation Unit} (hquiet : ∀ a, (note a).Quiet) :
    Ends f id stored found
      (do note (← finishChange f (Store.place f.data id) found action change)) w := by
  have hthere := tables
  rw [Files.has_eq] at hthere
  obtain ⟨file, hfile⟩ := Option.isSome_iff_exists.mp hthere
  obtain ⟨db, rfl⟩ := hs.database hfile
  rcases finishChange_cases hstored.finds hfile hfound hid hc action with
    ⟨out, faults, log, hversion, hchange, hcounted, hwrites, hexec⟩ |
      ⟨-, e, faults, log, hfaults, -, hexec⟩
  swap
  · exact .failed (hfaults.commit.trans hcommit) (by rw [exec_bind, hexec])
  obtain ⟨hchanged, hown⟩ := hc.sound hfound hchange
  have hreplaces := Replaces.of_put (f := f) hs (replacement_sound found hchanged w.time) hwrites.1
    (hown.trans hid)
  have hleft : f.records.Leaves w.faults faults := .inr hcounted
  have hoff := hleft.commit.trans hcommit
  rw [exec_kept hoff] at hexec
  obtain ⟨b, after, hnote⟩ := hquiet out.answer {
    swapped f id (replacement found out.record w.time) faults log w with
    files := (swapped f id (replacement found out.record w.time) faults log w).files.put
      (Store.place f.data id) (.database out.stored) }
  refine .done hversion (hreplaces.put_database tables out.stored) rfl hoff
    (by rw [exec_bind, hexec]; exact hnote) fun before => ?_
  have hnothing := f.records.counted?_nothing
  rcases finishChange_cases (w := { files := w.files, time := w.time, log := before }) hstored.finds
    hfile hfound hid hc action with
    ⟨out', faults', log', -, hchange', hcounted', -, hexec'⟩ | ⟨hcannot, -⟩
  · obtain ⟨⟩ := hchange.symm.trans hchange'
    obtain ⟨⟩ := hnothing.symm.trans hcounted'
    rw [exec_kept rfl] at hexec'
    obtain ⟨b', after', hnote'⟩ := hquiet out.answer _
    exact ⟨after', by rw [exec_bind, hexec']; exact hnote'⟩
  · exact absurd ⟨hwrites.1, rfl⟩ (hcannot hversion out {} hchange hnothing)

theorem Second.ends (h : Second f id (w.files.has (Store.place f.data id)) found later)
    (hs : w.files.Sound) (hstored : f.records.Stores id stored w.files) (hfound : found.Sound)
    (hid : found.id = .text id) (hcommit : w.faults.commit = false) :
    Ends f id stored found later w := by
  cases h with
  | revision lawful => exact finishRevision_ends hs hstored hfound hid hcommit lawful
  | change action tables lawful quiet =>
    exact finishChange_ends hs hstored hfound hid hcommit tables lawful action quiet

end Cabinet.Schema

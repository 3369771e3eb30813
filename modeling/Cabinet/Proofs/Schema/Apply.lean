import Cabinet.Proofs.Schema.Lawful
import Cabinet.Proofs.Workspace.Stores
import Cabinet.Schema.Apply

/-!
How a revision of a record can end, and a change of a record and of stored tables.
-/

namespace Cabinet

namespace Schema

open Operation Storage

variable {α : Type} {f : Folders} {id action : String} {w : World} {found : Record} {db : Database}

/-- A record as it is written in the place of another one. -/
def replacement (found r : Record) (time : Int) : Record :=
  { r with
    modifiedAt := .text (String.ofList (Calendar.momentText time))
    version := found.version + 1 }

theorem replacement_sound (found : Record) {r : Record} (h : r.Sound) (time : Int) :
    (replacement found r time).Sound :=
  (h.relabel h.id h.displayName (Json.isPlain_text _)).at_version _

/-- The record of a database is there, a revision of it succeeds, and its result can be written. -/
structure Revises (f : Folders) (id : String) (revision : Revision α) (w : World) (found : Record)
    (a : α) (revised : Record) (faults : Faults) : Prop where
  stores : f.records.Stores id found w.files
  revision : revision found = .ok (a, revised)
  counted : f.records.counted? w.faults = some faults
  writes : RecordFolder.CanWrite (replacement found revised w.time) faults

/-- A revision of a record that was read is written if its version is still the one that is stored;
otherwise it fails and no file changes. -/
theorem finishRevision_cases {stored : Record} (hstored : f.records.Finds id stored w.files)
    (hs : found.Sound) (hid : found.id = .text id) {revision : Revision α} (hr : revision.Lawful) :
    (∃ a revised faults, stored.version = found.version ∧ revision found = .ok (a, revised) ∧
      f.records.counted? w.faults = some faults ∧
      RecordFolder.CanWrite (replacement found revised w.time) faults ∧
      (finishRevision f found revision).exec w =
        (.ok a, f.records.written id (replacement found revised w.time) { w with faults })) ∨
      (stored.version = found.version → ∀ a revised faults, revision found = .ok (a, revised) →
        f.records.counted? w.faults = some faults →
          ¬RecordFolder.CanWrite (replacement found revised w.time) faults) ∧
        ∃ e faults, f.records.Leaves w.faults faults ∧
          e.kind ≠ .inconsistent ∧
          (finishRevision f found revision).exec w = (.error e, { w with faults }) := by
  cases hrev : revision found with
  | error e =>
    refine .inr ⟨by simp, e, w.faults, .inl rfl, hr.calm found e hrev, ?_⟩
    simp only [finishRevision, exec_bind, exec_of, hrev]
  | ok result =>
    obtain ⟨a, revised⟩ := result
    have hid' : revised.id = .text id := (hr.sound hs hrev).2.trans hid
    rcases hstored.swap_cases (r := { revised with
        modifiedAt := .text (String.ofList (Calendar.momentText w.time)) }) hid' found.version with
      ⟨hversion, faults, hcounted, hwrites, hswap⟩ | ⟨hcannot, e, faults, hleft, hcalm, hswap⟩
    · refine .inl ⟨a, revised, faults, hversion, rfl, hcounted, hwrites, ?_⟩
      simp only [finishRevision, exec_bind, exec_of, hrev, exec_stamp, hswap, exec_pure]
      rfl
    · refine .inr ⟨fun hversion a' revised' faults' h => ?_, e, faults, hleft, hcalm, ?_⟩
      · obtain ⟨rfl, rfl⟩ : a = a' ∧ revised = revised' := by simpa using h
        exact hcannot hversion faults'
      · simp only [finishRevision, exec_bind, exec_of, hrev, exec_stamp, hswap]

/-- A revision is written, or it fails and no file changes. -/
theorem applyRevision_cases (f : Folders) (id : String) (hs : w.files.Sound) {revision : Revision α}
    (hr : revision.Lawful) :
    (∃ found a revised faults, Revises f id revision w found a revised faults ∧
      (applyRevision f id revision).exec w =
        (.ok a, f.records.written id (replacement found revised w.time) { w with faults })) ∨
      (∀ found a revised faults, ¬Revises f id revision w found a revised faults) ∧
        ∃ e faults, f.records.Leaves w.faults faults ∧ e.kind ≠ .inconsistent ∧
          (applyRevision f id revision).exec w = (.error e, { w with faults }) := by
  rcases f.records.read_cases hs id with ⟨found, hstores, hread⟩ | ⟨hnone, hread⟩
  swap
  · refine .inr ⟨fun _ _ _ _ h => by simp [h.stores.file] at hnone, .recordMissing (.text id),
      w.faults, .inl rfl, nofun, ?_⟩
    simp only [applyRevision, exec_bind, hread]
  have hstart : (applyRevision f id revision).exec w = (finishRevision f found revision).exec w := by
    simp only [applyRevision, exec_bind, hread]
  rw [hstart]
  rcases finishRevision_cases hstores.finds hstores.sound hstores.own hr with
    ⟨a, revised, faults, -, hrev, hcounted, hwrites, hexec⟩ | ⟨hcannot, e, faults, hleft, hcalm, hexec⟩
  · exact .inl ⟨found, a, revised, faults, ⟨hstores, hrev, hcounted, hwrites⟩, hexec⟩
  · refine .inr ⟨fun found' a revised faults' h => ?_, e, faults, hleft, hcalm, hexec⟩
    obtain rfl := h.stores.unique hstores
    exact hcannot rfl a revised faults' h.revision h.counted h.writes

/-- What a revision writes in the place of a record is a record of the same id. -/
theorem Revises.replaces {revision : Revision α} {a : α} {revised : Record} {faults : Faults}
    {files : Files} (h : Revises f id revision w found a revised faults) (hr : revision.Lawful)
    (hf : files.get? (f.records.place id) =
      some (.text (replacement found revised w.time).write)) :
    f.records.Stores id (replacement found revised w.time) files := by
  obtain ⟨hs, hid⟩ := hr.sound h.stores.sound h.revision
  exact ⟨hf, replacement_sound _ hs w.time, h.writes.1, hid.trans h.stores.own⟩

/-- A revision that is refused leaves everything as it is. -/
theorem exec_applyRevision_refused (hstores : f.records.Stores id found w.files)
    {revision : Revision α} {e : Error} (h : revision found = .error e) :
    (applyRevision f id revision).exec w = (.error e, w) := by
  simp only [applyRevision, finishRevision, exec_bind, hstores.read, exec_of, h]

/-- A change that is refused leaves everything as it is. -/
theorem exec_applyChange_refused (hstores : f.records.Stores id found w.files)
    (hdb : w.files.get? (Store.place f.data id) = some (.database db)) {change : Change α} {e : Error}
    (h : change found db = .error e) (action : String) :
    (applyChange f id action change).exec w = (.error e, w) := by
  simp only [applyChange, finishChange, exec_bind, Store.exec_existing, Files.has_eq, hdb,
    Option.isSome_some, if_true, hstores.read, Store.exec_beginTransaction hdb, exec_of, h]

/-- A change is made, and the record is written: what is left is to keep what was stored. -/
structure Changes (f : Folders) (id : String) (change : Change α) (w : World) (found : Record)
    (db : Database) (out : Outcome α) (faults : Faults) : Prop where
  stores : f.records.Stores id found w.files
  tables : w.files.get? (Store.place f.data id) = some (.database db)
  change : change found db = .ok out
  counted : f.records.counted? w.faults = some faults
  writes : RecordFolder.CanWrite (replacement found out.record w.time) faults

/-- What is written in the place of a record is a record of the same id. -/
theorem Changes.replaces {change : Change α} {out : Outcome α} {faults : Faults} {files : Files}
    (h : Changes f id change w found db out faults) (hc : change.Lawful)
    (hf : files.get? (f.records.place id) =
      some (.text (replacement found out.record w.time).write)) :
    f.records.Stores id (replacement found out.record w.time) files := by
  obtain ⟨hs, hid⟩ := hc.sound h.stores.sound h.change
  exact ⟨hf, replacement_sound _ hs w.time, h.writes.1, hid.trans h.stores.own⟩

theorem exec_forM_log (level : Level) (source : String) (texts : List String) (w : World) :
    ∃ entries, (texts.forM (log level source)).exec w = (.ok (), { w with log := entries ++ w.log }) := by
  induction texts generalizing w with
  | nil => exact ⟨[], rfl⟩
  | cons text rest ih =>
    obtain ⟨entries, hrest⟩ := ih { w with log := ⟨level, source, text⟩ :: w.log }
    exact ⟨entries ++ [⟨level, source, text⟩], by
      simpa [List.forM_cons, exec_bind] using hrest⟩

/-- The world in which a record has been written and the stored tables have not. -/
def swapped (f : Folders) (id : String) (r : Record) (faults : Faults) (log : List LogEntry)
    (w : World) : World :=
  f.records.written id r { w with faults, log }

/-- A change of a record that was read is made up to the commit if its version is still the one that
is stored; otherwise it fails and no file changes. -/
theorem finishChange_cases {stored : Record} (hstored : f.records.Finds id stored w.files)
    (hdb : w.files.get? (Store.place f.data id) = some (.database db)) (hs : found.Sound)
    (hid : found.id = .text id) {change : Change α} (hc : change.Lawful) (action : String) :
    (∃ out faults log, stored.version = found.version ∧ change found db = .ok out ∧
      f.records.counted? w.faults = some faults ∧
      RecordFolder.CanWrite (replacement found out.record w.time) faults ∧
      (finishChange f (Store.place f.data id) found action change).exec w = Operation.exec (do
        try
          Store.commit (Store.place f.data id) out.stored
        catch e =>
          restore f found (replacement found out.record w.time) action e
          throw e
        return out.answer) (swapped f id (replacement found out.record w.time) faults log w)) ∨
      (stored.version = found.version → ∀ out faults, change found db = .ok out →
        f.records.counted? w.faults = some faults →
          ¬RecordFolder.CanWrite (replacement found out.record w.time) faults) ∧
        ∃ e faults log, f.records.Leaves w.faults faults ∧
          e.kind ≠ .inconsistent ∧
          (finishChange f (Store.place f.data id) found action change).exec w =
            (.error e, { w with faults, log }) := by
  cases hchange : change found db with
  | error e =>
    refine .inr ⟨by simp, e, w.faults, w.log, .inl rfl, hc.calm found db e hchange, ?_⟩
    simp only [finishChange, exec_bind, Store.exec_beginTransaction hdb, exec_of, hchange]
  | ok out =>
    -- Warnings are told before the record is written, also where writing it fails.
    obtain ⟨entries, hlog⟩ := exec_forM_log .warning source out.warnings w
    have hid' : out.record.id = .text id := (hc.sound hs hchange).2.trans hid
    have hstored' : f.records.Finds id stored { w with log := entries ++ w.log }.files := hstored
    rcases hstored'.swap_cases (r := { out.record with
        modifiedAt := .text (String.ofList (Calendar.momentText w.time)) }) hid' found.version with
      ⟨hversion, faults, hcounted, hwrites, hswap⟩ | ⟨hcannot, e, faults, hleft, hcalm, hswap⟩
    · refine .inl ⟨out, faults, entries ++ w.log, hversion, rfl, hcounted, hwrites, ?_⟩
      simp only [exec_bind, finishChange, Store.exec_beginTransaction hdb, exec_of, hchange, hlog,
        exec_stamp, hswap]
      rfl
    · refine .inr ⟨fun hversion out' faults' h => ?_, e, faults, entries ++ w.log, hleft, hcalm, ?_⟩
      · obtain rfl : out = out' := by simpa using h
        exact hcannot hversion faults'
      · simp only [exec_bind, finishChange, Store.exec_beginTransaction hdb, exec_of, hchange, hlog,
          exec_stamp, hswap]

/-- Either all is done but to keep what was stored, or the change has failed and no file changes. -/
theorem applyChange_cases (hs : w.files.Sound) {change : Change α} (hc : change.Lawful)
    (action : String) :
    (∃ found db out faults log, Changes f id change w found db out faults ∧
      (applyChange f id action change).exec w = Operation.exec (do
        try
          Store.commit (Store.place f.data id) out.stored
        catch e =>
          restore f found (replacement found out.record w.time) action e
          throw e
        return out.answer) (swapped f id (replacement found out.record w.time) faults log w)) ∨
      (∀ found db out faults, ¬Changes f id change w found db out faults) ∧
        ∃ e faults log, f.records.Leaves w.faults faults ∧ e.kind ≠ .inconsistent ∧
          (applyChange f id action change).exec w = (.error e, { w with faults, log }) := by
  cases hthere : w.files.get? (Store.place f.data id) with
  | none =>
    refine .inr ⟨fun _ _ _ _ h => by simp [h.tables] at hthere, .databaseMissing id, w.faults, w.log,
      .inl rfl, nofun, ?_⟩
    simp only [applyChange, exec_bind, Store.exec_existing, Files.has_eq, hthere,
      Option.isSome_none, Bool.false_eq_true, if_false]
  | some file =>
  obtain ⟨db, rfl⟩ := hs.database hthere
  have hstart : (applyChange f id action change).exec w =
      (f.records.read id >>= fun found =>
        finishChange f (Store.place f.data id) found action change).exec w := by
    simp only [applyChange, exec_bind, Store.exec_existing, Files.has_eq, hthere,
      Option.isSome_some, if_true]
  rw [hstart]
  rcases f.records.read_cases hs id with ⟨found, hstores, hread⟩ | ⟨hnone, hread⟩
  swap
  · refine .inr ⟨fun _ _ _ _ h => by simp [h.stores.file] at hnone, .recordMissing (.text id),
      w.faults, w.log, .inl rfl, nofun, ?_⟩
    simp only [exec_bind, hread]
  simp only [exec_bind, hread]
  rcases finishChange_cases hstores.finds hthere hstores.sound hstores.own hc action with
    ⟨out, faults, log, -, hchange, hcounted, hwrites, hexec⟩ |
      ⟨hcannot, e, faults, log, hleft, hcalm, hexec⟩
  · refine .inl ⟨found, db, out, faults, log, ⟨hstores, hthere, hchange, hcounted, hwrites⟩, ?_⟩
    simpa only [exec_bind] using hexec
  · refine .inr ⟨fun found' db' out faults' h => ?_, e, faults, log, hleft, hcalm, hexec⟩
    obtain rfl := h.stores.unique hstores
    obtain rfl : db = db' := by simpa [hthere] using h.tables
    exact hcannot rfl out faults' h.change h.counted h.writes

/-- The record that is put back after a change was not kept. -/
def restored (found : Record) : Record :=
  { found with version := found.version + 2 }

/-- Whether a record can be put back, given the faults that are left after it was replaced. -/
def CanRestore (f : Folders) (found : Record) (faults : Faults) : Prop :=
  ∃ left, f.records.counted? faults = some left ∧ RecordFolder.CanWrite (restored found) left

/-- A record is put back, or the failure tells that record and stored tables have diverged. -/
theorem restore_cases {written : Record} (hw : f.records.Stores id written w.files)
    (hid : found.id = .text id) (hv : written.version = found.version + 1) (action : String)
    (cause : Error) :
    (CanRestore f found w.faults ∧ ∃ left log,
      (restore f found written action cause).exec w =
        (.ok (), f.records.written id (restored found) { w with faults := left, log })) ∨
      (¬CanRestore f found w.faults ∧ ∃ e left log, e.kind = .inconsistent ∧
        (restore f found written action cause).exec w =
          (.error e, { w with faults := left, log })) := by
  have hlog := exec_log .warning source ("Commit failed during " ++ action ++ " on database '" ++
    Error.plainText found.id ++ "'; restoring metadata") w
  generalize _ :: w.log = entries at hlog
  have hw' : f.records.Stores id written { w with log := entries }.files :=
    ⟨hw.file, hw.sound, hw.writable, hw.own⟩
  have hrestored : restored found = { found with version := written.version + 1 } := by
    rw [restored, hv, Int.add_assoc]
    rfl
  rcases hw'.swap_cases hid with
    ⟨left, hcounted, hwrites, hswap⟩ | ⟨hcannot, e, left, -, -, hswap⟩
  · refine .inl ⟨⟨left, hcounted, hrestored ▸ hwrites⟩, left, entries, ?_⟩
    simp only [restore, exec_bind, hlog, exec_tryCatch, hswap, exec_pure, hrestored]
  · have hfailed := exec_log .error source ("Metadata restore failed during " ++ action ++
      " on database '" ++ Error.plainText found.id ++ "': " ++ e.message)
      { w with faults := left, log := entries }
    generalize _ :: entries = after at hfailed
    refine .inr ⟨?_, .schemaDiverged found.id action cause.message e.message, left, after, rfl, ?_⟩
    · rintro ⟨left', hcounted, hwrites⟩
      exact hcannot left' hcounted (hrestored ▸ hwrites)
    · simp only [restore, exec_bind, hlog, exec_tryCatch, hswap, hfailed, exec_throw]

/-- How a change of a database can end: nothing has come of it; or all of it is kept; or it could
not be kept and the record is put back; or the record could not be put back either. -/
inductive Ended (f : Folders) (id : String) (change : Change α) (w : World) :
    Except Error α × World → Prop
  | refused {e : Error} {faults : Faults} {log : List LogEntry}
    (unchanged : ∀ found db out faults, ¬Changes f id change w found db out faults)
    (leaves : f.records.Leaves w.faults faults) (calm : e.kind ≠ .inconsistent) :
    Ended f id change w (.error e, { w with faults, log })
  | kept {found db out faults log} (changed : Changes f id change w found db out faults)
    (commit : w.faults.commit = false) :
    Ended f id change w (.ok out.answer, {
      w with
      files := (w.files.put (f.records.place id)
        (.text (replacement found out.record w.time).write)).put (Store.place f.data id)
          (.database out.stored)
      faults, log })
  | undone {found db out faults left log} {e : Error}
    (changed : Changes f id change w found db out faults) (commit : w.faults.commit = true)
    (restores : CanRestore f found faults) (calm : e.kind ≠ .inconsistent) :
    Ended f id change w (.error e, {
      w with
      files := (w.files.put (f.records.place id)
        (.text (replacement found out.record w.time).write)).put (f.records.place id)
          (.text (restored found).write)
      faults := left, log })
  | diverged {found db out faults left log} {e : Error}
    (changed : Changes f id change w found db out faults) (commit : w.faults.commit = true)
    (stuck : ¬CanRestore f found faults) (inconsistent : e.kind = .inconsistent) :
    Ended f id change w (.error e, {
      w with
      files := w.files.put (f.records.place id) (.text (replacement found out.record w.time).write)
      faults := left, log })

/-- Where commits do not fail, what was stored is kept after the record has been written. -/
theorem exec_kept {out : Outcome α} {r : Record} {faults : Faults} (hcommit : faults.commit = false)
    (action : String) (log : List LogEntry) (w : World) :
    Operation.exec (do
      try
        Store.commit (Store.place f.data id) out.stored
      catch e =>
        restore f found r action e
        throw e
      return out.answer) (swapped f id r faults log w) =
        (.ok out.answer, { swapped f id r faults log w with
          files := (swapped f id r faults log w).files.put (Store.place f.data id)
            (.database out.stored) }) := by
  have hoff : (swapped f id r faults log w).faults.commit = false := hcommit
  have hkept := Store.exec_commit (Store.place f.data id) out.stored (swapped f id r faults log w)
  rw [hoff, if_neg Bool.false_ne_true] at hkept
  rw [exec_bind, exec_tryCatch, hkept]
  rfl

theorem applyChange_ended (f : Folders) (id : String) (hs : w.files.Sound) {change : Change α}
    (hc : change.Lawful) (action : String) : Ended f id change w ((applyChange f id action change).exec w) := by
  rcases applyChange_cases hs hc action with
    ⟨found, db, out, faults, log, hchanged, hexec⟩ | ⟨hunchanged, e, faults, log, hleft, hcalm, hexec⟩
  swap
  · exact hexec ▸ .refused hunchanged hleft hcalm
  have hfaults := RecordFolder.Leaves.commit (.inr hchanged.counted)
  have hstores : f.records.Stores id (replacement found out.record w.time)
      (swapped f id (replacement found out.record w.time) faults log w).files :=
    hchanged.replaces hc (Files.get?_put_self _ _ _)
  cases hf : w.faults.commit with
  | false =>
    rw [hexec, exec_kept (hfaults.trans hf)]
    exact .kept hchanged hf
  | true =>
    -- The record has been written already, and it depends on the faults whether it can be put back.
    have hon : faults.commit = true := hfaults.trans hf
    have hcommit := Store.exec_commit (Store.place f.data id) out.stored
      (swapped f id (replacement found out.record w.time) faults log w)
    rw [hexec, exec_bind, exec_tryCatch, hcommit]
    simp only [swapped, RecordFolder.written, hon, if_true, exec_bind]
    rcases restore_cases (w := swapped f id (replacement found out.record w.time) faults log w)
      hstores hchanged.stores.own rfl action (.storage "commit transaction" .diskError) with
      ⟨hcan, left, log', hrestore⟩ | ⟨hcannot, e, left, log', hinc, hrestore⟩
    · simp only [swapped, RecordFolder.written] at hrestore
      simp only [hrestore, exec_throw]
      exact .undone hchanged hf hcan (by simp [Error.kind])
    · simp only [swapped, RecordFolder.written] at hrestore
      simp only [hrestore]
      exact .diverged hchanged hf hcannot hinc

end Schema

end Cabinet

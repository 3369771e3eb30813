import Cabinet.Proofs.Databases
import Cabinet.Proofs.Schema.Halves

/-!
What requests make of records. What is made is sound, it is what a request that succeeds leaves behind,
and it is read as it was written.
-/

namespace Cabinet

open Operation

namespace Schema

variable {f : Folders} {id : String} {w w' : World} {r r' : Record} {db db' : Storage.Database}
  {first : Operation (Option (Operation Unit))} {making : Making}

theorem made_eq_ok {α : Type} {revision : Revision α} :
    revision.made r db = .ok (some (r', db')) ↔ (∃ a, revision r = .ok (a, r')) ∧ db' = db := by
  simp only [Revision.made, bind_eq_ok_iff, pure_eq_ok, Except.ok.injEq, Option.some.injEq,
    Prod.mk.injEq, Prod.exists]
  constructor
  · rintro ⟨a, _, hrev, rfl, rfl⟩
    exact ⟨⟨a, hrev⟩, rfl⟩
  · rintro ⟨⟨a, hrev⟩, rfl⟩
    exact ⟨a, r', hrev, rfl, rfl⟩

theorem changed_eq_ok {α : Type} {change : Change α} :
    change.made r db = .ok (some (r', db')) ↔
      ∃ out, change r db = .ok out ∧ out.record = r' ∧ out.stored = db' := by
  simp only [Change.made, bind_eq_ok_iff, pure_eq_ok, Except.ok.injEq, Option.some.injEq,
    Prod.mk.injEq]

/-- A change that is noted is kept, so that the record and the stored tables are those that it makes; or
it fails, which it does only where it cannot be made or commits fail. -/
theorem applyChange_noted_cases {α : Type} (hs : w.files.Sound) {change : Change α}
    (hc : change.Lawful) (action : String) {note : α → Operation Unit} (hquiet : ∀ a, (note a).Quiet) :
    (∃ found db out faults w', Changes f id change w found db out faults ∧
      (applyChange f id action change >>= note).exec w = (.ok (), w') ∧
      f.records.Stores id (replacement found out.record w.time) w'.files ∧
      w'.files.get? (Store.place f.data id) = some (.database out.stored)) ∨
    (w.faults.commit = false → ∀ found db out faults, ¬Changes f id change w found db out faults) ∧
      ∃ e w', (applyChange f id action change >>= note).exec w = (.error e, w') := by
  rw [exec_bind]
  have hended := applyChange_ended f id hs hc action
  generalize (applyChange f id action change).exec w = result at hended ⊢
  cases hended with
  | refused unchanged => exact .inr ⟨fun _ => unchanged, _, _, rfl⟩
  | undone _ commit => exact .inr ⟨fun hno => absurd (hno.symm.trans commit) nofun, _, _, rfl⟩
  | diverged _ commit => exact .inr ⟨fun hno => absurd (hno.symm.trans commit) nofun, _, _, rfl⟩
  | @kept found db out faults log changed _ =>
    obtain ⟨b, after, hnote⟩ := hquiet out.answer {
      w with
      files := (w.files.put (f.records.place id)
        (.text (replacement found out.record w.time).write)).put (Store.place f.data id)
          (.database out.stored)
      faults, log }
    refine .inl ⟨found, db, out, faults, _, changed, hnote, changed.replaces hc ?_,
      Files.get?_put_self _ _ _⟩
    exact (Files.get?_put_of_ne (f.records.place_ne _ _ _) _ _).trans (Files.get?_put_self _ _ _)

/-- What is made of a sound record is a sound record of the same id. -/
theorem Begins.sound (h : Begins f id first making) (hr : r.Sound)
    (hmade : making r db = .ok (some (r', db'))) : r'.Sound ∧ r'.id = r.id := by
  induction h with
  | answered => simp at hmade
  | revision lawful =>
    obtain ⟨⟨a, hrev⟩, -⟩ := made_eq_ok.mp hmade
    exact lawful.sound hr hrev
  | change action lawful quiet =>
    obtain ⟨out, hchange, rfl, -⟩ := changed_eq_ok.mp hmade
    exact lawful.sound hr hchange
  | check calm _ ih =>
    obtain ⟨a, ha, hmade⟩ := bind_eq_ok_iff.mp hmade
    exact ih a ha hmade
  | reading _ ih => exact ih r hmade

/-- A record has taken the place of one that was read, as the making says. -/
structure Makes (f : Folders) (id : String) (making : Making) (w w' : World) (found r : Record)
    (db db' : Storage.Database) : Prop where
  before : f.records.Stores id found w.files
  tables : ∀ {stored}, w.files.get? (Store.place f.data id) = some (.database stored) → stored = db
  made : making found db = .ok (some (r, db'))
  after : f.records.Stores id (replacement found r w.time) w'.files
  stored : ∀ {stored}, w.files.get? (Store.place f.data id) = some (.database stored) →
    w'.files.get? (Store.place f.data id) = some (.database db')

/-- A request makes nothing: of any record, or of the one that is stored. -/
def MakesNothing (f : Folders) (id : String) (making : Making) (files : Files) : Prop :=
  (∀ r db, making r db = .ok none) ∨
    ∃ found, f.records.Stores id found files ∧ ∀ db, making found db = .ok none

/-- A request that succeeds has changed no file as there was nothing to make, or it has left behind what
it makes of the record. -/
theorem Begins.makes (h : Begins f id first making) (hs : w.files.Sound)
    (hok : (first >>= Request.rest).exec w = (.ok (), w')) :
    w'.files = w.files ∧ MakesNothing f id making w.files ∨
      ∃ found r db db', Makes f id making w w' found r db db' := by
  induction h with
  | answered =>
    obtain rfl := (Prod.ext_iff.mp hok).2
    exact .inl ⟨rfl, .inl fun _ _ => rfl⟩
  | @revision _ revision lawful =>
    rw [Request.beginRevision_rest, exec_silent] at hok
    rcases applyRevision_cases f id hs lawful with
      ⟨found, a, revised, faults, hrev, hexec⟩ | ⟨-, e, faults, -, -, hexec⟩
    swap
    · rw [hexec] at hok
      cases (Prod.ext_iff.mp hok).1
    rw [hexec] at hok
    obtain rfl := (Prod.ext_iff.mp hok).2
    have hstores := hrev.replaces lawful (Files.get?_put_self _ _ w.files)
    -- A revision leaves alone whatever is stored, if anything is.
    have hkept := Files.get?_put_of_ne (f.records.place_ne f.data id id).symm
      (.text (replacement found revised w.time).write) w.files
    cases hfile : w.files.get? (Store.place f.data id) with
    | none =>
      refine .inr ⟨found, revised, {}, {}, hrev.stores, fun h => ?_,
        made_eq_ok.mpr ⟨⟨a, hrev.revision⟩, rfl⟩, hstores, fun h => ?_⟩
      · cases hfile.symm.trans h
      · cases hfile.symm.trans h
    | some file =>
      obtain ⟨db, rfl⟩ := hs.database hfile
      refine .inr ⟨found, revised, db, db, hrev.stores, fun h => ?_,
        made_eq_ok.mpr ⟨⟨a, hrev.revision⟩, rfl⟩, hstores, fun _ => hkept.trans hfile⟩
      obtain ⟨⟩ := hfile.symm.trans h
      rfl
  | @change _ change note action lawful quiet =>
    rw [Request.beginChange_rest] at hok
    rcases applyChange_noted_cases hs lawful action quiet with
      ⟨found, db, out, faults, after, changed, hexec, hstores, htables⟩ | ⟨-, e, after, hexec⟩
    swap
    · cases (Prod.ext_iff.mp (hexec.symm.trans hok)).1
    obtain rfl := (Prod.ext_iff.mp (hexec.symm.trans hok)).2
    refine .inr ⟨found, out.record, db, out.stored, changed.stores, fun h => ?_,
      changed_eq_ok.mpr ⟨out, changed.change, rfl, rfl⟩, hstores, fun _ => htables⟩
    obtain ⟨⟩ := changed.tables.symm.trans h
    rfl
  | @check _ x next making calm _ ih =>
    rw [bind_assoc, exec_bind, exec_of] at hok
    cases x with
    | error e => cases (Prod.ext_iff.mp hok).1
    | ok a => exact ih a rfl hok
  | @reading next making _ ih =>
    rw [bind_assoc, exec_bind] at hok
    rcases f.records.read_cases hs id with ⟨read, hstores, hread⟩ | ⟨-, hread⟩
    swap
    · rw [hread] at hok
      cases (Prod.ext_iff.mp hok).1
    rw [hread] at hok
    rcases ih read hok with ⟨hsame, hnothing⟩ | ⟨found, r, db, db', hmakes⟩
    · refine .inl ⟨hsame, .inr ⟨read, hstores, fun db => ?_⟩⟩
      rcases hnothing with hany | ⟨found, hfound, hnone⟩
      · exact hany read db
      · exact (hstores.unique hfound) ▸ hnone db
    · obtain rfl := hstores.unique hmakes.before
      exact .inr ⟨read, r, db, db', hmakes.before, hmakes.tables, hmakes.made, hmakes.after,
        hmakes.stored⟩

/-- A database whose record can be read, and a workspace in which nothing fails. -/
structure Ready (f : Folders) (id : String) (found : Record) (db : Storage.Database) (w : World) :
    Prop where
  stores : f.records.Stores id found w.files
  tables : w.files.get? (Store.place f.data id) = some (.database db)
  faults : w.faults = {}

/-- How a request ends where nothing fails, going by what it makes: it is refused; or it is answered;
or the record and the stored tables are those that it makes. -/
inductive Yields (f : Folders) (id : String) (found : Record) (w : World) :
    Except Error (Option (Record × Storage.Database)) → Except Error Unit × World → Prop
  | refused (e : Error) : Yields f id found w (.error e) (.error e, w)
  | answered : Yields f id found w (.ok none) (.ok (), w)
  | made {r : Record} {db : Storage.Database} {w' : World}
    (stores : f.records.Stores id (replacement found r w.time) w'.files)
    (tables : w'.files.get? (Store.place f.data id) = some (.database db)) :
    Yields f id found w (.ok (some (r, db))) (.ok (), w')

/-- Where nothing fails, a request does what it makes. -/
theorem Begins.yields (h : Begins f id first making) (hs : w.files.Sound) (hready : Ready f id r db w)
    (hwritable : ∀ r' db', making r db = .ok (some (r', db')) →
      Json.isWritable (replacement r r' w.time).toDocument = true) :
    Yields f id r w (making r db) ((first >>= Request.rest).exec w) := by
  have hcounted : f.records.counted? w.faults = some {} := by
    rw [hready.faults, RecordFolder.counted?_nothing]
  induction h with
  | answered => exact .answered
  -- A revision leaves the stored tables as they are: it makes the record, and finds nothing that
  -- stands in its way.
  | @revision _ revision lawful =>
    rw [Request.beginRevision_rest, exec_silent]
    cases hrev : revision r with
    | error e =>
      rw [exec_applyRevision_refused hready.stores hrev, Revision.made, hrev]
      exact .refused e
    | ok result =>
      obtain ⟨a, revised⟩ := result
      have hmade : revision.made r db = .ok (some (revised, db)) := made_eq_ok.mpr ⟨⟨a, hrev⟩, rfl⟩
      have hcan := hwritable revised db hmade
      rcases applyRevision_cases f id hs lawful with
        ⟨found, a', revised', faults, hrevises, hexec⟩ | ⟨hcannot, -⟩
      swap
      · exact absurd ⟨hready.stores, hrev, hcounted, hcan, rfl⟩ (hcannot r a revised {})
      obtain rfl := hrevises.stores.unique hready.stores
      obtain ⟨⟩ := hrevises.revision.symm.trans hrev
      rw [hexec, hmade]
      refine .made (hrevises.replaces lawful (Files.get?_put_self _ _ _)) ?_
      exact (Files.get?_put_of_ne (f.records.place_ne f.data id id).symm _ _).trans hready.tables
  | @change _ change note action lawful quiet =>
    rw [Request.beginChange_rest]
    cases hchange : change r db with
    | error e =>
      rw [exec_bind, exec_applyChange_refused hready.stores hready.tables hchange, Change.made, hchange]
      exact .refused e
    | ok out =>
      have hmade : change.made r db = .ok (some (out.record, out.stored)) :=
        changed_eq_ok.mpr ⟨out, hchange, rfl, rfl⟩
      have hchanges : Changes f id change w r db out {} :=
        ⟨hready.stores, hready.tables, hchange, hcounted, hwritable _ _ hmade, rfl⟩
      rcases applyChange_noted_cases hs lawful action quiet with
        ⟨found, db', out', faults, after, changed, hexec, hstores, htables⟩ | ⟨hcannot, -⟩
      swap
      · exact absurd hchanges (hcannot (by rw [hready.faults]) _ _ _ _)
      obtain rfl := changed.stores.unique hready.stores
      obtain ⟨⟩ := changed.tables.symm.trans hready.tables
      obtain ⟨⟩ := changed.change.symm.trans hchange
      rw [hexec, hmade]
      exact .made hstores htables
  -- What is read or checked first changes nothing, so what comes after it starts in the same world.
  | @check _ x next making calm _ ih =>
    rw [bind_assoc, exec_bind, exec_of]
    cases x with
    | error e => exact .refused e
    | ok a => exact ih a rfl hwritable
  | @reading next making _ ih =>
    rw [bind_assoc, exec_bind, hready.stores.read]
    exact ih r hwritable

end Schema

end Cabinet

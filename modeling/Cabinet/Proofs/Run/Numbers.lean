import Cabinet.Proofs.Run.Copies
import Cabinet.Proofs.Run.Written

/-!
The ids of rows: no request gives one again that was given in the life of a table, wherever the table
goes, and none changes the id of a row.
-/

namespace Cabinet

open Operation Storage

variable {α : Type} {f : Folders} {agreed : Bool} {id givenTable : String} {w w' : World}
  {db db' : Database} {s : Sheet} {n n' : List Int × Int}

/-- Where a table is stored: in a database or in a backup, under a name. -/
structure Spot where
  folder : String
  id : String
  table : String

/-- The place of the stored tables among which one is. -/
def Spot.place (spot : Spot) : Place :=
  Store.place spot.folder spot.id

/-- The ids of the rows of the table at a spot, and the greatest id that was ever given there. -/
def World.numbers (w : World) (spot : Spot) : Option (List Int × Int) :=
  match w.files.get? spot.place with
  | some (.database db) => db.numbers spot.table
  | _ => none

theorem World.numbers_eq_some {spot : Spot} : w.numbers spot = some n ↔
    ∃ db, w.files.get? spot.place = some (.database db) ∧ db.numbers spot.table = some n := by
  unfold numbers
  split
  · next db hfile => simp [hfile]
  · next hno =>
    refine iff_of_false (fun h => nomatch h) ?_
    rintro ⟨db, hfile, -⟩
    exact hno db hfile

theorem World.numbers_of_stored {spot : Spot}
    (h : w.files.get? spot.place = some (.database db)) : w.numbers spot = db.numbers spot.table := by
  rw [numbers, h]

theorem World.numbers_congr {spot : Spot} (h : w'.files.get? spot.place = w.files.get? spot.place) :
    w'.numbers spot = w.numbers spot := by
  rw [numbers, h, numbers]

/-- A request that is about the table at a spot. -/
structure Spot.Goes (f : Folders) (id givenTable : String) (spot : Spot) : Prop where
  folder : spot.folder = f.data
  id : spot.id = id
  table : sameName spot.table (Name.normalize givenTable) = true

/-- What a request may do to the ids of the rows of a table: it gives a row the next id, or it drops a
row with its id, or it leaves all of them as they are. -/
inductive Renumbers (f : Folders) (spot : Spot) : Request → List Int × Int → List Int × Int → Prop
  | same (q : Request) (n : List Int × Int) : Renumbers f spot q n n
  | added {id givenTable : String} {data : List (String × Value)} {ids : List Int} {last : Int}
    (goes : spot.Goes f id givenTable) :
    Renumbers f spot (.createRow id givenTable data) (ids, last) (ids ++ [last + 1], last + 1)
  | dropped {id givenTable : String} {row : Int} {before after : List Int} {last : Int}
    (goes : spot.Goes f id givenTable) :
    Renumbers f spot (.deleteRow id givenTable row) (before ++ row :: after, last)
      (before ++ after, last)

theorem Renumbers.last_le {spot : Spot} {q : Request} (h : Renumbers f spot q n n') : n.2 ≤ n'.2 := by
  cases h with
  | same | dropped => exact Int.le_refl _
  | added => exact Int.le_of_lt (Int.lt_succ _)

theorem Renumbers.of_eq {spot : Spot} (q : Request) (hn : w.numbers spot = some n)
    (hn' : w'.numbers spot = some n') (h : w'.numbers spot = w.numbers spot) : Renumbers f spot q n n' := by
  obtain rfl : n' = n := Option.some.inj (hn'.symm.trans (h.trans hn))
  exact .same q n'

theorem World.numbers_of_sameName {folder key name : String} (h : sameName key name = true) :
    w.numbers ⟨folder, id, key⟩ = w.numbers ⟨folder, id, name⟩ := by
  simp only [numbers, Spot.place, Database.numbers_of_sameName h]

namespace Schema

/-- A change of tables and columns goes on with the numbers of the tables that it leaves. -/
theorem Mutation.continues {op : Operation α} (h : Mutation f id op) (hs : w.files.Sound)
    (hr : w.files.Regular) (hdb : w.files.get? (Store.place f.data id) = some (.database db)) :
    ∃ db', (op.exec w).2.files.get? (Store.place f.data id) = some (.database db') ∧
      db.Continues db' := by
  -- Where only the record is written, the stored tables are those that were there.
  have hrecord : ∀ {files : Files} {text : List Char},
      files.get? (Store.place f.data id) = some (.database db) →
      (files.put (f.records.place id) (.text text)).get? (Store.place f.data id) =
        some (.database db) :=
    fun hfile => (Files.get?_put_of_ne (f.records.place_ne _ _ _).symm _ _).trans hfile
  induction h with
  | revision lawful =>
    rcases applyRevision_cases f id hs lawful with
      ⟨found, a, revised, faults, -, hexec⟩ | ⟨-, e, faults, -, -, hexec⟩
    all_goals rw [hexec]
    · exact ⟨db, hrecord hdb, .refl db⟩
    · exact ⟨db, hdb, .refl db⟩
  | change action lawful =>
    have hended := applyChange_ended f id hs lawful action
    generalize (applyChange f id action _).exec w = result at hended ⊢
    cases hended with
    | refused => exact ⟨db, hdb, .refl db⟩
    | kept changed =>
      obtain ⟨⟩ := hdb.symm.trans changed.tables
      exact ⟨_, Files.get?_put_self _ _ _,
        (lawful.regular changed.stores.sound (hr.of_get? hdb) changed.change).2⟩
    -- A change that is undone or that diverges has written records only: the stored tables are
    -- written last.
    | undone => exact ⟨db, hrecord (hrecord hdb), .refl db⟩
    | diverged => exact ⟨db, hrecord hdb, .refl db⟩
  | answer x => exact ⟨db, by rwa [exec_of], .refl db⟩
  | @check _ _ x next _ _ ih =>
    rw [exec_bind, exec_of]
    cases x with
    | error e => exact ⟨db, hdb, .refl db⟩
    | ok a => exact ih a rfl
  | reading reads _ ih =>
    obtain ⟨x, -, hop⟩ := reads hs
    rw [exec_bind, hop w rfl]
    cases x with
    | error e => exact ⟨db, hdb, .refl db⟩
    | ok a => exact ih a
  | @quietly _ _ op next _ quiet ih =>
    rw [exec_bind]
    rcases hexec : op.exec w with ⟨e | a, w₁⟩ <;> rw [hexec] at ih
    · exact ih
    · obtain ⟨b, log, hquiet⟩ := quiet a w₁
      dsimp only
      rw [hquiet]
      exact ih

end Schema

namespace Storage.Sheet

variable {before after : List Row} {old new : Row}

theorem numbers_appended (h : new.id = s.counter + 1) :
    numbers { s with rows := s.rows ++ [new], counter := new.id } =
      (s.rows.map (·.id) ++ [s.counter + 1], s.counter + 1) := by
  simp only [numbers, List.map_append, List.map_cons, List.map_nil, h]

theorem numbers_changed (hsplit : s.rows = before ++ old :: after) (h : new.id = old.id) :
    numbers { s with rows := before ++ new :: after } = s.numbers := by
  simp only [numbers, hsplit, List.map_append, List.map_cons, h]

end Storage.Sheet

namespace Rows

variable {t : Table} {s' : Sheet} {row : Int} {data : List (String × Value)} {key : String}

/-- Where one table has become another, the numbers of all others are as they were. -/
theorem Replaced.numbers (h : Replaced f id givenTable t s s' w w') :
    w.numbers ⟨f.data, id, Name.normalize givenTable⟩ = some s.numbers ∧
      w'.numbers ⟨f.data, id, Name.normalize givenTable⟩ = some s'.numbers ∧
      ∀ key, sameName key (Name.normalize givenTable) = false →
        w'.numbers ⟨f.data, id, key⟩ = w.numbers ⟨f.data, id, key⟩ := by
  obtain ⟨db, hdb, hfind⟩ := h.before.stored
  obtain ⟨db', hdb', hfind'⟩ := h.after.stored
  obtain ⟨_, _, hdb₁, hdb₁', -, hothers⟩ := h.tables
  obtain ⟨⟩ := hdb.symm.trans hdb₁
  obtain ⟨⟩ := hdb'.symm.trans hdb₁'
  refine ⟨?_, ?_, fun key hkey => ?_⟩
  · rw [World.numbers_of_stored hdb, Database.numbers, hfind, Option.map_some]
  · rw [World.numbers_of_stored hdb', Database.numbers, hfind', Option.map_some]
  · rw [World.numbers_of_stored hdb', World.numbers_of_stored hdb, Database.numbers, Database.numbers,
      hothers key hkey]

/-- A table that has become another has the numbers of that one, wherever it is looked for. -/
theorem Replaced.renumbers (h : Replaced f id givenTable t s s' w w') (q : Request)
    (hn : w.numbers ⟨f.data, id, key⟩ = some n) (hn' : w'.numbers ⟨f.data, id, key⟩ = some n')
    (hq : Spot.Goes f id givenTable ⟨f.data, id, key⟩ →
      Renumbers f ⟨f.data, id, key⟩ q s.numbers s'.numbers) :
    Renumbers f ⟨f.data, id, key⟩ q n n' := by
  obtain ⟨hbefore, hafter, hothers⟩ := h.numbers
  cases hkey : sameName key (Name.normalize givenTable) with
  | false => exact .of_eq q hn hn' (hothers key hkey)
  | true =>
    rw [World.numbers_of_sameName hkey] at hn hn'
    obtain rfl := Option.some.inj (hn.symm.trans hbefore)
    obtain rfl := Option.some.inj (hn'.symm.trans hafter)
    exact hq ⟨rfl, rfl, hkey⟩

/-- What an operation does to numbers that changes no file where it fails, and one table where it
succeeds. -/
theorem renumbers (givenTable : String) {op : Operation α} {q : Request}
    (hn : w.numbers ⟨f.data, id, key⟩ = some n)
    (hn' : (op.exec w).2.numbers ⟨f.data, id, key⟩ = some n')
    (hfails : ∀ {e w'}, op.exec w = (.error e, w') → w'.files = w.files)
    (hdone : ∀ {a w'}, op.exec w = (.ok a, w') → ∃ t s s', Replaced f id givenTable t s s' w w' ∧
      (Spot.Goes f id givenTable ⟨f.data, id, key⟩ →
        Renumbers f ⟨f.data, id, key⟩ q s.numbers s'.numbers)) :
    Renumbers f ⟨f.data, id, key⟩ q n n' := by
  rcases hexec : op.exec w with ⟨e | a, w'⟩ <;> rw [hexec] at hn'
  · exact .of_eq q hn hn' (World.numbers_congr (by rw [hfails hexec]))
  · obtain ⟨t, s, s', hreplaced, hq⟩ := hdone hexec
    exact hreplaced.renumbers q hn hn' hq

end Rows

/-- Stored tables are gone after they have been removed with their record. -/
theorem RecordFolder.get?_removed (g : RecordFolder) (id : String) (files : Files) :
    ((files.drop (Store.place g.folder id)).drop (g.place id)).get? (Store.place g.folder id) = none := by
  rw [Files.get?_drop, Files.get?_drop, if_pos rfl, ite_self]

/-- After a database has been deleted, or has not been, its tables are gone, or all files are there. -/
theorem Databases.delete_removes (hs : w.files.Sound) (f : Folders) (id : String) :
    ((Databases.delete f id).exec w).2.files = w.files ∨
      ((Databases.delete f id).exec w).2.files.get? (Store.place f.data id) = none := by
  obtain ⟨entries, hremoved⟩ := RecordFolder.exec_removal hs f.records id .info source
    ("Deleted database '" ++ id ++ "'")
  rw [Databases.delete, exec_bind, exec_hasFile]
  dsimp only
  rw [RecordFolder.has, exec_bind, exec_hasFile]
  dsimp only
  split
  · exact .inl rfl
  · rw [Folders.records_folder] at hremoved
    rw [hremoved]
    exact .inr (f.records.get?_removed id w.files)

theorem Backups.delete_removes (hs : w.files.Sound) (f : Folders) (name : String) :
    ((Backups.delete f name).exec w).2.files = w.files ∨
      ((Backups.delete f name).exec w).2.files.get? (Store.place f.backup name) = none := by
  obtain ⟨entries, hremoved⟩ := RecordFolder.exec_removal hs f.backupRecords name .info source
    ("Deleted backup '" ++ name ++ "'")
  rw [Backups.delete, exec_bind, exec_existing]
  cases w.files.has (Store.place f.backup name) with
  | false => exact .inl rfl
  | true =>
    rw [Folders.backupRecords_folder] at hremoved
    rw [if_pos rfl]
    dsimp only
    rw [hremoved]
    exact .inr (f.backupRecords.get?_removed name w.files)

/-- After a database has been renamed, or has not been, its tables are gone from where they were, or
they are there still. -/
theorem Databases.rename_leaves (hs : w.files.Sound) (f : Folders) (id : String) (given : Value) :
    ((rename f id given).exec w).2.files.get? (Store.place f.data id) =
        w.files.get? (Store.place f.data id) ∨
      ((rename f id given).exec w).2.files.get? (Store.place f.data id) = none := by
  rcases rename_ends hs f id given with ⟨e, hexec⟩ | ⟨name, -, hends⟩
  · exact .inl (by rw [hexec])
  have hmoved : ∀ {new r db}, Movable f id new r db w.files →
      (w.files.move (Store.place f.data id) (Store.place f.data new)).get? (Store.place f.data id) =
        none := by
    intro new r db movable
    have hne : Store.place f.data id ≠ Store.place f.data new :=
      fun heq => movable.ne (Store.place_injective heq).2.symm
    rw [Files.get?_move movable.tables, if_neg hne, if_pos rfl]
  generalize (rename f id given).exec w = result at hends ⊢
  cases hends with
  | refused => exact .inl rfl
  | moved movable =>
    refine .inr ?_
    rw [Files.get?_drop, if_neg (f.records.place_ne _ _ _).symm,
      Files.get?_put_of_ne (f.records.place_ne _ _ _).symm]
    exact hmoved movable
  | back movable => exact .inl (get?_move_back movable.tables movable.free _)
  | stuck movable => exact .inr (hmoved movable)

/-- A spot whose place belongs to an id is in the folder of that id. -/
theorem Spot.of_owns {spot : Spot} {g : RecordFolder} (h : g.Owns id spot.place) :
    spot.folder = g.folder ∧ spot.id = id := by
  rcases h with heq | heq
  · exact Store.place_injective heq
  · exact absurd heq.symm (g.place_ne _ _ _)

namespace Request

variable {spot : Spot}

/-- A request goes on with the numbers of each table that stays where it is. -/
theorem renumbers (hs : w.files.Sound) (hr : w.files.Regular) (f : Folders) (q : Request)
    (hn : w.numbers spot = some n) (hn' : ((q.run f).exec w).2.numbers spot = some n') :
    Renumbers f spot q n n' := by
  have hsilent : ∀ {α : Type} (op : Operation α), (op.silent.exec w).2 = (op.exec w).2 :=
    fun op => by rw [exec_silent]
  obtain ⟨db, hdb, -⟩ := World.numbers_eq_some.mp hn
  obtain ⟨db', hdb', -⟩ := World.numbers_eq_some.mp hn'
  have hfile : ((q.run f).exec w).2.files.get? spot.place = w.files.get? spot.place →
      Renumbers f spot q n n' := fun h => .of_eq q hn hn' (World.numbers_congr h)
  by_cases hown : q.Owns f spot.place
  swap
  · exact hfile ((q.stays hs f hdb hown).trans hdb.symm)
  -- The request is about the database or the backup in which the table is.
  obtain ⟨folder, id', table⟩ := spot
  cases q with
  | renameDatabase id name =>
    rw [run, hsilent] at hfile hdb'
    obtain ⟨rfl, rfl⟩ := Spot.of_owns hown
    rcases Databases.rename_leaves hs f id' name with hsame | hgone
    · exact hfile hsame
    · exact nomatch hdb'.symm.trans hgone
  | setDatabaseVisibility id hidden =>
    refine hfile ?_
    rw [run, hsilent]
    obtain ⟨rfl, rfl⟩ := Spot.of_owns hown
    exact (Databases.setVisibility_touches f _ hidden hs).others _ (f.records.place_ne _ _ _).symm
  | deleteDatabase id =>
    obtain ⟨rfl, rfl⟩ := Spot.of_owns hown
    rcases Databases.delete_removes hs f id' with hsame | hgone
    · exact hfile (by rw [run, hsame])
    · exact nomatch hdb'.symm.trans hgone
  | schema id q =>
    obtain ⟨rfl, rfl⟩ := Spot.of_owns hown
    obtain ⟨after, hafter, hcontinues⟩ := (q.run_mutation f id').continues hs hr hdb
    rw [World.numbers_of_stored hdb] at hn
    rw [World.numbers_of_stored hafter] at hn'
    obtain rfl := hcontinues _ hn hn'
    exact .same _ _
  | createRow id given data =>
    obtain ⟨rfl, rfl⟩ := Spot.of_owns hown
    rw [run, hsilent] at hn'
    refine Rows.renumbers given hn hn' (Rows.create_fails hs) fun hexec => ?_
    obtain ⟨t, s, new, hreplaced, -, hid, -⟩ := Rows.create_appends hs hr hexec
    refine ⟨t, s, _, hreplaced, fun goes => ?_⟩
    rw [Sheet.numbers_appended hid]
    exact .added goes
  | updateRow id given row data =>
    obtain ⟨rfl, rfl⟩ := Spot.of_owns hown
    rw [run, hsilent] at hn'
    refine Rows.renumbers given hn hn' (Rows.update_fails hs) fun hexec => ?_
    obtain ⟨t, s, before, old, after, new, hsplit, hold, hnew, hreplaced, -⟩ :=
      Rows.update_changes hs hr hexec
    refine ⟨t, s, _, hreplaced, fun _ => ?_⟩
    rw [Sheet.numbers_changed hsplit (hnew.trans hold.symm)]
    exact .same _ _
  | setRowVisibility id given row hidden =>
    obtain ⟨rfl, rfl⟩ := Spot.of_owns hown
    rw [run, hsilent] at hn'
    refine Rows.renumbers given hn hn' (Rows.setVisibility_fails hs) fun hexec => ?_
    obtain ⟨t, s, before, old, after, new, flag, hsplit, hold, hnew, hreplaced, -⟩ :=
      Rows.setVisibility_changes hs hr hexec
    refine ⟨t, s, _, hreplaced, fun _ => ?_⟩
    rw [Sheet.numbers_changed hsplit (hnew.trans hold.symm)]
    exact .same _ _
  | deleteRow id given row =>
    obtain ⟨rfl, rfl⟩ := Spot.of_owns hown
    rw [run] at hn'
    refine Rows.renumbers given hn hn' (Rows.delete_fails hs) fun hexec => ?_
    obtain ⟨t, s, before, old, after, hsplit, rfl, hreplaced⟩ := Rows.delete_drops hs hr hexec
    refine ⟨t, s, _, hreplaced, fun goes => ?_⟩
    rw [Sheet.numbers, Sheet.numbers, hsplit, List.map_append, List.map_append]
    exact .dropped goes
  | deleteBackup name =>
    obtain ⟨rfl, rfl⟩ := Spot.of_owns hown
    rcases Backups.delete_removes hs f id' with hsame | hgone
    · exact hfile (by rw [run, hsame])
    · exact nomatch hdb'.symm.trans hgone
  | _ => exact hown.elim

end Request

end Cabinet

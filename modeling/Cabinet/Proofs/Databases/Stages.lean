import Cabinet.Proofs.Databases
import Cabinet.Proofs.Record.Writable

/-!
The making of a database in turns, between which others may act: its id is looked up, its file is
opened, its record is made, its first table is added, and its record is read. A turn that fails after
the file has been opened is followed by one that removes what there is.
-/

namespace Cabinet.Databases

open Operation Storage

/-- A time as it is written in records. -/
abbrev moment (time : Int) : Value :=
  .text (String.ofList (Calendar.momentText time))

/-- A call that makes a database, with what it is given. -/
structure Call where
  name : String
  description : String

/-- How far a call has come: what its next turn does, or how it has ended. -/
inductive Stage where
  | checks
  | opens (id : String) (time : Value)
  | records (id : String) (time : Value)
  | fills (id : String)
  | answers (id : String)
  | cleans (id : String) (cause : Error)
  | ended (outcome : Except Error Record)

/-- Goes on after an operation, by what it answers or by how it fails. -/
def after {α : Type} (op : Operation α) (ok : α → Stage) (fail : Error → Stage) (w : World) :
    Stage × World :=
  match op.exec w with
  | (.ok a, w') => (ok a, w')
  | (.error e, w') => (fail e, w')

/-- How many turns may be left. -/
def Stage.left : Stage → Nat
  | checks => 5
  | opens .. => 4
  | records .. => 3
  | fills _ => 2
  | answers _ => 1
  | cleans .. => 1
  | ended _ => 0

/-- Whether a call has been answered. -/
def Stage.succeeds : Stage → Bool
  | ended (.ok _) => true
  | _ => false

theorem Stage.left_eq_zero {s : Stage} : s.left = 0 ↔ ∃ outcome, s = .ended outcome := by
  cases s <;> simp [Stage.left]

namespace Call

/-- The id under which a call makes its database, and the time of its record. -/
def check (f : Folders) (c : Call) : Operation (String × Value) := do
  let name ← Operation.of (displayName none (.text c.name))
  let id := Name.databaseId name (← now)
  ensureFree f id
  return (id, ← stamp)

/-- Reads the record of a database that has been made. -/
def answer (f : Folders) (c : Call) (id : String) : Operation Record := do
  log .info source ("Created database '" ++ id ++ "' (" ++ c.name ++ ")")
  f.records.read id

/-- One turn of a call. -/
def turn (f : Folders) (c : Call) : Stage → World → Stage × World
  | .checks => after (c.check f) (fun (id, time) => .opens id time) (.ended <| .error ·)
  | .opens id time =>
    after (Store.connect (Store.place f.data id)) (fun _ => .records id time) (.ended <| .error ·)
  | .records id time =>
    after (f.records.create (newRecord id c.name time (.text c.description)))
      (fun _ => .fills id) (.cleans id)
  | .fills id => after (Schema.addTable f id (.text firstTable)) (fun _ => .answers id) (.cleans id)
  | .answers id => after (c.answer f id) (.ended <| .ok ·) (.ended <| .error ·)
  | .cleans id cause =>
    after (discard f id) (fun _ => .ended (.error cause)) (.ended <| .error ·)
  | .ended outcome => (.ended outcome, ·)

/-- Some turns of a call, one after the other. -/
def turns (f : Folders) (c : Call) : Nat → Stage → World → Stage × World
  | 0, s, w => (s, w)
  | n + 1, s, w => c.turns f n (c.turn f s w).1 (c.turn f s w).2

/-- What is left to do for a call, all at once. -/
def rest (f : Folders) (c : Call) : Stage → Operation Record
  | .checks => create f (.text c.name) (.text c.description)
  | .opens id time => do
    let _ ← Store.connect (Store.place f.data id)
    recording id time
  | .records id time => recording id time
  | .fills id => complete f id c.name
  | .answers id => c.answer f id
  | .cleans id cause => do
    discard f id
    throw cause
  | .ended outcome => Operation.of outcome
where
  recording (id : String) (time : Value) : Operation Record := do
    try
      let _ ← f.records.create (newRecord id c.name time (.text c.description))
      let _ ← Schema.addTable f id (.text firstTable)
    catch e =>
      discard f id
      throw e
    c.answer f id

variable {f : Folders} {c : Call} {id : String} {w v : World}

theorem displayName_eq_ok {id? : Option String} {given name : String}
    (h : displayName id? (.text given) = .ok name) : name = given := by
  simp only [displayName] at h
  split at h
  · cases h
  · exact (Except.ok.inj h).symm

/-- A turn does a part of what is left to do. -/
theorem exec_rest_turn (f : Folders) (c : Call) (s : Stage) (w : World) :
    (c.rest f (c.turn f s w).1).exec (c.turn f s w).2 = (c.rest f s).exec w := by
  -- One case for each stage; in each, the turn either ends in an error or leaves the rest to the
  -- next stage.
  cases s with
  | checks =>
    cases hname : displayName none (.text c.name) with
    | error e => simp only [turn, after, check, rest, create, exec_bind, exec_of, hname]
    | ok name =>
      obtain rfl := displayName_eq_ok hname
      rcases hfree : (ensureFree f (Name.databaseId c.name w.time)).exec w with ⟨e | _, w'⟩
      · simp only [turn, after, check, rest, create, exec_bind, exec_of, hname, exec_now, hfree]
      · simp only [turn, after, check, rest, rest.recording, answer, create, exec_bind, exec_of,
          hname, exec_now, hfree, exec_stamp, exec_pure, exec_tryCatch]
  | opens id time =>
    rcases hopen : (Store.connect (Store.place f.data id)).exec w with ⟨e | _, w'⟩ <;>
      simp only [turn, after, rest, exec_bind, hopen, exec_of]
  | records id time =>
    rcases hmade : (f.records.create (newRecord id c.name time (.text c.description))).exec w with
      ⟨e | _, w'⟩
    · -- After a failure what is left to do is to remove what there is, and that may fail, too.
      rcases hgone : (discard f id).exec w' with ⟨e' | _, w''⟩ <;>
        simp only [turn, after, rest, rest.recording, exec_bind, exec_tryCatch, hmade, hgone, exec_throw]
    · simp only [turn, after, rest, rest.recording, complete, answer, exec_bind, exec_tryCatch, hmade]
  | fills id =>
    rcases hadd : (Schema.addTable f id (.text firstTable)).exec w with ⟨e | _, w'⟩
    · rcases hgone : (discard f id).exec w' with ⟨e' | _, w''⟩ <;>
        simp only [turn, after, rest, complete, exec_bind, exec_tryCatch, hadd, hgone, exec_throw]
    · simp only [turn, after, rest, complete, answer, exec_bind, exec_tryCatch, hadd, exec_pure]
  | answers id =>
    rcases hread : (c.answer f id).exec w with ⟨e | _, w'⟩ <;>
      simp only [turn, after, rest, hread, exec_of]
  | cleans id cause =>
    rcases hgone : (discard f id).exec w with ⟨e | _, w'⟩ <;>
      simp only [turn, after, rest, exec_bind, hgone, exec_of, exec_throw]
  | ended outcome => rfl

/-- Whatever a turn does, there are fewer of them left. -/
theorem left_turn (f : Folders) (c : Call) (s : Stage) (w : World) :
    (c.turn f s w).1.left ≤ s.left - 1 := by
  cases s <;> simp only [turn, after] <;> (try split) <;> simp [Stage.left]

theorem left_turns (f : Folders) (c : Call) (n : Nat) (s : Stage) (w : World) :
    (c.turns f n s w).1.left ≤ s.left - n := by
  induction n generalizing s w with
  | zero => exact Nat.le_refl _
  | succ n ih =>
    have hfirst := left_turn f c s w
    have hrest := ih (c.turn f s w).1 (c.turn f s w).2
    simp only [turns]
    omega

theorem exec_rest_turns (f : Folders) (c : Call) (n : Nat) (s : Stage) (w : World) :
    (c.rest f (c.turns f n s w).1).exec (c.turns f n s w).2 = (c.rest f s).exec w := by
  induction n generalizing s w with
  | zero => rfl
  | succ n ih => exact (ih _ _).trans (exec_rest_turn f c s w)

/-- A call that is left alone makes a database as it is made all at once. -/
theorem turns_alone (f : Folders) (c : Call) (w : World) :
    c.turns f 5 .checks w = (.ended ((create f (.text c.name) (.text c.description)).exec w).1,
      ((create f (.text c.name) (.text c.description)).exec w).2) := by
  have hrest := exec_rest_turns f c 5 .checks w
  obtain ⟨outcome, hended⟩ := Stage.left_eq_zero.mp (Nat.le_zero.mp (left_turns f c 5 .checks w))
  rw [hended, rest, rest, exec_of] at hrest
  rw [← hrest, ← hended]

end Call

theorem firstTable_isNormal : Name.IsNormal firstTable :=
  ⟨by decide, by decide +kernel⟩

theorem newName_first : Schema.newName "Table" (.text firstTable) = .ok firstTable := rfl

theorem ensureNotReserved_first : Schema.ensureNotReserved firstTable = .ok () := rfl

/-- The record of a new database that has its first table. -/
def secondRecord (id name description : String) (time : Int) : Record :=
  Schema.replacement (firstRecord id name description time)
    ((firstRecord id name description time).put firstTable .fresh) time

/-- The stored tables of a new database. -/
def firstTables : Database :=
  { sheets := [freshSheet firstTable], hasCounters := true }

section NewRecord

variable (id name description : String) (time : Int)

theorem firstRecord_sound : (firstRecord id name description time).Sound :=
  (newRecord_sound id name description time).at_version 1

theorem isWritable_firstRecord :
    Json.isWritable (firstRecord id name description time).toDocument = true := by
  simp only [firstRecord, newRecord, Record.toDocument, List.map_nil, Json.isWritable,
    Json.fieldsAreWritable, Json.areWritable]
  decide

theorem createTable_first : Schema.createTable id firstTable (firstRecord id name description time) {} =
    .ok {
      answer := .fresh
      record := (firstRecord id name description time).put firstTable .fresh
      stored := firstTables } :=
  rfl

theorem secondRecord_sound : (secondRecord id name description time).Sound :=
  Schema.replacement_sound _ ((Schema.createTable_lawful id firstTable_isNormal).sound
    (firstRecord_sound id name description time) (createTable_first id name description time)).1 time

theorem isWritable_secondRecord :
    Json.isWritable (secondRecord id name description time).toDocument = true := by
  have hversion : Json.isWritable (.int 2) = true := by decide
  exact Record.isWritable_put (isWritable_firstRecord id name description time) hversion (by decide)
    firstTable _

end NewRecord

namespace Call

variable {f : Folders} {c : Call} {id : String} {w : World} {time : Value}

/-- A call goes for an id: it has a name that says something, and the id that comes with it. -/
def Names (c : Call) (id : String) (time : Int) : Prop :=
  displayName none (.text c.name) = .ok c.name ∧ Name.databaseId c.name time = id

theorem turn_checks_free (h : c.Names id w.time) (hstore : w.files.get? (Store.place f.data id) = none)
    (hrecord : w.files.get? (f.records.place id) = none) :
    c.turn f .checks w = (.opens id (moment w.time), w) := by
  obtain ⟨hname, rfl⟩ := h
  simp only [turn, after, check, exec_bind, exec_of, hname, exec_now, ensureFree, RecordFolder.has,
    exec_hasFile, Files.has_eq, hstore, hrecord, Option.isSome_none, Bool.or_self, Bool.false_eq_true,
    if_false, exec_pure, exec_stamp]

theorem turn_checks_taken (h : c.Names id w.time)
    (htaken : (w.files.has (Store.place f.data id) || w.files.has (f.records.place id)) = true) :
    c.turn f .checks w = (.ended (.error (.databaseExists id)), w) := by
  obtain ⟨hname, rfl⟩ := h
  simp only [turn, after, check, exec_bind, exec_of, hname, exec_now, ensureFree, RecordFolder.has,
    exec_hasFile, htaken, if_true, exec_throw]

theorem turn_opens_new (hstore : w.files.get? (Store.place f.data id) = none) :
    c.turn f (.opens id time) w = (.records id time, {
      w with files := w.files.put (Store.place f.data id) (.database {}) }) := by
  simp only [turn, after, Store.connect, exec_bind, exec_file?, hstore, exec_putFile, exec_pure]

theorem turn_opens_old {db : Database}
    (hstore : w.files.get? (Store.place f.data id) = some (.database db)) :
    c.turn f (.opens id time) w = (.records id time, w) := by
  simp only [turn, after, Store.exec_connect hstore]

theorem turn_records_first (hfaults : w.faults = {})
    (hrecord : w.files.get? (f.records.place id) = none) :
    c.turn f (.records id (moment w.time)) w =
      (.fills id, f.records.written id (firstRecord id c.name c.description w.time) w) := by
  have hcan : RecordFolder.CanWrite (firstRecord id c.name c.description w.time) w.faults :=
    ⟨isWritable_firstRecord id c.name c.description w.time, by rw [hfaults]⟩
  rcases RecordFolder.exec_create (r := newRecord id c.name (moment w.time) (.text c.description)) rfl
      (by rw [hfaults]; rfl) hrecord with ⟨-, hexec⟩ | ⟨hcannot, -⟩
  · simp only [turn, after, hexec]
    rfl
  · exact absurd hcan hcannot

theorem turn_records_second (hfaults : w.faults = {})
    (hrecord : w.files.get? (f.records.place id) ≠ none) :
    c.turn f (.records id time) w = (.cleans id (.recordExists (.text id)), w) := by
  have hexec := RecordFolder.exec_create_taken (r := newRecord id c.name time (.text c.description)) rfl
    (by rw [hfaults]; rfl) hrecord
  simp only [turn, after, hexec]
  rfl

/-- Where nothing fails, the first table is added to the record and to an empty file. -/
theorem exec_applyChange_first (hfaults : w.faults = {})
    (htables : w.files.get? (Store.place f.data id) = some (.database {}))
    (hrecord : f.records.Stores id (firstRecord id c.name c.description w.time) w.files)
    (action : String) :
    ∃ log, (Schema.applyChange f id action (Schema.createTable id firstTable)).exec w = (.ok .fresh, {
      w with
      files := (w.files.put (f.records.place id)
        (.text (secondRecord id c.name c.description w.time).write)).put (Store.place f.data id)
          (.database firstTables)
      log }) := by
  have hcounted : f.records.counted? w.faults = some {} := by
    rw [hfaults, RecordFolder.counted?_nothing]
  have hcan : RecordFolder.CanWrite (secondRecord id c.name c.description w.time) {} :=
    ⟨isWritable_secondRecord id c.name c.description w.time, rfl⟩
  rcases Schema.finishChange_cases hrecord.finds htables hrecord.sound hrecord.own
      (Schema.createTable_lawful id firstTable_isNormal) action with
    ⟨out, faults, log, -, hchange, hleft, -, hexec⟩ | ⟨hcannot, -⟩
  swap
  · exact absurd hcan (hcannot rfl _ _ (createTable_first ..) hcounted)
  obtain rfl := Except.ok.inj (hchange.symm.trans (createTable_first ..))
  obtain rfl := Option.some.inj (hleft.symm.trans hcounted)
  rw [Schema.exec_kept rfl] at hexec
  refine ⟨(Schema.swapped f id (secondRecord id c.name c.description w.time) {} log w).log, ?_⟩
  simp only [Schema.applyChange, exec_bind, Store.exec_existing, Files.has_eq, htables,
    Option.isSome_some, if_true, hrecord.read, hexec, hfaults]
  rfl

theorem turn_fills (hfaults : w.faults = {})
    (htables : w.files.get? (Store.place f.data id) = some (.database {}))
    (hrecord : f.records.Stores id (firstRecord id c.name c.description w.time) w.files) :
    ∃ log, c.turn f (.fills id) w = (.answers id, {
      w with
      files := (w.files.put (f.records.place id)
        (.text (secondRecord id c.name c.description w.time).write)).put (Store.place f.data id)
          (.database firstTables)
      log }) := by
  obtain ⟨log, happly⟩ := exec_applyChange_first hfaults htables hrecord
    ("create table '" ++ firstTable ++ "'")
  refine ⟨⟨.info, Schema.source, "Created table '" ++ firstTable ++ "' in database '" ++ id ++ "'"⟩ ::
    log, ?_⟩
  simp only [turn, after, Schema.addTable, exec_bind, exec_of, newName_first, ensureNotReserved_first,
    happly, exec_log, exec_pure]

theorem turn_fills_missing (hstore : w.files.get? (Store.place f.data id) = none) :
    c.turn f (.fills id) w = (.cleans id (.databaseMissing id), w) := by
  simp only [turn, after, Schema.addTable, exec_bind, exec_of, newName_first, ensureNotReserved_first,
    Schema.applyChange, Store.exec_existing, Files.has_eq, hstore, Option.isSome_none,
    Bool.false_eq_true, if_false]

theorem exec_answer (f : Folders) (c : Call) (id : String) (w : World) : ∃ log, (c.answer f id).exec w =
    (RecordFolder.readFile (.text id) (w.files.get? (f.records.place id)), { w with log }) := by
  refine ⟨⟨.info, source, "Created database '" ++ id ++ "' (" ++ c.name ++ ")"⟩ :: w.log, ?_⟩
  simp only [answer, exec_bind, exec_log, RecordFolder.exec_read]

theorem turn_answers {r : Record} (h : f.records.Stores id r w.files) :
    ∃ log, c.turn f (.answers id) w = (.ended (.ok r), { w with log }) := by
  obtain ⟨log, hanswer⟩ := c.exec_answer f id w
  rw [h.finds] at hanswer
  exact ⟨log, by simp only [turn, after, hanswer]⟩

theorem turn_answers_missing (hrecord : w.files.get? (f.records.place id) = none) :
    ∃ log, c.turn f (.answers id) w = (.ended (.error (.recordMissing (.text id))), { w with log }) := by
  obtain ⟨log, hanswer⟩ := c.exec_answer f id w
  rw [hrecord, RecordFolder.readFile] at hanswer
  exact ⟨log, by simp only [turn, after, hanswer]⟩

theorem turn_cleans {cause : Error} (hstore : w.files.get? (Store.place f.data id) ≠ some .folder)
    (hrecord : w.files.get? (f.records.place id) ≠ some .folder) :
    c.turn f (.cleans id cause) w = (.ended (.error cause), {
      w with files := (w.files.drop (f.records.place id)).drop (Store.place f.data id) }) := by
  simp only [turn, after, exec_discard hrecord hstore]

end Call

end Cabinet.Databases

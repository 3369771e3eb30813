import Cabinet.Proofs.Rows.Given
import Cabinet.Proofs.Storage.Assigned

/-!
How changes of rows can end: they are refused, and no file changes; or one statement has been kept, and
the row is answered as it is stored then.
-/

namespace Cabinet

open Operation Storage

variable {α : Type} {w : World}

/-- A transaction is refused, or what its body has done is kept. -/
theorem Store.transaction_cases (hs : w.files.Sound) (f : Folders) (id : String)
    (body : Database → Except Error (α × Database)) :
    (∃ e, (existing f id >>= fun p => transaction p body).exec w = (.error e, w)) ∨
      ∃ db a db', w.files.get? (place f.data id) = some (.database db) ∧ body db = .ok (a, db') ∧
        (existing f id >>= fun p => transaction p body).exec w =
          (.ok a, { w with files := w.files.put (place f.data id) (.database db') }) := by
  simp only [exec_bind, exec_existing, Files.has_eq]
  cases hthere : w.files.get? (place f.data id) with
  | none => exact .inl ⟨_, rfl⟩
  | some file =>
    obtain ⟨db, rfl⟩ := hs.database hthere
    simp only [Option.isSome_some, if_true, exec_transaction hthere]
    rcases hresult : body db with e | ⟨a, db'⟩
    · exact .inl ⟨e, rfl⟩
    · cases w.faults.commit with
      | true => exact .inl ⟨_, rfl⟩
      | false => exact .inr ⟨db, a, db', rfl, hresult, rfl⟩

/-- What is done after a table of the record has been read, unless there is no such table. -/
theorem Schema.exec_table_bind (hs : w.files.Sound) (f : Folders) (id given : String)
    (next : Table → Operation α) :
    (∃ e, (table f id (Name.normalize given) >>= next).exec w = (.error e, w)) ∨
      ∃ r t, f.records.Stores id r w.files ∧ r.tables.get? (Name.normalize given) = some t ∧
        (table f id (Name.normalize given) >>= next).exec w = (next t).exec w := by
  rw [exec_bind, table, exec_bind]
  rcases f.records.read_cases hs id with ⟨r, hr, hread⟩ | ⟨-, hread⟩
  swap
  · exact .inl ⟨_, by rw [hread]⟩
  simp only [hread, exec_of, Name.normalize_normalize]
  cases ht : r.table (Name.normalize given) with
  | error e => exact .inl ⟨e, rfl⟩
  | ok t => exact .inr ⟨r, t, hr, Record.table_eq_ok.mp ht, rfl⟩

namespace Rows

variable {f : Folders} {id given table : String} {n : Int}
  {t : Table} {db : Database} {row : Fields Cell}

/-- The tables of a database, as the record tells of one of them, and as they are stored. -/
structure Told (f : Folders) (id table : String) (t : Table) (db : Database) (w : World) : Prop where
  record : ∃ r, f.records.Stores id r w.files ∧ r.tables.get? table = some t
  stored : w.files.get? (Store.place f.data id) = some (.database db)

/-- The row with an id as storage answers it. -/
def Answers (db : Database) (table : String) (n : Int) (row : Fields Cell) : Prop :=
  ∃ rows, (Statement.rowsById table n).on db = .ok rows ∧ single table n rows = .ok row

/-- Storing tables leaves the record as it is. -/
theorem Told.put (h : Told f id table t db w) (db' : Database) (log : List LogEntry) :
    Told f id table t db' { w with
      files := w.files.put (Store.place f.data id) (.database db')
      log } := by
  obtain ⟨r, hr, ht⟩ := h.record
  refine ⟨⟨r, hr.congr ?_, ht⟩, Files.get?_put_self _ _ _⟩
  exact Files.get?_put_of_ne (f.records.place_ne _ _ _) _ _

/-- The row that storage answers is read. -/
theorem exec_get (h : Told f id (Name.normalize given) t db w)
    (hrow : Answers db (Name.normalize given) n row) : (get f id given n).exec w = (.ok row, w) := by
  obtain ⟨r, hr, ht⟩ := h.record
  obtain ⟨rows, hrows, hsingle⟩ := hrow
  have htable : r.table (Name.normalize given) = .ok t := Record.table_eq_ok.mpr ht
  have hthere : w.files.has (Store.place f.data id) = true := by
    rw [Files.has_eq, h.stored]
    rfl
  simp only [get, Schema.table, exec_bind, hr.read, Name.normalize_normalize, exec_of, htable,
    Store.exec_existing, hthere, if_true, Store.exec_connect h.stored, Store.exec_ask, hrows, hsingle]

section Outcomes

variable (f id given) (hs : w.files.Sound)

include hs

/-- The creation of a row is refused, or a row with what was accepted has been inserted. -/
theorem create_cases (data : List (String × Value)) :
    (∃ e log, (create f id given data).exec w = (.error e, { w with log })) ∨
      ∃ t db values n db' row log, Told f id (Name.normalize given) t db w ∧ values.SparesKey ∧
        Accepts t (byName data) (initial w.time) values ∧
        db.insert (Name.normalize given) values = .ok (n, db') ∧
        Answers db' (Name.normalize given) n row ∧
        (create f id given data).exec w = (.ok row, { w with
          files := w.files.put (Store.place f.data id) (.database db')
          log }) := by
  unfold create
  rcases Schema.exec_table_bind hs f id given _ with ⟨e, hexec⟩ | ⟨r, t, hr, ht, hexec⟩
  · exact .inl ⟨e, w.log, hexec⟩
  rw [hexec, exec_bind, exec_of]
  have hwell := (hr.sound.tables ht).toWellFormed
  cases htitle : ensureTitle true (byName data) with
  | error e => exact .inl ⟨e, w.log, rfl⟩
  | ok =>
  -- Up to the transaction nothing but the log is written.
  obtain ⟨x, log, haccepted, hx⟩ := exec_acceptKnown (T := fun _ => True) hwell
    (fun e he => isAssignable_byName htitle he) (Name.normalize given) (initial w.time) w
  simp only [exec_bind (β := Fields Cell), exec_now, haccepted]
  cases x with
  | error e => exact .inl ⟨e, log, rfl⟩
  | ok values =>
  have haccepts := acceptKnown_accepts (nodup_byName data) haccepted
  have hinitial : ["date_created", "date_modified", "hidden"].Nodup := by decide
  have hv := ((hx values rfl).1 (writes_initial hwell trivial)).sparesKey hwell (haccepts.nodup hinitial)
  rcases Store.transaction_cases (w := { w with log }) hs f id _ with
    ⟨e, hfailed⟩ | ⟨db, a, db', hdb, hbody, hdone⟩
  · exact .inl ⟨e, log, by simpa only [exec_bind] using hfailed⟩
  · simp only [bind_eq_ok_iff, Statement.on_eq_ok] at hbody
    obtain ⟨⟨n, inserted⟩, hinsert, rows, hrows, row, hsingle, hbody⟩ := hbody
    obtain ⟨rfl, rfl⟩ := Prod.ext_iff.mp (Except.ok.inj hbody)
    exact .inr ⟨t, db, values, n, inserted, row, log, ⟨⟨r, hr, ht⟩, hdb⟩, hv,
      haccepts, hinsert,
      ⟨rows, Statement.on_eq_ok.mpr hrows, hsingle⟩, by simpa only [exec_bind] using hdone⟩

/-- Values are refused, or they have been stored in a row that goes by the id. -/
theorem write_cases (table : String) (n : Int) (values : Fields Value) :
    (∃ e, (write f id table n values).exec w = (.error e, w)) ∨
      ∃ db k db' row, w.files.get? (Store.place f.data id) = some (.database db) ∧
        db.update table n values = .ok (k, db') ∧ k ≠ 0 ∧ Answers db' table n row ∧
        (write f id table n values).exec w = (.ok row, { w with
          files := w.files.put (Store.place f.data id) (.database db') }) := by
  unfold write
  rcases Store.transaction_cases hs f id _ with ⟨e, hfailed⟩ | ⟨db, a, db', hdb, hbody, hdone⟩
  · exact .inl ⟨e, hfailed⟩
  · simp only [bind_eq_ok_iff, throw_eq_error, check_eq_ok_iff, Statement.on_eq_ok] at hbody
    obtain ⟨⟨k, updated⟩, hupdate, hk, rows, hrows, row, hsingle, hbody⟩ := hbody
    obtain ⟨rfl, rfl⟩ := Prod.ext_iff.mp (Except.ok.inj hbody)
    exact .inr ⟨db, k, updated, row, hdb, hupdate, hk, ⟨rows, Statement.on_eq_ok.mpr hrows, hsingle⟩,
      hdone⟩

/-- The update of a row is refused, or what was accepted has been stored in it, with the time. -/
theorem update_cases (n : Int) (data : List (String × Value)) :
    (∃ e, (update f id given n data).exec w = (.error e, w)) ∨
      ∃ t db accepted k db' row, Told f id (Name.normalize given) t db w ∧
        (accepted.put "date_modified" (.int w.time)).SparesKey ∧
        Accepts t (byName data) [] accepted ∧
        db.update (Name.normalize given) n (accepted.put "date_modified" (.int w.time)) =
          .ok (k, db') ∧ k ≠ 0 ∧ Answers db' (Name.normalize given) n row ∧
        (update f id given n data).exec w = (.ok row, { w with
          files := w.files.put (Store.place f.data id) (.database db') }) := by
  unfold update
  rcases Schema.exec_table_bind hs f id given _ with ⟨e, hexec⟩ | ⟨r, t, hr, ht, hexec⟩
  · exact .inl ⟨e, hexec⟩
  rw [hexec, exec_bind, exec_of]
  have hwell := (hr.sound.tables ht).toWellFormed
  cases htitle : ensureTitle false (byName data) with
  | error e => exact .inl ⟨e, rfl⟩
  | ok =>
  simp only [exec_bind, exec_of, exec_now]
  cases haccepted : acceptAll (Name.normalize given) t (byName data) with
  | error e => exact .inl ⟨e, rfl⟩
  | ok accepted =>
  have hwrites : t.Writes (fun _ => True) accepted :=
    writes_acceptAll hwell (fun e he => isAssignable_byName htitle he) haccepted
  have haccepts := (acceptAll_accepts (nodup_byName data) haccepted).2
  have hv : (accepted.put "date_modified" (.int w.time)).SparesKey :=
    (writes_put hwrites (writes_time hwell trivial (.inr rfl))).sparesKey hwell
      (Fields.nodup_keys_put (haccepts.nodup List.nodup_nil) _ _)
  rcases write_cases f id hs (Name.normalize given) n _ with
    ⟨e, hfailed⟩ | ⟨db, k, db', row, hdb, hupdate, hk, hrow, hdone⟩
  · exact .inl ⟨e, hfailed⟩
  · exact .inr ⟨t, db, accepted, k, db', row, ⟨⟨r, hr, ht⟩, hdb⟩, hv,
      haccepts, hupdate, hk, hrow, hdone⟩

/-- Hiding or showing a row is refused, or the row tells now whether it is hidden, and the time. -/
theorem setVisibility_cases (n : Int) (hidden : Value) :
    (∃ e, (setVisibility f id given n hidden).exec w = (.error e, w)) ∨
      ∃ t db flag k db' row, Told f id (Name.normalize given) t db w ∧
        Column.flag? hidden = some flag ∧
        Fields.SparesKey [("hidden", .int flag), ("date_modified", .int w.time)] ∧
        db.update (Name.normalize given) n [("hidden", .int flag), ("date_modified", .int w.time)] =
          .ok (k, db') ∧ k ≠ 0 ∧ Answers db' (Name.normalize given) n row ∧
        (setVisibility f id given n hidden).exec w = (.ok row, { w with
          files := w.files.put (Store.place f.data id) (.database db') }) := by
  unfold setVisibility
  split
  · exact .inl ⟨_, rfl⟩
  next flag hflag =>
  rcases Schema.exec_table_bind hs f id given _ with ⟨e, hexec⟩ | ⟨r, t, hr, ht, hexec⟩
  · exact .inl ⟨e, hexec⟩
  rw [hexec, exec_bind, exec_now]
  have hwell := (hr.sound.tables ht).toWellFormed
  have hv : Fields.SparesKey [("hidden", .int flag), ("date_modified", .int w.time)] := by
    have hwrites : t.Writes (fun _ => True) [("hidden", .int flag), ("date_modified", .int w.time)] :=
      writes_visibility hwell hflag trivial
    have hd : ["hidden", "date_modified"].Nodup := by decide
    exact hwrites.sparesKey hwell hd
  rcases write_cases f id hs (Name.normalize given) n _ with
    ⟨e, hfailed⟩ | ⟨db, k, db', row, hdb, hupdate, hk, hrow, hdone⟩
  · exact .inl ⟨e, hfailed⟩
  · exact .inr ⟨t, db, flag, k, db', row, ⟨⟨r, hr, ht⟩, hdb⟩, hflag, hv, hupdate, hk, hrow, hdone⟩

/-- The removal of a row is refused, or rows that go by the id have been dropped. -/
theorem delete_cases (n : Int) :
    (∃ e, (delete f id given n).exec w = (.error e, w)) ∨
      ∃ t db k db', Told f id (Name.normalize given) t db w ∧
        db.delete (Name.normalize given) n = .ok (k, db') ∧ k ≠ 0 ∧
        (delete f id given n).exec w = (.ok (), { w with
          files := w.files.put (Store.place f.data id) (.database db') }) := by
  unfold delete
  rcases Schema.exec_table_bind hs f id given _ with ⟨e, hexec⟩ | ⟨r, t, hr, ht, hexec⟩
  · exact .inl ⟨e, hexec⟩
  rw [hexec]
  rcases Store.transaction_cases hs f id _ with ⟨e, hfailed⟩ | ⟨db, a, db', hdb, hbody, hdone⟩
  · exact .inl ⟨e, hfailed⟩
  · simp only [bind_eq_ok_iff, throw_eq_error, check_eq_ok_iff, Statement.on_eq_ok] at hbody
    obtain ⟨⟨k, deleted⟩, hdelete, hk, hbody⟩ := hbody
    obtain ⟨-, rfl⟩ := Prod.ext_iff.mp (Except.ok.inj hbody)
    exact .inr ⟨t, db, k, deleted, ⟨⟨r, hr, ht⟩, hdb⟩, hdelete, hk, hdone⟩

end Outcomes

end Rows

end Cabinet

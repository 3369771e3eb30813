import Cabinet.Proofs.Column.ReadsBack
import Cabinet.Proofs.Run.Frame
import Cabinet.Proofs.Run.Visibility
import Cabinet.Proofs.Storage.Absent

/-!
What is done to rows: the row that a request is about holds what is given, and nothing else changes.
-/

namespace Cabinet

open Operation Storage

variable {f : Folders} {agreed : Bool} {id givenTable table name : String} {w w' : World}
  {t : Table} {s s' : Sheet} {db : Database} {n time : Int} {data : List (String × Value)}
  {values accepted before : Fields Value} {held : Storage.Row} {row : Fields Cell}
  {base : SheetColumn → Option Cell} {left : String → Option Cell}

namespace Storage

/-- A whole number that can be stored is held as it is in a column of whole numbers. -/
theorem convert_given_int {position : Nat} (h : Cell.ofValue position (.int n) = .ok (given (.int n))) :
    (given (.int n)).convert .integer = .integer n := by
  obtain ⟨-, heq⟩ := Column.ofValue_int h
  rw [heq]
  rfl

/-- The columns that the library writes in by itself are for whole numbers. -/
theorem Sheet.Regular.affinity_own (h : s.Regular) (name : String)
    (hname : name ∈ ["date_created", "date_modified", "hidden"]) :
    ∃ c ∈ s.columns, c.name = name ∧ c.affinity = .integer := by
  have hfresh : ∀ name ∈ ["date_created", "date_modified", "hidden"],
      ∃ c ∈ (freshSheet "").columns, c.name = name ∧ c.affinity = .integer := by
    decide
  obtain ⟨c, hc, heq⟩ := hfresh name hname
  exact ⟨c, h.first c hc, heq⟩

/-- A number that the library writes by itself is held as it is. -/
theorem Sheet.Takes.own (h : s.Takes values base row) (hs : s.Regular)
    (hname : name ∈ ["date_created", "date_modified", "hidden"])
    (hget : values.get? name = some (.int n)) : row.get? name = some (.integer n) := by
  obtain ⟨c, hc, rfl, haffinity⟩ := hs.affinity_own name hname
  obtain ⟨position, hcell⟩ := h.storable _ (Fields.mem_of_get? hget)
  rw [h.cells c hc, hget, haffinity]
  exact congrArg some (convert_given_int hcell)

end Storage

namespace Rows

/-- Of all that is stored, one table that the record tells of has become another. -/
structure Replaced (f : Folders) (id givenTable : String) (t : Table) (s s' : Sheet) (w w' : World) :
    Prop where
  before : Asked f id givenTable t s w
  after : Asked f id givenTable t s' w'
  files : ∀ p, p ≠ Store.place f.data id → w'.files.get? p = w.files.get? p
  tables : ∃ db db', w.files.get? (Store.place f.data id) = some (.database db) ∧
    w'.files.get? (Store.place f.data id) = some (.database db') ∧
    db' = db.replace (Name.normalize givenTable) s' ∧
    ∀ other, sameName other (Name.normalize givenTable) = false → db'.find? other = db.find? other

/-- A row is answered as it is held, and it is found so by its id. -/
structure Found (f : Folders) (id givenTable : String) (s : Sheet) (held : Storage.Row)
    (row : Fields Cell) (w : World) : Prop where
  fields : row = s.fields held
  got : (get f id givenTable held.id).exec w = (.ok row, w)

/-- What a row holds under the names that someone may assign to, after data were given for it. For a
name that a column of the record has, and for which something is given, it is what the column accepts
of the last value, in the form in which storage keeps it; where the stored column is of the type that
the record tells, that value is read back. Under other names it is what is there without data. -/
structure Assigned (t : Table) (data : List (String × Value)) (s : Sheet) (left : String → Option Cell)
    (row : Fields Cell) : Prop where
  given {name : String} {d v} : t.columns.get? name = some d → name ∉ skippedNames →
    given? data name = some v → ∃ c ∈ s.columns, c.name = name ∧ ∃ u cell, stored d v = .ok u ∧
      row.get? name = some cell ∧ cell = (Storage.given u).convert c.affinity ∧
      (c.affinity = .ofStorage d.type.storage → cell.ReadsBack u)
  rest : ∀ c ∈ s.columns, c.name ∉ skippedNames →
    t.columns.get? c.name = none ∨ given? data c.name = none → row.get? c.name = left c.name

/-- What a new row holds where nothing is given. -/
def blank (time : Int) (name : String) : Option Cell :=
  some (if name = "date_created" then .integer time else .null)

/-- The row that storage answers for an id is the one that has it. -/
theorem Answers.eq_fields (h : Answers db table n row) (hs : s.Regular)
    (hfind : db.find? table = some s) (hheld : held ∈ s.rows) (hid : held.id = n) :
    row = s.fields held := by
  obtain ⟨rows, hrows, hsingle⟩ := h
  have hqueried : db.query table (.clause (.compare "id" .equal (.int n))) (.byColumn "id" false) none 0 =
      .ok rows := Statement.on_eq_ok.mp hrows
  obtain ⟨found, hfound, hquery⟩ := Database.query_eq_ok hqueried
  obtain rfl : s = found := by simpa [hfind] using hfound
  have hmem : row ∈ rows := by
    cases rows with
    | nil => simp [single] at hsingle
    | cons first rest => exact Except.ok.inj hsingle ▸ List.mem_cons_self
  obtain ⟨other, hother, rfl⟩ := List.mem_map.mp (hquery ▸ hmem)
  have hsorted := List.mem_mergeSort.mp ((Database.window_sublist _ _ _).mem hother)
  obtain ⟨hin, htruth⟩ := List.mem_filter.mp hsorted
  have hcalled := Sheet.isCalled_of_truth (of_decide_eq_true htruth)
  rw [hs.isCalled_eq hin, decide_eq_true_eq] at hcalled
  rw [hs.eq_of_id hin hheld (hcalled.trans hid.symm)]

/-- A table has come in the place of one. -/
theorem Told.replaced (h : Told f id (Name.normalize givenTable) t db w) (hdb : db.Regular)
    (hfind : db.find? (Name.normalize givenTable) = some s) (s' : Sheet) (hname : s'.name = s.name)
    (log : List LogEntry) : Replaced f id givenTable t s s' w { w with
      files := w.files.put (Store.place f.data id)
        (.database (db.replace (Name.normalize givenTable) s'))
      log } := by
  obtain ⟨-, hfold⟩ := Database.of_find?_eq_some hfind
  have hthere := hdb.find?_replace_eq hfind hname
  obtain ⟨r, hr, ht⟩ := h.record
  have hafter := h.put (db.replace (Name.normalize givenTable) s') log
  obtain ⟨r', hr', ht'⟩ := hafter.record
  refine ⟨⟨⟨r, hr.read, ht⟩, db, h.stored, hfind⟩, ⟨⟨r', hr'.read, ht'⟩, _, hafter.stored, ?_⟩,
    fun p hp => Files.get?_put_of_ne hp _ _, db, _, h.stored, hafter.stored, rfl, fun other hother => ?_⟩
  · rw [hthere, if_pos hfold]
  · rw [hthere, if_neg fun heq => ?_]
    rw [← hfold, ← sameName_iff, hother] at heq
    exact Bool.false_ne_true heq

section Tables

variable (h : Told f id (Name.normalize givenTable) t db w) (hdb : db.Regular)
  (hfind : db.find? (Name.normalize givenTable) = some s) (hs' : s'.Regular) (hname : s'.name = s.name)

include h hdb hfind hs' hname

/-- A row of the table that has come is answered as it is found. -/
theorem Told.found (hheld : held ∈ s'.rows) (hrow : Answers (db.replace (Name.normalize givenTable) s')
    (Name.normalize givenTable) held.id row) (log : List LogEntry) :
    Found f id givenTable s' held row { w with
      files := w.files.put (Store.place f.data id)
        (.database (db.replace (Name.normalize givenTable) s'))
      log } where
  fields := by
    have hthere := hdb.find?_replace_eq hfind hname (Name.normalize givenTable)
    rw [if_pos (Database.of_find?_eq_some hfind).2] at hthere
    exact hrow.eq_fields hs' hthere hheld rfl
  got := exec_get (h.put _ log) hrow

end Tables

/-- A row that takes what was accepted of data has been assigned them. -/
theorem Accepts.assigned (h : Accepts t (byName data) before accepted) (htakes : s.Takes values base row)
    (hvalues : ∀ name, name ∉ skippedNames → values.get? name = accepted.get? name)
    (hleft : ∀ c ∈ s.columns, c.name ∉ skippedNames →
      (match before.get? c.name with
      | some v => some ((Storage.given v).convert c.affinity)
      | none => base c) = left c.name) : Assigned t data s left row where
  given {name d v} hd hfree hgiven := by
    obtain ⟨u, hu, hget⟩ := h.given hd ((get?_byName hfree).trans hgiven)
    rw [← hvalues name hfree] at hget
    obtain ⟨c, hc, rfl⟩ := htakes.columns name (Fields.mem_keys hget)
    obtain ⟨position, hcell⟩ := htakes.storable _ (Fields.mem_of_get? hget)
    refine ⟨c, hc, rfl, u, _, hu, ?_, rfl, fun haffinity => ?_⟩
    · rw [htakes.cells c hc, hget]
    · rw [haffinity]
      exact Column.readsBack_convert hu hcell
  rest c hc hfree hor := by
    have hnone := h.rest (hor.imp_right (get?_byName hfree).trans)
    rw [htakes.cells c hc, hvalues c.name hfree, hnone]
    exact hleft c hc hfree

section Outcomes

variable (hs : w.files.Sound) (hr : w.files.Regular)

include hr

/-- Values have been stored in one row, which tells the time. -/
theorem write_changes {k : Nat} {db' : Database} (told : Told f id (Name.normalize givenTable) t db w)
    (hspare : values.SparesKey)
    (hupdate : db.update (Name.normalize givenTable) n values = .ok (k, db')) (hk : k ≠ 0)
    (hanswers : Answers db' (Name.normalize givenTable) n row) :
    ∃ s before old after new, s.rows = before ++ old :: after ∧ old.id = n ∧ new.id = n ∧ s.Regular ∧
      Replaced f id givenTable t s { s with rows := before ++ new :: after } w { w with
        files := w.files.put (Store.place f.data id) (.database db') } ∧
      Found f id givenTable s new row { w with
        files := w.files.put (Store.place f.data id) (.database db') } ∧
      s.Takes values (fun c => (s.fields old).get? c.name) row ∧
      row.get? "id" = (s.fields old).get? "id" := by
  have hdb := hr.of_get? told.stored
  obtain ⟨s, before, old, after, cells, hfind, hsplit, hid, htakes, rfl, hs'⟩ :=
    hdb.update_eq_ok hspare hupdate hk
  have hregular := hdb.of_find? hfind
  have hnew : (⟨n, cells⟩ : Storage.Row) ∈ before ++ ⟨n, cells⟩ :: after :=
    List.mem_append_right _ List.mem_cons_self
  have hold : old ∈ s.rows := hsplit ▸ List.mem_append_right _ List.mem_cons_self
  have hfound := told.found hdb hfind hs' rfl hnew hanswers w.log
  refine ⟨s, before, old, after, ⟨n, cells⟩, hsplit, hid, rfl, hregular,
    told.replaced hdb hfind { s with rows := before ++ ⟨n, cells⟩ :: after } rfl w.log,
    ⟨hfound.fields, hfound.got⟩, hfound.fields ▸ htakes, ?_⟩
  rw [hregular.get?_id hold, hid, hfound.fields]
  exact hs'.get?_id hnew

include hs

/-- A row that has been created comes last in its table, under the next id. It is not hidden, and it
tells the time. -/
theorem create_appends (hcreate : (create f id givenTable data).exec w = (.ok row, w')) :
    ∃ t s new, Replaced f id givenTable t s { s with rows := s.rows ++ [new], counter := new.id } w w' ∧
      Found f id givenTable s new row w' ∧ new.id = s.counter + 1 ∧
      row.get? "id" = some (.integer new.id) ∧ row.get? "hidden" = some (.integer 0) ∧
      row.get? "date_modified" = some (.integer w.time) ∧ Assigned t data s (blank w.time) row := by
  rcases create_cases f id givenTable hs data with ⟨e, log, hexec⟩ |
    ⟨t, db, values, n, db', row', log, told, hspare, haccepts, hinsert, hanswers, hexec⟩
  · simp [hexec] at hcreate
  obtain ⟨hrow, rfl⟩ := Prod.ext_iff.mp (hexec.symm.trans hcreate)
  obtain rfl := Except.ok.inj hrow
  have hdb := hr.of_get? told.stored
  obtain ⟨s, cells, hfind, hid, htakes, rfl, hs'⟩ :=
    hdb.insert_eq_ok hspare hinsert
  have hregular := hdb.of_find? hfind
  have hlast : (⟨n, cells⟩ : Storage.Row) ∈ s.rows ++ [⟨n, cells⟩] :=
    List.mem_append_right _ (List.mem_singleton_self _)
  have hfound := told.found hdb hfind hs' rfl hlast hanswers log
  have hown : ∀ {name m}, name ∈ ["date_created", "date_modified", "hidden"] → name ∈ skippedNames →
      (initial w.time).get? name = some (.int m) → row'.get? name = some (.integer m) := by
    intro name m hname hskipped hget
    refine hfound.fields ▸ htakes.own hregular hname ?_
    rw [haccepts.rest (.inr (get?_byName_skipped hskipped)), hget]
  have hreplaced := told.replaced hdb hfind
    { s with rows := s.rows ++ [⟨n, cells⟩], counter := n } rfl log
  refine ⟨t, s, ⟨n, cells⟩, hreplaced, ⟨hfound.fields, hfound.got⟩, hid,
    hfound.fields ▸ hs'.get?_id hlast, hown (by decide) (by decide) rfl,
    hown (by decide) (by decide) rfl,
    haccepts.assigned (hfound.fields ▸ htakes) (fun _ _ => rfl) fun c hc hfree => ?_⟩
  -- A column that nothing is given for holds what a new row begins with: the time, its default, or
  -- nothing.
  by_cases hname : c.name = "date_created"
  · obtain ⟨d, hd, hdn, haffinity⟩ := hregular.affinity_own "date_created" (by decide)
    obtain rfl := hregular.eq_of_name hc hd (hname.trans hdn.symm)
    have hmodified : values.get? "date_modified" = some (.int w.time) :=
      haccepts.rest (.inr (get?_byName_skipped (by decide)))
    obtain ⟨position, hcell⟩ := htakes.storable _ (Fields.mem_of_get? hmodified)
    have hget : (initial w.time).get? "date_created" = some (.int w.time) := rfl
    rw [hname, hget, haffinity, blank, if_pos rfl]
    exact congrArg some (convert_given_int hcell)
  · obtain ⟨hid', hmodified, hhidden⟩ : c.name ≠ "id" ∧ c.name ≠ "date_modified" ∧ c.name ≠ "hidden" := by
      simpa [skippedNames] using hfree
    have hget : (initial w.time).get? c.name = none := by
      simp [initial, Fields.get?_cons, hname, hmodified, hhidden]
    rw [hget, hregular.default_eq hc hhidden, blank, if_neg hname, if_neg hid']
    cases c.affinity <;> rfl

/-- A row that has been updated holds what was given, and it tells the time. -/
theorem update_changes (hupdate : (update f id givenTable n data).exec w = (.ok row, w')) :
    ∃ t s before old after new, s.rows = before ++ old :: after ∧ old.id = n ∧ new.id = n ∧
      Replaced f id givenTable t s { s with rows := before ++ new :: after } w w' ∧
      Found f id givenTable s new row w' ∧ row.get? "id" = (s.fields old).get? "id" ∧
      row.get? "hidden" = (s.fields old).get? "hidden" ∧
      row.get? "date_modified" = some (.integer w.time) ∧
      Assigned t data s (fun name => (s.fields old).get? name) row := by
  rcases update_cases f id givenTable hs n data with ⟨e, hexec⟩ |
    ⟨t, db, accepted, k, db', row', told, hspare, haccepts, hwritten, hk, hanswers, hexec⟩
  · simp [hexec] at hupdate
  obtain ⟨hrow, rfl⟩ := Prod.ext_iff.mp (hexec.symm.trans hupdate)
  obtain rfl := Except.ok.inj hrow
  obtain ⟨s, before, old, after, new, hsplit, hold, hnew, hregular, hreplaced, hfound, htakes, hid⟩ :=
    write_changes hr told hspare hwritten hk hanswers
  refine ⟨t, s, before, old, after, new, hsplit, hold, hnew, hreplaced, hfound, hid, ?hidden, ?time,
    haccepts.assigned htakes (fun name hfree => ?free) fun c hc hfree => rfl⟩
  case hidden =>
    obtain ⟨c, hc, hname, -⟩ := hregular.affinity_own "hidden" (by decide)
    have hkept : (accepted.put "date_modified" (.int w.time)).get? "hidden" = none := by
      rw [Fields.get?_put, if_neg (by decide)]
      exact haccepts.rest (.inr (get?_byName_skipped (by decide)))
    rw [← hname, htakes.cells c hc, hname, hkept]
  case time =>
    exact htakes.own hregular (by decide) (by rw [Fields.get?_put, if_pos rfl])
  case free =>
    have hne : name ≠ "date_modified" := by
      rintro rfl
      exact hfree (by decide)
    rw [Fields.get?_put, if_neg hne]

/-- A row that has been hidden or shown tells so, and it tells the time. -/
theorem setVisibility_changes {hidden : Value}
    (hset : (setVisibility f id givenTable n hidden).exec w = (.ok row, w')) :
    ∃ t s before old after new flag, s.rows = before ++ old :: after ∧ old.id = n ∧ new.id = n ∧
      Replaced f id givenTable t s { s with rows := before ++ new :: after } w w' ∧
      Found f id givenTable s new row w' ∧ Column.flag? hidden = some flag ∧
      row.get? "hidden" = some (.integer flag) ∧ row.get? "date_modified" = some (.integer w.time) ∧
      ∀ c ∈ s.columns, c.name ≠ "hidden" → c.name ≠ "date_modified" →
        row.get? c.name = (s.fields old).get? c.name := by
  rcases setVisibility_cases f id givenTable hs n hidden with ⟨e, hexec⟩ |
    ⟨t, db, flag, k, db', row', told, hflag, hspare, hwritten, hk, hanswers, hexec⟩
  · simp [hexec] at hset
  obtain ⟨hrow, rfl⟩ := Prod.ext_iff.mp (hexec.symm.trans hset)
  obtain rfl := Except.ok.inj hrow
  obtain ⟨s, before, old, after, new, hsplit, hold, hnew, hregular, hreplaced, hfound, htakes, -⟩ :=
    write_changes hr told hspare hwritten hk hanswers
  refine ⟨t, s, before, old, after, new, flag, hsplit, hold, hnew, hreplaced, hfound, hflag,
    htakes.own hregular (by decide) rfl, htakes.own hregular (by decide) rfl,
    fun c hc hhidden hmodified => ?_⟩
  rw [htakes.cells c hc]
  simp [Fields.get?_cons, hhidden, hmodified]

/-- Of the rows of a table, the one that has been deleted is gone. -/
theorem delete_drops (hdelete : (delete f id givenTable n).exec w = (.ok (), w')) :
    ∃ t s before old after, s.rows = before ++ old :: after ∧ old.id = n ∧
      Replaced f id givenTable t s { s with rows := before ++ after } w w' := by
  rcases delete_cases f id givenTable hs n with ⟨e, hexec⟩ | ⟨t, db, k, db', told, hdeleted, hk, hexec⟩
  · simp [hexec] at hdelete
  obtain ⟨-, rfl⟩ := Prod.ext_iff.mp (hexec.symm.trans hdelete)
  have hdb := hr.of_get? told.stored
  obtain ⟨s, before, old, after, hfind, hsplit, hid, rfl, hs'⟩ := hdb.delete_eq_ok hdeleted hk
  have hreplaced := told.replaced hdb hfind { s with rows := before ++ after } rfl w.log
  exact ⟨t, s, before, old, after, hsplit, hid, hreplaced⟩

end Outcomes

/-! Changes that fail change no file. -/

section Failures

variable {e : Error} (hs : w.files.Sound)

include hs

theorem create_fails (h : (create f id givenTable data).exec w = (.error e, w')) : w'.files = w.files := by
  rcases create_cases f id givenTable hs data with ⟨e, log, hexec⟩ |
    ⟨_, _, _, _, _, _, _, _, _, _, _, _, hexec⟩
  all_goals cases h.symm.trans hexec
  rfl

theorem update_fails (h : (update f id givenTable n data).exec w = (.error e, w')) :
    w'.files = w.files := by
  rcases update_cases f id givenTable hs n data with ⟨e, hexec⟩ |
    ⟨_, _, _, _, _, _, _, _, _, _, _, _, hexec⟩
  all_goals cases h.symm.trans hexec
  rfl

theorem setVisibility_fails {hidden : Value}
    (h : (setVisibility f id givenTable n hidden).exec w = (.error e, w')) : w'.files = w.files := by
  rcases setVisibility_cases f id givenTable hs n hidden with ⟨e, hexec⟩ |
    ⟨_, _, _, _, _, _, _, _, _, _, _, _, hexec⟩
  all_goals cases h.symm.trans hexec
  rfl

theorem delete_fails (h : (delete f id givenTable n).exec w = (.error e, w')) : w'.files = w.files := by
  rcases delete_cases f id givenTable hs n with ⟨e, hexec⟩ | ⟨_, _, _, _, _, _, _, hexec⟩
  all_goals cases h.symm.trans hexec
  rfl

end Failures

end Rows

/-- As long as no inconsistency has been told of, the columns of a stored table are of the types that the
record tells. -/
theorem Reachable.affinity_told (h : Reachable f true w) (hasked : Rows.Asked f id givenTable t s w)
    {c : SheetColumn} (hc : c ∈ s.columns) :
    ∃ d, t.columns.get? c.name = some d ∧ c.affinity = .ofStorage d.type.storage := by
  have hwell := hasked.wellFormed h.good.sound
  have htold := (h.marked hasked).toHolds.mem.mp hc
  obtain ⟨d, hd, hstored⟩ := Option.map_eq_some_iff.mp htold
  exact ⟨d, hd, by rw [← hstored, hwell.affinity_stored hd]⟩

/-- A table to which a row can be added, and of which the first row can be hidden. -/
def World.enlarged : Folders.Sample ⟨"data", "backup"⟩ fun w =>
    ((Rows.create ⟨"data", "backup"⟩ "a_0" "entries"
      [("title", .text "three"), (" Content ", .null)]).exec w).1.isOk = true ∧
    ((Rows.setVisibility ⟨"data", "backup"⟩ "a_0" "entries" 1 (.bool true)).exec w).1.isOk = true :=
  Request.sample _ Request.titled (by decide +kernel)

/-- What requests lead to of which the last ones meet with faults, and whether none of them has told of
an inconsistency. -/
def Request.runFaulty (f : Folders) (qs : List Request) (faults : Faults) (rest : List Request) :
    Bool × World :=
  let (agreed, w) := runAll f qs (true, {})
  let (agreed, w) := runAll f rest (agreed, { w with faults })
  (agreed, { w with faults := {} })

theorem Reachable.runFaulty (f : Folders) (qs : List Request) (faults : Faults) (rest : List Request) :
    Reachable f (Request.runFaulty f qs faults rest).1 (Request.runFaulty f qs faults rest).2 :=
  ((((Reachable.start 0 {} []).runAll qs).inject faults).runAll rest).inject {}

/-- A database with a column of texts, which was to become one of floats: the commit failed, and the
record could not be put back. -/
def World.divided : Bool × World :=
  Request.runFaulty ⟨"data", "backup"⟩
    [.createDatabase (.text "a") "",
      .schema "a_0" (.addColumn "entries" (.text "note") (.text "string") false none)]
    { commit := true, swaps := some 1 }
    [.schema "a_0" (.changeColumn "entries" "note" none (some (.text "float")))]

end Cabinet

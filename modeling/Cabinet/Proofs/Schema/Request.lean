import Cabinet.Proofs.Schema.Mutation

/-!
The ways to change tables and columns of a database. Each has two halves: the first checks the
arguments and reads the record, the second makes one revision or one change of what was read.
-/

namespace Cabinet

open Operation

/-- An operation whose answer is not looked at. -/
def Operation.silent {α : Type} (op : Operation α) : Operation Unit := do
  let _ ← op

theorem Operation.exec_silent {α : Type} (op : Operation α) (w : World) :
    op.silent.exec w = ((op.exec w).1.map fun _ => (), (op.exec w).2) := by
  simp [Operation.silent]

/-- What a revision makes of a record beside stored tables, which stay. -/
def Revision.made {α : Type} (revision : Revision α) (r : Record) (db : Storage.Database) :
    Except Error (Option (Record × Storage.Database)) := do
  let (_, revised) ← revision r
  return some (revised, db)

/-- What a change makes of a record and of stored tables. -/
def Change.made {α : Type} (change : Change α) (r : Record) (db : Storage.Database) :
    Except Error (Option (Record × Storage.Database)) := do
  let out ← change r db
  return some (out.record, out.stored)

namespace Schema

variable {α : Type}

/-- Reads the record of a database, for a revision that is made later. -/
def beginRevision (f : Folders) (id : String) (revision : Revision α) :
    Operation (Option (Operation Unit)) := do
  let found ← f.records.read id
  return some (finishRevision f found revision).silent

/-- Reads the record of a database, for a change that is made later and noted then. -/
def beginChange (f : Folders) (id action : String) (change : Change α) (note : α → Operation Unit) :
    Operation (Option (Operation Unit)) := do
  let p ← Store.existing f id
  let found ← f.records.read id
  return some (do note (← finishChange f p found action change))

/-- The ways to change the tables and the columns of a database. -/
inductive Request where
  | addTable (name : Value)
  | moveTable (table : String) (name : Value)
  | showTable (table : String) (hidden : Bool)
  | removeTable (table : String)
  | addColumn (table : String) (name type : Value) (hidden : Bool) (index? : Option Int)
  | changeColumn (table column : String) (name? type? : Option Value)
  | showColumn (table column : String) (hidden : Bool)
  | exchangeColumn (table column : String) (index : Int)
  | shiftColumn (table column : String) (index : Int)
  | removeColumn (table column : String)
  | addTag (table column : String) (tag : Value) (description : String)
  | removeTag (table column tag : String)
  | changeRule (table column : String) (rule : Value)

/-- What is made of a record and of stored tables, if anything is. -/
abbrev Making := Record → Storage.Database → Except Error (Option (Record × Storage.Database))

/-- What the first half of a request may be: checks of its arguments, readings of the record, and in
the end a revision or a change that is left to do, or nothing; and what is made by the whole. -/
inductive Begins (f : Folders) (id : String) : Operation (Option (Operation Unit)) → Making → Prop
  | answered : Begins f id (pure none) fun _ _ => pure none
  | revision {α : Type} {revision : Revision α} (lawful : revision.Lawful) :
    Begins f id (beginRevision f id revision) revision.made
  | change {α : Type} {change : Change α} {note : α → Operation Unit} (action : String)
    (lawful : change.Lawful) (quiet : ∀ a, (note a).Quiet) :
    Begins f id (beginChange f id action change note) change.made
  | check {α : Type} {x : Except Error α} {next : α → Operation (Option (Operation Unit))}
    {making : α → Making} (calm : Calm x) (rest : ∀ a, x = .ok a → Begins f id (next a) (making a)) :
    Begins f id (Operation.of x >>= next) fun r db => x >>= fun a => making a r db
  | reading {next : Record → Operation (Option (Operation Unit))} {making : Record → Making}
    (rest : ∀ r, Begins f id (next r) (making r)) :
    Begins f id (f.records.read id >>= next) fun r db => making r r db

namespace Request

def run (f : Folders) (id : String) : Request → Operation Unit
  | addTable name => (Schema.addTable f id name).silent
  | moveTable table name => Schema.moveTable f id table name
  | showTable table hidden => Schema.showTable f id table hidden
  | removeTable table => Schema.removeTable f id table
  | addColumn table name type hidden index? =>
    (Schema.addColumn f id table name type hidden index?).silent
  | changeColumn table column name? type? => (Schema.changeColumn f id table column name? type?).silent
  | showColumn table column hidden => (Schema.showColumn f id table column hidden).silent
  | exchangeColumn table column index => (Schema.exchangeColumn f id table column index).silent
  | shiftColumn table column index => (Schema.shiftColumn f id table column index).silent
  | removeColumn table column => Schema.removeColumn f id table column
  | addTag table column tag description =>
    (Schema.addTag f id table column tag (.text description)).silent
  | removeTag table column tag => (Schema.removeTag f id table column tag).silent
  | changeRule table column rule => (Schema.changeRule f id table column rule).silent

/-- The first half of a request: what is left to do, if anything is. -/
def begin (f : Folders) (id : String) : Request → Operation (Option (Operation Unit))
  | addTable name => do
    let name ← Operation.of (newName "Table" name)
    Operation.of (ensureNotReserved name)
    beginChange f id ("create table '" ++ name ++ "'") (createTable id name) fun _ =>
      log .info source ("Created table '" ++ name ++ "' in database '" ++ id ++ "'")
  | moveTable table name => do
    let old := Name.normalize table
    let new ← Operation.of (newName "Table" name)
    beginChange f id ("rename table '" ++ old ++ "'") (renameTable id old new) fun _ =>
      log .info source
        ("Renamed table '" ++ old ++ "' to '" ++ new ++ "' in database '" ++ id ++ "'")
  | showTable table hidden => beginRevision f id (setTableVisibility (Name.normalize table) hidden)
  | removeTable table =>
    let name := Name.normalize table
    beginChange f id ("delete table '" ++ name ++ "'") (deleteTable name) fun _ =>
      log .info source ("Deleted table '" ++ name ++ "' from database '" ++ id ++ "'")
  | addColumn table name type hidden index? => do
    let table := Name.normalize table
    let name ← Operation.of (newName "Column" name)
    let type ← Operation.of (newType type)
    beginChange f id ("create column '" ++ name ++ "'") (createColumn table name type hidden index?)
      fun c => log .info source
        ("Created " ++ type.label ++ " column '" ++ name ++ "' at index " ++ Error.number c.index ++
          " in " ++ id ++ "." ++ table)
  | changeColumn table column name? type? => do
    let table := Name.normalize table
    let old := Name.normalize column
    let name? ← Operation.of (name?.mapM (newName "Column"))
    let type? ← Operation.of (type?.mapM newType)
    if name?.isNone && type?.isNone then throw (.nothingToChange old)
    Operation.of (ensureUnprotected old "renamed or retyped")
    beginChange f id ("alter column '" ++ old ++ "'") (editColumn id table old name? type?)
      fun _ => pure ()
  | showColumn table column hidden =>
    beginRevision f id (setColumnVisibility (Name.normalize table) (Name.normalize column) hidden)
  | exchangeColumn table column index => do
    let name := Name.normalize column
    Operation.of (ensureUnprotected name "moved")
    beginRevision f id (swapColumn (Name.normalize table) name index)
  | shiftColumn table column index => do
    let table := Name.normalize table
    let name := Name.normalize column
    Operation.of (ensureUnprotected name "moved")
    let current ← Schema.column f id table name
    if current.index = index then return none
    beginRevision f id (moveColumn table name index)
  | removeColumn table column => do
    let table := Name.normalize table
    let name := Name.normalize column
    Operation.of (ensureUnprotected name "deleted")
    beginChange f id ("delete column '" ++ name ++ "'") (deleteColumn table name) fun _ =>
      log .info source ("Deleted column '" ++ name ++ "' from " ++ id ++ "." ++ table)
  | addTag table column tag description => do
    let name := Name.normalize column
    let tag ← Operation.of (newName "Tag" tag)
    Operation.of (ensureUnprotected name "given tags")
    beginRevision f id (registerTag (Name.normalize table) name tag (.text description))
  | removeTag table column tag => do
    let table := Name.normalize table
    let name := Name.normalize column
    let tag := Name.normalize tag
    Operation.of (ensureUnprotected name "given tags")
    let t ← Schema.table f id table
    let current ← Operation.of (t.column name table)
    Operation.of (ensureTags name current)
    if current.hasTag tag then beginRevision f id (unregisterTag table name tag) else return none
  | changeRule table column rule => do
    let name := Name.normalize column
    Operation.of (ensureUnprotected name "given a rule")
    beginRevision f id (setRule (Name.normalize table) name rule)

/-- What a request makes of the record and of the stored tables of a database. -/
def making (id : String) (q : Request) : Making := fun r db =>
  match q with
  | addTable name => do
    let name ← newName "Table" name
    ensureNotReserved name
    (createTable id name).made r db
  | moveTable table name => do
    let new ← newName "Table" name
    (renameTable id (Name.normalize table) new).made r db
  | showTable table hidden => (setTableVisibility (Name.normalize table) hidden).made r db
  | removeTable table => (deleteTable (Name.normalize table)).made r db
  | addColumn table name type hidden index? => do
    let name ← newName "Column" name
    let type ← newType type
    (createColumn (Name.normalize table) name type hidden index?).made r db
  | changeColumn table column name? type? => do
    let old := Name.normalize column
    let name? ← name?.mapM (newName "Column")
    let type? ← type?.mapM newType
    if name?.isNone && type?.isNone then throw (.nothingToChange old)
    ensureUnprotected old "renamed or retyped"
    (editColumn id (Name.normalize table) old name? type?).made r db
  | showColumn table column hidden =>
    (setColumnVisibility (Name.normalize table) (Name.normalize column) hidden).made r db
  | exchangeColumn table column index => do
    let name := Name.normalize column
    ensureUnprotected name "moved"
    (swapColumn (Name.normalize table) name index).made r db
  | shiftColumn table column index => do
    let table := Name.normalize table
    let name := Name.normalize column
    ensureUnprotected name "moved"
    let t ← r.table (Name.normalize (Name.normalize table))
    let current ← t.column (Name.normalize name) (Name.normalize table)
    if current.index = index then return none
    (moveColumn table name index).made r db
  | removeColumn table column => do
    let name := Name.normalize column
    ensureUnprotected name "deleted"
    (deleteColumn (Name.normalize table) name).made r db
  | addTag table column tag description => do
    let name := Name.normalize column
    let tag ← newName "Tag" tag
    ensureUnprotected name "given tags"
    (registerTag (Name.normalize table) name tag (.text description)).made r db
  | removeTag table column tag => do
    let table := Name.normalize table
    let name := Name.normalize column
    let tag := Name.normalize tag
    ensureUnprotected name "given tags"
    let t ← r.table (Name.normalize table)
    let current ← t.column name table
    ensureTags name current
    if current.hasTag tag then (unregisterTag table name tag).made r db else return none
  | changeRule table column rule => do
    let name := Name.normalize column
    ensureUnprotected name "given a rule"
    (setRule (Name.normalize table) name rule).made r db

/-- What is done after the first half. -/
def rest (rest? : Option (Operation Unit)) : Operation Unit :=
  rest?.getD (pure ())

/-- A revision is done when its second half follows its first one. -/
theorem beginRevision_rest (f : Folders) (id : String) (revision : Revision α) :
    beginRevision f id revision >>= rest = (applyRevision f id revision).silent := by
  simp [beginRevision, applyRevision, rest, silent]

/-- So is a change. -/
theorem beginChange_rest (f : Folders) (id action : String) (change : Change α)
    (note : α → Operation Unit) :
    beginChange f id action change note >>= rest = applyChange f id action change >>= note := by
  simp [beginChange, applyChange, rest]

/-- A request is its first half and what that leaves to do. -/
theorem run_eq (f : Folders) (id : String) (q : Request) : q.run f id = q.begin f id >>= rest := by
  have hbind : ∀ (c : Prop) [Decidable c] (first second : Operation (Option (Operation Unit))),
      (if c then first else second) >>= rest = if c then first >>= rest else second >>= rest :=
    fun c _ first second => apply_ite (· >>= rest) c first second
  have hmap : ∀ (c : Prop) [Decidable c] (first second : Operation Column),
      (fun _ => ()) <$> (if c then first else second) =
        if c then (fun _ => ()) <$> first else (fun _ => ()) <$> second :=
    fun c _ first second => apply_ite ((fun _ => ()) <$> ·) c first second
  have hdone : rest none = pure () := rfl
  cases q with
  | addTable name => simp [run, begin, silent, Schema.addTable, beginChange_rest]
  | moveTable table name => simp [run, begin, Schema.moveTable, beginChange_rest]
  | showTable table hidden => simp [run, begin, silent, Schema.showTable, beginRevision_rest]
  | removeTable table => simp [run, begin, Schema.removeTable, beginChange_rest]
  | addColumn table name type hidden index? =>
    simp [run, begin, silent, Schema.addColumn, beginChange_rest]
  | changeColumn table column name? type? =>
    simp [run, begin, silent, Schema.changeColumn, beginChange_rest, hbind, hmap]
  | showColumn table column hidden =>
    simp [run, begin, silent, Schema.showColumn, beginRevision_rest]
  | exchangeColumn table column index =>
    simp [run, begin, silent, Schema.exchangeColumn, beginRevision_rest]
  | shiftColumn table column index =>
    simp [run, begin, silent, Schema.shiftColumn, beginRevision_rest, hdone, hbind, hmap]
  | removeColumn table column => simp [run, begin, Schema.removeColumn, beginChange_rest]
  | addTag table column tag description =>
    simp [run, begin, silent, Schema.addTag, beginRevision_rest]
  | removeTag table column tag =>
    simp [run, begin, silent, Schema.removeTag, beginRevision_rest, hdone, hbind, hmap]
  | changeRule table column rule =>
    simp [run, begin, silent, Schema.changeRule, beginRevision_rest]

theorem begin_begins (f : Folders) (id : String) (q : Request) :
    Begins f id (q.begin f id) (q.making id) := by
  cases q with
  | addTable name =>
    refine .check (calm_newName _ _) fun name hname => .check ?_ fun _ _ =>
      .change _ (createTable_lawful id (newName_eq_ok hname)) fun _ => .log _ _ _
    unfold ensureNotReserved
    split
    · exact .error nofun
    · exact .ok _
  | moveTable table name =>
    exact .check (calm_newName _ _) fun name hname =>
      .change _ (renameTable_lawful id _ (newName_eq_ok hname)) fun _ => .log _ _ _
  | showTable table hidden => exact .revision (setTableVisibility_lawful _ hidden)
  | removeTable table => exact .change _ (deleteTable_lawful _) fun _ => .log _ _ _
  | addColumn table name type hidden index? =>
    exact .check (calm_newName _ _) fun name hname => .check (calm_newType _) fun type htype =>
      .change _ (createColumn_lawful _ (newName_eq_ok hname) (newType_eq_ok htype) hidden index?)
        fun _ => .log _ _ _
  | changeColumn table column name? type? =>
    unfold begin
    refine .check (.mapM (calm_newName _) _) fun name? hname =>
      .check (.mapM calm_newType _) fun type? htype => ?_
    split
    · exact .check (x := .error _) (.error nofun) fun _ h => nomatch h
    · refine .check (calm_ensureUnprotected _ _) fun _ hp => .change _ ?_ fun _ => .pure ()
      have hnormal : ∀ new ∈ name?, Name.IsNormal new := fun new hnew =>
        newName_eq_ok (of_mapM_eq_ok hname hnew).choose_spec
      have hcatalog : ∀ type ∈ type?, type.isOther = false := fun type ht =>
        newType_eq_ok (of_mapM_eq_ok htype ht).choose_spec
      exact editColumn_lawful id _ (ensureUnprotected_eq_ok hp) hnormal hcatalog
  | showColumn table column hidden => exact .revision (setColumnVisibility_lawful _ _ hidden)
  | exchangeColumn table column index =>
    exact .check (calm_ensureUnprotected _ _) fun _ hp =>
      .revision (swapColumn_lawful _ (ensureUnprotected_eq_ok hp) index)
  | shiftColumn table column index =>
    refine .check (calm_ensureUnprotected _ _) fun _ hp => ?_
    unfold Schema.column Schema.table
    rw [bind_assoc, bind_assoc]
    -- What is read is used twice: to look up the column, and to be revised.
    refine @Begins.reading f id _ (fun found r db => do
      let t ← found.table (Name.normalize (Name.normalize (Name.normalize table)))
      let current ← t.column (Name.normalize (Name.normalize column))
        (Name.normalize (Name.normalize table))
      if current.index = index then return none
      (moveColumn (Name.normalize table) (Name.normalize column) index).made r db)
      fun r => .check (r.calm_table _) fun t _ => .check (t.calm_column _ _) fun current _ => ?_
    split
    · exact .answered
    · exact .revision (moveColumn_lawful _ (ensureUnprotected_eq_ok hp) index)
  | removeColumn table column =>
    exact .check (calm_ensureUnprotected _ _) fun _ hp =>
      .change _ (deleteColumn_lawful _ (ensureUnprotected_eq_ok hp)) fun _ => .log _ _ _
  | addTag table column tag description =>
    exact .check (calm_newName _ _) fun tag htag => .check (calm_ensureUnprotected _ _) fun _ _ =>
      .revision (registerTag_lawful _ _ (newName_eq_ok htag) (Json.isPlain_text description))
  | removeTag table column tag =>
    refine .check (calm_ensureUnprotected _ _) fun _ _ => ?_
    unfold Schema.table
    rw [bind_assoc]
    refine @Begins.reading f id _ (fun found r db => do
      let t ← found.table (Name.normalize (Name.normalize table))
      let current ← t.column (Name.normalize column) (Name.normalize table)
      ensureTags (Name.normalize column) current
      if current.hasTag (Name.normalize tag) then
        (unregisterTag (Name.normalize table) (Name.normalize column) (Name.normalize tag)).made r db
      else return none)
      fun r => .check (r.calm_table _) fun t _ => .check (t.calm_column _ _) fun current _ =>
        .check (calm_ensureTags _ _) fun _ _ => ?_
    split
    · exact .revision (unregisterTag_lawful _ _ _)
    · exact .answered
  | changeRule table column rule =>
    exact .check (calm_ensureUnprotected _ _) fun _ _ => .revision (setRule_lawful _ _ rule)

end Request

/-- The first half and what it leaves to do make one revision or one change at most. -/
theorem Begins.mutation {f : Folders} {id : String} {first : Operation (Option (Operation Unit))}
    {making : Making} (h : Begins f id first making) : Mutation f id (first >>= Request.rest) := by
  induction h with
  | answered => exact .answer (.ok ()) (.ok ())
  | revision lawful =>
    rw [Request.beginRevision_rest]
    exact .quietly (.revision lawful) fun _ => .pure ()
  | change action lawful quiet =>
    rw [Request.beginChange_rest]
    exact .quietly (.change action lawful) quiet
  | check calm _ ih =>
    rw [bind_assoc]
    exact .check calm ih
  | reading _ ih =>
    rw [bind_assoc]
    exact .reading (f.records.reads_read id) ih

theorem Request.run_mutation (f : Folders) (id : String) (q : Request) :
    Mutation f id (q.run f id) := by
  rw [q.run_eq]
  exact (q.begin_begins f id).mutation

end Schema

end Cabinet

import Cabinet.Proofs.Backups
import Cabinet.Proofs.Rows
import Cabinet.Proofs.Schema.Request

/-!
Runs of the library: requests one after another, while time passes and faults come and go.
-/

namespace Cabinet

open Operation

/-- The operations of the library. -/
inductive Request where
  | createDatabase (name : Value) (description : String)
  | listDatabases (includeHidden : Bool)
  | getDatabase (id : String)
  | renameDatabase (id : String) (name : Value)
  | setDatabaseVisibility (id : String) (hidden : Bool)
  | deleteDatabase (id : String)
  | listTables (id : String)
  | getTable (id table : String)
  | checkTable (id table : String)
  | listColumns (id table : String)
  | getColumn (id table column : String)
  | schema (id : String) (q : Schema.Request)
  | createRow (id table : String) (data : List (String × Value))
  | getRow (id table : String) (row : Int)
  | updateRow (id table : String) (row : Int) (data : List (String × Value))
  | setRowVisibility (id table : String) (row : Int) (hidden : Value)
  | deleteRow (id table : String) (row : Int)
  | searchRows (id table : String) (options : Rows.SearchOptions)
  | createBackup (id : String)
  | listBackups
  | restoreBackup (name : String)
  | deleteBackup (name : String)

namespace Request

def run (f : Folders) : Request → Operation Unit
  | createDatabase name description => (Databases.create f name (.text description)).silent
  | listDatabases includeHidden => (Databases.list f includeHidden).silent
  | getDatabase id => (Databases.get f id).silent
  | renameDatabase id name => (Databases.rename f id name).silent
  | setDatabaseVisibility id hidden => (Databases.setVisibility f id hidden).silent
  | deleteDatabase id => Databases.delete f id
  | listTables id => (Schema.tables f id).silent
  | getTable id table => (Schema.table f id table).silent
  | checkTable id table => (Schema.check f id table).silent
  | listColumns id table => (Schema.columns f id table).silent
  | getColumn id table column => (Schema.column f id table column).silent
  | schema id q => q.run f id
  | createRow id table data => (Rows.create f id table data).silent
  | getRow id table row => (Rows.get f id table row).silent
  | updateRow id table row data => (Rows.update f id table row data).silent
  | setRowVisibility id table row hidden => (Rows.setVisibility f id table row hidden).silent
  | deleteRow id table row => Rows.delete f id table row
  | searchRows id table options => (Rows.search f id table options).silent
  | createBackup id => (Backups.create f id).silent
  | listBackups => (Backups.list f).silent
  | restoreBackup name => (Backups.restore f name).silent
  | deleteBackup name => Backups.delete f name

variable {b : Bond}

theorem check_keeps (f : Folders) (id table : String) : (Schema.check f id table).Keeps b f := by
  refine (Schema.reads_table f id _).keeps.bind fun t => Store.asking_keeps fun stored =>
    (Store.ask_keeps stored _).bind fun there => ?_
  split
  · exact (Store.ask_keeps stored _).bind fun columns => .of (.ok _)
  · exact .of (.ok _)

/-- Every request keeps databases paired with their records, unless it tells of an inconsistency. -/
theorem run_keeps (f : Folders) (q : Request) : (q.run f).Keeps b f := by
  have hsilent : ∀ {α : Type} {op : Operation α}, op.Keeps b f → op.silent.Keeps b f :=
    fun h => h.bind fun _ => .of (.ok ())
  cases q with
  | createDatabase name description => exact hsilent (Databases.create_keeps f name description)
  | listDatabases includeHidden => exact hsilent (Databases.list_keeps f includeHidden)
  | getDatabase id => exact hsilent (Databases.get_keeps f id)
  | renameDatabase id name => exact hsilent (Databases.rename_keeps f id name)
  | setDatabaseVisibility id hidden => exact hsilent (Databases.setVisibility_keeps f id hidden)
  | deleteDatabase id => exact Databases.delete_keeps f id
  | listTables id =>
    exact hsilent ((f.records.reads_read id).keeps.bind fun _ => .of (.ok _))
  | getTable id table => exact hsilent (Schema.reads_table f id table).keeps
  | checkTable id table => exact hsilent (check_keeps f id table)
  | listColumns id table =>
    exact hsilent ((Schema.reads_table f id table).keeps.bind fun _ => .of (.ok _))
  | getColumn id table column => exact hsilent (Schema.reads_column f id table column).keeps
  | schema id q => exact (q.run_mutation f id).keeps
  | createRow id table data => exact hsilent (Rows.create_keeps f id table data)
  | getRow id table row => exact hsilent (Rows.get_keeps f id table row)
  | updateRow id table row data => exact hsilent (Rows.update_keeps f id table row data)
  | setRowVisibility id table row hidden =>
    exact hsilent (Rows.setVisibility_keeps f id table row hidden)
  | deleteRow id table row => exact Rows.delete_keeps f id table row
  | searchRows id table options => exact hsilent (Rows.search_keeps f id table options)
  | createBackup id => exact hsilent (Backups.create_keeps f id)
  | listBackups => exact hsilent (Backups.list_keeps f)
  | restoreBackup name => exact hsilent (Backups.restore_keeps f name)
  | deleteBackup name => exact Backups.delete_keeps f name

end Request

/-- The workspaces that runs lead to, from no files at all; and whether no request of the run has told
of an inconsistency. -/
inductive Reachable (f : Folders) : Bool → World → Prop
  | start (time : Int) (faults : Faults) (log : List LogEntry) :
    Reachable f true { time, faults, log }
  | request {agreed : Bool} {w : World} (h : Reachable f agreed w) (q : Request) :
    Reachable f (agreed && !tells ((q.run f).exec w).1) ((q.run f).exec w).2
  | wait {agreed : Bool} {w : World} (h : Reachable f agreed w) (time : Int) :
    Reachable f agreed { w with time }
  | inject {agreed : Bool} {w : World} (h : Reachable f agreed w) (faults : Faults) :
    Reachable f agreed { w with faults }

/-- The workspaces that runs lead to in which only some times and some faults come. -/
inductive Within (f : Folders) (times : Int → Prop) (admitted : Faults → Prop) : Bool → World → Prop
  | start {time : Int} {faults : Faults} (ht : times time) (hf : admitted faults)
    (log : List LogEntry) : Within f times admitted true { time, faults, log }
  | request {agreed : Bool} {w : World} (h : Within f times admitted agreed w) (q : Request) :
    Within f times admitted (agreed && !tells ((q.run f).exec w).1) ((q.run f).exec w).2
  | wait {agreed : Bool} {w : World} (h : Within f times admitted agreed w) {time : Int}
    (ht : times time) : Within f times admitted agreed { w with time }
  | inject {agreed : Bool} {w : World} (h : Within f times admitted agreed w) {faults : Faults}
    (hf : admitted faults) : Within f times admitted agreed { w with faults }

/-- What such runs lead to is good, with any bond that lasts at these times. -/
theorem Within.good {f : Folders} {b : Bond} {admitted : Faults → Prop} {agreed : Bool} {w : World}
    (h : Within f b.times admitted agreed w)
    (hsafe : b.safe = true → ∀ faults, admitted faults → faults.Harmless) :
    World.Good b f (agreed || b.safe) w := by
  induction h with
  | start ht hf log => exact ⟨Files.sound_nil, fun _ => f.paired_nil b, ht, (hsafe · _ hf)⟩
  | @request agreed w _ q ih =>
    -- A request keeps files in pairs, or it tells; where the bond is safe, it keeps them anyway.
    have hkept := q.run_keeps f ih
    rwa [Bool.or_comm b.safe, ← Bool.or_and_distrib_right] at hkept
  | wait _ ht ih => exact ⟨ih.sound, ih.paired, ht, ih.harmless⟩
  | inject _ hf ih => exact ⟨ih.sound, ih.paired, ih.time, (hsafe · _ hf)⟩

theorem Reachable.within {f : Folders} {agreed : Bool} {w : World} (h : Reachable f agreed w) :
    Within f (fun _ => True) (fun _ => True) agreed w := by
  induction h with
  | start time faults log => exact .start trivial trivial log
  | request _ q ih => exact ih.request q
  | wait _ time ih => exact ih.wait trivial
  | inject _ faults ih => exact ih.inject trivial

/-- That stored tables have the columns that the record tells lasts at all times. -/
def Bond.columns : Bond where
  relation := Storage.Sheet.Holds
  times _ := True
  lasting := Storage.Sheet.Holds.lasting _
  safe := false

/-- What runs lead to is good. -/
theorem Reachable.good {f : Folders} {agreed : Bool} {w : World} (h : Reachable f agreed w) :
    World.Good .columns f agreed w := by
  have hgood := Within.good (b := .columns) h.within fun hsafe => nomatch hsafe
  rwa [Bond.columns, Bool.or_false] at hgood

/-- It is the files that make a workspace good. -/
theorem Reachable.good_of_files {f : Folders} {agreed : Bool} {w w' : World} (h : Reachable f agreed w)
    (hf : w'.files = w.files) : World.Good .columns f agreed w' where
  sound := hf ▸ h.good.sound
  paired hagreed := hf ▸ h.good.paired hagreed
  time := trivial
  harmless hsafe := nomatch hsafe

/-- What requests one after another lead to, and whether none of them has told of an inconsistency. -/
def Request.runAll (f : Folders) : List Request → Bool × World → Bool × World
  | [], state => state
  | q :: rest, (agreed, w) =>
    let (x, w') := (q.run f).exec w
    runAll f rest (agreed && !tells x, w')

theorem Reachable.runAll {f : Folders} {agreed : Bool} {w : World} (h : Reachable f agreed w)
    (qs : List Request) :
    Reachable f (Request.runAll f qs (agreed, w)).1 (Request.runAll f qs (agreed, w)).2 := by
  induction qs generalizing agreed w with
  | nil => exact h
  | cons q rest ih => exact ih (h.request q)

/-- Workspaces in which something holds, and to which a run has led that has told of no inconsistency. -/
abbrev Folders.Sample (f : Folders) (P : World → Prop) : Type :=
  { w : World // Reachable f true w ∧ P w }

/-- The workspace that requests lead to, where it can be decided what holds there. -/
def Request.sample (f : Folders) (qs : List Request) {P : World → Prop}
    (h : (runAll f qs (true, {})).1 = true ∧ P (runAll f qs (true, {})).2) : f.Sample P where
  val := (runAll f qs (true, {})).2
  property := by
    have hreach := (Reachable.start (f := f) 0 {} []).runAll qs
    rw [h.1] at hreach
    exact ⟨hreach, h.2⟩

/-- A new database whose first table is given a column. -/
def Request.priced : List Request :=
  [.createDatabase (.text "a") "",
    .schema "a_0" (.addColumn "entries" (.text "Price") (.text "integer") false none)]

end Cabinet

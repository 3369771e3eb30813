import Cabinet.Proofs.Except
import Cabinet.Schema.Change

/-!
No change of tables and columns fails as an inconsistency by itself.
-/

namespace Cabinet

open Storage

/-- A computation that does not fail as an inconsistency. -/
def Calm {α : Type} (x : Except Error α) : Prop :=
  ∀ e, x = .error e → e.kind ≠ .inconsistent

namespace Calm

variable {α β : Type}

theorem ok (a : α) : Calm (.ok a) :=
  fun _ h => nomatch h

theorem error {e : Error} (h : e.kind ≠ .inconsistent) : Calm (.error e : Except Error α) := by
  rintro _ ⟨⟩
  exact h

theorem bind {x : Except Error α} {next : α → Except Error β} (hx : Calm x)
    (hn : ∀ a, Calm (next a)) : Calm (x >>= next) := by
  cases x with
  | ok a => exact hn a
  | error e => exact fun e' he => hx e' (by simpa using he)

/-- A check, and what comes after it. -/
theorem check {c : Prop} [Decidable c] {e : Error} {refused : α → Except Error β}
    {rest : Except Error β} (he : e.kind ≠ .inconsistent) (hr : Calm rest) :
    Calm (if c then (throw e : Except Error α) >>= refused else rest) := by
  split
  · exact error he
  · exact hr

theorem mapM {f : α → Except Error β} (hf : ∀ a, Calm (f a)) (a? : Option α) : Calm (a?.mapM f) := by
  cases a? with
  | none => exact .ok none
  | some a => exact .bind (hf a) fun b => .ok (some b)

end Calm

namespace Storage.Statement

theorem calm_on {α : Type} (s : Statement α) (db : Database) : Calm (s.on db) := by
  unfold on named
  split
  · exact .ok _
  · exact .error nofun

end Storage.Statement

theorem Record.calm_table (r : Record) (name : String) : Calm (r.table name) := by
  unfold Record.table
  split
  · exact .ok _
  · exact .error nofun

theorem Table.calm_column (t : Table) (name table : String) : Calm (t.column name table) := by
  unfold Table.column
  split
  · exact .ok _
  · exact .error nofun

namespace Schema

open Statement Record Table

theorem calm_newName (what : String) (v : Value) : Calm (newName what v) := by
  unfold newName
  split
  · dsimp only
    split
    · exact .error nofun
    · exact .ok _
  · exact .error nofun

theorem calm_newType (v : Value) : Calm (newType v) := by
  unfold newType
  split
  · exact .ok _
  · exact .error nofun

theorem calm_ensureUnprotected (name action : String) : Calm (ensureUnprotected name action) := by
  unfold ensureUnprotected
  split
  · exact .error nofun
  · exact .ok _

theorem calm_ensureMovable (columns : List Column) : Calm (ensureMovable columns) := by
  unfold ensureMovable
  split
  · exact .error nofun
  · exact .ok _

theorem calm_ensureTags (name : String) (c : Column) : Calm (ensureTags name c) := by
  unfold ensureTags
  split
  · exact .ok _
  · exact .error nofun

theorem calm_compileRule (c : Column) (rule : String) : Calm (c.compileRule rule) := by
  unfold Column.compileRule
  split
  · exact .ok _
  · next fault _ => cases fault <;> exact .error nofun

variable (id name table old new : String) (r : Record) (db : Database)

theorem createTable_calm : Calm (createTable id name r db) :=
  .bind (calm_on _ _) fun _ => .check nofun (.bind (calm_on _ _) fun _ => .ok _)

theorem renameTable_calm : Calm (renameTable id old new r db) :=
  .bind (calm_table _ _) fun _ => .bind (calm_on _ _) fun _ =>
    .check nofun (.bind (calm_on _ _) fun _ => .ok _)

theorem setTableVisibility_calm (hidden : Bool) : Calm (setTableVisibility name hidden r) :=
  .bind (calm_table _ _) fun _ => .ok _

theorem deleteTable_calm : Calm (deleteTable name r db) := by
  refine .bind (calm_table _ _) fun _ => .bind (calm_on _ _) fun exists? => ?_
  cases exists?
  · exact .ok _
  · exact .bind (calm_on _ _) fun _ => .ok _

theorem createColumn_calm (type : ColumnType) (hidden : Bool) (index? : Option Int) :
    Calm (createColumn table name type hidden index? r db) :=
  .bind (calm_table _ _) fun _ => .check nofun <|
    .check nofun <| .bind (calm_ensureMovable _) fun _ =>
      .bind (calm_on _ _) fun _ => .ok _

theorem renameColumn_calm (t : Table) (c : Column) : Calm (renameColumn table old new t c db) :=
  .check nofun (.bind (calm_on _ _) fun _ => .ok _)

theorem retypeColumn_calm (type : ColumnType) (t : Table) (c : Column) :
    Calm (retypeColumn table type t c db) :=
  .bind (calm_on _ _) fun _ => .bind (calm_on _ _) fun _ => .ok _

/-- The second step of an edit of a column, after it has the name that it is to have. -/
theorem retype?_calm (type? : Option ColumnType) (p : Table × Column × Database) : Calm (do
    let (t, c, db) := p
    match type? with
    | some type =>
      if type = c.type then
        return ({ answer := c, record := r.put table t, stored := db } : Outcome Column)
      else
        let (t, d, db) ← retypeColumn table type t c db
        return {
          answer := d, record := r.put table t, stored := db
          warnings := [retypeWarning id table c.name c.type type] }
    | none => return { answer := c, record := r.put table t, stored := db }) := by
  cases type? with
  | none => exact .ok _
  | some type =>
    dsimp only
    split
    · exact .ok _
    · exact .bind (retypeColumn_calm _ _ _ _ _) fun _ => .ok _

theorem editColumn_calm (name? : Option String) (type? : Option ColumnType) :
    Calm (editColumn id table old name? type? r db) := by
  refine .bind (calm_table _ _) fun t => .bind (calm_column _ _ _) fun c => ?_
  cases name? with
  | none => exact retype?_calm id table r type? (t, c, db)
  | some new =>
    dsimp only
    split
    · exact retype?_calm id table r type? (t, c, db)
    · exact .bind (renameColumn_calm _ _ _ _ _ _) (retype?_calm id table r type?)

theorem deleteColumn_calm : Calm (deleteColumn table name r db) :=
  .bind (calm_table _ _) fun _ => .bind (calm_column _ _ _) fun _ =>
    .bind (calm_on _ _) fun _ => .ok _

theorem revise_calm {f : Column → Except Error Column} (hf : ∀ c, Calm (f c)) :
    Calm (revise table name f r) :=
  .bind (calm_table _ _) fun _ => .bind (calm_column _ _ _) fun c => .bind (hf c) fun _ => .ok _

theorem setColumnVisibility_calm (hidden : Bool) : Calm (setColumnVisibility table name hidden r) :=
  revise_calm _ _ _ fun _ => .ok _

theorem swapColumn_calm (index : Int) : Calm (swapColumn table name index r) := by
  refine .bind (calm_table _ _) fun t => .bind (calm_column _ _ _) fun c => ?_
  split
  · exact .error nofun
  · refine .bind (calm_ensureUnprotected _ _) fun _ => ?_
    split <;> exact .ok _

theorem moveColumn_calm (index : Int) : Calm (moveColumn table name index r) :=
  .bind (calm_table _ _) fun _ => .bind (calm_column _ _ _) fun _ =>
    .check nofun <| .bind (calm_ensureMovable _) fun _ => .ok _

theorem registerTag_calm (tag : String) (description : Value) :
    Calm (registerTag table name tag description r) :=
  revise_calm _ _ _ fun _ => .bind (calm_ensureTags _ _) fun _ =>
    .check nofun (.ok _)

theorem unregisterTag_calm (tag : String) : Calm (unregisterTag table name tag r) :=
  revise_calm _ _ _ fun _ => .bind (calm_ensureTags _ _) fun _ => .ok _

theorem setRule_calm (rule : Value) : Calm (setRule table name rule r) := by
  refine revise_calm _ _ _ fun c => .check nofun ?_
  split
  · exact .bind (calm_compileRule _ _) fun _ => .ok _
  · exact .error nofun

end Schema

end Cabinet

import Cabinet.Proofs.Schema.Agreement
import Cabinet.Proofs.Schema.Calm
import Cabinet.Proofs.Schema.Regular

/-!
What every way to change tables and columns has in common.
-/

namespace Cabinet

/-- A revision after which records are sound, with what is stored in step. -/
structure Revision.Lawful {α : Type} (revision : Revision α) : Prop where
  sound : revision.Sound
  faithful {R T} (hR : Storage.Sheet.Lasting R T) : revision.Faithful R
  calm : ∀ r, Calm (revision r)

/-- A change after which records are sound, with what is stored in step. Stored tables that are not in
step are still as the library makes them. -/
structure Change.Lawful {α : Type} (change : Change α) : Prop where
  sound : change.Sound
  faithful {R T} (hR : Storage.Sheet.Lasting R T) : change.Faithful R
  regular : change.Regular
  calm : ∀ r db, Calm (change r db)

namespace Schema

variable (id table : String) {name new : String}

theorem createTable_lawful (h : Name.IsNormal name) : (createTable id name).Lawful :=
  ⟨createTable_sound id h, (createTable_faithful · id name), createTable_regular id name,
    createTable_calm id name⟩

theorem renameTable_lawful (old : String) (h : Name.IsNormal new) : (renameTable id old new).Lawful :=
  ⟨renameTable_sound id old h, (renameTable_faithful · id old new), renameTable_regular id old new,
    renameTable_calm id old new⟩

theorem setTableVisibility_lawful (name : String) (hidden : Bool) :
    (setTableVisibility name hidden).Lawful :=
  ⟨setTableVisibility_sound name hidden, (setTableVisibility_faithful · name hidden),
    fun r => setTableVisibility_calm name r hidden⟩

theorem deleteTable_lawful (name : String) : (deleteTable name).Lawful :=
  ⟨deleteTable_sound name, fun _ => deleteTable_faithful name, deleteTable_regular name,
    deleteTable_calm name⟩

theorem createColumn_lawful {type : ColumnType} (h : Name.IsNormal name) (ht : type.isOther = false)
    (hidden : Bool) (index? : Option Int) : (createColumn table name type hidden index?).Lawful :=
  ⟨createColumn_sound table h ht hidden index?,
    (createColumn_faithful · table name type hidden index?),
    createColumn_regular table h type hidden index?,
    fun r db => createColumn_calm name table r db type hidden index?⟩

theorem editColumn_lawful {old : String} {name? : Option String} {type? : Option ColumnType}
    (hp : old ∉ Column.protectedNames) (hn : ∀ new ∈ name?, Name.IsNormal new)
    (ht : ∀ type ∈ type?, type.isOther = false) : (editColumn id table old name? type?).Lawful :=
  ⟨editColumn_sound id table hp hn ht, (editColumn_faithful · id table hp hn),
    editColumn_regular id table hp hn, fun r db => editColumn_calm id table old r db name? type?⟩

theorem setColumnVisibility_lawful (name : String) (hidden : Bool) :
    (setColumnVisibility table name hidden).Lawful :=
  ⟨setColumnVisibility_sound table name hidden, (setColumnVisibility_faithful · table name hidden),
    fun r => setColumnVisibility_calm name table r hidden⟩

theorem swapColumn_lawful (hp : name ∉ Column.protectedNames) (index : Int) :
    (swapColumn table name index).Lawful :=
  ⟨swapColumn_sound table hp index, (swapColumn_faithful · table name index),
    fun r => swapColumn_calm name table r index⟩

theorem moveColumn_lawful (hp : name ∉ Column.protectedNames) (index : Int) :
    (moveColumn table name index).Lawful :=
  ⟨moveColumn_sound table hp index, (moveColumn_faithful · table name index),
    fun r => moveColumn_calm name table r index⟩

theorem deleteColumn_lawful (hp : name ∉ Column.protectedNames) : (deleteColumn table name).Lawful :=
  ⟨deleteColumn_sound table hp, (deleteColumn_faithful · table name), deleteColumn_regular table hp,
    deleteColumn_calm name table⟩

theorem registerTag_lawful (name : String) {tag : String} (hn : Name.IsNormal tag)
    {description : Value} (hd : Json.IsPlain description) :
    (registerTag table name tag description).Lawful :=
  ⟨registerTag_sound table name hn hd, (registerTag_faithful · table name tag description),
    fun r => registerTag_calm name table r tag description⟩

theorem unregisterTag_lawful (name tag : String) : (unregisterTag table name tag).Lawful :=
  ⟨unregisterTag_sound table name tag, (unregisterTag_faithful · table name tag),
    fun r => unregisterTag_calm name table r tag⟩

theorem setRule_lawful (name : String) (rule : Value) : (setRule table name rule).Lawful :=
  ⟨setRule_sound table name rule, (setRule_faithful · table name rule),
    fun r => setRule_calm name table r rule⟩

end Schema

end Cabinet

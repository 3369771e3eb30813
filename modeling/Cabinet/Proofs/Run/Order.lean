import Cabinet.Proofs.Record.Writable
import Cabinet.Proofs.Run.Numbers
import Cabinet.Proofs.Schema.Making
import Cabinet.Proofs.Schema.Order

/-!
Requests that change the order of columns do so as operations on a list, and the others keep it.
-/

namespace Cabinet

open Operation Schema

variable {f : Folders} {agreed : Bool} {w w' : World} {id table name : String} {r r' : Record} {t : Table}
  {c : Column} {db : Storage.Database} {columns : List Column}

/-- The record of a database is read as one in which the columns of a table come in another order; its
next version has been stamped. -/
def World.Reordered (w : World) (f : Folders) (id : String) (r : Record) (table : String) (t : Table)
    (columns : List Column) (w' : World) : Prop :=
  ∃ r', Relisted r table t columns r' ∧
    (f.records.read id).exec w' = (.ok (replacement r r' w.time), w')

namespace Schema

/-- How a request ends that names an index: its column stands there, or nothing has changed and the
failure tells why. -/
def Places (f : Folders) (id : String) (w : World) (r : Record) (table : String) (t : Table)
    (bound index : Int) (outside : Kind) (columns : List Column) (result : Except Error Unit × World) :
    Prop :=
  Placed bound index outside (fun _ => w.Reordered f id r table t columns result.2) result.1 ∧
    ∀ e, result.1 = .error e → result.2 = w

section Results

variable {x : Except Error (Option (Record × Storage.Database))} {result : Except Error Unit × World}

theorem Yields.reordered {made : Option (Record × Storage.Database)}
    (h : Yields f id r w (.ok made) result) (hm : Relists r table t columns made) :
    result.1 = .ok () ∧ w.Reordered f id r table t columns result.2 := by
  obtain ⟨r', db, rfl, hr⟩ := hm
  cases h with
  | made stores _ => exact ⟨rfl, r', hr, stores.read⟩

theorem Yields.places {bound index : Int} {outside : Kind} (h : Yields f id r w x result)
    (hp : Placed bound index outside (Relists r table t columns) x) :
    Places f id w r table t bound index outside columns result := by
  cases hp with
  | placed behind below made =>
    obtain ⟨hok, hreordered⟩ := h.reordered made
    refine ⟨hok ▸ .placed behind below hreordered, fun e he => ?_⟩
    exact nomatch hok.symm.trans he
  | shielded lower upper kind =>
    cases h with
    | refused e => exact ⟨.shielded lower upper kind, fun _ _ => rfl⟩
  | outside range kind =>
    cases h with
    | refused e => exact ⟨.outside range kind, fun _ _ => rfl⟩

/-- What comes of a request that names an index, if anything does. -/
theorem Placed.of_eq_ok {α : Type} {bound index : Int} {outside : Kind} {done : α → Prop}
    {x : Except Error α} {a : α} (h : Placed bound index outside done x) (hx : x = .ok a) :
    (Column.protectedNames.length ≤ index ∧ index < bound) ∧ done a := by
  cases h with
  | placed behind below made => exact ⟨⟨behind, below⟩, Except.ok.inj hx ▸ made⟩
  | shielded => simp at hx
  | outside => simp at hx

end Results

/-- Of some columns those that are new in a table can be written, and so can the indices that are new
there. -/
structure CanList (t : Table) (columns : List Column) : Prop where
  listed : ∀ c ∈ columns, c ∈ t.ordered ∨ Json.isWritable (Record.columnDocument c) = true
  indices : ∀ i : Nat, i < columns.length → i < t.columns.length ∨ Json.isWritable (.int i) = true

theorem CanList.of_subset (hsub : columns ⊆ t.ordered) (hlen : columns.length ≤ t.columns.length) :
    CanList t columns :=
  ⟨fun _ hc => .inl (hsub hc), fun _ hi => .inl (Nat.lt_of_lt_of_le hi hlen)⟩

/-- A record whose columns come in another order can be written, if what is new there can be. -/
theorem Relisted.isWritable (h : Relisted r table t (Column.numbered columns) r') (hr : r.Sound)
    (hr' : r'.Sound) (ht : r.tables.get? table = some t) (hw : Json.isWritable r.toDocument = true)
    (hversion : Json.isWritable (.int (r.version + 1)) = true) (hlist : CanList t columns) (time : Int) :
    Json.isWritable (replacement r r' time).toDocument = true := by
  obtain ⟨t', rfl, -, hordered⟩ := h
  have hs := hr.tables ht
  have hs' : t'.Sound := hr'.tables (by rw [Record.put, Fields.get?_put, if_pos rfl])
  refine Record.isWritable_put hw hversion ?_ table _
  refine Record.isWritable_of_numbered hs'.toWellFormed hordered (fun c hc => ?_) fun i hi => ?_
  · rcases hlist.listed c hc with hold | hnew
    · exact Record.isWritable_column hw ht ((Table.mem_ordered_iff hs.toWellFormed).mp hold)
    · exact hnew
  · rcases hlist.indices i hi with hlt | hnew
    · exact Record.isWritable_of_lt hw ht hs.toWellFormed hlt
    · exact hnew

namespace Request

variable {q : Request}

theorem yields (hs : w.files.Sound) (hready : Ready f id r db w)
    (hwritable : ∀ r' db', q.making id r db = .ok (some (r', db')) →
      Json.isWritable (replacement r r' w.time).toDocument = true) :
    Yields f id r w (q.making id r db) ((q.run f id).exec w) := by
  rw [q.run_eq]
  exact (q.begin_begins f id).yields hs hready hwritable

section Columns

variable (hs : w.files.Sound) (hready : Ready f id r db w) {given column : String}
  (ht : r.tables.get? (Name.normalize given) = some t)
  (hversion : Json.isWritable (.int (r.version + 1)) = true)

include hs hready ht hversion

/-- A request yields columns in another order, if that is what it makes. -/
theorem yields_numbered (hmaking : ∀ made, q.making id r db = .ok made →
      Relists r (Name.normalize given) t (Column.numbered columns) made ∧ CanList t columns) :
    Yields f id r w (q.making id r db) ((q.run f id).exec w) := by
  refine q.yields hs hready fun r' db' hmade => ?_
  obtain ⟨⟨u, _, heq, hrelisted⟩, hlist⟩ := hmaking _ hmade
  obtain ⟨rfl, -⟩ := Prod.ext_iff.mp (Option.some.inj heq)
  have hsound := ((q.begin_begins f id).sound hready.stores.sound hmade).1
  exact hrelisted.isWritable hready.stores.sound hsound ht hready.stores.writable hversion hlist w.time

theorem places {bound index : Int} {outside : Kind}
    (hplaced : Placed bound index outside (Relists r (Name.normalize given) t (Column.numbered columns))
      (q.making id r db))
    (hlist : Column.protectedNames.length ≤ index → index < bound → CanList t columns) :
    Places f id w r (Name.normalize given) t bound index outside (Column.numbered columns)
      ((q.run f id).exec w) := by
  have hmaking : ∀ made, q.making id r db = .ok made →
      Relists r (Name.normalize given) t (Column.numbered columns) made ∧ CanList t columns := by
    intro made hmade
    obtain ⟨⟨hbehind, hbelow⟩, hrelists⟩ := hplaced.of_eq_ok hmade
    exact ⟨hrelists, hlist hbehind hbelow⟩
  exact (yields_numbered hs hready ht hversion hmaking).places hplaced

/-- A new column is inserted at its index, or last. -/
theorem addColumn_places (hdb : db.Regular) (hholds : db.Holds r.tables) {given' type : Value}
    {kind : ColumnType} (hname : newName "Column" given' = .ok name) (htype : newType type = .ok kind)
    (hnew : name ∉ t.columns.keys) (hclean : Storage.admitTexts [name] = .ok ())
    (hlast : Json.isWritable (.int t.columns.length) = true) (hidden : Bool) (index? : Option Int) :
    Places f id w r (Name.normalize given) t (t.columns.length + 1) (index?.getD t.columns.length)
      .validation
      (Column.numbered (t.ordered.insertIdx (index?.getD t.columns.length).toNat
        { name, type := kind, index := index?.getD t.columns.length, hidden }))
      (((addColumn given given' type hidden index?).run f id).exec w) := by
  have hsound := hready.stores.sound
  have hmaking : (addColumn given given' type hidden index?).making id r db =
      (createColumn (Name.normalize given) name kind hidden index?).made r db := by
    simp only [making, hname, htype, ok_bind]
  have hplaced := createColumn_placed hsound ht hdb hholds (newName_eq_ok hname) hclean hnew kind hidden
    index?
  rw [← hmaking] at hplaced
  generalize index?.getD (t.columns.length : Int) = index at hplaced ⊢
  refine places hs hready ht hversion hplaced fun hbehind hbelow => ?_
  -- The columns behind the new one move up, the last of them to an index that is new in the table.
  have hindices : ∀ i : Nat, i ≤ t.columns.length → Json.isWritable (.int i) = true := by
    intro i hi
    by_cases hlt : i < t.columns.length
    · exact Record.isWritable_of_lt hready.stores.writable ht (hsound.tables ht).toWellFormed hlt
    · obtain rfl : i = t.columns.length := by omega
      exact hlast
  refine ⟨fun c hc => ?_, fun i hi => .inr (hindices i ?_)⟩
  · rcases List.eq_or_mem_of_mem_insertIdx hc with rfl | hold
    · have hindex := hindices index.toNat (by omega)
      rw [Int.toNat_of_nonneg (by omega)] at hindex
      exact .inr (Record.isWritable_new name kind hindex hidden)
    · exact .inl hold
  · rw [List.length_insertIdx, Table.length_ordered, if_pos (by omega)] at hi
    exact Nat.le_of_lt_succ hi

variable (hc : t.columns.get? (Name.normalize column) = some c)
  (hp : Name.normalize column ∉ Column.protectedNames)

include hc hp

/-- A column is erased from its place and inserted at its new index, or stays where it is. -/
theorem shiftColumn_places (index : Int) : if index = c.index then
      ((shiftColumn given column index).run f id).exec w = (.ok (), w)
    else
      Places f id w r (Name.normalize given) t t.columns.length index .validation
        (Column.numbered ((t.ordered.eraseIdx c.index.toNat).insertIdx index.toNat c))
        (((shiftColumn given column index).run f id).exec w) := by
  have hsound := hready.stores.sound
  have hfree : ensureUnprotected (Name.normalize column) "moved" = .ok () :=
    if_neg (mt List.contains_iff_mem.mp hp)
  have hcolumn : t.column (Name.normalize column) (Name.normalize given) = .ok c := by
    rw [Table.column, hc]
  have hmaking : (shiftColumn given column index).making id r db =
      if c.index = index then .ok none
      else (moveColumn (Name.normalize given) (Name.normalize column) index).made r db := by
    simp only [making, hfree, ok_bind, Name.normalize_normalize, Record.table_eq_ok.mpr ht, hcolumn,
      pure_eq_ok]
  split
  · next hsame =>
    -- Nothing is made of the record, so that no version is stamped either.
    rw [if_pos hsame.symm] at hmaking
    have hyields := (shiftColumn given column index).yields hs hready (by simp [hmaking])
    rw [hmaking] at hyields
    generalize ((shiftColumn given column index).run f id).exec w = result at hyields
    cases hyields
    rfl
  · next hne =>
    have hplaced : Placed _ index _ _
        ((moveColumn (Name.normalize given) (Name.normalize column) index).made r db) :=
      moveColumn_placed hsound ht hc hp index
    rw [if_neg (Ne.symm hne)] at hmaking
    rw [← hmaking] at hplaced
    have hlt := (hsound.tables ht).range hc
    refine places hs hready ht hversion hplaced fun hbehind hbelow => .of_subset ?_ ?_
    · intro e he
      rcases List.eq_or_mem_of_mem_insertIdx he with rfl | hold
      · exact List.mem_of_getElem? ((hsound.tables ht).getElem?_index hc)
      · exact List.mem_of_mem_eraseIdx hold
    · rw [List.length_insertIdx, List.length_eraseIdx, Table.length_ordered]
      split <;> split <;> omega

/-- A column changes places with the one at an index. -/
theorem exchangeColumn_places (index : Int) :
    Places f id w r (Name.normalize given) t t.columns.length index .notFound
      (Column.numbered (t.ordered.toArray.swapIfInBounds c.index.toNat index.toNat).toList)
      (((exchangeColumn given column index).run f id).exec w) := by
  have hfree : ensureUnprotected (Name.normalize column) "moved" = .ok () :=
    if_neg (mt List.contains_iff_mem.mp hp)
  have hmaking : (exchangeColumn given column index).making id r db =
      (swapColumn (Name.normalize given) (Name.normalize column) index).made r db := by
    simp only [making, hfree, ok_bind]
  have hplaced : Placed _ index _ _
      ((swapColumn (Name.normalize given) (Name.normalize column) index).made r db) :=
    swapColumn_placed hready.stores.sound ht hc hp index
  rw [← hmaking] at hplaced
  have hperm := Table.perm_swapIfInBounds t.ordered c.index.toNat index.toNat
  refine places hs hready ht hversion hplaced fun _ _ => .of_subset hperm.subset ?_
  rw [hperm.length_eq, Table.length_ordered]

/-- A column is erased from the order. -/
theorem removeColumn_reordered (hdb : db.Regular) (hholds : db.Holds r.tables) :
    (((removeColumn given column).run f id).exec w).1 = .ok () ∧
      w.Reordered f id r (Name.normalize given) t
        (Column.numbered (t.ordered.eraseIdx c.index.toNat))
        (((removeColumn given column).run f id).exec w).2 := by
  have hfree : ensureUnprotected (Name.normalize column) "deleted" = .ok () :=
    if_neg (mt List.contains_iff_mem.mp hp)
  have hmaking : (removeColumn given column).making id r db =
      (deleteColumn (Name.normalize given) (Name.normalize column)).made r db := by
    simp only [making, hfree, ok_bind]
  obtain ⟨made, hmade, hrelists⟩ := deleteColumn_relists hready.stores.sound ht hc hp hdb hholds
  rw [← hmaking] at hmade
  have hlist : CanList t (t.ordered.eraseIdx c.index.toNat) :=
    .of_subset List.eraseIdx_subset ((List.length_eraseIdx_le _ _).trans_eq (Table.length_ordered t))
  have hyields := yields_numbered hs hready ht hversion fun made' hmade' => by
    obtain rfl := Except.ok.inj (hmade.symm.trans hmade')
    exact ⟨hrelists, hlist⟩
  rw [hmade] at hyields
  exact hyields.reordered hrelists

end Columns

/-- The table and the column that a request changes without moving any column. -/
def altered? : Request → Option (String × String)
  | changeColumn table column _ _ => some (table, column)
  | showColumn table column _ => some (table, column)
  | addTag table column _ _ => some (table, column)
  | removeTag table column _ => some (table, column)
  | changeRule table column _ => some (table, column)
  | _ => none

/-- A column that is changed without being moved stays in its place, and so do the others. -/
theorem relisted_of_altered {given column : String} (hq : q.altered? = some (given, column))
    (hr : r.Sound) (ht : r.tables.get? (Name.normalize given) = some t)
    (hc : t.columns.get? (Name.normalize column) = some c) {db' : Storage.Database}
    (hmade : q.making id r db = .ok (some (r', db'))) :
    ∃ d, d.index = c.index ∧ Relisted r (Name.normalize given) t (t.ordered.set c.index.toNat d) r' := by
  cases q with
  | changeColumn table column name? type? =>
    obtain ⟨rfl, rfl⟩ := Prod.ext_iff.mp (Option.some.inj hq)
    simp only [making, bind_eq_ok_iff, throw_eq_error, check_eq_ok_iff] at hmade
    obtain ⟨new?, hnew, kind?, -, -, ⟨⟩, hp, hmade⟩ := hmade
    obtain ⟨out, hout, rfl, -⟩ := changed_eq_ok.mp hmade
    exact editColumn_relisted hr ht hc (ensureUnprotected_eq_ok hp)
      (fun new hmem => newName_eq_ok (of_mapM_eq_ok hnew hmem).choose_spec) hout
  | showColumn table column hidden =>
    obtain ⟨rfl, rfl⟩ := Prod.ext_iff.mp (Option.some.inj hq)
    obtain ⟨⟨d, hd⟩, -⟩ := made_eq_ok.mp hmade
    exact (setColumnVisibility_revised hd).relisted hr ht hc
  | addTag table column tag description =>
    obtain ⟨rfl, rfl⟩ := Prod.ext_iff.mp (Option.some.inj hq)
    simp only [making, bind_eq_ok_iff] at hmade
    obtain ⟨tag, -, -, -, hmade⟩ := hmade
    obtain ⟨⟨d, hd⟩, -⟩ := made_eq_ok.mp hmade
    exact (registerTag_revised hd).relisted hr ht hc
  | removeTag table column tag =>
    obtain ⟨rfl, rfl⟩ := Prod.ext_iff.mp (Option.some.inj hq)
    simp only [making, bind_eq_ok_iff] at hmade
    obtain ⟨-, -, u, -, e, -, -, -, hmade⟩ := hmade
    split at hmade
    · obtain ⟨⟨d, hd⟩, -⟩ := made_eq_ok.mp hmade
      exact (unregisterTag_revised hd).relisted hr ht hc
    · simp at hmade
  | changeRule table column rule =>
    obtain ⟨rfl, rfl⟩ := Prod.ext_iff.mp (Option.some.inj hq)
    simp only [making, bind_eq_ok_iff] at hmade
    obtain ⟨-, -, hmade⟩ := hmade
    obtain ⟨⟨d, hd⟩, -⟩ := made_eq_ok.mp hmade
    exact (setRule_revised hd).relisted hr ht hc
  | _ => simp [altered?] at hq

/-- What is left by a request that changes a column without moving it. -/
theorem reordered_of_altered {given column : String} (hq : q.altered? = some (given, column))
    (hs : w.files.Sound) (hstores : f.records.Stores id r w.files)
    (ht : r.tables.get? (Name.normalize given) = some t)
    (hc : t.columns.get? (Name.normalize column) = some c) (hok : (q.run f id).exec w = (.ok (), w')) :
    w'.files = w.files ∨ ∃ d, d.index = c.index ∧
      w.Reordered f id r (Name.normalize given) t (t.ordered.set c.index.toNat d) w' := by
  rw [q.run_eq] at hok
  rcases (q.begin_begins f id).makes hs hok with ⟨hsame, -⟩ | ⟨found, r', db, db', hmakes⟩
  · exact .inl hsame
  · obtain rfl := hmakes.before.unique hstores
    obtain ⟨d, hindex, hrelisted⟩ := relisted_of_altered hq hstores.sound ht hc hmakes.made
    exact .inr ⟨d, hindex, r', hrelisted, hmakes.after.read⟩

end Request

end Schema

/-- A workspace with a table that has one column beside the protected ones. -/
def World.priced : Folders.Sample ⟨"data", "backup"⟩ fun w =>
    w.files.has (Store.place "data" "a_0") = true ∧
      (((RecordFolder.read ⟨"data", false⟩ "a_0").exec w).1.toOption.map fun r =>
        (r.version, (r.tables.get? "entries").map (·.columns.keys))) =
          some (3, some (Column.protectedNames ++ ["price"])) :=
  Request.sample _ Request.priced (by decide +kernel)

end Cabinet

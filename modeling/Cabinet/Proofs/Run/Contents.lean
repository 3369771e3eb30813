import Cabinet.Proofs.Run.Frame
import Cabinet.Proofs.Schema.Contents
import Cabinet.Proofs.Schema.Making

/-!
Requests that change tables and columns keep what is held in rows, but for the column that they concern.
-/

namespace Cabinet

open Operation Schema Storage

variable {f : Folders} {agreed : Bool} {w w' : World} {id given column : String} {db : Database}

namespace Schema

/-- A change that succeeds makes something. -/
theorem Change.made_ne_none {α : Type} (change : Change α) (r : Record) (db : Database) :
    change.made r db ≠ .ok none := by
  intro h
  obtain ⟨out, -, hsome⟩ := bind_eq_ok_iff.mp h
  cases Except.ok.inj hsome

namespace Request

variable {q : Request}

/-- Whether a request changes stored tables. -/
def isChange : Request → Bool
  | addTable _ => true
  | moveTable _ _ => true
  | removeTable _ => true
  | addColumn _ _ _ _ _ => true
  | changeColumn _ _ _ _ => true
  | removeColumn _ _ => true
  | _ => false

theorem making_ne_none (hq : q.isChange = true) (r : Record) (db : Database) :
    q.making id r db ≠ .ok none := by
  have hbind : ∀ {α : Type} {x : Except Error α} {next : α → Except Error (Option (Record × Database))},
      (∀ a, next a ≠ .ok none) → (x >>= next) ≠ .ok none := by
    intro α x next hnext hnone
    obtain ⟨a, -, ha⟩ := bind_eq_ok_iff.mp hnone
    exact hnext a ha
  cases q with
  | addTable name => exact hbind fun _ => hbind fun _ => Change.made_ne_none _ r db
  | moveTable table name => exact hbind fun _ => Change.made_ne_none _ r db
  | removeTable table => exact Change.made_ne_none _ r db
  | addColumn table name type hidden index? =>
    exact hbind fun _ => hbind fun _ => Change.made_ne_none _ r db
  | changeColumn table column name? type? =>
    refine hbind fun _ => hbind fun _ => ?_
    split
    · exact hbind fun _ => hbind fun _ => Change.made_ne_none _ r db
    · exact hbind fun _ => Change.made_ne_none _ r db
  | removeColumn table column => exact hbind fun _ => Change.made_ne_none _ r db
  | _ => simp [isChange] at hq

/-- What is left by a request that succeeds and changes stored tables. -/
theorem makes_of_isChange (hq : q.isChange = true) (hs : w.files.Sound)
    (hfile : w.files.get? (Store.place f.data id) = some (.database db))
    (hok : (q.run f id).exec w = (.ok (), w')) :
    ∃ found r db', Makes f id (q.making id) w w' found r db db' := by
  rw [q.run_eq] at hok
  rcases (q.begin_begins f id).makes hs hok with ⟨-, hany | ⟨found, -, hnone⟩⟩ | ⟨found, r, _, db', hmakes⟩
  -- Nothing is made only by requests that find nothing to do, and these are not among them.
  · exact absurd (hany ⟨.null, .null, .null, .null, .null, [], false, 0, []⟩ {}) (making_ne_none hq _ _)
  · exact absurd (hnone {}) (making_ne_none hq _ _)
  · obtain rfl := hmakes.tables hfile
    exact ⟨found, r, db', hmakes⟩

section Contents

variable (hs : w.files.Sound) (hregular : w.files.Regular)
  (hfile : w.files.get? (Store.place f.data id) = some (.database db))

include hs hregular hfile

/-- A column that is added holds nothing in any row. -/
theorem addColumn_contents {name type : Value} {hidden : Bool} {index? : Option Int}
    (hok : ((addColumn given name type hidden index?).run f id).exec w = (.ok (), w')) :
    ∃ new db', newName "Column" name = .ok new ∧
      w'.files.get? (Store.place f.data id) = some (.database db') ∧
      db.Rewrites db' (Name.normalize given) (Function.update · new (some .null)) := by
  obtain ⟨found, r, db', hmakes⟩ := makes_of_isChange rfl hs hfile hok
  have hmade := hmakes.made
  simp only [making, bind_eq_ok_iff] at hmade
  obtain ⟨new, hnew, kind, -, hmade⟩ := hmade
  obtain ⟨out, hout, -, rfl⟩ := changed_eq_ok.mp hmade
  obtain ⟨t, c, stored, -, -, -, -, -, hstored, rfl⟩ := createColumn_eq_ok hout
  exact ⟨new, stored, hnew, hmakes.stored hfile,
    (hregular.of_get? hfile).rewrites_addColumn hstored⟩

/-- A column that is dropped takes along what it held, and nothing else. -/
theorem removeColumn_contents
    (hok : ((removeColumn given column).run f id).exec w = (.ok (), w')) :
    ∃ db', w'.files.get? (Store.place f.data id) = some (.database db') ∧
      db.Rewrites db' (Name.normalize given) (Function.update · (Name.normalize column) none) := by
  obtain ⟨found, r, db', hmakes⟩ := makes_of_isChange rfl hs hfile hok
  have hmade := hmakes.made
  simp only [making, bind_eq_ok_iff] at hmade
  obtain ⟨-, -, hmade⟩ := hmade
  obtain ⟨out, hout, -, rfl⟩ := changed_eq_ok.mp hmade
  obtain ⟨t, c, stored, -, -, hstored, rfl⟩ := deleteColumn_eq_ok hout
  exact ⟨stored, hmakes.stored hfile,
    (hregular.of_get? hfile).rewrites_dropColumn (Name.normalize_normalize column) hstored⟩

/-- A table that is renamed takes its rows along. -/
theorem moveTable_contents {name : Value}
    (hok : ((moveTable given name).run f id).exec w = (.ok (), w')) :
    ∃ new s db', newName "Table" name = .ok new ∧
      w'.files.get? (Store.place f.data id) = some (.database db') ∧
      db.find? (Name.normalize given) = some s ∧ db'.find? new = some { s with name := new } ∧
      ∀ other, sameName (Name.normalize given) other = false → sameName new other = false →
        db'.find? other = db.find? other := by
  obtain ⟨found, r, db', hmakes⟩ := makes_of_isChange rfl hs hfile hok
  have hmade := hmakes.made
  simp only [making, bind_eq_ok_iff] at hmade
  obtain ⟨new, hnew, hmade⟩ := hmade
  obtain ⟨out, hout, -, rfl⟩ := changed_eq_ok.mp hmade
  obtain ⟨t, stored, -, -, hstored, rfl⟩ := renameTable_eq_ok hout
  obtain ⟨s, hs, hmoved, hothers⟩ := (hregular.of_get? hfile).find?_renameTable hstored
  exact ⟨new, s, stored, hnew, hmakes.stored hfile, hs, hmoved, hothers⟩

/-- A column that is renamed or retyped or both: with its type it keeps all that it is and holds, and with
a new type it keeps its index and whether it is hidden, and holds nothing any more. -/
theorem changeColumn_contents {name? type? : Option Value}
    (hok : ((changeColumn given column name? type?).run f id).exec w = (.ok (), w')) :
    ∃ r t c new? kind? t' db', (f.records.read id).exec w = (.ok r, w) ∧
      r.tables.get? (Name.normalize given) = some t ∧
      t.columns.get? (Name.normalize column) = some c ∧
      name?.mapM (newName "Column") = .ok new? ∧ type?.mapM newType = .ok kind? ∧
      (f.records.read id).exec w' =
        (.ok (replacement r (r.put (Name.normalize given) t') w.time), w') ∧
      t'.hidden = t.hidden ∧
      t'.columns.get? = Function.update (Function.update t.columns.get? (Name.normalize column) none)
        (new?.getD (Name.normalize column))
        (some (if kind?.getD c.type = c.type then { c with name := new?.getD (Name.normalize column) }
          else { c with
            name := new?.getD (Name.normalize column), type := kind?.getD c.type, tags := []
            rule := .text "" })) ∧
      w'.files.get? (Store.place f.data id) = some (.database db') ∧
      db.Rewrites db' (Name.normalize given) fun held =>
        Function.update (Function.update held (Name.normalize column) none)
          (new?.getD (Name.normalize column))
          (if kind?.getD c.type = c.type then held (Name.normalize column) else some .null) := by
  obtain ⟨found, r, db', hmakes⟩ := makes_of_isChange rfl hs hfile hok
  have hmade := hmakes.made
  simp only [making, bind_eq_ok_iff, throw_eq_error, check_eq_ok_iff] at hmade
  obtain ⟨new?, hnew, kind?, hkind, -, ⟨⟩, hp, hmade⟩ := hmade
  obtain ⟨out, hout, hrecord, rfl⟩ := changed_eq_ok.mp hmade
  obtain ⟨t, c, t', ht, hc, hput, hhidden, hcolumns, hrewrites⟩ :=
    editColumn_rewrites hmakes.before.sound (hregular.of_get? hfile) (ensureUnprotected_eq_ok hp)
      (fun new hmem => newName_eq_ok (of_mapM_eq_ok hnew hmem).choose_spec) hout
  have hread := hmakes.after.read
  rw [← hrecord, hput] at hread
  exact ⟨found, t, c, new?, kind?, t', out.stored, hmakes.before.read, ht, hc, hnew, hkind, hread, hhidden,
    hcolumns, hmakes.stored hfile, hrewrites⟩

end Contents

end Request

end Schema

/-- What is held in rows is kept as tables and columns change. A column that is renamed takes along what it
holds, with its type, its index, its tags and its rule; one that is retyped keeps its index and whether it
is hidden, and holds nothing any more; a new one holds nothing; and one that is dropped takes along what
it held. A table that is renamed takes its rows along. Nothing else that is held in any row changes. -/
theorem Reachable.contents_carried (h : Reachable f agreed w) (id given : String)
    (hfile : w.files.get? (Store.place f.data id) = some (.database db)) :
    (∀ column name? type? w',
      ((Schema.Request.changeColumn given column name? type?).run f id).exec w = (.ok (), w') →
      ∃ r t c new? kind? t' db', (f.records.read id).exec w = (.ok r, w) ∧
        r.tables.get? (Name.normalize given) = some t ∧
        t.columns.get? (Name.normalize column) = some c ∧
        name?.mapM (newName "Column") = .ok new? ∧ type?.mapM newType = .ok kind? ∧
        (f.records.read id).exec w' =
          (.ok (replacement r (r.put (Name.normalize given) t') w.time), w') ∧
        t'.hidden = t.hidden ∧
        t'.columns.get? = Function.update (Function.update t.columns.get? (Name.normalize column) none)
          (new?.getD (Name.normalize column))
          (some (if kind?.getD c.type = c.type then
              { c with name := new?.getD (Name.normalize column) }
            else { c with
              name := new?.getD (Name.normalize column), type := kind?.getD c.type, tags := []
              rule := .text "" })) ∧
        w'.files.get? (Store.place f.data id) = some (.database db') ∧
        db.Rewrites db' (Name.normalize given) fun held =>
          Function.update (Function.update held (Name.normalize column) none)
            (new?.getD (Name.normalize column))
            (if kind?.getD c.type = c.type then held (Name.normalize column) else some .null)) ∧
    (∀ name type hidden index? w',
      ((Schema.Request.addColumn given name type hidden index?).run f id).exec w = (.ok (), w') →
      ∃ new db', newName "Column" name = .ok new ∧
        w'.files.get? (Store.place f.data id) = some (.database db') ∧
        db.Rewrites db' (Name.normalize given) (Function.update · new (some .null))) ∧
    (∀ column w', ((Schema.Request.removeColumn given column).run f id).exec w = (.ok (), w') →
      ∃ db', w'.files.get? (Store.place f.data id) = some (.database db') ∧
        db.Rewrites db' (Name.normalize given) (Function.update · (Name.normalize column) none)) ∧
    ∀ name w', ((Schema.Request.moveTable given name).run f id).exec w = (.ok (), w') →
      ∃ new s db', newName "Table" name = .ok new ∧
        w'.files.get? (Store.place f.data id) = some (.database db') ∧
        db.find? (Name.normalize given) = some s ∧ db'.find? new = some { s with name := new } ∧
        ∀ other, sameName (Name.normalize given) other = false → sameName new other = false →
          db'.find? other = db.find? other := by
  have hs := h.good.sound
  refine ⟨fun column name? type? w' hok => ?_, fun name type hidden index? w' hok => ?_,
    fun column w' hok => ?_, fun name w' hok => ?_⟩
  · exact Schema.Request.changeColumn_contents hs h.regular hfile hok
  · exact Schema.Request.addColumn_contents hs h.regular hfile hok
  · exact Schema.Request.removeColumn_contents hs h.regular hfile hok
  · exact Schema.Request.moveTable_contents hs h.regular hfile hok

/-- A workspace with a row that has a price. -/
def World.sold : Folders.Sample ⟨"data", "backup"⟩ fun w =>
    (w.files.has (Store.place "data" "a_0") &&
      (((Schema.Request.changeColumn "entries" "price" (some (.text "Cost")) none).run
        ⟨"data", "backup"⟩ "a_0").exec w).1.isOk) = true :=
  Request.sample _ (Request.priced ++
    [.createRow "a_0" "entries" [("title", .text "one"), ("price", .int 3)]]) (by decide +kernel)

/-- The price is carried to the new name of its column. -/
theorem Reachable.price_carried : ∃ db db' w',
    World.sold.val.files.get? (Store.place "data" "a_0") = some (.database db) ∧
      ((Schema.Request.changeColumn "entries" "price" (some (.text "Cost")) none).run
        ⟨"data", "backup"⟩ "a_0").exec World.sold.val = (.ok (), w') ∧
      w'.files.get? (Store.place "data" "a_0") = some (.database db') ∧
      db.Rewrites db' "entries" fun held =>
        Function.update (Function.update held "price" none) "cost" (held "price") := by
  obtain ⟨w, hreach, hrun⟩ := World.sold
  obtain ⟨hthere, hok⟩ := Bool.and_eq_true_iff.mp hrun
  rw [Files.has_eq, Option.isSome_iff_exists] at hthere
  obtain ⟨file, hfile⟩ := hthere
  obtain ⟨db, rfl⟩ := hreach.good.sound.database hfile
  rcases hexec : ((Schema.Request.changeColumn "entries" "price" (some (.text "Cost")) none).run
    ⟨"data", "backup"⟩ "a_0").exec w with ⟨e | ⟨⟩, w'⟩
  · simp [hexec, Except.isOk, Except.toBool] at hok
  obtain ⟨hchanges, -⟩ := hreach.contents_carried "a_0" "entries" hfile
  obtain ⟨r, t, c, new?, kind?, t', db', -, -, -, hnew, hkind, -, -, -, hfile', hrewrites⟩ :=
    hchanges "price" (some (.text "Cost")) none w' hexec
  have hnames : Name.normalize "Cost" = "cost" ∧ Name.normalize "entries" = "entries" ∧
      Name.normalize "price" = "price" := by
    decide +kernel
  obtain rfl : none = kind? := Except.ok.inj hkind
  obtain rfl : some "cost" = new? := by simpa [newName, hnames.1] using hnew
  simp only [hnames, Option.getD_none, Option.getD_some, if_true] at hrewrites
  exact ⟨db, db', w', hfile, rfl, hfile', hrewrites⟩

end Cabinet

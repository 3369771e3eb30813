import Cabinet.Proofs.Run.Basic
import Cabinet.Proofs.Storage.Filled

/-!
Whatever a run does, the rows of every table hold in each column what the column may hold.
-/

namespace Cabinet

open Operation Storage

variable {f : Folders} {admitted : Faults → Prop} {agreed : Bool} {w : World}

/-- That the rows of stored tables fit their columns lasts while times are positive. -/
def Bond.filled (safe : Bool) : Bond where
  relation := Sheet.Filled
  times := (0 < ·)
  lasting := Sheet.Filled.lasting
  safe := safe

theorem Within.good_rows (h : Within f (0 < ·) admitted agreed w)
    (hsafe : agreed = true ∨ ∀ faults, admitted faults → faults.Harmless) :
    ∃ safe, World.Good (.filled safe) f true w := by
  rcases hsafe with rfl | hsafe
  · exact ⟨false, Within.good (b := .filled false) h fun hfalse => nomatch hfalse⟩
  · have hgood := Within.good (b := .filled true) h fun _ => hsafe
    rw [Bond.filled, Bool.or_true] at hgood
    exact ⟨true, hgood⟩

/-- While the clock shows positive times, and no inconsistency has been told of or none can come: in
every database and every backup, each row of each table has a title that says something, is hidden or
not, and knows when it was changed and, if at all, created; and it holds in each column of the record
what the column may hold. -/
theorem Within.stored_rows_fit (h : Within f (0 < ·) admitted agreed w)
    (hsafe : agreed = true ∨ ∀ faults, admitted faults → faults.Harmless) {g : RecordFolder}
    (hg : g = f.records ∨ g = f.backupRecords) {id : String} {file : File}
    (hfile : w.files.get? (Store.place g.folder id) = some file) :
    ∃ db r, file = .database db ∧ (g.read id).exec w = (.ok r, w) ∧
      (db.sheets.map (·.name)).Perm r.tables.keys ∧
      ∀ s ∈ db.sheets, ∃ t, r.tables.get? s.name = some t ∧ s.columnNames.Perm t.columns.keys ∧
        ∀ row ∈ s.rows,
          (∃ title, (s.fields row).get? "title" = some (.text title) ∧
            Text.isAllBlank title.toList = false) ∧
          (∃ n, (n = 0 ∨ n = 1) ∧ (s.fields row).get? "hidden" = some (.integer n)) ∧
          (∃ n, (s.fields row).get? "date_modified" = some (.integer n)) ∧
          ((s.fields row).get? "date_created" = some .null ∨
            ∃ n, 0 < n ∧ (s.fields row).get? "date_created" = some (.integer n)) ∧
          ∀ name c, t.columns.get? name = some c →
            ∃ cell, (s.fields row).get? name = some cell ∧ c.Admits cell := by
  obtain ⟨safe, hgood⟩ := h.good_rows hsafe
  obtain ⟨db, rfl⟩ := hgood.sound.database hfile
  obtain ⟨r, hstores, hholds⟩ := (hgood.at hg id rfl).record hfile
  refine ⟨db, r, rfl, hstores.read, hholds.names_perm hstores.sound.nodup, fun s hs => ?_⟩
  obtain ⟨t, ht, hst⟩ := hholds.sheets s hs
  have hwell := (hstores.sound.tables ht).toWellFormed
  have hst : s.Filled t := hst
  refine ⟨t, ht, hst.columnNames_perm hwell, fun row hrow => ?_⟩
  have hcell : ∀ {name d}, t.columns.get? name = some d →
      ∃ cell, (s.fields row).get? name = some cell ∧ cell.Fits name d.type :=
    fun hd => hst.exists_cell hwell hrow hd
  -- The protected columns are in every record, and of the types that protected columns have.
  have hthere : ∀ name ∈ Column.protectedNames, ∃ d, t.columns.get? name = some d := fun name hn =>
    Option.isSome_iff_exists.mp (Fields.get?_isSome_iff.mpr (hwell.mem_keys_of_protected hn))
  refine ⟨?title, ?hidden, ?modified, ?created, ?all⟩
  case title =>
    obtain ⟨d, hd⟩ := hthere "title" (by decide)
    obtain ⟨cell, hget, hfits⟩ := hcell hd
    obtain ⟨title, rfl, hblank⟩ := hfits.title rfl
    exact ⟨title, hget, hblank⟩
  case hidden =>
    obtain ⟨d, hd⟩ := hthere "hidden" (by decide)
    obtain ⟨cell, hget, hfits⟩ := hcell hd
    obtain ⟨n, hn, rfl⟩ := Column.flag_of_admits (hfits.admitted d rfl)
      (hwell.type_eq hd (by decide) (by decide)) (hfits.there (.inr rfl))
    exact ⟨n, hn, hget⟩
  case modified =>
    obtain ⟨d, hd⟩ := hthere "date_modified" (by decide)
    obtain ⟨cell, hget, hfits⟩ := hcell hd
    have hdate := Column.date_of_admits (hfits.admitted d rfl)
      (hwell.type_eq hd (by decide) (by decide))
    obtain ⟨n, -, rfl⟩ := hdate.resolve_left (hfits.there (.inl rfl))
    exact ⟨n, hget⟩
  case created =>
    obtain ⟨d, hd⟩ := hthere "date_created" (by decide)
    obtain ⟨cell, hget, hfits⟩ := hcell hd
    rcases Column.date_of_admits (hfits.admitted d rfl)
      (hwell.type_eq hd (by decide) (by decide)) with rfl | ⟨n, hpos, rfl⟩
    · exact .inl hget
    · exact .inr ⟨n, hpos, hget⟩
  case all =>
    intro name c hc
    obtain ⟨cell, hget, hfits⟩ := hcell hc
    exact ⟨cell, hget, hfits.admitted c rfl⟩

theorem Within.runAll {times : Int → Prop} (h : Within f times admitted agreed w)
    (qs : List Request) : Within f times admitted (Request.runAll f qs (agreed, w)).1
      (Request.runAll f qs (agreed, w)).2 := by
  induction qs generalizing agreed w with
  | nil => exact h
  | cons q rest ih => exact ih (h.request q)

/-- A row with a price, whose column then gets another name. -/
def Request.repriced : List Request :=
  [.createDatabase (.text "a") "",
    .schema "a_1" (.addColumn "entries" (.text "Price") (.text "float") false none),
    .createRow "a_1" "entries" [("title", .text "one"), ("price", .int 3)],
    .schema "a_1" (.changeColumn "entries" "price" (some (.text "Cost")) none)]

/-- Whether a file has a row with a cell under a name. -/
def File.hasCell (name : String) (cell : Cell) : File → Bool
  | .database db => db.sheets.any fun s => s.rows.any fun row => (s.fields row).get? name == some cell
  | _ => false

/-- The row has a title, and it holds its price as a number under the new name. -/
theorem Within.repriced_row_fits :
    ∃ (s : Sheet) (t : Table) (row : Row) (c : Column),
      (∃ title, (s.fields row).get? "title" = some (.text title) ∧
        Text.isAllBlank title.toList = false) ∧
      t.columns.get? "cost" = some c ∧ (s.fields row).get? "cost" = some (.real (.ofInt 3)) ∧
      c.Admits (.real (.ofInt 3)) := by
  have hstart : Within ⟨"data", "backup"⟩ (0 < ·) (· = {}) true { time := 1 } := by
    apply Within.start
    · exact Int.one_pos
    · rfl
  have hrun := hstart.runAll Request.repriced
  have hfound : ((Request.runAll ⟨"data", "backup"⟩ Request.repriced
      (true, { time := 1 })).2.files.get? (Store.place "data" "a_1")).any
        (File.hasCell "cost" (.real (.ofInt 3))) = true := by
    decide +kernel
  generalize Request.runAll _ _ _ = ended at hrun hfound
  cases hfile : ended.2.files.get? (Store.place "data" "a_1") with
  | none => simp [hfile] at hfound
  | some file =>
  rw [hfile] at hfound
  have hharmless : ∀ faults : Faults, faults = {} → faults.Harmless := by
    rintro _ rfl
    exact ⟨rfl, by simp⟩
  obtain ⟨db, r, rfl, -, -, hrows⟩ :=
    hrun.stored_rows_fit (.inr hharmless) (g := ⟨"data", false⟩) (.inl rfl) hfile
  simp only [Option.any_some, File.hasCell, List.any_eq_true, beq_iff_eq] at hfound
  obtain ⟨s, hs, row, hrow, hcost⟩ := hfound
  obtain ⟨t, -, hcolumns, hall⟩ := hrows s hs
  obtain ⟨htitle, -, -, -, hadmits⟩ := hall row hrow
  have hkey := hcolumns.mem_iff.mp (List.of_mem_zip (Fields.mem_of_get? hcost)).1
  obtain ⟨c, hc⟩ := Option.isSome_iff_exists.mp (Fields.get?_isSome_iff.mpr hkey)
  obtain ⟨cell, hcell, hc'⟩ := hadmits "cost" c hc
  obtain rfl := Option.some.inj (hcost.symm.trans hcell)
  exact ⟨s, t, row, c, htitle, hc, hcost, hc'⟩

end Cabinet

import Cabinet.Proofs.Run.Search
import Cabinet.Proofs.Search.Shown
import Cabinet.Proofs.Storage.Filled

/-!
Hidden rows: a search that does not ask for them answers the same, whatever they are.
-/

namespace Cabinet

open Operation Storage

section Marks

/-- What the library writes in a row itself: the id of the row, and whether it is hidden. -/
structure Storage.Cell.Marks (id : Int) (cell : Cell) (name : String) (_ : ColumnType) : Prop where
  id : name = "id" → cell = .integer id
  flag : name = "hidden" → cell = .integer 0 ∨ cell = .integer 1

theorem Storage.Cell.Marks.lasting (T : Int → Prop) : Cell.Lasting Cell.Marks T where
  written {d t v name position cell} id h hcell ht hd := by
    have hname : d.name = name := (ht.named hd).1
    constructor
    · rintro rfl
      cases h with
      | accepted _ free _ => exact absurd (hname ▸ by decide) free
      | time _ hn => simp [hname] at hn
      | flag _ hn => simp [hname] at hn
    · rintro rfl
      cases h with
      | accepted _ free _ => exact absurd (hname ▸ by decide) free
      | time _ hn => simp [hname] at hn
      | flag hflag _ =>
        obtain ⟨-, rfl⟩ := Column.ofValue_int hcell
        have htype : d.type = .boolean := ht.type_eq hd (by decide) (by decide)
        rw [htype]
        rcases hflag with rfl | rfl
        · exact .inl rfl
        · exact .inr rfl
  key _ := ⟨fun _ => rfl, fun hname => absurd hname (by decide)⟩
  shown _ := ⟨fun hname => absurd hname (by decide), fun _ => .inl rfl⟩
  empty _ _ hid _ _ hhidden := ⟨fun hname => absurd hname hid, fun hname => absurd hname hhidden⟩
  renamed _ hnew :=
    ⟨fun hname => absurd (hname ▸ by decide) hnew, fun hname => absurd (hname ▸ by decide) hnew⟩

theorem Storage.Sheet.Meets.marked {s : Sheet} {t : Table} (h : s.Meets Cell.Marks t)
    (ht : t.WellFormed) : s.Marked t := by
  have hcell : ∀ row ∈ s.rows, ∀ name ∈ Column.protectedNames,
      ∃ cell type, (s.fields row).get? name = some cell ∧ cell.Marks row.id name type := by
    intro row hrow name hname
    obtain ⟨d, hd⟩ := Option.isSome_iff_exists.mp
      (Fields.get?_isSome_iff.mpr (ht.mem_keys_of_protected hname))
    obtain ⟨cell, hcell, hmarks⟩ := h.exists_cell ht hrow hd
    exact ⟨cell, d.type, hcell, hmarks⟩
  refine ⟨h.toHolds, h.ascending, fun row hrow => ?_, fun row hrow => ?_⟩
  · obtain ⟨cell, type, hget, hmarks⟩ := hcell row hrow "id" (by decide)
    rw [hget, hmarks.id rfl]
  · obtain ⟨cell, type, hget, hmarks⟩ := hcell row hrow "hidden" (by decide)
    rw [hget]
    exact (hmarks.flag rfl).imp (congrArg some) (congrArg some)

/-- That each row holds its id, and that it is hidden or is not, lasts at all times. -/
def Bond.marks : Bond where
  relation := Sheet.Meets Cell.Marks
  times _ := True
  lasting := Sheet.Meets.lasting (Cell.Marks.lasting _)
  safe := false

end Marks

variable {f f' : Folders} {agreed agreed' : Bool} {w w' : World} {id id' given : String}
  {options : Rows.SearchOptions} {result result' : Rows.SearchResult} {t : Table} {s s' : Sheet}

/-- The table that a search is about, as the record tells of it and as it is stored. -/
structure Rows.Asked (f : Folders) (id given : String) (t : Table) (s : Sheet) (w : World) : Prop where
  told : ∃ r, (f.records.read id).exec w = (.ok r, w) ∧
    r.tables.get? (Name.normalize given) = some t
  stored : ∃ db, w.files.get? (Store.place f.data id) = some (.database db) ∧
    db.find? (Name.normalize given) = some s

/-- As long as no inconsistency has been told of, the rows of a stored table come in the order of their
ids, and each is hidden or is not. -/
theorem Reachable.marked (h : Reachable f true w) (hasked : Rows.Asked f id given t s w) :
    s.Marked t := by
  have hgood := Within.good (b := .marks) h.within (by simp [Bond.marks])
  obtain ⟨⟨r, hread, ht⟩, db, hdb, hfind⟩ := hasked
  obtain ⟨found, hstores, hholds⟩ := (hgood.at (.inl rfl) id rfl).record hdb
  obtain rfl : found = r := by simpa [hread] using hstores.read.symm
  obtain ⟨stored, hstored, -, hmeets⟩ := hholds.find?_eq_some hstores.sound.areNamed ht
  obtain rfl : s = stored := by simpa [hfind] using hstored
  exact Sheet.Meets.marked hmeets (hstores.sound.tables ht).toWellFormed

theorem Search.compileOrder_eq_ok {columns : List Column} {sort : Value} {descending : Bool}
    {order : RowOrder} (h : compileOrder columns sort descending false = .ok order) :
    ∃ column, order = .byColumn column descending := by
  unfold compileOrder at h
  split at h
  · next hrandom => simp at hrandom
  split at h
  · exact ⟨"id", (Except.ok.inj h).symm⟩
  split at h
  · obtain ⟨found?, -, h⟩ := bind_eq_ok_iff.mp h
    split at h
    · next c => exact ⟨c.name, (Except.ok.inj h).symm⟩
    · simp at h
  · simp at h

namespace Rows

theorem Asked.stores (h : Asked f id given t s w) (hs : w.files.Sound) :
    ∃ r, f.records.Stores id r w.files ∧ r.tables.get? (Name.normalize given) = some t := by
  obtain ⟨r, hread, ht⟩ := h.told
  rcases f.records.read_cases hs id with ⟨found, hstores, hfound⟩ | ⟨-, hmissing⟩
  · obtain rfl : r = found := by simpa [hread] using hfound
    exact ⟨r, hstores, ht⟩
  · simp [hread] at hmissing

theorem Asked.wellFormed (h : Asked f id given t s w) (hs : w.files.Sound) : t.WellFormed := by
  obtain ⟨r, hstores, ht⟩ := h.stores hs
  exact (hstores.sound.tables ht).toWellFormed

/-- A search that answers is about a table. -/
theorem exists_asked (hs : w.files.Sound) (h : ((search f id given options).exec w).1 = .ok result) :
    ∃ t s, Asked f id given t s w := by
  obtain ⟨t, db, c, -, -, -, htable, hdb, -, -, -, -, hcount, -⟩ := search_answers hs h
  obtain ⟨r, hread, ht⟩ := Schema.table_eq_ok hs (congrArg Prod.fst htable)
  rw [Name.normalize_normalize] at ht
  obtain ⟨s, hfind, -⟩ := Database.count_eq_ok hcount
  exact ⟨t, s, ⟨r, hread, ht⟩, db, hdb, hfind⟩

/-- What a search answers that does not ask for hidden rows is told from the record, from what is
asked for, and from the rows that are not hidden. -/
theorem search_of_shown (hs : w.files.Sound) (hasked : Asked f id given t s w) (hmarked : s.Marked t)
    (hhidden : options.includeHidden = false) (hrandom : options.random = false)
    (h : ((search f id given options).exec w).1 = .ok result) :
    ∃ c column limit? offset?,
      Search.compile t.ordered options.query = .ok c ∧
      Search.compileOrder t.ordered options.sort options.descending options.random =
        .ok (.byColumn column options.descending) ∧
      count? "limit" options.limit = .ok limit? ∧ count? "offset" options.offset = .ok offset? ∧
      result.total = s.shown.length ∧
      result.filtered = (t.found c (s.shown.map Fields.get?)).length ∧
      result.rows.map Fields.get? = Database.window limit? (offset?.getD 0)
        (t.sorted column options.descending (t.found c (s.shown.map Fields.get?))) := by
  have ht := hasked.wellFormed hs
  obtain ⟨t', db, c, order, limit?, offset?, htable, hdb, hc, horder, hlimit, hoffset, htotal,
    hfiltered, hrows⟩ := search_answers hs h
  obtain ⟨⟨r, hread, hr⟩, db', hdb', hfind⟩ := hasked
  obtain ⟨r', hread', hr'⟩ := Schema.table_eq_ok hs (congrArg Prod.fst htable)
  rw [Name.normalize_normalize] at hr'
  obtain rfl : r = r' := by simpa [hread] using hread'
  obtain rfl : t = t' := by simpa [hr] using hr'
  obtain rfl : db' = db := by simpa [hdb'] using hdb
  have hseen : options.seen = visible := by simp [SearchOptions.seen, hhidden]
  rw [hseen] at htotal hfiltered hrows
  obtain ⟨column, rfl⟩ := Search.compileOrder_eq_ok (hrandom ▸ horder)
  -- Storage answers from its rows, and each answer is told again from what they hold by name.
  refine ⟨c, column, limit?, offset?, hc, horder, hlimit, hoffset, ?_, ?_, ?_⟩
  · obtain ⟨stored, hstored, hcount⟩ := Database.count_eq_ok htotal
    obtain rfl : s = stored := by simpa [hfind] using hstored
    rw [hcount, Sheet.shown, List.filter_map, List.length_map, ← List.countP_eq_length_filter]
    refine List.countP_congr fun row hrow => ?_
    simp only [decide_eq_true_eq, hmarked.visible_iff ht hrow, Function.comp_apply]
  · obtain ⟨stored, hstored, hcount⟩ := Database.count_eq_ok hfiltered
    obtain rfl : s = stored := by simpa [hfind] using hstored
    rw [hcount, ← hmarked.map_found ht, List.length_map, List.countP_eq_length_filter]
  · obtain ⟨stored, hstored, hquery⟩ := Database.query_eq_ok hrows
    obtain rfl : s = stored := by simpa [hfind] using hstored
    have hstays : ∀ row ∈ s.rows.filter fun row => (visible.and c).truth (s.lookup row) = some true,
        row ∈ s.rows := fun row hrow => (List.mem_filter.mp hrow).1
    have hsorted := hmarked.map_sorted ht column options.descending hstays
    rw [hmarked.map_found ht] at hsorted
    rw [hquery, List.map_map, ← hsorted]
    exact Database.map_window _ _ _ _

end Rows

/-- Of a table whose rows are hidden or are not, and which hold their ids, as they do as long as no
inconsistency has been told of, a search that does not ask for hidden rows answers with none of them.
Its statement requires, whatever the search text is, that a row is not hidden, and besides what is
searched for. Any other table with the same record and the same rows that are not hidden gives the same
answer: the rows with the same cells by name in the same order, and both numbers. -/
theorem Reachable.hidden_rows_unseen (h : Reachable f agreed w) (hasked : Rows.Asked f id given t s w)
    (hmarked : agreed = true ∨ s.Marked t) (hhidden : options.includeHidden = false)
    (hrandom : options.random = false)
    (hsearch : ((Rows.search f id given options).exec w).1 = .ok result) :
    (∀ row ∈ result.rows, row.get? "hidden" = some (.integer 0)) ∧
    (∃ c d, Search.compile t.ordered options.query = .ok c ∧
      (Rows.visible.and c).filter = Rows.visible.filter.and c.filter ∧
      Sql.read (Rows.visible.and c).filter = some d ∧
      ∀ row, d.truth row = (Rows.visible.truth row).and (c.truth row)) ∧
    ∀ {f' agreed' w' id' s' result'}, Reachable f' agreed' w' → Rows.Asked f' id' given t s' w' →
      (agreed' = true ∨ s'.Marked t) →
      (∀ held, held ∈ s.shown.map Fields.get? ↔ held ∈ s'.shown.map Fields.get?) →
      ((Rows.search f' id' given options).exec w').1 = .ok result' →
      result.rows.map Fields.get? = result'.rows.map Fields.get? ∧ result.total = result'.total ∧
        result.filtered = result'.filtered := by
  have hmarks : ∀ {f agreed w id s}, Reachable f agreed w → Rows.Asked f id given t s w →
      (agreed = true ∨ s.Marked t) → s.Marked t := by
    intro f agreed w id s h hasked hor
    rcases hor with rfl | hmarked
    · exact h.marked hasked
    · exact hmarked
  obtain ⟨c, column, limit?, offset?, hc, horder, hlimit, hoffset, htotal, hfiltered, hrows⟩ :=
    Rows.search_of_shown h.good.sound hasked (hmarks h hasked hmarked) hhidden hrandom hsearch
  refine ⟨fun row hrow => ?_, ?_,
    fun {f' agreed' w' id' s' result'} h' hasked' hmarked' hsame hsearch' => ?_⟩
  · -- A window of sorted rows that are found is still among the rows that can be seen.
    have hmem : row.get? ∈ result.rows.map Fields.get? := List.mem_map_of_mem hrow
    rw [hrows] at hmem
    have hfound := List.mem_mergeSort.mp ((Database.window_sublist _ _ _).mem hmem)
    obtain ⟨seen, hseen, heq⟩ := List.mem_map.mp (List.mem_filter.mp hfound).1
    rw [← heq]
    simpa using (List.mem_filter.mp hseen).2
  · have hvisible : Rows.visible.Enclosed := .clause _
    obtain ⟨d, hd, htruth⟩ := Sql.read_seen hvisible hc
    exact ⟨c, d, hc, Condition.filter_seen hvisible hc, hd, htruth⟩
  · obtain ⟨c', column', limit?', offset?', hc', horder', hlimit', hoffset', htotal', hfiltered',
      hrows'⟩ := Rows.search_of_shown h'.good.sound hasked' (hmarks h' hasked' hmarked') hhidden
        hrandom hsearch'
    -- What is asked for is the same, and so is all that it is compiled to.
    obtain rfl := Except.ok.inj (hc.symm.trans hc')
    obtain ⟨⟩ := horder.symm.trans horder'
    obtain rfl := Except.ok.inj (hlimit.symm.trans hlimit')
    obtain rfl := Except.ok.inj (hoffset.symm.trans hoffset')
    have hshown := (hmarks h hasked hmarked).shown_eq (hmarks h' hasked' hmarked') hsame
    have hlength : s.shown.length = s'.shown.length := by
      simpa only [List.length_map] using congrArg List.length hshown
    exact ⟨by rw [hrows, hrows', hshown], by rw [htotal, htotal', hlength],
      by rw [hfiltered, hfiltered', hshown]⟩

/-- The text of a record, and the rows of a table that are not hidden. -/
def Rows.outline (f : Folders) (id given : String) (w : World) :
    Option (List Char × List (Fields Cell)) :=
  match w.files.get? (f.records.place id), w.files.get? (Store.place f.data id) with
  | some (.text text), some (.database db) =>
    (db.find? (Name.normalize given)).map fun s => (text, s.shown)
  | _, _ => none

theorem Rows.Asked.outline (h : Rows.Asked f id given t s w) (hs : w.files.Sound) :
    ∃ r, r.tables.get? (Name.normalize given) = some t ∧ Record.read r.write = .ok r ∧
      Rows.outline f id given w = some (r.write, s.shown) := by
  obtain ⟨r, hstores, ht⟩ := h.stores hs
  obtain ⟨db, hdb, hfind⟩ := h.stored
  refine ⟨r, ht, Record.read_write hstores.sound hstores.writable, ?_⟩
  simp only [Rows.outline, hstores.file, hdb, hfind, Option.map_some]

/-- The outline of a table tells what is known of it and which of its rows can be seen. -/
theorem Rows.Asked.of_outline (h : Rows.Asked f id given t s w) (hs : w.files.Sound) {t' : Table}
    (h' : Rows.Asked f' id' given t' s' w') (hs' : w'.files.Sound)
    (houtline : Rows.outline f id given w = Rows.outline f' id' given w') :
    t = t' ∧ s.shown = s'.shown := by
  obtain ⟨r, ht, hread, hr⟩ := h.outline hs
  obtain ⟨r', ht', hread', hr'⟩ := h'.outline hs'
  rw [hr, hr'] at houtline
  obtain ⟨htext, hshown⟩ := Prod.ext_iff.mp (Option.some.inj houtline)
  dsimp only at htext hshown
  rw [htext] at hread
  obtain rfl := Except.ok.inj (hread.symm.trans hread')
  exact ⟨Option.some.inj (ht.symm.trans ht'), hshown⟩

/-- A database with two rows, to which a third has been added and hidden. -/
def Request.titledAndHidden : List Request :=
  Request.titled ++ [.createRow "a_0" "entries" [("title", .text "one more")],
    .setRowVisibility "a_0" "entries" 3 (.int 1)]

/-- A workspace with two rows, of which a search finds one. -/
def World.titled : Folders.Sample ⟨"data", "backup"⟩ fun w =>
    ((Rows.search ⟨"data", "backup"⟩ "a_0" "entries" { query := .text "one OR NOT two" }).exec
      w).1.isOk = true :=
  Request.sample _ Request.titled (by decide +kernel)

/-- A workspace with the same rows and one that is hidden, though the search would find it. -/
def World.titledAndHidden : Folders.Sample ⟨"data", "backup"⟩ fun w =>
    Rows.outline ⟨"data", "backup"⟩ "a_0" "entries" World.titled.val =
        Rows.outline ⟨"data", "backup"⟩ "a_0" "entries" w ∧
      ((Rows.search ⟨"data", "backup"⟩ "a_0" "entries" { query := .text "one OR NOT two" }).exec
        w).1.toOption.map (·.filtered) = some 1 :=
  Request.sample _ Request.titledAndHidden (by decide +kernel)

/-- The row that is hidden makes no difference. -/
theorem Reachable.hidden_row_unseen :
    let search := Rows.search ⟨"data", "backup"⟩ "a_0" "entries" { query := .text "one OR NOT two" }
    ∃ result result', (search.exec World.titled.val).1 = .ok result ∧
      (search.exec World.titledAndHidden.val).1 = .ok result' ∧
      result.rows.map Fields.get? = result'.rows.map Fields.get? ∧ result'.filtered = 1 := by
  intro search
  obtain ⟨hreach, hok⟩ := World.titled.property
  obtain ⟨hreach', houtline, hcount⟩ := World.titledAndHidden.property
  obtain ⟨result', hfound, hone⟩ := Option.map_eq_some_iff.mp hcount
  have hsearch' := eq_ok_of_toOption hfound
  rcases hsearch : (search.exec World.titled.val).1 with e | result
  · simp [search, hsearch, Except.isOk, Except.toBool] at hok
  obtain ⟨t, s, hasked⟩ := Rows.exists_asked hreach.good.sound hsearch
  obtain ⟨t', s', hasked'⟩ := Rows.exists_asked hreach'.good.sound hsearch'
  obtain ⟨rfl, hshown⟩ := hasked.of_outline hreach.good.sound hasked' hreach'.good.sound houtline
  obtain ⟨-, -, hsame⟩ := hreach.hidden_rows_unseen hasked (.inl rfl) rfl rfl hsearch
  obtain ⟨hrows, -⟩ := hsame hreach' hasked' (.inl rfl) (by simp [hshown]) hsearch'
  exact ⟨result, result', rfl, hsearch', hrows, hone⟩

end Cabinet

import Cabinet.Proofs.Record.Order
import Cabinet.Proofs.Run.Basic
import Cabinet.Proofs.Search.Tree
import Cabinet.Proofs.Search.Truth

/-!
Searches count the rows that can be seen and of which the tree of the search text is true.
-/

namespace Cabinet

open Operation Storage

namespace Storage

variable {db : Database} {table : String} {c : Condition}

theorem Database.prepare_eq_ok {values : List Value} {s : Sheet}
    (h : db.prepare table c values = .ok s) : db.find? table = some s := by
  simp only [Database.prepare, bind_eq_ok_iff] at h
  obtain ⟨-, -, -, -, found, hs, -, -, h⟩ := h
  obtain rfl := Except.ok.inj h
  unfold Database.find at hs
  split at hs
  · next hfind =>
    obtain rfl := Except.ok.inj hs
    exact hfind
  · simp at hs

theorem Database.count_eq_ok {n : Nat} (h : db.count table c = .ok n) :
    ∃ s, db.find? table = some s ∧
      n = s.rows.countP fun row => c.truth (s.lookup row) = some true := by
  simp only [Database.count, bind_eq_ok_iff] at h
  obtain ⟨s, hs, rows, hrows, h⟩ := h
  obtain rfl := Except.ok.inj h
  refine ⟨s, Database.prepare_eq_ok hs, ?_⟩
  rw [Sheet.select_eq_ok hrows, List.countP_eq_length_filter]

/-- The rows of which a condition holds are put in order before a part of them is taken. -/
theorem Database.query_eq_ok {column : String} {descending : Bool} {limit? : Option Int} {offset : Int}
    {rows : List (Fields Cell)}
    (h : db.query table c (.byColumn column descending) limit? offset = .ok rows) :
    ∃ s, db.find? table = some s ∧ rows = (window limit? offset (s.sorted column descending
      (s.rows.filter fun row => c.truth (s.lookup row) = some true))).map s.fields := by
  simp only [Database.query, bind_eq_ok_iff] at h
  obtain ⟨-, -, s, hs, found, hfound, h⟩ := h
  obtain rfl := Except.ok.inj h
  exact ⟨s, Database.prepare_eq_ok hs, by rw [Sheet.select_eq_ok hfound]⟩

end Storage

/-- A table that is read is one of the record. -/
theorem Schema.table_eq_ok {f : Folders} {id name : String} {t : Table} {w : World}
    (hs : w.files.Sound) (h : ((table f id name).exec w).1 = .ok t) :
    ∃ r, (f.records.read id).exec w = (.ok r, w) ∧ r.tables.get? (Name.normalize name) = some t := by
  obtain ⟨r, hread, h⟩ := (f.records.reads_read id).bind_eq_ok hs h
  rw [exec_of, Record.table] at h
  split at h
  · next t' ht =>
    obtain rfl := Except.ok.inj h
    exact ⟨r, hread, ht⟩
  · simp at h

namespace Rows

variable {f : Folders} {id given : String} {options : SearchOptions} {result : SearchResult} {w : World}

/-- The condition on the rows that a search can see. -/
def SearchOptions.seen (options : SearchOptions) : Condition :=
  if options.includeHidden then .always else visible

/-- What a search has read when it answers, and the statements that it has run. -/
theorem search_answers (hs : w.files.Sound)
    (h : ((search f id given options).exec w).1 = .ok result) :
    ∃ t db c order limit? offset?,
      (Schema.table f id (Name.normalize given)).exec w = (.ok t, w) ∧
      w.files.get? (Store.place f.data id) = some (.database db) ∧
      Search.compile t.ordered options.query = .ok c ∧
      Search.compileOrder t.ordered options.sort options.descending options.random = .ok order ∧
      count? "limit" options.limit = .ok limit? ∧ count? "offset" options.offset = .ok offset? ∧
      db.count (Name.normalize given) options.seen = .ok result.total ∧
      db.count (Name.normalize given) (options.seen.and c) = .ok result.filtered ∧
      db.query (Name.normalize given) (options.seen.and c) order limit? (offset?.getD 0) =
        .ok result.rows := by
  obtain ⟨limit?, hlimit, h⟩ := of_bind_eq_ok h
  obtain ⟨offset?, hoffset, h⟩ := of_bind_eq_ok h
  obtain ⟨t, htable, h⟩ := (Schema.reads_table f id _).bind_eq_ok hs h
  obtain ⟨order, horder, h⟩ := of_bind_eq_ok h
  obtain ⟨-, log, h⟩ := (noteFallback_quiet _).bind_eq_ok h
  obtain ⟨c, hc, h⟩ := of_bind_eq_ok h
  obtain ⟨p, hp, h⟩ := (Store.reads_existing f id).bind_eq_ok (w := { w with log }) hs h
  rw [Store.exec_existing, Files.has_eq] at hp
  cases hfile : w.files.get? (Store.place f.data id) with
  | none => simp [hfile] at hp
  | some file =>
    obtain ⟨db, rfl⟩ := hs.database hfile
    obtain rfl : Store.place f.data id = p := by simpa [hfile] using hp
    rw [exec_bind, Store.exec_connect (w := { w with log }) hfile] at h
    obtain ⟨total, htotal, h⟩ := of_bind_eq_ok h
    obtain ⟨filtered, hfiltered, h⟩ := of_bind_eq_ok h
    obtain ⟨rows, hrows, h⟩ := of_bind_eq_ok h
    obtain rfl := Except.ok.inj h
    refine ⟨t, db, c, order, limit?, offset?, htable, rfl, hc, horder, hlimit, hoffset, ?_, ?_, ?_⟩
    · exact (Statement.on_eq_ok (s := Statement.count _ _)).mp htotal
    · exact (Statement.on_eq_ok (s := Statement.count _ _)).mp hfiltered
    · exact (Statement.on_eq_ok (s := Statement.query _ _ _ _ _)).mp hrows

/-- What a search counts when it answers. -/
theorem search_eq_ok (hs : w.files.Sound) (h : ((search f id given options).exec w).1 = .ok result) :
    ∃ t db c, (Schema.table f id (Name.normalize given)).exec w = (.ok t, w) ∧
      w.files.get? (Store.place f.data id) = some (.database db) ∧
      Search.compile t.ordered options.query = .ok c ∧
      db.count (Name.normalize given) (options.seen.and c) = .ok result.filtered := by
  obtain ⟨t, db, c, -, -, -, htable, hdb, hc, -, -, -, -, hcount, -⟩ := search_answers hs h
  exact ⟨t, db, c, htable, hdb, hc, hcount⟩

theorem SearchOptions.seen_enclosed (options : SearchOptions) :
    options.seen = .always ∨ options.seen.Enclosed := by
  unfold seen
  split
  · exact .inl rfl
  · exact .inr (.clause _)

theorem SearchOptions.seen_eq_true_iff (options : SearchOptions) (row : Lookup) :
    options.seen.truth row = some true ↔
      options.includeHidden = true ∨ visible.truth row = some true := by
  unfold seen
  split
  · next hall => simp [Condition.truth, hall]
  · next hall => simp [hall]

end Rows

namespace Search

variable {t : Table}

theorem title_column (ht : t.WellFormed) :
    ∃ c, t.columns.get? titleColumn = some c ∧ c.type = .string := by
  have htitle : ∀ d ∈ Column.protectedDefinitions, d.name = titleColumn → d.type = .string := by
    decide
  obtain ⟨d, hd, hdn, c, hc, htype, -⟩ := ht.exists_definition (by decide : titleColumn ∈ _)
  exact ⟨c, hc, htype.trans (htitle d hd hdn)⟩

/-- Each term of a tree is looked for in a column of the table. -/
theorem exists_column (ht : t.WellFormed) {q : Query} {term : Term} (h : term ∈ q.terms t.ordered) :
    ∃ c, t.columns.get? term.column = some c ∧ c.type = term.type := by
  induction q with
  | term text regex =>
    obtain rfl := List.mem_singleton.mp h
    exact title_column ht
  | field name text regex =>
    obtain rfl := List.mem_singleton.mp h
    unfold Term.ofField
    split
    · next c hresolve => exact ⟨c, (Table.mem_ordered_iff ht).mp (mem_of_resolve hresolve), rfl⟩
    · exact title_column ht
  | negation operand ih => exact ih h
  | group body ih => exact ih h
  | joined connective left right ihl ihr => exact (List.mem_append.mp h).elim ihl ihr
  | unknown text => simp [Query.terms] at h

end Search

/-- What is required together is read from text and values as it was meant. -/
theorem Sql.read_and {seen c : Condition} (hs : seen = .always ∨ seen.Enclosed) (hc : c.Enclosed) :
    ∃ d, Sql.read (seen.and c).filter = some d ∧
      ∀ row, d.truth row = (seen.truth row).and (c.truth row) := by
  rcases hs with rfl | hs
  · exact ⟨c, Sql.read_filter hc, fun row => (Truth.true_and _).symm⟩
  · have hboth : seen.and c = .both seen c := by
      cases hs <;> cases hc <;> rfl
    exact ⟨_, hboth ▸ Sql.read_both (.of_enclosed hs) (.of_enclosed hc), fun row => rfl⟩

/-- A new database with two rows. -/
def Request.titled : List Request :=
  [.createDatabase (.text "a") "", .createRow "a_0" "entries" [("title", .text "one")],
    .createRow "a_0" "entries" [("title", .text "two")]]

end Cabinet

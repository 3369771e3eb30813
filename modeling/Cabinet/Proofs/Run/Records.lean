import Cabinet.Proofs.Run.Basic

/-!
Whatever a run does, the columns of every table in every record are numbered without gaps, the
protected ones first.
-/

namespace Cabinet

variable {f : Folders} {agreed : Bool} {w : World}

/-- Every record that a run leaves behind can be read. Its columns are under their names, which are
normal; their indices are those below their number, each once; and the protected columns have the
first six. -/
theorem Reachable.stored_tables_numbered (h : Reachable f agreed w) {p : Place} {s : List Char}
    (hs : w.files.get? p = some (.text s)) :
    ∃ r, Record.read s = .ok r ∧ r.tables.keys.Nodup ∧ ∀ table ∈ r.tables,
      (table.2.columns.map (·.2.index)).Perm ((List.range table.2.columns.length).map Int.ofNat) ∧
      table.2.columns.keys.Nodup ∧
      (∀ e ∈ table.2.columns, e.2.name = e.1 ∧ e.1 ≠ "" ∧ Name.normalize e.1 = e.1) ∧
      (∀ d ∈ Column.protectedDefinitions, ∃ c,
        table.2.columns.get? d.name = some c ∧ c.type = d.type ∧ c.index = d.index) ∧
      ∀ i : Int, (∃ e ∈ table.2.columns, e.1 ∉ Column.protectedNames ∧ e.2.index = i) ↔
        6 ≤ i ∧ i < table.2.columns.length := by
  have hread : ∃ r, r.Sound ∧ Record.read s = .ok r := by
    cases h.good.sound hs with
    | record g id sound writable own => exact ⟨_, sound, Record.read_write sound writable⟩
  obtain ⟨r, hr, hread⟩ := hread
  refine ⟨r, hread, hr.nodup, fun table htable => ?_⟩
  have ht : table.2.WellFormed :=
    (hr.tables ((Fields.get?_eq_some_iff hr.nodup).mpr htable)).toWellFormed
  refine ⟨ht.indices_perm, ht.nodup, fun e he => ?_, ht.anchored, ht.index_iff⟩
  obtain ⟨hname, hnormal⟩ := ht.named (ht.get?_of_mem he)
  exact ⟨hname, hnormal.ne_empty, hnormal.normalize_eq⟩

/-- A column that is added to the first table of a new database. -/
theorem Reachable.added_column_numbered :
    ∃ s r, (Request.runAll ⟨"data", "backup"⟩ Request.priced (true, {})).2.files.get?
        (RecordFolder.place ⟨"data", false⟩ "a_0") = some (.text s) ∧
      Record.read s = .ok r ∧ ∀ table ∈ r.tables, ∀ i : Int,
        (∃ e ∈ table.2.columns, e.1 ∉ Column.protectedNames ∧ e.2.index = i) ↔
          6 ≤ i ∧ i < table.2.columns.length := by
  have hreach := (Reachable.start (f := ⟨"data", "backup"⟩) 0 {} []).runAll Request.priced
  obtain ⟨file, hfile⟩ := Option.isSome_iff_exists.mp (by decide +kernel :
    ((Request.runAll ⟨"data", "backup"⟩ Request.priced (true, {})).2.files.get?
      (RecordFolder.place ⟨"data", false⟩ "a_0")).isSome = true)
  obtain ⟨found, rfl, -⟩ := hreach.good.sound.stores hfile
  obtain ⟨r, hread, -, htables⟩ := hreach.stored_tables_numbered hfile
  exact ⟨found.write, r, hfile, hread, fun table ht => (htables table ht).2.2.2.2⟩

end Cabinet

import Cabinet.Proofs.Column.Takes
import Cabinet.Proofs.Run.Numbers
import Cabinet.Proofs.Run.Pages

/-!
Requests for a row that is not there, and for a part of what is found: they are answered as long as
storage can hold the numbers that they ask for.
-/

namespace Cabinet

open Operation Storage

variable {f : Folders} {agreed : Bool} {id given : String} {w : World} {t : Table} {s : Sheet}
  {n : Int} {data : List (String × Value)} {values accepted : Fields Value}

/-- What is stored can be given to a statement. -/
theorem Storage.Cell.exists_ofValues {vs : List Value} (h : ∀ v ∈ vs, v = .null ∨ v.IsStored)
    (position : Nat) : ∃ cells, Cell.ofValuesFrom position vs = .ok cells := by
  induction vs generalizing position with
  | nil => exact ⟨[], rfl⟩
  | cons v vs ih =>
    obtain ⟨cells, hcells⟩ := ih (fun v hv => h v (List.mem_cons_of_mem _ hv)) (position + 1)
    obtain ⟨cell, hcell⟩ : ∃ cell, Cell.ofValue position v = .ok cell := by
      rcases h v List.mem_cons_self with rfl | hstored
      · exact ⟨.null, rfl⟩
      · cases hstored with
        | text s => exact ⟨.text s, rfl⟩
        | @float x hx =>
          cases x with
          | nan => exact ⟨.null, rfl⟩
          | infinite | finite => exact ⟨_, rfl⟩
        | int hn => exact ⟨_, if_pos hn⟩
    exact ⟨cell :: cells, by rw [Cell.ofValuesFrom, hcell, ok_bind, hcells, ok_bind, pure_eq_ok]⟩

/-- What is written is stored, while times can be. -/
theorem Column.Written.isStored {c : Column} {v : Value} (h : c.Written (isStorable · = true) v) :
    v = .null ∨ v.IsStored := by
  cases h with
  | @accepted offered _ haccepted =>
    by_cases hnull : offered = .null
    · subst hnull
      exact .inl (Except.ok.inj haccepted).symm
    · have haccept : c.accept offered = .ok v := by
        cases offered <;> first | exact haccepted | exact absurd rfl hnull
      exact .inr (Column.isStored_of_accept haccept)
  | time hn => exact .inr (.int hn)
  | flag hn => exact .inr (.int (isStorable_iff.mpr (by omega)))

theorem Table.Writes.exists_ofValues (h : t.Writes (isStorable · = true) values) :
    ∃ cells, Cell.ofValues (values.map (·.2)) = .ok cells := by
  refine Cell.exists_ofValues (fun v hv => ?_) 1
  obtain ⟨e, he, rfl⟩ := List.mem_map.mp hv
  obtain ⟨c, -, hc⟩ := h e he
  exact hc.isStored

/-- The columns that the library writes in by itself are there. -/
theorem Storage.Sheet.Regular.hasColumn_own (h : s.Regular) {name : String}
    (hname : name ∈ ["date_created", "date_modified", "hidden"]) : s.hasColumn name = true := by
  obtain ⟨c, hc, rfl, -⟩ := h.affinity_own name hname
  exact List.any_eq_true.mpr ⟨c, hc, sameName_refl c.name⟩

namespace Rows

/-- How a request fails for a row that is not there: the row is missed, unless storage cannot hold its
number. -/
def absence (action : String) (n : Int) (table : String) : Error :=
  if isStorable n then .rowMissing n table else .storage action .integerTooLarge

section Absent

variable (hs : w.files.Sound) (hr : w.files.Regular) (hasked : Asked f id given t s w)
  (hno : ∀ row ∈ s.rows, row.id ≠ n)

include hs hasked

/-- What is done after the table that is asked for has been read. -/
theorem Asked.exec_table_bind {α : Type} (next : Table → Operation α) :
    (Schema.table f id (Name.normalize given) >>= next).exec w = (next t).exec w := by
  obtain ⟨r, hstores, ht⟩ := hasked.stores hs
  have htable : r.table (Name.normalize given) = .ok t := Record.table_eq_ok.mpr ht
  simp only [exec_bind, Schema.table, hstores.read, Name.normalize_normalize, exec_of, htable]

include hr hno

theorem Asked.get_of_absent : (get f id given n).exec w =
    (.error (absence ("query table '" ++ Name.normalize given ++ "'") n (Name.normalize given)), w) := by
  obtain ⟨db, hdb, hfind⟩ := hasked.stored
  have hthere : w.files.has (Store.place f.data id) = true := by
    rw [Files.has_eq, hdb]
    rfl
  have hrows := (hr.of_get? hdb).rowsById_of_absent hfind hno
  have hcalled : (Statement.rowsById (Name.normalize given) n).action =
      "query table '" ++ Name.normalize given ++ "'" := rfl
  rw [get, hasked.exec_table_bind hs]
  simp only [exec_bind, Store.exec_existing, hthere, if_true, Store.exec_connect hdb, Store.exec_ask,
    exec_of, Statement.on, hrows, hcalled, absence]
  cases isStorable n <;> rfl

omit hs in
/-- Values that can be stored reach no row. -/
theorem Asked.write_of_absent (hvalues : values ≠ [])
    (hthere : ∀ key ∈ values.keys, s.hasColumn key = true)
    (hwrites : t.Writes (isStorable · = true) values) :
    (write f id (Name.normalize given) n values).exec w =
      (.error (absence ("update row " ++ Error.number n ++ " in table '" ++ Name.normalize given ++ "'") n
        (Name.normalize given)), w) := by
  obtain ⟨db, hdb, hfind⟩ := hasked.stored
  have hfile : w.files.has (Store.place f.data id) = true := by
    rw [Files.has_eq, hdb]
    rfl
  obtain ⟨cells, hcells⟩ := hwrites.exists_ofValues
  have hupdate := (hr.of_get? hdb).update_of_absent hfind hno hvalues hthere hcells
  have hcalled : (Statement.update (Name.normalize given) n values).action =
      "update row " ++ Error.number n ++ " in table '" ++ Name.normalize given ++ "'" := rfl
  simp only [write, exec_bind, Store.exec_existing, hfile, if_true, Store.exec_transaction hdb,
    Statement.on, hupdate, hcalled, absence]
  cases isStorable n <;> rfl

theorem Asked.delete_of_absent : (delete f id given n).exec w =
    (.error (absence ("delete row " ++ Error.number n ++ " from table '" ++ Name.normalize given ++ "'") n
      (Name.normalize given)), w) := by
  obtain ⟨db, hdb, hfind⟩ := hasked.stored
  have hfile : w.files.has (Store.place f.data id) = true := by
    rw [Files.has_eq, hdb]
    rfl
  have hdelete := (hr.of_get? hdb).delete_of_absent hfind hno
  have hcalled : (Statement.delete (Name.normalize given) n).action =
      "delete row " ++ Error.number n ++ " from table '" ++ Name.normalize given ++ "'" := rfl
  rw [delete, hasked.exec_table_bind hs]
  simp only [exec_bind, Store.exec_existing, hfile, if_true, Store.exec_transaction hdb,
    Statement.on, hdelete, hcalled, absence]
  cases isStorable n <;> rfl

omit hr hno in
/-- What is accepted can be stored, and with the time as well. -/
theorem Asked.writes_accepted (htitle : ensureTitle false (byName data) = .ok ())
    (haccepted : acceptAll (Name.normalize given) t (byName data) = .ok accepted)
    (htime : isStorable w.time = true) :
    t.Writes (isStorable · = true) (accepted.put "date_modified" (.int w.time)) := by
  have hwell := hasked.wellFormed hs
  exact writes_put (writes_acceptAll hwell (fun _ he => isAssignable_byName htitle he) haccepted)
    (writes_time hwell htime (.inr rfl))

theorem Asked.update_of_absent (htitle : ensureTitle false (byName data) = .ok ())
    (haccepted : acceptAll (Name.normalize given) t (byName data) = .ok accepted)
    (hthere : ∀ key ∈ accepted.keys, s.hasColumn key = true) (htime : isStorable w.time = true) :
    (update f id given n data).exec w =
      (.error (absence ("update row " ++ Error.number n ++ " in table '" ++ Name.normalize given ++ "'") n
        (Name.normalize given)), w) := by
  have hwrites := hasked.writes_accepted hs htitle haccepted htime
  obtain ⟨db, hdb, hfind⟩ := hasked.stored
  have hregular := (hr.of_get? hdb).of_find? hfind
  have hne : accepted.put "date_modified" (.int w.time) ≠ [] := by
    have hkey : "date_modified" ∈ (accepted.put "date_modified" (.int w.time)).keys :=
      Fields.mem_keys_put.mpr (.inl rfl)
    rintro hnil
    rw [hnil] at hkey
    cases hkey
  have hall : ∀ key ∈ (accepted.put "date_modified" (.int w.time)).keys, s.hasColumn key = true := by
    intro key hkey
    rcases Fields.mem_keys_put.mp hkey with rfl | hkey
    · exact hregular.hasColumn_own (by decide)
    · exact hthere key hkey
  rw [update, hasked.exec_table_bind hs, exec_bind, exec_of, htitle]
  simp only [exec_bind, exec_of, exec_now, haccepted]
  exact hasked.write_of_absent hr hno hne hall hwrites

theorem Asked.setVisibility_of_absent {hidden : Value} {flag : Int}
    (hflag : Column.flag? hidden = some flag) (htime : isStorable w.time = true) :
    (setVisibility f id given n hidden).exec w =
      (.error (absence ("update row " ++ Error.number n ++ " in table '" ++ Name.normalize given ++ "'") n
        (Name.normalize given)), w) := by
  have hwell := hasked.wellFormed hs
  obtain ⟨db, hdb, hfind⟩ := hasked.stored
  have hregular := (hr.of_get? hdb).of_find? hfind
  have hwrites : t.Writes (isStorable · = true) [("hidden", .int flag), ("date_modified", .int w.time)] :=
    writes_visibility hwell hflag htime
  have hall : ∀ key ∈ ["hidden", "date_modified"], s.hasColumn key = true := by
    intro key hkey
    simp only [List.mem_cons, List.not_mem_nil, or_false] at hkey
    rcases hkey with rfl | rfl <;> exact hregular.hasColumn_own (by decide)
  simp only [setVisibility, hflag, hasked.exec_table_bind hs]
  rw [exec_bind, exec_now]
  exact hasked.write_of_absent hr hno (by simp) hall hwrites

end Absent

/-- The columns that values are accepted for are stored ones, as long as no inconsistency has been told
of. -/
theorem Asked.hasColumn_of_accepted (hreach : Reachable f true w) (hasked : Asked f id given t s w)
    (haccepted : acceptAll (Name.normalize given) t (byName data) = .ok accepted) :
    ∀ key ∈ accepted.keys, s.hasColumn key = true := by
  have hwell := hasked.wellFormed hreach.good.sound
  intro key hkey
  obtain ⟨hkeys, haccepts⟩ := acceptAll_accepts (nodup_byName data) haccepted
  obtain ⟨c, hc⟩ : ∃ c, t.columns.get? key = some c := by
    by_contra hnone
    have hrest : accepted.get? key = none :=
      haccepts.rest (.inl (Option.eq_none_iff_forall_ne_some.mpr fun c hc => hnone ⟨c, hc⟩))
    exact Fields.get?_eq_none_iff.mp hrest hkey
  have hstored : c.stored ∈ s.columns := (hreach.marked hasked).toHolds.mem.mpr (by
    rw [Column.name_stored, (hwell.named hc).1, Table.stored?_of_get? hc])
  refine List.any_eq_true.mpr ⟨c.stored, hstored, ?_⟩
  rw [Column.name_stored, (hwell.named hc).1, sameName_iff]

/-- The numbers that a search asks for are counted. -/
theorem SearchOptions.Wants.counted {options : SearchOptions} {limit? : Option Nat} {offset : Nat}
    (h : options.Wants limit? offset) : ∃ offset?,
      count? "limit" options.limit = .ok (limit?.map fun limit : Nat => (limit : Int)) ∧
      count? "offset" options.offset = .ok offset? ∧ offset?.getD 0 = offset := by
  have hlimit : count? "limit" options.limit = .ok (limit?.map fun limit : Nat => (limit : Int)) := by
    rw [h.limit]
    cases limit? with
    | none => rfl
    | some limit => exact count?_natCast _ limit
  rcases h.offset with hoffset | ⟨hoffset, rfl⟩
  · exact ⟨some offset, hlimit, hoffset ▸ count?_natCast _ offset, rfl⟩
  · exact ⟨none, hlimit, hoffset ▸ rfl, rfl⟩

/-- A search for a part of what is found answers with that part, if its numbers can be stored. -/
theorem search_part (hs : w.files.Sound) (options : SearchOptions) {all : SearchResult}
    (hall : ((search f id given { options with limit := .null, offset := .int 0 }).exec w).1 = .ok all)
    {limit? : Option Nat} {offset : Nat} (hwants : options.Wants limit? offset) :
    ((search f id given options).exec w).1 =
      if IsPart (limit?.map fun limit : Nat => (limit : Int)) offset then
        .ok { all with rows := (all.rows.drop offset).take (limit?.getD all.rows.length) }
      else
        .error (.storage ("query table '" ++ Name.normalize given ++ "'") .integerTooLarge) := by
  obtain ⟨t, s, c, order, -, -, -, -, -, -, -, -, -, hparts⟩ := search_parts hs hall
  have hnone : count? "limit" .null = .ok none := rfl
  have hrows := hall.symm.trans (hparts hnone (count?_natCast "offset" 0))
  rw [if_pos (by decide)] at hrows
  have hwindow := Database.window_eq none 0 (s.listed (options.seen.and c) order)
  rw [List.drop_zero, Option.getD_none, List.take_length] at hwindow
  have hrows : all.rows = (s.listed (options.seen.and c) order).map s.fields :=
    (congrArg SearchResult.rows (Except.ok.inj hrows)).trans (congrArg (List.map s.fields) hwindow)
  obtain ⟨offset?, hlimit, hoffset, hgetD⟩ := hwants.counted
  refine (hparts hlimit hoffset).trans ?_
  rw [hgetD, hrows, Database.window_eq, List.map_take, List.map_drop, List.length_map]
  rfl

end Rows

/-- A workspace with a table of two rows. -/
def World.twoRows : Folders.Sample ⟨"data", "backup"⟩ fun w =>
    w.numbers ⟨"data", "a_0", "entries"⟩ = some ([1, 2], 2) ∧
      ((Rows.search ⟨"data", "backup"⟩ "a_0" "entries" {}).exec w).1.isOk = true :=
  Request.sample _ Request.titled (by decide +kernel)

/-- The table is there, and its rows have the ids one and two. -/
theorem World.twoRows_asked : ∃ t s all,
    Rows.Asked ⟨"data", "backup"⟩ "a_0" "entries" t s World.twoRows.val ∧
    (∀ n, n ≠ 1 → n ≠ 2 → ∀ row ∈ s.rows, row.id ≠ n) ∧
    ((Rows.search ⟨"data", "backup"⟩ "a_0" "entries" {}).exec World.twoRows.val).1 = .ok all := by
  obtain ⟨hreach, hnumbers, hsearch⟩ := World.twoRows.property
  generalize World.twoRows.val = w at hreach hnumbers hsearch
  cases hall : ((Rows.search ⟨"data", "backup"⟩ "a_0" "entries" {}).exec w).1 with
  | error e => simp [hall, Except.isOk, Except.toBool] at hsearch
  | ok all =>
    obtain ⟨t, s, hasked⟩ := Rows.exists_asked hreach.good.sound hall
    obtain ⟨db, hdb, hfind⟩ := hasked.stored
    obtain ⟨db', hdb', hids⟩ := World.numbers_eq_some.mp hnumbers
    obtain rfl : db = db' := by simpa using hdb.symm.trans hdb'
    have hname : Name.normalize "entries" = "entries" := by decide
    rw [hname] at hfind
    rw [Database.numbers, hfind] at hids
    have hids : s.rows.map (·.id) = [1, 2] := congrArg Prod.fst (Option.some.inj hids)
    refine ⟨t, s, all, hasked, fun n hone htwo row hrow heq => ?_, rfl⟩
    have hmem : row.id ∈ [1, 2] := hids ▸ List.mem_map_of_mem hrow
    simp [heq, hone, htwo] at hmem

end Cabinet

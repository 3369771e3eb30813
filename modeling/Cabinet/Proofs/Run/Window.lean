import Cabinet.Proofs.Run.Visibility

/-!
The parts of what a search finds: which part is wanted changes nothing but the rows that are answered,
and any part can be had whose numbers storage can hold.
-/

namespace Cabinet

open Operation Storage

namespace Storage

variable {db : Database} {table : String} {c : Condition} {order : Search.RowOrder}
  {limit? : Option Int} {offset : Int} {rows : List (Fields Cell)} {position : Nat}

/-- Values before others are stored before them. -/
theorem Cell.ofValuesFrom_append {vs us : List Value} {cells : List Cell}
    (h : ofValuesFrom position vs = .ok cells) : ofValuesFrom position (vs ++ us) =
      (ofValuesFrom (position + vs.length) us).map (cells ++ ·) := by
  induction vs generalizing position cells with
  | nil =>
    obtain rfl := Except.ok.inj h
    show ofValuesFrom position us = _
    cases ofValuesFrom position us <;> rfl
  | cons v vs ih =>
    simp only [ofValuesFrom, bind_eq_ok_iff] at h
    obtain ⟨cell, hcell, others, hothers, h⟩ := h
    obtain rfl := Except.ok.inj h
    simp only [List.cons_append, ofValuesFrom, hcell, ih hothers, ok_bind, List.length_cons,
      Nat.add_comm vs.length, ← Nat.add_assoc]
    cases ofValuesFrom (position + 1 + vs.length) us <;> rfl

theorem Cell.exists_ofValuesFrom_of_append {vs us : List Value} {cells : List Cell}
    (h : ofValuesFrom position (vs ++ us) = .ok cells) :
    ∃ before, ofValuesFrom position vs = .ok before := by
  induction vs generalizing position cells with
  | nil => exact ⟨[], rfl⟩
  | cons v vs ih =>
    simp only [List.cons_append, ofValuesFrom, bind_eq_ok_iff] at h
    obtain ⟨cell, hcell, others, hothers, -⟩ := h
    obtain ⟨before, hbefore⟩ := ih hothers
    exact ⟨cell :: before, by rw [ofValuesFrom, hcell, ok_bind, hbefore, ok_bind, pure_eq_ok]⟩

/-- Whole numbers are stored, unless one of them is too large. -/
theorem Cell.ofValuesFrom_ints (ns : List Int) : ofValuesFrom position (ns.map .int) =
    if ∀ n ∈ ns, isStorable n = true then .ok (ns.map .integer) else .error .integerTooLarge := by
  induction ns generalizing position with
  | nil => rfl
  | cons n ns ih =>
    have hcons := List.forall_mem_cons (p := fun n => isStorable n = true) (a := n) (l := ns)
    rw [if_congr hcons rfl rfl, List.map_cons, ofValuesFrom, ofValue, ih]
    by_cases hn : isStorable n = true
    · by_cases hall : ∀ m ∈ ns, isStorable m = true
      · rw [if_pos hn, if_pos hall, if_pos ⟨hn, hall⟩]
        rfl
      · rw [if_pos hn, if_neg hall, if_neg fun h => hall h.2]
        rfl
    · rw [if_neg hn, if_neg (c := _ ∧ _) fun h => hn h.1]
      rfl

/-- The numbers of a part of the rows can be stored. -/
def IsPart (limit? : Option Int) (offset : Int) : Prop :=
  (∀ limit ∈ limit?, isStorable limit = true) ∧ isStorable offset = true

instance (limit? : Option Int) (offset : Int) : Decidable (IsPart limit? offset) :=
  inferInstanceAs (Decidable (_ ∧ _))

/-- The numbers that a statement holds for a part of the rows are stored as those of the part are. -/
theorem ofValuesFrom_window (position : Nat) (limit? : Option Int) (offset : Int) :
    ∃ cells, Cell.ofValuesFrom position (Database.windowValues limit? offset) =
      if IsPart limit? offset then .ok cells else .error .integerTooLarge := by
  obtain ⟨ns, hvalues, hpart⟩ : ∃ ns : List Int, Database.windowValues limit? offset = ns.map .int ∧
      (IsPart limit? offset ↔ ∀ n ∈ ns, isStorable n = true) := by
    have hnone : isStorable 0 = true := rfl
    have hall : isStorable (-1) = true := rfl
    cases limit? with
    | some limit => exact ⟨[limit, offset], rfl, by simp [IsPart]⟩
    | none =>
      rw [Database.windowValues]
      split
      · next hzero => exact ⟨[], rfl, by simp [IsPart, hzero, hnone]⟩
      · exact ⟨[-1, offset], rfl, by simp [IsPart, hall]⟩
  exact ⟨_, by rw [hvalues, Cell.ofValuesFrom_ints, if_congr hpart rfl rfl]⟩

/-- The rows of which a condition holds, in the order that is asked for. -/
def Sheet.listed (s : Sheet) (c : Condition) : Search.RowOrder → List Row
  | .random => s.rows.filter fun row => c.truth (s.lookup row) = some true
  | .byColumn column descending =>
    s.sorted column descending (s.rows.filter fun row => c.truth (s.lookup row) = some true)

theorem Sheet.listed_perm (s : Sheet) (c : Condition) (order : Search.RowOrder) :
    (s.listed c order).Perm (s.rows.filter fun row => c.truth (s.lookup row) = some true) := by
  cases order with
  | random => exact .refl _
  | byColumn column descending => exact List.mergeSort_perm _ _

/-- Where one part of the rows is answered, every part is whose numbers can be stored. -/
theorem Database.query_parts (h : db.query table c order limit? offset = .ok rows) :
    ∃ s, db.find? table = some s ∧ ∀ limit? offset, db.query table c order limit? offset =
      if IsPart limit? offset then .ok ((window limit? offset (s.listed c order)).map s.fields)
      else .error .integerTooLarge := by
  simp only [Database.query, Database.prepare, bind_eq_ok_iff] at h
  obtain ⟨_, htext, s, ⟨_, hname, _, hcondition, s', hs, stored, hstored, hsame⟩, found, hfound, -⟩ := h
  obtain rfl := Except.ok.inj hsame
  obtain ⟨cells, hcells⟩ := Cell.exists_ofValuesFrom_of_append hstored
  refine ⟨s', find_eq_ok.mp hs, fun limit? offset => ?_⟩
  obtain ⟨numbers, hnumbers⟩ := ofValuesFrom_window (1 + c.params.length) limit? offset
  simp only [Database.query, Database.prepare, htext, hname, hcondition, hs, Cell.ofValues,
    Cell.ofValuesFrom_append hcells, hnumbers, ok_bind]
  by_cases hpart : IsPart limit? offset
  · simp only [if_pos hpart, Except.map, hfound, ok_bind, pure_eq_ok, Sheet.select_eq_ok hfound]
    cases order <;> rfl
  · simp only [if_neg hpart, Except.map, error_bind]

end Storage

namespace Rows

variable {f : Folders} {id given : String} {options : SearchOptions} {result : SearchResult} {w : World}

/-- Where a search answers, it has counted the rows that can be seen and those that are found, and it
answers in this way for every part of the rows whose numbers can be stored. -/
theorem search_parts (hs : w.files.Sound) (h : ((search f id given options).exec w).1 = .ok result) :
    ∃ t s c order limit? offset?, Asked f id given t s w ∧
      Search.compile t.ordered options.query = .ok c ∧
      Search.compileOrder t.ordered options.sort options.descending options.random = .ok order ∧
      count? "limit" options.limit = .ok limit? ∧ count? "offset" options.offset = .ok offset? ∧
      result.total = s.rows.countP (fun row => options.seen.truth (s.lookup row) = some true) ∧
      result.filtered = (s.listed (options.seen.and c) order).length ∧
      ∀ {limit offset limit? offset?}, count? "limit" limit = .ok limit? →
        count? "offset" offset = .ok offset? →
        ((search f id given { options with limit, offset }).exec w).1 =
          if IsPart limit? (offset?.getD 0) then
            .ok { result with rows := (Database.window limit? (offset?.getD 0)
              (s.listed (options.seen.and c) order)).map s.fields }
          else
            .error (.storage ("query table '" ++ Name.normalize given ++ "'") .integerTooLarge) := by
  obtain ⟨t, db, c, order, limit?, offset?, htable, hdb, hc, horder, hlimit, hoffset, htotal, hfiltered,
    hrows⟩ := search_answers hs h
  obtain ⟨r, hread, ht⟩ := Schema.table_eq_ok hs (congrArg Prod.fst htable)
  rw [Name.normalize_normalize] at ht
  obtain ⟨s, hfind, hparts⟩ := Database.query_parts hrows
  -- Both counts and the listing find the one sheet of the table.
  have hcounted : ∀ {c n}, db.count (Name.normalize given) c = .ok n →
      n = s.rows.countP fun row => c.truth (s.lookup row) = some true := by
    intro c n hcount
    obtain ⟨s', hfind', hn⟩ := Database.count_eq_ok hcount
    obtain rfl : s = s' := by simpa [hfind] using hfind'
    exact hn
  refine ⟨t, s, c, order, limit?, offset?, ⟨⟨r, hread, ht⟩, db, hdb, hfind⟩, hc, horder, hlimit, hoffset,
    hcounted htotal, ?_, fun {limit offset limit? offset?} hlimit hoffset => ?_⟩
  · rw [hcounted hfiltered, (s.listed_perm _ _).length_eq, List.countP_eq_length_filter]
  · obtain ⟨u, log, hquiet⟩ := noteFallback_quiet options.query w
    have hthere : w.files.has (Store.place f.data id) = true := by
      rw [Files.has_eq, hdb]
      rfl
    have hseen : (if options.includeHidden then Condition.always else visible) = options.seen := rfl
    have htotal' : (Statement.count (Name.normalize given) options.seen).on db = .ok result.total :=
      Statement.on_eq_ok.mpr htotal
    have hfiltered' : (Statement.count (Name.normalize given) (options.seen.and c)).on db =
        .ok result.filtered := Statement.on_eq_ok.mpr hfiltered
    simp only [search, exec_bind, exec_of, hlimit, hoffset, htable, horder, hquiet, hc,
      Store.exec_existing, hthere, if_true, Store.exec_connect (w := { w with log }) hdb, Store.exec_ask,
      hseen, htotal', hfiltered']
    simp only [Statement.on, Statement.query, hparts]
    by_cases hpart : IsPart limit? (offset?.getD 0)
    · simp only [if_pos hpart]
      rfl
    · simp only [if_neg hpart]
      rfl

end Rows

end Cabinet

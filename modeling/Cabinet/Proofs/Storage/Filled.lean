import Cabinet.Proofs.Column.Admits
import Cabinet.Proofs.Storage.Lasting

/-!
Stored tables whose rows come in the order of their ids, and hold in each column what the column may
hold.
-/

namespace Cabinet

open Storage

namespace Storage

/-- A cell that a row may hold under a name, in a column of a type: one that such columns admit. A
title says something, and what the library writes itself is there. -/
structure Cell.Fits (cell : Cell) (name : String) (type : ColumnType) : Prop where
  admitted (c : Column) (h : c.type = type) : c.Admits cell
  title (h : name = "title") : ∃ s, cell = .text s ∧ Text.isAllBlank s.toList = false
  there (h : name = "date_modified" ∨ name = "hidden") : cell ≠ .null

/-- A demand on what the row with an id holds under a name, in a column of a type, that lasts: what is
written at times of some kind meets it, and so do the id itself and what is there where nothing is
written. -/
structure Cell.Lasting (P : Int → Cell → String → ColumnType → Prop) (T : Int → Prop) : Prop where
  written {d t v name position cell} (id) : Column.Written T d v → ofValue position v = .ok cell →
    Table.WellFormed t → t.columns.get? name = some d →
    P id (cell.convert (.ofStorage d.type.storage)) name d.type
  key {id} : isStorable id = true → P id (.integer id) "id" .integer
  shown (id) : P id (.integer 0) "hidden" .boolean
  empty {name} (id type) : name ≠ "id" → name ≠ "title" → name ≠ "date_modified" → name ≠ "hidden" →
    P id .null name type
  renamed {id cell old new type} : P id cell old type → new ∉ Column.protectedNames →
    P id cell new type

/-- A row whose cells meet a demand in the columns of a table. Its id is one that can be stored. -/
structure Row.Meets (P : Int → Cell → String → ColumnType → Prop) (row : Row)
    (columns : List SheetColumn) (t : Table) : Prop where
  id : isStorable row.id = true
  cells : ∀ e ∈ columns.zip row.cells, ∀ kind, t.kind? e.1.name = some kind →
    P row.id e.2 e.1.name kind.2

/-- A stored table with the columns that a table says, whose rows come in the order of their ids and
meet a demand. -/
structure Sheet.Meets (P : Int → Cell → String → ColumnType → Prop) (s : Sheet) (t : Table) : Prop
    extends s.Holds t where
  ascending : s.rows.Pairwise (·.id < ·.id)
  meets : ∀ row ∈ s.rows, row.Meets P s.columns t

/-- A stored table with the columns that a table says, whose rows fit them. -/
abbrev Sheet.Filled (s : Sheet) (t : Table) : Prop :=
  s.Meets (fun _ => Cell.Fits) t

end Storage

variable {s s' : Sheet} {t t' : Table} {c : SheetColumn} {d : Column} {cell : Cell} {v : Value}
  {name : String} {type : ColumnType} {kind : String × ColumnType} {position : Nat} {id : Int}
  {values : Fields Value} {cells : List Cell} {pairs : List (String × Cell)}
  {P : Int → Cell → String → ColumnType → Prop} {T : Int → Prop}

namespace Storage.Cell

/-- Under a name that is not protected, all is well that columns of the type admit. -/
theorem Fits.of_admits (h : ∀ c : Column, c.type = type → c.Admits cell)
    (hn : name ∉ Column.protectedNames) : cell.Fits name type where
  admitted := h
  title hname := absurd (hname ▸ by decide) hn
  there hname := absurd (by rcases hname with rfl | rfl <;> decide) hn

theorem fits_null (htitle : name ≠ "title") (hmodified : name ≠ "date_modified")
    (hhidden : name ≠ "hidden") : null.Fits name type where
  admitted c _ := c.admits_null
  title hname := absurd hname htitle
  there hname := absurd hname (not_or.mpr ⟨hmodified, hhidden⟩)

theorem fits_integer_id (h : isStorable id = true) : (integer id).Fits "id" .integer where
  admitted c hc := by
    right
    simp only [hc, Column.accept]
    exact if_pos h
  title hname := absurd hname (by decide)
  there hname := absurd hname (by decide)

theorem fits_integer_date {n : Int} (hpos : 0 < n) (hn : isStorable n = true)
    (hname : name = "date_created" ∨ name = "date_modified") : (integer n).Fits name .date where
  admitted c hc := by
    have hbounds : 1 ≤ n ∧ n ≤ maxInteger := by
      simp only [isStorable, Bool.and_eq_true, decide_eq_true_eq] at hn
      exact ⟨hpos, hn.2⟩
    right
    simp only [hc, Column.accept]
    exact if_pos hbounds
  title htitle := absurd htitle (by rcases hname with rfl | rfl <;> decide)
  there _ := nofun

theorem fits_integer_flag {n : Int} (hn : n = 0 ∨ n = 1) : (integer n).Fits "hidden" .boolean where
  admitted c hc := by
    right
    simp only [hc, Column.accept, toValue]
    rcases hn with rfl | rfl <;> rfl
  title hname := absurd hname (by decide)
  there _ := nofun

theorem length_ofValues (h : ofValuesFrom position (values.map (·.2)) = .ok cells) :
    cells.length = values.length := by
  induction values generalizing position cells with
  | nil => exact Except.ok.inj h ▸ rfl
  | cons entry rest ih =>
    simp only [List.map_cons, ofValuesFrom, bind_eq_ok_iff] at h
    obtain ⟨first, -, others, hothers, h⟩ := h
    obtain rfl := Except.ok.inj h
    simp only [List.length_cons, ih hothers]

/-- The cells of a statement are those of its values. -/
theorem exists_of_mem_zip {position : Nat}
    (h : ofValuesFrom position (values.map (·.2)) = .ok cells) {e : String × Cell}
    (he : e ∈ values.keys.zip cells) :
    ∃ v position, (e.1, v) ∈ values ∧ ofValue position v = .ok e.2 := by
  induction values generalizing position cells with
  | nil => simp [Fields.keys] at he
  | cons entry rest ih =>
    simp only [List.map_cons, ofValuesFrom, bind_eq_ok_iff] at h
    obtain ⟨first, hfirst, others, hothers, h⟩ := h
    obtain rfl := Except.ok.inj h
    rcases List.mem_cons.mp he with rfl | he
    · exact ⟨entry.2, position, List.mem_cons_self, hfirst⟩
    · obtain ⟨v, later, hv, hcell⟩ := ih hothers he
      exact ⟨v, later, List.mem_cons_of_mem _ hv, hcell⟩

end Storage.Cell

/-- What is written in a column fits it, in the form in which storage keeps it there. -/
theorem Column.Written.fits (h : d.Written (0 < ·) v) (hcell : Cell.ofValue position v = .ok cell)
    (ht : t.WellFormed) (hd : t.columns.get? name = some d) :
    (cell.convert (.ofStorage d.type.storage)).Fits name d.type := by
  have hname := (ht.named hd).1
  -- A value is accepted from what was given, or it is the time or the mark that rows get by
  -- themselves.
  cases h with
  | accepted accepted free title =>
    refine ⟨fun c hc => Column.admits_convert accepted hcell hc, fun htitle => ?_, fun hn => ?_⟩
    · obtain ⟨s, rfl, hs⟩ := title (hname.trans htitle)
      obtain rfl := Except.ok.inj hcell
      subst htitle
      have htype : d.type = .string := ht.type_eq hd (by decide) (by decide)
      rw [htype]
      exact ⟨s, rfl, hs⟩
    · rw [hname] at free
      exact absurd (by rcases hn with rfl | rfl <;> decide) free
  | time hpos hn =>
    obtain ⟨hstorable, rfl⟩ := Column.ofValue_int hcell
    rw [hname] at hn
    have htype : d.type = .date := by
      rcases hn with rfl | rfl
      · exact ht.type_eq hd (by decide) (by decide)
      · exact ht.type_eq hd (by decide) (by decide)
    rw [htype]
    exact Cell.fits_integer_date hpos hstorable hn
  | flag hflag hn =>
    obtain ⟨-, rfl⟩ := Column.ofValue_int hcell
    obtain rfl : name = "hidden" := hname.symm.trans hn
    have htype : d.type = .boolean := ht.type_eq hd (by decide) (by decide)
    rw [htype]
    exact Cell.fits_integer_flag hflag

/-- What fits a column lasts, as long as times are positive. -/
theorem Storage.Cell.Fits.lasting : Cell.Lasting (fun _ => Cell.Fits) (0 < ·) where
  written _ h hcell ht hd := h.fits hcell ht hd
  key := Cell.fits_integer_id
  shown _ := Cell.fits_integer_flag (.inl rfl)
  empty _ _ _ := Cell.fits_null
  renamed h hn := .of_admits h.admitted hn

/-- The key is not among the values that are written. -/
theorem Table.Writes.id_not_mem (h : t.Writes T values) (ht : t.WellFormed) :
    "id" ∉ values.keys := by
  intro hid
  obtain ⟨⟨name, v⟩, he, rfl⟩ := List.mem_map.mp hid
  obtain ⟨c, hc, hwritten⟩ := h _ he
  have hname := (ht.named hc).1
  cases hwritten with
  | accepted _ free => exact free (hname ▸ List.mem_cons_self)
  | time _ hn => simp [hname] at hn
  | flag _ hn => simp [hname] at hn

/-- The stored form of a column is that of a protected one, or as it is declared. -/
theorem Column.stored_cases (d : Column) : d.stored ∈ (freshSheet "").columns ∨
    d.name ∉ Column.protectedNames ∧ d.stored = Statement.declared d.name d.type.storage := by
  by_cases hp : d.name ∈ Column.protectedNames
  · have hfresh : (freshSheet "").columns.map (·.name) = Column.protectedNames := by decide
    obtain ⟨found, hmem, hname⟩ := List.mem_map.mp (hfresh ▸ hp)
    unfold Column.stored
    cases hf : (freshSheet "").columns.find? (·.name == d.name) with
    | none => exact absurd hname (by simpa using List.find?_eq_none.mp hf found hmem)
    | some found => exact .inl (List.mem_of_find?_eq_some hf)
  · exact .inr ⟨hp, Column.stored_of_not_protected hp⟩

namespace Storage.Sheet

theorem Holds.exists_column (h : s.Holds t) (hc : c ∈ s.columns) :
    ∃ d, t.columns.get? c.name = some d ∧ d.stored = c :=
  Option.map_eq_some_iff.mp (h.mem.mp hc)

theorem Holds.isKey_iff (h : s.Holds t) (hc : c ∈ s.columns) : c.isKey = true ↔ c.name = "id" := by
  have hfresh : ∀ c ∈ (freshSheet "").columns, c.isKey = true ↔ c.name = "id" := by decide
  obtain ⟨d, -, rfl⟩ := h.exists_column hc
  rcases d.stored_cases with hmem | ⟨hp, hdeclared⟩
  · exact hfresh _ hmem
  · rw [hdeclared]
    exact iff_of_false Bool.false_ne_true fun hname : d.name = "id" => hp (hname ▸ by decide)

/-- Where nothing is assigned, a row is not hidden, and all other columns hold nothing. -/
theorem Holds.default_cases (h : s.Holds t) (hc : c ∈ s.columns) :
    c.name ≠ "hidden" ∧ c.default = .null ∨
      c.name = "hidden" ∧ c.affinity = .integer ∧ c.default = .integer 0 := by
  have hfresh : ∀ c ∈ (freshSheet "").columns, c.name ≠ "hidden" ∧ c.default = .null ∨
      c.name = "hidden" ∧ c.affinity = .integer ∧ c.default = .integer 0 := by decide
  obtain ⟨d, -, rfl⟩ := h.exists_column hc
  rcases d.stored_cases with hmem | ⟨hp, hdeclared⟩
  · exact hfresh _ hmem
  · rw [hdeclared]
    exact .inl ⟨fun hname : d.name = "hidden" => hp (hname ▸ by decide), rfl⟩

theorem sameName_refl (name : String) : sameName name name = true := by
  simp [sameName]

theorem exists_of_assigned? (h : assigned? c pairs = some cell) :
    ∃ name, (name, cell) ∈ pairs ∧ sameName name c.name = true := by
  obtain ⟨e, he, rfl⟩ := Option.map_eq_some_iff.mp h
  exact ⟨e.1, List.mem_of_find?_eq_some he, by simpa using List.find?_some he⟩

theorem not_mem_of_assigned? (h : assigned? c pairs = none) : c.name ∉ pairs.map (·.1) := by
  intro hmem
  obtain ⟨e, he, hname⟩ := List.mem_map.mp hmem
  have hno := List.find?_eq_none.mp (Option.map_eq_none_iff.mp h) e he
  exact hno (hname ▸ sameName_refl e.1)

section Written

variable (h : s.Holds t) (ht : t.WellFormed) (hv : t.Writes T values)
  (hcells : Cell.ofValues (values.map (·.2)) = .ok cells)
  (hp : ∀ e ∈ pairs, e ∈ values.keys.zip cells)

include h ht hv hcells hp

/-- What is assigned in a column is written in it. -/
theorem Holds.meets_assigned (hP : Cell.Lasting P T) (hc : c ∈ s.columns)
    (ha : assigned? c pairs = some cell) (hk : t.kind? c.name = some kind) :
    P id (cell.convert c.affinity) c.name kind.2 := by
  obtain ⟨name, hmem, hsame⟩ := exists_of_assigned? ha
  obtain ⟨v, position, hentry, hcell⟩ := Cell.exists_of_mem_zip hcells (hp _ hmem)
  obtain ⟨d, hd, hwritten⟩ := hv _ hentry
  -- Storage finds the column up to case; as names are normal, it is the one that is meant.
  obtain rfl : c.name = name :=
    (h.sameName_iff ht.isNamed (ht.named hd).2.normalize_eq hc).mp hsame
  obtain ⟨d', hd', rfl⟩ := h.exists_column hc
  obtain rfl := Option.some.inj (hd.symm.trans hd')
  obtain ⟨d', hd', -, htype⟩ := Table.kind?_eq_some.mp hk
  obtain rfl := Option.some.inj (hd.symm.trans hd')
  rw [ht.affinity_stored hd, ← htype]
  exact hP.written id hwritten hcell ht hd

/-- No statement of the library assigns the key. -/
theorem Holds.key_not_assigned :
    ((s.columns.find? (·.isKey)).bind (assigned? · pairs)) = none := by
  refine Option.bind_eq_none_iff.mpr fun c hc => Option.eq_none_iff_forall_ne_some.mpr fun cell ha => ?_
  have hmem := List.mem_of_find?_eq_some hc
  have hid := (h.isKey_iff hmem).mp (List.find?_some hc)
  obtain ⟨name, hpair, hsame⟩ := exists_of_assigned? ha
  obtain ⟨v, position, hentry, -⟩ := Cell.exists_of_mem_zip hcells (hp _ hpair)
  obtain ⟨d, hd, -⟩ := hv _ hentry
  have hname := (h.sameName_iff ht.isNamed (ht.named hd).2.normalize_eq hmem).mp hsame
  have hkey : name ∈ values.keys := List.mem_map_of_mem hentry
  exact hv.id_not_mem ht ((hname.symm.trans hid) ▸ hkey)

end Written

theorem Holds.meets_key (h : s.Holds t) (ht : t.WellFormed) (hP : Cell.Lasting P T)
    (hc : c ∈ s.columns) (hk : c.isKey = true) (hkind : t.kind? c.name = some kind)
    (hid : isStorable id = true) : P id (.integer id) c.name kind.2 := by
  have hname := (h.isKey_iff hc).mp hk
  rw [hname] at hkind ⊢
  obtain ⟨d, hd, -, htype⟩ := Table.kind?_eq_some.mp hkind
  have hinteger : d.type = .integer := ht.type_eq hd (by decide) (by decide)
  rw [← htype, hinteger]
  exact hP.key hid

/-- The next id can be stored. -/
theorem isStorable_nextId (hids : ∀ row ∈ s.rows, isStorable row.id = true)
    (h : s.nextId = .ok id) : isStorable id = true := by
  have hlast : minInteger ≤ s.lastId.getD 0 := by
    cases hlast : s.rows.getLast? with
    | none =>
      rw [lastId, hlast]
      decide
    | some row =>
      have hrow := hids row (List.mem_of_getLast? hlast)
      simp only [isStorable, Bool.and_eq_true, decide_eq_true_eq] at hrow
      rw [lastId, hlast]
      exact hrow.1
  unfold nextId at h
  dsimp only at h
  generalize hbefore : (if s.isCounted = true then _ else _) = before at h
  have hlow : minInteger ≤ before := by
    rw [← hbefore]
    split <;> omega
  split at h
  · next hlt =>
    obtain rfl := Except.ok.inj h
    simp only [isStorable, Bool.and_eq_true, decide_eq_true_eq]
    omega
  · simp at h

/-- A cell of a new row meets the demand. -/
theorem Holds.meets_newCell (h : s.Holds t) (ht : t.WellFormed) (hP : Cell.Lasting P T)
    (hv : t.Writes T values) (htitle : "title" ∈ values.keys) (hmodified : "date_modified" ∈ values.keys)
    (hcells : Cell.ofValues (values.map (·.2)) = .ok cells) (hid : isStorable id = true)
    (hc : c ∈ s.columns) (hk : t.kind? c.name = some kind) :
    P id (newCell id (values.keys.zip cells) c) c.name kind.2 := by
  unfold newCell
  split
  · next hkey => exact h.meets_key ht hP hc hkey hk hid
  next hkey =>
  cases ha : assigned? c (values.keys.zip cells) with
  | some cell => exact h.meets_assigned ht hv hcells (fun _ he => he) hP hc ha hk
  | none =>
    -- What a new row must have is assigned, so what is left out may hold its default.
    have hlen : values.keys.length ≤ cells.length := by
      simp [Fields.keys, Cell.length_ofValues hcells]
    have hother := not_mem_of_assigned? ha
    rw [List.map_fst_zip hlen] at hother
    rcases h.default_cases hc with ⟨hhidden, hdefault⟩ | ⟨hname, haffinity, hdefault⟩
    · have hnull : (c.default.convert c.affinity) = .null := by
        rw [hdefault]
        cases c.affinity <;> rfl
      rw [Option.getD_none, hnull]
      exact hP.empty id kind.2 (mt (h.isKey_iff hc).mpr hkey) (fun hname => hother (hname ▸ htitle))
        (fun hname => hother (hname ▸ hmodified)) hhidden
    · obtain ⟨d, hd, -, htype⟩ := Table.kind?_eq_some.mp hk
      rw [hname] at hd
      have hboolean : d.type = .boolean := ht.type_eq hd (by decide) (by decide)
      rw [hname, haffinity, hdefault, ← htype, hboolean]
      exact hP.shown id

/-- What a row holds besides what is assigned goes on to meet the demand. -/
theorem Meets.meets_changedRow (h : s.Meets P t) (ht : t.WellFormed) (hP : Cell.Lasting P T)
    (hv : t.Writes T values) (hcells : Cell.ofValues (values.map (·.2)) = .ok cells)
    {row changed : Row} (hrow : row ∈ s.rows)
    (hr : s.changedRow (values.keys.zip cells) row = .ok changed) : changed.Meets P s.columns t := by
  have hp : ∀ e ∈ (values.keys.zip cells).reverse, e ∈ values.keys.zip cells :=
    fun _ => List.mem_reverse.mp
  have hmeets := h.meets row hrow
  unfold changedRow at hr
  rw [h.key_not_assigned ht hv hcells hp] at hr
  obtain rfl := Except.ok.inj hr
  refine ⟨hmeets.id, fun e he kind hk => ?_⟩
  have hfst : (s.columns.zip row.cells).map (·.1) = s.columns :=
    List.map_fst_zip (Nat.le_of_eq (h.rows row hrow).symm)
  have hchanged : s.columns.zip ((s.columns.zip row.cells).map fun e =>
      changedCell row.id (values.keys.zip cells) e.1 e.2) = (s.columns.zip row.cells).map fun e =>
        (e.1, changedCell row.id (values.keys.zip cells) e.1 e.2) := by
    rw [← List.zip_map', hfst]
  obtain ⟨⟨c, held⟩, hmem, rfl⟩ := List.mem_map.mp (hchanged ▸ he)
  have hc := (List.of_mem_zip hmem).1
  dsimp only [changedCell] at hk ⊢
  split
  · next hkey => exact h.meets_key ht hP hc hkey hk hmeets.id
  cases ha : assigned? c (values.keys.zip cells).reverse with
  | some cell => exact h.meets_assigned ht hv hcells hp hP hc ha hk
  | none => exact hmeets.cells _ hmem kind hk

theorem Meets.congr (h : s.Meets P t) (ht : t'.kind? = t.kind?) : s.Meets P t' where
  toHolds := h.toHolds.congr (Table.stored?_congr ht)
  ascending := h.ascending
  meets row hrow := ⟨(h.meets row hrow).id, fun e he kind hk => (h.meets row hrow).cells e he kind (ht ▸ hk)⟩

/-- A new column holds nothing. -/
theorem Meets.addColumn (h : s.Meets P t) (ht : t.Named) (hn : name ∉ t.columns.keys)
    (hp : name ∉ Column.protectedNames)
    (hP : Cell.Lasting P T) (ha : s.addColumn (Statement.declared name type.storage) = .ok s')
    (ht' : ∀ key, t'.kind? key = if key = name then some (name, type) else t.kind? key) :
    s'.Meets P t' := by
  have hholds := (Holds.lasting fun _ => True).addColumn h.toHolds ht hn hp ha ht'
  obtain ⟨-, rfl⟩ := addColumn_eq_ok ha
  refine ⟨hholds, List.pairwise_map.mpr h.ascending, fun row hrow => ?_⟩
  obtain ⟨old, hold, rfl⟩ := List.mem_map.mp hrow
  refine ⟨(h.meets old hold).id, fun e he kind hk => ?_⟩
  rw [List.zip_append (h.rows old hold).symm] at he
  rcases List.mem_append.mp he with he | he
  · have hcolumn := List.mem_map_of_mem (f := SheetColumn.name) (List.of_mem_zip he).1
    have hne : e.1.name ≠ name := fun heq => hn (heq ▸ (h.mem_columnNames ht).mp hcolumn)
    rw [ht', if_neg hne] at hk
    exact (h.meets old hold).cells e he kind hk
  · obtain rfl := List.mem_singleton.mp he
    have hkind : t'.kind? name = some (name, type) := by rw [ht', if_pos rfl]
    obtain rfl := Option.some.inj (hkind.symm.trans hk)
    have hother : ∀ other ∈ Column.protectedNames, name ≠ other := fun other ho heq => hp (heq ▸ ho)
    exact hP.empty _ type (hother _ (by decide)) (hother _ (by decide)) (hother _ (by decide))
      (hother _ (by decide))

/-- What is held in the other columns stays. -/
theorem Meets.dropColumn (h : s.Meets P t) (ht : t.Named) (hn : Name.normalize name = name)
    (hd : s.dropColumn name = .ok s')
    (ht' : ∀ key, t'.kind? key = if key = name then none else t.kind? key) : s'.Meets P t' := by
  have hholds := (Holds.lasting fun _ => True).dropColumn h.toHolds ht hn hd ht'
  obtain ⟨c, -, -, rfl⟩ := dropColumn_eq_ok hd
  refine ⟨hholds, List.pairwise_map.mpr h.ascending, fun row hrow => ?_⟩
  obtain ⟨old, hold, rfl⟩ := List.mem_map.mp hrow
  refine ⟨(h.meets old hold).id, fun e he kind hk => ?_⟩
  have hkept := zip_kept (fun d => d.name != c.name) (h.rows old hold)
  have hmem := (List.mem_filter.mp (hkept ▸ he)).1
  rw [ht'] at hk
  split at hk
  · simp at hk
  · exact (h.meets old hold).cells e hmem kind hk

/-- What is held in a column goes with it to its new name. -/
theorem Meets.renameColumn {old new : String} (h : s.Meets P t) (ht : t.Named)
    (ho : t.kind? old = some (old, type)) (hp : old ∉ Column.protectedNames)
    (hn : new ∉ t.columns.keys) (hp' : new ∉ Column.protectedNames)
    (hP : Cell.Lasting P T) (hr : s.renameColumn old new = .ok s')
    (ht' : ∀ key, t'.kind? key = if key = new then some (new, type) else if key = old then none
      else t.kind? key) : s'.Meets P t' := by
  have hholds := (Holds.lasting fun _ => True).renameColumn h.toHolds ht ho hp hn hp' hr ht'
  obtain ⟨d, hd, -⟩ := Table.kind?_eq_some.mp ho
  obtain ⟨-, -, rfl⟩ :=
    renameColumn_of_apart (fun _ => h.sameName_iff ht (ht hd).2.normalize_eq) hr
  refine ⟨hholds, h.ascending, fun row hrow => ?_⟩
  refine ⟨(h.meets row hrow).id, fun e he kind hk => ?_⟩
  rw [List.zip_map_left] at he
  obtain ⟨⟨c, cell⟩, hmem, rfl⟩ := List.mem_map.mp he
  have hc := (List.of_mem_zip hmem).1
  have hheld := (h.meets row hrow).cells _ hmem
  have hne : c.name ≠ new :=
    fun heq => hn (heq ▸ (h.mem_columnNames ht).mp (List.mem_map_of_mem hc))
  simp only [Prod.map_fst, Prod.map_snd, id_eq, SheetColumn.name_renamed] at hk ⊢
  split at hk
  · next heq =>
    -- The new name now tells the type that the old one told.
    rw [if_pos heq]
    rw [ht', if_pos rfl] at hk
    obtain rfl := Option.some.inj hk
    exact hP.renamed (hheld (old, type) (heq ▸ ho)) hp'
  · next hother =>
    rw [if_neg hother]
    rw [ht', if_neg hne, if_neg hother] at hk
    exact hheld kind hk

/-- A new row meets the demand. -/
theorem Meets.insert (h : s.Meets P t) (ht : t.WellFormed) (hP : Cell.Lasting P T)
    (hv : t.Writes T values) (htitle : "title" ∈ values.keys) (hmodified : "date_modified" ∈ values.keys)
    (hcells : Cell.ofValues (values.map (·.2)) = .ok cells)
    (hi : s.insert (values.keys.zip cells) = .ok (id, s')) : s'.Meets P t := by
  have hholds := h.toHolds.insert hi
  have hp : ∀ e ∈ (values.keys.zip cells).reverse, e ∈ values.keys.zip cells :=
    fun _ => List.mem_reverse.mp
  obtain ⟨hnext, hadmitted, rfl⟩ := insert_eq_ok hi
  rw [newId, h.key_not_assigned ht hv hcells hp] at hnext
  refine ⟨hholds, pairwise_insertRow h.ascending (free_of_admitRow hadmitted), fun row hrow => ?_⟩
  have hid := isStorable_nextId (fun row hrow => (h.meets row hrow).id) hnext
  rcases mem_insertRow hrow with rfl | hold
  · refine ⟨hid, fun e he kind hk => ?_⟩
    have hnew : s.columns.zip (s.columns.map (newCell id (values.keys.zip cells))) =
        s.columns.map fun c => (c, newCell id (values.keys.zip cells) c) := by
      rw [← List.zip_map', List.map_id']
    obtain ⟨c, hc, rfl⟩ := List.mem_map.mp (hnew ▸ he)
    exact h.meets_newCell ht hP hv htitle hmodified hcells hid hc hk
  · exact h.meets row hold

/-- Rows that have been changed meet the demand. -/
theorem Meets.update {key : Cell} {n : Nat} (h : s.Meets P t) (ht : t.WellFormed)
    (hP : Cell.Lasting P T) (hv : t.Writes T values)
    (hcells : Cell.ofValues (values.map (·.2)) = .ok cells)
    (hu : s.update key (values.keys.zip cells) = .ok (n, s')) : s'.Meets P t := by
  have hholds := h.toHolds.update hu
  -- The rows are changed one after another, and each comes back to where its id belongs.
  have hkept := update_invariant
    (P := fun rows => rows.Pairwise (·.id < ·.id) ∧ ∀ row ∈ rows, row.Meets P s.columns t) hu
    ⟨h.ascending, h.meets⟩ fun hrow hchanged hadmitted hrows => by
      refine ⟨pairwise_insertRow (hrows.1.filter _) (free_of_admitRow hadmitted), fun row' hrow' => ?_⟩
      rcases mem_insertRow hrow' with rfl | hold
      · exact h.meets_changedRow ht hP hv hcells hrow hchanged
      · exact hrows.2 row' (List.mem_of_mem_filter hold)
  exact ⟨hholds, hkept.1, columns_of_update hu ▸ hkept.2⟩

/-- That the rows of stored tables meet a demand that lasts goes on with the tables. -/
theorem Meets.lasting (hP : Cell.Lasting P T) : Lasting (Meets P) T where
  holds h := h.toHolds
  fresh name := ⟨freshSheet_holds name, .nil, fun _ hrow => nomatch hrow⟩
  named _ h := ⟨⟨h.nodup, h.mem, h.rows⟩, h.ascending, h.meets⟩
  congr := congr
  addColumn h ht hn hp := h.addColumn ht hn hp hP
  dropColumn := dropColumn
  renameColumn h ht ho hp hn hp' := h.renameColumn ht ho hp hn hp' hP
  insert h ht hv := h.insert ht hP hv
  update h ht hv := h.update ht hP hv
  delete key h := ⟨h.toHolds.delete key, h.ascending.filter _,
    fun row hrow => h.meets row (List.mem_filter.mp hrow).1⟩

/-- That the rows of stored tables fit the columns of a table lasts, as long as times are positive. -/
theorem Filled.lasting : Lasting Filled (0 < ·) :=
  Meets.lasting Cell.Fits.lasting

/-- The cell that a row holds in a column meets the demand. -/
theorem Meets.exists_cell (h : s.Meets P t) (ht : t.WellFormed) {row : Row} (hrow : row ∈ s.rows)
    (hd : t.columns.get? name = some d) :
    ∃ cell, (s.fields row).get? name = some cell ∧ P row.id cell name d.type := by
  obtain ⟨cell, hcell, -⟩ := h.lookup ht.isNamed hrow hd
  refine ⟨cell, hcell, ?_⟩
  have hmem := Fields.mem_of_get? hcell
  rw [Sheet.fields, columnNames, List.zip_map_left] at hmem
  obtain ⟨⟨c, held⟩, hheld, heq⟩ := List.mem_map.mp hmem
  obtain ⟨rfl, rfl⟩ := Prod.ext_iff.mp heq
  exact (h.meets row hrow).cells _ hheld (d.name, d.type)
    (Table.kind?_eq_some.mpr ⟨d, hd, rfl, rfl⟩)

end Storage.Sheet

end Cabinet

import Cabinet.Proofs.Storage.Database
import Cabinet.Proofs.Storage.Filled
import Cabinet.Proofs.Storage.Numbers

/-!
What a row holds after values have been written in it, and which rows a stored table has then.
-/

namespace Cabinet

open Storage

variable {s s' : Sheet} {t : Table} {c : SheetColumn} {cell : Cell} {v : Value}
  {name : String} {position : Nat} {id n : Int} {values : Fields Value} {cells : List Cell}
  {pairs : List (String × Cell)} {T : Int → Prop} {row : Row} {rows before after : List Row}

/-- A value is stored in one form, wherever in a statement it stands. -/
theorem Storage.given_eq (h : Cell.ofValue position v = .ok cell) : Storage.given v = cell := by
  have hfirst : Cell.ofValue 1 v = .ok cell := by
    cases v with
    | list | object => simp [Cell.ofValue] at h
    | float x => cases x <;> exact h
    | _ => exact h
  rw [Storage.given, hfirst]
  rfl

/-- No value is stored as a NaN. -/
theorem Storage.given_ne_nan (v : Value) : Storage.given v ≠ .real .nan := by
  intro h
  cases v with
  | int n =>
    rw [Storage.given, Cell.ofValue] at h
    split at h <;> cases h
  | float x => cases x <;> cases h
  | _ => cases h

theorem Storage.Cell.shrink_ne_nan {x : Binary64} (hx : x ≠ .nan) : shrink x ≠ .real .nan := by
  have hreal : Cell.real x ≠ .real .nan := fun heq => hx (Cell.real.inj heq)
  unfold shrink
  split
  · split
    · exact nofun
    · exact hreal
  · exact hreal

/-- No text is read as a NaN. -/
theorem Storage.Cell.unsigned?_ne_nan (negative : Bool) (s : List Char) :
    unsigned? negative s ≠ some (.real .nan) := by
  have hread : ∀ {digits : Nat} {exponent : Int},
      some (Cell.real (.ofDecimal negative digits exponent)) ≠ some (.real .nan) :=
    fun heq => Binary64.ofDecimal_ne_nan _ _ _ (Cell.real.inj (Option.some.inj heq))
  fun_cases unsigned? negative s <;> grind

theorem Storage.Cell.asNumber_ne_nan (h : cell ≠ .real .nan) : cell.asNumber ≠ .real .nan := by
  cases cell with
  | text s =>
    rw [asNumber]
    split
    · next x hx => exact shrink_ne_nan fun heq => unsigned?_ne_nan _ _ (heq ▸ hx)
    · next c _ hc => exact fun heq => unsigned?_ne_nan _ _ (heq ▸ hc)
    · exact nofun
  | _ => exact h

/-- No column makes a NaN of what is put into it. -/
theorem Storage.Cell.convert_ne_nan (h : cell ≠ .real .nan) (affinity : Affinity) :
    cell.convert affinity ≠ .real .nan := by
  have hshrunk : ∀ {c : Cell}, c ≠ .real .nan → c.shrunk ≠ .real .nan := by
    intro c hc
    cases c with
    | real x => exact shrink_ne_nan fun heq => hc (congrArg Cell.real heq)
    | _ => exact hc
  cases affinity with
  | text => cases cell <;> exact nofun
  | integer | numeric => exact hshrunk (asNumber_ne_nan h)
  | real =>
    have hkept := hshrunk (asNumber_ne_nan h)
    rw [convert]
    generalize cell.asNumber.shrunk = c at hkept
    cases c with
    | integer n => exact fun heq => Binary64.ofQuotient_ne_nan _ _ _ (Cell.real.inj heq)
    | _ => exact hkept
  | none => exact h

/-- Values under normal names, each of which is there once, and none is that of the key. -/
structure Fields.SparesKey (values : Fields Value) : Prop where
  nodup : values.keys.Nodup
  normal : ∀ name ∈ values.keys, Name.IsNormal name
  free : "id" ∉ values.keys

theorem Table.Writes.sparesKey (h : t.Writes T values) (ht : t.WellFormed) (hd : values.keys.Nodup) :
    values.SparesKey := by
  refine ⟨hd, fun name hname => ?_, h.id_not_mem ht⟩
  obtain ⟨e, he, rfl⟩ := List.mem_map.mp hname
  obtain ⟨d, hd, -⟩ := h e he
  exact (ht.named hd).2

/-- The values of a statement that runs can be stored. -/
theorem Storage.Cell.exists_ofValue (h : ofValuesFrom position (values.map (·.2)) = .ok cells)
    {e : String × Value} (he : e ∈ values) :
    ∃ position, ofValue position e.2 = .ok (Storage.given e.2) := by
  induction values generalizing position cells with
  | nil => simp at he
  | cons entry rest ih =>
    simp only [List.map_cons, ofValuesFrom, bind_eq_ok_iff] at h
    obtain ⟨first, hfirst, others, hothers, -⟩ := h
    rcases List.mem_cons.mp he with rfl | he
    · exact ⟨position, by rw [Storage.given_eq hfirst, hfirst]⟩
    · exact ih hothers he

/-- A row takes values: it holds them in their columns, each in the form in which the column keeps it,
and in the other columns what would be there without them. -/
structure Storage.Sheet.Takes (s : Sheet) (values : Fields Value) (base : SheetColumn → Option Cell)
    (row : Fields Cell) : Prop where
  columns : ∀ key ∈ values.keys, ∃ c ∈ s.columns, c.name = key
  storable : ∀ e ∈ values, ∃ position, Cell.ofValue position e.2 = .ok (Storage.given e.2)
  cells : ∀ c ∈ s.columns, row.get? c.name =
    match values.get? c.name with
    | some v => some ((Storage.given v).convert c.affinity)
    | none => base c

namespace Storage.Sheet

/-! Cells of a row -/

/-- Where storage tells names apart, what is assigned in a column is what stands beside its name. -/
theorem assigned?_eq_some_iff (hsame : ∀ e ∈ pairs, sameName e.1 c.name = true ↔ c.name = e.1)
    (hd : (pairs.map (·.1)).Nodup) : assigned? c pairs = some cell ↔ (c.name, cell) ∈ pairs := by
  have hmem : ∀ {cell}, assigned? c pairs = some cell → (c.name, cell) ∈ pairs := by
    intro cell ha
    obtain ⟨name, hpair, hname⟩ := exists_of_assigned? ha
    rwa [(hsame _ hpair).mp hname]
  refine ⟨hmem, fun hpair => ?_⟩
  cases ha : assigned? c pairs with
  | none => exact absurd (List.mem_map_of_mem hpair) (not_mem_of_assigned? ha)
  | some held =>
    have hget := (Fields.get?_eq_some_iff hd).mpr hpair
    have hget' := (Fields.get?_eq_some_iff hd).mpr (hmem ha)
    exact hget'.symm.trans hget

section Cells

variable (h : s.Regular)

include h

/-- A row whose cells come from the columns has them by the names of the columns. -/
theorem Regular.get?_map (g : SheetColumn → Cell) (hc : c ∈ s.columns) :
    (s.fields ⟨id, s.columns.map g⟩).get? c.name = some (g c) := by
  have hfields : s.fields ⟨id, s.columns.map g⟩ = s.columns.map fun c => (c.name, g c) := by
    rw [fields, columnNames, List.zip_map']
  have hkeys : Fields.keys (s.fields ⟨id, s.columns.map g⟩) = s.columnNames := by
    rw [hfields, Fields.keys, List.map_map]
    rfl
  rw [Fields.get?_eq_some_iff (hkeys ▸ h.nodup), hfields]
  exact List.mem_map.mpr ⟨c, hc, rfl⟩

/-- A row whose cells come from those of another has them by the names of the columns. -/
theorem Regular.get?_zip (id : Int) (hrow : row ∈ s.rows) (g : SheetColumn → Cell → Cell)
    (hc : c ∈ s.columns) :
    ∃ held, (c, held) ∈ s.columns.zip row.cells ∧ (s.fields row).get? c.name = some held ∧
      (s.fields ⟨id, (s.columns.zip row.cells).map fun (c, held) => g c held⟩).get? c.name =
        some (g c held) := by
  have hfst : (s.columns.zip row.cells).map (·.1) = s.columns :=
    List.map_fst_zip (Nat.le_of_eq (h.rows row hrow).symm)
  have hnames : s.columnNames = (s.columns.zip row.cells).map fun e => e.1.name := by
    have hmapped := congrArg (List.map SheetColumn.name) hfst
    rw [List.map_map] at hmapped
    exact hmapped.symm
  have hget : ∀ (other : Row) (f : SheetColumn × Cell → Cell),
      other.cells = (s.columns.zip row.cells).map f → ∀ e ∈ s.columns.zip row.cells,
        (s.fields other).get? e.1.name = some (f e) := by
    intro other f hcells e he
    have hfields : s.fields other = (s.columns.zip row.cells).map fun e => (e.1.name, f e) := by
      rw [fields, hcells, hnames, List.zip_map']
    have hkeys : Fields.keys (s.fields other) = s.columnNames := by
      rw [hfields, hnames, Fields.keys, List.map_map]
      rfl
    rw [Fields.get?_eq_some_iff (hkeys ▸ h.nodup), hfields]
    exact List.mem_map_of_mem (f := fun e : SheetColumn × Cell => (e.1.name, f e)) he
  obtain ⟨⟨d, held⟩, hmem, rfl⟩ := List.mem_map.mp (hfst ▸ hc)
  have hsnd : (s.columns.zip row.cells).map (·.2) = row.cells :=
    List.map_snd_zip (Nat.le_of_eq (h.rows row hrow))
  exact ⟨held, hmem, hget row (·.2) hsnd.symm _ hmem, hget ⟨id, _⟩ (fun e => g e.1 e.2) rfl _ hmem⟩

/-- A row holds its id. -/
theorem Regular.get?_id (hrow : row ∈ s.rows) : (s.fields row).get? "id" = some (.integer row.id) := by
  obtain ⟨c, hc, hname, hkey⟩ : ∃ c ∈ (freshSheet "").columns, c.name = "id" ∧ c.isKey = true := by
    decide
  obtain ⟨held, hmem, hget, -⟩ := h.get?_zip 0 hrow (fun _ held => held) (h.first c hc)
  rw [← hname, hget, ← h.ids row hrow _ hmem hkey]

/-- Storage knows a row by its id. -/
theorem Regular.isCalled_eq (hrow : row ∈ s.rows) :
    s.isCalled (.integer n) row = decide (row.id = n) := by
  obtain ⟨c, hc, hname, haffinity⟩ : ∃ c ∈ (freshSheet "").columns, c.name = "id" ∧
      c.affinity = .integer := by
    decide
  have hmem := h.first c hc
  have hid : Name.normalize "id" = "id" := hname ▸ (h.normal c hmem).normalize_eq
  obtain ⟨d, hd, hdn, cell, hlookup, hfind⟩ := exists_cell (h.rows row hrow)
    (fun c hc => h.sameName_iff hid hc) (hname ▸ List.mem_map_of_mem hmem)
  obtain rfl := h.eq_of_name hmem hd (hname.trans hdn.symm)
  obtain rfl : Cell.integer row.id = cell := Option.some.inj ((h.get?_id hrow).symm.trans hlookup)
  have hcompare : compareCells .equal .integer (.integer row.id) (.integer n) =
      some (compare row.id n == .eq) := rfl
  rw [isCalled, Sheet.lookup, hfind]
  simp only [haffinity, hcompare]
  by_cases heq : row.id = n
  · simp [heq]
  · simp [heq]

section Written

variable (hv : values.SparesKey)

include hv

/-- No statement of the library assigns the key. -/
theorem Regular.key_not_assigned (hp : ∀ e ∈ pairs, e ∈ values.keys.zip cells) :
    ((s.columns.find? (·.isKey)).bind (assigned? · pairs)) = none := by
  refine Option.bind_eq_none_iff.mpr fun c hc => Option.eq_none_iff_forall_ne_some.mpr fun cell ha => ?_
  have hmem := List.mem_of_find?_eq_some hc
  have hid := (h.isKey_iff hmem).mp (by simpa using List.find?_some hc)
  obtain ⟨name, hpair, hsame⟩ := exists_of_assigned? ha
  have hname := (List.of_mem_zip (hp _ hpair)).1
  have heq := (h.sameName_iff (hv.normal name hname).normalize_eq hmem).mp hsame
  exact hv.free (hid ▸ heq ▸ hname)

variable (hcells : Cell.ofValues (values.map (·.2)) = .ok cells)

include hcells

/-- What a statement assigns in a column is what it gives for the name. -/
theorem Regular.assigned?_given (hp : pairs.Perm (values.keys.zip cells))
    (hc : c ∈ s.columns) : assigned? c pairs = (values.get? c.name).map given := by
  have hkeys : (values.keys.zip cells).map (·.1) = values.keys :=
    List.map_fst_zip (by simp [Fields.keys, Cell.length_ofValues hcells])
  have hperm : (pairs.map (·.1)).Perm values.keys := hkeys ▸ hp.map (·.1)
  have hsame : ∀ e ∈ pairs, sameName e.1 c.name = true ↔ c.name = e.1 := fun e he =>
    h.sameName_iff (hv.normal _ (hperm.mem_iff.mp (List.mem_map_of_mem he))).normalize_eq hc
  have hassigned : ∀ {cell}, assigned? c pairs = some cell ↔ (c.name, cell) ∈ pairs :=
    assigned?_eq_some_iff hsame (hperm.nodup_iff.mpr hv.nodup)
  cases hget : values.get? c.name with
  | some v =>
    obtain ⟨⟨name, cell⟩, hpair, rfl : name = c.name⟩ := List.mem_map.mp
      (hkeys ▸ Fields.mem_keys hget)
    obtain ⟨v', position, hentry, hcell⟩ := Cell.exists_of_mem_zip hcells hpair
    obtain rfl : v = v' :=
      Option.some.inj (hget.symm.trans ((Fields.get?_eq_some_iff hv.nodup).mpr hentry))
    rw [Option.map_some, given_eq hcell]
    exact hassigned.mpr (hp.mem_iff.mpr hpair)
  | none =>
    refine Option.eq_none_iff_forall_ne_some.mpr fun cell ha => ?_
    have hkey := hperm.mem_iff.mp (List.mem_map_of_mem (f := (·.1)) (hassigned.mp ha))
    exact Fields.get?_eq_none_iff.mp hget hkey

/-- What a new row holds in a column: its id, or what is given for the name, or else the default. -/
theorem Regular.newCell_eq (hc : c ∈ s.columns) :
    newCell id (values.keys.zip cells) c = if c.name = "id" then .integer id
      else (((values.get? c.name).map given).getD c.default).convert c.affinity := by
  rw [newCell, h.assigned?_given hv hcells (.refl _) hc]
  exact if_congr (h.isKey_iff hc) rfl rfl

/-- What a row holds in a column after a change: its id, or what is given for the name, or else what it
held before. -/
theorem Regular.changedCell_eq (hc : c ∈ s.columns) (held : Cell) :
    changedCell id (values.keys.zip cells) c held = if c.name = "id" then .integer id
      else ((values.get? c.name).map fun v => (given v).convert c.affinity).getD held := by
  rw [changedCell, h.assigned?_given hv hcells (List.reverse_perm _) hc, Option.map_map]
  exact if_congr (h.isKey_iff hc) rfl rfl

theorem Regular.newCell_ne_nan (hc : c ∈ s.columns) :
    newCell id (values.keys.zip cells) c ≠ .real .nan := by
  have hfresh : ∀ c ∈ (freshSheet "").columns, c.default ≠ .real .nan := by decide
  have hdefault : c.default ≠ .real .nan := by
    rcases h.column_cases hc with hmem | ⟨-, -, hnull⟩
    · exact hfresh c hmem
    · rw [hnull]
      exact nofun
  rw [h.newCell_eq hv hcells hc]
  split
  · exact nofun
  · refine Cell.convert_ne_nan ?_ _
    cases values.get? c.name with
    | none => exact hdefault
    | some v => exact given_ne_nan v

theorem Regular.changedCell_ne_nan (hc : c ∈ s.columns) {held : Cell} (hheld : held ≠ .real .nan) :
    changedCell id (values.keys.zip cells) c held ≠ .real .nan := by
  rw [h.changedCell_eq hv hcells hc]
  split
  · exact nofun
  · cases values.get? c.name with
    | none => exact hheld
    | some v => exact Cell.convert_ne_nan (given_ne_nan v) _

end Written

end Cells

/-! Rows of a table -/

/-- A row has its place among others, in the order of the ids. -/
theorem insertRow_between {new : Row} (hbefore : ∀ other ∈ before, other.id < new.id)
    (hafter : ∀ other ∈ after, new.id < other.id) :
    insertRow new (before ++ after) = before ++ new :: after := by
  induction before with
  | nil =>
    cases after with
    | nil => rfl
    | cons r rest => exact if_pos (hafter r List.mem_cons_self)
  | cons r rest ih =>
    obtain ⟨hr, hrest⟩ := List.forall_mem_cons.mp hbefore
    rw [List.cons_append, insertRow, if_neg (Int.not_lt.mpr (Int.le_of_lt hr)), ih hrest,
      List.cons_append]

section Split

variable {p : Row → Bool} (hbefore : ∀ other ∈ before, other.id < row.id)
  (hafter : ∀ other ∈ after, row.id < other.id)

include hbefore hafter

/-- A row is the only one with its id. -/
theorem filter_same (hp : ∀ other ∈ before ++ row :: after, p other = true ↔ other.id = row.id) :
    (before ++ row :: after).filter p = [row] := by
  have hbefore' : before.filter p = [] := List.filter_eq_nil_iff.mpr fun other hother heq =>
    Int.ne_of_lt (hbefore other hother) ((hp other (List.mem_append_left _ hother)).mp heq)
  have hafter' : after.filter p = [] := List.filter_eq_nil_iff.mpr fun other hother heq =>
    Int.ne_of_gt (hafter other hother)
      ((hp other (List.mem_append_right _ (List.mem_cons_of_mem row hother))).mp heq)
  rw [List.filter_append, List.filter_cons_of_pos ((hp row (by simp)).mpr rfl), hbefore', hafter',
    List.nil_append]

/-- All rows but one have other ids. -/
theorem filter_others (hp : ∀ other ∈ before ++ row :: after, p other = true ↔ other.id ≠ row.id) :
    (before ++ row :: after).filter p = before ++ after := by
  have hbefore' : before.filter p = before := List.filter_eq_self.mpr fun other hother =>
    (hp other (List.mem_append_left _ hother)).mpr (Int.ne_of_lt (hbefore other hother))
  have hafter' : after.filter p = after := List.filter_eq_self.mpr fun other hother =>
    (hp other (List.mem_append_right _ (List.mem_cons_of_mem row hother))).mpr
      (Int.ne_of_gt (hafter other hother))
  rw [List.filter_append, List.filter_cons_of_neg fun heq => (hp row (by simp)).mp heq rfl, hbefore',
    hafter']

end Split

section Statements

variable (h : s.Regular)

include h

/-- The rows that go by an id: none, or the one that has it. -/
theorem Regular.called_cases (n : Int) : s.rows.filter (s.isCalled (.integer n)) = [] ∨
    ∃ before row after, s.rows = before ++ row :: after ∧ row.id = n ∧
      (∀ other ∈ before, other.id < row.id) ∧ (∀ other ∈ after, row.id < other.id) ∧
      s.rows.filter (s.isCalled (.integer n)) = [row] := by
  rcases hcalled : s.rows.filter (s.isCalled (.integer n)) with - | ⟨row, rest⟩
  · exact .inl rfl
  obtain ⟨hmem, hid⟩ := List.mem_filter.mp
    (hcalled ▸ List.mem_cons_self : row ∈ s.rows.filter (s.isCalled (.integer n)))
  obtain rfl : row.id = n := by simpa [h.isCalled_eq hmem] using hid
  obtain ⟨before, after, hrows⟩ := List.append_of_mem hmem
  obtain ⟨-, hlater, hbetween⟩ := List.pairwise_append.mp (hrows ▸ h.ascending)
  have hbefore : ∀ other ∈ before, other.id < row.id :=
    fun other hother => hbetween other hother row List.mem_cons_self
  have hafter : ∀ other ∈ after, row.id < other.id := (List.pairwise_cons.mp hlater).1
  have hsame := filter_same (p := s.isCalled (.integer row.id)) hbefore hafter fun other hother => by
    rw [h.isCalled_eq (hrows ▸ hother), decide_eq_true_eq]
  exact .inr ⟨before, row, after, hrows, rfl, hbefore, hafter, hcalled ▸ hrows ▸ hsame⟩

/-- The next id is above all that were ever given. -/
theorem Regular.nextId_eq (hn : s.nextId = .ok id) : id = s.counter + 1 := by
  have hlast : s.lastId.getD 0 ≤ s.counter := by
    cases hlast : s.rows.getLast? with
    | none =>
      rw [lastId, hlast]
      exact h.counter
    | some row =>
      rw [lastId, hlast]
      exact h.below row (List.mem_of_getLast? hlast)
  simp only [nextId, h.counted, if_true, Int.max_eq_right hlast] at hn
  split at hn
  · exact (Except.ok.inj hn).symm
  · simp at hn

/-- A new row comes last, under the next id. -/
theorem Regular.insert_eq (hv : values.SparesKey) (hi : s.insert (values.keys.zip cells) = .ok (id, s')) :
    id = s.counter + 1 ∧ s' = { s with
      rows := s.rows ++ [⟨id, s.columns.map (newCell id (values.keys.zip cells))⟩]
      counter := id } := by
  have hp : ∀ e ∈ (values.keys.zip cells).reverse, e ∈ values.keys.zip cells :=
    fun _ => List.mem_reverse.mp
  obtain ⟨hnext, -, rfl⟩ := insert_eq_ok hi
  rw [newId, h.key_not_assigned hv hp] at hnext
  have hid := h.nextId_eq hnext
  have hlast (new : Row) (hnew : new.id = id) : insertRow new (s.rows ++ []) = s.rows ++ [new] :=
    insertRow_between (fun row hrow => by have := h.below row hrow; omega) (by simp)
  refine ⟨hid, ?_⟩
  rw [← hlast ⟨id, _⟩ rfl, List.append_nil, Int.max_eq_right (by omega)]

/-- Where a row goes by an id, that one is changed. -/
theorem Regular.update_cases {k : Nat} (hv : values.SparesKey)
    (hu : s.update (.integer n) (values.keys.zip cells) = .ok (k, s')) : k = 0 ∧ s' = s ∨
      ∃ before row after, s.rows = before ++ row :: after ∧ row.id = n ∧ s' = { s with
        rows := before ++ ⟨n, (s.columns.zip row.cells).map fun (c, held) =>
          changedCell n (values.keys.zip cells) c held⟩ :: after } := by
  have hp : ∀ e ∈ (values.keys.zip cells).reverse, e ∈ values.keys.zip cells :=
    fun _ => List.mem_reverse.mp
  simp only [Sheet.update, bind_eq_ok_iff] at hu
  obtain ⟨rows, hrows, hu⟩ := hu
  obtain ⟨rfl, rfl⟩ := Prod.ext_iff.mp (Except.ok.inj hu)
  rcases h.called_cases n with hnone | ⟨before, row, after, hsplit, rfl, hbefore, hafter, hone⟩
  · rw [hnone] at hrows
    obtain rfl := Except.ok.inj hrows
    exact .inl ⟨congrArg List.length hnone, rfl⟩
  refine .inr ⟨before, row, after, hsplit, rfl, ?_⟩
  have hothers := filter_others (p := fun other => other.id != row.id) hbefore hafter
    fun other _ => bne_iff_ne
  rw [hone] at hrows
  simp only [List.foldlM_cons, List.foldlM_nil, bind_eq_ok_iff, changedRow,
    h.key_not_assigned hv hp, hsplit, hothers] at hrows
  obtain ⟨rows', ⟨changed, ⟨id, hid, hchanged⟩, -, -, hstep⟩, hrows⟩ := hrows
  obtain rfl := Except.ok.inj hid
  obtain rfl := Except.ok.inj hchanged
  obtain rfl := Except.ok.inj hstep
  obtain rfl := Except.ok.inj hrows
  exact congrArg (fun rows => ({ s with rows } : Sheet)) (insertRow_between hbefore hafter)

/-- Where a row goes by an id, that one is dropped. -/
theorem Regular.delete_cases (n : Int) : s.delete (.integer n) = (0, s) ∨
    ∃ before row after, s.rows = before ++ row :: after ∧ row.id = n ∧
      s.delete (.integer n) = (1, { s with rows := before ++ after }) := by
  have hcalled : ∀ row ∈ s.rows, (!s.isCalled (.integer n) row) = true ↔ row.id ≠ n :=
    fun row hrow => by simp [h.isCalled_eq hrow]
  rw [Sheet.delete]
  rcases h.called_cases n with hnone | ⟨before, row, after, hsplit, rfl, hbefore, hafter, hone⟩
  · have hall : s.rows.filter (fun row => !s.isCalled (.integer n) row) = s.rows :=
      List.filter_eq_self.mpr fun row hrow => by simpa using List.filter_eq_nil_iff.mp hnone row hrow
    exact .inl (by rw [hnone, hall]; rfl)
  · have hothers := filter_others hbefore hafter (hsplit ▸ hcalled)
    refine .inr ⟨before, row, after, hsplit, rfl, ?_⟩
    rw [hone, hsplit, hothers]
    rfl

/-- Rows may come and go as long as they hold their ids, which have been counted, and no NaN. -/
theorem Regular.with_rows {counter : Int} (hle : s.counter ≤ counter)
    (hrows : ∀ row ∈ rows, row ∈ s.rows ∨ row.id ≤ counter ∧ row.cells.length = s.columns.length ∧
      (∀ e ∈ s.columns.zip row.cells, e.1.isKey = true → e.2 = .integer row.id) ∧
      ∀ cell ∈ row.cells, cell ≠ .real .nan)
    (hascending : rows.Pairwise (·.id < ·.id)) : { s with rows, counter }.Regular where
  nodup := h.nodup
  normal := h.normal
  first := h.first
  others := h.others
  rows row hrow := (hrows row hrow).elim (h.rows row) (·.2.1)
  ids row hrow := (hrows row hrow).elim (h.ids row) (·.2.2.1)
  numbers row hrow := (hrows row hrow).elim (h.numbers row) (·.2.2.2)
  ascending := hascending
  counted := h.counted
  counter := Int.le_trans h.counter hle
  below row hrow := (hrows row hrow).elim (fun hold => Int.le_trans (h.below row hold) hle) (·.1)

theorem Regular.insert (hv : values.SparesKey) (hcells : Cell.ofValues (values.map (·.2)) = .ok cells)
    (hi : s.insert (values.keys.zip cells) = .ok (id, s')) : s'.Regular := by
  obtain ⟨hid, rfl⟩ := h.insert_eq hv hi
  refine h.with_rows (by omega) (fun row hrow => (List.mem_append.mp hrow).imp_right fun hnew => ?_) ?_
  · obtain rfl := List.mem_singleton.mp hnew
    refine ⟨Int.le_refl id, List.length_map _, fun e he hkey => ?_, fun cell hcell => ?_⟩
    swap
    · obtain ⟨c, hc, rfl⟩ := List.mem_map.mp hcell
      exact h.newCell_ne_nan hv hcells hc
    have hzip : s.columns.zip (s.columns.map (newCell id (values.keys.zip cells))) =
        s.columns.map fun c => (c, newCell id (values.keys.zip cells) c) := by
      rw [← List.zip_map', List.map_id']
    obtain ⟨c, -, rfl⟩ := List.mem_map.mp (hzip ▸ he)
    exact if_pos hkey
  · refine List.pairwise_append.mpr ⟨h.ascending, List.pairwise_singleton _ _, fun row hrow new hnew => ?_⟩
    obtain rfl := List.mem_singleton.mp hnew
    have := h.below row hrow
    dsimp only
    omega

theorem Regular.update {k : Nat} (hv : values.SparesKey)
    (hcells : Cell.ofValues (values.map (·.2)) = .ok cells)
    (hu : s.update (.integer n) (values.keys.zip cells) = .ok (k, s')) : s'.Regular := by
  rcases h.update_cases hv hu with ⟨-, rfl⟩ | ⟨before, row, after, hsplit, rfl, rfl⟩
  · exact h
  have hrow : row ∈ s.rows := hsplit ▸ List.mem_append_right _ List.mem_cons_self
  refine h.with_rows (Int.le_refl _) (fun other hother => ?_) ?_
  · rcases List.mem_append.mp hother with hin | hin
    · exact .inl (hsplit ▸ List.mem_append_left _ hin)
    rcases List.mem_cons.mp hin with rfl | hin
    · refine .inr ⟨h.below row hrow, by simp [h.rows row hrow], fun e he hkey => ?_, fun cell hcell => ?_⟩
      swap
      · obtain ⟨⟨c, held⟩, hmem, rfl⟩ := List.mem_map.mp hcell
        obtain ⟨hc, hheld⟩ := List.of_mem_zip hmem
        exact h.changedCell_ne_nan hv hcells hc (h.numbers row hrow held hheld)
      have hfst : (s.columns.zip row.cells).map (·.1) = s.columns :=
        List.map_fst_zip (Nat.le_of_eq (h.rows row hrow).symm)
      have hzip : s.columns.zip ((s.columns.zip row.cells).map fun e =>
          changedCell row.id (values.keys.zip cells) e.1 e.2) = (s.columns.zip row.cells).map fun e =>
            (e.1, changedCell row.id (values.keys.zip cells) e.1 e.2) := by
        rw [← List.zip_map', hfst]
      obtain ⟨⟨c, held⟩, -, rfl⟩ := List.mem_map.mp (hzip ▸ he)
      exact if_pos hkey
    · exact .inl (hsplit ▸ List.mem_append_right _ (List.mem_cons_of_mem row hin))
  · -- The ids are the same as before, one after another.
    have hids := List.pairwise_map.mpr (hsplit ▸ h.ascending)
    rw [List.map_append, List.map_cons] at hids
    exact List.pairwise_map.mp (by rwa [List.map_append, List.map_cons])

theorem Regular.delete (n : Int) : (s.delete (.integer n)).2.Regular := by
  rcases h.delete_cases n with hnone | ⟨before, row, after, hsplit, -, hone⟩
  · rw [hnone]
    exact h
  have hsublist : (before ++ after).Sublist s.rows :=
    hsplit ▸ List.Sublist.append_left (List.sublist_cons_self row after) before
  rw [hone]
  exact h.with_rows (Int.le_refl _) (fun other hother => .inl (hsublist.mem hother))
    (h.ascending.sublist hsublist)

/-- The columns that values are given for are there. -/
theorem Regular.exists_column (hv : values.SparesKey)
    (hthere : ∀ key ∈ values.keys, s.hasColumn key = true) :
    ∀ key ∈ values.keys, ∃ c ∈ s.columns, c.name = key := by
  intro key hkey
  obtain ⟨c, hc, hsame⟩ := List.any_eq_true.mp (hthere key hkey)
  exact ⟨c, hc, (h.sameName_iff (hv.normal key hkey).normalize_eq hc).mp hsame⟩

end Statements

end Storage.Sheet

namespace Storage.Database

variable {db db' : Database} {k : Nat}

/-- What a statement that inserts a row does: it comes last, under the next id, and takes what is given. -/
theorem Regular.insert_eq_ok (h : db.Regular) (hv : values.SparesKey)
    (hi : db.insert name values = .ok (id, db')) :
    ∃ s cells, db.find? name = some s ∧ id = s.counter + 1 ∧
      s.Takes values
        (fun c => some (if c.name = "id" then .integer id else c.default.convert c.affinity))
        (s.fields ⟨id, cells⟩) ∧
      db' = db.replace name { s with rows := s.rows ++ [⟨id, cells⟩], counter := id } ∧
      Sheet.Regular { s with rows := s.rows ++ [⟨id, cells⟩], counter := id } := by
  obtain ⟨s, cells, s', hs, hthere, hcells, hs', rfl⟩ := Database.insert_eq_ok hi
  have hregular := h.of_find? (find_eq_ok.mp hs)
  have hkept := hregular.insert hv hcells hs'
  obtain ⟨hid, rfl⟩ := hregular.insert_eq hv hs'
  refine ⟨s, _, find_eq_ok.mp hs, hid, ⟨hregular.exists_column hv hthere,
    fun e he => Cell.exists_ofValue hcells he, fun c hc => ?_⟩, rfl, hkept⟩
  rw [hregular.get?_map _ hc, hregular.newCell_eq hv hcells hc]
  split
  · next hname =>
    rw [Fields.get?_eq_none_iff.mpr fun hkey => hv.free (hname ▸ hkey)]
  · cases values.get? c.name <;> rfl

/-- What a statement that updates a row does: the row takes what is given, and is as it was otherwise. -/
theorem Regular.update_eq_ok (h : db.Regular) (hv : values.SparesKey)
    (hu : db.update name n values = .ok (k, db')) (hk : k ≠ 0) :
    ∃ s before old after cells, db.find? name = some s ∧ s.rows = before ++ old :: after ∧ old.id = n ∧
      s.Takes values (fun c => (s.fields old).get? c.name) (s.fields ⟨n, cells⟩) ∧
      db' = db.replace name { s with rows := before ++ ⟨n, cells⟩ :: after } ∧
      Sheet.Regular { s with rows := before ++ ⟨n, cells⟩ :: after } := by
  obtain ⟨s, cells, key, position, s', hs, hthere, hcells, hkey, hs', rfl⟩ := Database.update_eq_ok hu
  have hregular := h.of_find? (find_eq_ok.mp hs)
  obtain ⟨-, rfl⟩ := Column.ofValue_int hkey
  have hkept := hregular.update hv hcells hs'
  obtain ⟨before, old, after, hsplit, hid, rfl⟩ :=
    (hregular.update_cases hv hs').resolve_left fun hno => hk hno.1
  have hold : old ∈ s.rows := hsplit ▸ List.mem_append_right _ List.mem_cons_self
  refine ⟨s, before, old, after, _, find_eq_ok.mp hs, hsplit, hid, ⟨hregular.exists_column hv hthere,
    fun e he => Cell.exists_ofValue hcells he, fun c hc => ?_⟩, rfl, hkept⟩
  obtain ⟨held, hmem, hheld, hchanged⟩ :=
    hregular.get?_zip n hold (Sheet.changedCell n (values.keys.zip cells)) hc
  rw [hchanged, hheld, hregular.changedCell_eq hv hcells hc]
  split
  · next hname =>
    have hnone : values.get? c.name = none :=
      Fields.get?_eq_none_iff.mpr fun hkey => hv.free (hname ▸ hkey)
    have hkeyed : held = .integer old.id :=
      hregular.ids old hold _ hmem ((hregular.isKey_iff hc).mpr hname)
    rw [hnone, hkeyed, hid]
  · cases values.get? c.name <;> rfl

/-- What a statement that deletes a row does. -/
theorem Regular.delete_eq_ok (h : db.Regular) (hd : db.delete name n = .ok (k, db')) (hk : k ≠ 0) :
    ∃ s before old after, db.find? name = some s ∧ s.rows = before ++ old :: after ∧ old.id = n ∧
      db' = db.replace name { s with rows := before ++ after } ∧
      Sheet.Regular { s with rows := before ++ after } := by
  obtain ⟨s, key, hs, hkey, rfl, rfl⟩ := Database.delete_eq_ok hd
  have hregular := h.of_find? (find_eq_ok.mp hs)
  obtain ⟨-, rfl⟩ := Column.ofValue_int hkey
  have hkept := hregular.delete n
  rcases hregular.delete_cases n with hnone | ⟨before, old, after, hsplit, hid, hone⟩
  · exact absurd (congrArg Prod.fst hnone) hk
  · rw [hone] at hkept ⊢
    exact ⟨s, before, old, after, find_eq_ok.mp hs, hsplit, hid, rfl, hkept⟩

theorem Regular.insert (h : db.Regular) (hv : values.SparesKey)
    (hi : db.insert name values = .ok (id, db')) : db'.Regular := by
  obtain ⟨s, cells, s', hs, -, hcells, hs', rfl⟩ := Database.insert_eq_ok hi
  have hfind := find_eq_ok.mp hs
  exact h.replace hfind ((h.of_find? hfind).insert hv hcells hs')
    ((h.admitted_of_find? hfind).congr (Sheet.name_of_insert hs') (Sheet.columns_of_insert hs'))
    (.inl (Sheet.name_of_insert hs'))

theorem Regular.update (h : db.Regular) (hv : values.SparesKey)
    (hu : db.update name n values = .ok (k, db')) : db'.Regular := by
  obtain ⟨s, cells, key, position, s', hs, -, hcells, hkey, hs', rfl⟩ := Database.update_eq_ok hu
  have hfind := find_eq_ok.mp hs
  obtain ⟨-, rfl⟩ := Column.ofValue_int hkey
  exact h.replace hfind ((h.of_find? hfind).update hv hcells hs')
    ((h.admitted_of_find? hfind).congr (Sheet.name_of_update hs') (Sheet.columns_of_update hs'))
    (.inl (Sheet.name_of_update hs'))

theorem Regular.delete (h : db.Regular) (hd : db.delete name n = .ok (k, db')) : db'.Regular := by
  obtain ⟨s, key, hs, hkey, -, rfl⟩ := Database.delete_eq_ok hd
  have hfind := find_eq_ok.mp hs
  obtain ⟨-, rfl⟩ := Column.ofValue_int hkey
  exact h.replace hfind ((h.of_find? hfind).delete n)
    ((h.admitted_of_find? hfind).congr rfl rfl) (.inl rfl)

end Storage.Database

end Cabinet

import Cabinet.Proofs.Search.Truth
import Cabinet.Proofs.Storage.Assigned

/-!
Statements about a row that is not there. They find nothing and change nothing as long as storage can
hold the number that they ask for, and fail otherwise.
-/

namespace Cabinet.Storage

variable {db : Database} {s : Sheet} {a b name : String} {n : Int} {values : Fields Value}
  {cells : List Cell} {row : Row}

theorem toNat_toLower_eq_zero_iff (c : Char) : c.toLower.toNat = 0 ↔ c.toNat = 0 := by
  unfold Char.toLower
  split
  · next h =>
    have hlow : 65 ≤ c.val.toNat := h.1
    have hhigh : c.val.toNat ≤ 90 := h.2
    have hshift : (c.val + ('a'.val - 'A'.val)).toNat = c.val.toNat + 32 := by
      rw [UInt32.toNat_add, show ('a'.val - 'A'.val).toNat = 32 by decide]
      omega
    simp only [Char.toNat, hshift]
    omega
  · rfl

/-- A statement may hold a name in the one case of the letters as in the other. -/
theorem admitTexts_of_sameName (h : sameName a b = true) (hb : admitTexts [b] = .ok ()) :
    admitTexts [a] = .ok () := by
  have hfold : ∀ s : String, admitTexts [s] = .ok () ↔
      ∀ c ∈ Text.foldAscii s.toList, c.toNat ≠ 0 := by
    intro s
    simp [admitTexts, Text.foldAscii, toNat_toLower_eq_zero_iff]
  rw [hfold] at hb ⊢
  rwa [sameName_iff.mp h]

/-- Nothing compares to what cannot be stored. -/
theorem compareCells_null (comparison : Comparison) (affinity : Affinity) (cell : Cell) :
    compareCells comparison affinity cell .null = none := by
  have hnull : Cell.convertForComparison affinity .null = .null := by cases affinity <;> rfl
  cases cell <;> simp [compareCells, hnull]

namespace Sheet

/-- A row of which the condition on its id holds goes by the id. -/
theorem isCalled_of_truth
    (h : (Condition.clause (.compare "id" .equal (.int n))).truth (s.lookup row) = some true) :
    s.isCalled (.integer n) row = true := by
  have hcompared : compareCells .equal (s.lookup row "id").1 (s.lookup row "id").2 (given (.int n)) =
      some true := h
  have hgiven : given (.int n) = if isStorable n then .integer n else .null := by
    rw [given, Cell.ofValue]
    split <;> rfl
  rw [hgiven] at hcompared
  split at hcompared
  · exact decide_eq_true hcompared
  · rw [compareCells_null] at hcompared
    cases hcompared

/-- A comparison never fails. -/
theorem select_compare (s : Sheet) (column : String) (comparison : Comparison) (v : Value) :
    s.select (.clause (.compare column comparison v)) = .ok (s.rows.filter fun row =>
      (Condition.clause (.compare column comparison v)).truth (s.lookup row) = some true) :=
  filterM_ok fun _ _ => rfl

section Absent

variable (h : s.Regular) (hno : ∀ row ∈ s.rows, row.id ≠ n)

include h hno

theorem Regular.called_of_absent : s.rows.filter (s.isCalled (.integer n)) = [] :=
  List.filter_eq_nil_iff.mpr fun row hrow => by simp [h.isCalled_eq hrow, hno row hrow]

/-- The condition on the id holds of no row. -/
theorem Regular.select_of_absent : s.select (.clause (.compare "id" .equal (.int n))) = .ok [] := by
  rw [select_compare]
  refine congrArg Except.ok (List.filter_eq_nil_iff.mpr fun row hrow htruth => hno row hrow ?_)
  simpa [h.isCalled_eq hrow] using isCalled_of_truth (of_decide_eq_true htruth)

theorem Regular.update_of_absent (pairs : List (String × Cell)) :
    s.update (.integer n) pairs = .ok (0, s) := by
  simp only [Sheet.update, h.called_of_absent hno]
  rfl

theorem Regular.delete_of_absent : s.delete (.integer n) = (0, s) := by
  rcases h.delete_cases n with hnone | ⟨before, row, after, hsplit, hid, -⟩
  · exact hnone
  · exact absurd hid (hno row (hsplit ▸ List.mem_append_right _ List.mem_cons_self))

end Absent

end Sheet

/-- Of columns that are there, none is missed. -/
theorem find?_unknown_eq_none (hthere : ∀ key ∈ values.keys, s.hasColumn key = true) :
    values.find? (fun (key, _) => !s.hasColumn key) = none :=
  List.find?_eq_none.mpr fun e he => by simp [hthere e.1 (List.mem_map_of_mem he)]

namespace Database

section Absent

variable (h : db.Regular) (hfind : db.find? name = some s) (hno : ∀ row ∈ s.rows, row.id ≠ n)

include h hfind

theorem Regular.admitTexts_name : admitTexts [name] = .ok () :=
  admitTexts_of_sameName (sameName_iff.mpr (of_find?_eq_some hfind).2) (h.admitted_of_find? hfind).named

include hno

/-- No row is found by its id. -/
theorem Regular.rowsById_of_absent :
    (Statement.rowsById name n).run db = if isStorable n then .ok [] else .error .integerTooLarge := by
  have hregular := h.of_find? hfind
  have horder : admitTexts [String.ofList (Search.RowOrder.byColumn "id" false).text] = .ok () := by
    decide
  have hconstant : admitTexts [String.ofList (Condition.clause (.compare "id" .equal .null)).text] =
      .ok () := by
    decide
  have htexts : admitTexts [name, String.ofList
      (Condition.clause (.compare "id" .equal (.int n))).text] = .ok () :=
    admitTexts_eq_ok.mpr (by simpa using ⟨h.admitTexts_name hfind, hconstant⟩)
  have hcondition : admitCondition (.clause (.compare "id" .equal (.int n))) = .ok () := rfl
  have hvalue : Cell.ofValues ((Condition.clause (.compare "id" .equal (.int n))).params ++
      windowValues none 0) = if isStorable n then .ok [.integer n] else .error .integerTooLarge := by
    rw [windowValues, if_pos rfl]
    simp only [Condition.params, Clause.params, List.append_nil, Cell.ofValues, Cell.ofValuesFrom, Cell.ofValue]
    split <;> rfl
  simp only [Statement.rowsById, Statement.query, Database.query, Database.prepare, horder, htexts,
    hcondition, find_eq_ok.mpr hfind, hvalue, ok_bind]
  split
  · simp only [ok_bind, pure_eq_ok, hregular.select_of_absent hno]
    simp [Sheet.sorted, window]
  · rfl

/-- Values are stored in no row. -/
theorem Regular.update_of_absent (hvalues : values ≠ [])
    (hthere : ∀ key ∈ values.keys, s.hasColumn key = true)
    (hcells : Cell.ofValues (values.map (·.2)) = .ok cells) :
    (Statement.update name n values).run db =
      if isStorable n then .ok (0, db.replace name s) else .error .integerTooLarge := by
  have hregular := h.of_find? hfind
  have hclean : ∀ key ∈ values.keys, admitTexts [key] = .ok () := by
    intro key hkey
    obtain ⟨c, hc, hsame⟩ := List.any_eq_true.mp (hthere key hkey)
    exact admitTexts_of_sameName hsame ((h.admitted_of_find? hfind).clean c hc)
  have htexts : admitTexts (name :: values.map (·.1)) = .ok () :=
    admitTexts_eq_ok.mpr (List.forall_mem_cons.mpr ⟨h.admitTexts_name hfind, hclean⟩)
  simp only [Statement.update, Database.update, htexts, List.isEmpty_iff, hvalues, if_false,
    find_eq_ok.mpr hfind, find?_unknown_eq_none hthere, hcells, Cell.ofValue, ok_bind]
  split
  · simp only [ok_bind, hregular.update_of_absent hno, pure_eq_ok]
  · rfl

/-- No row is dropped. -/
theorem Regular.delete_of_absent : (Statement.delete name n).run db =
    if isStorable n then .ok (0, db.replace name s) else .error .integerTooLarge := by
  simp only [Statement.delete, Database.delete, h.admitTexts_name hfind, find_eq_ok.mpr hfind,
    Cell.ofValue, ok_bind]
  split
  · simp only [ok_bind, (h.of_find? hfind).delete_of_absent hno, pure_eq_ok]
  · rfl

end Absent

end Database

end Cabinet.Storage

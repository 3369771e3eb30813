import Cabinet.Proofs.Number.Exact
import Cabinet.Proofs.Storage.Assigned
import Cabinet.Proofs.Storage.Contents
import Mathlib.Data.Char
import Mathlib.Data.List.Lex
import Mathlib.Data.Prod.Lex

/-!
The order of stored values, and that of rows by what they hold in a column: nothing comes first, then
numbers by their values, then texts by their characters; what is equal stays in the order of the ids.
-/

namespace Cabinet

/-- Sorting keeps what is equal in the order in which it was. -/
theorem pairwise_mergeSort_stable {α : Type} {R : α → α → Prop} {le : α → α → Bool} {l : List α}
    (htrans : ∀ a b c, le a b → le b c → le a c) (htotal : ∀ a b, le a b || le b a)
    (hl : l.Pairwise R) : (l.mergeSort le).Pairwise fun a b => le a b ∧ (le b a → R a b) := by
  -- With its place each member is unlike all others, and equals are sorted by their places.
  have hsorted := List.pairwise_mergeSort (List.zipIdxLE_trans htrans) (List.zipIdxLE_total htotal)
    l.zipIdx
  have hperm := List.mergeSort_perm l.zipIdx (List.zipIdxLE le)
  have hplaces : (l.zipIdx.map Prod.snd).Nodup := by
    rw [List.zipIdx_map_snd]
    exact List.nodup_range'
  have hnodup := hperm.nodup_iff.mpr (List.Nodup.of_map _ hplaces)
  rw [← List.mergeSort_zipIdx, List.pairwise_map]
  refine (hsorted.and hnodup).imp_of_mem ?_
  rintro ⟨a, i⟩ ⟨b, j⟩ ha hb ⟨hle, hne⟩
  obtain ⟨hi, hai⟩ := List.mem_zipIdx' (hperm.mem_iff.mp ha)
  obtain ⟨hj, hbj⟩ := List.mem_zipIdx' (hperm.mem_iff.mp hb)
  unfold List.zipIdxLE at hle
  split at hle
  · next hab =>
    refine ⟨hab, fun hba => ?_⟩
    rw [if_pos hba, decide_eq_true_eq] at hle
    have hij : i ≠ j := by
      rintro rfl
      exact hne (by rw [hai, hbj])
    rw [hai, hbj]
    exact List.pairwise_iff_getElem.mp hl i j hi hj (Nat.lt_of_le_of_ne hle hij)
  · simp at hle

namespace Storage

namespace Cell

variable {a b : Cell}

theorem compareText_eq_gt_iff {s t : List Char} : compareText s t = .gt ↔ t < s := by
  induction s generalizing t with
  | nil => cases t <;> simp [compareText]
  | cons a s ih =>
    cases t with
    | nil => simp [compareText]
    | cons b t =>
      rw [compareText, List.cons_lt_cons_iff, ← ih]
      split
      · next hlt => simp [hlt.not_gt, hlt.ne']
      · next hle =>
        split
        · next hlt => simp [hlt]
        · next hge => simp [le_antisymm (not_lt.mp hle) (not_lt.mp hge)]

/-- Where a stored value stands in order: by its class first, then by its value. -/
def place : Cell → ℕ ×ₗ Extended ×ₗ List Char
  | null => toLex (0, toLex (⊥, []))
  | integer n => toLex (1, toLex (.ofRat n, []))
  | real x => toLex (1, toLex (x.extended, []))
  | text s => toLex (2, toLex (⊥, s.toList))

theorem numbers_le_iff {x y : Extended} :
    (toLex (1, toLex (x, [])) : ℕ ×ₗ Extended ×ₗ List Char) ≤ toLex (1, toLex (y, [])) ↔ x ≤ y := by
  rw [Prod.Lex.toLex_le_toLex, Prod.Lex.toLex_le_toLex]
  simp [le_iff_lt_or_eq]

/-- Stored values other than a NaN compare as their places do. -/
theorem order_ne_gt_iff (ha : a ≠ .real .nan) (hb : b ≠ .real .nan) :
    a.order b ≠ .gt ↔ a.place ≤ b.place := by
  have hreal : ∀ {x : Binary64}, real x ≠ .real .nan → x ≠ .nan :=
    fun hne heq => hne (congrArg real heq)
  cases a with
  | null => cases b <;> simp [order, rank, place, Prod.Lex.toLex_le_toLex, compare_gt_iff_gt]
  | integer m =>
    cases b with
    | integer n =>
      rw [order, place, place, numbers_le_iff, Extended.ofRat_strictMono.le_iff_le, Int.cast_le,
        compare_le_iff_le]
    | real x =>
      rw [order, place, place, numbers_le_iff, Binary64.compareInt?_eq (hreal hb), Option.map_some,
        Option.getD_some, Ne, Ordering.swap_eq_iff_eq_swap]
      exact compare_ge_iff_ge
    | null | text => simp [order, rank, place, Prod.Lex.toLex_le_toLex, compare_gt_iff_gt]
  | real x =>
    cases b with
    | integer n =>
      rw [order, place, place, numbers_le_iff, Binary64.compareInt?_eq (hreal ha), Option.getD_some,
        compare_le_iff_le]
    | real y =>
      rw [order, place, place, numbers_le_iff, Binary64.compare?_eq (hreal ha) (hreal hb),
        Option.getD_some, compare_le_iff_le]
    | null | text => simp [order, rank, place, Prod.Lex.toLex_le_toLex, compare_gt_iff_gt]
  | text s =>
    cases b with
    | text t =>
      rw [order, Ne, compareText_eq_gt_iff, place, place]
      simp [Prod.Lex.toLex_le_toLex]
    | null | integer | real => simp [order, rank, place, Prod.Lex.toLex_le_toLex, compare_gt_iff_gt]

end Cell

namespace Sheet

variable {s : Sheet} {row : Row} {rows : List Row} {column : String} {descending : Bool}

/-- What a row holds in a column; a name that no column has stands for itself as text. -/
def held (s : Sheet) (column : String) (row : Row) : Cell :=
  ((s.fields row).get? column).getD (.text column)

/-- One row comes before another: by what they hold in a column, in the order that is asked for, and
by their ids where that is equal. -/
def ComesBefore (s : Sheet) (column : String) (descending : Bool) (a b : Row) : Prop :=
  (if descending then (s.held column b).place < (s.held column a).place
    else (s.held column a).place < (s.held column b).place) ∨
  (s.held column a).place = (s.held column b).place ∧ a.id < b.id

section Regular

variable (h : s.Regular)

include h

/-- No cell belongs to a column that is not there. -/
theorem Regular.find?_cell_eq_none (hn : Name.normalize column = column) (hmem : column ∉ s.columnNames) :
    (s.columns.zip row.cells).find? (fun (c, _) => sameName column c.name) = none := by
  refine List.find?_eq_none.mpr fun e he hsame => hmem ?_
  have hc := (List.of_mem_zip he).1
  exact (h.sameName_iff hn hc).mp hsame ▸ List.mem_map_of_mem hc

/-- Storage finds what a row holds. -/
theorem Regular.lookup_eq_held (hn : Name.normalize column = column) (hrow : row ∈ s.rows) :
    (s.lookup row column).2 = s.held column row := by
  by_cases hmem : column ∈ s.columnNames
  · obtain ⟨c, -, -, cell, hlookup, hfind⟩ := exists_cell (h.rows row hrow)
      (fun c hc => h.sameName_iff hn hc) hmem
    have hget : (s.fields row).get? column = some cell := hlookup
    rw [Sheet.lookup, hfind, held, hget]
    rfl
  · have hget : (s.fields row).get? column = none := by
      rw [Fields.get?_eq_none_iff, keys_fields (h.rows row hrow)]
      exact hmem
    rw [Sheet.lookup, h.find?_cell_eq_none hn hmem, held, hget]
    rfl

theorem Regular.held_ne_nan (column : String) (hrow : row ∈ s.rows) :
    s.held column row ≠ .real .nan := by
  rw [held]
  cases hget : (s.fields row).get? column with
  | none => exact nofun
  | some cell => exact h.numbers row hrow cell (List.of_mem_zip (Fields.mem_of_get? hget)).2

/-- Rows are sorted by what they hold in a column, and by their ids where that is equal. -/
theorem Regular.pairwise_sorted (hn : Name.normalize column = column) (hrows : rows.Sublist s.rows) :
    (s.sorted column descending rows).Pairwise (s.ComesBefore column descending) := by
  let key (row : Row) := (s.held column row).place
  let le (a b : Row) : Bool := if descending then key b ≤ key a else key a ≤ key b
  -- No cell of a sheet is NaN, so that each has its place in the order, which is total.
  have hprecedes : ∀ a ∈ rows, ∀ b ∈ rows,
      precedes column descending (s.lookup a) (s.lookup b) = le a b := by
    intro a ha b hb
    have ha := hrows.mem ha
    have hb := hrows.mem hb
    have hab := Cell.order_ne_gt_iff (h.held_ne_nan column ha) (h.held_ne_nan column hb)
    have hba := Cell.order_ne_gt_iff (h.held_ne_nan column hb) (h.held_ne_nan column ha)
    simp only [precedes, h.lookup_eq_held hn ha, h.lookup_eq_held hn hb, le, key]
    cases descending with
    | false => exact Bool.eq_iff_iff.mpr (bne_iff_ne.trans (hab.trans decide_eq_true_iff.symm))
    | true => exact Bool.eq_iff_iff.mpr (bne_iff_ne.trans (hba.trans decide_eq_true_iff.symm))
  have hsorted : s.sorted column descending rows = rows.mergeSort le := by
    have hmap := List.map_mergeSort (f := id) hprecedes
    rwa [List.map_id, List.map_id] at hmap
  have htrans : ∀ a b c, le a b → le b c → le a c := by
    intro a b c
    cases descending with
    | false => simpa [le] using le_trans
    | true => simpa [le] using fun hba hcb => le_trans hcb hba
  have htotal : ∀ a b, le a b || le b a := by
    intro a b
    cases descending with
    | false => simpa [le] using le_total _ _
    | true => simpa [le] using le_total _ _
  rw [hsorted]
  -- The ids ascend before the rows are sorted, and sorting keeps them in order where the cells are
  -- in one place.
  refine (pairwise_mergeSort_stable htrans htotal (h.ascending.sublist hrows)).imp ?_
  rintro a b ⟨hle, hstable⟩
  have hcases : (if descending then key b < key a else key a < key b) ∨ key a = key b := by
    cases descending with
    | false => simpa [le] using lt_or_eq_of_le (of_decide_eq_true hle)
    | true => simpa [le, eq_comm] using lt_or_eq_of_le (of_decide_eq_true hle)
  refine hcases.imp_right fun heq => ⟨heq, hstable ?_⟩
  cases descending <;> simp [le, key, heq]

end Regular

end Sheet

end Storage

end Cabinet

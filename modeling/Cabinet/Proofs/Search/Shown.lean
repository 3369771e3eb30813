import Cabinet.Proofs.Search.Tree
import Cabinet.Proofs.Search.Truth
import Cabinet.Proofs.Storage.Sheet
import Cabinet.Rows
import Mathlib.Data.List.Sort

/-!
Rows that are not hidden, and what can be told of a table from these rows alone: which of them a
condition holds of, and in which order they come.
-/

namespace Cabinet

open Storage

section Statement

variable {columns : List Column} {c seen : Condition} {v : Value}

/-- What a search asks for: nothing, a condition in brackets, or words of the title one after
another. -/
theorem Search.compile_cases (h : compile columns v = .ok c) :
    c = .always ∨ c.Enclosed ∨ ∃ first rest, c = .chain first rest := by
  unfold compile at h
  split at h
  · exact .inl (Except.ok.inj h).symm
  · next text =>
    unfold compileText at h
    split at h
    · exact .inl (Except.ok.inj h).symm
    split at h
    · next q hread =>
      obtain ⟨q', hparse, hq⟩ := bind_eq_ok_iff.mp hread
      have hsame : q' = q := by
        split at hq
        · simp at hq
        · exact Except.ok.inj hq
      exact .inr (.inl (enclosed_lower (Query.parse_plain (hsame ▸ hparse)) h))
    · obtain rfl := Except.ok.inj h
      unfold fallback
      split
      · exact .inl rfl
      · next first rest _ => exact .inr (.inr ⟨first, rest, rfl⟩)
  · simp at h

theorem Sql.truth_conjunction (c : Condition) (rest : List Clause) (row : Lookup) :
    (conjunction c rest).truth row =
      rest.foldl (fun t d => t.and (d.truth (row d.column))) (c.truth row) := by
  induction rest generalizing c with
  | nil => rfl
  | cons d rest ih => exact ih (.joined .and c (.clause d))

/-- Whatever is searched for, text and values of the statement are read as what can be seen and,
besides, what is searched for. -/
theorem Sql.read_seen (hs : seen.Enclosed) (hc : Search.compile columns v = .ok c) :
    ∃ d, Sql.read (seen.and c).filter = some d ∧
      ∀ row, d.truth row = (seen.truth row).and (c.truth row) := by
  have hboth : c ≠ .always → seen.and c = .both seen c := by
    intro hne
    cases hs <;> cases c <;> first | rfl | exact absurd rfl hne
  rcases Search.compile_cases hc with rfl | henclosed | ⟨first, rest, rfl⟩
  · -- Nothing is asked for, and so nothing is put beside what can be seen.
    have hand : seen.and .always = seen := by cases hs <;> rfl
    exact ⟨seen, hand.symm ▸ Sql.read_filter hs, fun row => (Truth.and_true _).symm⟩
  · have hne : c ≠ .always := by
      rintro rfl
      exact nomatch henclosed
    exact ⟨_, hboth hne ▸ Sql.read_both (.of_enclosed hs) (.of_enclosed henclosed), fun row => rfl⟩
  · refine ⟨_, hboth nofun ▸ Sql.read_both (.of_enclosed hs) (.chain first rest), fun row => ?_⟩
    exact congrArg _ (Sql.truth_conjunction (.clause first) rest row)

theorem Condition.filter_seen (hs : seen.Enclosed) (hc : Search.compile columns v = .ok c) :
    (seen.and c).filter = seen.filter.and c.filter := by
  apply filter_and_of_text_ne hs.text_ne
  rcases Search.compile_cases hc with rfl | henclosed | ⟨first, rest, rfl⟩
  · exact .inl rfl
  · exact .inr henclosed.text_ne
  · exact .inr (text_chain_ne first rest)

end Statement

/-- What a row holds under a name, told from the record and from the cells by their names. -/
def Table.lookup (t : Table) (held : String → Option Cell) : Lookup := fun name =>
  match t.columns.find? fun (key, _) => sameName name key with
  | some (key, c) => (c.stored.affinity, (held key).getD .null)
  | none => (.none, .text name)

/-- The rows of which a condition holds, among rows that are told by their cells. -/
def Table.found (t : Table) (c : Condition) (shown : List (String → Option Cell)) :
    List (String → Option Cell) :=
  shown.filter fun held => c.truth (t.lookup held) = some true

/-- These rows in the order of a column. -/
def Table.sorted (t : Table) (column : String) (descending : Bool)
    (found : List (String → Option Cell)) : List (String → Option Cell) :=
  found.mergeSort fun a b => Sheet.precedes column descending (t.lookup a) (t.lookup b)

namespace Storage

/-- The rows of a stored table that are not hidden. -/
def Sheet.shown (s : Sheet) : List (Fields Cell) :=
  (s.rows.map s.fields).filter fun row => row.get? "hidden" = some (.integer 0)

/-- A stored table with the columns that a table says. Its rows come in the order of their ids, which
they hold, and each of them is hidden or is not. -/
structure Sheet.Marked (s : Sheet) (t : Table) : Prop extends s.Holds t where
  ascending : s.rows.Pairwise (·.id < ·.id)
  ids : ∀ row ∈ s.rows, (s.fields row).get? "id" = some (.integer row.id)
  flags : ∀ row ∈ s.rows, (s.fields row).get? "hidden" = some (.integer 0) ∨
    (s.fields row).get? "hidden" = some (.integer 1)

/-- Rows, by what they hold, of which one has a smaller id than the other. -/
def Row.Before (a b : String → Option Cell) : Prop :=
  ∃ m n, a "id" = some (.integer m) ∧ b "id" = some (.integer n) ∧ m < n

theorem Row.Before.asymm {a b : String → Option Cell} (h : Before a b) : ¬Before b a := by
  rintro ⟨n', m', hb', ha', hlt'⟩
  obtain ⟨m, n, ha, hb, hlt⟩ := h
  cases ha.symm.trans ha'
  cases hb.symm.trans hb'
  omega

namespace Sheet

variable {s s' : Sheet} {t t' : Table} {row : Row}

/-- What storage finds in a row does not depend on where the columns stand. -/
theorem Holds.lookup_eq (h : s.Holds t) (ht : t.WellFormed) (hrow : row ∈ s.rows) :
    s.lookup row = t.lookup (s.fields row).get? := by
  funext name
  unfold Table.lookup
  split
  · next key d hfind =>
    have hd : t.columns.get? key = some d := ht.get?_of_mem (List.mem_of_find?_eq_some hfind)
    have hsame : Text.foldAscii name.toList = Text.foldAscii key.toList := by
      simpa [sameName] using List.find?_some hfind
    obtain ⟨cell, hcell, hheld⟩ := h.find?_cell ht.isNamed hrow hd
    -- The name that is asked for and the name of the column are one to the storage.
    have hnames : ∀ other, sameName name other = sameName key other := by
      intro other
      rw [sameName, sameName, hsame]
    simp only [Sheet.lookup, hnames, hheld, hcell, Option.getD_some]
  · next hnone =>
    have hno : ∀ e ∈ s.columns.zip row.cells, ¬sameName name e.1.name = true := by
      rintro ⟨c, cell⟩ he
      have hkey := (h.mem_columnNames ht.isNamed).mp (List.mem_map_of_mem (List.of_mem_zip he).1)
      obtain ⟨⟨key, d⟩, hd, rfl : key = c.name⟩ := List.mem_map.mp hkey
      exact List.find?_eq_none.mp hnone (c.name, d) hd
    rw [Sheet.lookup, List.find?_eq_none.mpr hno]

/-- The rows that a search can see are those that are not hidden. -/
theorem Marked.visible_iff (h : s.Marked t) (ht : t.WellFormed) (hrow : row ∈ s.rows) :
    Rows.visible.truth (s.lookup row) = some true ↔
      (s.fields row).get? "hidden" = some (.integer 0) := by
  have hprotected : "hidden" ∈ Column.protectedNames := by decide
  obtain ⟨d, hd⟩ := Option.isSome_iff_exists.mp
    (Fields.get?_isSome_iff.mpr (ht.mem_keys_of_protected hprotected))
  have htype : d.type = .boolean := ht.type_eq hd (by decide) (by decide)
  have haffinity : d.stored.affinity = .integer := by
    rw [ht.affinity_stored hd, htype]
    rfl
  obtain ⟨cell, hcell, hlookup⟩ := h.lookup ht.isNamed hrow hd
  have htruth : Rows.visible.truth (s.lookup row) =
      compareCells .equal .integer cell (given (.int 0)) := by
    rw [← haffinity]
    show Clause.truth (s.lookup row "hidden") (.compare "hidden" .equal (.int 0)) = _
    rw [hlookup]
    rfl
  rw [htruth, hcell]
  rcases h.flags row hrow with hzero | hone
  · obtain rfl := Option.some.inj (hcell.symm.trans hzero)
    decide
  · obtain rfl := Option.some.inj (hcell.symm.trans hone)
    decide

/-- The rows that are found are told from those that are not hidden. -/
theorem Marked.map_found (h : s.Marked t) (ht : t.WellFormed) (c : Condition) :
    (s.rows.filter fun row => (Rows.visible.and c).truth (s.lookup row) = some true).map
      (fun row => (s.fields row).get?) = t.found c (s.shown.map Fields.get?) := by
  have hshown : t.found c (s.shown.map Fields.get?) =
      ((s.rows.filter fun row => (s.fields row).get? "hidden" = some (.integer 0)).filter
        fun row => c.truth (t.lookup (s.fields row).get?) = some true).map
          fun row => (s.fields row).get? := by
    rw [Table.found, Sheet.shown, List.filter_map, List.filter_map, List.filter_map, List.map_map]
    rfl
  -- Selecting what can be seen and then what is found is one selection by both.
  rw [hshown, List.filter_filter]
  refine congrArg _ (List.filter_congr fun row hrow => ?_)
  rw [← h.lookup_eq ht hrow, Condition.truth_and]
  simp only [Truth.and_eq_true_iff, h.visible_iff ht hrow, Bool.decide_and, Bool.and_comm]

/-- The order of rows is told from what they hold by name. -/
theorem Holds.map_sorted (h : s.Holds t) (ht : t.WellFormed) (column : String) (descending : Bool)
    {rows : List Row} (hrows : ∀ row ∈ rows, row ∈ s.rows) :
    (s.sorted column descending rows).map (fun row => (s.fields row).get?) =
      t.sorted column descending (rows.map fun row => (s.fields row).get?) := by
  apply List.map_mergeSort
  intro a ha b hb
  rw [h.lookup_eq ht (hrows a ha), h.lookup_eq ht (hrows b hb)]

/-- The rows that are not hidden come by ascending ids. -/
theorem Marked.pairwise_shown (h : s.Marked t) : (s.shown.map Fields.get?).Pairwise Row.Before := by
  apply List.pairwise_map.mpr
  apply List.Pairwise.filter
  apply List.pairwise_map.mpr
  apply h.ascending.imp_of_mem
  intro a b ha hb hlt
  exact ⟨a.id, b.id, h.ids a ha, h.ids b hb, hlt⟩

/-- As the rows come by ascending ids, they are known as soon as it is known which rows there are. -/
theorem Marked.shown_eq (h : s.Marked t) (h' : s'.Marked t')
    (hsame : ∀ held, held ∈ s.shown.map Fields.get? ↔ held ∈ s'.shown.map Fields.get?) :
    s.shown.map Fields.get? = s'.shown.map Fields.get? := by
  have hirrefl : Std.Irrefl Row.Before := ⟨fun _ hab => hab.asymm hab⟩
  have hantisymm : Std.Antisymm Row.Before := ⟨fun _ _ hab hba => absurd hba hab.asymm⟩
  exact h.pairwise_shown.eq_of_mem_iff h'.pairwise_shown hsame

end Sheet

namespace Database

variable {α β : Type} (limit? : Option Int) (offset : Int)

theorem map_window (g : α → β) (rows : List α) :
    (window limit? offset rows).map g = window limit? offset (rows.map g) := by
  unfold window
  cases limit? with
  | none => exact List.map_drop
  | some limit =>
    dsimp only
    split
    · exact List.map_drop
    · rw [List.map_take, List.map_drop]

theorem window_sublist (rows : List α) : (window limit? offset rows).Sublist rows := by
  unfold window
  cases limit? with
  | none => exact List.drop_sublist _ _
  | some limit =>
    dsimp only
    split
    · exact List.drop_sublist _ _
    · exact (List.take_sublist _ _).trans (List.drop_sublist _ _)

end Database

end Storage

end Cabinet

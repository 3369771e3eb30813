import Cabinet.Proofs.Run.Frame
import Cabinet.Proofs.Run.Window
import Cabinet.Proofs.Storage.Order

/-!
What a search answers: a part of the rows that it finds, in one order, and the parts together are all of
them.
-/

namespace Cabinet

open Operation Storage

/-- Parts of one length after another are the whole. -/
theorem flatMap_parts {α : Type} {l : List α} {k n : Nat} (h : l.length ≤ n * k) :
    (List.range n).flatMap (fun i => (l.drop (i * k)).take k) = l := by
  have htake : ∀ n, (List.range n).flatMap (fun i => (l.drop (i * k)).take k) = l.take (n * k) := by
    intro n
    induction n with
    | zero => simp
    | succ n ih =>
      rw [List.range_succ, List.flatMap_append, ih, List.flatMap_singleton, Nat.succ_mul, List.take_add]
  rw [htake, List.take_of_length_le h]

namespace Search

variable {columns : List Column} {sort : Value} {descending : Bool} {order : RowOrder}

/-- The column that rows are sorted by: the one that a reference means, or that of the ids where
nothing is asked for. -/
inductive SortsBy (columns : List Column) : Value → String → Prop
  | ids {sort : Value} (nothing : sort.truthy = false) : SortsBy columns sort "id"
  | column {reference : String} {c : Column} (given : (Value.text reference).truthy = true)
    (found : resolve columns reference.toList = .ok (some c)) : SortsBy columns (.text reference) c.name

theorem compileOrder_sortsBy (h : compileOrder columns sort descending false = .ok order) :
    ∃ column, order = .byColumn column descending ∧ SortsBy columns sort column := by
  unfold compileOrder at h
  split at h
  · next hrandom => simp at hrandom
  split at h
  · next hnothing => exact ⟨"id", (Except.ok.inj h).symm, .ids (by simpa using hnothing)⟩
  next hgiven =>
  split at h
  · obtain ⟨found?, hfound, h⟩ := bind_eq_ok_iff.mp h
    split at h
    · next c => exact ⟨c.name, (Except.ok.inj h).symm, .column (by simpa using hgiven) hfound⟩
    · simp at h
  · simp at h

/-- Rows are sorted by a column of the table. -/
theorem SortsBy.exists_column {t : Table} {column : String} (h : SortsBy t.ordered sort column)
    (ht : t.WellFormed) : ∃ c, t.columns.get? column = some c := by
  cases h with
  | ids =>
    have hid : "id" ∈ t.columns.keys := ht.mem_keys_of_protected (by decide)
    exact Option.isSome_iff_exists.mp (Fields.get?_isSome_iff.mpr hid)
  | @column _ c _ hfound => exact ⟨c, (Table.mem_ordered_iff ht).mp (mem_of_resolve hfound)⟩

end Search

namespace Rows

variable {options : SearchOptions} {what : String} {v : Value} {n? : Option Int}

/-- Which part of the rows is asked for: at most so many, after the first ones. -/
structure SearchOptions.Wants (options : SearchOptions) (limit? : Option Nat) (offset : Nat) : Prop where
  limit : options.limit = match limit? with
    | some limit => .int limit
    | none => .null
  offset : options.offset = .int offset ∨ options.offset = .null ∧ offset = 0

theorem count?_eq_ok (h : count? what v = .ok n?) :
    (v = .null ∧ n? = none) ∨ ∃ n : Nat, v = .int n ∧ n? = some (n : Int) := by
  unfold count? at h
  split at h
  · exact .inl ⟨rfl, (Except.ok.inj h).symm⟩
  · next n =>
    split at h
    · simp at h
    · next hn =>
      obtain ⟨k, rfl⟩ := Int.eq_ofNat_of_zero_le (Int.not_lt.mp hn)
      exact .inr ⟨k, rfl, (Except.ok.inj h).symm⟩
  · simp at h

theorem count?_natCast (what : String) (n : Nat) : count? what (.int n) = .ok (some (n : Int)) := by
  rw [count?, if_neg (Int.not_lt.mpr (Int.natCast_nonneg n))]

/-- Where its numbers can be counted, a search asks for a part of the rows. -/
theorem SearchOptions.exists_wants {limit? offset? : Option Int}
    (hlimit : count? "limit" options.limit = .ok limit?)
    (hoffset : count? "offset" options.offset = .ok offset?) :
    ∃ (l? : Option Nat) (n : Nat), options.Wants l? n ∧ limit? = l?.map (fun l : Nat => (l : Int)) ∧
      offset?.getD 0 = n := by
  obtain ⟨l?, hl, rfl⟩ : ∃ l? : Option Nat, (options.limit = match l? with
      | some l => .int l
      | none => .null) ∧ limit? = l?.map (fun l : Nat => (l : Int)) := by
    rcases count?_eq_ok hlimit with ⟨hl, rfl⟩ | ⟨l, hl, rfl⟩
    · exact ⟨none, hl, rfl⟩
    · exact ⟨some l, hl, rfl⟩
  rcases count?_eq_ok hoffset with ⟨hn, rfl⟩ | ⟨n, hn, rfl⟩
  · exact ⟨l?, 0, ⟨hl, .inr ⟨hn, rfl⟩⟩, rfl, rfl⟩
  · exact ⟨l?, n, ⟨hl, .inl hn⟩, rfl, rfl⟩

/-- Whether a search can see a row. -/
def SearchOptions.Sees (options : SearchOptions) (row : Lookup) : Prop :=
  options.includeHidden = true ∨ visible.truth row = some true

instance (options : SearchOptions) (row : Lookup) : Decidable (options.Sees row) :=
  inferInstanceAs (Decidable (_ ∨ _))

end Rows

namespace Storage

variable {α : Type} {s : Sheet} {c : Condition} {options : Rows.SearchOptions} {column : String}

theorem Database.window_eq (limit? : Option Nat) (offset : Nat) (rows : List α) :
    window (limit?.map fun n : Nat => (n : Int)) offset rows =
      (rows.drop offset).take (limit?.getD rows.length) := by
  cases limit? with
  | none => simp [window, List.take_of_length_le]
  | some limit => simp [window]

/-- All rows that a search finds, each of them once, in the order that is asked for. -/
structure Sheet.Lists (s : Sheet) (options : Rows.SearchOptions) (c : Condition) (column : String)
    (found : List Row) : Prop where
  perm : found.Perm (s.rows.filter fun row =>
    options.Sees (s.lookup row) ∧ c.truth (s.lookup row) = some true)
  distinct : (found.map (·.id)).Nodup
  ordered : found.Pairwise (s.ComesBefore column options.descending)

theorem Sheet.Regular.lists (h : s.Regular) (hn : Name.normalize column = column)
    (options : Rows.SearchOptions) (c : Condition) :
    s.Lists options c column
      (s.listed (options.seen.and c) (.byColumn column options.descending)) := by
  have hperm := s.listed_perm (options.seen.and c) (.byColumn column options.descending)
  have hids : (s.rows.map (·.id)).Nodup :=
    List.pairwise_map.mpr (h.ascending.imp fun hlt => Int.ne_of_lt hlt)
  refine ⟨?_, ?_, h.pairwise_sorted hn List.filter_sublist⟩
  · have hfound : ∀ row, (options.seen.and c).truth (s.lookup row) = some true ↔
        options.Sees (s.lookup row) ∧ c.truth (s.lookup row) = some true := by
      intro row
      rw [Condition.truth_and, Truth.and_eq_true_iff, options.seen_eq_true_iff]
      rfl
    simpa only [hfound] using hperm
  · exact (hperm.map _).nodup_iff.mpr ((List.filter_sublist.map _).nodup hids)

end Storage

/-- A search for the second of the rows that have one of two words, from the last one down. -/
def Rows.SearchOptions.second : SearchOptions :=
  { query := .text "one OR two", descending := true, limit := .int 1, offset := .int 1 }

/-- A workspace in which two rows are found, besides one that is hidden. -/
def World.twoFound : Folders.Sample ⟨"data", "backup"⟩ fun w =>
    ((Rows.search ⟨"data", "backup"⟩ "a_0" "entries" .second).exec w).1.toOption.map (·.filtered) =
      some 2 :=
  Request.sample _ Request.titledAndHidden (by decide +kernel)

end Cabinet

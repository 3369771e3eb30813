import Cabinet.Proofs.Column.Admits
import Cabinet.Proofs.Search.Part
import Cabinet.Proofs.Storage.Database
import Cabinet.Proofs.Storage.Regular
import Cabinet.Proofs.Words
import Cabinet.Schema.Apply

/-!
The list of the stored tables. It leaves out the tables of the storage itself, and with them every table
whose name is `sqlite` with anything behind it.
-/

namespace Cabinet

/-- Texts come in the same order wherever they stood before. -/
theorem Text.sort_perm {texts texts' : List String} (h : texts.Perm texts') :
    sort texts = sort texts' := by
  have hperm : (sort texts).Perm (sort texts') :=
    (List.mergeSort_perm texts _).trans (h.trans (List.mergeSort_perm texts' _).symm)
  refine hperm.eq_of_pairwise (fun a b _ _ hab hba => ?_) (pairwise_sort texts) (pairwise_sort texts')
  exact le_antisymm (precedes_toList_iff.mp hab) (precedes_toList_iff.mp hba)

namespace Storage

variable {name : String} {s : List Char}

/-- Whether a name is `sqlite`, in any case, and at least one more character. -/
def LooksReserved (name : String) : Prop :=
  ∃ c rest, Text.foldAscii name.toList = "sqlite".toList ++ c :: rest

theorem fits_one_or_more : fits ['_', '%'] s = true ↔ s ≠ [] := by
  cases s with
  | nil => simp [fits]
  | cons c rest => simp [fits, ← fits_rest (s := rest)]

theorem isListed_eq_false_iff : Database.isListed name = false ↔ LooksReserved name := by
  have hpattern : "sqlite_%".toList = Search.escapePattern "sqlite".toList ++ ['_', '%'] := by decide
  have hfold : Text.foldAscii "sqlite".toList = "sqlite".toList := by decide
  rw [Database.isListed, Bool.not_eq_eq_eq_not, Bool.not_false, hpattern, fits_escapePattern, hfold]
  constructor
  · rintro ⟨found, after, hname, hfound, hafter⟩
    obtain ⟨c, rest, rfl⟩ := List.exists_cons_of_ne_nil (fits_one_or_more.mp hafter)
    refine ⟨c.toLower, Text.foldAscii rest, ?_⟩
    rw [hname, hfound]
    simp [Text.foldAscii]
  · rintro ⟨c, rest, h⟩
    obtain ⟨found, after, hname, hfound, hafter⟩ := List.map_eq_append_iff.mp h
    refine ⟨found, after, hname, hfound.symm, fits_one_or_more.mpr ?_⟩
    rintro rfl
    simp at hafter

instance (name : String) : Decidable (LooksReserved name) :=
  decidable_of_iff _ isListed_eq_false_iff

/-- Names that belong to the storage look so. -/
theorem looksReserved_of_isReserved (h : isReserved name = true) : LooksReserved name := by
  rw [isReserved, beq_iff_eq] at h
  refine ⟨'_', (Text.foldAscii name.toList).drop 7, ?_⟩
  have happend := List.take_append_drop 7 (Text.foldAscii name.toList)
  rw [h] at happend
  exact happend.symm

theorem isReserved_of_isPrefixOf (h : "sqlite_".toList.isPrefixOf name.toList = true) :
    isReserved name = true := by
  obtain ⟨rest, hrest⟩ := List.isPrefixOf_iff_prefix.mp h
  rw [isReserved, ← hrest]
  rfl

namespace Database

variable {db : Database} {tables : Fields Table} {R : Sheet → Table → Prop}

theorem hasTable_iff : db.hasTable name = true ↔
    name ∈ db.sheets.map (·.name) ∨ db.hasCounters = true ∧ name = counterTable := by
  simp [hasTable]

/-- What is listed is there and does not look as if it belonged to the storage. -/
theorem mem_tableNames : name ∈ db.tableNames ↔ db.hasTable name = true ∧ ¬LooksReserved name := by
  have hcounter : LooksReserved counterTable := looksReserved_of_isReserved (by decide)
  rw [tableNames, Text.sort, List.mem_mergeSort, List.mem_filter, ← isListed_eq_false_iff,
    Bool.not_eq_false, hasTable_iff]
  constructor
  · rintro ⟨hmem, hlisted⟩
    exact ⟨.inl hmem, hlisted⟩
  · rintro ⟨hmem | ⟨-, rfl⟩, hlisted⟩
    · exact ⟨hmem, hlisted⟩
    · rw [isListed_eq_false_iff.mpr hcounter] at hlisted
      cases hlisted

/-- The list is in order and has no name twice. -/
theorem Holds.pairwise_tableNames (h : db.Holds tables R) : db.tableNames.Pairwise (· < ·) := by
  have hnodup : db.tableNames.Nodup := Text.nodup_sort (h.nodup.filter _)
  have hle := (Text.pairwise_sort ((db.sheets.map (·.name)).filter isListed)).imp
    Text.precedes_toList_iff.mp
  exact (hle.and hnodup).imp fun ⟨hle, hne⟩ => lt_of_le_of_ne hle hne

/-- The list has the tables of the record that do not look as if they belonged to the storage. -/
theorem Holds.tableNames_eq (h : db.Holds tables R) (hd : tables.keys.Nodup) :
    db.tableNames = Text.sort (tables.keys.filter fun name => ¬LooksReserved name) := by
  have hfilter : (db.sheets.map (·.name)).filter isListed =
      (db.sheets.map (·.name)).filter fun name => ¬LooksReserved name := by
    refine List.filter_congr fun name _ => ?_
    rw [Bool.eq_iff_iff, decide_eq_true_iff, ← isListed_eq_false_iff, Bool.not_eq_false]
  rw [tableNames, hfilter]
  exact Text.sort_perm ((h.names_perm hd).filter _)

/-- The list is that of the record, if no table of the record looks as if it belonged to the storage. -/
theorem Holds.tableNames_eq_iff (h : db.Holds tables R) (hd : tables.keys.Nodup) :
    db.tableNames = Text.sort tables.keys ↔ ∀ name ∈ tables.keys, ¬LooksReserved name := by
  constructor
  · intro heq name hname
    have hmem : name ∈ Text.sort tables.keys := by rwa [Text.sort, List.mem_mergeSort]
    exact (mem_tableNames.mp (heq ▸ hmem)).2
  · intro hnone
    rw [h.tableNames_eq hd, List.filter_eq_self.mpr fun name hname => decide_eq_true (hnone name hname)]

/-- The tables of a record are those that are there, but for the one in which ids are counted. -/
theorem Holds.mem_keys_iff (h : db.Holds tables R) (hd : tables.keys.Nodup) (hdb : db.Regular) :
    name ∈ tables.keys ↔ db.hasTable name = true ∧ Schema.ensureNotReserved name = .ok () := by
  have hnames := (h.names_perm hd).mem_iff (a := name)
  rw [hasTable_iff, hnames]
  constructor
  · intro hname
    refine ⟨.inl hname, if_neg fun hstart => ?_⟩
    obtain ⟨s, hs, rfl⟩ := List.mem_map.mp (hnames.mpr hname)
    have hfree := (hdb.admitted s hs).free
    rw [isReserved_of_isPrefixOf hstart] at hfree
    cases hfree
  · rintro ⟨hname | ⟨-, rfl⟩, hfree⟩
    · exact hname
    · have hrefused : Schema.ensureNotReserved counterTable = .error (.reservedTable counterTable) :=
        if_pos (by decide)
      exact nomatch hrefused.symm.trans hfree

end Database

end Storage

end Cabinet

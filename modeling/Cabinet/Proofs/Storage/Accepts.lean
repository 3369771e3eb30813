import Cabinet.Proofs.Storage.Database
import Cabinet.Proofs.Storage.Regular

/-!
Statements that storage accepts: a column can be added to the stored table of a record under a name that
is new there, and any column that is not protected can be dropped.
-/

namespace Cabinet.Storage

variable {db : Database} {tables : Fields Table} {s : Sheet} {t : Table} {name column : String}

namespace Sheet

theorem Regular.hasColumn_iff (h : s.Regular) (hn : Name.normalize name = name) :
    s.hasColumn name = true ↔ name ∈ s.columnNames := by
  rw [Sheet.hasColumn_iff, columnNames, List.mem_map]
  exact exists_congr fun c => and_congr_right fun hc => h.sameName_iff hn hc

theorem Regular.addColumn_accepted (h : s.Regular) (hn : Name.normalize name = name)
    (hnew : name ∉ s.columnNames) (type : StorageType) :
    ∃ s', s.addColumn (Statement.declared name type) = .ok s' := by
  have hno : ¬s.hasColumn (Statement.declared name type).name = true := fun hc =>
    hnew ((h.hasColumn_iff hn).mp hc)
  exact ⟨_, if_neg hno⟩

/-- A stored table has more than one column. -/
theorem Regular.length_ne_one (h : s.Regular) : s.columns.length ≠ 1 := by
  intro hone
  obtain ⟨c, hc⟩ := List.length_eq_one_iff.mp hone
  have hfresh : ∀ c, ¬∀ d ∈ (freshSheet "").columns, d = c := by
    intro c hall
    have hid := hall { name := "id", affinity := .integer, isKey := true } (by decide)
    have htitle := hall { name := "title", affinity := .text, required := true } (by decide)
    exact absurd (hid.trans htitle.symm) (by decide)
  exact hfresh c fun d hd => List.mem_singleton.mp (hc ▸ h.first d hd)

theorem Regular.dropColumn_accepted (h : s.Regular) (hn : Name.normalize name = name)
    (hp : name ∉ Column.protectedNames) (hthere : name ∈ s.columnNames) :
    ∃ s', s.dropColumn name = .ok s' := by
  obtain ⟨c, hc, rfl⟩ := List.mem_map.mp hthere
  have hfound : ∃ d, s.columns.find? (fun d => sameName c.name d.name) = some d :=
    Option.isSome_iff_exists.mp (List.find?_isSome.mpr ⟨c, hc, (h.sameName_iff hn hc).mpr rfl⟩)
  obtain ⟨d, hd⟩ := hfound
  have hmem := List.mem_of_find?_eq_some hd
  have hname : d.name = c.name := (h.sameName_iff hn hmem).mp (by simpa using List.find?_some hd)
  have hkey : d.isKey = false := (h.others d hmem (hname ▸ hp)).1
  simp only [Sheet.dropColumn, hd, hkey, if_neg h.length_ne_one, Bool.false_eq_true, if_false]
  exact ⟨_, rfl⟩

/-- A stored table is not the one in which ids are counted. -/
theorem Admitted.sameName_counterTable (h : s.Admitted) : sameName s.name counterTable = false := by
  rw [Bool.eq_false_iff]
  intro hsame
  have hcounter : (Text.foldAscii counterTable.toList).take 7 = "sqlite_".toList := by decide
  have hfree := h.free
  rw [isReserved, sameName_iff.mp hsame, hcounter] at hfree
  simp at hfree

end Sheet

namespace Database

variable (h : db.Holds tables) (hr : AreNamed tables) (hdb : db.Regular)
  (ht : tables.get? name = some t)

include h hr hdb ht

/-- The stored table of a table that a record tells of can be altered. -/
theorem Holds.alterable : ∃ s, db.findAlterable name = .ok s ∧ s.Regular ∧ s.Admitted ∧ s.Holds t ∧
    admitTexts [name] = .ok () := by
  obtain ⟨s, hfind, rfl, hst⟩ := h.find?_eq_some hr ht
  have hadmitted := hdb.admitted_of_find? hfind
  have hmem := (Database.of_find?_eq_some hfind).1
  refine ⟨s, ?_, hdb.of_find? hfind, hadmitted, hst, h.admitted s hmem⟩
  rw [findAlterable, isCounterTable, hadmitted.sameName_counterTable, Bool.and_false]
  exact find_eq_ok.mpr hfind

theorem Holds.addColumn_accepted (hn : Name.IsNormal column) (hclean : admitTexts [column] = .ok ())
    (hnew : column ∉ t.columns.keys) (type : StorageType) :
    ∃ db', db.addColumn name (Statement.declared column type) = .ok db' := by
  obtain ⟨s, hs, hregular, -, hst, hname⟩ := h.alterable hr hdb ht
  obtain ⟨s', hs'⟩ := hregular.addColumn_accepted hn.normalize_eq
    (fun hmem => hnew ((hst.mem_columnNames (hr.named ht)).mp hmem)) type
  have htexts : admitTexts [name, (Statement.declared column type).name] = .ok () :=
    admitTexts_eq_ok.mpr (by simpa using ⟨hname, hclean⟩)
  exact ⟨db.replace name s', by simp only [Database.addColumn, htexts, hs, hs', ok_bind, pure_eq_ok]⟩

theorem Holds.dropColumn_accepted (hthere : column ∈ t.columns.keys)
    (hp : column ∉ Column.protectedNames) : ∃ db', db.dropColumn name column = .ok db' := by
  obtain ⟨s, hs, hregular, hadmitted, hst, hname⟩ := h.alterable hr hdb ht
  have hstored : column ∈ s.columnNames := (hst.mem_columnNames (hr.named ht)).mpr hthere
  obtain ⟨c, hc, rfl⟩ := List.mem_map.mp hstored
  obtain ⟨s', hs'⟩ :=
    hregular.dropColumn_accepted (hregular.normal c hc).normalize_eq hp hstored
  have htexts : admitTexts [name, c.name] = .ok () :=
    admitTexts_eq_ok.mpr (by simpa using ⟨hname, hadmitted.clean c hc⟩)
  exact ⟨db.replace name s', by simp only [Database.dropColumn, htexts, hs, hs', ok_bind, pure_eq_ok]⟩

end Database

end Cabinet.Storage

import Cabinet.Proofs.Run.Order
import Cabinet.Proofs.Search.References

/-!
Whatever a run does, references to the columns of every table in every record mean what they say.
-/

namespace Cabinet

variable {f : Folders} {agreed : Bool} {w : World}

/-- Every record among some files can be read, and in each of its tables references mean the same column
in whatever order the columns come. -/
def Files.Referable (files : Files) : Prop :=
  ∀ p s, files.get? p = some (.text s) → ∃ r, Record.read s = .ok r ∧
    ∀ name t, r.tables.get? name = some t →
      ∀ columns, columns.Perm (t.columns.map (·.2)) → t.Answers columns

theorem World.Good.referable {b : Bond} (h : World.Good b f agreed w) : w.files.Referable := by
  intro p s hs
  have hread : ∃ r, r.Sound ∧ Record.read s = .ok r := by
    cases h.sound hs with
    | record g id sound writable own => exact ⟨_, sound, Record.read_write sound writable⟩
  obtain ⟨r, hr, hread⟩ := hread
  refine ⟨r, hread, fun name t ht columns hperm => ?_⟩
  exact (hr.tables ht).toWellFormed.answers (hperm.trans (List.mergeSort_perm _ _).symm)

/-- In every table that a run leaves behind, and after every further change of tables and columns, the
order in which columns are searched does not matter: a name in any case means its column, and `i` with a
number the column that has this index, if none goes by such a name. -/
theorem Reachable.references_answered (h : Reachable f agreed w) :
    w.files.Referable ∧ ∀ id (q : Schema.Request), ((q.run f id).exec w).2.files.Referable :=
  ⟨h.good.referable, fun id q => (h.request (.schema id q)).good.referable⟩

/-- The column that a table has beside the protected ones answers to its name and to its place. -/
theorem Reachable.priced_column_answers : ∃ s r t c,
    World.priced.val.files.get? (RecordFolder.place ⟨"data", false⟩ "a_0") = some (.text s) ∧
      Record.read s = .ok r ∧ r.tables.get? "entries" = some t ∧ c.name = "price" ∧
      Search.resolve t.ordered "PRICE".toList = .ok (some c) ∧
      Search.resolve t.ordered "I6".toList = .ok (some c) ∧
      Search.resolve t.ordered "i7".toList = .ok none := by
  obtain ⟨w, hreach, -, hcolumns⟩ := World.priced
  dsimp only
  obtain ⟨hreferable, -⟩ := hreach.references_answered
  obtain ⟨r, hr, hfound⟩ := Option.map_eq_some_iff.mp hcolumns
  obtain ⟨t, ht, hkeys⟩ := Option.map_eq_some_iff.mp (Prod.ext_iff.mp hfound).2
  have hok := eq_ok_of_toOption hr
  obtain ⟨r', hstores, hexec⟩ | ⟨-, hnone⟩ :=
    RecordFolder.read_cases hreach.good.sound ⟨"data", false⟩ "a_0"
  · obtain rfl : r' = r := by simpa [hexec] using hok
    have hread := Record.read_write hstores.sound hstores.writable
    have hwf := (hstores.sound.tables ht).toWellFormed
    obtain ⟨r'', hread', htables⟩ := hreferable _ _ hstores.file
    obtain rfl : r'' = r' := by simpa [hread] using hread'.symm
    have hanswers := htables "entries" t ht t.ordered (List.mergeSort_perm _ _)
    have hseven : t.columns.length = 7 := by
      have := congrArg List.length hkeys
      simpa [Fields.keys, Column.protectedNames, Column.protectedColumns] using this
    have hprice : "price" ∈ t.columns.keys := by
      rw [hkeys]
      decide
    obtain ⟨c, hc⟩ := Option.isSome_iff_exists.mp (Fields.get?_isSome_iff.mpr hprice)
    have hname := (hwf.named hc).1
    have hmem : c ∈ t.ordered := (Table.mem_ordered_iff hwf).mpr (hname ▸ hc)
    have hindex : c.index = 6 := by
      have hlow : (6 : Int) ≤ c.index := hwf.index_of_not_protected (by decide) hc
      have hhigh := (hwf.range hc).2
      omega
    -- No column goes by a name that reads as a place.
    have hfree : ∀ digits, (∀ name ∈ Column.protectedNames ++ ["price"], name.toList ≠ 'i' :: digits) →
        ∀ e ∈ t.ordered, e.name.toList ≠ 'i' :: digits := by
      intro digits hnames e he
      exact hnames e.name (hkeys ▸ Fields.mem_keys ((Table.mem_ordered_iff hwf).mp he))
    refine ⟨_, r'', t, c, hstores.file, hread, ht, hname, ?_, ?_, ?_⟩
    · exact hanswers.named c hmem _ (by rw [hname]; decide +kernel)
    · have hsix := hanswers.placed _ ['6'] ⟨.inr rfl, by decide, by decide⟩ (hfree _ (by decide))
      exact hsix.1 c hmem hindex
    · have hseventh := hanswers.placed _ ['7'] ⟨.inl rfl, by decide, by decide⟩ (hfree _ (by decide))
      refine hseventh.2 ?_
      rw [Table.length_ordered, hseven]
      decide
  · simp [hnone] at hok

end Cabinet

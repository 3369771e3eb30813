import Cabinet.Proofs.Fields
import Cabinet.Workspace.Stores

/-!
Files by their places: what is found after a file is put, dropped or moved, and which places the
records and the stored tables of an id have.
-/

namespace Cabinet

namespace Files

theorem get?_drop (p : Place) (files : Files) (q : Place) :
    (files.drop p).get? q = if q = p then none else files.get? q :=
  lookup_filter_ne files p q

theorem get?_put (p : Place) (f : File) (files : Files) (q : Place) :
    (files.put p f).get? q = if q = p then some f else files.get? q := by
  by_cases h : q = p
  · simp [put, get?, h]
  · have hd := get?_drop p files q
    rw [if_neg h] at hd ⊢
    simpa [put, get?, List.lookup_cons, beq_eq_false_iff_ne.mpr h] using hd

theorem get?_put_self (p : Place) (f : File) (files : Files) : (files.put p f).get? p = some f :=
  (get?_put ..).trans (if_pos rfl)

theorem get?_put_of_ne {p q : Place} (h : q ≠ p) (f : File) (files : Files) :
    (files.put p f).get? q = files.get? q :=
  (get?_put ..).trans (if_neg h)

theorem drop_put (p : Place) (f : File) (files : Files) : (files.put p f).drop p = files.drop p := by
  rw [put, drop, List.filter_cons_of_neg (by simp), drop, List.filter_filter]
  refine List.filter_congr fun e _ => ?_
  rw [Bool.and_self]

theorem drop_drop (p q : Place) (files : Files) : (files.drop p).drop q = (files.drop q).drop p := by
  simp only [drop, List.filter_filter]
  exact List.filter_congr fun e _ => Bool.and_comm ..

theorem drop_put_of_ne {p q : Place} (h : p ≠ q) (f : File) (files : Files) :
    (files.put p f).drop q = (files.drop q).put p f := by
  rw [put, put, drop_drop q p]
  exact List.filter_cons_of_pos (bne_iff_ne.mpr h)

theorem put_put (p : Place) (f g : File) (files : Files) : (files.put p f).put p g = files.put p g := by
  rw [put, drop_put, put]

theorem move_put (p q : Place) (f : File) (files : Files) :
    (files.put p f).move p q = (files.drop p).put q f := by
  rw [move, get?_put_self, drop_put]

theorem drop_of_get?_none {p : Place} {files : Files} (h : files.get? p = none) : files.drop p = files := by
  refine List.filter_eq_self.mpr fun entry hentry => ?_
  exact bne_iff_ne.mpr (Ne.symm (bne_iff_ne.mp (List.lookup_eq_none_iff.mp h entry hentry)))

/-- A name that is longer than every one that there is goes by no file. -/
theorem get?_unused (folder : String) (files : Files) : files.get? (files.unused folder) = none := by
  refine List.lookup_eq_none_iff.mpr fun entry hentry => ?_
  have hmem : entry.1.name.length ∈ files.map (·.1.name.length) := List.mem_map_of_mem hentry
  have hle := List.le_max?_getD_of_mem (k := 0) hmem
  have hlength : (files.unused folder).name.length =
      (files.map (·.1.name.length)).max?.getD 0 + 7 := by
    have hbegin : "tmp".length = 3 := rfl
    have hend : ".tmp".length = 4 := rfl
    simp only [unused, String.length_append, String.length_ofList, List.length_replicate, hbegin, hend]
    omega
  have hne : files.unused folder ≠ entry.1 := by
    intro h
    rw [h] at hlength
    omega
  exact bne_iff_ne.mpr hne

theorem get?_move {source : Place} {f : File} {files : Files} (h : files.get? source = some f)
    (target q : Place) :
    (files.move source target).get? q =
      if q = target then some f else if q = source then none else files.get? q := by
  rw [move, h]
  exact (get?_put ..).trans (by rw [get?_drop])

theorem has_eq (files : Files) (p : Place) : files.has p = (files.get? p).isSome := by
  induction files with
  | nil => rfl
  | cons entry rest ih =>
    obtain ⟨q, f⟩ := entry
    simp only [has, get?, List.any_cons, List.lookup_cons] at ih ⊢
    by_cases h : p = q
    · simp [h]
    · have h' : q ≠ p := Ne.symm h
      simp [ih, beq_eq_false_iff_ne.mpr h, beq_eq_false_iff_ne.mpr h']

end Files

@[simp] theorem Folders.records_folder (f : Folders) : f.records.folder = f.data := rfl

@[simp] theorem Folders.backupRecords_folder (f : Folders) : f.backupRecords.folder = f.backup := rfl

theorem Text.append_suffix_injective (suffix : String) :
    Function.Injective fun s : String => s ++ suffix := by
  intro a b h
  have h' := congrArg String.toList h
  simp only [String.toList_append, List.append_cancel_right_eq] at h'
  exact String.toList_injective h'

namespace Store

theorem place_injective {folder folder' id id' : String}
    (h : place folder id = place folder' id') : folder = folder' ∧ id = id' := by
  simp only [place, Place.mk.injEq] at h
  exact ⟨h.1, Text.append_suffix_injective _ h.2⟩

end Store

namespace RecordFolder

theorem place_injective {f f' : RecordFolder} {id id' : String}
    (h : f.place id = f'.place id') : f.folder = f'.folder ∧ id = id' := by
  simp only [place, Place.mk.injEq] at h
  exact ⟨h.1, Text.append_suffix_injective _ h.2⟩

/-- No file is both a record and stored tables: the names end differently. -/
theorem place_ne (f : RecordFolder) (folder id id' : String) :
    f.place id ≠ Store.place folder id' := by
  intro h
  have h' := congrArg (fun p : Place => p.name.toList.reverse.head?) h
  simp [place, Store.place, suffix, Store.suffix] at h'

end RecordFolder

end Cabinet

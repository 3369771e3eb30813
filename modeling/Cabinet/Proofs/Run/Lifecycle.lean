import Cabinet.Proofs.Run.Frame
import Cabinet.Proofs.Schema.Making

/-!
The files of databases and of backups through their lives: they come in pairs, nothing else is left
behind, and what fails to make or to rename a database changes no file.
-/

namespace Cabinet

open Operation Storage

variable {f : Folders} {g : RecordFolder} {agreed : Bool} {w w' : World} {id : String}

/-- Every place is there once, and all places are those of databases and of backups. -/
theorem Reachable.tidy (h : Reachable f agreed w) :
    (w.files.map (·.1)).Nodup ∧ ∀ e ∈ w.files, f.Has e.1 := by
  induction h with
  | start => exact ⟨List.nodup_nil, fun e he => nomatch he⟩
  | request h q ih =>
    have htouched := q.touched h.good.sound f
    exact ⟨htouched.distinct ih.1, htouched.inside ih.2⟩
  | wait _ _ ih => exact ih
  | inject _ _ ih => exact ih

section Listing

theorem RecordFolder.stem?_eq_some {suffix name id : String} :
    RecordFolder.stem? suffix name = some id ↔ name = id ++ suffix := by
  unfold RecordFolder.stem?
  split
  · next hsuffix =>
    obtain ⟨stem, hstem⟩ := List.isSuffixOf_iff_suffix.mp hsuffix
    have hlength : name.length = stem.length + suffix.length := by
      rw [← String.length_toList, ← hstem, List.length_append, String.length_toList]
    have htake : name.toList.take (name.length - suffix.length) = stem := by
      rw [hlength, Nat.add_sub_cancel, ← hstem, List.take_left]
    rw [htake, Option.some.injEq]
    constructor
    · rintro rfl
      apply String.toList_injective
      rw [String.toList_append, String.toList_ofList, hstem]
    · rintro rfl
      apply String.toList_injective
      rw [String.toList_append] at hstem
      rw [String.toList_ofList, List.append_cancel_right hstem]
  · next hno =>
    refine iff_of_false (fun h => nomatch h) ?_
    rintro rfl
    exact hno (List.isSuffixOf_iff_suffix.mpr ⟨id.toList, by rw [String.toList_append]⟩)

theorem Files.mem_namesIn {files : Files} {folder name : String} :
    name ∈ files.namesIn folder ↔ (files.get? ⟨folder, name⟩).isSome = true := by
  rw [← Files.has_eq, Files.has, List.any_eq_true, namesIn, Text.sort,
    (List.mergeSort_perm _ _).mem_iff]
  simp only [List.mem_map, List.mem_filter, beq_iff_eq]
  constructor
  · rintro ⟨e, ⟨he, hfolder⟩, hname⟩
    exact ⟨e, he, Place.mk.injEq .. ▸ ⟨hfolder, hname⟩⟩
  · rintro ⟨e, he, hplace⟩
    exact ⟨e, ⟨he, by rw [hplace]⟩, by rw [hplace]⟩

/-- The ids of the stored tables in a folder are those that have a file there. -/
theorem Files.mem_ids {files : Files} {folder id : String} :
    id ∈ (files.namesIn folder).filterMap (RecordFolder.stem? Store.suffix) ↔
      (files.get? (Store.place folder id)).isSome = true := by
  simp only [List.mem_filterMap, RecordFolder.stem?_eq_some, Files.mem_namesIn]
  constructor
  · rintro ⟨name, hname, rfl⟩
    exact hname
  · exact fun h => ⟨_, h, rfl⟩

theorem Files.nodup_ids {files : Files} (h : (files.map (·.1)).Nodup) (folder : String) :
    ((files.namesIn folder).filterMap (RecordFolder.stem? Store.suffix)).Nodup := by
  have hnames : ((files.filter (·.1.folder == folder)).map (·.1.name)).Nodup := by
    have hsub : ((files.filter (·.1.folder == folder)).map (·.1)).Sublist (files.map (·.1)) :=
      List.filter_sublist.map _
    have hmap : (files.filter (·.1.folder == folder)).map (·.1.name) =
        ((files.filter (·.1.folder == folder)).map (·.1)).map Place.name := by
      rw [List.map_map]
      rfl
    rw [hmap]
    -- Within one folder, a place is known by its name.
    refine (h.sublist hsub).map_on fun p hp q hq hname => ?_
    obtain ⟨e, he, rfl⟩ := List.mem_map.mp hp
    obtain ⟨e', he', rfl⟩ := List.mem_map.mp hq
    have hfolder := beq_iff_eq.mp (List.mem_filter.mp he).2
    have hfolder' := beq_iff_eq.mp (List.mem_filter.mp he').2
    exact Place.mk.injEq .. ▸ ⟨hfolder.trans hfolder'.symm, hname⟩
  refine (Text.nodup_sort hnames).filterMap fun name name' id hid hid' => ?_
  rw [Option.mem_def, RecordFolder.stem?_eq_some] at hid hid'
  rw [hid, hid']

/-- The records of ids that all have one are read one after another. -/
theorem RecordFolder.exec_mapM_read (g : RecordFolder) (ids : List String) (w : World)
    (h : ∀ id ∈ ids, ∃ r, g.Stores id r w.files) :
    ∃ records, (ids.mapM g.read).exec w = (.ok records, w) ∧ records.map (·.id) = ids.map .text ∧
      ∀ r, r ∈ records ↔ ∃ id ∈ ids, g.Stores id r w.files := by
  induction ids with
  | nil => exact ⟨[], rfl, rfl, by simp⟩
  | cons id rest ih =>
    obtain ⟨⟨r, hr⟩, hrest⟩ := List.forall_mem_cons.mp h
    obtain ⟨records, hexec, hids, hmem⟩ := ih hrest
    refine ⟨r :: records, ?_, by simp [hids, hr.own], fun r' => ?_⟩
    · rw [List.mapM_cons, exec_bind, hr.read]
      simp only [exec_bind, hexec, exec_pure]
    · rw [List.mem_cons, List.exists_mem_cons_iff, hmem]
      exact or_congr_left ⟨fun heq => heq ▸ hr, fun h => h.unique (w := w) hr⟩

end Listing

namespace Databases

/-- Nothing is left of a new database that cannot be completed. -/
theorem complete_fails {name : String} {r : Record} {e : Error} (hs : w.files.Sound)
    (hr : f.records.Stores id r w.files) (h : (complete f id name).exec w = (.error e, w')) (p : Place) :
    (f.records.Owns id p → w'.files.get? p = none) ∧
      (¬f.records.Owns id p → w'.files.get? p = w.files.get? p) := by
  have htable := Schema.addTable_touches f id (.text firstTable) hs
  simp only [complete, exec_bind, exec_tryCatch] at h
  rcases hadd : (Schema.addTable f id (.text firstTable)).exec w with ⟨e' | t, w₁⟩
  all_goals rw [hadd] at h htable
  · simp only [exec_discard ((htable.sound hs).ne_folder _) ((htable.sound hs).ne_folder _),
      exec_throw] at h
    obtain rfl := (Prod.ext_iff.mp h).2
    rw [get?_discarded]
    exact ⟨fun hp => if_pos hp, fun hp => (if_neg hp).trans (htable.others p hp)⟩
  · -- The first table is there, and so is the record that is read.
    exfalso
    have hrun : (((Schema.Request.addTable (.text firstTable)).begin f id) >>= Schema.Request.rest).exec w =
        (.ok (), w₁) := by
      rw [← Schema.Request.run_eq, Schema.Request.run, exec_silent, hadd]
      rfl
    have hstores : ∃ r', f.records.Stores id r' w₁.files := by
      rcases (Schema.Request.begin_begins f id _).makes hs hrun with ⟨hsame, -⟩ | ⟨_, _, _, _, hmakes⟩
      · exact ⟨r, hsame ▸ hr⟩
      · exact ⟨_, hmakes.after⟩
    obtain ⟨r', hr'⟩ := hstores
    have hread : ∀ log, (f.records.read id).exec { w₁ with log } = (.ok r', { w₁ with log }) :=
      fun log => RecordFolder.Stores.read (w := { w₁ with log }) hr'
    simp only [exec_pure, exec_log, hread] at h
    cases (Prod.ext_iff.mp h).1

/-- A database that cannot be made changes no file. -/
theorem create_fails {given : Value} {description : String} {e : Error} (hs : w.files.Sound)
    (h : (create f given (.text description)).exec w = (.error e, w')) (p : Place) :
    w'.files.get? p = w.files.get? p := by
  rcases create_cases hs f given description with ⟨e', hexec⟩ |
    ⟨id, name, hstore, hrecord, hcan, hexec⟩
  · rw [hexec] at h
    obtain rfl := (Prod.ext_iff.mp h).2
    rfl
  have hr : (firstRecord id name description w.time).Sound :=
    (newRecord_sound id name description w.time).at_version 1
  have hbegun : Files.Touched f (f.records.Owns id) w.files (begun f id name description w).files :=
    ((Files.Touched.refl ..).put_tables fun _ => Database.regular_nil).put_record hr hcan.1 rfl
  rw [hexec] at h
  obtain ⟨hown, hother⟩ := complete_fails (hbegun.sound hs)
    (f.records.written_stores hr hcan.1 rfl _) h p
  -- Where the new database was begun there had been nothing, and nothing is left.
  by_cases hp : f.records.Owns id p
  · rw [hown hp]
    rcases hp with rfl | rfl
    · exact hstore.symm
    · exact hrecord.symm
  · exact (hother hp).trans (hbegun.others p hp)

/-- A database that cannot be renamed changes no file, unless its file could not be moved back. -/
theorem rename_fails {given : Value} {e : Error} (hs : w.files.Sound)
    (h : (rename f id given).exec w = (.error e, w')) (hcalm : e.kind ≠ .inconsistent) (p : Place) :
    w'.files.get? p = w.files.get? p := by
  rcases rename_ends hs f id given with ⟨e', hexec⟩ | ⟨name, -, hends⟩
  · rw [hexec] at h
    obtain rfl := (Prod.ext_iff.mp h).2
    rfl
  rw [h] at hends
  cases hends with
  | refused => rfl
  | back movable => exact get?_move_back movable.tables movable.free p
  | stuck _ inconsistent => exact absurd inconsistent hcalm

/-- A database that is renamed goes to its new id with its tables and its record, of which only the
labels change. -/
theorem rename_moves {given : Value} {new : Record} (hs : w.files.Sound)
    (h : (rename f id given).exec w = (.ok new, w')) :
    ∃ name r db, given = .text name ∧ Movable f id (Name.databaseId name w.time) r db w.files ∧
      new = { renamed r (Name.databaseId name w.time) name w.time with version := r.version + 1 } ∧
      f.records.Stores (Name.databaseId name w.time) new w'.files ∧
      ∀ p, w'.files.get? p =
        if f.records.Owns id p then none
        else if p = f.records.place (Name.databaseId name w.time) then some (.text new.write)
        else if p = Store.place f.data (Name.databaseId name w.time) then some (.database db)
        else w.files.get? p := by
  rcases rename_ends hs f id given with ⟨e', hexec⟩ | ⟨name, hname, hends⟩
  · rw [hexec] at h
    cases (Prod.ext_iff.mp h).1
  have hgiven : given = .text name := by
    unfold displayName at hname
    split at hname
    · split at hname <;> simp_all
    · simp at hname
  rw [h] at hends
  cases hends with
  | @moved r db log _ movable record writable =>
    have hne := movable.ne
    refine ⟨name, r, db, hgiven, ?_⟩
    generalize Name.databaseId name w.time = target at movable record hne ⊢
    have hsound : new.Sound := record ▸ (movable.stores.sound.relabel (Json.isPlain_text _)
      (Json.isPlain_text name) (Json.isPlain_text _)).at_version (r.version + 1)
    have hfiles : ∀ p, (((w.files.move (Store.place f.data id) (Store.place f.data target)).put
        (f.records.place target) (.text new.write)).drop (f.records.place id)).get? p =
          if f.records.Owns id p then none
          else if p = f.records.place target then some (.text new.write)
          else if p = Store.place f.data target then some (.database db)
          else w.files.get? p := by
      intro p
      have hstore : Store.place f.data id ≠ f.records.place target := (f.records.place_ne _ _ _).symm
      have hplace : Store.place f.data id ≠ Store.place f.data target :=
        fun heq => hne (Store.place_injective heq).2.symm
      rw [Files.get?_drop, Files.get?_put, Files.get?_move movable.tables]
      simp only [RecordFolder.Owns, Folders.records_folder]
      -- What was moved is gone, and its place is that of neither new file.
      by_cases hp : p = Store.place f.data id
      · simp [hp, hstore, hplace]
      · simp [hp]
    refine ⟨movable, record, ⟨?_, hsound, writable, by rw [record]; rfl⟩, hfiles⟩
    have hown : ¬f.records.Owns id (f.records.place target) := by
      rintro (heq | heq)
      · exact f.records.place_ne _ _ _ heq
      · exact hne (RecordFolder.place_injective heq).2
    rw [hfiles, if_neg hown, if_pos rfl]

end Databases

/-- Databases and backups are there with their records, and nothing else is; so the databases can be
listed. -/
structure Folders.Tidy (f : Folders) (w : World) : Prop where
  paired : ∀ g, g = f.records ∨ g = f.backupRecords → ∀ id,
    w.files.has (Store.place g.folder id) = w.files.has (g.place id)
  own : ∀ g, g = f.records ∨ g = f.backupRecords → ∀ id, w.files.has (g.place id) = true →
    ∃ r, (g.read id).exec w = (.ok r, w) ∧ r.id = .text id
  distinct : (w.files.map (·.1)).Nodup
  placed : ∀ e ∈ w.files, ∃ g id, (g = f.records ∨ g = f.backupRecords) ∧
    (e.1 = Store.place g.folder id ∨ e.1 = g.place id)
  listed : ∀ includeHidden, ∃ records, (Databases.list f includeHidden).exec w = (.ok records, w) ∧
    (records.map (·.id)).Nodup ∧ ∀ r, r ∈ records ↔ (includeHidden || !r.hidden) = true ∧
      ∃ id, w.files.has (Store.place f.data id) = true ∧ (f.records.read id).exec w = (.ok r, w)

theorem RecordFolder.Paired.has_iff {b : Bond} {files : Files} (h : g.Paired b id files) :
    files.has (Store.place g.folder id) = files.has (g.place id) := by
  rw [Files.has_eq, Files.has_eq]
  rcases h with ⟨hstore, hrecord⟩ | ⟨r, db, hr, hdb, -⟩
  · rw [hstore, hrecord]
  · rw [hdb, hr.file]
    rfl

/-- A record whose stored tables are there can be read. -/
theorem RecordFolder.Paired.stores {b : Bond} {files : Files} (h : g.Paired b id files)
    (hp : files.has (g.place id) = true) : ∃ r, g.Stores id r files := by
  rw [Files.has_eq] at hp
  rcases h with ⟨-, hrecord⟩ | ⟨r, db, hr, -⟩
  · simp [hrecord] at hp
  · exact ⟨r, hr⟩

theorem Reachable.listed (h : Reachable f true w) (includeHidden : Bool) :
    ∃ records, (Databases.list f includeHidden).exec w = (.ok records, w) ∧
      (records.map (·.id)).Nodup ∧ ∀ r, r ∈ records ↔ (includeHidden || !r.hidden) = true ∧
        ∃ id, w.files.has (Store.place f.data id) = true ∧
          (f.records.read id).exec w = (.ok r, w) := by
  -- Each stored table comes with its record, so none of the readings fails.
  have hstores : ∀ id ∈ (w.files.namesIn f.data).filterMap (RecordFolder.stem? Store.suffix),
      ∃ r, f.records.Stores id r w.files := by
    intro id hid
    rw [Files.mem_ids, ← Files.has_eq] at hid
    have hpaired := h.good.at (.inl rfl) id rfl
    exact hpaired.stores (hpaired.has_iff ▸ hid)
  have hnodup := Files.nodup_ids h.tidy.1 f.data
  obtain ⟨records, hexec, hids, hmem⟩ := f.records.exec_mapM_read _ w hstores
  refine ⟨records.filter fun r => includeHidden || !r.hidden, ?_, ?_, fun r => ?_⟩
  · simp only [Databases.list, exec_bind, exec_get, hexec, exec_pure]
  · have hall : (records.map (·.id)).Nodup := by
      rw [hids]
      exact hnodup.map fun id id' heq => Value.text.inj heq
    exact hall.sublist (List.filter_sublist.map _)
  · rw [List.mem_filter, hmem, and_comm]
    refine and_congr_right fun _ => exists_congr fun id => ?_
    rw [Files.mem_ids, ← Files.has_eq]
    refine and_congr_right fun hid => ⟨fun hr => hr.read, fun hread => ?_⟩
    obtain ⟨found, hfound⟩ := hstores id (Files.mem_ids.mpr (by rw [← Files.has_eq, hid]))
    obtain ⟨⟩ := hread.symm.trans hfound.read
    exact hfound

/-- As long as no inconsistency has been told of, databases and backups are there with their records
and nothing else is. A database or a backup that cannot be made changes no file, and no more does a
database that cannot be renamed. One that is renamed leaves nothing under its old id; its tables go to
the new one with the record, in which only the id, the name, the time and the version are others. -/
theorem Reachable.lifecycle (h : Reachable f true w) :
    f.Tidy w ∧
    (∀ {given description e w'}, (Databases.create f given (.text description)).exec w = (.error e, w') →
      ∀ p, w'.files.get? p = w.files.get? p) ∧
    (∀ {id e w'}, (Backups.create f id).exec w = (.error e, w') →
      ∀ p, w'.files.get? p = w.files.get? p) ∧
    (∀ {id given e w'}, (Databases.rename f id given).exec w = (.error e, w') →
      e.kind ≠ .inconsistent → ∀ p, w'.files.get? p = w.files.get? p) ∧
    ∀ {id given new w'}, (Databases.rename f id given).exec w = (.ok new, w') →
      ∃ name newId r db, given = .text name ∧ newId = Name.databaseId name w.time ∧
        (f.records.read id).exec w = (.ok r, w) ∧
        w.files.get? (Store.place f.data id) = some (.database db) ∧
        w'.files.get? (Store.place f.data id) = none ∧ w'.files.get? (f.records.place id) = none ∧
        w'.files.get? (Store.place f.data newId) = some (.database db) ∧
        (f.records.read newId).exec w' = (.ok new, w') ∧
        new = { r with
          id := .text newId
          displayName := .text name
          modifiedAt := .text (String.ofList (Calendar.momentText w.time))
          version := r.version + 1 } ∧
        ∀ p, ¬f.records.Owns id p → ¬f.records.Owns newId p → w'.files.get? p = w.files.get? p := by
  have hs := h.good.sound
  refine ⟨⟨fun g hg id => (h.good.at hg id rfl).has_iff, fun g hg id hp => ?_, h.tidy.1, h.tidy.2,
    h.listed⟩, Databases.create_fails hs, fun hexec p => ?_, Databases.rename_fails hs,
    fun {id given new w'} hexec => ?_⟩
  · obtain ⟨r, hr⟩ := (h.good.at hg id rfl).stores hp
    exact ⟨r, hr.read, hr.own⟩
  · rcases Backups.create_cases hs f _ with ⟨e', hrefused⟩ | ⟨r, db, log, -, hdone⟩
    · obtain rfl := (Prod.ext_iff.mp (hexec.symm.trans hrefused)).2
      rfl
    · cases (Prod.ext_iff.mp (hexec.symm.trans hdone)).1
  · obtain ⟨name, r, db, hgiven, hmovable, hnew, hstores, hfiles⟩ := Databases.rename_moves hs hexec
    -- The old id and the new one differ, as nothing may be at the place of the new one; so the four
    -- files are four.
    have hne := hmovable.ne
    refine ⟨name, _, r, db, hgiven, rfl, hmovable.stores.read, hmovable.tables, ?_, ?_, ?_,
      hstores.read, hnew, fun p hp hp' => ?_⟩
    · exact (hfiles _).trans (if_pos (f.records.owns_store _))
    · exact (hfiles _).trans (if_pos (f.records.owns_record _))
    · have hown : ¬f.records.Owns id (Store.place f.data (Name.databaseId name w.time)) := by
        rintro (heq | heq)
        · exact hne (Store.place_injective heq).2
        · exact f.records.place_ne _ _ _ heq.symm
      rw [hfiles, if_neg hown, if_neg (f.records.place_ne _ _ _).symm, if_pos rfl]
    · have hrecord : p ≠ f.records.place (Name.databaseId name w.time) := fun heq => hp' (.inr heq)
      have hstore : p ≠ Store.place f.data (Name.databaseId name w.time) := fun heq => hp' (.inl heq)
      rw [hfiles, if_neg hp, if_neg hrecord, if_neg hstore]

/-- A workspace with a database that can be renamed. -/
def World.renamable : Folders.Sample ⟨"data", "backup"⟩ fun w =>
    w.time = 0 ∧ ((Databases.rename ⟨"data", "backup"⟩ "a_0" (.text "b")).exec w).1.isOk = true :=
  Request.sample _ Request.priced (by decide +kernel)

/-- The database goes to its new id. -/
theorem Reachable.renamed_database :
    ∃ new w' db, (Databases.rename ⟨"data", "backup"⟩ "a_0" (.text "b")).exec World.renamable.val =
        (.ok new, w') ∧
      World.renamable.val.files.get? (Store.place "data" "a_0") = some (.database db) ∧
      w'.files.get? (Store.place "data" "a_0") = none ∧
      w'.files.get? (Store.place "data" "b_0") = some (.database db) ∧
      Folders.Tidy ⟨"data", "backup"⟩ World.renamable.val := by
  obtain ⟨w, hreach, htime, hok⟩ := World.renamable
  dsimp only
  obtain ⟨htidy, -, -, -, hmoves⟩ := hreach.lifecycle
  rcases hexec : (Databases.rename ⟨"data", "backup"⟩ "a_0" (.text "b")).exec w with ⟨e | new, w'⟩
  · simp [hexec, Except.isOk, Except.toBool] at hok
  obtain ⟨name, newId, r, db, hname, rfl, -, hdb, hstore, -, hnew, -⟩ := hmoves hexec
  obtain rfl : "b" = name := Value.text.inj hname
  have hid : Name.databaseId "b" w.time = "b_0" := by
    rw [htime]
    decide
  rw [hid] at hnew
  exact ⟨new, w', db, rfl, hdb, hstore, hnew, htidy⟩

end Cabinet

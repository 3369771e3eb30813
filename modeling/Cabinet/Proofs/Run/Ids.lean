import Cabinet.Proofs.Run.Lifecycle
import Cabinet.Proofs.Run.Numbers

/-!
The lives of tables: a table is renamed, goes with its database to another id, is copied into a backup
and out of it, and the next id in it is above all that were given before.
-/

namespace Cabinet

open Operation Storage

variable {f : Folders} {agreed : Bool} {id givenTable : String} {w w' : World}
  {here there : Spot} {n : List Int × Int}

/-- An operation that succeeds, by which the table at a spot comes to another one. -/
inductive Carries (f : Folders) (w : World) (here : Spot) : World → Spot → Prop
  | tableRenamed {id given name : String} {new : Value} {w' : World} (goes : here.Goes f id given)
    (hname : Schema.newName "Table" new = .ok name)
    (hexec : (Schema.moveTable f id given new).exec w = (.ok (), w')) :
    Carries f w here w' ⟨f.data, id, name⟩
  | databaseRenamed {given : Value} {r : Record} {newId : String} {w' : World}
    (hfolder : here.folder = f.data)
    (hexec : (Databases.rename f here.id given).exec w = (.ok r, w')) (hid : r.id = .text newId) :
    Carries f w here w' ⟨f.data, newId, here.table⟩
  | backedUp {name : String} {w' : World} (hfolder : here.folder = f.data)
    (hexec : (Backups.create f here.id).exec w = (.ok name, w')) :
    Carries f w here w' ⟨f.backup, name, here.table⟩
  | restored {newId : String} {w' : World} (hfolder : here.folder = f.backup)
    (hexec : (Backups.restore f here.id).exec w = (.ok newId, w')) :
    Carries f w here w' ⟨f.data, newId, here.table⟩

/-- The spots at which a table is, or a copy of it, as long as it has been there without a break. -/
inductive Lives (f : Folders) (w : World) (here : Spot) : World → Spot → Prop
  | refl : Lives f w here w here
  | request {w' : World} {there : Spot} (h : Lives f w here w' there) (q : Request)
    (stays : (((q.run f).exec w').2.numbers there).isSome = true) :
    Lives f w here ((q.run f).exec w').2 there
  | carried {w₁ w₂ : World} {there spot : Spot} (h : Lives f w here w₁ there)
    (carries : Carries f w₁ there w₂ spot) : Lives f w here w₂ spot
  | wait {w' : World} {there : Spot} (h : Lives f w here w' there) (time : Int) :
    Lives f w here { w' with time } there
  | inject {w' : World} {there : Spot} (h : Lives f w here w' there) (faults : Faults) :
    Lives f w here { w' with faults } there

namespace Schema

/-- A table that has been renamed has its numbers under the new name. -/
theorem moveTable_numbers {new : Value} {name : String} (hs : w.files.Sound) (hr : w.files.Regular)
    (hname : newName "Table" new = .ok name)
    (h : (moveTable f id givenTable new).exec w = (.ok (), w')) :
    w'.numbers ⟨f.data, id, name⟩ = w.numbers ⟨f.data, id, Name.normalize givenTable⟩ := by
  rw [moveTable, exec_bind, exec_of, hname] at h
  dsimp only at h
  rw [exec_bind] at h
  have hended := applyChange_ended f id hs (renameTable_lawful id (Name.normalize givenTable)
    (newName_eq_ok hname)) ("rename table '" ++ Name.normalize givenTable ++ "'")
  generalize (applyChange f id _ _).exec w = result at h hended
  cases hended with
  | refused | undone | diverged => cases (Prod.ext_iff.mp h).1
  | @kept found db out faults log changed =>
    obtain rfl := (Prod.ext_iff.mp h).2
    obtain ⟨t, stored, -, -, hrenamed, rfl⟩ := renameTable_eq_ok changed.change
    rw [World.numbers_of_stored (Files.get?_put_self _ _ _), World.numbers_of_stored changed.tables]
    exact ((hr.of_get? changed.tables).numbers_renameTable hrenamed).2

end Schema

/-- A table takes its numbers along. -/
theorem Carries.numbers (h : Carries f w here w' there) (hs : w.files.Sound) (hr : w.files.Regular) :
    w'.numbers there = w.numbers here := by
  obtain ⟨folder, id, table⟩ := here
  -- Where all tables have been moved or copied, so has each.
  have hmoved : ∀ {db : Database} {spot : Spot},
      w.files.get? (Store.place folder id) = some (.database db) → spot.table = table →
      w'.files.get? spot.place = some (.database db) →
      w'.numbers spot = w.numbers ⟨folder, id, table⟩ := by
    intro db spot hdb htable hdb'
    rw [World.numbers_of_stored hdb', World.numbers_of_stored hdb, htable]
  cases h with
  | tableRenamed goes hname hexec =>
    obtain ⟨rfl, rfl, hsame⟩ := goes
    exact (Schema.moveTable_numbers hs hr hname hexec).trans (World.numbers_of_sameName hsame).symm
  | @databaseRenamed given r newId w' hfolder hexec hid =>
    obtain rfl := hfolder
    obtain ⟨name, old, db, -, movable, rfl, -, hfiles⟩ := Databases.rename_moves hs hexec
    obtain rfl : _ = newId := Value.text.inj hid
    refine hmoved movable.tables rfl ?_
    rw [Spot.place, hfiles, if_neg ?_, if_neg (f.records.place_ne _ _ _).symm, if_pos rfl]
    rintro (heq | heq)
    · exact movable.ne (Store.place_injective heq).2
    · exact f.records.place_ne _ _ _ heq.symm
  | backedUp hfolder hexec =>
    obtain rfl := hfolder
    rcases Backups.create_cases hs f id with ⟨e, hfailed⟩ | ⟨r, db, log, hcopies, hdone⟩
    · cases (Prod.ext_iff.mp (hexec.symm.trans hfailed)).1
    obtain ⟨⟨⟩, rfl⟩ := Prod.ext_iff.mp (hexec.symm.trans hdone)
    exact hmoved hcopies.tables rfl (Backups.copied_tables f.backupRecords _ r db w)
  | restored hfolder hexec =>
    obtain rfl := hfolder
    rcases Backups.restore_cases hs f id with ⟨e, hfailed⟩ | ⟨r, db, log, hcopies, hdone⟩
    · cases (Prod.ext_iff.mp (hexec.symm.trans hfailed)).1
    obtain ⟨⟨⟩, rfl⟩ := Prod.ext_iff.mp (hexec.symm.trans hdone)
    exact hmoved hcopies.tables rfl (Backups.copied_tables f.records _ r db w)

/-- What an operation leads to of which there is a request. -/
theorem Reachable.request_exec {α : Type} {op : Operation α} {x : Except Error α}
    (h : Reachable f agreed w) (q : Request) (hq : q.run f = op.silent) (hexec : op.exec w = (x, w')) :
    ∃ agreed', Reachable f agreed' w' := by
  have hrun : ((q.run f).exec w).2 = w' := by rw [hq, exec_silent, hexec]
  exact ⟨_, hrun ▸ h.request q⟩

theorem Onward.reachable {allowed : Request → Prop} (h : Onward f allowed w w')
    (hw : Reachable f agreed w) : ∃ agreed', Reachable f agreed' w' := by
  induction h with
  | refl => exact ⟨agreed, hw⟩
  | request _ q _ ih =>
    obtain ⟨_, hw'⟩ := ih
    exact ⟨_, hw'.request q⟩
  | wait _ time ih =>
    obtain ⟨agreed', hw'⟩ := ih
    exact ⟨agreed', hw'.wait time⟩
  | inject _ faults ih =>
    obtain ⟨agreed', hw'⟩ := ih
    exact ⟨agreed', hw'.inject faults⟩

theorem Carries.reachable (h : Carries f w here w' there) (hw : Reachable f agreed w) :
    ∃ agreed', Reachable f agreed' w' := by
  cases h with
  | @tableRenamed id given _ new _ _ _ hexec =>
    have hrun : (((Request.schema id (.moveTable given new)).run f).exec w).2 = w' :=
      congrArg Prod.snd hexec
    exact ⟨_, hrun ▸ hw.request _⟩
  | databaseRenamed _ hexec => exact hw.request_exec (.renameDatabase _ _) rfl hexec
  | backedUp _ hexec => exact hw.request_exec (.createBackup _) rfl hexec
  | restored _ hexec => exact hw.request_exec (.restoreBackup _) rfl hexec

/-- In the life of a table, the greatest id that was ever given there does not become less. -/
theorem Lives.goes_on (h : Lives f w here w' there) (hw : Reachable f agreed w)
    (hn : w.numbers here = some n) :
    ∃ agreed' n', Reachable f agreed' w' ∧ w'.numbers there = some n' ∧ n.2 ≤ n'.2 := by
  induction h with
  | refl => exact ⟨agreed, n, hw, hn, Int.le_refl _⟩
  | request _ q stays ih =>
    obtain ⟨agreed', n', hw', hn', hle⟩ := ih
    obtain ⟨n'', hn''⟩ := Option.isSome_iff_exists.mp stays
    have hstep := q.renumbers hw'.good.sound hw'.regular f hn' hn''
    exact ⟨_, n'', hw'.request q, hn'', Int.le_trans hle hstep.last_le⟩
  | carried _ carries ih =>
    obtain ⟨agreed', n', hw', hn', hle⟩ := ih
    obtain ⟨agreed'', hw''⟩ := carries.reachable hw'
    exact ⟨agreed'', n', hw'', (carries.numbers hw'.good.sound hw'.regular).trans hn', hle⟩
  | wait _ time ih =>
    obtain ⟨agreed', n', hw', hn', hle⟩ := ih
    exact ⟨agreed', n', hw'.wait time, hn', hle⟩
  | inject _ faults ih =>
    obtain ⟨agreed', n', hw', hn', hle⟩ := ih
    exact ⟨agreed', n', hw'.inject faults, hn', hle⟩

section Creation

variable {data : List (String × Value)} {row : Fields Cell}

/-- A row that is created gets the id after the greatest one that was ever given. -/
theorem Rows.create_numbers (hs : w.files.Sound) (hr : w.files.Regular)
    (goes : here.Goes f id givenTable) (h : (create f id givenTable data).exec w = (.ok row, w')) :
    ∃ ids last, w.numbers here = some (ids, last) ∧
      w'.numbers here = some (ids ++ [last + 1], last + 1) ∧
      row.get? "id" = some (.integer (last + 1)) := by
  obtain ⟨t, s, new, hreplaced, -, hid, hget, -⟩ := create_appends hs hr h
  obtain ⟨hbefore, hafter, -⟩ := hreplaced.numbers
  rw [Sheet.numbers_appended hid] at hafter
  rw [hid] at hget
  obtain ⟨folder, id', table⟩ := here
  obtain ⟨rfl, rfl, hsame⟩ := goes
  rw [World.numbers_of_sameName hsame, World.numbers_of_sameName hsame]
  exact ⟨_, s.counter, hbefore, hafter, hget⟩

/-- A row that is created later in the life of a table gets an id above all that were given. -/
theorem Lives.create_above {w₁ w₂ : World} (h : Lives f w here w₁ there) (hw : Reachable f agreed w)
    (hn : w.numbers here = some n) (goes : there.Goes f id givenTable)
    (hcreate : (Rows.create f id givenTable data).exec w₁ = (.ok row, w₂)) :
    ∃ new, row.get? "id" = some (.integer new) ∧ n.2 < new := by
  obtain ⟨agreed', n', hw₁, hn', hle⟩ := h.goes_on hw hn
  obtain ⟨ids, last, hn'', -, hid⟩ := Rows.create_numbers hw₁.good.sound hw₁.regular goes hcreate
  obtain rfl := Option.some.inj (hn'.symm.trans hn'')
  exact ⟨last + 1, hid, Int.lt_add_one_of_le hle⟩

end Creation

/-- No row has an id above the greatest one that was ever given. -/
theorem World.numbers_below {ids : List Int} {last : Int} (hr : w.files.Regular)
    (hn : w.numbers here = some (ids, last)) : ∀ n ∈ ids, n ≤ last := by
  obtain ⟨db, hdb, hnumbers⟩ := numbers_eq_some.mp hn
  obtain ⟨s, hfind, heq⟩ := Option.map_eq_some_iff.mp hnumbers
  obtain ⟨rfl, rfl⟩ := Prod.ext_iff.mp heq
  intro n hmem
  obtain ⟨row, hrow, rfl⟩ := List.mem_map.mp hmem
  exact ((hr.of_get? hdb).of_find? hfind).below row hrow

/-- What is restored has the numbers that were backed up. -/
theorem Backups.restored_numbers {name newId : String} {w₁ w₂ w₃ : World} (hs : w.files.Sound)
    (hcreate : (create f id).exec w = (.ok name, w₁))
    (hbetween : Onward f (Request.Spares f name) w₁ w₂)
    (hrestore : (restore f name).exec w₂ = (.ok newId, w₃)) (table : String) :
    w₃.numbers ⟨f.data, newId, table⟩ = w.numbers ⟨f.data, id, table⟩ := by
  obtain ⟨r, db, hcopies, hcopies', hfiles⟩ := restore_copies hs hcreate hbetween hrestore
  have hstored : w₃.files.get? (Store.place f.data newId) = some (.database db) := by
    rw [hfiles]
    exact copied_tables f.records newId _ db w₂
  rw [World.numbers_of_stored hstored, World.numbers_of_stored hcopies.tables]

/-- A table in which a row can be made and removed again, and which can be renamed before another one is
made. -/
def World.remade : Folders.Sample ⟨"data", "backup"⟩ fun w =>
    (Operation.exec (do
      let _ ← Rows.create ⟨"data", "backup"⟩ "a_0" "entries" [("title", .text "three")]
      Rows.delete ⟨"data", "backup"⟩ "a_0" "entries" 3
      Schema.moveTable ⟨"data", "backup"⟩ "a_0" "entries" (.text "notes")
      Rows.create ⟨"data", "backup"⟩ "a_0" "notes" [("title", .text "four")]) w).1.isOk = true :=
  Request.sample _ Request.titled (by decide +kernel)

end Cabinet

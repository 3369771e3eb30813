import Cabinet.Proofs.Schema.Request

/-!
Changes of tables and columns keep databases paired with their records.
-/

namespace Cabinet

open Operation

/-- A record is written in the place of one that tells of the same stored tables. -/
theorem World.Good.rewrite {b : Bond} {f : Folders} {agreed : Bool} {w : World} {id : String}
    {found r : Record} (hw : Good b f agreed w) (hf : f.records.Stores id found w.files) (hs : r.Sound)
    (hwritable : Json.isWritable r.toDocument = true) (hown : r.id = .text id)
    (hdb : ∀ db : Storage.Database, db.Holds found.tables b.relation →
      db.Holds r.tables b.relation) {faults : Faults} (hfaults : f.records.Leaves w.faults faults) :
    Good b f agreed (f.records.written id r { w with faults }) := by
  have hstores := f.records.written_stores hs hwritable hown w
  refine hw.update f.records id ?_ (fun p _ hp => ?_) (fun hb => ?_) (.of_leaves hfaults _ _)
  · exact hw.sound.put (.record _ id hs hwritable hown)
  · exact Files.get?_put_of_ne hp _ _
  · refine (hw.at (.inl rfl) id hb).replace hf hstores ?_ hdb
    exact Files.get?_put_of_ne (f.records.place_ne _ _ _).symm _ _

namespace Schema

variable {α : Type} {b : Bond} {f : Folders} {id : String}

theorem applyRevision_keeps {revision : Revision α} (hr : revision.Lawful) :
    (applyRevision f id revision).Keeps b f := by
  intro agreed w hw
  rcases applyRevision_cases f id hw.sound hr with
    ⟨found, a, revised, faults, hrev, hexec⟩ | ⟨-, e, faults, hleft, -, hexec⟩
  swap
  · rw [hexec]
    exact (hw.weaken _).congr (fun _ => rfl) (.of_leaves hleft _ _)
  obtain ⟨hs, hid⟩ := hr.sound hrev.stores.sound hrev.revision
  have hdb : ∀ db : Storage.Database, db.Holds found.tables b.relation →
      db.Holds revised.tables b.relation :=
    fun db hdb => hr.faithful b.lasting hrev.stores.sound hdb hrev.revision
  rw [hexec]
  exact (hw.weaken _).rewrite hrev.stores (replacement_sound _ hs w.time) hrev.writes.1
    (hid.trans hrev.stores.own) hdb (.inr hrev.counted)

theorem applyChange_keeps {change : Change α} (hc : change.Lawful) (action : String) :
    (applyChange f id action change).Keeps b f := by
  intro agreed w hw
  have hended := applyChange_ended f id hw.sound hc action
  generalize (applyChange f id action change).exec w = result at hended ⊢
  -- One case for each way in which a change ends. Only the one that diverges parts record and
  -- tables, and it tells of it.
  cases hended with
  | refused _ leaves => exact (hw.weaken _).congr (fun _ => rfl) (.of_leaves leaves _ _)
  | @kept found db out faults log changed =>
    obtain ⟨hs, hid⟩ := hc.sound changed.stores.sound changed.change
    have hsound := replacement_sound found hs w.time
    have hown := hid.trans changed.stores.own
    refine (hw.weaken _).update f.records id ?_ (fun p hstore hrecord => ?_) (fun hb => ?_)
      (.of_leaves (.inr changed.counted) _ _)
    · exact (hw.sound.put (.record _ id hsound changed.writes.1 hown)).put (.tables f.data id out.stored)
    · exact (Files.get?_put_of_ne hstore _ _).trans (Files.get?_put_of_ne hrecord _ _)
    · have hholds := ((hw.weaken _).at (.inl rfl) id hb).holds changed.stores changed.tables
      refine .inr ⟨replacement found out.record w.time, out.stored, ⟨?_, hsound, changed.writes.1, hown⟩,
        Files.get?_put_self _ _ _, hc.faithful b.lasting changed.stores.sound hholds changed.change⟩
      exact (Files.get?_put_of_ne (f.records.place_ne _ _ _) _ _).trans (Files.get?_put_self _ _ _)
  | @undone found db out faults left log e changed commit restores =>
    obtain ⟨hs, hid⟩ := hc.sound changed.stores.sound changed.change
    have hsound := replacement_sound found hs w.time
    obtain ⟨left', -, hwritable, -⟩ := restores
    have hrestored := f.records.written_stores (changed.stores.sound.at_version (found.version + 2))
      hwritable changed.stores.own { w with
        files := w.files.put (f.records.place id) (.text (replacement found out.record w.time).write) }
    refine (hw.weaken _).update f.records id ?_ (fun p _ hp => ?_) (fun hb => ?_)
      (.of_harmful (fun harmless => ?_) _ _ _)
    · exact (hw.sound.put (.record _ id hsound changed.writes.1 (hid.trans changed.stores.own))).put
        (.record _ id hrestored.sound hrestored.writable hrestored.own)
    · exact (Files.get?_put_of_ne hp _ _).trans (Files.get?_put_of_ne hp _ _)
    · refine ((hw.weaken _).at (.inl rfl) id hb).replace changed.stores hrestored ?_ fun db hdb => hdb
      have hne := (f.records.place_ne f.data id id).symm
      exact (Files.get?_put_of_ne hne _ _).trans (Files.get?_put_of_ne hne _ _)
    · exact nomatch commit.symm.trans harmless.1
  | @diverged found db out faults left log e changed commit stuck inconsistent =>
    obtain ⟨hs, hid⟩ := hc.sound changed.stores.sound changed.change
    have hsound := replacement_sound found hs w.time
    have hfaults : ¬w.faults.Harmless := fun harmless => nomatch commit.symm.trans harmless.1
    refine hw.parted (by simp [tells, inconsistent]) hfaults (.of_harmful hfaults _ _ _) ?_
    exact hw.sound.put (.record _ id hsound changed.writes.1 (hid.trans changed.stores.own))

/-- Whatever an operation does that changes tables and columns, pairs are kept. -/
theorem Mutation.keeps {op : Operation α} (h : Mutation f id op) : op.Keeps b f := by
  induction h with
  | revision lawful => exact applyRevision_keeps lawful
  | change action lawful => exact applyChange_keeps lawful action
  | answer x => exact .of x
  | check _ _ ih => exact .of_bind ih
  | reading reads _ ih => exact reads.keeps.bind ih
  | quietly _ quiet ih => exact ih.bind fun a => (quiet a).keeps

/-- Looking at the answer or not makes no difference. -/
theorem keeps_of_silent {op : Operation α} (h : op.silent.Keeps b f) : op.Keeps b f := by
  intro agreed w hw
  have hsilent := h hw
  rw [exec_silent] at hsilent
  rcases hop : op.exec w with ⟨e | a, w'⟩ <;> rw [hop] at hsilent <;> exact hsilent

theorem addTable_keeps (f : Folders) (id : String) (name : Value) : (addTable f id name).Keeps b f :=
  keeps_of_silent ((Request.addTable name).run_mutation f id).keeps

end Schema

end Cabinet

import Cabinet.Proofs.Run.Basic

/-!
What is left behind by changes of tables and columns that fail.
-/

namespace Cabinet

open Operation

/-- The workspace with commits that fail or do not. -/
def World.committing (w : World) (commit : Bool) : World :=
  { w with faults := { w.faults with commit } }

namespace Schema

variable {α β : Type} {f : Folders} {id : String} {w : World} {found : Record}

/-- An operation as it ends, beside the same operation where nothing keeps a commit from
succeeding. -/
inductive Twin (f : Folders) (id : String) (w : World) :
    Except Error α × World → Except Error α × World → Prop
  | done {a : α} {w' : World} (there : Except Error α × World) : Twin f id w (.ok a, w') there
  | refused {e e' : Error} {faults : Faults} {log : List LogEntry} {there : World}
    (calm : e.kind ≠ .inconsistent) :
    Twin f id w (.error e, { w with faults, log }) (.error e', there)
  | undone {e : Error} {a : α} {w' there : World} {found new : Record}
    (before : f.records.Stores id found w.files) (after : f.records.Stores id new there.files)
    (next : new.version = found.version + 1) (restores : CanRestore f found there.faults)
    (calm : e.kind ≠ .inconsistent) (restored : f.records.Stores id (restored found) w'.files)
    (others : ∀ p, p ≠ f.records.place id → w'.files.get? p = w.files.get? p) :
    Twin f id w (.error e, w') (.ok a, there)
  | diverged {e : Error} {a : α} {w' there : World} {found new : Record}
    (before : f.records.Stores id found w.files) (after : f.records.Stores id new there.files)
    (next : new.version = found.version + 1) (stuck : ¬CanRestore f found there.faults)
    (inconsistent : e.kind = .inconsistent) (left : f.records.Stores id new w'.files)
    (others : ∀ p, p ≠ f.records.place id → w'.files.get? p = w.files.get? p) :
    Twin f id w (.error e, w') (.ok a, there)

/-- Whether a commit fails makes no difference to what comes before it. -/
theorem Revises.committing {revision : Revision α} {a : α} {revised : Record} {faults : Faults}
    (h : Revises f id revision w found a revised faults) (commit : Bool) :
    Revises f id revision (w.committing commit) found a revised { faults with commit } :=
  ⟨h.stores, h.revision, by
    rw [World.committing, RecordFolder.counted?_commit, h.counted, Option.map_some], h.writes⟩

theorem Changes.committing {change : Change α} {db : Storage.Database} {out : Outcome α}
    {faults : Faults} (h : Changes f id change w found db out faults) (commit : Bool) :
    Changes f id change (w.committing commit) found db out { faults with commit } :=
  ⟨h.stores, h.tables, h.change, by
    rw [World.committing, RecordFolder.counted?_commit, h.counted, Option.map_some], h.writes⟩

theorem Changes.unique {change : Change α} {found' : Record} {db db' : Storage.Database}
    {out out' : Outcome α} {faults faults' : Faults} (h : Changes f id change w found db out faults)
    (h' : Changes f id change w found' db' out' faults') :
    found = found' ∧ db = db' ∧ out = out' ∧ faults = faults' := by
  obtain rfl := h.stores.unique h'.stores
  obtain ⟨⟩ := h.tables.symm.trans h'.tables
  obtain ⟨⟩ := h.change.symm.trans h'.change
  obtain ⟨⟩ := h.counted.symm.trans h'.counted
  exact ⟨rfl, rfl, rfl, rfl⟩

theorem canRestore_commit (faults : Faults) (commit : Bool) :
    CanRestore f found { faults with commit } ↔ CanRestore f found faults := by
  unfold CanRestore
  rw [RecordFolder.counted?_commit]
  cases f.records.counted? faults with
  | none => simp
  | some left => simp [RecordFolder.CanWrite]

theorem applyRevision_twin (hs : w.files.Sound) {revision : Revision α} (hr : revision.Lawful) :
    Twin f id w ((applyRevision f id revision).exec w)
      ((applyRevision f id revision).exec (w.committing false)) := by
  rcases applyRevision_cases f id hs hr with
    ⟨found, a, revised, faults, -, hexec⟩ | ⟨hunrevised, e, faults, -, hcalm, hexec⟩
  · rw [hexec]
    exact .done _
  rcases applyRevision_cases f id (w := w.committing false) hs hr with
    ⟨found, a, revised, faults', hrev, -⟩ | ⟨-, e', faults', -, -, hexec'⟩
  · exact absurd (hrev.committing w.faults.commit) (hunrevised _ _ _ _)
  · rw [hexec, hexec']
    exact .refused hcalm

theorem applyChange_twin (hs : w.files.Sound) {change : Change α} (hc : change.Lawful)
    (action : String) : Twin f id w ((applyChange f id action change).exec w)
      ((applyChange f id action change).exec (w.committing false)) := by
  have hhere := applyChange_ended f id hs hc action
  have hthere := applyChange_ended f id (w := w.committing false) hs hc action
  -- The commit is the last step, so both workspaces come to the same change or to none.
  generalize (applyChange f id action change).exec w = here at hhere ⊢
  generalize (applyChange f id action change).exec (w.committing false) = there at hthere ⊢
  cases hhere with
  | kept => exact .done _
  | refused unchanged _ calm =>
    cases hthere with
    | refused => exact .refused calm
    | kept changed => exact absurd (changed.committing w.faults.commit) (unchanged _ _ _ _)
    | undone _ commit => simp [World.committing] at commit
    | diverged _ commit => simp [World.committing] at commit
  | @undone found db out faults left log e changed commit restores calm =>
    cases hthere with
    | refused unchanged => exact absurd (changed.committing false) (unchanged _ _ _ _)
    | kept changed' =>
      obtain ⟨rfl, rfl, rfl, rfl⟩ := (changed.committing false).unique changed'
      have hwritable := restores.choose_spec.2.1
      refine .undone changed.stores (changed'.replaces hc ?_) rfl ((canRestore_commit ..).mpr restores) calm
        ⟨Files.get?_put_self _ _ _, changed.stores.sound.at_version _, hwritable, changed.stores.own⟩
        fun p hp => (Files.get?_put_of_ne hp _ _).trans (Files.get?_put_of_ne hp _ _)
      exact (Files.get?_put_of_ne (f.records.place_ne _ _ _) _ _).trans (Files.get?_put_self _ _ _)
    | undone _ commit => simp [World.committing] at commit
    | diverged _ commit => simp [World.committing] at commit
  | @diverged found db out faults left log e changed commit stuck inconsistent =>
    cases hthere with
    | refused unchanged => exact absurd (changed.committing false) (unchanged _ _ _ _)
    | kept changed' =>
      obtain ⟨rfl, rfl, rfl, rfl⟩ := (changed.committing false).unique changed'
      refine .diverged changed.stores (changed'.replaces hc ?_) rfl
        (mt (canRestore_commit ..).mp stuck) inconsistent
        (changed.replaces hc (Files.get?_put_self _ _ _)) fun p hp => Files.get?_put_of_ne hp _ _
      exact (Files.get?_put_of_ne (f.records.place_ne _ _ _) _ _).trans (Files.get?_put_self _ _ _)
    | undone _ commit => simp [World.committing] at commit
    | diverged _ commit => simp [World.committing] at commit

theorem Mutation.twin {op : Operation α} (h : Mutation f id op) (hs : w.files.Sound) :
    Twin f id w (op.exec w) (op.exec (w.committing false)) := by
  induction h with
  | revision lawful => exact applyRevision_twin hs lawful
  | change action lawful => exact applyChange_twin hs lawful action
  | answer x calm =>
    rw [exec_of, exec_of]
    cases x with
    | error e => exact .refused (calm e rfl)
    | ok a => exact .done _
  | @check _ _ x next calm _ ih =>
    rw [exec_bind, exec_bind, exec_of, exec_of]
    cases x with
    | error e => exact .refused (calm e rfl)
    | ok a => exact ih a rfl
  | reading reads _ ih =>
    obtain ⟨x, calm, hread⟩ := reads hs
    rw [exec_bind, exec_bind, hread w rfl, hread (w.committing false) rfl]
    cases x with
    | error e => exact .refused (calm e rfl)
    | ok a => exact ih a
  | @quietly _ _ op next _ quiet ih =>
    rw [exec_bind, exec_bind]
    -- What is noted after the change writes to the log alone, whichever way the change has ended.
    generalize op.exec w = here at ih ⊢
    generalize op.exec (w.committing false) = there at ih ⊢
    cases ih with
    | @done a w' =>
      obtain ⟨b, log, hnext⟩ := quiet a w'
      simp only [hnext]
      exact .done _
    | refused calm => exact .refused calm
    | @undone e a w' there found new before after next restores calm restored others =>
      obtain ⟨b, log, hnext⟩ := quiet a there
      simp only [hnext]
      exact .undone before after next restores calm restored others
    | @diverged e a w' there found new before after next stuck inconsistent left others =>
      obtain ⟨b, log, hnext⟩ := quiet a there
      simp only [hnext]
      exact .diverged before after next stuck inconsistent left others

/-- A request fails that would succeed if commits did. A commit is the last that can fail, and it
comes after the record has been replaced. -/
def Request.FailsAtCommit (f : Folders) (id : String) (q : Request) (w : World) : Prop :=
  (∃ e, ((q.run f id).exec w).1 = .error e) ∧ ∃ a, ((q.run f id).exec (w.committing false)).1 = .ok a

/-- After a request has replaced the record of a database, the record that was there before cannot
take its place again. -/
def Request.CannotPutBack (f : Folders) (id : String) (q : Request) (w : World) : Prop :=
  ∃ found e, ((f.records.read id).exec w).1 = .ok found ∧
    ((f.records.swap found (found.version + 1)).exec ((q.run f id).exec (w.committing false)).2).1 =
      .error e

theorem Request.FailsAtCommit.commit {q : Request} (h : q.FailsAtCommit f id w) :
    w.faults.commit = true := by
  obtain ⟨⟨e, herror⟩, a, hok⟩ := h
  cases hcommit : w.faults.commit with
  | true => rfl
  | false =>
    rw [← hcommit] at hok
    exact nomatch herror.symm.trans hok

/-- A record can be put back just if a swap with the one that has replaced it succeeds. -/
theorem swap_fails_iff {new : Record} (hn : f.records.Stores id new w.files)
    (hv : new.version = found.version + 1) (hid : found.id = .text id) :
    (∃ e, ((f.records.swap found (found.version + 1)).exec w).1 = .error e) ↔
      ¬CanRestore f found w.faults := by
  have hrestored : restored found = { found with version := new.version + 1 } := by
    rw [restored, hv, Int.add_assoc]
    rfl
  rw [← hv]
  rcases hn.swap_cases hid with ⟨left, hcounted, hwrites, hswap⟩ | ⟨hcannot, e, left, -, -, hswap⟩
  · rw [hswap]
    exact iff_of_false (by simp) (not_not.mpr ⟨left, hcounted, hrestored ▸ hwrites⟩)
  · rw [hswap]
    refine iff_of_true ⟨e, rfl⟩ ?_
    rintro ⟨left', hcounted, hwrites⟩
    exact hcannot left' hcounted (hrestored ▸ hwrites)

end Schema

/-- A change of tables and columns that fails leaves the stored tables with all their rows as they were,
and so all files but the record. The record stays as it is too, unless the commit has failed: then its
version counts up by two, or it is the new record that stays, which is told as an inconsistency. -/
theorem Reachable.failed_change {f : Folders} {agreed : Bool} {w : World} (h : Reachable f agreed w)
    (q : Schema.Request) (id : String) {e : Error} {w' : World}
    (he : (q.run f id).exec w = (.error e, w')) :
    (∀ id', w'.files.get? (Store.place f.data id') = w.files.get? (Store.place f.data id')) ∧
    (∀ p, p ≠ f.records.place id → w'.files.get? p = w.files.get? p) ∧
    (¬q.FailsAtCommit f id w →
      w'.files.get? (f.records.place id) = w.files.get? (f.records.place id)) ∧
    (q.FailsAtCommit f id w → w.faults.commit = true ∧ ∃ found new,
      (f.records.read id).exec w = (.ok found, w) ∧
      ((f.records.read id).exec ((q.run f id).exec (w.committing false)).2).1 = .ok new ∧
      new.version = found.version + 1 ∧
      (e.kind ≠ .inconsistent → (f.records.read id).exec w' =
        (.ok { found with version := found.version + 2 }, w')) ∧
      (e.kind = .inconsistent → (f.records.read id).exec w' = (.ok new, w'))) ∧
    (e.kind = .inconsistent ↔ q.FailsAtCommit f id w ∧ q.CannotPutBack f id w) := by
  have hcommit := fun hfails : q.FailsAtCommit f id w => hfails.commit
  have htwin := (q.run_mutation f id).twin h.good.sound
  rw [he] at htwin
  unfold Schema.Request.FailsAtCommit Schema.Request.CannotPutBack at *
  rw [he] at hcommit ⊢
  -- From here on the same request is run twice: in this world, and in one whose commits do not
  -- fail.
  generalize (q.run f id).exec (w.committing false) = there at htwin hcommit ⊢
  cases htwin with
  | refused calm => simp [calm]
  | @undone _ a _ there found new before after next restores calm restored others =>
    refine ⟨fun _ => others _ (f.records.place_ne _ _ _).symm, others, by simp, fun hfails =>
      ⟨hcommit hfails, found, new, before.read, congrArg Prod.fst after.read, next,
        fun _ => restored.read, fun hinc => absurd hinc calm⟩, ?_⟩
    refine iff_of_false calm fun ⟨_, found', e', hfound, hswap⟩ => ?_
    obtain ⟨⟩ := (congrArg Prod.fst before.read).symm.trans hfound
    exact (Schema.swap_fails_iff after next before.own).mp ⟨e', hswap⟩ restores
  | @diverged _ a _ there found new before after next stuck inconsistent left others =>
    refine ⟨fun _ => others _ (f.records.place_ne _ _ _).symm, others, by simp, fun hfails =>
      ⟨hcommit hfails, found, new, before.read, congrArg Prod.fst after.read, next,
        fun hcalm => absurd inconsistent hcalm, fun _ => left.read⟩, ?_⟩
    obtain ⟨e', hswap⟩ := (Schema.swap_fails_iff after next before.own).mpr stuck
    exact iff_of_true inconsistent ⟨⟨⟨_, rfl⟩, a, rfl⟩, found, e', congrArg Prod.fst before.read, hswap⟩

/-- A table that is not removed since the commit fails. -/
theorem Reachable.failed_removal :
    let w : World := { (Request.runAll ⟨"data", "backup"⟩ [.createDatabase (.text "a") ""] (true, {})).2 with
      faults := { commit := true } }
    ∃ e w' found, ((Schema.Request.removeTable "entries").run ⟨"data", "backup"⟩ "a_0").exec w =
        (.error e, w') ∧
      (RecordFolder.read ⟨"data", false⟩ "a_0").exec w = (.ok found, w) ∧
      (RecordFolder.read ⟨"data", false⟩ "a_0").exec w' =
        (.ok { found with version := found.version + 2 }, w') := by
  intro w
  have hreach : Reachable ⟨"data", "backup"⟩ _ w :=
    ((Reachable.start 0 {} []).runAll [.createDatabase (.text "a") ""]).inject { commit := true }
  have hrun : tells (((Schema.Request.removeTable "entries").run ⟨"data", "backup"⟩ "a_0").exec w).1 =
        false ∧
      (((Schema.Request.removeTable "entries").run ⟨"data", "backup"⟩ "a_0").exec w).1.isOk = false ∧
      (((Schema.Request.removeTable "entries").run ⟨"data", "backup"⟩ "a_0").exec
        (w.committing false)).1.isOk = true := by
    decide +kernel
  clear_value w
  obtain ⟨hcalm, herror, hcommitting⟩ := hrun
  rcases hexec : ((Schema.Request.removeTable "entries").run ⟨"data", "backup"⟩ "a_0").exec w with
    ⟨e | a, w'⟩
  swap
  · simp [hexec, Except.isOk, Except.toBool] at herror
  have hfails : (Schema.Request.removeTable "entries").FailsAtCommit ⟨"data", "backup"⟩ "a_0" w := by
    refine ⟨⟨e, congrArg Prod.fst hexec⟩, ?_⟩
    cases hthere : (((Schema.Request.removeTable "entries").run ⟨"data", "backup"⟩ "a_0").exec
        (w.committing false)).1 with
    | ok a => exact ⟨a, rfl⟩
    | error e => simp [hthere, Except.isOk, Except.toBool] at hcommitting
  obtain ⟨-, -, -, hback, -⟩ := hreach.failed_change (.removeTable "entries") "a_0" hexec
  obtain ⟨-, found, new, hfound, -, -, hrestored, -⟩ := hback hfails
  refine ⟨e, w', found, rfl, hfound, hrestored ?_⟩
  simpa [hexec, tells] using hcalm

end Cabinet

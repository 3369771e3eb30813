import Cabinet.Proofs.Workspace.Records

/-!
Clients of one record. Each reads it now and then, and swaps what it makes of what it has read for
what is stored; the steps of different clients come in any order.
-/

namespace Cabinet

/-- The record with an update made to it, as the next version. -/
def Record.updated (update : Record → Record) (r : Record) : Record :=
  { update r with version := r.version + 1 }

/-- What is read after an update has been made to a record and the result has been written. -/
def Record.after (r : Record) (update : Record → Record) : Record :=
  (r.updated update).kept

namespace RecordFolder

/-- What a client does next. Its update is made to the record it has read last. -/
inductive Turn (ι : Type) where
  | read (client : ι)
  | swap (client : ι) (update : Record → Record)

/-- A workspace with the record that each client has read last. -/
structure Clients (ι : Type) where
  world : World
  seen : ι → Option Record

/-- An update of the record of an id is one, too, and made of values that can be read again. -/
def Turn.Fits {ι : Type} (id : String) : Turn ι → Prop
  | read _ => True
  | swap _ update => ∀ r, r.Typed → r.id = .text id → (update r).Typed ∧ (update r).id = .text id

namespace Clients

variable {ι : Type} [DecidableEq ι] (f : RecordFolder) (id : String)

/-- One turn, and the update that has been made in it. -/
def turn (s : Clients ι) : Turn ι → Clients ι × Option (Record → Record)
  | .read i =>
    match (f.read id).exec s.world with
    | (.ok r, w) => (⟨w, fun j => if j = i then some r else s.seen j⟩, none)
    | (.error _, w) => (⟨w, s.seen⟩, none)
  | .swap i update =>
    match s.seen i with
    | none => (s, none)
    | some r =>
      match (f.swap (update r) r.version).exec s.world with
      | (.ok _, w) => (⟨w, s.seen⟩, some update)
      | (.error _, w) => (⟨w, s.seen⟩, none)

/-- One turn after the other, and the updates that have been made, the first one first. -/
def run (s : Clients ι) : List (Turn ι) → Clients ι × List (Record → Record)
  | [] => (s, [])
  | t :: rest =>
    let (s', update) := s.turn f id t
    let (s'', updates) := s'.run rest
    (s'', update.toList ++ updates)

/-- The record is stored, and a client that has read this version has read this record. -/
structure Follows (s : Clients ι) (stored : Record) : Prop where
  finds : f.Finds id stored s.world.files
  typed : stored.Typed
  own : stored.id = .text id
  faults : s.world.faults = {}
  seen : ∀ {i r}, s.seen i = some r → r.Typed ∧ r.id = .text id
  latest : ∀ {i r}, s.seen i = some r →
    r.version ≤ stored.version ∧ (r.version = stored.version → r = stored)

variable {f : RecordFolder} {id : String} {s : Clients ι} {stored r : Record} {turns : List (Turn ι)}
  {update : Record → Record} {i : ι}

theorem Follows.turn_read (h : s.Follows f id stored) (i : ι) :
    s.turn f id (.read i) = (⟨s.world, fun j => if j = i then some stored else s.seen j⟩, none) := by
  simp only [turn, h.finds.read]

theorem Follows.reads (h : s.Follows f id stored) (i : ι) :
    (s.turn f id (.read i)).1.Follows f id stored := by
  rw [h.turn_read]
  have hread : ∀ {j r}, (if j = i then some stored else s.seen j) = some r →
      r = stored ∨ s.seen j = some r := by
    intro j r hr
    split at hr
    · exact .inl (Option.some.inj hr).symm
    · exact .inr hr
  refine ⟨h.finds, h.typed, h.own, h.faults, fun hr => ?_, fun hr => ?_⟩
  · rcases hread hr with rfl | hr
    · exact ⟨h.typed, h.own⟩
    · exact h.seen hr
  · rcases hread hr with rfl | hr
    · exact ⟨Int.le_refl _, fun _ => rfl⟩
    · exact h.latest hr

/-- A record that has been written is found as what its document keeps. -/
theorem written_finds (hr : r.Typed) (hw : Json.isWritable r.toDocument = true) (w : World) :
    f.Finds id r.kept (f.written id r w).files := by
  simp only [Finds, written, Files.get?_put_self, readFile]
  exact Record.read_write_kept hr hw

/-- A swap is made if the client has read what is stored and its update can be written; otherwise
no file changes. -/
theorem Follows.swap_cases (h : s.Follows f id stored) (hseen : s.seen i = some r)
    (hu : (Turn.swap i update).Fits id) :
    (r = stored ∧ Json.isWritable (stored.updated update).toDocument = true ∧
      (s.turn f id (.swap i update)).2 = some update ∧
      (s.turn f id (.swap i update)).1.Follows f id (stored.after update)) ∨
    (¬(r = stored ∧ Json.isWritable (stored.updated update).toDocument = true) ∧
      (s.turn f id (.swap i update)).2 = none ∧
      (s.turn f id (.swap i update)).1.world.files = s.world.files ∧
      (s.turn f id (.swap i update)).1.Follows f id stored) := by
  obtain ⟨htyped, hown⟩ := h.seen hseen
  obtain ⟨htyped', hown'⟩ := hu r htyped hown
  have hcounted : f.counted? s.world.faults = some {} := by rw [h.faults, counted?_nothing]
  rcases h.finds.swap_cases hown' r.version with
    ⟨hversion, faults, hfaults, hcan, hexec⟩ | ⟨hcannot, e, faults, hfaults, -, hexec⟩
  · obtain rfl := (h.latest hseen).2 hversion.symm
    obtain rfl := Option.some.inj (hcounted.symm.trans hfaults)
    have hturn : s.turn f id (.swap i update) =
        (⟨f.written id (r.updated update) { s.world with faults := {} }, s.seen⟩, some update) := by
      simp only [turn, hseen, hexec, Record.updated]
    refine .inl ⟨rfl, hcan.1, by rw [hturn], ?_⟩
    rw [hturn]
    have hupdated : (r.updated update).Typed := htyped'.at_version _
    refine ⟨written_finds hupdated hcan.1 _, hupdated.kept, hown', rfl, h.seen, fun hr => ?_⟩
    -- Nobody has read the version that has just been written.
    have hle := (h.latest hr).1
    have hnext : (r.after update).version = r.version + 1 := rfl
    exact ⟨by omega, fun heq => by omega⟩
  · have hnone : faults = {} := by
      rcases hfaults with rfl | hfaults
      · exact h.faults
      · exact Option.some.inj (hfaults.symm.trans hcounted)
    have hturn : s.turn f id (.swap i update) = (⟨{ s.world with faults }, s.seen⟩, none) := by
      simp only [turn, hseen, hexec]
    refine .inr ⟨?_, by rw [hturn], by rw [hturn], ?_⟩
    · rintro ⟨rfl, hwritable⟩
      exact hcannot rfl {} hcounted ⟨hwritable, rfl⟩
    · rw [hturn]
      exact ⟨h.finds, h.typed, h.own, hnone, h.seen, h.latest⟩

/-- What one turn does to the record that is stored. -/
theorem Follows.turn (h : s.Follows f id stored) {t : Turn ι} (ht : t.Fits id) :
    (s.turn f id t).1.Follows f id ((s.turn f id t).2.toList.foldl Record.after stored) := by
  cases t with
  | read i =>
    have hnone : (s.turn f id (.read i)).2 = none := by rw [h.turn_read]
    rw [hnone]
    exact h.reads i
  | swap i update =>
    cases hseen : s.seen i with
    | none =>
      have hturn : s.turn f id (.swap i update) = (s, none) := by simp only [Clients.turn, hseen]
      rw [hturn]
      exact h
    | some r =>
      rcases h.swap_cases hseen ht with ⟨-, -, hdone, hnext⟩ | ⟨-, hdone, -, hnext⟩
      · rw [hdone]
        exact hnext
      · rw [hdone]
        exact hnext

/-- What a run does to the record that is stored: the updates that were made, one after the other. -/
theorem Follows.run (h : s.Follows f id stored) (ht : ∀ t ∈ turns, t.Fits id) :
    (s.run f id turns).1.Follows f id ((s.run f id turns).2.foldl Record.after stored) := by
  induction turns generalizing s stored with
  | nil => exact h
  | cons t rest ih =>
    obtain ⟨hfirst, hrest⟩ := List.forall_mem_cons.mp ht
    have hturn := h.turn hfirst
    simp only [Clients.run, List.foldl_append]
    exact ih hturn hrest

theorem version_foldl_after (updates : List (Record → Record)) (r : Record) :
    (updates.foldl Record.after r).version = r.version + updates.length := by
  induction updates generalizing r with
  | nil => simp
  | cons u rest ih =>
    have hnext : (r.after u).version = r.version + 1 := rfl
    rw [List.foldl_cons, ih, hnext, List.length_cons]
    omega

/-- What others do leaves a client with what it has read. -/
theorem seen_run (hi : ∀ t ∈ turns, t ≠ .read i) (s : Clients ι) :
    (s.run f id turns).1.seen i = s.seen i := by
  induction turns generalizing s with
  | nil => rfl
  | cons t rest ih =>
    obtain ⟨hfirst, hrest⟩ := List.forall_mem_cons.mp hi
    have hturn : (s.turn f id t).1.seen i = s.seen i := by
      cases t with
      | read j =>
        have hne : i ≠ j := fun heq => hfirst (heq ▸ rfl)
        simp only [Clients.turn]
        split
        · exact if_neg hne
        · rfl
      | swap j update =>
        simp only [Clients.turn]
        split
        · rfl
        · split <;> rfl
    exact (ih hrest _).trans hturn

/-- However the turns of any number of clients come, the record at the end is the first one with the
updates that were made, one after the other. A client's swap is made exactly if no swap has been made
since the client has read the record, as long as its numbers can be written; then it takes the place
of the record that the client has read, as the next version. Otherwise no file changes. -/
theorem run_serial {w : World} {first : Record} (hfinds : f.Finds id first w.files)
    (htyped : first.Typed) (hown : first.id = .text id) (hfaults : w.faults = {})
    (ht : ∀ t ∈ turns, t.Fits id) :
    let start : Clients ι := ⟨w, fun _ => none⟩
    f.Finds id ((start.run f id turns).2.foldl Record.after first)
      (start.run f id turns).1.world.files ∧
    ∀ before i between update rest,
      turns = before ++ .read i :: (between ++ .swap i update :: rest) →
      (∀ t ∈ between, t ≠ .read i) →
      let reads := ((start.run f id before).1.turn f id (.read i)).1
      let since := reads.run f id between
      let swapped := since.1.turn f id (.swap i update)
      ∃ found, reads.seen i = some found ∧ f.Finds id found reads.world.files ∧
        (swapped.2 = some update ↔
          since.2 = [] ∧ Json.isWritable (found.updated update).toDocument = true) ∧
        (swapped.2 = some update → f.Finds id found since.1.world.files ∧
          f.Finds id (found.after update) swapped.1.world.files ∧
          (found.after update).version = found.version + 1) ∧
        (swapped.2 ≠ some update → swapped.1.world.files = since.1.world.files) := by
  intro start
  have hstart : start.Follows f id first := by
    refine ⟨hfinds, htyped, hown, hfaults, fun hr => ?_, fun hr => ?_⟩ <;> simp [start] at hr
  refine ⟨(hstart.run ht).finds, fun before i between update rest hturns hbetween => ?_⟩
  subst hturns
  intro reads since swapped
  simp only [List.forall_mem_append, List.forall_mem_cons] at ht
  obtain ⟨hbefore, -, hbetween', hswap, -⟩ := ht
  have hthere := hstart.run hbefore
  generalize (start.run f id before).2.foldl Record.after first = found at hthere
  have hreads : reads.Follows f id found := hthere.reads i
  have hseen : reads.seen i = some found := by simp [reads, hthere.turn_read i]
  have hsince : since.1.Follows f id (since.2.foldl Record.after found) := hreads.run hbetween'
  have hseen' : since.1.seen i = some found := (seen_run hbetween reads).trans hseen
  -- Each swap since then has raised the version.
  have hversion := version_foldl_after since.2 found
  have hnone : found = since.2.foldl Record.after found ↔ since.2 = [] := by
    constructor
    · intro heq
      rw [← heq] at hversion
      exact List.length_eq_zero_iff.mp (by omega)
    · intro heq
      rw [heq, List.foldl_nil]
  refine ⟨found, hseen, hreads.finds, ?_⟩
  rcases hsince.swap_cases hseen' hswap with
    ⟨heq, hwritable, hdone, hnext⟩ | ⟨hnot, hdone, hfiles, -⟩
  · rw [← heq] at hwritable hnext hsince
    refine ⟨⟨fun _ => ⟨hnone.mp heq, hwritable⟩, fun _ => hdone⟩, fun _ => ?_, fun hne => ?_⟩
    · exact ⟨hsince.finds, hnext.finds, rfl⟩
    · exact absurd hdone hne
  · have hrefused : swapped.2 ≠ some update := by simp [swapped, hdone]
    refine ⟨⟨fun hmade => absurd hmade hrefused, fun hmade => ?_⟩, fun hmade => ?_, fun _ => hfiles⟩
    · rw [hmade.1] at hnot
      exact absurd ⟨rfl, hmade.2⟩ hnot
    · exact absurd hmade hrefused

/-- A record without tables. -/
def blank : Record :=
  { id := .text "a", displayName := .text "a", createdAt := .text "", modifiedAt := .text "" }

theorem blank_typed : blank.Typed := by
  constructor <;> simp [blank, Json.IsPlain, Fields.keys]

/-- One client hides a record that another describes; both have read the same version. -/
def crossing : List (Turn Bool) :=
  [.read true, .read false, .swap true fun r => { r with hidden := true },
    .swap false fun r => { r with description := .text "b" }]

theorem crossing_fits : ∀ t ∈ crossing, t.Fits "a" := by
  intro t ht
  simp only [crossing, List.mem_cons, List.not_mem_nil, or_false] at ht
  rcases ht with rfl | rfl | rfl | rfl
  · trivial
  · trivial
  · exact fun r hr hid => ⟨⟨hr.plain, hr.tags, hr.nodup, hr.tables⟩, hid⟩
  · refine fun r hr hid => ⟨⟨?_, hr.tags, hr.nodup, hr.tables⟩, hid⟩
    have hplain := hr.plain
    simp only [List.mem_cons, List.not_mem_nil, or_false, forall_eq_or_imp, forall_eq] at hplain ⊢
    exact ⟨hplain.1, hplain.2.1, hplain.2.2.1, hplain.2.2.2.1, Json.isPlain_text "b"⟩

theorem run_serial_crossing :
    let f : RecordFolder := ⟨"data", false⟩
    let done := run f "a" ⟨f.written "a" blank {}, fun _ => none⟩ crossing
    f.Finds "a" (done.2.foldl Record.after blank) done.1.world.files := by
  intro f
  have hfinds : f.Finds "a" blank (f.written "a" blank {}).files :=
    written_finds blank_typed (by decide) {}
  exact (run_serial hfinds blank_typed rfl rfl crossing_fits).1

end Clients

end RecordFolder

end Cabinet

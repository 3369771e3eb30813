import Cabinet.Proofs.Run.Agreement
import Cabinet.Proofs.Schema.Halves

/-!
Clients that change tables and columns. A request is done in two turns, one for each half, and the
turns of different clients come in any order, while time passes and faults other than those of
commits come and go.
-/

namespace Cabinet

open Operation

namespace Schema

/-- What a client has left to do of its request. -/
structure Waiting where
  id : String
  request : Request
  later : Operation Unit

/-- A request that has been done, and the time of its last half; it is late if that was a second
half. -/
structure Done where
  id : String
  request : Request
  time : Int
  late : Bool

/-- What comes next: the first or the second half of a client's request, or something that is not
up to clients. -/
inductive Turn (ι : Type) where
  | begin (client : ι) (id : String) (request : Request)
  | finish (client : ι)
  | wait (time : Int)
  | inject (faults : Faults)

/-- A turn after which commits do not fail. -/
def Turn.Commits {ι : Type} : Turn ι → Prop
  | inject faults => faults.commit = false
  | _ => True

/-- A workspace with what each client has left to do. -/
structure Clients (ι : Type) where
  world : World
  waiting : ι → Option Waiting

namespace Clients

variable {ι : Type} [DecidableEq ι] (f : Folders)

/-- The clients when one has something left to do, or nothing any more. -/
def leave (s : Clients ι) (i : ι) (waiting? : Option Waiting) (w : World) : Clients ι :=
  ⟨w, fun j => if j = i then waiting? else s.waiting j⟩

/-- One turn, with the request that was done in it or the error that ended one. A client begins a
request only if it has nothing left to do. -/
def turn (s : Clients ι) : Turn ι → Except Error (Option Done) × Clients ι
  | .begin i id q =>
    match s.waiting i with
    | some _ => (.ok none, s)
    | none =>
      match (q.begin f id).exec s.world with
      | (.ok none, w) => (.ok (some ⟨id, q, s.world.time, false⟩), s.leave i none w)
      | (.ok (some later), w) => (.ok none, s.leave i (some ⟨id, q, later⟩) w)
      | (.error e, w) => (.error e, s.leave i none w)
  | .finish i =>
    match s.waiting i with
    | none => (.ok none, s)
    | some p =>
      match p.later.exec s.world with
      | (.ok _, w) => (.ok (some ⟨p.id, p.request, s.world.time, true⟩), s.leave i none w)
      | (.error e, w) => (.error e, s.leave i none w)
  | .wait time => (.ok none, { s with world := { s.world with time } })
  | .inject faults => (.ok none, { s with world := { s.world with faults } })

/-- What was done in a turn that ended so. -/
def succeeded : Except Error (Option Done) → List Done
  | .ok (some d) => [d]
  | _ => []

/-- One turn after the other, and the requests that were done, the first one first. -/
def run (s : Clients ι) : List (Turn ι) → Clients ι × List Done
  | [] => (s, [])
  | t :: rest =>
    let (x, s') := s.turn f t
    let (s'', done) := s'.run rest
    (s'', succeeded x ++ done)

end Clients

/-- A request is done again: as a whole, at the same time, and without faults. -/
def Done.again (f : Folders) (w : World) (d : Done) : Option World :=
  match (d.request.run f d.id).exec { w with time := d.time, faults := {} } with
  | (.ok _, w') => some w'
  | (.error _, _) => none

theorem Request.exec_run_of_answered {f : Folders} {id : String} {w : World} (q : Request)
    (h : (q.begin f id).exec w = (.ok none, w)) : (q.run f id).exec w = (.ok (), w) := by
  rw [q.run_eq, exec_bind, h]
  rfl

theorem Request.exec_run_of_later {f : Folders} {id : String} {w : World} {later : Operation Unit}
    (q : Request) (h : (q.begin f id).exec w = (.ok (some later), w)) :
    (q.run f id).exec w = later.exec w := by
  rw [q.run_eq, exec_bind, h]
  rfl

/-- What is left of a request is to be done with a record that was the latest one when it was read. -/
structure Waits (f : Folders) (w : World) (p : Waiting) (found stored : Record) : Prop where
  second : Second f p.id (w.files.has (Store.place f.data p.id)) found p.later
  sound : found.Sound
  own : found.id = .text p.id
  stores : f.records.Stores p.id stored w.files
  le : found.version ≤ stored.version
  latest : found.version = stored.version → found = stored
  begins : ∀ w', f.records.Stores p.id found w'.files →
    w'.files.has (Store.place f.data p.id) = w.files.has (Store.place f.data p.id) →
    (p.request.begin f p.id).exec w' = (.ok (some p.later), w')

namespace Waits

variable {f : Folders} {w w' : World} {p : Waiting} {found stored new : Record} {id : String}

theorem congr (h : Waits f w p found stored) (hf : w'.files = w.files) :
    Waits f w' p found stored :=
  ⟨hf ▸ h.second, h.sound, h.own, hf ▸ h.stores, h.le, h.latest, hf ▸ h.begins⟩

/-- What waits is not concerned where another record is replaced. -/
theorem other (h : Waits f w p found stored) (hr : Replaces f id new w.files w'.files)
    (hid : id ≠ p.id) : Waits f w' p found stored := by
  have hrecord : w'.files.get? (f.records.place p.id) = w.files.get? (f.records.place p.id) :=
    hr.others _ (f.records.place_ne _ _ _) fun heq => hid (RecordFolder.place_injective heq).2.symm
  have hstore : w'.files.has (Store.place f.data p.id) = w.files.has (Store.place f.data p.id) := by
    rw [Files.has_eq, Files.has_eq, hr.others _ (fun heq => hid (Store.place_injective heq).2.symm)
      (f.records.place_ne _ _ _).symm]
  exact ⟨hstore ▸ h.second, h.sound, h.own, h.stores.congr hrecord, h.le, h.latest,
    fun _ hfound hthere => h.begins _ hfound (hthere.trans hstore)⟩

/-- What waits is overtaken where its record is replaced by the next version. -/
theorem overtaken (h : Waits f w p found stored) (hr : Replaces f p.id new w.files w'.files)
    (hnext : new.version = stored.version + 1) : Waits f w' p found new := by
  have hle := h.le
  exact ⟨hr.there ▸ h.second, h.sound, h.own, hr.stores, by omega, fun heq => by omega,
    fun _ hfound hthere => h.begins _ hfound (hthere.trans hr.there)⟩

/-- The first half of a request leaves something to do with the record that is stored. -/
theorem of_begin {q : Request} {later : Operation Unit} (hs : w.files.Sound)
    (hexec : (q.begin f id).exec w = (.ok (some later), w')) :
    ∃ found, Waits f w ⟨id, q, later⟩ found found := by
  obtain ⟨x, hx, hagain⟩ := (q.begin_begins f id).exec w
  obtain ⟨found, hstores, hsecond⟩ :=
    (q.begin_begins f id).second hs (congrArg Prod.fst hexec)
  obtain ⟨rfl, -⟩ := Prod.mk.inj (hx.symm.trans hexec)
  exact ⟨found, hsecond, hstores.sound, hstores.own, hstores, Int.le_refl _, fun _ => rfl,
    fun w' hfound hthere => hagain w' (hfound.file.trans hstores.file.symm) hthere⟩

end Waits

namespace Clients

variable {ι : Type} [DecidableEq ι] {f : Folders} {s : Clients ι} {t : Turn ι}

/-- All that clients have left to do was begun with records that were the latest ones. -/
structure Follows (f : Folders) (s : Clients ι) : Prop where
  sound : s.world.files.Sound
  commit : s.world.faults.commit = false
  waiting : ∀ {i p}, s.waiting i = some p → ∃ found stored, Waits f s.world p found stored

/-- What a turn may do. Only a second half that is done changes files. -/
inductive Turned (f : Folders) (s : Clients ι) :
    Turn ι → Except Error (Option Done) → Clients ι → Prop
  | idle {t : Turn ι} {w : World} (files : w.files = s.world.files)
    (commit : w.faults.commit = false) : Turned f s t (.ok none) { s with world := w }
  | begun {i : ι} {id : String} {q : Request} {later : Operation Unit} {found : Record}
    (waits : Waits f s.world ⟨id, q, later⟩ found found) :
    Turned f s (.begin i id q) (.ok none) (s.leave i (some ⟨id, q, later⟩) s.world)
  | answered {i : ι} {id : String} {q : Request}
    (exec : ∀ w, w.files = s.world.files → (q.begin f id).exec w = (.ok none, w)) :
    Turned f s (.begin i id q) (.ok (some ⟨id, q, s.world.time, false⟩)) (s.leave i none s.world)
  | refused {i : ι} {id : String} {q : Request} {e : Error} :
    Turned f s (.begin i id q) (.error e) (s.leave i none s.world)
  | finished {i : ι} {p : Waiting} {stored new : Record} {files : Files} {faults : Faults}
    {log : List LogEntry} (waiting : s.waiting i = some p)
    (waits : Waits f s.world p stored stored) (replaces : Replaces f p.id new s.world.files files)
    (next : new.version = stored.version + 1) (commit : faults.commit = false)
    (again : ∀ before, ∃ after,
      p.later.exec { files := s.world.files, time := s.world.time, log := before } =
        (.ok (), { files, time := s.world.time, log := after })) :
    Turned f s (.finish i) (.ok (some ⟨p.id, p.request, s.world.time, true⟩))
      (s.leave i none { s.world with files, faults, log })
  | failed {i : ι} {e : Error} {faults : Faults} {log : List LogEntry}
    (commit : faults.commit = false) :
    Turned f s (.finish i) (.error e) (s.leave i none { s.world with faults, log })

theorem Follows.turned (h : s.Follows f) (ht : t.Commits) : Turned f s t (s.turn f t).1 (s.turn f t).2 := by
  cases t with
  | wait time => exact .idle rfl h.commit
  | inject faults => exact .idle rfl ht
  | begin i id q =>
    cases hi : s.waiting i with
    | some p =>
      simp only [turn, hi]
      exact .idle rfl h.commit
    | none =>
      obtain ⟨x, hx, hagain⟩ := (q.begin_begins f id).exec s.world
      simp only [turn, hi, hx]
      rcases x with e | later?
      · exact .refused
      · cases later? with
        | none =>
          exact .answered fun w hw => hagain w (by rw [hw]) (by rw [hw])
        | some later =>
          obtain ⟨found, hwaits⟩ := Waits.of_begin h.sound hx
          exact .begun hwaits
  | finish i =>
    cases hi : s.waiting i with
    | none =>
      simp only [turn, hi]
      exact .idle rfl h.commit
    | some p =>
      obtain ⟨found, stored, hwaits⟩ := h.waiting hi
      -- A client that waits has read a sound record of its own id, which is all that its second
      -- half needs.
      cases hwaits.second.ends h.sound hwaits.stores hwaits.sound hwaits.own h.commit with
      | failed commit exec =>
        simp only [turn, hi, exec]
        exact .failed commit
      | done version replaces next commit exec again =>
        obtain rfl := hwaits.latest version.symm
        simp only [turn, hi, exec]
        exact .finished hi hwaits replaces next commit again

/-- A half that ends with an error leaves all files as they were. -/
theorem Turned.files_eq {e : Error} {s' : Clients ι} (h : Turned f s t (.error e) s') :
    s'.world.files = s.world.files := by
  cases h <;> rfl

/-- How often the record of an id is replaced by what is done. -/
def replacements (id : String) (done : List Done) : Nat :=
  done.countP fun d => d.late && d.id == id

/-- What waits goes on to wait; the version of its record counts how often that is replaced. -/
theorem Turned.waits {x : Except Error (Option Done)} {s' : Clients ι} (h : Turned f s t x s')
    {p : Waiting} {found stored : Record} (hp : Waits f s.world p found stored) :
    ∃ stored', Waits f s'.world p found stored' ∧ stored'.version =
      stored.version + replacements p.id (succeeded x) := by
  cases h with
  | idle files => exact ⟨stored, hp.congr files, by simp [replacements, succeeded]⟩
  | begun | answered | refused => exact ⟨stored, hp.congr rfl, by simp [replacements, succeeded]⟩
  | failed => exact ⟨stored, hp.congr rfl, by simp [replacements, succeeded]⟩
  | @finished i other latest new files faults log waiting waits replaces next =>
    by_cases hid : other.id = p.id
    · have hlatest : latest = stored :=
        RecordFolder.Stores.unique (w := s.world) (hid ▸ waits.stores) hp.stores
      subst hlatest
      refine ⟨new, hp.overtaken (hid ▸ replaces) next, ?_⟩
      simp [replacements, succeeded, hid, next]
    · exact ⟨stored, hp.other replaces hid, by simp [replacements, succeeded, hid]⟩

theorem Follows.turn (h : s.Follows f) (ht : t.Commits) : (s.turn f t).2.Follows f := by
  have hturned := h.turned ht
  have hwaiting : ∀ {p}, (∃ found stored, Waits f s.world p found stored) →
      ∃ found stored, Waits f (s.turn f t).2.world p found stored := by
    rintro p ⟨found, stored, hp⟩
    obtain ⟨stored', hp', -⟩ := hturned.waits hp
    exact ⟨found, stored', hp'⟩
  have hleave : ∀ {i : ι} {waiting?} {w : World} {j p}, (s.leave i waiting? w).waiting j = some p →
      (∀ {p}, waiting? = some p → ∃ found stored, Waits f s.world p found stored) →
        ∃ found stored, Waits f s.world p found stored := by
    intro i waiting? w j p hj hnew
    simp only [leave] at hj
    split at hj
    · exact hnew hj
    · exact h.waiting hj
  generalize (s.turn f t).1 = x, (s.turn f t).2 = s' at hturned hwaiting ⊢
  cases hturned with
  | idle files commit =>
    exact ⟨files ▸ h.sound, commit, fun hp => hwaiting (h.waiting hp)⟩
  | begun waits =>
    refine ⟨h.sound, h.commit, fun hp => hwaiting (hleave hp fun hnew => ?_)⟩
    obtain rfl := Option.some.inj hnew
    exact ⟨_, _, waits⟩
  | answered | refused => exact ⟨h.sound, h.commit, fun hp => hwaiting (hleave hp fun hnew => nomatch hnew)⟩
  | finished waiting waits replaces next commit =>
    exact ⟨replaces.sound, commit, fun hp => hwaiting (hleave hp fun hnew => nomatch hnew)⟩
  | failed commit => exact ⟨h.sound, commit, fun hp => hwaiting (hleave hp fun hnew => nomatch hnew)⟩

theorem Turned.again {x : Except Error (Option Done)} {s' : Clients ι} (h : Turned f s t x s')
    {w : World} (hw : w.files = s.world.files) :
    ∃ w', (succeeded x).foldlM (Done.again f) w = some w' ∧ w'.files = s'.world.files := by
  cases h with
  | idle files => exact ⟨w, rfl, hw.trans files.symm⟩
  | begun | refused | failed => exact ⟨w, rfl, hw⟩
  | @answered i id q exec =>
    refine ⟨{ w with time := s.world.time, faults := {} }, ?_, hw⟩
    simp [succeeded, Done.again, q.exec_run_of_answered (exec { w with time := s.world.time, faults := {} } hw)]
  | @finished i p stored new files faults log waiting waits replaces next commit again =>
    obtain ⟨after, hlater⟩ := again w.log
    have hbegin := waits.begins { w with time := s.world.time, faults := {} }
      (hw ▸ waits.stores) (by rw [← hw])
    have hrun := p.request.exec_run_of_later hbegin
    simp only [hw, hlater] at hrun
    exact ⟨{ files, time := s.world.time, log := after },
      by simp [succeeded, Done.again, hw, hrun], rfl⟩

theorem Follows.run (h : s.Follows f) {turns : List (Turn ι)} (ht : ∀ t ∈ turns, t.Commits) :
    (s.run f turns).1.Follows f := by
  induction turns generalizing s with
  | nil => exact h
  | cons t rest ih =>
    obtain ⟨hfirst, hrest⟩ := List.forall_mem_cons.mp ht
    exact ih (h.turn hfirst) hrest

/-- What is done in a run can be done again, one request after the other. -/
theorem Follows.again_run (h : s.Follows f) {turns : List (Turn ι)} (ht : ∀ t ∈ turns, t.Commits)
    {w : World} (hw : w.files = s.world.files) :
    ∃ w', (s.run f turns).2.foldlM (Done.again f) w = some w' ∧
      w'.files = (s.run f turns).1.world.files := by
  induction turns generalizing s w with
  | nil => exact ⟨w, rfl, hw⟩
  | cons t rest ih =>
    obtain ⟨hfirst, hrest⟩ := List.forall_mem_cons.mp ht
    obtain ⟨w', hagain, hw'⟩ := (h.turned hfirst).again hw
    obtain ⟨w'', hagain', hw''⟩ := ih (h.turn hfirst) hrest hw'
    refine ⟨w'', ?_, hw''⟩
    simp only [Clients.run, List.foldlM_append, hagain]
    exact hagain'

theorem Follows.waits_run (h : s.Follows f) {turns : List (Turn ι)} (ht : ∀ t ∈ turns, t.Commits)
    {p : Waiting} {found stored : Record} (hp : Waits f s.world p found stored) :
    ∃ stored', Waits f (s.run f turns).1.world p found stored' ∧
      stored'.version = stored.version + replacements p.id (s.run f turns).2 := by
  induction turns generalizing s stored with
  | nil => exact ⟨stored, hp, by simp [replacements, Clients.run]⟩
  | cons t rest ih =>
    obtain ⟨hfirst, hrest⟩ := List.forall_mem_cons.mp ht
    obtain ⟨stored', hp', hversion⟩ := (h.turned hfirst).waits hp
    obtain ⟨stored'', hp'', hversion'⟩ := ih (h.turn hfirst) hrest hp'
    refine ⟨stored'', hp'', ?_⟩
    simp only [replacements, Clients.run, List.countP_append] at hversion hversion' ⊢
    omega

/-- What others do leaves a client with what it has left to do. -/
theorem waiting_run {i : ι} {p : Waiting} {turns : List (Turn ι)} (hi : ∀ t ∈ turns, t ≠ .finish i)
    (hs : s.waiting i = some p) : (s.run f turns).1.waiting i = some p := by
  induction turns generalizing s with
  | nil => exact hs
  | cons t rest ih =>
    obtain ⟨hfirst, hrest⟩ := List.forall_mem_cons.mp hi
    refine ih hrest ?_
    -- Only its own second half takes from a client what it has left to do.
    have hleave : ∀ {j w waiting?}, j ≠ i → (s.leave j waiting? w).waiting i = some p :=
      fun hj => (if_neg hj.symm).trans hs
    cases t with
    | wait | inject => exact hs
    | begin j id q =>
      cases hj : s.waiting j with
      | some p' => simpa only [turn, hj] using hs
      | none =>
        have hne : j ≠ i := by
          rintro rfl
          simp [hs] at hj
        simp only [hj]
        split
        · exact hleave hne
        · exact hleave hne
        · exact hleave hne
    | finish j =>
      have hne : j ≠ i := fun heq => hfirst (heq ▸ rfl)
      cases hj : s.waiting j with
      | none => simpa only [turn, hj] using hs
      | some p' =>
        simp only [hj]
        split
        · exact hleave hne
        · exact hleave hne

/-- A client that has something left to do after it has begun is to do it with the record that is
stored. -/
theorem Turned.left {x : Except Error (Option Done)} {s' : Clients ι} {i : ι} {id : String}
    {q : Request} (h : Turned f s (.begin i id q) x s') (hfree : s.waiting i = none)
    (hleft : s'.waiting i ≠ none) : ∃ later found, s'.waiting i = some ⟨id, q, later⟩ ∧
      s'.world = s.world ∧ Waits f s.world ⟨id, q, later⟩ found found := by
  cases h with
  | idle => exact absurd hfree hleft
  | @begun _ _ _ later found waits => exact ⟨later, found, if_pos rfl, rfl, waits⟩
  | answered | refused => exact absurd (if_pos rfl) hleft

/-- A second half is not done if the record that it is to be done with is not stored any more. -/
theorem Follows.overtaken (h : s.Follows f) {i : ι} {p : Waiting} {found stored : Record}
    (hi : s.waiting i = some p) (hp : Waits f s.world p found stored) (hne : found ≠ stored) :
    ∃ e, (s.turn f (.finish i)).1 = .error e := by
  cases hp.second.ends h.sound hp.stores hp.sound hp.own h.commit with
  | @failed e _ _ _ exec => exact ⟨e, by simp only [Clients.turn, hi, exec]⟩
  | done version => exact absurd (hp.latest version.symm) hne

/-- A record counts as replaced since it was read where another second half was done to it; and then
what is to be done with it fails. -/
theorem Follows.replaced (h : s.Follows f) {i : ι} {id : String} {q : Request}
    {between : List (Turn ι)} (hbegin : (Turn.begin i id q).Commits)
    (ht : ∀ t ∈ between, t.Commits) (hi : ∀ t ∈ between, t ≠ .finish i)
    (hfree : s.waiting i = none) (hleft : (s.turn f (.begin i id q)).2.waiting i ≠ none) :
    let since := (s.turn f (.begin i id q)).2.run f between
    ((∃ d ∈ since.2, d.late = true ∧ d.id = id) →
      since.1.world.files.get? (f.records.place id) ≠ s.world.files.get? (f.records.place id)) ∧
    (since.1.world.files.get? (f.records.place id) ≠ s.world.files.get? (f.records.place id) →
      ∃ e, (since.1.turn f (.finish i)).1 = .error e) := by
  intro since
  obtain ⟨later, found, hwaiting, hworld, hwaits⟩ := (h.turned hbegin).left hfree hleft
  have hbegun := h.turn hbegin
  obtain ⟨stored, hwaits', hversion⟩ :=
    hbegun.waits_run ht (hwaits.congr (congrArg World.files hworld))
  have hchanged : since.1.world.files.get? (f.records.place id) ≠
      s.world.files.get? (f.records.place id) ↔ found ≠ stored := by
    refine not_congr ⟨fun heq => ?_, fun heq => ?_⟩
    · exact RecordFolder.Finds.unique (hwaits.stores.congr heq).finds hwaits'.stores.finds
    · exact hwaits'.stores.file.trans (heq ▸ hwaits.stores.file.symm)
  constructor
  · rintro ⟨d, hd, hlate, hid⟩
    -- The version counts how often the record has been replaced.
    have hpos : 0 < replacements id since.2 :=
      List.countP_pos_iff.mpr ⟨d, hd, by simp [hlate, hid]⟩
    have hcount : stored.version = found.version + replacements id since.2 := hversion
    apply hchanged.mpr
    rintro rfl
    omega
  · intro hne
    exact (hbegun.run ht).overtaken (waiting_run hi hwaiting) hwaits' (hchanged.mp hne)

end Clients

end Schema

variable {f : Folders} {agreed : Bool} {w w' : World}

theorem Reachable.again {d : Schema.Done} (h : Reachable f agreed w) (hd : d.again f w = some w') :
    Reachable f agreed w' := by
  have hrun := ((h.wait d.time).inject {}).request (.schema d.id d.request)
  change Reachable f (agreed && !tells ((d.request.run f d.id).exec _).1)
    ((d.request.run f d.id).exec _).2 at hrun
  unfold Schema.Done.again at hd
  split at hd
  · next hexec =>
    obtain rfl := Option.some.inj hd
    simpa [hexec, tells] using hrun
  · simp at hd

theorem Reachable.foldlM_again {done : List Schema.Done} (h : Reachable f agreed w)
    (hdone : done.foldlM (Schema.Done.again f) w = some w') : Reachable f agreed w' := by
  induction done generalizing w with
  | nil =>
    obtain rfl := Option.some.inj hdone
    exact h
  | cons d rest ih =>
    obtain ⟨next, hd, hrest⟩ := Option.bind_eq_some_iff.mp hdone
    exact ih (h.again hd) hrest

/-- However the halves of the requests of any number of clients follow one another while no commit
fails: the requests that were done lead to the same files when they are done one after the other, as
a whole. A half that fails changes no file. A second half fails where the record that the first half
has read has been replaced since, and it has been replaced if another second half was done to it.
So as before, stored tables agree with their records and columns are numbered without gaps. -/
theorem Reachable.clients_serialize {ι : Type} [DecidableEq ι] (h : Reachable f agreed w)
    (hcommit : w.faults.commit = false) {turns : List (Schema.Turn ι)} (ht : ∀ t ∈ turns, t.Commits) :
    let start : Schema.Clients ι := ⟨w, fun _ => none⟩
    let ended := (start.run f turns).1
    (∃ w', (start.run f turns).2.foldlM (Schema.Done.again f) w = some w' ∧
      w'.files = ended.world.files) ∧
    (∀ before t after, turns = before ++ t :: after →
      let s := (start.run f before).1
      ∀ e, (s.turn f t).1 = .error e → (s.turn f t).2.world.files = s.world.files) ∧
    (∀ before i id q between after,
      turns = before ++ .begin i id q :: (between ++ .finish i :: after) →
      (∀ t ∈ between, t ≠ .finish i) →
      let s := (start.run f before).1
      let begun := (s.turn f (.begin i id q)).2
      let since := begun.run f between
      s.waiting i = none → begun.waiting i ≠ none →
      ((∃ d ∈ since.2, d.late = true ∧ d.id = id) →
        since.1.world.files.get? (f.records.place id) ≠ s.world.files.get? (f.records.place id)) ∧
      (since.1.world.files.get? (f.records.place id) ≠ s.world.files.get? (f.records.place id) →
        ∃ e, (since.1.turn f (.finish i)).1 = .error e)) ∧
    (agreed = true → ∀ id db,
      ended.world.files.get? (Store.place f.data id) = some (.database db) →
      ∃ r, (f.records.read id).exec ended.world = (.ok r, ended.world) ∧ db.Holds r.tables ∧
        ∀ given t, r.tables.get? (Name.normalize given) = some t →
          (Schema.check f id given).exec ended.world = (.ok [], ended.world)) ∧
    ∀ id r, (f.records.read id).exec ended.world = (.ok r, ended.world) → ∀ table ∈ r.tables,
      (table.2.columns.map (·.2.index)).Perm
        ((List.range table.2.columns.length).map Int.ofNat) := by
  intro start ended
  have hstart : start.Follows f := ⟨h.good.sound, hcommit, fun hp => nomatch hp⟩
  -- What holds in all reachable worlds holds at the end, as the requests that were done lead to the
  -- same files one after the other.
  obtain ⟨w', hserial, hfiles⟩ := hstart.again_run ht rfl
  have hgood : World.Good .columns f agreed ended.world :=
    (h.foldlM_again hserial).good_of_files hfiles.symm
  refine ⟨⟨w', hserial, hfiles⟩, fun before t after hturns => ?_,
    fun before i id q between after hturns hbetween => ?_, fun hagreed id db hdb => ?_,
    fun id r hread table htable => ?_⟩
  · subst hturns
    simp only [List.forall_mem_append, List.forall_mem_cons] at ht
    intro s e he
    exact (he ▸ (hstart.run ht.1).turned ht.2.1).files_eq
  · subst hturns
    simp only [List.forall_mem_append, List.forall_mem_cons] at ht
    obtain ⟨hbefore, hbegin, hbetween', -⟩ := ht
    exact fun hfree hleft => (hstart.run hbefore).replaced hbegin hbetween' hbetween hfree hleft
  · obtain ⟨r, hstores, hholds⟩ := (hgood.at (.inl rfl) id hagreed).record hdb
    exact ⟨r, hstores.read, hholds, fun given t htable => Schema.exec_check hstores hdb hholds htable⟩
  · rcases f.records.read_cases hgood.sound id with ⟨found, hstores, hfound⟩ | ⟨-, hnone⟩
    · obtain ⟨⟩ := hread.symm.trans hfound
      have hsound := hstores.sound
      exact (hsound.tables ((Fields.get?_eq_some_iff hsound.nodup).mpr htable)).toWellFormed.indices_perm
    · simp [hnone] at hread

/-- A client begins to add a column. -/
def Schema.Turn.addition : Schema.Turn Bool :=
  .begin true "a_0" (.addColumn "entries" (.text "Weight") (.text "float") false none)

/-- Another client begins to remove the table. -/
def Schema.Turn.removal : Schema.Turn Bool :=
  .begin false "a_0" (.removeTable "entries")

/-- A column is added while another client is to remove its table; both have read the same record. -/
theorem Reachable.crossing_clients_serialize :
    let f : Folders := ⟨"data", "backup"⟩
    let w := (Request.runAll f [.createDatabase (.text "a") ""] (true, {})).2
    let start : Schema.Clients Bool := ⟨w, fun _ => none⟩
    let turns : List (Schema.Turn Bool) := [.addition, .removal, .finish true, .finish false]
    let s := (start.run f [.addition]).1
    let since := (s.turn f .removal).2.run f [.finish true]
    (∃ w', (start.run f turns).2.foldlM (Schema.Done.again f) w = some w' ∧
      w'.files = (start.run f turns).1.world.files) ∧
    ∃ e, (since.1.turn f (.finish false)).1 = .error e := by
  intro f w start turns s since
  have hreach : Reachable f _ w := (Reachable.start 0 {} []).runAll [.createDatabase (.text "a") ""]
  have hcommits : ∀ t ∈ turns, t.Commits := by
    simp [turns, Schema.Turn.addition, Schema.Turn.removal, Schema.Turn.Commits]
  have hrun : w.faults.commit = false ∧ (s.waiting false).isNone = true ∧
      ((s.turn f .removal).2.waiting false).isSome = true ∧
      since.2.any (fun d => d.late && d.id == "a_0") = true := by
    decide +kernel
  clear_value w
  obtain ⟨hcommit, hfree, hleft, hdone⟩ := hrun
  obtain ⟨hserial, -, hovertaken, -⟩ := hreach.clients_serialize hcommit hcommits
  obtain ⟨hreplaced, hfails⟩ := hovertaken [.addition] false "a_0" _ [.finish true] [] rfl
    (by simp) (Option.isNone_iff_eq_none.mp hfree) (Option.isSome_iff_ne_none.mp hleft)
  obtain ⟨d, hd, hlate⟩ := List.any_eq_true.mp hdone
  exact ⟨hserial, hfails (hreplaced ⟨d, hd, by simpa using hlate⟩)⟩

end Cabinet

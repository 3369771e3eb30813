import Cabinet.Proofs.Databases.Stages

/-!
Two calls that make a database under one id, with their turns in any order. A call that fails removes
what goes by the id, whoever has made it, so that the calls are safe from each other only if one of them
has opened the file before the other one looks.
-/

namespace Cabinet.Databases

open Operation Storage

/-- Two calls on one workspace, with how far each has come. -/
structure Race where
  world : World
  stage : Bool → Stage

namespace Race

/-- Both calls begin. -/
def start (w : World) : Race :=
  ⟨w, fun _ => .checks⟩

/-- A turn of one of the calls. -/
def turn (f : Folders) (calls : Bool → Call) (s : Race) (i : Bool) : Race where
  world := ((calls i).turn f (s.stage i) s.world).2
  stage j := if j = i then ((calls i).turn f (s.stage i) s.world).1 else s.stage j

/-- The turns of a schedule, one after the other. -/
def run (f : Folders) (calls : Bool → Call) (s : Race) (schedule : List Bool) : Race :=
  schedule.foldl (turn f calls) s

/-- Both calls have ended. -/
def Over (s : Race) : Prop :=
  ∀ i, (s.stage i).left = 0

instance (s : Race) : Decidable s.Over :=
  inferInstanceAs (Decidable (∀ i, (s.stage i).left = 0))

/-- At least one of the calls has succeeded, and where one has, its database has its file and its
record. -/
def Safe (f : Folders) (id : String) (s : Race) : Prop :=
  (∃ i, (s.stage i).succeeds = true) ∧ ∀ i, (s.stage i).succeeds = true →
    (s.world.files.has (Store.place f.data id) && s.world.files.has (f.records.place id)) = true

instance (f : Folders) (id : String) (s : Race) : Decidable (s.Safe f id) :=
  inferInstanceAs (Decidable (_ ∧ _))

variable {f : Folders} {calls : Bool → Call} {id : String} {w v : World} {s : Race} {i j : Bool}
  {stage : Stage}

/-- A turn is that of the call alone; the other call stays where it is. -/
theorem turn_of_eq (h : (calls i).turn f (s.stage i) s.world = (stage, v)) :
    (s.turn f calls i).world = v ∧ (s.turn f calls i).stage i = stage ∧
      ∀ j, j ≠ i → (s.turn f calls i).stage j = s.stage j :=
  ⟨congrArg Prod.snd h, (if_pos rfl).trans (congrArg Prod.fst h), fun _ hj => if_neg hj⟩

theorem left_run (f : Folders) (calls : Bool → Call) (schedule : List Bool) (s : Race) (i : Bool) :
    ((s.run f calls schedule).stage i).left ≤ (s.stage i).left - schedule.count i := by
  induction schedule generalizing s with
  | nil => exact Nat.le_refl _
  | cons j rest ih =>
    have hrest := ih (s.turn f calls j)
    rw [List.count_cons]
    by_cases hj : j = i
    · subst hj
      have hself : (s.turn f calls j).stage j = ((calls j).turn f (s.stage j) s.world).1 :=
        (turn_of_eq rfl).2.1
      have hturn := (calls j).left_turn f (s.stage j) s.world
      rw [hself] at hrest
      simp only [run, List.foldl_cons, beq_self_eq_true, if_true] at hrest ⊢
      omega
    · rw [(turn_of_eq rfl).2.2 i (Ne.symm hj)] at hrest
      simpa only [run, List.foldl_cons, beq_eq_false_iff_ne.mpr hj, Bool.false_eq_true, if_false,
        Nat.add_zero] using hrest

theorem Over.ne (h : s.Over) {stage : Stage} (hstage : 0 < stage.left) : s.stage i ≠ stage := by
  rintro rfl
  exact absurd (h i) (Nat.ne_of_gt hstage)

/-- Five turns are enough for a call to end. -/
theorem over_of_count {schedule : List Bool} (h : ∀ i, 5 ≤ schedule.count i) :
    ((start w).run f calls schedule).Over := by
  intro i
  have hleft := left_run f calls schedule (start w) i
  have hstart : ((start w).stage i).left = 5 := rfl
  have hcount := h i
  omega

/-- A workspace in which nothing fails, and that differs from another one by what goes by an id. -/
structure Around (f : Folders) (id : String) (w v : World) : Prop where
  faults : v.faults = {}
  time : v.time = w.time
  others : (v.files.drop (f.records.place id)).drop (Store.place f.data id) = w.files

theorem Around.log (h : Around f id w v) (log : List LogEntry) : Around f id w { v with log } :=
  ⟨h.faults, h.time, h.others⟩

theorem Around.put_store (h : Around f id w v) (file : File) :
    Around f id w { v with files := v.files.put (Store.place f.data id) file } := by
  refine ⟨h.faults, h.time, Eq.trans ?_ h.others⟩
  exact (congrArg _ (Files.drop_put_of_ne (f.records.place_ne f.data id id).symm file v.files)).trans
    (Files.drop_put ..)

theorem Around.put_record (h : Around f id w v) (file : File) :
    Around f id w { v with files := v.files.put (f.records.place id) file } :=
  ⟨h.faults, h.time, (congrArg _ (Files.drop_put ..)).trans h.others⟩

/-- What stands for an id after the record of a call has been made, by how far the call has come. -/
inductive Made (f : Folders) (id : String) (c : Call) (v : World) : Stage → Prop
  | fills (tables : v.files.get? (Store.place f.data id) = some (.database {}))
    (record : f.records.Stores id (firstRecord id c.name c.description v.time) v.files) :
    Made f id c v (.fills id)
  | answers (tables : v.files.get? (Store.place f.data id) = some (.database firstTables))
    (record : f.records.Stores id (secondRecord id c.name c.description v.time) v.files) :
    Made f id c v (.answers id)
  | ended (tables : v.files.get? (Store.place f.data id) = some (.database firstTables))
    (record : f.records.Stores id (secondRecord id c.name c.description v.time) v.files) :
    Made f id c v (.ended (.ok (secondRecord id c.name c.description v.time)))

variable {c : Call}

theorem Made.has_tables (h : Made f id c v stage) :
    ∃ db, v.files.get? (Store.place f.data id) = some (.database db) := by
  cases h with
  | fills tables record => exact ⟨_, tables⟩
  | answers tables record => exact ⟨_, tables⟩
  | ended tables record => exact ⟨_, tables⟩

theorem Made.has_record (h : Made f id c v stage) : ∃ r, f.records.Stores id r v.files := by
  cases h with
  | fills tables record => exact ⟨_, record⟩
  | answers tables record => exact ⟨_, record⟩
  | ended tables record => exact ⟨_, record⟩

/-- The file of a call is opened, and it is made if it is not there. -/
theorem Around.opens (h : Around f id w v) (c : Call) (time : Value)
    (tables : v.files.get? (Store.place f.data id) = none ∨
      v.files.get? (Store.place f.data id) = some (.database {}))
    (record : v.files.get? (f.records.place id) = none) :
    ∃ v', c.turn f (.opens id time) v = (.records id time, v') ∧ Around f id w v' ∧
      v'.files.get? (Store.place f.data id) = some (.database {}) ∧
      v'.files.get? (f.records.place id) = none := by
  rcases tables with hnew | hold
  · refine ⟨_, c.turn_opens_new hnew, h.put_store _, Files.get?_put_self .., ?_⟩
    exact (Files.get?_put_of_ne (f.records.place_ne f.data id id) _ _).trans record
  · exact ⟨v, c.turn_opens_old hold, h, hold, record⟩

/-- The record of a call is made where there is an empty file and no record. -/
theorem Around.records (h : Around f id w v)
    (tables : v.files.get? (Store.place f.data id) = some (.database {}))
    (record : v.files.get? (f.records.place id) = none) :
    let next := c.turn f (.records id (moment w.time)) v
    Made f id c next.2 next.1 ∧ Around f id w next.2 := by
  rw [← h.time, c.turn_records_first h.faults record]
  refine ⟨.fills ?_ ?_, (h.put_record _).log _⟩
  · exact (Files.get?_put_of_ne (f.records.place_ne f.data id id).symm _ _).trans tables
  · exact f.records.written_stores (firstRecord_sound ..) (isWritable_firstRecord ..) rfl v

/-- A call whose record has been made goes on with its own record and its own tables. -/
theorem Made.turn (h : Made f id c v stage) (hv : Around f id w v) :
    Made f id c (c.turn f stage v).2 (c.turn f stage v).1 ∧ Around f id w (c.turn f stage v).2 := by
  cases h with
  | fills tables record =>
    obtain ⟨log, hturn⟩ := c.turn_fills hv.faults tables record
    rw [hturn]
    refine ⟨.answers (Files.get?_put_self ..) ⟨?_, secondRecord_sound .., isWritable_secondRecord .., rfl⟩,
      ((hv.put_record _).put_store _).log log⟩
    exact (Files.get?_put_of_ne (f.records.place_ne f.data id id) _ _).trans (Files.get?_put_self ..)
  | answers tables record =>
    obtain ⟨log, hturn⟩ := c.turn_answers record
    rw [hturn]
    exact ⟨.ended tables ⟨record.file, record.sound, record.writable, record.own⟩, hv.log log⟩
  | ended tables record => exact ⟨.ended tables record, hv⟩

/-- Nothing goes by an id. -/
def Free (f : Folders) (id : String) (files : Files) : Prop :=
  files.get? (Store.place f.data id) = none ∧ files.get? (f.records.place id) = none

/-- How far a call can have come whose record was made and is gone again with the file. -/
inductive Bereft (id : String) : Stage → Prop
  | fills : Bereft id (.fills id)
  | answers : Bereft id (.answers id)
  | cleans : Bereft id (.cleans id (.databaseMissing id))
  | ended {r : Record} : Bereft id (.ended (.ok r))
  | storeless : Bereft id (.ended (.error (.databaseMissing id)))
  | recordless : Bereft id (.ended (.error (.recordMissing (.text id))))

theorem Made.bereft (h : Made f id c v stage) : Bereft id stage := by
  cases h with
  | fills => exact .fills
  | answers => exact .answers
  | ended => exact .ended

theorem Bereft.turn (h : Bereft id stage) (hfree : Free f id v.files) :
    Bereft id (c.turn f stage v).1 ∧ (c.turn f stage v).2.files = v.files := by
  obtain ⟨hstore, hrecord⟩ := hfree
  cases h with
  | fills =>
    rw [c.turn_fills_missing hstore]
    exact ⟨.cleans, rfl⟩
  | answers =>
    obtain ⟨log, hturn⟩ := c.turn_answers_missing hrecord
    rw [hturn]
    exact ⟨.recordless, rfl⟩
  | cleans =>
    rw [c.turn_cleans (by simp [hstore]) (by simp [hrecord])]
    refine ⟨.storeless, ?_⟩
    rw [Files.drop_of_get?_none hrecord, Files.drop_of_get?_none hstore]
  | ended => exact ⟨.ended, rfl⟩
  | storeless => exact ⟨.storeless, rfl⟩
  | recordless => exact ⟨.recordless, rfl⟩

/-- How two calls stand that have both found an id free: neither has made its record; or one has, and
the other one is still to fail; or the other one has removed what there was. -/
inductive Collision (f : Folders) (calls : Bool → Call) (id : String) (w : World) : Race → Prop
  | unrecorded {s : Race} (around : Around f id w s.world)
    (tables : s.world.files.get? (Store.place f.data id) = none ∨
      s.world.files.get? (Store.place f.data id) = some (.database {}))
    (record : s.world.files.get? (f.records.place id) = none)
    (stages : ∀ i, s.stage i = .opens id (moment w.time) ∨
      s.stage i = .records id (moment w.time) ∧
        s.world.files.get? (Store.place f.data id) = some (.database {})) :
    Collision f calls id w s
  | recorded {s : Race} (i : Bool) (around : Around f id w s.world)
    (made : Made f id (calls i) s.world (s.stage i))
    (other : s.stage (!i) = .opens id (moment w.time) ∨
      s.stage (!i) = .records id (moment w.time) ∨
      s.stage (!i) = .cleans id (.recordExists (.text id))) :
    Collision f calls id w s
  | removed {s : Race} (i : Bool) (files : s.world.files = w.files) (bereft : Bereft id (s.stage i))
    (other : s.stage (!i) = .ended (.error (.recordExists (.text id)))) :
    Collision f calls id w s

theorem Collision.turn (h : Collision f calls id w s) (hfree : Free f id w.files) (j : Bool) :
    Collision f calls id w (s.turn f calls j) := by
  generalize hturn : (calls j).turn f (s.stage j) s.world = next
  obtain ⟨stage, v⟩ := next
  obtain ⟨hworld, hself, hother⟩ := turn_of_eq hturn
  cases h with
  | unrecorded around tables record stages =>
    -- Both calls open the same file, and the one that comes first to its record makes it.
    rcases stages j with hopens | ⟨hrecords, hthere⟩
    · obtain ⟨v', hopen, haround, htables, hrecord⟩ := around.opens (calls j) _ tables record
      rw [hopens] at hturn
      obtain ⟨rfl, rfl⟩ := Prod.mk.inj (hturn.symm.trans hopen)
      rw [← hworld] at haround htables hrecord
      refine .unrecorded haround (.inr htables) hrecord fun k => ?_
      by_cases hk : k = j
      · exact .inr ⟨hk ▸ hself, htables⟩
      · rw [hother k hk]
        exact (stages k).imp_right fun h => ⟨h.1, htables⟩
    · have hmade := around.records (c := calls j) hthere record
      rw [← hrecords, hturn, ← hself, ← hworld] at hmade
      refine .recorded j hmade.2 hmade.1 ?_
      rw [hother (!j) (by simp)]
      exact (stages !j).imp_right fun h => .inl h.1
  | recorded i around made other =>
    by_cases hj : j = i
    · subst hj
      have hmade := made.turn around
      rw [hturn, ← hself, ← hworld] at hmade
      exact .recorded j hmade.2 hmade.1 (hother (!j) (by simp) ▸ other)
    -- The other call can only find the record that has been made, and then it takes that for its own.
    obtain rfl := Bool.eq_not_of_ne hj
    obtain ⟨db, htables⟩ := made.has_tables
    obtain ⟨r, hrecord⟩ := made.has_record
    rcases other with hopens | hrecords | hcleans
    · rw [hopens, Call.turn_opens_old htables] at hturn
      obtain ⟨rfl, rfl⟩ := Prod.mk.inj hturn
      exact .recorded i (hworld ▸ around) (hother i (by simp) ▸ hworld ▸ made) (.inr (.inl hself))
    · rw [hrecords, Call.turn_records_second around.faults (by simp [hrecord.file])] at hturn
      obtain ⟨rfl, rfl⟩ := Prod.mk.inj hturn
      exact .recorded i (hworld ▸ around) (hother i (by simp) ▸ hworld ▸ made) (.inr (.inr hself))
    · rw [hcleans, Call.turn_cleans (by simp [htables]) (by simp [hrecord.file])] at hturn
      obtain ⟨rfl, rfl⟩ := Prod.mk.inj hturn
      exact .removed i (hworld ▸ around.others) (hother i (by simp) ▸ made.bereft) hself
  | removed i files bereft other =>
    by_cases hj : j = i
    · subst hj
      have hbereft := bereft.turn (c := calls j) (files ▸ hfree)
      rw [hturn, ← hself, ← hworld] at hbereft
      exact .removed j (hbereft.2.trans files) hbereft.1 (hother (!j) (by simp) ▸ other)
    · obtain rfl := Bool.eq_not_of_ne hj
      rw [other] at hturn
      obtain ⟨rfl, rfl⟩ := Prod.mk.inj hturn
      exact .removed i (hworld ▸ files) (hother i (by simp) ▸ bereft) hself

theorem Collision.run (h : Collision f calls id w s) (hfree : Free f id w.files) (schedule : List Bool) :
    Collision f calls id w (s.run f calls schedule) := by
  induction schedule generalizing s with
  | nil => exact h
  | cons j rest ih => exact ih (h.turn hfree j)

/-- How two calls stand when the one that has found an id free has opened its file before the other one
has looked. -/
structure Leading (f : Folders) (calls : Bool → Call) (id : String) (w : World) (i : Bool) (s : Race) :
    Prop where
  around : Around f id w s.world
  rest : ((calls i).rest f (s.stage i)).exec s.world = ((calls i).rest f .checks).exec w
  own : s.stage i = .records id (moment w.time) ∧
      s.world.files.get? (Store.place f.data id) = some (.database {}) ∧
        s.world.files.get? (f.records.place id) = none ∨
    Made f id (calls i) s.world (s.stage i)
  other : s.stage (!i) = .checks ∨ s.stage (!i) = .ended (.error (.databaseExists id))

theorem Leading.turn (h : Leading f calls id w i s) (hnames : (calls !i).Names id w.time) (j : Bool) :
    Leading f calls id w i (s.turn f calls j) := by
  generalize hturn : (calls j).turn f (s.stage j) s.world = next
  obtain ⟨stage, v⟩ := next
  obtain ⟨hworld, hself, hother⟩ := turn_of_eq hturn
  -- The turn is one of the call that leads, which goes on as it does alone, or one of the other
  -- call, which finds the file and is refused, or has been.
  by_cases hj : j = i
  · subst hj
    have hrest := (calls j).exec_rest_turn f (s.stage j) s.world
    rw [hturn, ← hself, ← hworld, h.rest] at hrest
    have hmade : Made f id (calls j) v stage ∧ Around f id w v := by
      rcases h.own with ⟨hrecords, htables, hrecord⟩ | hmade
      · have hnext := h.around.records (c := calls j) htables hrecord
        rwa [← hrecords, hturn] at hnext
      · have hnext := hmade.turn h.around
        rwa [hturn] at hnext
    rw [← hself, ← hworld] at hmade
    exact ⟨hmade.2, hrest, .inr hmade.1, hother (!j) (by simp) ▸ h.other⟩
  · obtain rfl := Bool.eq_not_of_ne hj
    have htaken : s.world.files.has (Store.place f.data id) = true := by
      rcases h.own with ⟨-, htables, -⟩ | hmade
      · rw [Files.has_eq, htables]
        rfl
      · obtain ⟨db, htables⟩ := hmade.has_tables
        rw [Files.has_eq, htables]
        rfl
    have hidle : v = s.world ∧ stage = .ended (.error (.databaseExists id)) := by
      rcases h.other with hchecks | hended
      · rw [hchecks, Call.turn_checks_taken (h.around.time ▸ hnames) (by rw [htaken, Bool.true_or])] at hturn
        exact ⟨(Prod.mk.inj hturn).2.symm, (Prod.mk.inj hturn).1.symm⟩
      · rw [hended] at hturn
        exact ⟨(Prod.mk.inj hturn).2.symm, (Prod.mk.inj hturn).1.symm⟩
    obtain ⟨rfl, rfl⟩ := hidle
    have hi := hother i (by simp)
    exact ⟨hworld ▸ h.around, by rw [hi, hworld, h.rest], by rw [hi, hworld]; exact h.own, .inr hself⟩

theorem Leading.run (h : Leading f calls id w i s) (hnames : (calls !i).Names id w.time)
    (schedule : List Bool) : Leading f calls id w i (s.run f calls schedule) := by
  induction schedule generalizing s with
  | nil => exact h
  | cons j rest ih => exact ih (h.turn hnames j)

/-- The first turn of a race finds an id free. -/
theorem turn_start (hnames : (calls i).Names id w.time) (hfree : Free f id w.files) :
    ((start w).turn f calls i).world = w ∧
      ((start w).turn f calls i).stage i =
        .opens id (moment w.time) ∧
      ((start w).turn f calls i).stage (!i) = .checks := by
  obtain ⟨hworld, hself, hother⟩ :=
    turn_of_eq (s := start w) (Call.turn_checks_free hnames hfree.1 hfree.2)
  exact ⟨hworld, hself, hother (!i) (by simp)⟩

theorem around_self (hfaults : w.faults = {}) (hfree : Free f id w.files) : Around f id w w := by
  refine ⟨hfaults, rfl, ?_⟩
  rw [Files.drop_of_get?_none hfree.2, Files.drop_of_get?_none hfree.1]

theorem leading_start (hnames : (calls i).Names id w.time) (hfaults : w.faults = {})
    (hfree : Free f id w.files) :
    Leading f calls id w i (((start w).turn f calls i).turn f calls i) := by
  have hchecked := Call.turn_checks_free hnames hfree.1 hfree.2
  obtain ⟨v, hopened, haround, htables, hrecord⟩ := (around_self hfaults hfree).opens (calls i)
    (moment w.time) (.inl hfree.1) hfree.2
  have hrest := (calls i).exec_rest_turn f .checks w
  have hrest' := (calls i).exec_rest_turn f
    (.opens id (moment w.time)) w
  rw [hchecked] at hrest
  rw [hopened] at hrest'
  obtain ⟨hworld, hopens, hchecks⟩ := turn_start hnames hfree
  generalize (start w).turn f calls i = s at hworld hopens hchecks
  subst hworld
  rw [← hopens] at hopened
  obtain ⟨hworld, hself, hother⟩ := turn_of_eq hopened
  refine ⟨hworld ▸ haround, ?_, .inl ⟨hself, hworld ▸ htables, hworld ▸ hrecord⟩,
    .inl ((hother (!i) (by simp)).trans hchecks)⟩
  rw [hself, hworld]
  exact hrest'.trans hrest

theorem collision_start (hnames : ∀ i, (calls i).Names id w.time) (hfaults : w.faults = {})
    (hfree : Free f id w.files) :
    Collision f calls id w (((start w).turn f calls i).turn f calls !i) := by
  have hchecked := Call.turn_checks_free (hnames !i) hfree.1 hfree.2
  obtain ⟨hworld, hopens, hchecks⟩ := turn_start (hnames i) hfree
  generalize (start w).turn f calls i = s at hworld hopens hchecks
  subst hworld
  rw [← hchecks] at hchecked
  obtain ⟨hworld, hself, hother⟩ := turn_of_eq hchecked
  have haround : Around f id s.world (s.turn f calls !i).world := by
    rw [hworld]
    exact around_self hfaults hfree
  refine .unrecorded haround (.inl (hworld ▸ hfree.1)) (hworld ▸ hfree.2) fun k => .inl ?_
  by_cases hk : k = !i
  · exact hk ▸ hself
  · rw [hother k hk]
    obtain rfl : k = i := by simpa using hk
    exact hopens

/-- What comes of the calls where the one that has found an id free has opened its file before the other
one has looked: its database is made as it is all at once, and the other call is refused. -/
structure Won (f : Folders) (calls : Bool → Call) (id : String) (w : World) (i : Bool) (s : Race) :
    Prop where
  made : ∃ r, s.stage i = .ended (.ok r) ∧ f.records.Stores id r s.world.files ∧
    (create f (.text (calls i).name) (.text (calls i).description)).exec w = (.ok r, s.world)
  tables : s.world.files.get? (Store.place f.data id) = some (.database firstTables)
  refused : s.stage (!i) = .ended (.error (.databaseExists id))

/-- What comes of the calls where both have found an id free before either has opened its file: one of
them fails as it finds the record of the other one, and then neither file nor record is there, even if
the other call has succeeded. -/
structure Lost (id : String) (w : World) (i : Bool) (s : Race) : Prop where
  files : s.world.files = w.files
  told : (∃ r, s.stage i = .ended (.ok r)) ∨ s.stage i = .ended (.error (.databaseMissing id)) ∨
    s.stage i = .ended (.error (.recordMissing (.text id)))
  refused : s.stage (!i) = .ended (.error (.recordExists (.text id)))

theorem Leading.won (h : Leading f calls id w i s) (hover : s.Over) : Won f calls id w i s := by
  obtain ⟨outcome, hended⟩ := Stage.left_eq_zero.mp (hover i)
  have hmade : Made f id (calls i) s.world (s.stage i) := by
    rcases h.own with ⟨hrecords, -⟩ | hmade
    · cases hended.symm.trans hrecords
    · exact hmade
  have hrest := h.rest
  rw [hended] at hmade hrest
  cases hmade with
  | ended tables record =>
    refine ⟨⟨_, hended, record, hrest.symm⟩, tables, ?_⟩
    rcases h.other with hchecks | hrefused
    · exact absurd hchecks (hover.ne (Nat.succ_pos _))
    · exact hrefused

theorem Collision.lost (h : Collision f calls id w s) (hover : s.Over) : ∃ i, Lost id w i s := by
  cases h with
  | unrecorded around tables record stages =>
    rcases stages true with hopens | ⟨hrecords, -⟩
    · exact absurd hopens (hover.ne (Nat.succ_pos _))
    · exact absurd hrecords (hover.ne (Nat.succ_pos _))
  | recorded i around made other =>
    rcases other with hopens | hrecords | hcleans
    · exact absurd hopens (hover.ne (Nat.succ_pos _))
    · exact absurd hrecords (hover.ne (Nat.succ_pos _))
    · exact absurd hcleans (hover.ne (Nat.succ_pos _))
  | removed i files bereft other =>
    have hleft := hover i
    refine ⟨i, files, ?_, other⟩
    generalize s.stage i = stage at bereft hleft
    cases bereft with
    | fills => cases hleft
    | answers => cases hleft
    | cleans => cases hleft
    | ended => exact .inl ⟨_, rfl⟩
    | storeless => exact .inr (.inl rfl)
    | recordless => exact .inr (.inr rfl)

theorem Won.safe (h : Won f calls id w i s) : s.Safe f id := by
  obtain ⟨r, hended, hrecord, -⟩ := h.made
  have hboth : (s.world.files.has (Store.place f.data id) &&
      s.world.files.has (f.records.place id)) = true := by
    rw [Files.has_eq, Files.has_eq, h.tables, hrecord.file]
    rfl
  exact ⟨⟨i, by rw [hended]; rfl⟩, fun _ _ => hboth⟩

theorem Lost.not_safe (h : Lost id w i s) (hfree : Free f id w.files) : ¬s.Safe f id := by
  rintro ⟨⟨j, hj⟩, hall⟩
  have hboth := hall j hj
  rw [h.files, Files.has_eq, hfree.1] at hboth
  cases hboth

/-- Where something goes by an id, both calls are refused. -/
theorem run_taken (hnames : ∀ i, (calls i).Names id w.time) (htaken : ¬Free f id w.files)
    (schedule : List Bool) (hs : s.world = w)
    (hstage : ∀ i, s.stage i = .checks ∨ s.stage i = .ended (.error (.databaseExists id))) :
    (s.run f calls schedule).world = w ∧ ∀ i, (s.run f calls schedule).stage i = .checks ∨
      (s.run f calls schedule).stage i = .ended (.error (.databaseExists id)) := by
  induction schedule generalizing s with
  | nil => exact ⟨hs, hstage⟩
  | cons j rest ih =>
    have hthere : (w.files.has (Store.place f.data id) || w.files.has (f.records.place id)) = true := by
      rw [Files.has_eq, Files.has_eq, Bool.or_eq_true, Option.isSome_iff_ne_none,
        Option.isSome_iff_ne_none]
      exact not_and_or.mp htaken
    have hturn : (calls j).turn f (s.stage j) s.world = (.ended (.error (.databaseExists id)), w) := by
      rw [hs]
      rcases hstage j with hchecks | hended
      · rw [hchecks, Call.turn_checks_taken (hnames j) hthere]
      · rw [hended]
        rfl
    obtain ⟨hworld, hself, hother⟩ := turn_of_eq hturn
    refine ih hworld fun k => ?_
    by_cases hk : k = j
    · exact .inr (hk ▸ hself)
    · rw [hother k hk]
      exact hstage k

/-- Two calls that make a database under one id, whatever the order of their turns. Both end, with five
turns each at the latest. If something goes by the id already, both are refused and nothing changes.
Otherwise a call succeeds whose database is there in the end exactly if one of them opens the file before
the other one looks: then that call does what it does alone. If both look first, neither file nor record
is there in the end, whether one of them was told of success or not. -/
theorem safe_iff_opened_first (hnames : ∀ i, (calls i).Names id w.time) (hfaults : w.faults = {})
    (schedule : List Bool) :
    let s := (start w).run f calls schedule
    ((∀ i, 5 ≤ schedule.count i) → s.Over) ∧
    (s.Over → ¬Free f id w.files →
      s.world = w ∧ ∀ i, s.stage i = .ended (.error (.databaseExists id))) ∧
    (s.Over → Free f id w.files →
      (s.Safe f id ↔ ∃ i rest, schedule = i :: i :: rest) ∧
      (∀ i rest, schedule = i :: i :: rest → Won f calls id w i s) ∧
      ∀ i rest, schedule = i :: (!i) :: rest → ∃ j, Lost id w j s) := by
  intro s
  refine ⟨over_of_count, fun hover htaken => ?_, fun hover hfree => ?_⟩
  · obtain ⟨hworld, hstage⟩ := run_taken hnames htaken schedule (s := start w) rfl fun _ => .inl rfl
    exact ⟨hworld, fun i => (hstage i).resolve_left (hover.ne (Nat.succ_pos _))⟩
  have hwon : ∀ i rest, schedule = i :: i :: rest → Won f calls id w i s := by
    rintro i rest rfl
    exact ((leading_start (hnames i) hfaults hfree).run (hnames !i) rest).won hover
  have hlost : ∀ i rest, schedule = i :: (!i) :: rest → ∃ j, Lost id w j s := by
    rintro i rest rfl
    exact ((collision_start hnames hfaults hfree).run hfree rest).lost hover
  refine ⟨⟨fun hsafe => ?_, fun ⟨i, rest, h⟩ => (hwon i rest h).safe⟩, hwon, hlost⟩
  -- The first two turns decide: two of one call, or one of each.
  rcases schedule with _ | ⟨i, _ | ⟨j, rest⟩⟩
  · have hchecks : s.stage true = .checks := rfl
    exact absurd hchecks (hover.ne (Nat.succ_pos _))
  · -- The other call has not had its first turn.
    have hchecks : s.stage (!i) = .checks := (turn_of_eq (s := start w) rfl).2.2 (!i) (by simp)
    exact absurd hchecks (hover.ne (Nat.succ_pos _))
  · by_cases hj : j = i
    · exact ⟨i, rest, by rw [hj]⟩
    · obtain ⟨k, hk⟩ := hlost i rest (by rw [Bool.eq_not_of_ne hj])
      exact absurd hsafe (hk.not_safe hfree)

def sampleFolders : Folders := ⟨"data", "backup"⟩

/-- Two calls that go for one id in an empty workspace. -/
def twins (i : Bool) : Call :=
  ⟨"a", if i then "first" else "second"⟩

theorem twins_names (i : Bool) : (twins i).Names "a_0" 0 := by
  cases i <;> exact ⟨rfl, by decide +kernel⟩

/-- The first call has made its database before the second one looks. -/
theorem safe_in_turn :
    ((start {}).run sampleFolders twins
      (List.replicate 5 true ++ List.replicate 5 false)).Safe sampleFolders "a_0" := by
  obtain ⟨hover, -, hsafe⟩ := safe_iff_opened_first (f := sampleFolders) (w := {}) twins_names rfl
    (List.replicate 5 true ++ List.replicate 5 false)
  exact (hsafe (hover (by decide)) ⟨rfl, rfl⟩).1.mpr ⟨true, _, rfl⟩

/-- Both calls look first. The first one makes its database and is told so, and then the second one fails
and removes it. -/
theorem told_and_removed :
    let s := (start {}).run sampleFolders twins
      [true, false, true, true, true, true, false, false, false]
    (∀ i, (twins i).Names "a_0" 0) ∧
      s.Over ∧ (s.stage true).succeeds = true ∧ ¬s.Safe sampleFolders "a_0" :=
  ⟨twins_names, by decide +kernel⟩

end Race

end Cabinet.Databases

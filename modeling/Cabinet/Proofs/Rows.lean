import Cabinet.Proofs.Column.Admits
import Cabinet.Proofs.Schema.Agreement
import Cabinet.Proofs.Workspace.Paired
import Cabinet.Rows

/-!
Operations on rows keep databases paired with their records.
-/

namespace Cabinet

open Operation Storage

namespace World.Good

variable {α β : Type} {b : Bond} {f : Folders} {agreed : Bool} {w : World} {id name : String}

/-- What is computed first leaves the workspace as it is. -/
theorem of_bind (hw : Good b f agreed w) {x : Except Error α} {next : α → Operation β}
    (hn : ∀ a, x = .ok a → Good b f agreed ((next a).exec w).2) :
    Good b f agreed ((Operation.of x >>= next).exec w).2 := by
  rw [exec_bind, exec_of]
  cases x with
  | error e => exact hw
  | ok a => exact hn a rfl

/-- Changes of rows in one transaction, which keep the stored tables bound to those of the record. -/
theorem transaction (hw : Good b f agreed w) {r : Record} (hr : f.records.Stores id r w.files)
    {body : Database → Except Error (α × Database)}
    (hbody : ∀ {db a db'}, db.Holds r.tables b.relation → body db = .ok (a, db') →
      db'.Holds r.tables b.relation) :
    Good b f agreed ((Store.existing f id >>= fun p => Store.transaction p body).exec w).2 := by
  simp only [exec_bind, Store.exec_existing, Files.has_eq]
  cases hthere : w.files.get? (Store.place f.data id) with
  | none => exact hw
  | some file =>
    obtain ⟨db, rfl⟩ := hw.sound.database hthere
    simp only [Option.isSome_some, if_true, Store.exec_transaction hthere]
    rcases hresult : body db with e | ⟨a, db'⟩
    · exact hw
    · cases w.faults.commit with
      | true => exact hw
      | false =>
        simp only [Bool.false_eq_true, if_false]
        refine hw.update f.records id ?_ (fun p hp _ => ?_) fun hb => ?_
        · exact hw.sound.put (.tables f.data id db')
        · exact Files.get?_put_of_ne hp _ _
        have hholds := (hw.at (.inl rfl) id hb).holds hr hthere
        refine .inr ⟨r, db', hr.congr ?_, Files.get?_put_self _ _ _, hbody hholds hresult⟩
        exact Files.get?_put_of_ne (f.records.place_ne _ _ _) _ _

end World.Good

/-- What is done after a table of the record has been read. -/
theorem Operation.Keeps.of_table {α : Type} {b : Bond} {f : Folders} {id name : String}
    {next : Table → Operation α}
    (hn : ∀ {agreed w r t}, World.Good b f agreed w → f.records.Stores id r w.files →
      r.tables.get? (Name.normalize name) = some t → World.Good b f agreed ((next t).exec w).2) :
    (Schema.table f id (Name.normalize name) >>= next).Keeps b f := by
  intro agreed w hw
  rw [exec_bind, Schema.table, exec_bind]
  rcases f.records.read_cases hw.sound id with ⟨r, hr, hread⟩ | ⟨-, hread⟩
  swap
  · rw [hread]
    exact hw.weaken _
  simp only [hread, exec_of, Name.normalize_normalize]
  cases ht : r.table (Name.normalize name) with
  | error e => exact hw.weaken _
  | ok t =>
    have hfound : r.tables.get? (Name.normalize name) = some t := by
      unfold Record.table at ht
      split at ht <;> simp_all
    exact (hn hw hr hfound).weaken _

namespace Store

variable {α : Type} {b : Bond} {f : Folders} {id : String}

/-- What only asks the stored tables of a database. -/
theorem asking_keeps {next : Opened → Operation α} (hn : ∀ tables, (next tables).Keeps b f) :
    (existing f id >>= fun p => connect p >>= next).Keeps b f := by
  intro agreed w hw
  simp only [exec_bind, exec_existing, Files.has_eq]
  cases hthere : w.files.get? (place f.data id) with
  | none => exact hw.weaken _
  | some file =>
    obtain ⟨db, rfl⟩ := hw.sound.database hthere
    simp only [Option.isSome_some, if_true, exec_connect hthere]
    exact hn _ hw

theorem ask_keeps (tables : Opened) (s : Statement α) : (ask tables s).Keeps b f :=
  .of _

end Store

namespace Rows

open Store

/-- A value that may be given for a name: not one that is written by the library alone, and a title
says something. -/
def IsAssignable (name : String) (v : Value) : Prop :=
  name ∉ skippedNames ∧ (name = "title" → ∃ s, v = .text s ∧ Text.isAllBlank s.toList = false)

section Values

variable {T : Int → Prop} {t : Table} {c : Column} {name table : String} {given v : Value}
  {values accepted : Fields Value}

/-- What is given with a title that has been checked is assignable. -/
theorem isAssignable_byName {isRequired : Bool} {data : List (String × Value)}
    (h : ensureTitle isRequired (byName data) = .ok ()) {entry : String × Value}
    (he : entry ∈ byName data) : IsAssignable entry.1 entry.2 := by
  have hmem := Fields.mem_of_mem_ofAssignments he
  refine ⟨by simpa using (List.mem_filter.mp hmem).2, fun hname => ?_⟩
  have hget : (byName data).get? "title" = some entry.2 :=
    (Fields.get?_eq_some_iff (Fields.nodup_keys_ofAssignments _)).mpr (hname ▸ he)
  rw [ensureTitle, hget] at h
  split at h
  · simp_all
  · next s heq =>
    split at h
    · simp at h
    · next hblank => exact ⟨s, Option.some.inj heq, by simpa using hblank⟩
  · simp at h

theorem title_mem_of_ensureTitle (h : ensureTitle true values = .ok ()) : "title" ∈ values.keys := by
  rw [← Fields.get?_isSome_iff]
  unfold ensureTitle at h
  split at h
  · simp at h
  all_goals simp_all

/-- What is stored for an assignable value is written in its column. -/
theorem written_of_stored (ht : t.WellFormed) (hc : t.columns.get? name = some c)
    (hgiven : IsAssignable name given) (h : stored c given = .ok v) : c.Written T v := by
  have hname := (ht.named hc).1
  refine .accepted h (hname ▸ hgiven.1) fun htitle => ?_
  obtain rfl : name = "title" := hname.symm.trans htitle
  obtain ⟨s, rfl, hs⟩ := hgiven.2 rfl
  have htype : c.type = .string := ht.type_eq hc (by decide) (by decide)
  simp only [stored, Column.accept, htype] at h
  exact ⟨s, (Except.ok.inj h).symm, hs⟩

/-- A protected column gets a value of its own. -/
theorem exists_protected (ht : t.WellFormed) (hn : name ∈ Column.protectedNames) :
    ∃ c, t.columns.get? name = some c ∧ c.name = name := by
  obtain ⟨c, hc⟩ := Option.isSome_iff_exists.mp
    (Fields.get?_isSome_iff.mpr (ht.mem_keys_of_protected hn))
  exact ⟨c, hc, (ht.named hc).1⟩

theorem writes_time (ht : t.WellFormed) {n : Int} (hn : T n) (hname : name = "date_created" ∨
    name = "date_modified") : ∃ c, t.columns.get? name = some c ∧ c.Written T (.int n) := by
  have hp : name ∈ Column.protectedNames := by rcases hname with rfl | rfl <;> decide
  obtain ⟨c, hc, hcn⟩ := exists_protected ht hp
  exact ⟨c, hc, .time hn (hcn ▸ hname)⟩

theorem writes_flag (ht : t.WellFormed) {n : Int} (hn : n = 0 ∨ n = 1) :
    ∃ c, t.columns.get? "hidden" = some c ∧ c.Written T (.int n) := by
  have hp : "hidden" ∈ Column.protectedNames := by decide
  obtain ⟨c, hc, hcn⟩ := exists_protected ht hp
  exact ⟨c, hc, .flag hn hcn⟩

theorem writes_initial (ht : t.WellFormed) {n : Int} (hn : T n) : t.Writes T (initial n) := by
  intro e he
  simp only [initial, List.mem_cons, List.not_mem_nil, or_false] at he
  rcases he with rfl | rfl | rfl
  · exact writes_time ht hn (.inl rfl)
  · exact writes_time ht hn (.inr rfl)
  · exact writes_flag ht (.inl rfl)

/-- What hides or shows a row is written in its columns. -/
theorem writes_visibility (ht : t.WellFormed) {hidden : Value} {flag n : Int}
    (hflag : Column.flag? hidden = some flag) (hn : T n) :
    t.Writes T [("hidden", .int flag), ("date_modified", .int n)] := by
  intro e he
  simp only [List.mem_cons, List.not_mem_nil, or_false] at he
  rcases he with rfl | rfl
  · exact writes_flag ht (Column.flag?_eq_some_iff.mp hflag).2
  · exact writes_time ht hn (.inr rfl)

theorem writes_put (h : t.Writes T values) (hv : ∃ c, t.columns.get? name = some c ∧ c.Written T v) :
    t.Writes T (values.put name v) := by
  intro e he
  rcases Fields.mem_of_mem_put he with rfl | he
  · exact hv
  · exact h e he

/-- Values that are all accepted are written. -/
theorem writes_acceptAll (ht : t.WellFormed) (hv : ∀ e ∈ values, IsAssignable e.1 e.2)
    (h : acceptAll table t values = .ok accepted) : t.Writes T accepted := by
  induction values generalizing accepted with
  | nil =>
    obtain rfl := Except.ok.inj h
    exact fun e he => nomatch he
  | cons entry rest ih =>
    unfold acceptAll at h
    split at h
    · simp at h
    next c hc =>
    obtain ⟨v, hstored, h⟩ := bind_eq_ok_iff.mp h
    obtain ⟨others, hothers, h⟩ := bind_eq_ok_iff.mp h
    obtain rfl := Except.ok.inj h
    intro e he
    rcases List.mem_cons.mp he with rfl | he
    · exact ⟨c, hc, written_of_stored ht hc (hv _ List.mem_cons_self) hstored⟩
    · exact ih (fun e he => hv e (List.mem_cons_of_mem _ he)) hothers e he

/-- Values for columns that are there are accepted, and written besides what was accepted before. -/
theorem exec_acceptKnown (ht : t.WellFormed) (hv : ∀ e ∈ values, IsAssignable e.1 e.2)
    (table : String) (accepted : Fields Value) (w : World) :
    ∃ x log, (acceptKnown table t values accepted).exec w = (x, { w with log }) ∧
      ∀ result, x = .ok result → (t.Writes T accepted → t.Writes T result) ∧
        ∀ key ∈ t.columns.keys, key ∈ accepted.keys ∨ key ∈ values.keys → key ∈ result.keys := by
  -- By induction on the values, with what was accepted so far and the world that is warned varying.
  induction values generalizing accepted w with
  | nil =>
    refine ⟨.ok accepted, w.log, rfl, fun result hresult => ?_⟩
    obtain rfl := Except.ok.inj hresult
    exact ⟨id, fun key _ hkey => hkey.elim id (fun h => nomatch h)⟩
  | cons entry rest ih =>
    obtain ⟨name, given⟩ := entry
    have hrest := fun e he => hv e (List.mem_cons_of_mem _ he)
    unfold acceptKnown
    split
    · next hc =>
      obtain ⟨x, entries, hexec, hx⟩ := ih hrest accepted { w with
        log := ⟨.warning, source, "Ignoring unknown column '" ++ name ++ "' for table '" ++ table ++ "'"⟩ ::
          w.log }
      refine ⟨x, entries, by rw [exec_bind, exec_log]; exact hexec, fun result hresult => ?_⟩
      refine ⟨(hx result hresult).1, fun key hkey hin => (hx result hresult).2 key hkey ?_⟩
      -- The value that is ignored is of none of the columns that are asked about.
      refine hin.imp_right fun hin => ?_
      rcases List.mem_cons.mp hin with rfl | hin
      · exact absurd hkey (Fields.get?_eq_none_iff.mp hc)
      · exact hin
    · next c hc =>
      cases hstored : stored c given with
      | error e => exact ⟨.error e, w.log, by rw [exec_bind, exec_of], fun _ h => nomatch h⟩
      | ok v =>
        obtain ⟨x, entries, hexec, hx⟩ := ih hrest (accepted.put name v) w
        refine ⟨x, entries, by rw [exec_bind, exec_of]; exact hexec, fun result hresult => ?_⟩
        obtain ⟨hwrites, hkeys⟩ := hx result hresult
        have hwritten := written_of_stored (T := T) ht hc (hv _ List.mem_cons_self) hstored
        refine ⟨fun h => hwrites (writes_put h ⟨c, hc, hwritten⟩), fun key hkey hin => hkeys key hkey ?_⟩
        rw [Fields.mem_keys_put]
        rcases hin with hin | hin
        · exact .inl (.inr hin)
        · exact (List.mem_cons.mp hin).elim (fun h => .inl (.inl h)) .inr

end Values

variable {b : Bond} (f : Folders) (id table : String)

/-- A new row has a title, what was accepted for the columns, and the time. -/
theorem create_keeps (data : List (String × Value)) : (create f id table data).Keeps b f := by
  refine .of_table fun {agreed w r t} hw hr ht => hw.of_bind fun _ htitle => ?_
  have hwell := (hr.sound.tables ht).toWellFormed
  have hassignable : ∀ e ∈ byName data, IsAssignable e.1 e.2 := fun e he => isAssignable_byName htitle he
  obtain ⟨x, log, hexec, hx⟩ := exec_acceptKnown (T := b.times) hwell hassignable
    (Name.normalize table) (initial w.time) w
  rw [exec_bind, exec_now]
  dsimp only
  rw [exec_bind, hexec]
  have hlogged : World.Good b f agreed { w with log } := hw.congr fun _ => rfl
  cases x with
  | error e => exact hlogged
  | ok values =>
  obtain ⟨hwrites, hkeys⟩ := hx values rfl
  have htitled : "title" ∈ values.keys :=
    hkeys _ (hwell.mem_keys_of_protected (by decide)) (.inr (title_mem_of_ensureTitle htitle))
  have hdated : "date_modified" ∈ values.keys :=
    hkeys _ (hwell.mem_keys_of_protected (by decide)) (.inl (by simp [initial, Fields.keys]))
  refine hlogged.transaction hr fun {db a db'} hdb h => ?_
  simp only [bind_eq_ok_iff, Statement.on_eq_ok] at h
  obtain ⟨⟨row, inserted⟩, hinsert, rows, -, row', -, h⟩ := h
  obtain ⟨-, rfl⟩ := Prod.ext_iff.mp (Except.ok.inj h)
  exact hdb.insert b.lasting hr.sound.areNamed ht hwell (hwrites (writes_initial hwell hw.time))
    htitled hdated hinsert

theorem get_keeps (row : Int) : (get f id table row).Keeps b f :=
  (Schema.reads_table f id _).keeps.bind fun _ => asking_keeps fun tables =>
    (ask_keeps tables _).bind fun _ => .of _

variable {f id table} in
/-- Values that are written in a row keep the stored tables bound to those of the record. -/
theorem write_good {agreed : Bool} {w : World} (hw : World.Good b f agreed w)
    {r : Record} {t : Table} (hr : f.records.Stores id r w.files) (ht : r.tables.get? table = some t)
    {values : Fields Value} (hv : t.Writes b.times values) (row : Int) :
    World.Good b f agreed ((write f id table row values).exec w).2 := by
  refine hw.transaction hr fun {db a db'} hdb h => ?_
  simp only [bind_eq_ok_iff, throw_eq_error, check_eq_ok_iff, Statement.on_eq_ok] at h
  obtain ⟨⟨n, updated⟩, hupdate, -, rows, -, row', -, h⟩ := h
  obtain ⟨-, rfl⟩ := Prod.ext_iff.mp (Except.ok.inj h)
  exact hdb.update b.lasting hr.sound.areNamed ht (hr.sound.tables ht).toWellFormed hv hupdate

theorem update_keeps (row : Int) (data : List (String × Value)) :
    (update f id table row data).Keeps b f := by
  refine .of_table fun {agreed w r t} hw hr ht => hw.of_bind fun _ htitle =>
    hw.of_bind fun accepted haccepted => ?_
  have hwell := (hr.sound.tables ht).toWellFormed
  have hwrites : t.Writes b.times accepted :=
    writes_acceptAll hwell (fun e he => isAssignable_byName htitle he) haccepted
  rw [exec_bind, exec_now]
  exact write_good hw hr ht (writes_put hwrites (writes_time hwell hw.time (.inr rfl))) row

theorem setVisibility_keeps (row : Int) (hidden : Value) :
    (setVisibility f id table row hidden).Keeps b f := by
  unfold setVisibility
  split
  · exact .of (.error _)
  next flag hflag =>
  refine .of_table fun {agreed w r t} hw hr ht => ?_
  have hwell := (hr.sound.tables ht).toWellFormed
  rw [exec_bind, exec_now]
  exact write_good hw hr ht (writes_visibility hwell hflag hw.time) row

theorem delete_keeps (row : Int) : (delete f id table row).Keeps b f := by
  refine .of_table fun {agreed w r t} hw hr ht => hw.transaction hr fun {db a db'} hdb h => ?_
  simp only [bind_eq_ok_iff, throw_eq_error, check_eq_ok_iff, Statement.on_eq_ok] at h
  obtain ⟨⟨n, deleted⟩, hdelete, -, h⟩ := h
  obtain ⟨-, rfl⟩ := Prod.ext_iff.mp (Except.ok.inj h)
  exact hdb.delete b.lasting hr.sound.areNamed ht hdelete

theorem noteFallback_quiet (query : Value) : (noteFallback query).Quiet := by
  unfold noteFallback
  split
  · split
    · exact .pure ()
    · split
      · exact .pure ()
      · exact .log _ _ _
  · exact .pure ()

theorem search_keeps (options : SearchOptions) : (search f id table options).Keeps b f :=
  (Keeps.of _).bind fun _ => (Keeps.of _).bind fun _ => (Schema.reads_table f id _).keeps.bind fun _ =>
    (Keeps.of _).bind fun _ => (noteFallback_quiet _).keeps.bind fun _ => (Keeps.of _).bind fun _ =>
      asking_keeps fun _ => (ask_keeps _ _).bind fun _ => (ask_keeps _ _).bind fun _ =>
        (ask_keeps _ _).bind fun _ => .of (.ok _)

end Rows

end Cabinet

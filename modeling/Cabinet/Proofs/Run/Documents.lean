import Cabinet.Proofs.Run.Basic
import Cabinet.Proofs.Schema.Making

/-!
The records of a run, and the texts that they are written as: whatever a request makes of a record is
read as it was written, with the order of its tables, columns and tags.
-/

namespace Cabinet

/-- A column has tags only if its values are tags, and a rule only if it is custom. A rule that is not
empty compiles; the names of the tags are normal, and no two of them are the same. -/
structure Column.Canonical (c : Column) : Prop where
  tagged : c.tags ≠ [] → c.type.isTag = true
  ruled : c.rule ≠ .text "" → c.type = .custom
  compiled : ∃ rule, c.rule = .text rule ∧ (rule ≠ "" → ∃ p, c.compileRule rule = .ok p)
  named : ∃ names : List String, c.tags.map (·.name) = names.map .text ∧ names.Nodup ∧
    ∀ name ∈ names, name ≠ "" ∧ Name.normalize name = name

theorem Column.Sound.canonical {c : Column} (h : c.Sound) : c.Canonical where
  tagged hne := by
    by_contra hno
    exact hne (h.tagless (Bool.eq_false_iff.mpr hno))
  ruled hne := by
    by_contra hno
    exact hne (h.ruleless hno)
  compiled := h.compiled
  named := by
    -- The name of a tag is a value; by induction on the tags, all of them are texts here.
    have hnames : ∀ tags : List Tag, (∀ t ∈ tags, ∃ tag, t.name = .text tag ∧ Name.IsNormal tag) →
        ∃ names : List String, tags.map (·.name) = names.map .text ∧
          ∀ name ∈ names, Name.IsNormal name := by
      intro tags
      induction tags with
      | nil => exact fun _ => ⟨[], rfl, by simp⟩
      | cons t rest ih =>
        intro hall
        rw [List.forall_mem_cons] at hall
        obtain ⟨⟨tag, htag, hnormal⟩, hrest⟩ := hall
        obtain ⟨names, hmap, hnames⟩ := ih hrest
        exact ⟨tag :: names, by simp [htag, hmap], List.forall_mem_cons.mpr ⟨hnormal, hnames⟩⟩
    obtain ⟨names, hmap, hnormal⟩ := hnames c.tags h.named
    have hnodup := h.distinct
    rw [hmap] at hnodup
    exact ⟨names, hmap, hnodup.of_map _, fun name hname =>
      ⟨(hnormal name hname).ne_empty, (hnormal name hname).normalize_eq⟩⟩

/-- The records that are made in a workspace: of new ones and of those that are stored there, by
requests and by what copies, renames and shows databases. -/
inductive Record.Made (w : World) : Record → Prop
  | new (id name description : String) (time : Int) :
    Made w (Databases.newRecord id name (.text (String.ofList (Calendar.momentText time)))
      (.text description))
  | stored {p : Place} {s : List Char} {r : Record} (file : w.files.get? p = some (.text s))
    (read : Record.read s = .ok r) : Made w r
  | request {r r' : Record} {db db' : Storage.Database} (h : Made w r) (q : Schema.Request)
    (id : String) (made : q.making id r db = .ok (some (r', db'))) : Made w r'
  | identified {r : Record} (h : Made w r) (id : String) : Made w { r with id := .text id }
  | titled {r : Record} (h : Made w r) (name : String) : Made w { r with displayName := .text name }
  | stamped {r : Record} (h : Made w r) (time : Int) :
    Made w { r with modifiedAt := .text (String.ofList (Calendar.momentText time)) }
  | shown {r : Record} (h : Made w r) (hidden : Bool) : Made w { r with hidden }
  | counted {r : Record} (h : Made w r) (version : Int) : Made w { r with version }

variable {f : Folders} {agreed : Bool} {w w' : World}

/-- What is made of sound records is sound. -/
theorem Record.Made.sound {r : Record} (h : r.Made w) (hs : w.files.Sound) : r.Sound := by
  induction h with
  | new id name description time => exact Databases.newRecord_sound id name description time
  | stored file read =>
    obtain ⟨found, -, hsound, hread⟩ := hs.document file
    obtain ⟨⟩ := read.symm.trans hread
    exact hsound
  | request _ q id made ih => exact ((q.begin_begins ⟨"", ""⟩ id).sound ih made).1
  | identified _ id ih => exact ih.relabel (Json.isPlain_text id) ih.displayName ih.modifiedAt
  | titled _ name ih => exact ih.relabel ih.id (Json.isPlain_text name) ih.modifiedAt
  | stamped _ time ih => exact ih.relabel ih.id ih.displayName (Json.isPlain_text _)
  | shown _ hidden ih => exact ih.shown hidden
  | counted _ version ih => exact ih.at_version version

/-- Every text of a record that a run leaves behind is read as the record that was written. Whatever
is made of these records, and of new ones, has canonical columns, and it is read as it was written if
its numbers are not too long for that. This is what a request writes that succeeds: the record that it
leaves behind is the one that it makes of the record that was there. -/
theorem Reachable.records_read_back (h : Reachable f agreed w) :
    (∀ {p s}, w.files.get? p = some (.text s) →
      ∃ r, r.Made w ∧ s = r.write ∧ Record.read s = .ok r) ∧
    (∀ {r}, r.Made w →
      (∀ table ∈ r.tables, ∀ column ∈ table.2.columns, column.2.Canonical) ∧
      (Json.isWritable r.toDocument = true → Record.read r.write = .ok r)) ∧
    ∀ (q : Schema.Request) {id : String} {w' : World}, (q.run f id).exec w = (.ok (), w') →
      w'.files = w.files ∨ ∃ found r db db', (f.records.read id).exec w = (.ok found, w) ∧
        (∀ stored, w.files.get? (Store.place f.data id) = some (.database stored) → stored = db) ∧
        q.making id found db = .ok (some (r, db')) ∧
        (f.records.read id).exec w' = (.ok (Schema.replacement found r w.time), w') := by
  have hs := h.good.sound
  refine ⟨fun {p s} hfile => ?_, fun {r} hmade => ⟨fun table htable column hcolumn => ?_, ?_⟩,
    fun q id w' hrun => ?_⟩
  · obtain ⟨r, hwrite, -, hread⟩ := hs.document hfile
    exact ⟨r, .stored hfile hread, hwrite, hread⟩
  · have hr := hmade.sound hs
    have ht := hr.tables ((Fields.get?_eq_some_iff hr.nodup).mpr htable)
    exact (ht.columns (ht.get?_of_mem hcolumn)).canonical
  · exact Record.read_write (hmade.sound hs)
  · -- A request first makes what it makes, and then only tells of it.
    rw [q.run_eq] at hrun
    rcases (q.begin_begins f id).makes hs hrun with ⟨hsame, -⟩ | ⟨found, r, db, db', hmakes⟩
    · exact .inl hsame
    · exact .inr ⟨found, r, db, db', hmakes.before.read, fun _ => hmakes.tables, hmakes.made,
        hmakes.after.read⟩

/-- A new database whose first table is given a column of tags with a tag, and one with a rule. -/
def Request.labelled : List Request :=
  [.createDatabase (.text "a") "",
    .schema "a_0" (.addColumn "entries" (.text "Kind") (.text "multi_tag") false none),
    .schema "a_0" (.addTag "entries" "kind" (.text "New") "not \"seen\" yet"),
    .schema "a_0" (.addColumn "entries" (.text "Code") (.text "custom") false none),
    .schema "a_0" (.changeRule "entries" "code" (.text "[a-z]+"))]

/-- A workspace with the record of a database with a vocabulary and a rule. -/
def World.labelled : Folders.Sample ⟨"data", "backup"⟩ fun w =>
    (w.files.get? (RecordFolder.place ⟨"data", false⟩ "a_0")).isSome = true :=
  Request.sample _ Request.labelled (by decide +kernel)

/-- The record with a vocabulary and a rule is read back. -/
theorem Reachable.labelled_record_reads_back :
    ∃ s r, World.labelled.val.files.get? (RecordFolder.place ⟨"data", false⟩ "a_0") = some (.text s) ∧
      s = r.write ∧ Record.read s = .ok r ∧
      ∀ table ∈ r.tables, ∀ column ∈ table.2.columns, column.2.Canonical := by
  obtain ⟨hreach, hsome⟩ := World.labelled.property
  obtain ⟨file, hfile⟩ := Option.isSome_iff_exists.mp hsome
  obtain ⟨found, rfl, -⟩ := hreach.good.sound.stores hfile
  obtain ⟨htexts, hmade, -⟩ := hreach.records_read_back
  obtain ⟨r, hr, hwrite, hread⟩ := htexts hfile
  exact ⟨found.write, r, hfile, hwrite, hread, (hmade hr).1⟩

end Cabinet

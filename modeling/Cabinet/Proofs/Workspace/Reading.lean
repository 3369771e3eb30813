import Cabinet.Proofs.Schema.Calm
import Cabinet.Proofs.Workspace.Stores
import Cabinet.Schema.Apply

/-!
Operations that change nothing, and operations that only log.
-/

namespace Cabinet

open Operation

variable {α β : Type}

/-- An operation that changes nothing and whose answer comes from the files alone. -/
def Operation.Reads (op : Operation α) : Prop :=
  ∀ ⦃w : World⦄, w.files.Sound → ∃ x, Calm x ∧ ∀ w', w'.files = w.files → op.exec w' = (x, w')

/-- An operation that always succeeds and at most logs something. -/
def Operation.Quiet (op : Operation α) : Prop :=
  ∀ w, ∃ a log, op.exec w = (.ok a, { w with log })

namespace Operation

variable {op : Operation α} {next : α → Operation β}

theorem Quiet.pure (a : α) : (Pure.pure a : Operation α).Quiet :=
  fun w => ⟨a, w.log, rfl⟩

theorem Quiet.log (level : Level) (source text : String) : (log level source text).Quiet :=
  fun _ => ⟨(), _, rfl⟩

theorem Reads.of {x : Except Error α} (h : Calm x) : (Operation.of x).Reads :=
  fun _ _ => ⟨x, h, fun w' _ => exec_of x w'⟩

theorem Reads.bind (h : op.Reads) (hn : ∀ a, (next a).Reads) : (op >>= next).Reads := by
  intro w hs
  obtain ⟨x, hcalm, hop⟩ := h hs
  cases x with
  | error e =>
    exact ⟨.error e, .error (hcalm e rfl), fun w' hw' => by rw [exec_bind, hop w' hw']⟩
  | ok a =>
    obtain ⟨y, hy, hnext⟩ := hn a hs
    exact ⟨y, hy, fun w' hw' => by rw [exec_bind, hop w' hw']; exact hnext w' hw'⟩

theorem Reads.bind_eq_ok {w : World} (h : op.Reads) (hs : w.files.Sound) {b : β}
    (hb : ((op >>= next).exec w).1 = .ok b) :
    ∃ a, op.exec w = (.ok a, w) ∧ ((next a).exec w).1 = .ok b := by
  obtain ⟨x, -, hop⟩ := h hs
  rw [exec_bind, hop w rfl] at hb
  cases x with
  | error e => simp at hb
  | ok a => exact ⟨a, hop w rfl, hb⟩

theorem Quiet.bind_eq_ok {w : World} (h : op.Quiet) {b : β} (hb : ((op >>= next).exec w).1 = .ok b) :
    ∃ a log, ((next a).exec { w with log }).1 = .ok b := by
  obtain ⟨a, log, hop⟩ := h w
  rw [exec_bind, hop] at hb
  exact ⟨a, log, hb⟩

end Operation

theorem RecordFolder.reads_read (g : RecordFolder) (id : String) : (g.read id).Reads := by
  intro w hs
  rcases g.read_cases hs id with ⟨r, hstores, -⟩ | ⟨hnone, -⟩
  · exact ⟨.ok r, .ok r, fun w' hw' => Stores.read (w := w') (hw' ▸ hstores)⟩
  · refine ⟨_, .error (e := .recordMissing (.text id)) nofun, fun w' hw' => ?_⟩
    rcases g.read_cases (w := w') (hw' ▸ hs) id with ⟨r, hstores, -⟩ | ⟨-, hread⟩
    · simp [hw' ▸ hstores.file] at hnone
    · exact hread

theorem Store.reads_existing (f : Folders) (id : String) : (existing f id).Reads := by
  intro w _
  refine ⟨_, ?_, fun w' hw' => by rw [exec_existing, hw']⟩
  split
  · exact .ok _
  · exact .error nofun

namespace Schema

theorem reads_table (f : Folders) (id name : String) : (table f id name).Reads :=
  .bind (f.records.reads_read id) fun r => .of (r.calm_table _)

theorem reads_column (f : Folders) (id table name : String) : (column f id table name).Reads :=
  .bind (reads_table f id _) fun t => .of (t.calm_column _ _)

end Schema

end Cabinet

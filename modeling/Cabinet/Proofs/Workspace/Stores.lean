import Cabinet.Proofs.Workspace.Records

/-!
Opening stored tables, and transactions on them.
-/

namespace Cabinet.Store

open Operation Storage

variable {w : World} {f : Folders} {id : String} {p : Place} {db : Database}

theorem exec_existing (f : Folders) (id : String) (w : World) :
    (existing f id).exec w =
      (if w.files.has (place f.data id) then .ok (place f.data id) else .error (.databaseMissing id),
        w) := by
  simp only [existing, exec_bind, exec_hasFile, exec_ite, exec_pure, exec_throw]
  split <;> rfl

theorem exec_connect (h : w.files.get? p = some (.database db)) :
    (connect p).exec w = (.ok (.ok db), w) := by
  simp only [connect, exec_bind, exec_file?, h]
  rfl

theorem exec_beginTransaction (h : w.files.get? p = some (.database db)) :
    (beginTransaction p).exec w = (.ok db, w) := by
  simp only [beginTransaction, exec_bind, exec_connect h, exec_of]
  rfl

theorem exec_commit (p : Place) (db : Database) (w : World) :
    (commit p db).exec w =
      if w.faults.commit then (.error (.storage "commit transaction" .diskError), w)
      else (.ok (), { w with files := w.files.put p (.database db) }) := by
  simp only [commit, exec_bind, exec_faults]
  cases w.faults.commit <;> rfl

theorem exec_ask {α : Type} (db : Database) (s : Statement α) (w : World) :
    (ask (.ok db) s).exec w = (s.on db, w) := by
  rw [ask, exec_of]
  rfl

/-- A transaction keeps what its body has done, or changes nothing. -/
theorem exec_transaction {α : Type} (h : w.files.get? p = some (.database db))
    (body : Database → Except Error (α × Database)) :
    (transaction p body).exec w =
      match body db with
      | .error e => (.error e, w)
      | .ok (a, db) =>
        if w.faults.commit then (.error (.storage "commit transaction" .diskError), w)
        else (.ok a, { w with files := w.files.put p (.database db) }) := by
  simp only [transaction, exec_bind, exec_beginTransaction h, exec_of]
  rcases body db with e | ⟨a, db⟩
  · rfl
  · simp only [exec_commit]
    cases w.faults.commit <;> rfl

end Cabinet.Store

import Cabinet.Workspace.Basic

/-!
What an operation answers in a world, and the world that it leaves behind.
-/

namespace Cabinet.Operation

variable {α β : Type} {w : World}

/-- The answer of an operation in a world, and the world that it leaves behind. -/
def exec (op : Operation α) (w : World) : Except Error α × World :=
  op.run.run w

theorem exec_bind (op : Operation α) (next : α → Operation β) (w : World) :
    (op >>= next).exec w =
      match op.exec w with
      | (.ok a, w') => (next a).exec w'
      | (.error e, w') => (.error e, w') := by
  change (ExceptT.bindCont next (op.run.run w).1).run (op.run.run w).2 = _
  simp only [exec]
  rcases op.run.run w with ⟨_ | _, _⟩ <;> rfl

theorem exec_tryCatch (op : Operation α) (handle : Error → Operation α) (w : World) :
    (tryCatch op handle).exec w =
      match op.exec w with
      | (.ok a, w') => (.ok a, w')
      | (.error e, w') => (handle e).exec w' := by
  change (ExceptT.tryCatch op handle).run.run w = _
  simp only [exec, ExceptT.tryCatch, ExceptT.run_mk, StateT.run_bind]
  change (op.run.run w >>= fun p => _ : Id _) = _
  rcases op.run.run w with ⟨_ | _, _⟩ <;> rfl

@[simp] theorem exec_pure (a : α) (w : World) : (pure a : Operation α).exec w = (.ok a, w) := rfl

@[simp] theorem exec_throw (e : Error) (w : World) :
    (throw e : Operation α).exec w = (.error e, w) := rfl

@[simp] theorem exec_map (f : α → β) (op : Operation α) (w : World) :
    (f <$> op).exec w = ((op.exec w).1.map f, (op.exec w).2) := by
  rw [map_eq_pure_bind, exec_bind]
  rcases op.exec w with ⟨_ | _, _⟩ <;> rfl

@[simp] theorem exec_get (w : World) : (get : Operation World).exec w = (.ok w, w) := rfl

@[simp] theorem exec_modify (f : World → World) (w : World) :
    (modify f : Operation Unit).exec w = (.ok (), f w) := rfl

@[simp] theorem exec_of (x : Except Error α) (w : World) : (Operation.of x).exec w = (x, w) := by
  cases x <;> rfl

@[simp] theorem exec_now (w : World) : now.exec w = (.ok w.time, w) := rfl

@[simp] theorem exec_faults (w : World) : faults.exec w = (.ok w.faults, w) := rfl

@[simp] theorem exec_stamp (w : World) :
    stamp.exec w = (.ok (.text (String.ofList (Calendar.momentText w.time))), w) := rfl

@[simp] theorem exec_log (level : Level) (source text : String) (w : World) :
    (log level source text).exec w = (.ok (), { w with log := ⟨level, source, text⟩ :: w.log }) :=
  rfl

@[simp] theorem exec_file? (p : Place) (w : World) :
    (file? p).exec w = (.ok (w.files.get? p), w) := rfl

@[simp] theorem exec_hasFile (p : Place) (w : World) :
    (hasFile p).exec w = (.ok (w.files.has p), w) := rfl

@[simp] theorem exec_modifyFiles (f : Files → Files) (w : World) :
    (modifyFiles f).exec w = (.ok (), { w with files := f w.files }) := rfl

@[simp] theorem exec_putFile (p : Place) (f : File) (w : World) :
    (putFile p f).exec w = (.ok (), { w with files := w.files.put p f }) := rfl

@[simp] theorem exec_ite (c : Prop) [Decidable c] (yes no : Operation α) (w : World) :
    (if c then yes else no).exec w = if c then yes.exec w else no.exec w :=
  apply_ite (fun op : Operation α => op.exec w) c yes no

/-- A computation that comes first has succeeded where there is an answer. -/
theorem of_bind_eq_ok {x : Except Error α} {next : α → Operation β} {b : β}
    (h : ((Operation.of x >>= next).exec w).1 = .ok b) :
    ∃ a, x = .ok a ∧ ((next a).exec w).1 = .ok b := by
  rw [exec_bind, exec_of] at h
  cases x with
  | error e => simp at h
  | ok a => exact ⟨a, rfl, h⟩

/-- Where all has failed, a computation that comes first has, or else what follows it. -/
theorem of_bind_eq_error {x : Except Error α} {next : α → Operation β} {e : Error}
    (h : ((Operation.of x >>= next).exec w).1 = .error e) :
    x = .error e ∨ ∃ a, x = .ok a ∧ ((next a).exec w).1 = .error e := by
  rw [exec_bind, exec_of] at h
  cases x with
  | error e' => exact .inl (by simpa using h)
  | ok a => exact .inr ⟨a, rfl, h⟩

/-- What comes first has succeeded where all has. -/
theorem exec_of_isOk_bind {op : Operation α} {next : α → Operation β}
    (h : ((op >>= next).exec w).1.isOk = true) :
    ∃ a w', op.exec w = (.ok a, w') ∧ ((next a).exec w').1.isOk = true := by
  rw [exec_bind] at h
  rcases hexec : op.exec w with ⟨e | a, w'⟩ <;> rw [hexec] at h
  · exact nomatch h
  · exact ⟨a, w', rfl, h⟩

end Cabinet.Operation

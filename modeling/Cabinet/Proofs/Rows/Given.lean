import Cabinet.Proofs.Rows

/-!
Which values come of data that are given for a row: for each name the last value that is given under
any spelling of it, as the column of that name stores it.
-/

namespace Cabinet

variable {α : Type}

theorem Fields.get?_foldl_put (assignments : List (String × α)) (before : Fields α) (key : String) :
    (assignments.foldl (fun fields (key, value) => Fields.put key value fields) before).get? key =
      ((assignments.reverse.find? fun e => e.1 == key).map (·.2)).or (before.get? key) := by
  induction assignments generalizing before with
  | nil => simp
  | cons entry rest ih =>
    obtain ⟨k, v⟩ := entry
    rw [List.foldl_cons, ih, get?_put, List.reverse_cons, List.find?_append]
    by_cases hk : key = k
    · subst hk
      cases rest.reverse.find? fun e => e.1 == key <;> simp
    · have hne : (k == key) = false := beq_false_of_ne (Ne.symm hk)
      cases rest.reverse.find? fun e => e.1 == key <;> simp [hk, hne]

/-- The last of the values that are assigned to a key counts. -/
theorem Fields.get?_ofAssignments (assignments : List (String × α)) (key : String) :
    (ofAssignments assignments).get? key =
      (assignments.reverse.find? fun e => e.1 == key).map (·.2) := by
  rw [ofAssignments, get?_foldl_put assignments []]
  simp

namespace Rows

open Operation

variable {t : Table} {table name : String} {data : List (String × Value)}
  {values accepted base result : Fields Value} {w w' : World}

/-- The last value that data give for a name, whichever way it is spelled. -/
def given? (data : List (String × Value)) (name : String) : Option Value :=
  ((Fields.ofAssignments data).reverse.find? fun (key, _) => Name.normalize key == name).map (·.2)

theorem nodup_byName (data : List (String × Value)) : (byName data).keys.Nodup :=
  Fields.nodup_keys_ofAssignments _

theorem get?_byName (h : name ∉ skippedNames) : (byName data).get? name = given? data name := by
  rw [byName, Fields.get?_ofAssignments, ← List.filter_reverse, List.find?_filter, ← List.map_reverse,
    List.find?_map, Option.map_map, given?]
  refine congrArg (Option.map _) (congrArg (List.find? · _) (funext fun e => ?_))
  by_cases heq : Name.normalize e.1 = name
  · simp [heq, h]
  · simp [heq]

/-- No spelling of a name that no one may assign to gets a value. -/
theorem get?_byName_skipped (h : name ∈ skippedNames) : (byName data).get? name = none := by
  rw [Fields.get?_eq_none_iff]
  intro hkey
  obtain ⟨e, he, rfl⟩ := List.mem_map.mp hkey
  have hmem := (List.mem_filter.mp (Fields.mem_of_mem_ofAssignments he)).2
  simp at hmem
  exact hmem h

/-- Values that have come of given ones: for a column of the table, what is stored for the value that is
given, and what was there before for all other names. -/
structure Accepts (t : Table) (values base result : Fields Value) : Prop where
  nodup : base.keys.Nodup → result.keys.Nodup
  given {name : String} {c v} : t.columns.get? name = some c → values.get? name = some v →
    ∃ u, stored c v = .ok u ∧ result.get? name = some u
  rest {name : String} : t.columns.get? name = none ∨ values.get? name = none →
    result.get? name = base.get? name

theorem Accepts.nil (t : Table) (base : Fields Value) : Accepts t [] base base where
  nodup hd := hd
  given _ h := nomatch h
  rest _ := rfl

/-- One value is accepted before others. -/
theorem Accepts.cons {rest : Fields Value} {v u : Value} {c : Column}
    (h : Accepts t rest (base.put name u) result) (hnew : name ∉ rest.keys)
    (hc : t.columns.get? name = some c) (hu : stored c v = .ok u) :
    Accepts t ((name, v) :: rest) base result where
  nodup hd := h.nodup (Fields.nodup_keys_put hd _ _)
  given {key d v'} hd hv' := by
    rw [Fields.get?_cons] at hv'
    split at hv'
    · next hkey =>
      subst hkey
      obtain rfl := Option.some.inj hv'
      obtain rfl := Option.some.inj (hc.symm.trans hd)
      refine ⟨u, hu, ?_⟩
      rw [h.rest (.inr (Fields.get?_eq_none_iff.mpr hnew)), Fields.get?_put, if_pos rfl]
    · exact h.given hd hv'
  rest {key} hor := by
    have hkey : key ≠ name := by
      rintro rfl
      simp [hc, Fields.get?_cons] at hor
    rw [Fields.get?_cons, if_neg hkey] at hor
    rw [h.rest hor, Fields.get?_put, if_neg hkey]

/-- A value for a name that no column has leaves no trace. -/
theorem Accepts.skip {rest : Fields Value} {v : Value} (h : Accepts t rest base result)
    (hc : t.columns.get? name = none) : Accepts t ((name, v) :: rest) base result where
  nodup := h.nodup
  given {key d v'} hd hv' := by
    have hkey : key ≠ name := by
      rintro rfl
      simp [hc] at hd
    rw [Fields.get?_cons, if_neg hkey] at hv'
    exact h.given hd hv'
  rest {key} hor := by
    refine h.rest (hor.imp_right fun hnone => ?_)
    rw [Fields.get?_cons] at hnone
    split at hnone
    · simp at hnone
    · exact hnone

/-- Values for the columns that are there are accepted. -/
theorem acceptKnown_accepts (hd : values.keys.Nodup)
    (h : (acceptKnown table t values accepted).exec w = (.ok result, w')) :
    Accepts t values accepted result := by
  induction values generalizing accepted w with
  | nil =>
    obtain rfl := Except.ok.inj (congrArg Prod.fst h)
    exact .nil t accepted
  | cons entry rest ih =>
    obtain ⟨name, v⟩ := entry
    obtain ⟨hnew, hrest⟩ := List.nodup_cons.mp hd
    unfold acceptKnown at h
    split at h
    · next hc =>
      rw [exec_bind, exec_log] at h
      exact (ih hrest h).skip hc
    · next c hc =>
      rw [exec_bind, exec_of] at h
      cases hu : stored c v with
      | error e => simp [hu] at h
      | ok u =>
        rw [hu] at h
        exact (ih hrest h).cons hnew hc hu

/-- All values are accepted, each for a column. -/
theorem acceptAll_accepts (hd : values.keys.Nodup) (h : acceptAll table t values = .ok result) :
    result.keys = values.keys ∧ Accepts t values [] result := by
  induction values generalizing result with
  | nil =>
    obtain rfl := Except.ok.inj h
    exact ⟨rfl, .nil t []⟩
  | cons entry rest ih =>
    obtain ⟨name, v⟩ := entry
    obtain ⟨hnew, hrest⟩ := List.nodup_cons.mp hd
    unfold acceptAll at h
    split at h
    · simp at h
    next c hc =>
    obtain ⟨u, hu, h⟩ := bind_eq_ok_iff.mp h
    obtain ⟨others, hothers, h⟩ := bind_eq_ok_iff.mp h
    obtain rfl := Except.ok.inj h
    obtain ⟨hkeys, haccepts⟩ := ih hrest hothers
    have hsame : Fields.keys ((name, u) :: others) = Fields.keys ((name, v) :: rest) :=
      congrArg (name :: ·) hkeys
    refine ⟨hsame, fun _ => hsame ▸ hd, fun {key d v'} hkd hv' => ?_, fun {key} hor => ?_⟩
    · rw [Fields.get?_cons] at hv' ⊢
      split at hv'
      · next hkey =>
        subst hkey
        obtain rfl := Option.some.inj hv'
        obtain rfl := Option.some.inj (hc.symm.trans hkd)
        exact ⟨u, hu, if_pos rfl⟩
      · next hkey =>
        rw [if_neg hkey]
        exact haccepts.given hkd hv'
    · have hkey : key ≠ name := by
        rintro rfl
        simp [hc, Fields.get?_cons] at hor
      rw [Fields.get?_cons, if_neg hkey] at hor
      rw [Fields.get?_cons, if_neg hkey, haccepts.rest hor]

end Rows

end Cabinet

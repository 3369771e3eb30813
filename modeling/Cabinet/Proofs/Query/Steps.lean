import Cabinet.Proofs.Except
import Cabinet.Proofs.Query.Derivation

/-!
What one token can do to a reading: where a clause begins it opens one or is one, and after a clause it
joins it to the next or closes the group that it ends.
-/

namespace Cabinet.Query.Reading

variable {pending : List Pending} {q : Query} {r r' : Reading} {t : Token}

/-- What comes of a token where a clause begins. -/
inductive Begun (pending : List Pending) (t : Token) : Reading → Prop
  | negation (h : t.kind.negates = true) : Begun pending t ⟨.negation :: pending, none⟩
  | group (h : t.kind = .opening) : Begun pending t ⟨.group :: pending, none⟩
  | field (h : t.kind = .field) : Begun pending t ⟨.field (String.ofList t.value) :: pending, none⟩
  | named {name : String} {rest : List Pending} {regex : Bool} (hp : pending = .field name :: rest)
    (h : t.kind.regex? = some regex) :
    Begun pending t ⟨rest, some (.field name (String.ofList t.value) regex)⟩
  | value {regex : Bool} (h : t.kind.regex? = some regex) :
    Begun pending t ⟨pending, some (.term (String.ofList t.value) regex)⟩

/-- What comes of a token after a clause that no more is to be completed before it. -/
inductive Continued (pending : List Pending) (q : Query) (t : Token) : Reading → Prop
  | joined {c : Connective} (h : Joins c [t]) : Continued pending q t ⟨.joined c q :: pending, none⟩
  | closed {rest : List Pending} (hp : pending = .group :: rest) (h : t.kind = .closing) :
    Continued pending q t ⟨rest, some (.group q)⟩
  | neighbour {r : Reading} (h : Begun (.joined .and q :: pending) t r) : Continued pending q t r

/-- What comes of a reading when one more token is taken. -/
inductive Steps (t : Token) : Reading → Reading → Prop
  | begun {pending : List Pending} {r : Reading} (h : Begun pending t r) : Steps t ⟨pending, none⟩ r
  | continued {pending : List Pending} {q : Query} {r : Reading}
    (h : Continued (settle t.kind.strength pending q).1 (settle t.kind.strength pending q).2 t r) :
    Steps t ⟨pending, some q⟩ r

theorem takeValue_begun {regex : Bool} (h : t.kind.regex? = some regex) :
    Begun pending t (takeValue pending t.value regex) := by
  unfold takeValue
  split
  · exact .named rfl h
  · exact .value h

theorem beginClause_begun (h : beginClause pending t = .ok r) : Begun pending t r := by
  unfold beginClause at h
  split at h
  case h_8 => cases h
  all_goals
    next hkind =>
    obtain rfl := Except.ok.inj h
    first
    | exact .negation (by rw [hkind]; rfl)
    | exact .group hkind
    | exact .field hkind
    | exact takeValue_begun (by rw [hkind]; rfl)

theorem afterClause_continued (h : afterClause pending q t = .ok r) :
    Continued (settle t.kind.strength pending q).1 (settle t.kind.strength pending q).2 t r := by
  simp only [afterClause] at h
  split at h
  · next hkind =>
    obtain rfl := Except.ok.inj h
    exact .joined (.and (.and hkind))
  · next hkind =>
    obtain rfl := Except.ok.inj h
    exact .joined (.or hkind)
  · next hkind =>
    split at h
    · next rest hsettle =>
      obtain rfl := Except.ok.inj h
      exact .closed hsettle hkind
    · cases h
  · exact .neighbour (beginClause_begun h)

theorem steps_of_step (h : r.step t = .ok r') : Steps t r r' := by
  obtain ⟨pending, clause?⟩ := r
  cases clause? with
  | none => exact .begun (beginClause_begun h)
  | some q => exact .continued (afterClause_continued h)

/-- At the end there is one clause, for which nothing waits. -/
theorem finish_eq_ok (h : r.finish = .ok q) :
    ∃ pending clause, r = ⟨pending, some clause⟩ ∧ settle 0 pending clause = ([], q) := by
  obtain ⟨pending, clause?⟩ := r
  cases clause? with
  | none => cases h
  | some clause =>
    simp only [finish] at h
    split at h
    · next whole hsettle => exact ⟨pending, clause, rfl, Except.ok.inj h ▸ hsettle⟩
    · cases h

end Cabinet.Query.Reading

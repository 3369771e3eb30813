import Cabinet.Proofs.Search.Placeholders
import Cabinet.Storage.Database

/-!
The regular expressions in a search, and how they make it fail.
-/

namespace Cabinet

open Storage

/-- The regular expressions that a tree asks for. -/
def Query.regexes : Query → List String
  | .term text regex => if regex then [text] else []
  | .field _ text regex => if regex then [text] else []
  | .negation operand => operand.regexes
  | .group body => body.regexes
  | .joined _ left right => left.regexes ++ right.regexes
  | .unknown _ => []

theorem Condition.clauses_and (a b : Condition) : (a.and b).clauses = a.clauses ++ b.clauses := by
  fun_cases Condition.and a b <;> simp [clauses]

namespace Storage

variable {row : Lookup}

/-- A clause that fails in a function asks for a regular expression that cannot be looked for. -/
theorem holdsClause_functionFailed {c : Clause} (h : holdsClause row c = .error .functionFailed) :
    ∃ column pattern v e, c = .regexp column pattern ∧ findsRegex (.text pattern) v = .error e := by
  cases c with
  | regexp column pattern =>
    rw [holdsClause] at h
    split at h
    · cases h
    · next e he => exact ⟨column, pattern, _, e, rfl, he⟩
  | like column pattern =>
    rw [holdsClause] at h
    split at h <;> cases h
  | compare => cases h
  | between => cases h

theorem holdsAll_functionFailed {t : Truth} {rest : List Clause}
    (h : holdsAll row t rest = .error .functionFailed) :
    ∃ c ∈ rest, holdsClause row c = .error .functionFailed := by
  induction rest generalizing t with
  | nil => cases h
  | cons c rest ih =>
    rw [holdsAll] at h
    split at h
    · cases h
    rcases bind_eq_error h with h | ⟨u, -, h⟩
    · exact ⟨c, List.mem_cons_self, h⟩
    · obtain ⟨d, hd, hfailed⟩ := ih h
      exact ⟨d, List.mem_cons_of_mem c hd, hfailed⟩

/-- Of two conditions of which the first may decide, one fails where both together do. -/
theorem failed_of_both {x y : Except Fault Truth} {stop : Truth} {join : Truth → Truth → Truth}
    {fault : Fault} (h : (do
      let l ← x
      if l = stop then return l
      let r ← y
      return join l r) = (.error fault : Except Fault Truth)) : x = .error fault ∨ y = .error fault := by
  rcases bind_eq_error h with h | ⟨l, -, h⟩
  · exact .inl h
  split at h
  · cases h
  rcases bind_eq_error h with h | ⟨r, -, h⟩
  · exact .inr h
  · cases h

/-- A condition fails in a function only if one of its clauses does. -/
theorem holds_functionFailed {c : Condition} (h : holds row c = .error .functionFailed) :
    ∃ d ∈ c.clauses, holdsClause row d = .error .functionFailed := by
  have hboth : ∀ {left right : Condition}, (∃ d ∈ left.clauses, holdsClause row d = .error .functionFailed) ∨
      (∃ d ∈ right.clauses, holdsClause row d = .error .functionFailed) →
      ∃ d ∈ left.clauses ++ right.clauses, holdsClause row d = .error .functionFailed := by
    rintro left right (⟨d, hd, hfailed⟩ | ⟨d, hd, hfailed⟩)
    · exact ⟨d, List.mem_append_left _ hd, hfailed⟩
    · exact ⟨d, List.mem_append_right _ hd, hfailed⟩
  induction c with
  | always => cases h
  | clause c => exact ⟨c, List.mem_singleton_self c, h⟩
  | negation operand ih =>
    rcases bind_eq_error h with h | ⟨t, -, h⟩
    · exact ih h
    · cases h
  | joined connective left right ihl ihr =>
    cases connective with
    | and => exact hboth ((failed_of_both h).imp ihl ihr)
    | or => exact hboth ((failed_of_both h).imp ihl ihr)
    | other word => cases h
  | chain first rest =>
    rcases bind_eq_error h with h | ⟨t, -, h⟩
    · exact ⟨first, List.mem_cons_self, h⟩
    · obtain ⟨c, hc, hfailed⟩ := holdsAll_functionFailed h
      exact ⟨c, List.mem_cons_of_mem first hc, hfailed⟩
  | both left right ihl ihr => exact hboth ((failed_of_both h).imp ihl ihr)

end Storage

namespace Search

variable {columns : List Column} {c : Condition} {column pattern : String}

theorem mem_regexes_of_term {q : Query} {t : Term} (ht : t ∈ q.terms columns) (hr : t.regex = true) :
    t.text ∈ q.regexes := by
  induction q with
  | term text regex =>
    obtain rfl := List.mem_singleton.mp ht
    have hr : regex = true := hr
    rw [Query.regexes, if_pos hr]
    exact List.mem_singleton_self text
  | field name text regex =>
    obtain rfl := List.mem_singleton.mp ht
    have hofField : (Term.ofField columns name text regex).text = text ∧
        (Term.ofField columns name text regex).regex = regex := by
      unfold Term.ofField
      split <;> exact ⟨rfl, rfl⟩
    rw [hofField.2] at hr
    rw [hofField.1, Query.regexes, if_pos hr]
    exact List.mem_singleton_self text
  | negation operand ih => exact ih ht
  | group body ih => exact ih ht
  | joined connective left right ihl ihr =>
    exact List.mem_append.mpr ((List.mem_append.mp ht).imp ihl ihr)
  | unknown text => cases ht

/-- The regular expressions of a condition are those of its tree. -/
theorem mem_regexes_of_lower {q : Query} (h : lower columns q = .ok c)
    (hc : .regexp column pattern ∈ c.clauses) : pattern ∈ q.regexes := by
  have hterms : Except.ok (.regexp column pattern) ∈ (q.terms columns).map Term.clause :=
    clauses_lower h ▸ List.mem_map_of_mem hc
  obtain ⟨t, ht, hclause⟩ := List.mem_map.mp hterms
  rcases termClause_cases hclause with ⟨hregex, heq⟩ | ⟨-, hlowered⟩
  · cases heq
    exact mem_regexes_of_term ht hregex
  · cases hlowered

theorem fallback_clauses (text : String) {d : Clause} (hd : d ∈ (fallback text).clauses) :
    ∃ s, d = partClause titleColumn s := by
  unfold fallback at hd
  split at hd
  · cases hd
  · next first rest hmap =>
    obtain ⟨s, -, hs⟩ := List.mem_map.mp (hmap ▸ show d ∈ first :: rest from hd)
    exact ⟨s, hs.symm⟩

/-- The regular expressions of a compiled search are those that its text asks for. -/
theorem mem_regexes_of_compile {query : Value} (h : compile columns query = .ok c)
    (hc : .regexp column pattern ∈ c.clauses) :
    ∃ text q, query = .text text ∧ Query.parse text.toList = .ok q ∧ pattern ∈ q.regexes := by
  unfold compile at h
  split at h
  · obtain rfl := Except.ok.inj h
    cases hc
  · next text =>
    unfold compileText at h
    split at h
    · obtain rfl := Except.ok.inj h
      cases hc
    split at h
    · next q hread => exact ⟨text, q, rfl, (read_eq_ok_iff.mp hread).1, mem_regexes_of_lower h hc⟩
    · obtain rfl := Except.ok.inj h
      obtain ⟨s, hs⟩ := fallback_clauses text hc
      cases hs
  · cases h

end Search

/-- A computation that does not fail because a function of a statement does. -/
def SparesFunctions {α : Type} (x : Except Error α) : Prop :=
  ∀ action, x ≠ .error (.storage action .functionFailed)

namespace SparesFunctions

variable {α β : Type} {x : Except Error α}

theorem ok (a : α) : SparesFunctions (.ok a : Except Error α) :=
  fun _ h => nomatch h

theorem error {e : Error} (h : e.kind ≠ .storage) : SparesFunctions (.error e : Except Error α) :=
  fun _ heq => h (by cases heq; rfl)

theorem bind {next : α → Except Error β} (hx : SparesFunctions x)
    (hnext : ∀ a, SparesFunctions (next a)) : SparesFunctions (x >>= next) := by
  intro action h
  rcases bind_eq_error h with h | ⟨a, -, h⟩
  · exact hx action h
  · exact hnext a action h

end SparesFunctions

namespace Search

theorem sparesFunctions_resolve (columns : List Column) (reference : List Char) :
    SparesFunctions (resolve columns reference) := by
  have hresolve := resolve_answers columns reference
  by_cases hover : IsOverlong columns reference
  · rw [hresolve.1 hover]
    exact .error nofun
  · obtain ⟨c?, hc?⟩ := hresolve.2 hover
    rw [hc?]
    exact .ok _

theorem sparesFunctions_compileOrder (columns : List Column) (sort : Value) (descending random : Bool) :
    SparesFunctions (compileOrder columns sort descending random) := by
  unfold compileOrder
  split
  · exact .ok _
  split
  · exact .ok _
  split
  · refine .bind (sparesFunctions_resolve _ _) fun c? => ?_
    cases c? with
    | none => exact .error nofun
    | some c => exact .ok _
  · exact .error nofun

theorem sparesFunctions_termClause (column : String) (type : ColumnType) (text : String) (regex : Bool) :
    SparesFunctions (termClause column type text regex) := by
  unfold termClause
  dsimp only
  split
  · exact .ok _
  split
  · exact .error nofun
  · split <;> exact .ok _
  · exact .ok _
  · split <;> exact .ok _

theorem sparesFunctions_lower (columns : List Column) (q : Query) :
    SparesFunctions (lower columns q) := by
  induction q with
  | term text regex => exact .bind (sparesFunctions_termClause _ _ _ _) fun _ => .ok _
  | field name text regex =>
    refine .bind (.bind (sparesFunctions_resolve _ _) fun c? => ?_) fun _ => .ok _
    cases c? with
    | none => exact sparesFunctions_termClause _ _ _ _
    | some c => exact sparesFunctions_termClause _ _ _ _
  | negation operand ih => exact .bind ih fun _ => .ok _
  | group body ih => exact ih
  | joined connective left right ihl ihr => exact .bind ihl fun _ => .bind ihr fun _ => .ok _
  | unknown text => exact .error nofun

theorem sparesFunctions_compile (columns : List Column) (query : Value) :
    SparesFunctions (compile columns query) := by
  unfold compile
  split
  · exact .ok _
  · unfold compileText
    split
    · exact .ok _
    split
    · exact sparesFunctions_lower _ _
    · exact .ok _
  · exact .error nofun

end Search

namespace Storage

theorem Cell.ofValuesFrom_ne_functionFailed (position : Nat) (vs : List Value) :
    ofValuesFrom position vs ≠ .error .functionFailed := by
  induction vs generalizing position with
  | nil => exact nofun
  | cons v rest ih =>
    intro h
    rcases bind_eq_error h with h | ⟨cell, -, h⟩
    · unfold ofValue at h
      split at h <;> try cases h
      split at h <;> cases h
    rcases bind_eq_error h with h | ⟨cells, -, h⟩
    · exact ih _ h
    · cases h

namespace Database

variable {db : Database} {table : String} {c : Condition}

theorem admitTexts_ne_functionFailed (texts : List String) :
    admitTexts texts ≠ .error .functionFailed := by
  unfold admitTexts
  split <;> exact nofun

/-- Before it looks at rows, a statement calls no function. -/
theorem prepare_ne_functionFailed (values : List Value) :
    db.prepare table c values ≠ .error .functionFailed := by
  intro h
  rcases bind_eq_error h with h | ⟨-, -, h⟩
  · exact admitTexts_ne_functionFailed _ h
  rcases bind_eq_error h with h | ⟨-, -, h⟩
  · unfold admitCondition at h
    split at h
    · cases h
    · split at h <;> cases h
  rcases bind_eq_error h with h | ⟨s, -, h⟩
  · unfold find at h
    split at h <;> cases h
  rcases bind_eq_error h with h | ⟨cells, -, h⟩
  · exact Cell.ofValuesFrom_ne_functionFailed 1 _ h
  · cases h

theorem select_functionFailed {s : Sheet} (h : s.select c = .error .functionFailed) :
    ∃ row ∈ s.rows, holds (s.lookup row) c = .error .functionFailed := by
  obtain ⟨row, hrow, h⟩ := filterM_eq_error h
  rcases bind_eq_error h with h | ⟨t, -, h⟩
  · exact ⟨row, hrow, h⟩
  · cases h

theorem count_functionFailed (h : db.count table c = .error .functionFailed) :
    ∃ row : Lookup, holds row c = .error .functionFailed := by
  rcases bind_eq_error h with h | ⟨s, -, h⟩
  · exact absurd h (prepare_ne_functionFailed _)
  rcases bind_eq_error h with h | ⟨rows, -, h⟩
  · obtain ⟨row, -, h⟩ := select_functionFailed h
    exact ⟨_, h⟩
  · cases h

theorem query_functionFailed {order : Search.RowOrder} {limit? : Option Int} {offset : Int}
    (h : db.query table c order limit? offset = .error .functionFailed) :
    ∃ row : Lookup, holds row c = .error .functionFailed := by
  rcases bind_eq_error h with h | ⟨-, -, h⟩
  · exact absurd h (admitTexts_ne_functionFailed _)
  rcases bind_eq_error h with h | ⟨s, -, h⟩
  · exact absurd h (prepare_ne_functionFailed _)
  rcases bind_eq_error h with h | ⟨rows, -, h⟩
  · obtain ⟨row, -, h⟩ := select_functionFailed h
    exact ⟨_, h⟩
  · cases h

end Database

end Storage

end Cabinet

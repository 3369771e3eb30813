import Cabinet.Proofs.Except
import Cabinet.Proofs.Search.Literal
import Cabinet.Storage.Sheet
import Mathlib.Tactic.SplitIfs

/-!
What a search tree says of a row: yes, no, or unknown. Each term is asked of the one column that it is
looked for in, and the connectives combine the answers.
-/

namespace Cabinet

open Storage

/-- What a clause says of what a row holds in its column. -/
def Clause.truth (held : Affinity × Cell) : Clause → Truth
  | .like _ pattern => held.2.searched.map fun s => fits (beforeNull pattern) (beforeNull s)
  | .regexp _ pattern => some ((findsRegex (.text pattern) held.2.toValue).toOption.getD false)
  | .compare _ comparison value => compareCells comparison held.1 held.2 (given value)
  | .between _ low high =>
    (compareCells .atLeast held.1 held.2 (.integer low)).and
      (compareCells .atMost held.1 held.2 (.integer high))

/-- What a condition says of a row, with no part left out. -/
def Condition.truth (row : Lookup) : Condition → Truth
  | .always => some true
  | .clause c => c.truth (row c.column)
  | .negation operand => (operand.truth row).negate
  | .joined .and left right => (left.truth row).and (right.truth row)
  | .joined .or left right => (left.truth row).or (right.truth row)
  | .joined (.other _) _ _ => none
  | .chain first rest =>
    rest.foldl (fun t c => t.and (c.truth (row c.column))) (first.truth (row first.column))
  | .both left right => (left.truth row).and (right.truth row)

/-- A term with the column that it is looked for in. -/
structure Search.Term where
  column : String
  type : ColumnType
  text : String
  regex : Bool

namespace Search.Term

/-- A term about the title. -/
def bare (text : String) (regex : Bool) : Term :=
  ⟨titleColumn, .string, text, regex⟩

/-- A term about the column that a name means, or about the title if it means none. -/
def ofField (columns : List Column) (name text : String) (regex : Bool) : Term :=
  match resolve columns name.toList with
  | .ok (some c) => ⟨c.name, c.type, text, regex⟩
  | _ => bare text regex

def clause (t : Term) : Except Error Clause :=
  termClause t.column t.type t.text t.regex

/-- What a term says of what a row holds in its column. -/
def truth (t : Term) (held : Affinity × Cell) : Truth :=
  match t.clause with
  | .ok c => c.truth held
  | .error _ => none

end Search.Term

namespace Query

/-- What a tree says of a row. -/
def truth (columns : List Column) (row : Lookup) : Query → Truth
  | term text regex => (Search.Term.bare text regex).truth (row Search.titleColumn)
  | field name text regex =>
    let t := Search.Term.ofField columns name text regex
    t.truth (row t.column)
  | negation operand => (operand.truth columns row).negate
  | group body => body.truth columns row
  | joined .and left right => (left.truth columns row).and (right.truth columns row)
  | joined .or left right => (left.truth columns row).or (right.truth columns row)
  | joined (.other _) _ _ => none
  | unknown _ => none

/-- The terms of a tree, from left to right. -/
def terms (columns : List Column) : Query → List Search.Term
  | term text regex => [.bare text regex]
  | field name text regex => [.ofField columns name text regex]
  | negation operand => operand.terms columns
  | group body => body.terms columns
  | joined _ left right => left.terms columns ++ right.terms columns
  | unknown _ => []

end Query

namespace Storage

variable {row : Lookup}

@[simp] theorem Truth.and_false (t : Truth) : Truth.and (some false) t = some false := by
  cases t <;> rfl

@[simp] theorem Truth.or_true (t : Truth) : Truth.or (some true) t = some true := by
  cases t <;> rfl

theorem Truth.true_and (t : Truth) : Truth.and (some true) t = t := by
  rcases t with _ | _ | _ <;> rfl

theorem Truth.and_true (t : Truth) : Truth.and t (some true) = t := by
  rcases t with _ | _ | _ <;> rfl

theorem Truth.and_some (a b : Bool) : Truth.and (some a) (some b) = some (a && b) := by
  cases a <;> cases b <;> rfl

theorem Truth.and_eq_true_iff {t u : Truth} : t.and u = some true ↔ t = some true ∧ u = some true := by
  rcases t with _ | _ | _ <;> rcases u with _ | _ | _ <;> simp [Truth.and]

/-- Parts that are unknown together are so together with each other. -/
theorem Truth.and_eq_none_iff {t u : Truth} {p : Prop} (ht : t = none ↔ p) (hu : u = none ↔ p) :
    t.and u = none ↔ p := by
  rcases t with _ | _ | _ <;> rcases u with _ | _ | _ <;> simp_all [Truth.and]

theorem holdsClause_eq_ok {c : Clause} {t : Truth} (h : holdsClause row c = .ok t) :
    t = c.truth (row c.column) := by
  cases c with
  | like column pattern =>
    simp only [holdsClause] at h
    split at h
    · simp at h
    · exact (Except.ok.inj h).symm
  | regexp column pattern =>
    simp only [holdsClause] at h
    rw [Clause.truth, Clause.column]
    split at h
    · next found hfound =>
      rw [hfound]
      exact (Except.ok.inj h).symm
    · simp at h
  | compare column comparison v => exact (Except.ok.inj h).symm
  | between column low high => exact (Except.ok.inj h).symm

/-- A conjunction that has failed stays so. -/
theorem foldl_and_false (row : Lookup) (rest : List Clause) :
    rest.foldl (fun t c => Truth.and t (c.truth (row c.column))) (some false) = some false := by
  induction rest with
  | nil => rfl
  | cons c rest ih => rw [List.foldl_cons, Truth.and_false, ih]

theorem holdsAll_eq_ok {rest : List Clause} {t u : Truth} (h : holdsAll row t rest = .ok u) :
    u = rest.foldl (fun t c => t.and (c.truth (row c.column))) t := by
  induction rest generalizing t with
  | nil => exact (Except.ok.inj h).symm
  | cons c rest ih =>
    rw [holdsAll] at h
    split at h
    · next hfalse =>
      obtain rfl := Except.ok.inj h
      rw [hfalse, foldl_and_false]
    · obtain ⟨v, hv, h⟩ := bind_eq_ok_iff.mp h
      rw [ih h, List.foldl_cons, holdsClause_eq_ok hv]

/-- Where the first part of a conjunction decides, the second would not have changed the answer. -/
theorem and_eq_ok {x y : Except Fault Truth} {l r t : Truth}
    (h : (do
      let l ← x
      if l = some false then return l
      let r ← y
      return l.and r) = .ok t)
    (hl : ∀ u, x = .ok u → u = l) (hr : ∀ u, y = .ok u → u = r) : t = l.and r := by
  obtain ⟨u, hu, h⟩ := bind_eq_ok_iff.mp h
  obtain rfl := hl u hu
  split at h
  · next hfalse =>
    obtain rfl := Except.ok.inj h
    rw [hfalse, Truth.and_false]
  · obtain ⟨v, hv, h⟩ := bind_eq_ok_iff.mp h
    obtain rfl := hr v hv
    exact (Except.ok.inj h).symm

theorem or_eq_ok {x y : Except Fault Truth} {l r t : Truth}
    (h : (do
      let l ← x
      if l = some true then return l
      let r ← y
      return l.or r) = .ok t)
    (hl : ∀ u, x = .ok u → u = l) (hr : ∀ u, y = .ok u → u = r) : t = l.or r := by
  obtain ⟨u, hu, h⟩ := bind_eq_ok_iff.mp h
  obtain rfl := hl u hu
  split at h
  · next htrue =>
    obtain rfl := Except.ok.inj h
    rw [htrue, Truth.or_true]
  · obtain ⟨v, hv, h⟩ := bind_eq_ok_iff.mp h
    obtain rfl := hr v hv
    exact (Except.ok.inj h).symm

/-- Where a condition is decided of a row, all its parts together say the same. -/
theorem holds_eq_ok {c : Condition} {t : Truth} (h : holds row c = .ok t) : t = c.truth row := by
  induction c generalizing t with
  | always => exact (Except.ok.inj h).symm
  | clause c => exact holdsClause_eq_ok h
  | negation operand ih =>
    obtain ⟨u, hu, h⟩ := bind_eq_ok_iff.mp h
    obtain rfl := Except.ok.inj h
    rw [ih hu, Condition.truth]
  | joined connective left right ihl ihr =>
    cases connective with
    | and => exact and_eq_ok h (fun _ => ihl) fun _ => ihr
    | or => exact or_eq_ok h (fun _ => ihl) fun _ => ihr
    | other word => exact (Except.ok.inj h).symm
  | chain first rest =>
    obtain ⟨u, hu, h⟩ := bind_eq_ok_iff.mp h
    rw [holdsAll_eq_ok h, holdsClause_eq_ok hu, Condition.truth]
  | both left right ihl ihr => exact and_eq_ok h (fun _ => ihl) fun _ => ihr

/-- The rows that are selected are those of which a condition holds. -/
theorem Sheet.select_eq_ok {s : Sheet} {c : Condition} {rows : List Row} (h : s.select c = .ok rows) :
    rows = s.rows.filter fun row => c.truth (s.lookup row) = some true := by
  refine filterM_eq_ok (fun row hrow b hb => ?_) h
  obtain ⟨t, ht, hb⟩ := bind_eq_ok_iff.mp hb
  rw [← holds_eq_ok ht]
  exact (Except.ok.inj hb).symm

end Storage

/-- A condition that always holds leaves no trace. -/
theorem Condition.truth_and (a b : Condition) (row : Lookup) :
    (a.and b).truth row = (a.truth row).and (b.truth row) := by
  fun_cases Condition.and a b
  · exact (Truth.true_and _).symm
  · exact (Truth.and_true _).symm
  · rfl

namespace Storage

namespace Cell

theorem unsigned?_ne_null (negative : Bool) (s : List Char) : unsigned? negative s ≠ some null := by
  fun_cases unsigned? negative s
  · simp
  · intro h
    dsimp +zetaDelta only at h
    split at h
    · split_ifs at h
      all_goals simp at h
    · split_ifs at h
      all_goals simp at h

theorem shrink_ne_null (x : Binary64) : shrink x ≠ null := by
  fun_cases shrink x <;> simp

theorem asText_ne_null {c : Cell} (h : c ≠ null) : c.asText ≠ null := by
  cases c <;> simp_all [asText]

theorem asNumber_ne_null {c : Cell} (h : c ≠ null) : c.asNumber ≠ null := by
  cases c with
  | text s =>
    simp only [asNumber]
    split
    · exact shrink_ne_null _
    · next c _ hnumber =>
      rintro rfl
      exact unsigned?_ne_null _ _ hnumber
    · simp
  | _ => exact h

/-- A value that is compared with a column stays something. -/
theorem convertForComparison_ne_null {c : Cell} (h : c ≠ null) (a : Affinity) :
    c.convertForComparison a ≠ null := by
  cases a with
  | text => exact asText_ne_null h
  | none => exact h
  | _ => exact asNumber_ne_null h

theorem searched_eq_none_iff {c : Cell} : c.searched = none ↔ c = null := by
  cases c <;> simp [searched, asText]

end Cell

/-- A comparison with something is unknown only of nothing. -/
theorem compareCells_eq_none_iff {comparison : Comparison} {a : Affinity} {held c : Cell} (h : c ≠ .null) :
    compareCells comparison a held c = none ↔ held = .null := by
  have hc := Cell.convertForComparison_ne_null h a
  unfold compareCells
  split
  · simp
  · next heq => exact absurd heq hc
  · next hheld _ => simpa using hheld

end Storage

namespace Search

variable {columns : List Column} {q : Query} {c : Condition} {t : Term} {held : Affinity × Cell}

theorem Lowered.truth_eq_none_iff {column : String} {c : Clause} (h : Lowered column c) :
    c.truth held = none ↔ held.2 = .null := by
  cases h with
  | like pattern => rw [Clause.truth, Option.map_eq_none_iff, Cell.searched_eq_none_iff]
  | compare comparison hv => exact compareCells_eq_none_iff hv
  | between low high =>
    have hlow : compareCells .atLeast held.1 held.2 (.integer low) = none ↔ held.2 = .null :=
      compareCells_eq_none_iff (by simp)
    have hhigh : compareCells .atMost held.1 held.2 (.integer high) = none ↔ held.2 = .null :=
      compareCells_eq_none_iff (by simp)
    exact Truth.and_eq_none_iff hlow hhigh

/-- A term is unknown of nothing, unless it is a regular expression; and of nothing else. -/
theorem Term.truth_eq_none_iff {c : Clause} (h : t.clause = .ok c) :
    t.truth held = none ↔ t.regex = false ∧ held.2 = .null := by
  rw [truth, h]
  obtain ⟨hregex, rfl⟩ | ⟨hregex, hc⟩ := termClause_cases h
  · simp [Clause.truth, hregex]
  · simp [hc.truth_eq_none_iff, hregex]

/-- No regular expression is found in nothing. -/
theorem Term.truth_regex_null {c : Clause} (h : t.clause = .ok c) (hr : t.regex = true)
    (hn : held.2 = .null) : t.truth held = some false := by
  rw [truth, h]
  obtain ⟨-, rfl⟩ | ⟨hregex, -⟩ := termClause_cases h
  · simp [Clause.truth, hn, Cell.toValue, findsRegex, Except.toOption]
  · simp [hr] at hregex

theorem Term.clause_column {c : Clause} (h : t.clause = .ok c) : c.column = t.column :=
  termClause_column h

theorem clause_ofField {name text : String} {regex : Bool} {c : Clause}
    (h : fieldClause columns name text regex = .ok c) :
    (Term.ofField columns name text regex).clause = .ok c := by
  obtain ⟨found?, hfound, h⟩ := bind_eq_ok_iff.mp h
  cases found? with
  | none =>
    simp only [Term.ofField, hfound]
    exact h
  | some column =>
    simp only [Term.ofField, hfound]
    exact h

/-- Each term of a tree has a clause once the tree has a condition. -/
theorem clause_of_lower (h : lower columns q = .ok c) (ht : t ∈ q.terms columns) :
    ∃ clause, t.clause = .ok clause := by
  induction q generalizing c with
  | term text regex =>
    obtain rfl := List.mem_singleton.mp ht
    obtain ⟨clause, hclause, -⟩ := bind_eq_ok_iff.mp h
    exact ⟨clause, hclause⟩
  | field name text regex =>
    obtain rfl := List.mem_singleton.mp ht
    obtain ⟨clause, hclause, -⟩ := bind_eq_ok_iff.mp h
    exact ⟨clause, clause_ofField hclause⟩
  | negation operand ih =>
    obtain ⟨d, hd, -⟩ := bind_eq_ok_iff.mp h
    exact ih hd ht
  | group body ih => exact ih h ht
  | joined connective left right ihl ihr =>
    obtain ⟨l, hl, h⟩ := bind_eq_ok_iff.mp h
    obtain ⟨r, hr, -⟩ := bind_eq_ok_iff.mp h
    rcases List.mem_append.mp ht with ht | ht
    · exact ihl hl ht
    · exact ihr hr ht
  | unknown text => simp [lower] at h

/-- The condition of a tree says of a row what the tree says. -/
theorem truth_lower (h : lower columns q = .ok c) (row : Lookup) :
    c.truth row = q.truth columns row := by
  -- By induction on the tree, with the condition that each part becomes.
  induction q generalizing c with
  | term text regex =>
    obtain ⟨clause, hclause, h⟩ := bind_eq_ok_iff.mp h
    obtain rfl := Except.ok.inj h
    have hclause : (Term.bare text regex).clause = .ok clause := hclause
    rw [Condition.truth, Query.truth, Term.truth, hclause, Term.clause_column hclause]
    rfl
  | field name text regex =>
    obtain ⟨clause, hclause, h⟩ := bind_eq_ok_iff.mp h
    obtain rfl := Except.ok.inj h
    have hclause := clause_ofField hclause
    rw [Condition.truth, Query.truth, Term.truth, hclause, Term.clause_column hclause]
  | negation operand ih =>
    obtain ⟨d, hd, h⟩ := bind_eq_ok_iff.mp h
    obtain rfl := Except.ok.inj h
    rw [Condition.truth, ih hd, Query.truth]
  | group body ih => exact ih h
  | joined connective left right ihl ihr =>
    obtain ⟨l, hl, h⟩ := bind_eq_ok_iff.mp h
    obtain ⟨r, hr, h⟩ := bind_eq_ok_iff.mp h
    obtain rfl := Except.ok.inj h
    cases connective with
    | and => simp only [capitals, Condition.truth, ihl hl, ihr hr, Query.truth]
    | or => simp only [capitals, Condition.truth, ihl hl, ihr hr, Query.truth]
    | other word => rfl
  | unknown text => simp [lower] at h

end Search

end Cabinet

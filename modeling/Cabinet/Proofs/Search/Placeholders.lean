import Cabinet.Proofs.Search.Answers
import Cabinet.Proofs.Search.Truth

/-!
The text of a condition and its values: each name is followed by as many question marks as there are
values for it, and what is searched for is in the values only.
-/

namespace Cabinet

namespace Sql

/-- What a reader of a statement is inside of; the characters of a name come in reverse. -/
inductive Quoting where
  | outside
  | name (before : List Char)
  | literal

/-- What a reader of a statement takes from it: names in double quotation marks and the places of
values. -/
inductive Piece where
  | name (s : List Char)
  | hole
  | unclosed
  deriving DecidableEq

/-- The names and the question marks of a statement. A question mark inside of quotation marks is none,
and a quotation mark in a name is doubled. -/
def pieces : Quoting → List Char → List Piece
  | .outside, [] => []
  | .outside, '"' :: rest => pieces (.name []) rest
  | .outside, '\'' :: rest => pieces .literal rest
  | .outside, '?' :: rest => .hole :: pieces .outside rest
  | .outside, _ :: rest => pieces .outside rest
  | .name before, '"' :: '"' :: rest => pieces (.name ('"' :: before)) rest
  | .name before, '"' :: rest => .name before.reverse :: pieces .outside rest
  | .name before, c :: rest => pieces (.name (c :: before)) rest
  | .literal, '\'' :: rest => pieces .outside rest
  | .literal, _ :: rest => pieces .literal rest
  | _, [] => [.unclosed]

def Piece.name? : Piece → Option (List Char)
  | name s => some s
  | _ => none

end Sql

/-- The clauses of a condition, from left to right. -/
def Condition.clauses : Condition → List Clause
  | always => []
  | clause c => [c]
  | negation operand => operand.clauses
  | joined _ left right => left.clauses ++ right.clauses
  | chain first rest => first :: rest
  | both left right => left.clauses ++ right.clauses

/-- A name and a place for each value. -/
def Clause.pieces (c : Clause) : List Sql.Piece :=
  .name c.column.toList :: c.params.map fun _ => .hole

namespace Sql

theorem pieces_name (before name : List Char) {rest : List Char} (hr : rest.head? ≠ some '"') :
    pieces (.name before)
      (name.flatMap (fun c => if c = '"' then ['"', '"'] else [c]) ++ '"' :: rest) =
        .name (before.reverse ++ name) :: pieces .outside rest := by
  induction name generalizing before with
  | nil =>
    cases rest with
    | nil => simp [pieces]
    | cons c rest =>
      have hc : c ≠ '"' := by simpa using hr
      simp [pieces, hc]
  | cons c name ih =>
    by_cases hc : c = '"'
    · simp [hc, pieces, ih]
    · simp [hc, pieces, ih]

/-- What neither opens a quotation nor is the place of a value. -/
def isPlain (c : Char) : Bool :=
  c != '"' && c != '\'' && c != '?'

theorem pieces_plain {s : List Char} (h : s.all isPlain = true) (rest : List Char) :
    pieces .outside (s ++ rest) = pieces .outside rest := by
  induction s with
  | nil => rfl
  | cons c s ih =>
    simp only [List.all_cons, isPlain, Bool.and_eq_true, bne_iff_ne, ne_eq] at h
    obtain ⟨⟨⟨hname, hliteral⟩, hhole⟩, hs⟩ := h
    simp [pieces, ih hs]

/-- What is written after the name of a column begins with no quotation mark. -/
theorem pieces_test (c : Clause) (rest : List Char) :
    (c.test ++ rest).head? ≠ some '"' ∧
      pieces .outside (c.test ++ rest) = c.params.map (fun _ => .hole) ++ pieces .outside rest := by
  -- In each form of a clause the text between the placeholders is plain, and one placeholder stands
  -- for each value.
  cases c with
  | like column pattern =>
    have htest : (Clause.like column pattern).test ++ rest = [' ', 'L', 'I', 'K', 'E', ' '] ++
        '?' :: ([' ', 'E', 'S', 'C', 'A', 'P', 'E', ' '] ++ '\'' :: '\\' :: '\'' :: rest) := rfl
    rw [htest, pieces_plain (by decide), pieces, pieces_plain (by decide)]
    simp [pieces, Clause.params]
  | regexp column pattern =>
    have htest : (Clause.regexp column pattern).test ++ rest =
        [' ', 'R', 'E', 'G', 'E', 'X', 'P', ' '] ++ '?' :: rest := rfl
    rw [htest, pieces_plain (by decide)]
    simp [pieces, Clause.params]
  | compare column comparison v =>
    have htest : (Clause.compare column comparison v).test ++ rest =
        (' ' :: comparison.symbol ++ [' ']) ++ '?' :: rest := by
      have hcompare : (Clause.compare column comparison v).test =
        ' ' :: comparison.symbol ++ [' ', '?'] := rfl
      simp [hcompare]
    have hplain : (' ' :: comparison.symbol ++ [' ']).all isPlain = true := by
      cases comparison <;> decide
    rw [htest, pieces_plain hplain]
    simp [pieces, Clause.params]
  | between column low high =>
    have htest : (Clause.between column low high).test ++ rest =
        [' ', 'B', 'E', 'T', 'W', 'E', 'E', 'N', ' '] ++ '?' ::
          ([' ', 'A', 'N', 'D', ' '] ++ '?' :: rest) := rfl
    rw [htest, pieces_plain (by decide), pieces, pieces_plain (by decide)]
    simp [pieces, Clause.params]

theorem pieces_clause (c : Clause) (rest : List Char) :
    pieces .outside (c.text ++ rest) = c.pieces ++ pieces .outside rest := by
  obtain ⟨hhead, htest⟩ := pieces_test c rest
  have hname := pieces_name [] c.column.toList hhead
  have htext : c.text ++ rest = '"' ::
      (c.column.toList.flatMap (fun c => if c = '"' then ['"', '"'] else [c]) ++
        '"' :: (c.test ++ rest)) := by
    simp [Clause.text, quoteName]
  rw [htext, pieces, hname, htest]
  rfl

end Sql

theorem Condition.params_eq (c : Condition) : c.params = c.clauses.flatMap Clause.params := by
  induction c with
  | always | clause c | chain first rest => simp [params, clauses]
  | negation operand ih => exact ih
  | joined _ left right ihl ihr => simp [params, clauses, ihl, ihr]
  | both left right ihl ihr => simp [params, clauses, ihl, ihr]

/-- Whether a condition is read as its clauses, whatever comes after it. -/
def Condition.HasPieces (c : Condition) : Prop :=
  ∀ rest, Sql.pieces .outside (c.text ++ rest) =
    c.clauses.flatMap Clause.pieces ++ Sql.pieces .outside rest

namespace Condition

theorem HasPieces.joined {connective : Connective} {left right : Condition}
    (hword : connective.keyword.all Sql.isPlain = true) (hl : left.HasPieces) (hr : right.HasPieces) :
    (Condition.joined connective left right).HasPieces := by
  intro rest
  have htext : (Condition.joined connective left right).text ++ rest = ['('] ++ (left.text ++
      ((' ' :: connective.keyword ++ [' ']) ++ (right.text ++ ([')'] ++ rest)))) := by
    simp [text_joined]
  have hplain : (' ' :: connective.keyword ++ [' ']).all Sql.isPlain = true := by
    simpa [Sql.isPlain] using hword
  rw [htext, Sql.pieces_plain (by decide), hl, Sql.pieces_plain hplain, hr, Sql.pieces_plain (by decide)]
  simp [clauses]

theorem Enclosed.hasPieces {c : Condition} (h : c.Enclosed) : c.HasPieces := by
  induction h with
  | clause c =>
    intro rest
    rw [clauses, List.flatMap_singleton]
    exact Sql.pieces_clause c rest
  | @negation operand h ih =>
    intro rest
    have htext : (Condition.negation operand).text ++ rest =
        ['(', 'N', 'O', 'T', ' '] ++ (operand.text ++ ([')'] ++ rest)) := by
      rw [text_negation, List.append_assoc, List.append_assoc]
      rfl
    rw [htext, Sql.pieces_plain (by decide), ih, Sql.pieces_plain (by decide)]
    rfl
  | conjunction _ _ ihl ihr => exact .joined rfl ihl ihr
  | disjunction _ _ ihl ihr => exact .joined rfl ihl ihr

end Condition

namespace Clause

theorem count_pieces (clauses : List Clause) :
    (clauses.flatMap pieces).count .hole = (clauses.flatMap params).length := by
  induction clauses with
  | nil => rfl
  | cons c rest ih =>
    rw [List.flatMap_cons, List.flatMap_cons, List.count_append, List.length_append, ih]
    simp [pieces, List.map_const']

theorem names_pieces (clauses : List Clause) :
    (clauses.flatMap pieces).filterMap Sql.Piece.name? = clauses.map (·.column.toList) := by
  induction clauses with
  | nil => rfl
  | cons c rest ih =>
    rw [List.flatMap_cons, List.filterMap_append, ih]
    simp [pieces, Sql.Piece.name?]

end Clause

/-- What takes a value in a statement: a text, a floating-point number, or an integer of 64 bits. -/
def Value.IsBindable : Value → Prop
  | text _ => True
  | float _ => True
  | int n => -9223372036854775808 ≤ n ∧ n ≤ 9223372036854775807
  | _ => False

/-- What a clause is apart from its column and its values. -/
inductive Clause.Form where
  | like
  | regexp
  | compare (comparison : Comparison)
  | between
  deriving DecidableEq, Repr

def Clause.form : Clause → Form
  | .like .. => .like
  | .regexp .. => .regexp
  | .compare _ comparison _ => .compare comparison
  | .between .. => .between

theorem Value.isBindable_int {n : Int} (h : isStorable n = true) : (int n).IsBindable := by
  have hmin : minInteger = -9223372036854775808 := rfl
  have hmax : maxInteger = 9223372036854775807 := rfl
  simpa [IsBindable, isStorable, hmin, hmax] using h

theorem Clause.text_eq_of_form {c d : Clause} (hcolumn : c.column = d.column) (hform : c.form = d.form) :
    c.text = d.text := by
  have htest : c.test = d.test := by
    cases c with
    | compare _ comparison _ =>
      cases d with
      | compare _ comparison' _ =>
        obtain rfl : comparison = comparison' := Form.compare.inj hform
        rfl
      | _ => simp [form] at hform
    | _ => cases d <;> first | rfl | simp [form] at hform
  rw [text, text, hcolumn, htest]

/-- A tree without the texts that its terms look for. -/
def Query.withoutTexts : Query → Query
  | term _ regex => .term "" regex
  | field name _ regex => .field name "" regex
  | negation operand => .negation operand.withoutTexts
  | group body => .group body.withoutTexts
  | joined connective left right => .joined connective left.withoutTexts right.withoutTexts
  | unknown text => .unknown text

namespace Search

variable {columns : List Column} {q q' : Query} {c c' : Condition}

/-- The clauses of a tree are those of its terms. -/
theorem clauses_lower (h : lower columns q = .ok c) :
    (q.terms columns).map Term.clause = c.clauses.map .ok := by
  induction q generalizing c with
  | term text regex =>
    obtain ⟨clause, hclause, h⟩ := bind_eq_ok_iff.mp h
    obtain rfl := Except.ok.inj h
    exact congrArg (fun x => [x]) hclause
  | field name text regex =>
    obtain ⟨clause, hclause, h⟩ := bind_eq_ok_iff.mp h
    obtain rfl := Except.ok.inj h
    exact congrArg (fun x => [x]) (clause_ofField hclause)
  | negation operand ih =>
    obtain ⟨d, hd, h⟩ := bind_eq_ok_iff.mp h
    obtain rfl := Except.ok.inj h
    rw [Query.terms, ih hd]
    rfl
  | group body ih => exact ih h
  | joined connective left right ihl ihr =>
    obtain ⟨l, hl, h⟩ := bind_eq_ok_iff.mp h
    obtain ⟨r, hr, h⟩ := bind_eq_ok_iff.mp h
    obtain rfl := Except.ok.inj h
    simp only [Query.terms, Condition.clauses, List.map_append, ihl hl, ihr hr]
  | unknown text => simp [lower] at h

/-- Each clause is about the column of its term. -/
theorem columns_lower (h : lower columns q = .ok c) :
    c.clauses.map Clause.column = (q.terms columns).map Term.column := by
  have hclauses := clauses_lower h
  apply List.ext_getElem?
  intro i
  have hi := congrArg (·[i]?) hclauses
  simp only [List.getElem?_map] at hi ⊢
  cases hterm : (q.terms columns)[i]? with
  | none => simpa [hterm] using hi.symm
  | some t =>
    rw [hterm] at hi
    obtain ⟨d, hd, hclause⟩ := Option.map_eq_some_iff.mp hi.symm
    rw [hd]
    exact congrArg some (Term.clause_column hclause.symm)

theorem column_ofField (name text text' : String) (regex regex' : Bool) :
    (Term.ofField columns name text regex).column = (Term.ofField columns name text' regex').column := by
  unfold Term.ofField
  split <;> rfl

/-- The columns of the terms do not depend on what is looked for. -/
theorem columns_withoutTexts (columns : List Column) (q : Query) :
    (q.withoutTexts.terms columns).map Term.column = (q.terms columns).map Term.column := by
  induction q with
  | term text regex => rfl
  | field name text regex => exact congrArg (fun x => [x]) (column_ofField name _ _ _ _)
  | negation operand ih => exact ih
  | group body ih => exact ih
  | joined connective left right ihl ihr =>
    simp only [Query.withoutTexts, Query.terms, List.map_append, ihl, ihr]
  | unknown text => rfl

theorem columns_eq (hq : q'.withoutTexts = q.withoutTexts) (h : lower columns q = .ok c)
    (h' : lower columns q' = .ok c') : c'.clauses.map Clause.column = c.clauses.map Clause.column := by
  rw [columns_lower h, columns_lower h', ← columns_withoutTexts, hq, columns_withoutTexts]

/-- What is looked for says no more about the text of a condition than which form each clause has. -/
theorem text_eq_of_forms (hq : q'.withoutTexts = q.withoutTexts) (h : lower columns q = .ok c)
    (h' : lower columns q' = .ok c') (hforms : c'.clauses.map Clause.form = c.clauses.map Clause.form) :
    c'.text = c.text := by
  induction q generalizing q' c c' with
  | term text regex | field name text regex =>
    have hcolumns := columns_eq hq h h'
    cases q' with
    | term | field =>
      obtain ⟨d, -, h⟩ := bind_eq_ok_iff.mp h
      obtain ⟨d', -, h'⟩ := bind_eq_ok_iff.mp h'
      obtain rfl := Except.ok.inj h
      obtain rfl := Except.ok.inj h'
      exact Clause.text_eq_of_form (List.head_eq_of_cons_eq hcolumns) (List.head_eq_of_cons_eq hforms)
    | _ => simp [Query.withoutTexts] at hq
  | negation operand ih =>
    cases q' with
    | negation operand' =>
      obtain ⟨d, hd, h⟩ := bind_eq_ok_iff.mp h
      obtain ⟨d', hd', h'⟩ := bind_eq_ok_iff.mp h'
      obtain rfl := Except.ok.inj h
      obtain rfl := Except.ok.inj h'
      rw [Condition.text_negation, Condition.text_negation, ih (Query.negation.inj hq) hd hd' hforms]
    | _ => simp [Query.withoutTexts] at hq
  | group body ih =>
    cases q' with
    | group body' => exact ih (Query.group.inj hq) h h' hforms
    | _ => simp [Query.withoutTexts] at hq
  | joined connective left right ihl ihr =>
    cases q' with
    | joined connective' left' right' =>
      obtain ⟨rfl, hleft, hright⟩ := Query.joined.inj hq
      obtain ⟨l, hl, h⟩ := bind_eq_ok_iff.mp h
      obtain ⟨r, hr, h⟩ := bind_eq_ok_iff.mp h
      obtain ⟨l', hl', h'⟩ := bind_eq_ok_iff.mp h'
      obtain ⟨r', hr', h'⟩ := bind_eq_ok_iff.mp h'
      obtain rfl := Except.ok.inj h
      obtain rfl := Except.ok.inj h'
      -- Both left parts have as many clauses, so the forms of left and right parts are told apart.
      have hlength : (l'.clauses.map Clause.form).length = (l.clauses.map Clause.form).length := by
        have hcolumns := congrArg List.length (columns_eq hleft hl hl')
        simpa using hcolumns
      simp only [Condition.clauses, List.map_append] at hforms
      obtain ⟨hforms, hforms'⟩ := List.append_inj hforms hlength
      rw [Condition.text_joined, Condition.text_joined, ihl hleft hl hl' hforms,
        ihr hright hr hr' hforms']
    | _ => simp [Query.withoutTexts] at hq
  | unknown text => simp [lower] at h

theorem isBindable_numberValue (s : List Char) : (numberValue s).IsBindable := by
  unfold numberValue
  split
  · split
    · next hstorable => exact Value.isBindable_int hstorable
    · trivial
  · trivial

/-- Whatever a term becomes, its values can be bound. -/
theorem isBindable_termClause {column text : String} {type : ColumnType} {regex : Bool} {d : Clause}
    (h : termClause column type text regex = .ok d) : ∀ v ∈ d.params, v.IsBindable := by
  obtain ⟨-, rfl⟩ | ⟨-, ⟨b, htruth, rfl⟩ | hday | hnumeric | rfl⟩ := termClause_eq_ok h
  · simp [Clause.params, Value.IsBindable]
  · simpa [Clause.params] using Value.isBindable_int (isStorable_truthValue? htruth)
  · obtain ⟨start, finish, hstart, hfinish, rfl | ⟨comparison, bound, hbound, rfl⟩⟩ :=
      dayClause?_eq_some hday
    · simpa [Clause.params] using ⟨Value.isBindable_int hstart, Value.isBindable_int hfinish⟩
    · rcases hbound with rfl | rfl
      · simpa [Clause.params] using Value.isBindable_int hstart
      · simpa [Clause.params] using Value.isBindable_int hfinish
  · obtain ⟨comparison, operand, -, rfl⟩ := numericClause?_eq_some hnumeric
    simpa [Clause.params] using isBindable_numberValue operand
  · simp [partClause, Clause.params, Value.IsBindable]

theorem isBindable_lower (h : lower columns q = .ok c) : ∀ v ∈ c.params, v.IsBindable := by
  intro v hv
  rw [Condition.params_eq] at hv
  obtain ⟨d, hd, hv⟩ := List.mem_flatMap.mp hv
  have hclause : .ok d ∈ (q.terms columns).map Term.clause :=
    clauses_lower h ▸ List.mem_map_of_mem hd
  obtain ⟨t, -, ht⟩ := List.mem_map.mp hclause
  exact isBindable_termClause ht v hv

/-- What the condition of a tree is made of. A tree fails exactly if a field of it gives a place in more
digits than a number may have. Otherwise there is a clause for each term, and the text of the condition
has the name of the term's column, read as it was written, and a question mark for each value of the
clause, and no others. The values can be bound. Another tree that differs in what is looked for only has
the same text if its clauses have the same forms. -/
theorem lower_keeps_literals_apart (hcatalog : ∀ c ∈ columns, c.type.isOther = false) (hq : q.Plain) :
    (HasOverlong columns q → lower columns q = .error .unreadable) ∧
      (¬HasOverlong columns q → ∃ c, lower columns q = .ok c ∧
        (q.terms columns).map Term.clause = c.clauses.map .ok ∧
        Sql.pieces .outside c.text = c.clauses.flatMap Clause.pieces ∧
        (Sql.pieces .outside c.text).count .hole = c.params.length ∧
        (Sql.pieces .outside c.text).filterMap Sql.Piece.name? =
          (q.terms columns).map (·.column.toList) ∧
        (∀ v ∈ c.params, v.IsBindable) ∧
        ∀ q' c', q'.withoutTexts = q.withoutTexts → lower columns q' = .ok c' →
          c'.clauses.map Clause.form = c.clauses.map Clause.form → c'.text = c.text) := by
  obtain ⟨hfails, hanswers⟩ := lower_answers hcatalog hq
  refine ⟨hfails, fun hshort => ?_⟩
  obtain ⟨c, hc⟩ := hanswers hshort
  have hpieces : Sql.pieces .outside c.text = c.clauses.flatMap Clause.pieces := by
    have hrest := (enclosed_lower hq hc).hasPieces []
    rwa [List.append_nil, Sql.pieces, List.append_nil] at hrest
  refine ⟨c, hc, clauses_lower hc, hpieces, ?_, ?_, isBindable_lower hc, fun q' c' hsame hc' hforms =>
    text_eq_of_forms hsame hc hc' hforms⟩
  · rw [hpieces, Clause.count_pieces, c.params_eq]
  · have hcolumns := congrArg (List.map String.toList) (columns_lower hc)
    rw [List.map_map, List.map_map] at hcolumns
    rw [hpieces, Clause.names_pieces]
    exact hcolumns

/-- A column whose name has what ends names and what stands for values. -/
theorem lower_keeps_literals_apart_quoted :
    let columns : List Column := [{ name := "a\"?", type := .integer, index := 0 }]
    let q : Query := .joined .and (.field "a\"?" "> 5" false) (.negation (.term "it's \"?\"" false))
    (∀ c ∈ columns, c.type.isOther = false) ∧ q.Plain ∧
      ∃ c, lower columns q = .ok c ∧
        c.text = "(\"a\"\"?\" > ? AND (NOT \"title\" LIKE ? ESCAPE '\\'))".toList ∧
        (Sql.pieces .outside c.text).count .hole = c.params.length ∧
        (Sql.pieces .outside c.text).filterMap Sql.Piece.name? = ["a\"?".toList, "title".toList] := by
  intro columns q
  have hcatalog : ∀ c ∈ columns, c.type.isOther = false := by decide
  have hq : q.Plain := ⟨.inl rfl, trivial, trivial⟩
  have hlower : (lower columns q).toOption.map Condition.text =
      some "(\"a\"\"?\" > ? AND (NOT \"title\" LIKE ? ESCAPE '\\'))".toList := by
    decide +kernel
  have hterms : (q.terms columns).map (·.column.toList) = ["a\"?".toList, "title".toList] := by
    decide +kernel
  obtain ⟨hfails, hanswers⟩ := lower_keeps_literals_apart hcatalog hq
  have hshort : ¬HasOverlong columns q := by
    intro hlong
    rw [hfails hlong] at hlower
    cases hlower
  obtain ⟨c, hc, -, -, hcount, hnames, -⟩ := hanswers hshort
  rw [hc] at hlower
  exact ⟨hcatalog, hq, c, hc, Option.some.inj hlower, hcount, hnames.trans hterms⟩

end Search

end Cabinet

import Cabinet.Search.Compile
import Cabinet.Storage.Evaluate

/-!
Reading the text of a condition as the storage does: operators bind in their order, and the values
go to the question marks in turn.
-/

namespace Cabinet.Sql

inductive Token where
  | opening
  | closing
  | not
  | and
  | or
  | one
  | name (s : List Char)
  | hole
  | comparison (c : Comparison)
  | like
  | escape
  | backslash
  | regexp
  | between
  | other (s : List Char)
  deriving DecidableEq

/-- The words and the signs that stand between blanks. -/
def words : List (List Char × Token) :=
  [(['N', 'O', 'T'], .not), (['A', 'N', 'D'], .and), (['O', 'R'], .or),
    (['L', 'I', 'K', 'E'], .like), (['E', 'S', 'C', 'A', 'P', 'E'], .escape),
    (['R', 'E', 'G', 'E', 'X', 'P'], .regexp), (['B', 'E', 'T', 'W', 'E', 'E', 'N'], .between),
    (['='], .comparison .equal), (['<'], .comparison .less), (['<', '='], .comparison .atMost),
    (['>'], .comparison .greater), (['>', '='], .comparison .atLeast)]

def word (s : List Char) : Token :=
  (words.lookup s).getD (.other s)

/-- What the next character belongs to; the characters before it come in reverse. -/
inductive Place where
  | between
  | name (before : List Char)
  | word (before : List Char)

/-- The tokens of a text. A quotation mark in a name is doubled. -/
@[simp]
def tokens : Place → List Char → List Token
  | .between, [] => []
  | .between, ' ' :: rest => tokens .between rest
  | .between, '"' :: rest => tokens (.name []) rest
  | .between, '(' :: rest => .opening :: tokens .between rest
  | .between, ')' :: rest => .closing :: tokens .between rest
  | .between, '?' :: rest => .hole :: tokens .between rest
  | .between, '1' :: rest => .one :: tokens .between rest
  | .between, '\'' :: '\\' :: '\'' :: rest => .backslash :: tokens .between rest
  | .between, c :: rest => tokens (.word [c]) rest
  | .name before, '"' :: '"' :: rest => tokens (.name ('"' :: before)) rest
  | .name before, '"' :: rest => .name before.reverse :: tokens .between rest
  | .name before, c :: rest => tokens (.name (c :: before)) rest
  | .name before, [] => [.other before.reverse]
  | .word before, ' ' :: rest => word before.reverse :: tokens .between rest
  | .word before, c :: rest => tokens (.word (c :: before)) rest
  | .word before, [] => [word before.reverse]

/-- What has been read and waits for the condition to the right of it. -/
inductive Pending where
  | negation
  | group
  | joined (connective : Connective) (left : Condition)

/-- Whether the condition to the right is complete before an operator: `OR` has the strength one,
`AND` two, and `NOT` three. -/
def Pending.completesBefore (strength : Nat) : Pending → Bool
  | negation => strength < 3
  | group => false
  | joined .and _ => strength ≤ 2
  | joined _ _ => strength ≤ 1

/-- The condition with what waited for it. -/
def Pending.complete (operand : Condition) : Pending → Condition
  | negation => .negation operand
  | group => operand
  | joined connective left => .joined connective left operand

/-- Completes what an operator of some strength leaves no longer waiting. -/
def settle (strength : Nat) : List Pending → Condition → List Pending × Condition
  | [], c => ([], c)
  | p :: rest, c =>
    if p.completesBefore strength then settle strength rest (p.complete c) else (p :: rest, c)

/-- Reads tokens where a condition begins, or after one. Each question mark takes the next value. -/
@[simp]
def readTokens : List Pending → Option Condition → List Value → List Token → Option Condition
  | pending, none, values, .opening :: rest => readTokens (.group :: pending) none values rest
  | pending, none, values, .not :: rest => readTokens (.negation :: pending) none values rest
  | pending, none, values, .one :: rest => readTokens pending (some .always) values rest
  | pending, none, .text pattern :: values, .name column :: .like :: .hole :: .escape ::
      .backslash :: rest =>
    readTokens pending (some (.clause (.like (String.ofList column) pattern.toList))) values rest
  | pending, none, .text pattern :: values, .name column :: .regexp :: .hole :: rest =>
    readTokens pending (some (.clause (.regexp (String.ofList column) pattern))) values rest
  | pending, none, v :: values, .name column :: .comparison c :: .hole :: rest =>
    readTokens pending (some (.clause (.compare (String.ofList column) c v))) values rest
  | pending, none, .int low :: .int high :: values, .name column :: .between :: .hole :: .and ::
      .hole :: rest =>
    readTokens pending (some (.clause (.between (String.ofList column) low high))) values rest
  | pending, some c, values, .and :: rest =>
    let (pending, c) := settle 2 pending c
    readTokens (.joined .and c :: pending) none values rest
  | pending, some c, values, .or :: rest =>
    let (pending, c) := settle 1 pending c
    readTokens (.joined .or c :: pending) none values rest
  | pending, some c, values, .closing :: rest =>
    match settle 0 pending c with
    | (.group :: pending, c) => readTokens pending (some c) values rest
    | _ => none
  | pending, some c, [], [] =>
    match settle 0 pending c with
    | ([], c) => some c
    | _ => none
  | _, _, _, _ => none

/-- The condition that a text says with its values. -/
def read (f : Filter) : Option Condition :=
  readTokens [] none f.params (tokens .between f.text)

end Cabinet.Sql

namespace Cabinet

/-- A condition that is one clause, or that stands in brackets with all its parts. -/
inductive Condition.Enclosed : Condition → Prop
  | clause (c : Clause) : Enclosed (.clause c)
  | negation {operand : Condition} (h : operand.Enclosed) : Enclosed (.negation operand)
  | conjunction {left right : Condition} (hl : left.Enclosed) (hr : right.Enclosed) :
    Enclosed (.joined .and left right)
  | disjunction {left right : Condition} (hl : left.Enclosed) (hr : right.Enclosed) :
    Enclosed (.joined .or left right)

namespace Condition

theorem text_negation (operand : Condition) :
    (negation operand).text = "(NOT ".toList ++ operand.text ++ [')'] := rfl

theorem text_joined (c : Connective) (left right : Condition) : (joined c left right).text =
    '(' :: left.text ++ ' ' :: c.keyword ++ ' ' :: right.text ++ [')'] := rfl

theorem text_both (left right : Condition) : (both left right).text =
    '(' :: left.text ++ ") AND (".toList ++ right.text ++ [')'] := rfl

end Condition

namespace Sql

def clauseTokens : Clause → List Token
  | .like column _ => [.name column.toList, .like, .hole, .escape, .backslash]
  | .regexp column _ => [.name column.toList, .regexp, .hole]
  | .compare column comparison _ => [.name column.toList, .comparison comparison, .hole]
  | .between column _ _ => [.name column.toList, .between, .hole, .and, .hole]

def connectiveToken : Connective → Token
  | .and => .and
  | .or => .or
  | .other s => .other s.toList

/-- The tokens of the text of a condition. -/
def conditionTokens : Condition → List Token
  | .always => [.one]
  | .clause c => clauseTokens c
  | .negation operand => .opening :: .not :: conditionTokens operand ++ [.closing]
  | .joined connective left right =>
    .opening :: conditionTokens left ++ connectiveToken connective :: conditionTokens right ++ [.closing]
  | .chain first rest => clauseTokens first ++ rest.flatMap fun c => .and :: clauseTokens c
  | .both left right =>
    .opening :: conditionTokens left ++ .closing :: .and :: .opening :: conditionTokens right ++ [.closing]

theorem tokens_name (before name : List Char) {rest : List Char} (hr : rest.head? ≠ some '"') :
    tokens (.name before)
      (name.flatMap (fun c => if c = '"' then ['"', '"'] else [c]) ++ '"' :: rest) =
        .name (before.reverse ++ name) :: tokens .between rest := by
  induction name generalizing before with
  | nil =>
    cases rest with
    | nil => simp
    | cons c rest =>
      have hc : c ≠ '"' := by simpa using hr
      simp [hc]
  | cons c name ih =>
    by_cases hc : c = '"'
    · simp [hc, ih]
    · simp [hc, ih]

theorem tokens_quoteName (name : List Char) {rest : List Char} (hr : rest.head? ≠ some '"') :
    tokens .between (quoteName name ++ rest) = .name name :: tokens .between rest := by
  have hname := tokens_name [] name hr
  simpa [quoteName] using hname

/-- What is written after the name of a column begins with a blank, and then comes what the test
is. -/
theorem tokens_test (c : Clause) (rest : List Char) :
    (c.test ++ rest).head? ≠ some '"' ∧
      .name c.column.toList :: tokens .between (c.test ++ rest) = clauseTokens c ++ tokens .between rest := by
  cases c with
  | like column pattern =>
    have htest : (Clause.like column pattern).test = [' ', 'L', 'I', 'K', 'E', ' ', '?', ' ', 'E', 'S',
      'C', 'A', 'P', 'E', ' ', '\'', '\\', '\''] := rfl
    simp [htest, word, words, List.lookup_cons, clauseTokens, Clause.column]
  | regexp column pattern =>
    have htest : (Clause.regexp column pattern).test =
      [' ', 'R', 'E', 'G', 'E', 'X', 'P', ' ', '?'] := rfl
    simp [htest, word, words, List.lookup_cons, clauseTokens, Clause.column]
  | compare column comparison v =>
    have htest : (Clause.compare column comparison v).test =
      ' ' :: comparison.symbol ++ [' ', '?'] := rfl
    cases comparison <;>
      simp [htest, Comparison.symbol, word, words, List.lookup_cons, clauseTokens, Clause.column]
  | between column low high =>
    have htest : (Clause.between column low high).test = [' ', 'B', 'E', 'T', 'W', 'E', 'E', 'N', ' ',
      '?', ' ', 'A', 'N', 'D', ' ', '?'] := rfl
    simp [htest, word, words, List.lookup_cons, clauseTokens, Clause.column]

theorem tokens_clause (c : Clause) (rest : List Char) :
    tokens .between (c.text ++ rest) = clauseTokens c ++ tokens .between rest := by
  obtain ⟨hhead, htokens⟩ := tokens_test c rest
  rw [Clause.text, List.append_assoc, tokens_quoteName _ hhead, htokens]

/-- Words between two parts in brackets. -/
theorem tokens_connective (c : Connective) (hc : c = .and ∨ c = .or) (rest : List Char) :
    tokens .between (' ' :: c.keyword ++ ' ' :: rest) = connectiveToken c :: tokens .between rest := by
  have hand : Connective.and.keyword = ['A', 'N', 'D'] := rfl
  have hor : Connective.or.keyword = ['O', 'R'] := rfl
  rcases hc with rfl | rfl
  · simp [hand, word, words, List.lookup_cons, connectiveToken]
  · simp [hor, word, words, List.lookup_cons, connectiveToken]

theorem tokens_joined {c : Connective} (hc : c = .and ∨ c = .or) {left right : Condition}
    (hl : ∀ rest, tokens .between (left.text ++ rest) = conditionTokens left ++ tokens .between rest)
    (hr : ∀ rest, tokens .between (right.text ++ rest) = conditionTokens right ++ tokens .between rest)
    (rest : List Char) :
    tokens .between ((Condition.joined c left right).text ++ rest) =
      conditionTokens (.joined c left right) ++ tokens .between rest := by
  have htext : (Condition.joined c left right).text ++ rest =
      '(' :: (left.text ++ (' ' :: c.keyword ++ ' ' :: (right.text ++ ')' :: rest))) := by
    rw [Condition.text_joined]
    simp
  rw [htext, tokens, hl, tokens_connective c hc, hr, tokens, conditionTokens]
  simp

theorem tokens_condition {c : Condition} (h : c.Enclosed) (rest : List Char) :
    tokens .between (c.text ++ rest) = conditionTokens c ++ tokens .between rest := by
  induction h generalizing rest with
  | clause c => exact tokens_clause c rest
  | @negation operand h ih =>
    have htext : (Condition.negation operand).text ++ rest =
        '(' :: 'N' :: 'O' :: 'T' :: ' ' :: (operand.text ++ ')' :: rest) := by
      rw [Condition.text_negation, List.append_assoc]
      rfl
    rw [htext, conditionTokens]
    simp [word, words, ih]
  | conjunction _ _ ihl ihr => exact tokens_joined (.inl rfl) ihl ihr rest
  | disjunction _ _ ihl ihr => exact tokens_joined (.inr rfl) ihl ihr rest

theorem tokens_clauses (rest : List Clause) (after : List Char) :
    tokens .between (rest.flatMap (fun c => " AND ".toList ++ c.text) ++ ')' :: after) =
      rest.flatMap (fun c => .and :: clauseTokens c) ++ .closing :: tokens .between after := by
  induction rest with
  | nil => rfl
  | cons c rest ih =>
    have htext : (c :: rest).flatMap (fun c => " AND ".toList ++ c.text) ++ ')' :: after =
        ' ' :: Connective.and.keyword ++ ' ' :: (c.text ++
          (rest.flatMap (fun c => " AND ".toList ++ c.text) ++ ')' :: after)) := by
      rw [List.flatMap_cons, List.append_assoc, List.append_assoc]
      rfl
    rw [htext, tokens_connective .and (.inl rfl), tokens_clause, ih, List.flatMap_cons]
    simp [connectiveToken]

/-- A condition is read as a whole from its tokens and its values, whatever waits for it. -/
def ReadsBack (c : Condition) : Prop :=
  ∀ pending values rest, readTokens pending none (c.params ++ values) (conditionTokens c ++ rest) =
    readTokens pending (some c) values rest

/-- What stands in brackets is complete where they close. -/
theorem readTokens_closing (pending : List Pending) (c : Condition) (values : List Value)
    (rest : List Token) :
    readTokens (.group :: pending) (some c) values (.closing :: rest) =
      readTokens pending (some c) values rest := by
  simp [settle, Pending.completesBefore]

theorem ReadsBack.joined {c : Connective} (hc : c = .and ∨ c = .or) {left right : Condition}
    (hl : ReadsBack left) (hr : ReadsBack right) : ReadsBack (.joined c left right) := by
  intro pending values rest
  have htokens : conditionTokens (.joined c left right) ++ rest =
      .opening :: (conditionTokens left ++ connectiveToken c ::
        (conditionTokens right ++ .closing :: rest)) := by
    simp [conditionTokens]
  rw [htokens, Condition.params, List.append_assoc, readTokens, hl]
  -- The bracket before the left part keeps what waits outside of it from binding that part.
  rcases hc with rfl | rfl
  all_goals
    rw [connectiveToken, readTokens]
    simp only [settle, Pending.completesBefore, Bool.false_eq_true, if_false]
    rw [hr]
    simp [settle, Pending.completesBefore, Pending.complete]

theorem ReadsBack.of_enclosed {c : Condition} (h : c.Enclosed) : ReadsBack c := by
  induction h with
  | clause c =>
    intro pending values rest
    cases c <;> simp [Condition.params, Clause.params, conditionTokens, clauseTokens]
  | @negation operand h ih =>
    intro pending values rest
    have htokens : conditionTokens (.negation operand) ++ rest =
        .opening :: .not :: (conditionTokens operand ++ .closing :: rest) := by
      simp [conditionTokens]
    rw [htokens, Condition.params, readTokens, readTokens, ih]
    simp [settle, Pending.completesBefore, Pending.complete]
  | conjunction _ _ ihl ihr => exact .joined (.inl rfl) ihl ihr
  | disjunction _ _ ihl ihr => exact .joined (.inr rfl) ihl ihr

/-- The text and the values of an enclosed condition say the condition. -/
theorem read_filter {c : Condition} (h : c.Enclosed) : read c.filter = some c := by
  have htokens := tokens_condition h []
  have hread := ReadsBack.of_enclosed h [] [] []
  rw [List.append_nil] at htokens hread
  rw [read, Condition.filter, htokens, tokens, hread]
  rfl

/-- A condition that is read as another one where it stands between brackets. -/
structure ReadsAs (c d : Condition) : Prop where
  tokens (after) : Sql.tokens .between (c.text ++ ')' :: after) =
    conditionTokens c ++ .closing :: Sql.tokens .between after
  reads (pending values rest) : readTokens (.group :: pending) none (c.params ++ values)
    (conditionTokens c ++ .closing :: rest) = readTokens pending (some d) values rest

theorem ReadsAs.of_enclosed {c : Condition} (h : c.Enclosed) : ReadsAs c c where
  tokens after := by rw [tokens_condition h, Sql.tokens]
  reads pending values rest := by rw [ReadsBack.of_enclosed h, readTokens_closing]

/-- Conditions between brackets that are required together are not mixed up. -/
theorem read_both {left right l r : Condition} (hl : ReadsAs left l) (hr : ReadsAs right r) :
    read (Condition.both left right).filter = some (.joined .and l r) := by
  have htext : (Condition.both left right).text =
      '(' :: (left.text ++ ')' :: ' ' :: 'A' :: 'N' :: 'D' :: ' ' :: '(' :: (right.text ++ [')'])) := by
    rw [Condition.text_both, List.append_assoc, List.append_assoc]
    rfl
  have htokens : tokens .between (Condition.both left right).text =
      .opening :: (conditionTokens left ++ .closing :: .and :: .opening ::
        (conditionTokens right ++ [.closing])) := by
    rw [htext, tokens, hl.tokens]
    simp [word, words, List.lookup_cons, hr.tokens]
  have hright := hr.reads [.joined .and l] [] []
  rw [List.append_nil] at hright
  rw [read, Condition.filter, htokens, Condition.params, readTokens, hl.reads, readTokens]
  simp only [settle]
  rw [readTokens, hright]
  rfl

section Chain

/-- What a chain of clauses says: one after another is required. -/
def conjunction (c : Condition) (rest : List Clause) : Condition :=
  rest.foldl (fun c d => .joined .and c (.clause d)) c

/-- Clauses that are required one after another bind to the left, up to the closing bracket. -/
theorem readTokens_clauses (pending : List Pending) (c : Condition) (rest : List Clause)
    (values : List Value) (after : List Token) :
    readTokens (.group :: pending) (some c) (rest.flatMap Clause.params ++ values)
      (rest.flatMap (fun c => .and :: clauseTokens c) ++ .closing :: after) =
        readTokens pending (some (conjunction c rest)) values after := by
  induction rest generalizing c with
  | nil => exact readTokens_closing pending c values after
  | cons d rest ih =>
    have hclause := ReadsBack.of_enclosed (.clause d) (.joined .and c :: .group :: pending)
      (rest.flatMap Clause.params ++ values)
      (rest.flatMap (fun c => .and :: clauseTokens c) ++ .closing :: after)
    rw [Condition.params, conditionTokens] at hclause
    simp only [List.flatMap_cons, List.cons_append, List.append_assoc, readTokens, settle,
      Pending.completesBefore, Bool.false_eq_true, if_false]
    rw [hclause, conjunction, List.foldl_cons, ← conjunction, ← ih]
    -- What comes next, a connective or the bracket, completes the clause first.
    cases rest <;> simp [settle, Pending.completesBefore, Pending.complete]

theorem ReadsAs.chain (first : Clause) (rest : List Clause) :
    ReadsAs (.chain first rest) (conjunction (.clause first) rest) where
  tokens after := by
    have htext : (Condition.chain first rest).text =
        first.text ++ rest.flatMap fun c => " AND ".toList ++ c.text := rfl
    rw [htext, List.append_assoc, tokens_clause, tokens_clauses, conditionTokens, List.append_assoc]
  reads pending values after := by
    have hfirst := ReadsBack.of_enclosed (.clause first) (.group :: pending)
      (rest.flatMap Clause.params ++ values)
      (rest.flatMap (fun c => .and :: clauseTokens c) ++ .closing :: after)
    rw [Condition.params, conditionTokens] at hfirst
    rw [Condition.params, conditionTokens, List.append_assoc, List.append_assoc, hfirst,
      readTokens_clauses]

end Chain

end Sql

theorem Condition.Enclosed.text_ne {c : Condition} (h : c.Enclosed) : c.text ≠ ['1'] := by
  have hhead : ∀ a b : Char, a ≠ b → ∀ rest : List Char, a :: rest ≠ [b] := by simp
  cases h with
  | clause c => exact hhead '"' '1' (by decide) _
  | negation _ => exact hhead '(' '1' (by decide) _
  | conjunction _ _ => exact hhead '(' '1' (by decide) _
  | disjunction _ _ => exact hhead '(' '1' (by decide) _

theorem Condition.text_chain_ne (first : Clause) (rest : List Clause) :
    (Condition.chain first rest).text ≠ ['1'] := by
  have hhead : ∀ s : List Char, '"' :: s ≠ ['1'] := by simp
  exact hhead _

/-- Conditions are required together as their texts and values are. -/
theorem Condition.filter_and_of_text_ne {seen c : Condition} (hs : seen.text ≠ ['1'])
    (hc : c = .always ∨ c.text ≠ ['1']) : (seen.and c).filter = seen.filter.and c.filter := by
  have hseen : seen.filter.text ≠ ['1'] := hs
  rcases hc with rfl | hc
  · have hand : seen.and .always = seen := by cases seen <;> rfl
    have halways : Condition.always.filter.text = ['1'] := rfl
    rw [hand, Filter.and, if_neg hseen, if_pos halways]
  · have hfound : c.filter.text ≠ ['1'] := hc
    have hboth : seen.and c = .both seen c := by
      cases seen <;> cases c <;> first | rfl | exact absurd rfl hs | exact absurd rfl hc
    rw [hboth, Filter.and, if_neg hseen, if_neg hfound]
    rfl

theorem Condition.filter_and {seen c : Condition} (hs : seen = .always ∨ seen.Enclosed)
    (hc : c.Enclosed) : (seen.and c).filter = seen.filter.and c.filter := by
  rcases hs with rfl | hs
  · rfl
  · exact filter_and_of_text_ne hs.text_ne (.inr hc.text_ne)

end Cabinet

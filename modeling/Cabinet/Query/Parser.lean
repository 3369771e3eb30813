import Cabinet.Query.Basic
import Cabinet.Query.Lexer

/-!
Reading a search text as a tree. A clause that is complete waits until the next token shows which
of the operators before it binds it.
-/

namespace Cabinet.Query

/-- What has been read and waits for the clause to the right of it. -/
inductive Pending where
  | negation
  | group
  | joined (connective : Connective) (left : Query)
  | field (name : String)
  deriving Repr

/-- How tightly a token binds a clause before it: `or`, then `and` and neighbours, then
negation. -/
def TokenKind.strength : TokenKind → Nat
  | or => 1
  | not => 3
  | bang => 3
  | closing => 0
  | _ => 2

namespace Pending

/-- Whether the clause to the right is complete before a token that binds with a strength. -/
def completesBefore (strength : Nat) : Pending → Bool
  | negation => strength < 3
  | group => false
  | joined .and _ => strength ≤ 2
  | joined _ _ => strength ≤ 1
  | field _ => false

/-- The clause with what waited for it. -/
def complete (operand : Query) : Pending → Query
  | negation => .negation operand
  | group => .group operand
  | joined connective left => .joined connective left operand
  | field _ => operand

end Pending

/-- Completes what a token of some strength leaves no longer waiting. -/
def settle (strength : Nat) : List Pending → Query → List Pending × Query
  | [], q => ([], q)
  | p :: rest, q =>
    if p.completesBefore strength then settle strength rest (p.complete q) else (p :: rest, q)

/-- A reading under way: what waits, the nearest first, and the clause that has been read last. -/
structure Reading where
  pending : List Pending
  clause? : Option Query
  deriving Repr

namespace Reading

/-- The token cannot stand here. -/
def refuse (t : Token) : Except Error Reading :=
  .error (.tokenUnexpected (String.ofList t.value) t.position)

/-- A value, which belongs to the field before it if there is one. -/
def takeValue (pending : List Pending) (text : List Char) (regex : Bool) : Reading :=
  match pending with
  | .field name :: rest => ⟨rest, some (.field name (String.ofList text) regex)⟩
  | _ => ⟨pending, some (.term (String.ofList text) regex)⟩

/-- A token where a clause begins. -/
def beginClause (pending : List Pending) (t : Token) : Except Error Reading :=
  match t.kind with
  | .not => .ok ⟨.negation :: pending, none⟩
  | .bang => .ok ⟨.negation :: pending, none⟩
  | .opening => .ok ⟨.group :: pending, none⟩
  | .field => .ok ⟨.field (String.ofList t.value) :: pending, none⟩
  | .term => .ok (takeValue pending t.value false)
  | .phrase => .ok (takeValue pending t.value false)
  | .regex => .ok (takeValue pending t.value true)
  | _ => refuse t

/-- A token after a clause: neighbours are joined like clauses with `and` between them. -/
def afterClause (pending : List Pending) (q : Query) (t : Token) : Except Error Reading :=
  let (rest, q) := settle t.kind.strength pending q
  match t.kind with
  | .and => .ok ⟨.joined .and q :: rest, none⟩
  | .or => .ok ⟨.joined .or q :: rest, none⟩
  | .closing =>
    match rest with
    | .group :: rest => .ok ⟨rest, some (.group q)⟩
    | _ => refuse t
  | _ => beginClause (.joined .and q :: rest) t

def step (r : Reading) (t : Token) : Except Error Reading :=
  match r.clause? with
  | none => beginClause r.pending t
  | some q => afterClause r.pending q t

/-- The tree at the end of the text. -/
def finish (r : Reading) : Except Error Query :=
  match r.clause? with
  | none => .error .queryUnfinished
  | some q =>
    match settle 0 r.pending q with
    | ([], q) => .ok q
    | _ => .error .queryUnfinished

end Reading

/-- Reads tokens and what comes after them: the end of the text, or a fault. -/
def readFrom (r : Reading) : List Token → Option Error → Except Error Query
  | [], none => r.finish
  | [], some fault => .error fault
  | t :: rest, fault => do
    let r ← r.step t
    readFrom r rest fault

/-- The tree of a search text. -/
def parse (s : List Char) : Except Error Query :=
  let (tokens, fault) := tokensFrom .clause 0 s
  readFrom ⟨[], none⟩ tokens fault

end Cabinet.Query

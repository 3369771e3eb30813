import Cabinet.Proofs.Query.Grammar

/-!
The search language without its precedences: a negation may be of more than one clause, and whatever
is joined may be grouped either way, so that one text may have many trees. The texts are the same as
with the precedences.
-/

namespace Cabinet.Query

/-- What stands between two clauses that a connective joins. -/
inductive Joins : Connective → List Token → Prop where
  | and {between : List Token} (h : Between between) : Joins .and between
  | or {t : Token} (h : t.kind = .or) : Joins .or [t]

/-- The tokens are a search, and the tree is one of those that they may be read as. -/
inductive Derives : List Token → Query → Prop where
  | value {t : Token} {regex : Bool} (h : t.kind.regex? = some regex) :
    Derives [t] (.term (String.ofList t.value) regex)
  | field {f t : Token} {regex : Bool} (hf : f.kind = .field) (h : t.kind.regex? = some regex) :
    Derives [f, t] (.field (String.ofList f.value) (String.ofList t.value) regex)
  | group {o c : Token} {tokens : List Token} {q : Query} (ho : o.kind = .opening)
    (hc : c.kind = .closing) (h : Derives tokens q) : Derives (o :: (tokens ++ [c])) (.group q)
  | negation {n : Token} {tokens : List Token} {q : Query} (hn : n.kind.negates = true)
    (h : Derives tokens q) : Derives (n :: tokens) (.negation q)
  | joined {c : Connective} {left between right : List Token} {p q : Query} (hl : Derives left p)
    (hj : Joins c between) (hr : Derives right q) :
    Derives (left ++ (between ++ right)) (.joined c p q)

/-- The precedences choose among trees and refuse no text. -/
theorem Derives.readable {tokens : List Token} {q : Query} (h : Derives tokens q) :
    Readable tokens := by
  induction h with
  | value h => exact (Reads.value h).readable
  | field hf h => exact (Reads.field hf h).readable
  | group ho hc _ ih => exact ih.elim fun _ h => (Reads.group ho hc h).readable
  | negation hn _ ih => exact ih.negation hn
  | joined _ hj _ ihl ihr =>
    cases hj with
    | and hb => exact ihl.join ihr (.inl hb)
    | @or o ho => exact ihl.join ihr (.inr ⟨o, rfl, ho⟩)

/-- What a search is written with, apart from how it is grouped. -/
inductive Sign where
  | value (name? : Option String) (text : String) (regex : Bool)
  | negation
  | opening
  | closing
  | connective (c : Connective)
  deriving DecidableEq, Repr

/-- The sign between a clause and a neighbour that ended before it. -/
def neighbour (ended : Bool) : List Sign :=
  if ended then [.connective .and] else []

/-- What tokens say one by one, after a clause that ended or not and a name that waits for its
value or none. -/
def signsFrom (ended : Bool) (name? : Option String) : List Token → List Sign
  | [] => []
  | t :: rest =>
    match t.kind with
    | .and => .connective .and :: signsFrom false none rest
    | .or => .connective .or :: signsFrom false none rest
    | .closing => .closing :: signsFrom true none rest
    | .opening => neighbour ended ++ .opening :: signsFrom false none rest
    | .not => neighbour ended ++ .negation :: signsFrom false none rest
    | .bang => neighbour ended ++ .negation :: signsFrom false none rest
    | .field => neighbour ended ++ signsFrom false (some (String.ofList t.value)) rest
    | .term => neighbour ended ++ .value name? (String.ofList t.value) false :: signsFrom true none rest
    | .phrase =>
      neighbour ended ++ .value name? (String.ofList t.value) false :: signsFrom true none rest
    | .regex => neighbour ended ++ .value name? (String.ofList t.value) true :: signsFrom true none rest

/-- The signs of a tree from left to right. -/
def signs : Query → List Sign
  | term text regex => [.value none text regex]
  | field name text regex => [.value (some name) text regex]
  | negation operand => .negation :: operand.signs
  | group body => .opening :: (body.signs ++ [.closing])
  | joined c left right => left.signs ++ .connective c :: right.signs
  | unknown _ => []

section

variable {ended : Bool} {name? : Option String} {t n : Token} {rest : List Token}

theorem signsFrom_value {regex : Bool} (h : t.kind.regex? = some regex) :
    signsFrom ended name? (t :: rest) =
      neighbour ended ++ .value name? (String.ofList t.value) regex :: signsFrom true none rest := by
  cases hk : t.kind <;> simp_all [TokenKind.regex?, signsFrom]

theorem signsFrom_field (hf : t.kind = .field) :
    signsFrom ended name? (t :: rest) =
      neighbour ended ++ signsFrom false (some (String.ofList t.value)) rest := by
  simp [signsFrom, hf]

theorem signsFrom_negates (hn : n.kind.negates = true) :
    signsFrom ended name? (n :: rest) =
      neighbour ended ++ .negation :: signsFrom false none rest := by
  cases hk : n.kind <;> simp_all [TokenKind.negates, signsFrom]

end

/-- Whichever way tokens are read as a tree, the tree has the signs that they say. -/
theorem Derives.signsFrom_append {tokens : List Token} {q : Query} (h : Derives tokens q)
    (ended : Bool) (rest : List Token) : signsFrom ended none (tokens ++ rest) =
      neighbour ended ++ (q.signs ++ signsFrom true none rest) := by
  induction h generalizing ended rest with
  | value h => exact signsFrom_value h
  | field hf h =>
    simp only [List.cons_append, List.nil_append, signsFrom_field hf, signsFrom_value h, signs]
    simp [neighbour]
  | group ho hc _ ih => simp [signsFrom, ho, hc, ih, signs, neighbour]
  | negation hn _ ih =>
    rw [List.cons_append, signsFrom_negates hn, ih]
    simp [signs, neighbour]
  | @joined c left between right p q _ hj _ ihl ihr =>
    have hbetween : signsFrom true none (between ++ (right ++ rest)) =
        .connective c :: (q.signs ++ signsFrom true none rest) := by
      cases hj with
      | and hb =>
        cases hb with
        | neighbours => simp [ihr, neighbour]
        | and ht => simp [signsFrom, ht, ihr, neighbour]
      | or ht => simp [signsFrom, ht, ihr, neighbour]
    simp [ihl, hbetween, signs]

end Cabinet.Query

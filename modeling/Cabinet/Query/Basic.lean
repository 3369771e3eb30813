/-!
Search trees.
-/

namespace Cabinet

/-- A word that joins two clauses; the search language has the first two. -/
inductive Connective where
  | and
  | or
  | other (word : String)
  deriving DecidableEq, Repr

/-- A search: terms about the title, terms about a named field, and their combinations. A term is a
part of the text to find, or a regular expression where `regex` holds; `unknown` is what no search
text gives. -/
inductive Query where
  | term (text : String) (regex : Bool)
  | field (name text : String) (regex : Bool)
  | negation (operand : Query)
  | group (body : Query)
  | joined (connective : Connective) (left right : Query)
  | unknown (text : String)
  deriving DecidableEq, Repr, Inhabited

namespace Query

def depth : Query → Nat
  | term .. => 1
  | field .. => 1
  | negation operand => operand.depth + 1
  | group body => body.depth + 1
  | joined _ left right => max left.depth right.depth + 1
  | unknown _ => 1

end Query

end Cabinet

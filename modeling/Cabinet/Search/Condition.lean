import Cabinet.Query.Basic
import Cabinet.Sql.Name
import Cabinet.Value

/-!
Conditions on rows, their text with a question mark in each place of a value, and the values.
-/

namespace Cabinet

inductive Comparison where
  | equal
  | less
  | atMost
  | greater
  | atLeast
  deriving DecidableEq, Repr

def Comparison.symbol : Comparison → List Char
  | equal => ['=']
  | less => ['<']
  | atMost => ['<', '=']
  | greater => ['>']
  | atLeast => ['>', '=']

/-- A condition on one column. A pattern of `like` has `%` for any text and `_` for any character,
and a backslash before a character that stands for itself. -/
inductive Clause where
  | like (column : String) (pattern : List Char)
  | regexp (column : String) (pattern : String)
  | compare (column : String) (comparison : Comparison) (value : Value)
  | between (column : String) (low high : Int)

/-- A condition on a row. `chain` and `both` differ from `joined` in the brackets they are
written with. -/
inductive Condition where
  | always
  | clause (c : Clause)
  | negation (operand : Condition)
  | joined (connective : Connective) (left right : Condition)
  | chain (first : Clause) (rest : List Clause)
  | both (left right : Condition)

namespace Clause

def column : Clause → String
  | like column _ => column
  | regexp column _ => column
  | compare column _ _ => column
  | between column _ _ => column

/-- What is written after the name of the column. -/
def test : Clause → List Char
  | like .. => " LIKE ? ESCAPE '\\'".toList
  | regexp .. => " REGEXP ?".toList
  | compare _ comparison _ => ' ' :: comparison.symbol ++ [' ', '?']
  | between .. => " BETWEEN ? AND ?".toList

def text (c : Clause) : List Char :=
  Sql.quoteName c.column.toList ++ c.test

def params : Clause → List Value
  | like _ pattern => [.text (String.ofList pattern)]
  | regexp _ pattern => [.text pattern]
  | compare _ _ value => [value]
  | between _ low high => [.int low, .int high]

end Clause

/-- The word of a connective in a condition. -/
def Connective.keyword : Connective → List Char
  | and => "AND".toList
  | or => "OR".toList
  | other word => word.toList

namespace Condition

def text : Condition → List Char
  | always => ['1']
  | clause c => c.text
  | negation operand => "(NOT ".toList ++ operand.text ++ [')']
  | joined connective left right =>
    '(' :: left.text ++ ' ' :: connective.keyword ++ ' ' :: right.text ++ [')']
  | chain first rest => first.text ++ rest.flatMap fun c => " AND ".toList ++ c.text
  | both left right => '(' :: left.text ++ ") AND (".toList ++ right.text ++ [')']

def params : Condition → List Value
  | always => []
  | clause c => c.params
  | negation operand => operand.params
  | joined _ left right => left.params ++ right.params
  | chain first rest => first.params ++ rest.flatMap Clause.params
  | both left right => left.params ++ right.params

/-- Requires both conditions, without a trace of one that always holds. -/
def and : Condition → Condition → Condition
  | always, c => c
  | c, always => c
  | c, d => both c d

end Condition

/-- A condition as text, with the values for its question marks in order. -/
structure Filter where
  text : List Char
  params : List Value

namespace Filter

def all : Filter := ⟨['1'], []⟩

/-- Requires both filters, without a trace of one that lets all rows pass. -/
def and (a b : Filter) : Filter :=
  if a.text = ['1'] then b
  else if b.text = ['1'] then a
  else ⟨'(' :: a.text ++ ") AND (".toList ++ b.text ++ [')'], a.params ++ b.params⟩

end Filter

def Condition.filter (c : Condition) : Filter :=
  ⟨c.text, c.params⟩

end Cabinet

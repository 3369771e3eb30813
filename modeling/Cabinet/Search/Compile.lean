import Cabinet.Query.Parser
import Cabinet.Search.Field
import Cabinet.Search.Literal

/-!
From a search text to a condition on rows.
-/

namespace Cabinet.Search

/-- The column that is searched where no field is named. -/
def titleColumn : String := "title"

/-- The condition of a term in a column of some type. -/
def termClause (column : String) (type : ColumnType) (text : String) (regex : Bool) :
    Except Error Clause :=
  let s := text.toList
  if regex then .ok (.regexp column text)
  else
    match type with
    | .other _ => .error .noSuchPart
    | .boolean =>
      match truthValue? s with
      | some b => .ok (.compare column .equal (.int b))
      | none => .ok ((numericClause? column s).getD (partClause column s))
    | .date => .ok (((dayClause? column s).or (numericClause? column s)).getD (partClause column s))
    | _ =>
      if type.isNumeric then .ok ((numericClause? column s).getD (partClause column s))
      else .ok (partClause column s)

/-- The condition of a term in the column of a field, or in the title if no column is meant. -/
def fieldClause (columns : List Column) (name text : String) (regex : Bool) :
    Except Error Clause := do
  match ← resolve columns name.toList with
  | some c => termClause c.name c.type text regex
  | none => termClause titleColumn .string text regex

def capitals : Connective → Connective
  | .other word => .other (String.ofList (Text.upper word.toList))
  | connective => connective

/-- The condition of a tree. -/
def lower (columns : List Column) : Query → Except Error Condition
  | .term text regex => do
    let c ← termClause titleColumn .string text regex
    return .clause c
  | .field name text regex => do
    let c ← fieldClause columns name text regex
    return .clause c
  | .negation operand => do
    let c ← lower columns operand
    return .negation c
  | .group body => lower columns body
  | .joined connective left right => do
    let l ← lower columns left
    let r ← lower columns right
    return .joined (capitals connective) l r
  | .unknown text => .error (.nodeUnknown text)

/-- Looks for each word of a text in the title. -/
def fallback (text : String) : Condition :=
  match (Text.words text.toList).map (partClause titleColumn) with
  | [] => .always
  | first :: rest => .chain first rest

/-- The depth beyond which trees are not used. -/
def maxDepth : Nat := 950

/-- The tree of a search text, unless it is too deep. -/
def read (text : String) : Except Error Query := do
  let q ← Query.parse text.toList
  if maxDepth < q.depth then .error .queryTooDeep else return q

/-- The condition of a search text. A text that is not in the search language is taken for words of
the title. -/
def compileText (columns : List Column) (text : String) : Except Error Condition :=
  if Text.isAllBlank text.toList then .ok .always
  else
    match read text with
    | .ok q => lower columns q
    | .error _ => .ok (fallback text)

/-- The condition of a search text that may be absent. -/
def compile (columns : List Column) : Value → Except Error Condition
  | .null => .ok .always
  | .text text => compileText columns text
  | _ => .error .noSuchPart

/-- How rows are ordered. -/
inductive RowOrder where
  | random
  | byColumn (column : String) (descending : Bool)

namespace RowOrder

def text : RowOrder → List Char
  | random => "ORDER BY RANDOM()".toList
  | byColumn column descending =>
    "ORDER BY ".toList ++ Sql.quoteName column.toList ++
      (if descending then " DESC" else " ASC").toList

end RowOrder

/-- The order that is asked for: by a column that a reference means, or by the number of the row. -/
def compileOrder (columns : List Column) (sort : Value) (descending random : Bool) :
    Except Error RowOrder :=
  if random then .ok .random
  else if !sort.truthy then .ok (.byColumn "id" descending)
  else
    match sort with
    | .text reference => do
      match ← resolve columns reference.toList with
      | some c => .ok (.byColumn c.name descending)
      | none => .error (.unknownSort sort)
    | _ => .error .noSuchPart

end Cabinet.Search

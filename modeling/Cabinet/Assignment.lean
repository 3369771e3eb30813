import Cabinet.Column.Basic
import Cabinet.Error
import Cabinet.Json.Reader
import Cabinet.Name

/-!
Assignments of values to columns, written as a name, an equals sign and a value.
-/

namespace Cabinet.Assignment

/-- Whether values of a type are written as in a document. -/
def isDecoded : ColumnType → Except Error Bool
  | .other _ => .error .noSuchPart
  | .date => .ok true
  | type => .ok type.isNumeric

/-- The value that a text stands for in a column; a text that cannot be decoded stays as it is. -/
def value (column? : Option Column) (raw : List Char) : Except Error Value := do
  let decoded ←
    match column? with
    | none => pure false
    | some c => isDecoded c.type
  if decoded then
    match Json.read raw with
    | .ok v => return v
    | .error _ => return .text (String.ofList raw)
  else return .text (String.ofList raw)

/-- Reads an assignment: the name as it is written, and the value. -/
def read (columns : Fields Column) (text : String) : Except Error (String × Value) := do
  let s := text.toList
  let key := s.takeWhile (· != '=')
  if key.length = s.length || Text.isAllBlank key then throw (.badAssignment text)
  let name := String.ofList key
  let v ← value (columns.get? (Name.normalize name)) (s.drop (key.length + 1))
  return (name, v)

end Cabinet.Assignment

import Cabinet.Column.Type
import Cabinet.Value

/-!
Columns with their vocabularies and rules, and the columns that every table has.
-/

namespace Cabinet

/-- A tag of a vocabulary. What a stored record holds in these places is kept as it is. -/
structure Tag where
  name : Value
  description : Value := .text ""

/-- A column of a table. Its rule is empty unless it is a custom column. -/
structure Column where
  name : String
  type : ColumnType
  index : Int
  hidden : Bool := false
  tags : List Tag := []
  rule : Value := .text ""

namespace Column

/-- The names of the tags that are texts. -/
def tagNames (c : Column) : List String :=
  c.tags.filterMap (·.name.text?)

def hasTag (c : Column) (name : String) : Bool :=
  c.tagNames.contains name

/-- The columns that every table begins with: their names and types, and whether they are hidden. -/
def protectedColumns : List (String × ColumnType × Bool) :=
  [("id", .integer, false), ("title", .string, false), ("content", .richText, false),
    ("date_created", .date, false), ("date_modified", .date, false), ("hidden", .boolean, true)]

def protectedNames : List String :=
  protectedColumns.map (·.1)

def isProtected (c : Column) : Bool :=
  protectedNames.contains c.name

/-- The protected columns at their places. -/
def protectedDefinitions : List Column :=
  protectedColumns.zipIdx.map fun ((name, type, hidden), index) => { name, type, index, hidden }

end Column

/-- The range of the integers that are stored. -/
def minInteger : Int := -Nat.pow 2 63

def maxInteger : Int := Nat.pow 2 63 - 1

def isStorable (n : Int) : Bool :=
  minInteger ≤ n && n ≤ maxInteger

end Cabinet

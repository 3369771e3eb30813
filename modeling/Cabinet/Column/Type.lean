import Cabinet.Text.Blank
import Cabinet.Text.Case

/-!
The types that a column may have.
-/

namespace Cabinet

/-- The classes of physical columns. -/
inductive StorageType where
  | text
  | integer
  | real
  deriving DecidableEq, Repr

def StorageType.keyword : StorageType → String
  | text => "TEXT"
  | integer => "INTEGER"
  | real => "REAL"

/-- The type of a column. The types up to `link` are the catalog; `other` is a type by its name
that the catalog does not have. -/
inductive ColumnType where
  | string
  | richText
  | boolean
  | integer
  | float
  | date
  | rating
  | advancedRating
  | singleTag
  | multiTag
  | custom
  | link
  | other (name : String)
  deriving DecidableEq, Repr

namespace ColumnType

/-- The types that columns can be given, in the order in which they are listed. -/
def catalog : List ColumnType :=
  [string, richText, boolean, integer, float, date, rating, advancedRating, singleTag, multiTag,
    custom, link]

def label : ColumnType → String
  | string => "string"
  | richText => "rich_text"
  | boolean => "boolean"
  | integer => "integer"
  | float => "float"
  | date => "date"
  | rating => "rating"
  | advancedRating => "advanced_rating"
  | singleTag => "single_tag"
  | multiTag => "multi_tag"
  | custom => "custom"
  | link => "link"
  | other name => name

def isOther : ColumnType → Bool
  | other _ => true
  | _ => false

/-- The class of the physical column: dates are milliseconds, tags and links are text. -/
def storage : ColumnType → StorageType
  | boolean => .integer
  | integer => .integer
  | date => .integer
  | rating => .integer
  | float => .real
  | advancedRating => .real
  | _ => .text

/-- Whether values are drawn from a vocabulary of tags. -/
def isTag : ColumnType → Bool
  | singleTag => true
  | multiTag => true
  | _ => false

/-- Whether search terms are compared as numbers. -/
def isNumeric : ColumnType → Bool
  | integer => true
  | float => true
  | rating => true
  | advancedRating => true
  | boolean => true
  | _ => false

/-- The type of the catalog that has a label. -/
def ofLabel? (label : String) : Option ColumnType :=
  catalog.find? (·.label == label)

/-- The type that a text names, without regard to case and to blanks around it. -/
def read? (text : String) : Option ColumnType :=
  ofLabel? (String.ofList (Text.lower (Text.trim text.toList)))

/-- The labels of the catalog, for messages. -/
def labels : String :=
  ", ".intercalate (catalog.map label)

end ColumnType

end Cabinet

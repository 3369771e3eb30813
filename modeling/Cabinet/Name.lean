import Cabinet.Text.Blank
import Cabinet.Text.Case
import Cabinet.Text.Digit

/-!
Names of tables, columns and tags, and ids of databases.
-/

namespace Cabinet

namespace Name

/-- The form in which names are compared: no blanks at the ends, lower case, and one underscore for
each run of blanks. -/
def normalizeChars (s : List Char) : List Char :=
  Text.collapseBlanks '_' (Text.lower (Text.trim s))

def normalize (name : String) : String :=
  String.ofList (normalizeChars name.toList)

/-- Puts one underscore in place of each run of characters other than `a` to `z` and digits. -/
def keepPlain : List Char → List Char
  | [] => []
  | c :: rest =>
    if ('a' ≤ c && c ≤ 'z') || Text.isAsciiDigit c then c :: keepPlain rest
    else
      match keepPlain rest with
      | '_' :: kept => '_' :: kept
      | kept => '_' :: kept

/-- The longest id that a display name gives. -/
def maxIdLength : Nat := 30

/-- The start of the id of a database with a display name. -/
def sanitize (displayName : String) : String :=
  String.ofList ((keepPlain (Text.lower displayName.toList)).take maxIdLength)

/-- The id of a database that gets its display name at a time in milliseconds. -/
def databaseId (displayName : String) (ms : Int) : String :=
  sanitize displayName ++ "_" ++ String.ofList (Text.intText ms)

end Name

end Cabinet

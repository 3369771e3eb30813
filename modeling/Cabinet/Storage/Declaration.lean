import Cabinet.Storage.Sheet

/-!
Stored tables from declarations of their columns, such as `INTEGER NOT NULL DEFAULT 0`.
-/

namespace Cabinet.Storage

/-- Whether a text occurs in another. -/
def occursIn (part : List Char) : List Char → Bool
  | [] => part.isEmpty
  | c :: rest => part.isPrefixOf (c :: rest) || occursIn part rest

/-- The class of values that a column of a declared type prefers, by what is in the name of the
type. -/
def Affinity.ofType (type : List Char) : Affinity :=
  let has (part : String) := occursIn part.toList type
  if has "INT" then .integer
  else if has "CHAR" || has "CLOB" || has "TEXT" then .text
  else if has "BLOB" || type.isEmpty then .none
  else if has "REAL" || has "FLOA" || has "DOUB" then .real
  else .numeric

/-- Words that end the name of a type. -/
def constraintWords : List String :=
  ["PRIMARY", "NOT", "DEFAULT", "UNIQUE", "CHECK", "COLLATE", "REFERENCES", "CONSTRAINT"]

/-- The word after another one. -/
def wordAfter? (word : String) : List String → Option String
  | a :: b :: rest => if a == word then some b else wordAfter? word (b :: rest)
  | _ => none

/-- A default value as it is declared. -/
def defaultCell (word : String) : Cell :=
  match Cell.number? word.toList with
  | some c => c
  | none => if word == "NULL" then .null else .text (word.replace "'" "")

/-- A column from its declaration. -/
def SheetColumn.ofDeclaration (name declaration : String) : SheetColumn :=
  let words := (Text.words declaration.toList).map String.ofList
  let capitals := words.map fun w => String.ofList (w.toList.map Char.toUpper)
  let type := capitals.takeWhile (!constraintWords.contains ·)
  let affinity := Affinity.ofType (" ".intercalate type).toList
  { name, affinity
    required := wordAfter? "NOT" capitals == some "NULL"
    default :=
      ((wordAfter? "DEFAULT" words).map fun w => (defaultCell w).convert affinity).getD .null
    isKey := type == ["INTEGER"] && wordAfter? "PRIMARY" capitals == some "KEY" }

/-- A table from the declarations of its columns. -/
def Sheet.ofDeclarations (name : String) (columns : List (String × String)) : Sheet where
  name
  columns := columns.map fun (column, declaration) => .ofDeclaration column declaration
  isCounted := columns.any fun (_, declaration) =>
    (Text.words declaration.toList).contains "AUTOINCREMENT".toList

end Cabinet.Storage

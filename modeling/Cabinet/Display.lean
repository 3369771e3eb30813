import Cabinet.Number.Scientific
import Cabinet.Value

/-!
Values and rows as they are printed.
-/

namespace Cabinet.Display

def defaultWidth : Int := 40

/-- The characters before a position, which counts back from the end if it is negative. -/
def before (position : Int) (s : List Char) : List Char :=
  s.take (if position < 0 then s.length + position else position).toNat

/-- A text that is cut short where it is wider than it may be. -/
def shorten (width : Int) (s : List Char) : List Char :=
  if width < s.length then before (width - 3) s ++ "...".toList else s

/-- A value as it is printed. -/
def valueText (width : Int) : Value → List Char
  | .null => "NULL".toList
  | .bool b => (if b then "true" else "false").toList
  | .float x => x.briefText
  | v => shorten width v.plain

/-- A text with spaces after it up to a width. -/
def pad (width : Nat) (s : List Char) : List Char :=
  s ++ List.replicate (width - s.length) ' '

/-- The text of a row in a column. -/
def cellText (row : Fields Value) (column : String) : List Char :=
  valueText defaultWidth ((row.get? column).getD .null)

/-- The width of a column: that of the widest text in it. -/
def columnWidth (rows : List (Fields Value)) (column : String) : Nat :=
  (rows.map fun row => (cellText row column).length).foldl max column.length

/-- Texts side by side, each as wide as its column. -/
def line (rows : List (Fields Value)) (texts : List (String × List Char)) : List Char :=
  " | ".toList.intercalate (texts.map fun (column, s) => pad (columnWidth rows column) s)

/-- The lines of a table: names, a rule, rows, and their number. -/
def tableLines (columns : List String) (rows : List (Fields Value)) : List (List Char) :=
  if rows.isEmpty then ["(no results)".toList]
  else
    let header := line rows (columns.map fun column => (column, column.toList))
    [header, List.replicate header.length '-'] ++
      rows.map (fun row => line rows (columns.map fun column => (column, cellText row column))) ++
      [[], '(' :: Text.natText rows.length ++
        (if rows.length = 1 then " row)" else " rows)").toList]

/-- Lines with their ends. -/
def linesText (lines : List (List Char)) : List Char :=
  lines.flatMap (· ++ ['\n'])

/-- The text of a table. -/
def tableText (columns : List String) (rows : List (Fields Value)) : List Char :=
  linesText (tableLines columns rows)

end Cabinet.Display

import Cabinet.Databases
import Cabinet.Rows

/-!
A walk through the library: a list of books with pages, genres and scores is made and searched, and
the files that it is kept in are named.
-/

namespace Cabinet.ReadingList

open Operation

def folders : Folders where
  data := "example_data"
  backup := "backup"

def table : String := "entries"

/-- The columns beside those that every table has. -/
def columns : List (String × String) :=
  [("pages", "integer"), ("genre", "multi_tag"), ("score", "rating")]

def genres : List String := ["fantasy", "history", "poetry", "science"]

structure Book where
  title : String
  pages : Int
  genre : String
  score : Int
  deriving DecidableEq, Repr

def books : List Book :=
  [⟨"The Hobbit", 310, "fantasy", 5⟩, ⟨"SPQR", 608, "history", 4⟩,
    ⟨"The Odyssey", 541, "poetry history", 5⟩, ⟨"Cosmos", 396, "science", 4⟩]

def Book.row (b : Book) : List (String × Value) :=
  [("title", .text b.title), ("pages", .int b.pages), ("genre", .text b.genre),
    ("score", .int b.score)]

def queries : List String :=
  ["pages:>500", "genre:history !genre:poetry", "score:5 OR cosmos", "i1:/^The/"]

/-- The text of what a row holds in a column. -/
def cellText (row : Fields Storage.Cell) (column : String) : String :=
  Error.plainText (((row.get? column).getD .null).toValue)

/-- Makes the database, and answers with its id. -/
def build : Operation String := do
  let r ← Databases.create folders (.text "Reading List") (.text "")
  let id := Error.plainText r.id
  columns.forM fun (name, type) => do
    let _ ← Schema.addColumn folders id table (.text name) (.text type) false none
  genres.forM fun tag => do
    let _ ← Schema.addTag folders id table "genre" (.text tag) (.text "")
  return id

/-- Adds a book, and tells of it. -/
def addBook (id : String) (b : Book) : Operation String := do
  let row ← Rows.create folders id table b.row
  return "  Created: [" ++ cellText row "id" ++ "] " ++ cellText row "title"

/-- Searches, and tells how many books there are and which. -/
def find (id query : String) : Operation (List String) := do
  let found ← Rows.search folders id table { query := .text query, sort := .text "title" }
  let titles := found.rows.map (cellText · "title")
  return ["",
    Error.quote query ++ ": " ++ toString found.filtered ++ " of " ++ toString found.total,
    "  " ++ ", ".intercalate titles]

/-- A file with its size; stored tables have none of their own. -/
def fileLine (name : String) : File → String
  | .text s => "  " ++ name ++ " (" ++ toString (String.ofList s).utf8ByteSize ++ " bytes)"
  | _ => "  " ++ name ++ " (SIZE)"

/-- The files of the database, in the order of their names. -/
def fileLines : Operation (List String) := do
  let files := (← get).files
  return (files.namesIn folders.data).filterMap fun name =>
    (files.get? ⟨folders.data, name⟩).map (fileLine name)

/-- The lines that the walk prints. -/
def lines : Operation (List String) := do
  let id ← build
  let created ← books.mapM (addBook id)
  let found ← queries.mapM (find id)
  let files ← fileLines
  return ["Creating rows..."] ++ created ++ found.flatten ++
    ["", "Files created in " ++ folders.data ++ ":"] ++ files ++
    ["", "You can keep working with this data from the command line:",
      "  tagged-tables --data-dir " ++ folders.data ++ " search " ++ id ++ " " ++ table ++
        " genre:fantasy"]

/-- The text that the walk prints in an empty workspace at a time in milliseconds. -/
def text (time : Int) : Except Error String := do
  let lines ← (lines.run.run { time }).1
  return String.join (lines.map (· ++ "\n"))

end Cabinet.ReadingList

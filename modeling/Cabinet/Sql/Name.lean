/-!
Names in statements.
-/

namespace Cabinet.Sql

/-- A name in double quotation marks, where a quotation mark inside is doubled. -/
def quoteName (name : List Char) : List Char :=
  '"' :: name.flatMap (fun c => if c = '"' then ['"', '"'] else [c]) ++ ['"']

end Cabinet.Sql

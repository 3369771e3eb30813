import Cabinet.Text.Digit
import Cabinet.Text.Letter

/-!
Text in quotation marks, with escapes for what has no glyph.
-/

namespace Cabinet.Text

/-- A character inside quotation marks of the given kind. -/
def quotedChar (quote c : Char) : List Char :=
  if c = quote ∨ c = '\\' then ['\\', c]
  else if c = '\n' then ['\\', 'n']
  else if c = '\r' then ['\\', 'r']
  else if c = '\t' then ['\\', 't']
  else if isShown c then [c]
  else if c.toNat < 0x100 then '\\' :: 'x' :: paddedHex 2 c.toNat
  else if c.toNat < 0x10000 then '\\' :: 'u' :: paddedHex 4 c.toNat
  else '\\' :: 'U' :: paddedHex 8 c.toNat

/-- Single quotation marks, unless the text holds one of them and no double one. -/
def quotationMark (s : List Char) : Char :=
  if s.contains '\'' && !s.contains '"' then '"' else '\''

/-- A text in quotation marks. -/
def quoted (s : List Char) : List Char :=
  let quote := quotationMark s
  quote :: s.flatMap (quotedChar quote) ++ [quote]

end Cabinet.Text

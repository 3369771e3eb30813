import Cabinet.Text.WordTable
import Cabinet.Text.HiddenTable
import Cabinet.Text.IdentifierTable

/-!
Words, identifiers, and characters that can be shown.
-/

namespace Cabinet.Text

/-- Letters, numerals and the underscore. -/
def isWordChar (c : Char) : Bool :=
  if c.toNat < 128 then c.isAlphanum || c == '_' else wordChars.contains c

/-- Letters alone, without numerals. -/
def isLetter (c : Char) : Bool :=
  if c.toNat < 128 then c.isAlpha
  else wordChars.contains c && !numeralChars.contains c

/-- Whether the character is shown as itself in quoted text. -/
def isShown (c : Char) : Bool :=
  if c.toNat < 128 then 32 ≤ c.toNat && c.toNat < 127 else !hiddenChars.contains c

/-- Whether the character may stand after the first place of an identifier. -/
def continuesIdentifier (c : Char) : Bool :=
  if c.toNat < 128 then c.isAlphanum || c == '_'
  else (wordChars.contains c && !wordOnlyChars.contains c) || markChars.contains c

/-- Whether the character may begin an identifier. -/
def beginsIdentifier (c : Char) : Bool :=
  if c.toNat < 128 then c.isAlpha || c == '_'
  else continuesIdentifier c && !continuingChars.contains c

def isIdentifier : List Char → Bool
  | [] => false
  | c :: rest => beginsIdentifier c && rest.all continuesIdentifier

end Cabinet.Text

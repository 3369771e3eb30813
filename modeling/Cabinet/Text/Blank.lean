/-!
Blank characters, trimming, and the words between them.
-/

namespace Cabinet.Text

/-- Spaces of every script, line ends, and the separator controls `1C` to `1F`. -/
def isBlank (c : Char) : Bool :=
  let n := c.toNat
  (9 ≤ n && n ≤ 13) || (28 ≤ n && n ≤ 32) || n == 0x85 || n == 0xA0 || n == 0x1680 ||
    (0x2000 ≤ n && n ≤ 0x200A) || n == 0x2028 || n == 0x2029 || n == 0x202F ||
    n == 0x205F || n == 0x3000

def trimLeft (s : List Char) : List Char :=
  s.dropWhile isBlank

def trimRight (s : List Char) : List Char :=
  s.reverse.dropWhile isBlank |>.reverse

/-- Drops the blanks at both ends. -/
def trim (s : List Char) : List Char :=
  trimRight (trimLeft s)

/-- The word that a text begins with, if no blank stands first, and the words after it. -/
def firstAndWords : List Char → List Char × List (List Char)
  | [] => ([], [])
  | c :: rest =>
    let (word, others) := firstAndWords rest
    if isBlank c then ([], if word.isEmpty then others else word :: others)
    else (c :: word, others)

/-- The maximal runs of characters that are not blank, in order. -/
def words (s : List Char) : List (List Char) :=
  let (word, others) := firstAndWords s
  if word.isEmpty then others else word :: others

/-- Whether nothing but blanks is there. -/
def isAllBlank (s : List Char) : Bool :=
  s.all isBlank

/-- Puts one separator in place of each run of blanks. -/
def collapseBlanks (separator : Char) : List Char → List Char
  | [] => []
  | c :: rest =>
    if isBlank c then
      if (rest.head?.map isBlank).getD false then collapseBlanks separator rest
      else separator :: collapseBlanks separator rest
    else c :: collapseBlanks separator rest

/-- Joins pieces with a separator between neighbours. -/
def join (separator : List Char) (pieces : List (List Char)) : List Char :=
  separator.intercalate pieces

end Cabinet.Text

import Cabinet.Value

/-!
Writing a JSON text: every field and item on a line of its own, and ASCII characters alone.
-/

namespace Cabinet.Json

/-- A code unit as an escape. -/
def unitEscape (unit : Nat) : List Char :=
  '\\' :: 'u' :: Text.paddedHex 4 unit

/-- A character inside a string; beyond the basic plane it is a pair of code units. -/
def escaped (c : Char) : List Char :=
  if c = '"' then ['\\', '"']
  else if c = '\\' then ['\\', '\\']
  else if c = '\n' then ['\\', 'n']
  else if c = '\r' then ['\\', 'r']
  else if c = '\t' then ['\\', 't']
  else if c = '\x08' then ['\\', 'b']
  else if c = '\x0c' then ['\\', 'f']
  else if 32 ≤ c.toNat ∧ c.toNat < 127 then [c]
  else if c.toNat < 0x10000 then unitEscape c.toNat
  else
    let n := c.toNat - 0x10000
    unitEscape (0xD800 + n / 0x400) ++ unitEscape (0xDC00 + n % 0x400)

def stringText (s : List Char) : List Char :=
  '"' :: s.flatMap escaped ++ ['"']

def numberText : Binary64 → List Char :=
  Binary64.textWith Binary64.plainLayout Scientific.shortest "NaN".toList "Infinity".toList

/-- A new line at a depth, with two spaces for each level. -/
def newLine (depth : Nat) : List Char :=
  '\n' :: List.replicate (2 * depth) ' '

mutual

/-- A value whose first line is at a depth. -/
def text (depth : Nat) : Value → List Char
  | .null => "null".toList
  | .bool b => (if b then "true" else "false").toList
  | .int n => Text.intText n
  | .float x => numberText x
  | .text s => stringText s.toList
  | .list [] => "[]".toList
  | .list (v :: rest) =>
    '[' :: newLine (depth + 1) ++ text (depth + 1) v ++ itemsText (depth + 1) rest ++
      newLine depth ++ [']']
  | .object [] => ['\x7b', '\x7d']
  | .object ((key, v) :: rest) =>
    '\x7b' :: newLine (depth + 1) ++ stringText key.toList ++ ':' :: ' ' :: text (depth + 1) v ++
      fieldsText (depth + 1) rest ++ newLine depth ++ ['\x7d']

def itemsText (depth : Nat) : List Value → List Char
  | [] => []
  | v :: rest => ',' :: newLine depth ++ text depth v ++ itemsText depth rest

def fieldsText (depth : Nat) : List (String × Value) → List Char
  | [] => []
  | (key, v) :: rest =>
    ',' :: newLine depth ++ stringText key.toList ++ ':' :: ' ' :: text depth v ++
      fieldsText depth rest

end

def write (v : Value) : List Char :=
  text 0 v

mutual

/-- Whether every integer of a value is short enough to be written. -/
def isWritable : Value → Bool
  | .int n => (Text.natText n.natAbs).length ≤ Text.maxIntegerDigits
  | .list items => areWritable items
  | .object fields => fieldsAreWritable fields
  | _ => true

def areWritable : List Value → Bool
  | [] => true
  | v :: rest => isWritable v && areWritable rest

def fieldsAreWritable : List (String × Value) → Bool
  | [] => true
  | (_, v) :: rest => isWritable v && fieldsAreWritable rest

end

end Cabinet.Json

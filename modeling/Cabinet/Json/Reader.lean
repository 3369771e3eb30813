import Cabinet.Number.Reading
import Cabinet.Value

/-!
Reading a JSON text. Beyond the standard, `NaN`, `Infinity` and `-Infinity` are numbers, and of
several values for one key the last counts.
-/

namespace Cabinet.Json

/-- Why a text is not read. -/
inductive Fault where
  | malformed
  | longInteger
  deriving DecidableEq, Repr

def isSpace (c : Char) : Bool :=
  c == ' ' || c == '\t' || c == '\n' || c == '\r'

def skipSpace (s : List Char) : List Char :=
  s.dropWhile isSpace

/-- The value of four hexadecimal digits, and what follows them. -/
def codeUnit? : List Char → Option (Nat × List Char)
  | a :: b :: c :: d :: rest => do
    let a ← Text.hexValue? a
    let b ← Text.hexValue? b
    let c ← Text.hexValue? c
    let d ← Text.hexValue? d
    some (4096 * a + 256 * b + 16 * c + d, rest)
  | _ => none

def isHighSurrogate (unit : Nat) : Bool :=
  0xD800 ≤ unit && unit < 0xDC00

def isLowSurrogate (unit : Nat) : Bool :=
  0xDC00 ≤ unit && unit < 0xE000

/-- Stands for half of a surrogate pair on its own. -/
def replacement : Char := Char.ofNat 0xFFFD

/-- The character of a code unit, and of the one that follows if the two are a pair. -/
def unitChar (unit : Nat) (rest : List Char) : Char × List Char :=
  if isHighSurrogate unit then
    match rest with
    | '\\' :: 'u' :: after =>
      match codeUnit? after with
      | some (low, after) =>
        if isLowSurrogate low then
          (Char.ofNat (0x10000 + (unit - 0xD800) * 0x400 + (low - 0xDC00)), after)
        else (replacement, rest)
      | none => (replacement, rest)
    | _ => (replacement, rest)
  else if isLowSurrogate unit then (replacement, rest)
  else (Char.ofNat unit, rest)

/-- The character that a letter after a backslash stands for. -/
def escapeChar? : Char → Option Char
  | '"' => some '"'
  | '\\' => some '\\'
  | '/' => some '/'
  | 'b' => some '\x08'
  | 'f' => some '\x0c'
  | 'n' => some '\n'
  | 'r' => some '\r'
  | 't' => some '\t'
  | _ => none

/-- One character of a string, read before the closing quotation mark. -/
def stringChar? : List Char → Option (Char × List Char)
  | '\\' :: 'u' :: rest => do
    let (unit, rest) ← codeUnit? rest
    some (unitChar unit rest)
  | '\\' :: c :: rest => do
    let c ← escapeChar? c
    some (c, rest)
  | c :: rest => if c.toNat < 32 || c = '\\' then none else some (c, rest)
  | [] => none

/-- The rest of a string after its opening quotation mark, and what follows it. -/
def stringBody? : Nat → List Char → Option (List Char × List Char)
  | 0, _ => none
  | _, '"' :: rest => some ([], rest)
  | fuel + 1, s => do
    let (c, rest) ← stringChar? s
    let (body, rest) ← stringBody? fuel rest
    some (c :: body, rest)

/-- A fraction with its point, if one is there. -/
def fraction : List Char → List Char × List Char
  | '.' :: rest =>
    match rest.takeWhile Text.isAsciiDigit with
    | [] => ([], '.' :: rest)
    | digits => (digits, rest.dropWhile Text.isAsciiDigit)
  | s => ([], s)

/-- An exponent with its letter, if one is there. -/
def exponent? (s : List Char) : Option Int × List Char :=
  match s with
  | e :: rest =>
    if e = 'e' ∨ e = 'E' then
      let (negative, after) := Text.splitSign rest
      match after.takeWhile Text.isAsciiDigit with
      | [] => (none, s)
      | digits =>
        let n : Int := Text.numeral digits
        (some (if negative then -n else n), after.dropWhile Text.isAsciiDigit)
    else (none, s)
  | [] => (none, s)

/-- The digits before the point: a lone zero, or digits that do not begin with one. -/
def wholeDigits : List Char → List Char × List Char
  | '0' :: rest => (['0'], rest)
  | s => (s.takeWhile Text.isAsciiDigit, s.dropWhile Text.isAsciiDigit)

/-- A number after its sign. -/
def number (negative : Bool) (s : List Char) : Except Fault (Value × List Char) :=
  let (whole, rest) := wholeDigits s
  if whole.isEmpty then .error .malformed
  else
    let (digits, rest) := fraction rest
    let (exponent, rest) := exponent? rest
    match digits, exponent with
    | [], none =>
      if Text.maxIntegerDigits < whole.length then .error .longInteger
      else
        let n : Int := Text.numeral whole
        .ok (.int (if negative then -n else n), rest)
    | _, _ =>
      .ok (.float (.ofDecimal negative (Text.numeral (whole ++ digits))
        (exponent.getD 0 - digits.length)), rest)

/-- The words of the format and what they stand for. -/
def keywords : List (List Char × Value) :=
  [("null".toList, .null), ("true".toList, .bool true), ("false".toList, .bool false),
    ("NaN".toList, .float .nan), ("Infinity".toList, .float (.infinite false)),
    ("-Infinity".toList, .float (.infinite true))]

/-- A word or a number. -/
def scalar (s : List Char) : Except Fault (Value × List Char) :=
  match keywords.find? (·.1.isPrefixOf s) with
  | some (word, v) => .ok (v, s.drop word.length)
  | none =>
    match s with
    | '-' :: rest => number true rest
    | _ => number false s

mutual

/-- A value that begins at the first character, and what follows it. -/
def value : Nat → List Char → Except Fault (Value × List Char)
  | 0, _ => .error .malformed
  | fuel + 1, s =>
    match s with
    | '"' :: rest =>
      match stringBody? s.length rest with
      | some (body, rest) => .ok (.text (String.ofList body), rest)
      | none => .error .malformed
    | '[' :: rest =>
      match skipSpace rest with
      | ']' :: after => .ok (.list [], after)
      | after => do
        let (items, after) ← items fuel after
        .ok (.list items, after)
    | '{' :: rest =>
      match skipSpace rest with
      | '}' :: after => .ok (.object [], after)
      | after => do
        let (members, after) ← members fuel after
        .ok (.object (Fields.ofAssignments members), after)
    | _ => scalar s

/-- The items of a list up to its closing bracket. -/
def items : Nat → List Char → Except Fault (List Value × List Char)
  | 0, _ => .error .malformed
  | fuel + 1, s => do
    let (v, rest) ← value fuel s
    match skipSpace rest with
    | ']' :: after => .ok ([v], after)
    | ',' :: after =>
      let (vs, after) ← items fuel (skipSpace after)
      .ok (v :: vs, after)
    | _ => .error .malformed

/-- The members of an object up to its closing brace. -/
def members : Nat → List Char → Except Fault (List (String × Value) × List Char)
  | 0, _ => .error .malformed
  | fuel + 1, s => do
    match s with
    | '"' :: rest =>
      match stringBody? s.length rest with
      | none => .error .malformed
      | some (key, rest) =>
        match skipSpace rest with
        | ':' :: rest =>
          let (v, rest) ← value fuel (skipSpace rest)
          match skipSpace rest with
          | '}' :: after => .ok ([(String.ofList key, v)], after)
          | ',' :: after =>
            let (others, after) ← members fuel (skipSpace after)
            .ok ((String.ofList key, v) :: others, after)
          | _ => .error .malformed
        | _ => .error .malformed
    | _ => .error .malformed

end

/-- Reads a text that holds one value and nothing else but space. -/
def read (s : List Char) : Except Fault Value := do
  let (v, rest) ← value (2 * s.length + 2) (skipSpace s)
  if (skipSpace rest).isEmpty then .ok v else .error .malformed

end Cabinet.Json

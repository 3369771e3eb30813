import Cabinet.Error
import Cabinet.Pattern.Match
import Cabinet.Pattern.Parser
import Cabinet.Search.Condition
import Cabinet.Storage.Cell

/-!
Whether a condition holds of a row: yes, no, or unknown.
-/

namespace Cabinet

/-- Whether an order of two values is what a comparison asks for. -/
def Comparison.admits : Comparison → Ordering → Bool
  | equal, o => o == .eq
  | less, o => o == .lt
  | atMost, o => o != .gt
  | greater, o => o == .gt
  | atLeast, o => o != .lt

namespace Storage

/-- A truth value; nothing stands for the unknown. -/
abbrev Truth := Option Bool

namespace Truth

def negate : Truth → Truth :=
  Option.map (!·)

def and : Truth → Truth → Truth
  | some false, _ => some false
  | _, some false => some false
  | some true, some true => some true
  | _, _ => none

def or : Truth → Truth → Truth
  | some true, _ => some true
  | _, some true => some true
  | some false, some false => some false
  | _, _ => none

end Truth

/-- Text up to a null character. -/
def beforeNull (s : List Char) : List Char :=
  s.takeWhile fun c => c.toNat != 0

/-- Whether a test succeeds on what is left of a text after some of its characters, or none. -/
def afterSome (test : List Char → Bool) : List Char → Bool
  | [] => test []
  | c :: rest => test (c :: rest) || afterSome test rest

/-- Whether a text fits a pattern, in which `%` stands for any text, `_` for any character, and a
backslash before a character for the character. Letters of the alphabet match in either case. -/
def fits : List Char → List Char → Bool
  | [], s => s.isEmpty
  | '%' :: pattern, s => afterSome (fits pattern) s
  | '_' :: pattern, _ :: s => fits pattern s
  | '\\' :: c :: pattern, d :: s => c.toLower == d.toLower && fits pattern s
  | c :: pattern, d :: s => c != '_' && c != '\\' && c.toLower == d.toLower && fits pattern s
  | _ :: _, [] => false

/-- Patterns of more bytes are refused. -/
def maxPatternBytes : Nat := 50000

/-- The text that a stored value is searched as, if it is one. -/
def Cell.searched : Cell → Option (List Char)
  | .null => none
  | c =>
    match c.asText with
    | .text s => some s.toList
    | _ => none

/-- Whether a regular expression is found in the text of a value. That is never so for nothing, and
for what is no regular expression. -/
def findsRegex (pattern value : Value) : Except Error Bool :=
  match pattern, value with
  | _, .null => .ok false
  | .text s, v =>
    match Pattern.parse s.toList with
    | .ok p => .ok (p.search v.plain)
    | .error fault =>
      match fault.error? with
      | some e => .error e
      | none => .ok false
  | _, _ => .ok false

/-- Compares what a column holds with a value, which is converted as the column prefers. -/
def compareCells (comparison : Comparison) (affinity : Affinity) (held given : Cell) : Truth :=
  match held, given.convertForComparison affinity with
  | .null, _ => none
  | _, .null => none
  | a, b => some (comparison.admits (a.order b))

/-- What a row holds under a name, and what the column prefers. -/
abbrev Lookup := String → Affinity × Cell

/-- A value as it is compared; what cannot be stored is nothing. -/
def given (v : Value) : Cell :=
  (Cell.ofValue 1 v).toOption.getD .null

def holdsClause (row : Lookup) : Clause → Except Fault Truth
  | .like column pattern =>
    if maxPatternBytes < (String.ofList pattern).utf8ByteSize then .error .patternTooLong
    else .ok ((row column).2.searched.map fun s => fits (beforeNull pattern) (beforeNull s))
  | .regexp column pattern => do
    match findsRegex (.text pattern) (row column).2.toValue with
    | .ok found => return some found
    | .error _ => throw .functionFailed
  | .compare column comparison value =>
    let (affinity, held) := row column
    .ok (compareCells comparison affinity held (given value))
  | .between column low high =>
    let (affinity, held) := row column
    .ok ((compareCells .atLeast affinity held (.integer low)).and
      (compareCells .atMost affinity held (.integer high)))

/-- Requires clauses in turn; the rest is not looked at once one fails. -/
def holdsAll (row : Lookup) (truth : Truth) : List Clause → Except Fault Truth
  | [] => .ok truth
  | c :: rest =>
    if truth = some false then .ok truth
    else do
      let t ← holdsClause row c
      holdsAll row (truth.and t) rest

/-- Whether a condition holds of a row. Of two parts the second is not looked at where the first
decides. -/
def holds (row : Lookup) : Condition → Except Fault Truth
  | .always => .ok (some true)
  | .clause c => holdsClause row c
  | .negation operand => do
    let t ← holds row operand
    return t.negate
  | .joined .and left right => do
    let l ← holds row left
    if l = some false then return l
    let r ← holds row right
    return l.and r
  | .joined .or left right => do
    let l ← holds row left
    if l = some true then return l
    let r ← holds row right
    return l.or r
  | .joined (.other _) _ _ => .ok none
  | .chain first rest => do
    let t ← holdsClause row first
    holdsAll row t rest
  | .both left right => do
    let l ← holds row left
    if l = some false then return l
    let r ← holds row right
    return l.and r

end Storage

/-- How much a reader of the text of a clause has to keep in mind. -/
def Clause.load : Clause → Nat
  | like .. => 5
  | between .. => 5
  | _ => 3

namespace Condition

/-- How deep the operators of a condition are nested, with two levels for a clause. -/
def height : Condition → Nat
  | always => 1
  | clause _ => 2
  | negation operand => operand.height + 1
  | joined _ left right => max left.height right.height + 1
  | chain _ rest => rest.length + 2
  | both left right => max left.height right.height + 1

/-- How much a reader of the text of a condition has to keep in mind. -/
def load : Condition → Nat
  | always => 1
  | clause c => c.load
  | negation operand => 2 + operand.load
  | joined _ left right => max (1 + left.load) (3 + right.load)
  | chain first rest => rest.foldl (fun load c => max load (2 + c.load)) first.load
  | both left right => max (1 + left.load) (3 + right.load)

end Condition

namespace Storage

def maxHeight : Nat := 1000
def maxLoad : Nat := 94

/-- Refuses conditions that are nested too deep to be read. -/
def admitCondition (c : Condition) : Except Fault Unit :=
  if maxLoad < c.load then .error .bracketsTooDeep
  else if maxHeight < c.height then .error .conditionTooDeep
  else .ok ()

end Storage

end Cabinet

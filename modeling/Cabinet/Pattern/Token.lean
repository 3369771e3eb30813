import Cabinet.Pattern.Basic
import Cabinet.Pattern.Fault
import Cabinet.Text.Letter

/-!
The characters of a pattern, where a backslash and the character after it are one, and the state
of reading them.
-/

namespace Cabinet.Pattern

structure Token where
  start : Nat
  escaped : Bool
  char : Char
  deriving DecidableEq, Repr

namespace Token

def text (t : Token) : List Char :=
  if t.escaped then ['\\', t.char] else [t.char]

/-- Whether the token is a character without a backslash. -/
def is (t : Token) (c : Char) : Bool :=
  !t.escaped && t.char == c

/-- The tokens from a position on, and whether a lone backslash ends the text. -/
def ofChars (start : Nat) : List Char → List Token × Bool
  | [] => ([], false)
  | ['\\'] => ([], true)
  | '\\' :: c :: rest =>
    let (tokens, openEnd) := ofChars (start + 2) rest
    (⟨start, true, c⟩ :: tokens, openEnd)
  | c :: rest =>
    let (tokens, openEnd) := ofChars (start + 1) rest
    (⟨start, false, c⟩ :: tokens, openEnd)

end Token

/-- The options of a pattern or of a part of it. -/
structure Flags where
  ignoreCase : Bool := false
  multiline : Bool := false
  dotAll : Bool := false
  verbose : Bool := false
  ascii : Bool := false
  unicode : Bool := false
  template : Bool := false
  deriving DecidableEq, Repr

namespace Flags

/-- The flag of a letter. -/
def ofLetter? : Char → Option Flags
  | 'i' => some { ignoreCase := true }
  | 'm' => some { multiline := true }
  | 's' => some { dotAll := true }
  | 'x' => some { verbose := true }
  | 'a' => some { ascii := true }
  | 'u' => some { unicode := true }
  | 't' => some { template := true }
  | _ => none

def union (f g : Flags) : Flags where
  ignoreCase := f.ignoreCase || g.ignoreCase
  multiline := f.multiline || g.multiline
  dotAll := f.dotAll || g.dotAll
  verbose := f.verbose || g.verbose
  ascii := f.ascii || g.ascii
  unicode := f.unicode || g.unicode
  template := f.template || g.template

def without (f g : Flags) : Flags where
  ignoreCase := f.ignoreCase && !g.ignoreCase
  multiline := f.multiline && !g.multiline
  dotAll := f.dotAll && !g.dotAll
  verbose := f.verbose && !g.verbose
  ascii := f.ascii && !g.ascii
  unicode := f.unicode && !g.unicode
  template := f.template && !g.template

/-- Whether the flag chooses a character repertoire. -/
def choosesRepertoire (f : Flags) : Bool :=
  f.ascii || f.unicode

/-- The flags inside a group that turns some on and others off. -/
def inside (f added removed : Flags) : Flags :=
  let kept := if added.choosesRepertoire then { f with ascii := false, unicode := false } else f
  (kept.union added).without removed

def folding (f : Flags) : Folding :=
  if f.ignoreCase then if f.ascii then .asciiCase else .anyCase else .exact

end Flags

/-- How many readers may call one another for the groups inside of groups. -/
def maxNesting : Nat := 950

/-- What has been learnt of a pattern so far, and the tokens that are left. -/
structure Scan where
  tokens : List Token
  length : Nat
  openEnd : Bool
  flags : Flags := {}
  names : List (List Char × Nat) := []
  widths : List (Option Width) := [none]
  lookBehindLimit : Option Nat := none
  conditions : List (Nat × Nat) := []
  room : Nat := maxNesting

abbrev Reading := StateT Scan (Except Fault)

namespace Reading

def peek : Reading (Option Token) := do
  return (← get).tokens.head?

/-- The position of the next token, or the length of the text. -/
def position : Reading Nat := do
  let s ← get
  return (s.tokens.head?.map Token.start).getD s.length

def failAt {α : Type} (reason : String) (position : Nat) : Reading α :=
  throw (.invalid reason (some position))

/-- Fails some characters before the next token. -/
def fail {α : Type} (reason : String) (back : Nat) : Reading α := do
  failAt reason ((← position) - back)

/-- Reads what is inside of a group, where `calls` readers more call one another. -/
def nested {α : Type} (calls : Nat) (read : Reading α) : Reading α := do
  let room := (← get).room
  if room < calls then throw .nestedTooDeep
  modify fun s => { s with room := room - calls }
  let result ← read
  modify fun s => { s with room }
  return result

/-- Goes on to some later tokens; a lone backslash at the end is found when it comes next. -/
def moveTo (tokens : List Token) : Reading Unit := do
  let s ← get
  if tokens.isEmpty && s.openEnd then
    failAt "bad escape (end of pattern)" (s.length - 1)
  set { s with tokens }

/-- Takes the next token. -/
def next : Reading (Option Token) := do
  match (← get).tokens with
  | [] => return none
  | t :: rest =>
    moveTo rest
    return some t

/-- Takes the next token if it is the given character. -/
def accept (c : Char) : Reading Bool := do
  match (← get).tokens with
  | [] => return false
  | t :: rest =>
    if t.is c then
      moveTo rest
      return true
    else return false

/-- Takes up to `count` plain characters that satisfy a test. -/
def takeUpTo (count : Nat) (p : Char → Bool) : Reading (List Char) := do
  let tokens := (← get).tokens
  let taken := (tokens.take count).takeWhile fun t => !t.escaped && p t.char
  if !taken.isEmpty then moveTo (tokens.drop taken.length)
  return taken.map Token.char

/-- Takes all plain characters up to the first that fails a test. -/
def takeAll (p : Char → Bool) : Reading (List Char) := do
  takeUpTo (← get).tokens.length p

/-- Takes what stands before a closing character, and that character; `what` names it. -/
def nameUntil (close : Char) (what : String) : Reading (List Char) := do
  let tokens := (← get).tokens
  let taken := tokens.takeWhile (!·.is close)
  let name := taken.flatMap Token.text
  match tokens.drop taken.length with
  | [] =>
    moveTo []
    if name.isEmpty then fail ("missing " ++ what) 0
    else fail ("missing " ++ close.toString ++ ", unterminated name") name.length
  | _ :: rest =>
    moveTo rest
    if name.isEmpty then fail ("missing " ++ what) 1
    return name

end Reading

end Cabinet.Pattern

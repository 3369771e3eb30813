import Cabinet.Pattern.Token
import Cabinet.Text.Digit
import Cabinet.Text.Named
import Cabinet.Text.Quoted

/-!
What a backslash and the characters after it stand for in a pattern.
-/

namespace Cabinet.Pattern

open Reading

/-- What an escape stands for: one character or a category of characters. -/
inductive Escape where
  | code (c : Nat)
  | category (kind : Category) (negated : Bool)

namespace Escape

/-- Letters that stand for a control character. -/
def control? : Char → Option Nat
  | 'a' => some 7
  | 'b' => some 8
  | 'f' => some 12
  | 'n' => some 10
  | 'r' => some 13
  | 't' => some 9
  | 'v' => some 11
  | '\\' => some 92
  | _ => none

def category? : Char → Option Escape
  | 'd' => some (.category .digit false)
  | 'D' => some (.category .digit true)
  | 's' => some (.category .blank false)
  | 'S' => some (.category .blank true)
  | 'w' => some (.category .word false)
  | 'W' => some (.category .word true)
  | _ => none

def isOctalDigit (c : Char) : Bool :=
  '0' ≤ c && c ≤ '7'

def isHexDigit (c : Char) : Bool :=
  (Text.hexValue? c).isSome

def octalNumeral (s : List Char) : Nat :=
  s.foldl (fun value c => 8 * value + (c.toNat - 48)) 0

/-- Fails with an escape in full, at its start. -/
def refuse {α : Type} (reason : String) (escape : List Char) : Reading α :=
  fail (reason ++ String.ofList escape) escape.length

/-- A character by a fixed number of hexadecimal digits. -/
def hexadecimal (letter : Char) (count : Nat) : Reading Escape := do
  let digits ← takeUpTo count isHexDigit
  let escape := '\\' :: letter :: digits
  if digits.length ≠ count then refuse "incomplete escape " escape
  let c := Text.hexNumeral digits
  if 0x10FFFF < c then refuse "bad escape " escape
  return .code c

/-- A character by its name in braces. -/
def named : Reading Escape := do
  if !(← accept '\x7b') then fail "missing \x7b" 0
  let name ← nameUntil '\x7d' "character name"
  match Text.codeNamed? name with
  | some c => return .code c
  | none =>
    fail ("undefined character name " ++ String.ofList (Text.quoted name)) (name.length + 4)

/-- The escapes that mean the same inside and outside of a set. -/
def shared (c : Char) : Reading Escape :=
  match c with
  | 'x' => hexadecimal 'x' 2
  | 'u' => hexadecimal 'u' 4
  | 'U' => hexadecimal 'U' 8
  | 'N' => named
  | _ =>
    if c.isAlphanum then refuse "bad escape " ['\\', c] else return .code c.toNat

/-- A character by octal digits, which may go up to `377`. -/
def octal (digits : List Char) : Reading Escape := do
  let c := octalNumeral digits
  if 0o377 < c then
    let escape := '\\' :: digits
    fail ("octal escape value " ++ String.ofList escape ++ " outside of range 0-0o377")
      escape.length
  return .code c

/-- An escape inside a set. -/
def inSet (c : Char) : Reading Escape := do
  match control? c, category? c with
  | some value, _ => return .code value
  | none, some escape => return escape
  | none, none =>
    if isOctalDigit c then octal (c :: (← takeUpTo 2 isOctalDigit))
    else shared c

end Escape

/-- The width of a capture that is closed. -/
def closedWidth? (s : Scan) (group : Nat) : Option Width :=
  (s.widths[group]?).join

/-- Refuses a reference from behind to a capture that is open or stands there itself. -/
def checkLookBehind (group : Nat) : Reading Unit := do
  let s ← get
  match s.lookBehindLimit with
  | none => return
  | some limit =>
    if (closedWidth? s group).isNone then fail "cannot refer to an open group" 0
    if limit ≤ group then
      fail "cannot refer to group defined in the same lookbehind subpattern" 0

/-- A reference to a capture by its number; `back` characters have been read for it. -/
def refer (flags : Flags) (group back : Nat) : Reading Pattern := do
  match closedWidth? (← get) group with
  | none => fail "cannot refer to an open group" back
  | some width =>
    checkLookBehind group
    return .reference group flags.folding width

def oneOf (flags : Flags) (member : Member) : Pattern :=
  .one ⟨false, [member], flags.folding⟩

def Escape.member (flags : Flags) : Escape → Member
  | .code c => .code c
  | .category kind negated => .category kind negated flags.ascii

/-- Digits after a backslash: an octal character or a reference to a capture. -/
def numbered (flags : Flags) (c : Char) : Reading Pattern := do
  if c = '0' then
    let digits ← takeUpTo 2 Escape.isOctalDigit
    return oneOf flags (.code (Escape.octalNumeral digits))
  let second ← takeUpTo 1 Text.isAsciiDigit
  let third ←
    if Escape.isOctalDigit c && second.any Escape.isOctalDigit then
      takeUpTo 1 Escape.isOctalDigit
    else pure []
  let digits := c :: second ++ third
  if !third.isEmpty then return oneOf flags ((← Escape.octal digits).member flags)
  let group := Text.numeral digits
  if group < (← get).widths.length then refer flags group (digits.length + 1)
  else fail ("invalid group reference " ++ toString group) digits.length

/-- An escape outside of sets. -/
def escaped (flags : Flags) (c : Char) : Reading Pattern := do
  match c with
  | 'A' => return .anchor .textStart
  | 'Z' => return .anchor .textEnd
  | 'b' => return .anchor (.wordEdge false flags.ascii)
  | 'B' => return .anchor (.wordEdge true flags.ascii)
  | _ =>
    match Escape.category? c, Escape.control? c with
    | some escape, _ => return oneOf flags (escape.member flags)
    | none, some value => return oneOf flags (.code value)
    | none, none =>
      if Text.isAsciiDigit c then numbered flags c
      else return oneOf flags ((← Escape.shared c).member flags)

end Cabinet.Pattern

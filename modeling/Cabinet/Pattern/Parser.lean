import Cabinet.Number.Reading
import Cabinet.Pattern.Escape

/-!
Reading a pattern from its text.
-/

namespace Cabinet.Pattern

open Reading

/-- The blanks that a verbose pattern may hold. -/
def isLayout (c : Char) : Bool :=
  c == ' ' || (9 ≤ c.toNat && c.toNat ≤ 13)

/-- Characters that do not stand for themselves. -/
def isSpecial (c : Char) : Bool :=
  ".\\[\x7b()*+?^$|".toList.contains c

/-- Drops what stands before a character, and that character. -/
def skipPast (c : Char) : Reading Unit := do
  let tokens := (← get).tokens
  if !tokens.isEmpty then moveTo ((tokens.dropWhile (!·.is c)).drop 1)

/-- A token inside a set. -/
def setEscape (t : Token) : Reading Escape :=
  if t.escaped then Escape.inSet t.char else return .code t.char.toNat

/-- The members of a set up to its closing bracket, which opened at `start`. -/
def setMembers (flags : Flags) (start : Nat) : Nat → List Member → Reading (List Member)
  | 0, _ => failAt "unterminated character set" start
  | fuel + 1, members => do
    match ← next with
    | none => failAt "unterminated character set" start
    | some t =>
      if t.is ']' && !members.isEmpty then return members
      let low ← setEscape t
      if !(← accept '-') then setMembers flags start fuel (members ++ [low.member flags])
      else
        match ← next with
        | none => failAt "unterminated character set" start
        | some u =>
          if u.is ']' then return members ++ [low.member flags, .code '-'.toNat]
          let high ← setEscape u
          match low, high with
          | .code first, .code last =>
            if last < first then
              fail ("bad character range " ++ String.ofList (t.text ++ '-' :: u.text))
                (t.text.length + 1 + u.text.length)
            else setMembers flags start fuel (members ++ [.range first last])
          | _, _ =>
            fail ("bad character range " ++ String.ofList (t.text ++ '-' :: u.text))
              (t.text.length + 1 + u.text.length)

/-- A set after its opening bracket. -/
def charSet (flags : Flags) (start : Nat) : Reading Pattern := do
  let negated ← accept '^'
  let members ← setMembers flags start ((← get).tokens.length + 1) []
  return .one ⟨negated, members.eraseDups, flags.folding⟩

/-- A count of repetitions in digits. -/
def repetitionCount (digits : List Char) : Reading Nat := do
  if Text.maxIntegerDigits < digits.length then throw .numberTooLong
  let n := Text.numeral digits
  if repetitionLimit ≤ n then throw .repetitionTooLarge
  return n

/-- The bounds in braces after the opening one; nothing if the brace stands for itself. -/
def bracedBounds (start : Nat) : Reading (Option (Nat × Option Nat)) := do
  let here ← get
  if here.tokens.head?.any (·.is '\x7d') then return none
  let low ← takeAll Text.isAsciiDigit
  let high ← if ← accept ',' then takeAll Text.isAsciiDigit else pure low
  if !(← accept '\x7d') then
    set here
    return none
  let least ← if low.isEmpty then pure 0 else repetitionCount low
  if high.isEmpty then return some (least, none)
  let most ← repetitionCount high
  if most < least then failAt "min repeat greater than max repeat" (start + 1)
  return some (least, some most)

/-- The mark after the bounds of a repetition, if there is one. -/
def readEagerness : Reading Eagerness := do
  if ← accept '?' then return .lazy
  if ← accept '+' then return .possessive
  return .greedy

/-- Repeats the last item; `start` is where the repetition is asked for. -/
def repeatLast (start : Nat) (bounds : Nat × Option Nat) (items : List Pattern) :
    Reading (List Pattern) := do
  match items with
  | [] => failAt "nothing to repeat" start
  | .anchor _ :: _ => failAt "nothing to repeat" start
  | .repeated .. :: _ => failAt "multiple repeat" start
  | item :: rest =>
    let eagerness ← readEagerness
    return .repeated eagerness bounds.1 bounds.2 item :: rest

/-- What an unknown letter among flags is. -/
def flagFault (t : Token) (otherwise : String) : String :=
  if !t.escaped && Text.isLetter t.char then "unknown flag" else otherwise

def flagOf? (t : Token) : Option Flags :=
  if t.escaped then none else Flags.ofLetter? t.char

def isFlagLetter (t : Token) : Bool :=
  (flagOf? t).isSome || t.is 'L'

/-- The flags from a letter on, and the character that ends them. -/
def addedFlags : Nat → Token → Flags → Reading (Flags × Token)
  | 0, _, _ => fail "missing -, : or )" 0
  | fuel + 1, t, added => do
    match flagOf? t with
    | none => fail "bad inline flags: cannot use 'L' flag with a str pattern" 0
    | some flag =>
      let added := added.union flag
      if flag.choosesRepertoire && added.ascii && added.unicode then
        fail "bad inline flags: flags 'a', 'u' and 'L' are incompatible" 0
      match ← next with
      | none => fail "missing -, : or )" 0
      | some u =>
        if u.is ')' || u.is '-' || u.is ':' then return (added, u)
        if isFlagLetter u then addedFlags fuel u added
        else fail (flagFault u "missing -, : or )") u.text.length

/-- The flags that are turned off, from a letter up to the colon. -/
def removedFlags : Nat → Token → Flags → Reading Flags
  | 0, _, _ => fail "missing :" 0
  | fuel + 1, t, removed => do
    match flagOf? t with
    | none => fail "bad inline flags: cannot turn off flags 'a', 'u' and 'L'" 0
    | some flag =>
      if flag.choosesRepertoire then
        fail "bad inline flags: cannot turn off flags 'a', 'u' and 'L'" 0
      let removed := removed.union flag
      match ← next with
      | none => fail "missing :" 0
      | some u =>
        if u.is ':' then return removed
        if isFlagLetter u then removedFlags fuel u removed
        else fail (flagFault u "missing :") u.text.length

/-- The flags of a group, or nothing when they are for the whole pattern, which keeps them. -/
def groupFlags (t : Token) : Reading (Option (Flags × Flags)) := do
  let fuel := (← get).tokens.length + 1
  let (added, close) ← if t.is '-' then pure ({}, t) else addedFlags fuel t {}
  if close.is ')' then
    modify fun s => { s with flags := s.flags.union added }
    return none
  if added.template then fail "bad inline flags: cannot turn on global flag" 1
  let removed ←
    if close.is '-' then do
      match ← next with
      | none => fail "missing flag" 0
      | some u =>
        if isFlagLetter u then removedFlags fuel u {}
        else fail (flagFault u "missing flag") u.text.length
    else pure {}
  if removed.template then fail "bad inline flags: cannot turn off global flag" 1
  if added.ignoreCase && removed.ignoreCase || added.multiline && removed.multiline ||
      added.dotAll && removed.dotAll || added.verbose && removed.verbose then
    fail "bad inline flags: flag turned on and off" 1
  return some (added, removed)

/-- Checks a name of a capture; it has been read with the character that closes it. -/
def checkName (name : List Char) : Reading Unit := do
  if !Text.isIdentifier name then
    fail ("bad character in group name " ++ String.ofList (Text.quoted name)) (name.length + 1)

/-- The number of a capture by its name. -/
def groupNamed (name : List Char) : Reading Nat := do
  match (← get).names.lookup name with
  | some group => return group
  | none => fail ("unknown group name " ++ String.ofList (Text.quoted name)) (name.length + 1)

/-- The next number for a capture, which is open from now on. -/
def openCapture (name : Option (List Char)) : Reading Nat := do
  let s ← get
  let group := s.widths.length
  match name with
  | none =>
    set { s with widths := s.widths ++ [none] }
    return group
  | some name =>
    match s.names.lookup name with
    | some other =>
      fail ("redefinition of group name " ++ String.ofList (Text.quoted name) ++ " as group " ++
        toString group ++ "; was group " ++ toString other) (name.length + 1)
    | none =>
      set { s with widths := s.widths ++ [none], names := (name, group) :: s.names }
      return group

def closeCapture (group : Nat) (width : Width) : Reading Unit :=
  modify fun s => { s with widths := s.widths.set group (some width) }

/-- The capture that a condition asks for, by name or number. -/
def conditionGroup : Reading Nat := do
  let name ← nameUntil ')' "group name"
  let group ←
    if Text.isIdentifier name then groupNamed name
    else
      match Text.integer? name with
      | some (.ofNat 0) => fail "bad group number" (name.length + 1)
      | some (.ofNat n) =>
        if Nat.pow 2 31 - 1 ≤ n then
          fail ("invalid group reference " ++ toString n) (name.length + 1)
        let here := (← position) - name.length - 1
        modify fun s =>
          if s.conditions.any (·.1 == n) then s
          else { s with conditions := s.conditions ++ [(n, here)] }
        pure n
      | _ =>
        fail ("bad character in group name " ++ String.ofList (Text.quoted name))
          (name.length + 1)
  checkLookBehind group
  return group

/-- A reference by name, after `(?P=`. -/
def namedReference (flags : Flags) : Reading Pattern := do
  let name ← nameUntil ')' "group name"
  checkName name
  refer flags (← groupNamed name) (name.length + 1)

/-- Takes the parenthesis that closes a group, which opened at `start`. -/
def closeGroup (start : Nat) : Reading Unit := do
  if !(← accept ')') then failAt "missing ), unterminated subpattern" start

/-- Runs a reader from behind: captures that open in it cannot be referred to there. -/
def lookingBehind {α : Type} (read : Reading α) : Reading α := do
  let outer := (← get).lookBehindLimit
  if outer.isNone then
    modify fun s => { s with lookBehindLimit := some s.widths.length }
  let result ← read
  if outer.isNone then modify fun s => { s with lookBehindLimit := none }
  return result

/-- What begins with `(?` and is more than a group with contents. -/
inductive Opening where
  | capture (name : Option (List Char))
  | plain (flags : Flags)
  | atomic
  | look (behind negated : Bool)
  | conditional
  | reference
  | comment
  | globalFlags

/-- Reads what follows `(?P`. -/
def namedOpening : Reading Opening := do
  if ← accept '<' then
    let name ← nameUntil '>' "group name"
    checkName name
    return .capture (some name)
  if ← accept '=' then return .reference
  match ← next with
  | none => fail "unexpected end of pattern" 0
  | some t =>
    fail ("unknown extension ?P" ++ String.ofList t.text) (t.text.length + 2)

/-- Reads how a group opens, after its parenthesis. -/
def opening (flags : Flags) : Reading Opening := do
  if !(← accept '?') then return .capture none
  match ← next with
  | none => fail "unexpected end of pattern" 0
  | some t =>
    if t.is 'P' then namedOpening
    else if t.is ':' then return .plain flags
    else if t.is '#' then return .comment
    else if t.is '=' then return .look false false
    else if t.is '!' then return .look false true
    else if t.is '<' then
      match ← next with
      | none => fail "unexpected end of pattern" 0
      | some u =>
        if u.is '=' then return .look true false
        else if u.is '!' then return .look true true
        else fail ("unknown extension ?<" ++ String.ofList u.text) (u.text.length + 2)
    else if t.is '(' then return .conditional
    else if t.is '>' then return .atomic
    else if isFlagLetter t || t.is '-' then
      match ← groupFlags t with
      | none => return .globalFlags
      | some (added, removed) => return .plain (flags.inside added removed)
    else fail ("unknown extension ?" ++ String.ofList t.text) (t.text.length + 1)

/-- Skips a comment, which opened at `start`. -/
def skipComment (start : Nat) : Reading Unit := do
  let tokens := (← get).tokens
  match tokens.dropWhile (!·.is ')') with
  | [] =>
    if !tokens.isEmpty then moveTo []
    failAt "missing ), unterminated comment" start
  | _ :: rest => moveTo rest

mutual

/-- Alternatives between bars. At the top, the flags of the whole pattern hold. -/
def alternatives : Nat → Bool → Bool → Flags → Reading Pattern
  | 0, _, _, _ => fail "pattern too deep" 0
  | fuel + 1, top, first, flags => do
    let items ← items fuel top (top && first) flags []
    let left := ofList items.reverse
    if ← accept '|' then
      let scan ← get
      let flags := if top then scan.flags else flags
      return .either left (← alternatives fuel top false flags)
    else return left

/-- The items up to a bar, a closing parenthesis or the end; those before are in reverse. -/
def items : Nat → Bool → Bool → Flags → List Pattern → Reading (List Pattern)
  | 0, _, _, _, _ => fail "pattern too deep" 0
  | fuel + 1, top, first, flags, done => do
    match ← peek with
    | none => return done
    | some t =>
      if t.is '|' || t.is ')' then return done
      let _ ← next
      if t.escaped then
        items fuel top first flags ((← escaped flags t.char) :: done)
      else if flags.verbose && isLayout t.char then items fuel top first flags done
      else if flags.verbose && t.is '#' then
        skipPast '\n'
        items fuel top first flags done
      else if !isSpecial t.char then
        items fuel top first flags (oneOf flags (.code t.char.toNat) :: done)
      else
        match t.char with
        | '[' => items fuel top first flags ((← charSet flags t.start) :: done)
        | '?' => items fuel top first flags (← repeatLast t.start (0, some 1) done)
        | '*' => items fuel top first flags (← repeatLast t.start (0, none) done)
        | '+' => items fuel top first flags (← repeatLast t.start (1, none) done)
        | '\x7b' =>
          match ← bracedBounds t.start with
          | none => items fuel top first flags (oneOf flags (.code t.char.toNat) :: done)
          | some bounds => items fuel top first flags (← repeatLast t.start bounds done)
        | '.' =>
          let excluded := if flags.dotAll then [] else [Member.code 10]
          items fuel top first flags (.one ⟨true, excluded, .exact⟩ :: done)
        | '^' =>
          items fuel top first flags
            (.anchor (if flags.multiline then .lineStart else .textStart) :: done)
        | '$' =>
          items fuel top first flags
            (.anchor (if flags.multiline then .lineEnd else .lastLineEnd) :: done)
        | _ =>
          match ← opening flags with
          | .globalFlags =>
            if !first || !done.isEmpty then
              failAt "global flags not at the start of the expression" t.start
            items fuel top first (← get).flags done
          | .comment =>
            skipComment t.start
            items fuel top first flags done
          | .reference => items fuel top first flags ((← namedReference flags) :: done)
          | .capture name =>
            let group ← openCapture name
            let body ← nested 2 (alternatives fuel false false flags)
            closeGroup t.start
            closeCapture group body.width
            items fuel top first flags (.capture group body :: done)
          | .plain inner =>
            let body ← nested 2 (alternatives fuel false false inner)
            closeGroup t.start
            items fuel top first flags (.enclosed body :: done)
          | .atomic =>
            let body ← nested 2 (alternatives fuel false false flags)
            closeGroup t.start
            items fuel top first flags (.atomic body :: done)
          | .look false negated =>
            let body ← nested 2 (alternatives fuel false false flags)
            closeGroup t.start
            items fuel top first flags (.ahead negated body :: done)
          | .look true negated =>
            let body ← lookingBehind (nested 2 (alternatives fuel false false flags))
            closeGroup t.start
            items fuel top first flags (.behind negated body :: done)
          | .conditional =>
            let group ← conditionGroup
            let whenSet ← nested 1 (items fuel false false flags [])
            let divided ← accept '|'
            let otherwise ←
              if divided then nested 1 (items fuel false false flags []) else pure []
            if divided && (← peek).any (·.is '|') then
              fail "conditional backref with more than two branches" 0
            closeGroup t.start
            items fuel top first flags
              (.conditional group (ofList whenSet.reverse) (ofList otherwise.reverse) :: done)

end

/-- Reads a whole pattern. -/
def whole : Reading Pattern := do
  let p ← alternatives (3 * (← get).tokens.length + 3) true true {}
  let s ← get
  if s.flags.ascii && s.flags.unicode then throw .flagsAtOdds
  if !s.tokens.isEmpty then fail "unbalanced parenthesis" 0
  match s.conditions.find? (s.widths.length ≤ ·.1) with
  | some (group, position) =>
    failAt ("invalid group reference " ++ toString group) position
  | none =>
    match p.misuse? s.flags.template with
    | some reason => throw (.invalid reason none)
    | none => return p

/-- Reads a pattern. -/
def parse (s : List Char) : Except Fault Pattern :=
  let (tokens, openEnd) := Token.ofChars 0 s
  let start : Scan := { tokens, length := s.length, openEnd }
  (do moveTo tokens; whole : Reading Pattern).run' start

end Cabinet.Pattern

import Cabinet.CommandLine.Argument

/-!
Words of a command line: what a word is, going by how it begins and by the flags that there are.
-/

namespace Cabinet.CommandLine

/-- What a word is. A flag may have a text attached; a letter has other letters attached. -/
inductive WordRole where
  | plain
  | separator
  | flag (f : Flag) (attached? : Option String)
  | letter (f : Flag) (attached? : Option (List Char))
  | unknown
  deriving DecidableEq, Repr

structure Word where
  text : String
  role : WordRole
  deriving DecidableEq, Repr

/-- Whether a text is a negative number, in digits of any script; a line break at its end is passed
over. -/
def isNegativeNumber (s : List Char) : Bool :=
  let s := if s.getLast? = some '\n' then s.dropLast else s
  match s with
  | '-' :: rest =>
    match rest.dropWhile Text.isDigit with
    | [] => !rest.isEmpty
    | '.' :: fraction => !fraction.isEmpty && fraction.all Text.isDigit
    | _ => false
  | _ => false

/-- Splits a text at its first equals sign. -/
def splitAssigned (s : List Char) : String × Option String :=
  (String.ofList (s.takeWhile (· != '=')),
    match s.dropWhile (· != '=') with
    | [] => none
    | _ :: value => some (String.ofList value))

/-- The flags that a name means: the one that is called so, or else those whose names begin so. -/
def flagsMeant (flags : List Flag) (name : String) : List Flag :=
  match flags.filter (·.name == name) with
  | [] => flags.filter fun f => name.toList.isPrefixOf f.name.toList
  | named => named

/-- What a word is that begins like a flag and means none. -/
def unclaimed (s : List Char) : WordRole :=
  if isNegativeNumber s || s.contains ' ' then .plain else .unknown

/-- What is attached to a letter; an equals sign in between says nothing. -/
def attachedLetters : List Char → Option (List Char)
  | [] => none
  | '=' :: rest => some rest
  | rest => some rest

namespace WordRole

/-- What a word is before a separator. A name that could mean several flags is a mistake. -/
def of (flags : List Flag) (s : List Char) : Except Exit WordRole :=
  match s with
  | '-' :: '-' :: rest =>
    let (name, attached?) := splitAssigned rest
    match flagsMeant flags name with
    | [] => .ok (unclaimed s)
    | [f] => .ok (.flag f attached?)
    | _ => .error .mistake
  | '-' :: c :: rest =>
    match flags.find? (·.letter? == some c) with
    | some f => .ok (.letter f (attachedLetters rest))
    | none => .ok (unclaimed s)
  | _ => .ok .plain

end WordRole

/-- The words of a command line; after a separator all are plain. -/
def Word.ofTexts (flags : List Flag) : List String → Except Exit (List Word)
  | [] => .ok []
  | s :: rest =>
    if s = "--" then .ok (⟨s, .separator⟩ :: rest.map (⟨·, .plain⟩))
    else do
      let role ← WordRole.of flags s.toList
      let words ← Word.ofTexts flags rest
      return ⟨s, role⟩ :: words

end Cabinet.CommandLine

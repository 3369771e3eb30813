import Cabinet.CommandLine.Word

/-!
Forms: the places and flags of a command, and how words fill them in. Words fill places in turn, and
flags may stand between them.
-/

namespace Cabinet.CommandLine

/-- A form while it is filled in: the places that are left, what has been found, the words that are
left for a command of their own, whether the last word went to a place, and whether there was a word
for which there was no place. -/
structure Filling where
  slots : List Slot
  found : Arguments := []
  rest : List String := []
  inPlace : Bool := false
  hasExtra : Bool := false

namespace Filling

/-- Notes a word that there is no place for. -/
def addExtra (p : Filling) : Filling :=
  { p with hasExtra := true, inPlace := false }

/-- Puts an argument into a place. -/
def fill (s : Slot) (word : String) (p : Filling) : Except Exit Filling :=
  match s.kind.read? word with
  | some a => .ok { p with found := p.found.add s.name a, inPlace := true }
  | none => .error .mistake

/-- Puts a word into the next place, which is used up if it takes but one. -/
def take (word : String) (p : Filling) : Except Exit Filling :=
  match p.slots with
  | [] => .ok p.addExtra
  | s :: rest =>
    match s.arity with
    | .one => fill s word { p with slots := rest }
    | _ => fill s word p

/-- Ends a place that takes many words, if it has what it needs. -/
def closePlace (p : Filling) : Filling :=
  match p.slots with
  | s :: rest =>
    match s.arity with
    | .any => { p with slots := rest }
    | .some => if (p.found.texts s.name).isEmpty then p else { p with slots := rest }
    | _ => p
  | [] => p

/-- A separator belongs to the place before it or to the one after it. -/
def separate (p : Filling) : Filling :=
  if p.slots.isEmpty && !p.inPlace then p.addExtra else p

/-- Sets a flag that takes no word. -/
def set (f : Flag) (p : Filling) : Except Exit Filling :=
  if f = helpFlag then .error .help
  else .ok { p with found := p.found.put f.name [.truth true] }

/-- Gives a flag its word. -/
def assign (f : Flag) (kind : ArgumentKind) (word : String) (p : Filling) : Except Exit Filling :=
  match kind.read? word with
  | some a => .ok { p with found := p.found.put f.name [a] }
  | none => .error .mistake

/-- Sets a flag and those of the letters after it, as far as there are flags for them. -/
def setLetters (flags : List Flag) (f : Flag) : List Char → Filling → Except Exit Filling
  | [], p => p.set f
  | c :: letters, p => do
    let p ← p.set f
    match flags.find? (·.letter? == some c) with
    | some g => setLetters flags g letters p
    | none => .ok p.addExtra

/-- Sets the flags of a word of letters. -/
def setWord (flags : List Flag) (f : Flag) : Option (List Char) → Filling → Except Exit Filling
  | none, p => p.set f
  | some [], _ => .error .mistake
  | some letters, p => p.setLetters flags f letters

/-- Ends the filling in: no place may be left that needs a word. -/
def finish (p : Filling) : Except Exit Filling :=
  let p := p.closePlace
  if p.slots.isEmpty then .ok p else .error .mistake

/-- Whether the words from here on are for a command of their own. -/
def isAtRest (p : Filling) : Bool :=
  (p.slots.head?.map (·.arity)) == some .rest

end Filling

/-- Fills words in, one after another. -/
def fillIn (flags : List Flag) : List Word → Filling → Except Exit Filling
  | [], p => p.finish
  | ⟨text, role⟩ :: words, p =>
    match role with
    | .plain =>
      if p.isAtRest then .ok { p with slots := [], rest := text :: words.map (·.text) }
      else do fillIn flags words (← p.take text)
    | .separator => if p.isAtRest then .error .mistake else fillIn flags words p.separate
    | .unknown => fillIn flags words p.closePlace.addExtra
    | .letter f attached? => do
      fillIn flags words (← { p.closePlace with inPlace := false }.setWord flags f attached?)
    | .flag f attached? =>
      let p := { p.closePlace with inPlace := false }
      match f.kind?, attached?, words with
      | none, none, words => do fillIn flags words (← p.set f)
      | none, some _, _ => .error .mistake
      | some kind, some word, words => do fillIn flags words (← p.assign f kind word)
      | some kind, none, ⟨word, .plain⟩ :: words => do fillIn flags words (← p.assign f kind word)
      | some _, none, _ => .error .mistake

/-- Fills a form in with the words of a command line. -/
def fillForm (slots : List Slot) (flags : List Flag) (texts : List String) :
    Except Exit Filling := do
  let flags := helpFlag :: flags
  let words ← Word.ofTexts flags texts
  fillIn flags words { slots }

end Cabinet.CommandLine

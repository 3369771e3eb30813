import Cabinet.Pattern.Parser
import Cabinet.Text.Blank
import Cabinet.Text.Fold

/-!
Matching a pattern against a text, by trying choices in order and going back.
-/

namespace Cabinet.Pattern

def Category.holds (kind : Category) (ascii : Bool) (c : Char) : Bool :=
  match kind, ascii with
  | digit, true => Text.isAsciiDigit c
  | digit, false => Text.isDigit c
  | blank, true => c == ' ' || (9 ≤ c.toNat && c.toNat ≤ 13)
  | blank, false => Text.isBlank c
  | word, true => c.isAlphanum || c == '_'
  | word, false => Text.isWordChar c

namespace Member

/-- Whether a character belongs to a member as it stands. -/
def holds (c : Char) : Member → Bool
  | code n => c.toNat == n
  | range first last => first ≤ c.toNat && c.toNat ≤ last
  | category kind negated ascii => kind.holds ascii c != negated

/-- The last code point of the basic plane. -/
def basicLast : Nat := 0xFFFF

/-- Whether a small letter belongs to a member up to case; ranges beyond the basic plane are also
compared with the capital letter. -/
def holdsFolded (lower : Nat → Nat) (equals sources : Nat → List Nat) (c : Nat) : Member → Bool
  | code n => (equals c).contains (lower n)
  | range first last =>
    (equals c).any (fun small =>
      (sources small).any fun n => first ≤ n && n ≤ min last basicLast) ||
    (basicLast < last &&
      ((first ≤ c && c ≤ last) || (first ≤ Text.upperCode c && Text.upperCode c ≤ last)))
  | category kind negated ascii => kind.holds ascii (Char.ofNat c) != negated

end Member

/-- The lower-case form of an ASCII letter. -/
def asciiLower (c : Nat) : Nat :=
  if 65 ≤ c ∧ c ≤ 90 then c + 32 else c

def asciiSources (c : Nat) : List Nat :=
  if 97 ≤ c ∧ c ≤ 122 then [c, c - 32] else [c]

namespace CharTest

/-- Whether some member of the set holds the character, under the folding of the test. -/
def holds (t : CharTest) (c : Char) : Bool :=
  match t.folding with
  | .exact => t.members.any (·.holds c)
  | .asciiCase =>
    t.members.any (·.holdsFolded asciiLower (fun n => [n]) asciiSources (asciiLower c.toNat))
  | .anyCase =>
    t.members.any
      (·.holdsFolded Text.lowerCode Text.caseClass Text.lowerSources (Text.lowerCode c.toNat))

def accepts (t : CharTest) (c : Char) : Bool :=
  t.holds c != t.negated

end CharTest

/-- Whether two characters are the same under a folding. -/
def Folding.same (folding : Folding) (a b : Char) : Bool :=
  match folding with
  | .exact => a == b
  | .asciiCase => asciiLower a.toNat == asciiLower b.toNat
  | .anyCase => Text.lowerCode a.toNat == Text.lowerCode b.toNat

/-- A place in a text: what lies before it, in reverse, what lies after it, and the captures. -/
structure Place where
  before : List Char
  after : List Char
  offset : Nat
  captures : List (Nat × List Char)

namespace Place

def start (text : List Char) : Place := ⟨[], text, 0, []⟩

/-- The next place, past one character. -/
def next? (p : Place) : Option (Char × Place) :=
  match p.after with
  | [] => none
  | c :: rest => some (c, { p with before := c :: p.before, after := rest, offset := p.offset + 1 })

/-- The place some characters before, if there are as many. -/
def back? (p : Place) (n : Nat) : Option Place :=
  if p.offset < n then none
  else
    some { p with
      before := p.before.drop n
      after := (p.before.take n).reverse ++ p.after
      offset := p.offset - n }

/-- Goes past a given text. -/
def through? (folding : Folding) : List Char → Place → Option Place
  | [], p => some p
  | c :: rest, p =>
    match p.next? with
    | some (d, q) => if folding.same c d then through? folding rest q else none
    | none => none

def isEdge (ascii : Bool) (p : Place) : Bool :=
  (p.before.head?.any (Category.word.holds ascii)) !=
    (p.after.head?.any (Category.word.holds ascii))

end Place

/-- Whether an anchor holds at a place; in the empty text no place is the edge of a word, nor
inside or outside of one. -/
def Anchor.holds (p : Place) : Anchor → Bool
  | textStart => p.before.isEmpty
  | lineStart => p.before.head?.all (· == '\n')
  | textEnd => p.after.isEmpty
  | lastLineEnd => p.after.isEmpty || p.after == ['\n']
  | lineEnd => p.after.head?.all (· == '\n')
  | wordEdge negated ascii =>
    !(p.before.isEmpty && p.after.isEmpty) && p.isEdge ascii != negated

/-- What goes on from a place, or fails there. -/
abbrev Continuation := Place → Option Place

/-- Repeats a body, at least `least` times and at most `most` times. Once there are enough, a pass
that takes no text is the last. `fuel` bounds the passes and `last` is where the latest began. -/
def repeatWith (greedy : Bool) (least : Nat) (most : Option Nat)
    (body : Continuation → Continuation) (k : Continuation) : Nat → Nat → Option Nat → Continuation
  | 0, _, _ => fun _ => none
  | fuel + 1, count, last => fun p =>
    if count < least then body (repeatWith greedy least most body k fuel (count + 1) last) p
    else if most.all (count < ·) && last != some p.offset then
      let again := fun (_ : Unit) =>
        body (repeatWith greedy least most body k fuel (count + 1) (some p.offset)) p
      if greedy then (again ()).orElse fun _ => k p else (k p).orElse again
    else k p

/-- Repeats a body as often as it goes, and never takes a pass back. -/
def repeatFirmly (least : Nat) (most : Option Nat) (body : Continuation) :
    Nat → Nat → Continuation
  | 0, _ => fun _ => none
  | fuel + 1, count => fun p =>
    if count < least then (body p).bind (repeatFirmly least most body fuel (count + 1))
    else if most.all (count < ·) then
      match body p with
      | none => some p
      | some q =>
        if q.offset = p.offset then some q else repeatFirmly least most body fuel (count + 1) q
    else some p

/-- The places after zero, one, two, … characters that pass a test, the farthest first. -/
def runPlaces (t : CharTest) : Nat → Place → List Place → List Place
  | 0, p, done => p :: done
  | most + 1, p, done =>
    match p.next? with
    | some (c, q) => if t.accepts c then runPlaces t most q (p :: done) else p :: done
    | none => p :: done

/-- Repeats a test of one character. -/
def repeatOne (eagerness : Eagerness) (least : Nat) (most : Option Nat) (t : CharTest)
    (k : Continuation) : Continuation := fun p =>
  let bound := min (most.getD p.after.length) p.after.length
  let places := runPlaces t bound p []
  let enough := places.take (places.length - least)
  match eagerness with
  | .greedy => enough.findSome? k
  | .lazy => enough.reverse.findSome? k
  | .possessive => enough.head?.bind k

/-- Matches a pattern at a place and goes on from where it ends. -/
def run : Pattern → Continuation → Continuation
  | empty, k => k
  | one t, k => fun p =>
    match p.next? with
    | some (c, q) => if t.accepts c then k q else none
    | none => none
  | sequence first second, k => run first (run second k)
  | either first second, k => fun p => (run first k p).orElse fun _ => run second k p
  | enclosed body, k => run body k
  | capture index body, k => fun p =>
    run body (fun q =>
      k { q with captures := (index, p.after.take (q.offset - p.offset)) :: q.captures }) p
  | reference index folding _, k => fun p =>
    match p.captures.lookup index with
    | some text => (p.through? folding text).bind k
    | none => none
  | anchor place, k => fun p => if place.holds p then k p else none
  | ahead negated body, k => fun p =>
    match run body some p with
    | some q => if negated then none else k { p with captures := q.captures }
    | none => if negated then k p else none
  | behind negated body, k => fun p =>
    match (p.back? body.width.least).bind (run body some) with
    | some q => if negated then none else k { p with captures := q.captures }
    | none => if negated then k p else none
  | repeated eagerness least most body, k => fun p =>
    match body with
    | one t => repeatOne eagerness least most t k p
    | _ =>
      let fuel := least + p.after.length + 3
      match eagerness with
      | .greedy => repeatWith true least most (run body) k fuel 0 none p
      | .lazy => repeatWith false least most (run body) k fuel 0 none p
      | .possessive => (repeatFirmly least most (run body some) fuel 0 p).bind k
  | atomic body, k => fun p => (run body some p).bind k
  | conditional index whenSet otherwise, k => fun p =>
    if (p.captures.lookup index).isSome then run whenSet k p else run otherwise k p

/-- Whether a pattern matches at one of the places from here to the end. -/
def searchFrom (pattern : Pattern) (before : List Char) (offset : Nat) : List Char → Bool
  | [] => (run pattern some ⟨before, [], offset, []⟩).isSome
  | c :: rest =>
    (run pattern some ⟨before, c :: rest, offset, []⟩).isSome ||
      searchFrom pattern (c :: before) (offset + 1) rest

/-- Whether a pattern matches somewhere in a text. -/
def search (pattern : Pattern) (text : List Char) : Bool :=
  searchFrom pattern [] 0 text

end Cabinet.Pattern

import Cabinet.Query.Token
import Cabinet.Text.Case

/-!
Splitting a search text into tokens.
-/

namespace Cabinet.Query

/-- The characters of a delimited text up to the delimiter and with it, if it is there; a backslash
keeps the next character from being the delimiter, but not a line end. -/
def untilDelimiter? (delimiter : Char) : List Char → Option (List Char)
  | [] => none
  | '\\' :: [] => none
  | '\\' :: c :: rest =>
    if c = '\n' then none else (untilDelimiter? delimiter rest).map ('\\' :: c :: ·)
  | c :: rest =>
    if c = delimiter then some [c] else (untilDelimiter? delimiter rest).map (c :: ·)

/-- Characters that no word holds. -/
def endsWord (c : Char) : Bool :=
  Text.isBlank c || c == '(' || c == ')' || c == '"'

/-- Whether a field or a term may begin with the character. -/
def beginsWord (c : Char) : Bool :=
  !endsWord c && c != '!' && c != '&' && c != '|' && c != ':'

/-- A regular expression between slashes, which holds at least one character. -/
def regexLexeme? : List Char → Option (List Char)
  | '/' :: rest =>
    match untilDelimiter? '/' rest with
    | some ['/'] => none
    | some body => some ('/' :: body)
    | none => none
  | _ => none

/-- A phrase between double quotation marks. -/
def phraseLexeme? : List Char → Option (List Char)
  | '"' :: rest => (untilDelimiter? '"' rest).map ('"' :: ·)
  | _ => none

/-- The name of a field with the colon after it. -/
def fieldLexeme? : List Char → Option (List Char)
  | c :: rest =>
    if beginsWord c then
      let name := rest.takeWhile fun d => !endsWord d && d != ':'
      if rest[name.length]? = some ':' then some (c :: name ++ [':']) else none
    else none
  | [] => none

/-- A word in the place of a clause. -/
def termLexeme? : List Char → Option (List Char)
  | c :: rest => if beginsWord c then some (c :: rest.takeWhile (!endsWord ·)) else none
  | [] => none

/-- A word in the place of a value. -/
def valueLexeme? (s : List Char) : Option (List Char) :=
  match s.takeWhile (!endsWord ·) with
  | [] => none
  | word => some word

/-- The words that are operators, in any letter case. -/
def wordKind (word : List Char) : TokenKind :=
  match String.ofList (Text.lower word) with
  | "and" => .and
  | "or" => .or
  | "not" => .not
  | _ => .term

/-- A regular expression or a phrase. -/
def delimited? (s : List Char) : Option (TokenKind × List Char) :=
  ((regexLexeme? s).map (TokenKind.regex, ·)).or ((phraseLexeme? s).map (TokenKind.phrase, ·))

/-- The token that a text begins with in the place of a clause. -/
def clauseToken? : List Char → Option (TokenKind × List Char)
  | '&' :: '&' :: _ => some (.and, ['&', '&'])
  | '|' :: '|' :: _ => some (.or, ['|', '|'])
  | '(' :: _ => some (.opening, ['('])
  | ')' :: _ => some (.closing, [')'])
  | '!' :: _ => some (.bang, ['!'])
  | s =>
    (delimited? s).or
      (((fieldLexeme? s).map (TokenKind.field, ·)).or
        ((termLexeme? s).map fun word => (wordKind word, word)))

/-- The token that a text begins with in the place of a value. -/
def valueToken? (s : List Char) : Option (TokenKind × List Char) :=
  (delimited? s).or ((valueLexeme? s).map (TokenKind.term, ·))

namespace Expectation

/-- Characters that are passed over. -/
def ignores : Expectation → Char → Bool
  | clause, c => c == ' ' || c == '\t' || c == '\r' || c == '\n'
  | value, c => c == ' ' || c == '\t'

def token? : Expectation → List Char → Option (TokenKind × List Char)
  | clause => clauseToken?
  | value => valueToken?

/-- What is wrong with a character that begins no token. -/
def fault : Expectation → Char → Nat → Error
  | clause, c, position => .illegalCharacter c position
  | value, c, position => .valueExpected c position

end Expectation

/-- The tokens of a text that begins at a position, up to what is no token, and what is wrong with
that. -/
def tokensFrom (expectation : Expectation) (position : Nat) (s : List Char) :
    List Token × Option Error :=
  match s with
  | [] => ([], none)
  | c :: rest =>
    if expectation.ignores c then tokensFrom expectation (position + 1) rest
    else
      match expectation.token? (c :: rest) with
      | none => ([], some (expectation.fault c position))
      | some (kind, lexeme) =>
        let (tokens, fault) :=
          tokensFrom kind.expects (position + lexeme.length) (rest.drop (lexeme.length - 1))
        (⟨kind, lexeme, position⟩ :: tokens, fault)
termination_by s.length
decreasing_by
  all_goals simp; try omega

/-- The tokens of a search text. -/
def tokenize (s : List Char) : Except Error (List Token) :=
  match tokensFrom .clause 0 s with
  | (tokens, none) => .ok tokens
  | (_, some fault) => .error fault

end Cabinet.Query

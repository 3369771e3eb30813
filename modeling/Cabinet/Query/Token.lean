import Cabinet.Error
import Cabinet.Text.Blank

/-!
The tokens of a search text. After a field comes one value, which is read by rules of its own.
-/

namespace Cabinet.Query

inductive TokenKind where
  | field
  | term
  | phrase
  | regex
  | opening
  | closing
  | bang
  | and
  | or
  | not
  deriving DecidableEq, Repr

/-- A token with the characters it is written in and the place where they begin. -/
structure Token where
  kind : TokenKind
  lexeme : List Char
  position : Nat
  deriving DecidableEq, Repr

/-- What may come next: the beginning of any clause, or the value of a field. -/
inductive Expectation where
  | clause
  | value
  deriving DecidableEq, Repr

namespace TokenKind

/-- What is expected after a token. -/
def expects : TokenKind → Expectation
  | field => .value
  | _ => .clause

end TokenKind

/-- Takes the backslashes away that keep the next character as it is. -/
def unescape : List Char → List Char
  | [] => []
  | '\\' :: c :: rest => c :: unescape rest
  | '\\' :: [] => []
  | c :: rest => c :: unescape rest

/-- Drops the first and the last character. -/
def inner (s : List Char) : List Char :=
  s.tail.dropLast

namespace Token

/-- What a token stands for: its text without delimiters. -/
def value (t : Token) : List Char :=
  match t.kind with
  | .field => t.lexeme.dropLast
  | .phrase => unescape (inner t.lexeme)
  | .regex => inner t.lexeme
  | _ => t.lexeme

end Token

end Cabinet.Query

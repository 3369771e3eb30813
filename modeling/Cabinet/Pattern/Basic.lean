/-!
Patterns over text: what they are made of, and how much text they take.
-/

namespace Cabinet

namespace Pattern

/-- Which characters a test takes for the same. -/
inductive Folding where
  | exact
  | asciiCase
  | anyCase
  deriving DecidableEq, Repr

inductive Category where
  | digit
  | blank
  | word
  deriving DecidableEq, Repr

/-- A member of a set of characters. A category covers ASCII characters alone when `ascii` holds. -/
inductive Member where
  | code (c : Nat)
  | range (first last : Nat)
  | category (kind : Category) (negated ascii : Bool)
  deriving DecidableEq, Repr

/-- A test of one character: it belongs to the set, or does not when `negated` holds. -/
structure CharTest where
  negated : Bool
  members : List Member
  folding : Folding
  deriving DecidableEq, Repr

inductive Anchor where
  | textStart
  | lineStart
  | textEnd
  | lastLineEnd
  | lineEnd
  | wordEdge (negated ascii : Bool)
  deriving DecidableEq, Repr

/-- How a repetition chooses its count. -/
inductive Eagerness where
  | greedy
  | lazy
  | possessive
  deriving DecidableEq, Repr

/-- The least and the greatest length of the text that a pattern takes. -/
structure Width where
  least : Nat
  greatest : Nat
  deriving DecidableEq, Repr

end Pattern

open Pattern in
/-- A pattern; a capture has a number, by which references and conditions know it. -/
inductive Pattern where
  | empty
  | one (test : CharTest)
  | sequence (first second : Pattern)
  | either (first second : Pattern)
  | enclosed (body : Pattern)
  | capture (index : Nat) (body : Pattern)
  | reference (index : Nat) (folding : Folding) (width : Width)
  | anchor (place : Anchor)
  | ahead (negated : Bool) (body : Pattern)
  | behind (negated : Bool) (body : Pattern)
  | repeated (eagerness : Eagerness) (least : Nat) (most : Option Nat) (body : Pattern)
  | atomic (body : Pattern)
  | conditional (index : Nat) (whenSet otherwise : Pattern)
  deriving Repr

namespace Pattern

/-- Widths stop growing here. -/
def Width.limit : Nat := Nat.pow 2 64

/-- Counts of repetitions stay below this. -/
def repetitionLimit : Nat := Nat.pow 2 32 - 1

def Width.mk' (least greatest : Nat) : Width :=
  ⟨min least Width.limit, min greatest Width.limit⟩

def width : Pattern → Width
  | empty => ⟨0, 0⟩
  | one _ => ⟨1, 1⟩
  | sequence first second =>
    .mk' (first.width.least + second.width.least) (first.width.greatest + second.width.greatest)
  | either first second =>
    ⟨min first.width.least second.width.least, max first.width.greatest second.width.greatest⟩
  | enclosed body => body.width
  | capture _ body => body.width
  | reference _ _ width => width
  | anchor _ => ⟨0, 0⟩
  | ahead _ _ => ⟨0, 0⟩
  | behind _ _ => ⟨0, 0⟩
  | repeated _ least most body =>
    .mk' (least * body.width.least)
      (match most with
        | some n => n * body.width.greatest
        | none => if body.width.greatest = 0 then 0 else Width.limit)
  | atomic body => body.width
  | conditional _ whenSet otherwise =>
    ⟨min whenSet.width.least otherwise.width.least,
      max whenSet.width.greatest otherwise.width.greatest⟩

def ofList : List Pattern → Pattern
  | [] => empty
  | [p] => p
  | p :: rest => sequence p (ofList rest)

/-- What a repetition is called where it is refused. -/
def Eagerness.label : Eagerness → String
  | greedy => "MAX_REPEAT"
  | lazy => "MIN_REPEAT"
  | possessive => "POSSESSIVE_REPEAT"

/-- Why a pattern that is well formed cannot be used: what it looks back on must have one width,
and a template, which `template` marks, repeats nothing. -/
def misuse? (template : Bool) : Pattern → Option String
  | sequence first second => (first.misuse? template).or (second.misuse? template)
  | either first second => (first.misuse? template).or (second.misuse? template)
  | enclosed body => body.misuse? template
  | capture _ body => body.misuse? template
  | ahead _ body => body.misuse? template
  | behind _ body =>
    if repetitionLimit < body.width.least then some "looks too much behind"
    else if body.width.least ≠ body.width.greatest then
      some "look-behind requires fixed-width pattern"
    else body.misuse? template
  | repeated eagerness _ _ body =>
    if template then some ("internal: unsupported template operator " ++ eagerness.label)
    else body.misuse? template
  | atomic body => body.misuse? template
  | conditional _ whenSet otherwise =>
    (whenSet.misuse? template).or (otherwise.misuse? template)
  | _ => none

end Pattern

end Cabinet

import Cabinet.Number.Scientific
import Cabinet.Text.Quoted

/-!
Values: what callers offer for a column, and what documents are made of.
-/

namespace Cabinet

inductive Value where
  | null
  | bool (b : Bool)
  | int (n : Int)
  | float (x : Binary64)
  | text (s : String)
  | list (items : List Value)
  | object (fields : List (String × Value))
  deriving Inhabited

namespace Value

/-- The name of the kind of value, as messages give it. -/
def kindName : Value → String
  | null => "NoneType"
  | bool _ => "bool"
  | int _ => "int"
  | float _ => "float"
  | text _ => "str"
  | list _ => "list"
  | object _ => "dict"

mutual

/-- The text of a value in messages, with texts in quotation marks. -/
def shown : Value → List Char
  | null => "None".toList
  | bool b => (if b then "True" else "False").toList
  | int n => Text.intText n
  | float x => x.text
  | text s => Text.quoted s.toList
  | list items => '[' :: shownItems items ++ [']']
  | object fields => '{' :: shownFields fields ++ ['}']

def shownItems : List Value → List Char
  | [] => []
  | [v] => shown v
  | v :: rest => shown v ++ ',' :: ' ' :: shownItems rest

def shownFields : List (String × Value) → List Char
  | [] => []
  | [(key, v)] => Text.quoted key.toList ++ ':' :: ' ' :: shown v
  | (key, v) :: rest =>
    Text.quoted key.toList ++ ':' :: ' ' :: shown v ++ ',' :: ' ' :: shownFields rest

end

/-- The text of a value on its own, where a text stands for itself. -/
def plain : Value → List Char
  | text s => s.toList
  | v => v.shown

/-- The text of a value followed by the name of its kind. -/
def described (v : Value) : String :=
  String.ofList v.shown ++ " (" ++ v.kindName ++ ")"

/-- False for what is null, zero or empty. -/
def truthy : Value → Bool
  | null => false
  | bool b => b
  | int n => n != 0
  | float x => !x.isZero
  | text s => !s.isEmpty
  | list items => !items.isEmpty
  | object fields => !fields.isEmpty

def text? : Value → Option String
  | text s => some s
  | _ => none

/-- The integer that a number other than a truth value equals, if there is one. -/
def integral? : Value → Option Int
  | int n => some n
  | float x => x.toInt?
  | _ => none

/-- Integers and floating-point numbers; truth values are apart. -/
def isNumber : Value → Bool
  | int _ => true
  | float _ => true
  | _ => false

end Value

/-- Ordered fields with one value for each key. -/
abbrev Fields (α : Type) := List (String × α)

namespace Fields

variable {α : Type}

def get? (fields : Fields α) (key : String) : Option α :=
  fields.lookup key

def keys (fields : Fields α) : List String :=
  fields.map (·.1)

/-- Puts a value at a key: in its place if the key is there, at the end otherwise. -/
def put (key : String) (value : α) : Fields α → Fields α
  | [] => [(key, value)]
  | (k, v) :: rest => if k = key then (key, value) :: rest else (k, v) :: put key value rest

/-- Drops a key. -/
def drop (key : String) (fields : Fields α) : Fields α :=
  fields.filter (·.1 != key)

def contains (fields : Fields α) (key : String) : Bool :=
  fields.any (·.1 == key)

/-- The fields of a sequence of assignments: the last value of each key, where it first came. -/
def ofAssignments (assignments : List (String × α)) : Fields α :=
  assignments.foldl (fun fields (key, value) => fields.put key value) []

end Fields

end Cabinet

import Cabinet.Column.Basic
import Cabinet.Error
import Cabinet.Json.Reader
import Cabinet.Name
import Cabinet.Pattern.Match
import Cabinet.Text.Order

/-!
Which values a column accepts, and what it stores for them.
-/

namespace Cabinet.Column

/-- Refuses a value; a column whose type is outside of the catalog has no label to refuse with. -/
def reject {α : Type} (c : Column) (detail : String) : Except Error α :=
  .error (if c.type.isOther then .noSuchPart else .rejected c.type c.name detail)

/-- The words of tag input, normalised and in the order in which they come. -/
def tagWords (s : String) : List String :=
  ((Text.words s.toList).map Name.normalizeChars).filter (!·.isEmpty) |>.map String.ofList

/-- The texts of a list whose items are all texts. -/
def itemTexts (c : Column) : List Value → Except Error (List String)
  | [] => .ok []
  | .text s :: rest => do
    let others ← itemTexts c rest
    .ok (s :: others)
  | v :: _ => c.reject ("tags must be strings, got " ++ v.described)

/-- The words of tag input, which is a text or a list of texts. -/
def tagInput (c : Column) : Value → Except Error (List String)
  | .text s => .ok (tagWords s)
  | .list items => do
    let texts ← itemTexts c items
    .ok (texts.flatMap tagWords)
  | v => c.reject ("tags must be a space-separated string or a list, got " ++ v.described)

/-- Whether a tag name can be looked up at all. -/
def canLookUp : Value → Bool
  | .list _ => false
  | .object _ => false
  | _ => true

/-- Registered tags without repetition, in order, with single spaces between them. -/
def acceptTags (c : Column) (v : Value) : Except Error String := do
  let words ← c.tagInput v
  if !c.tags.all (canLookUp ·.name) then throw .wrongKind
  match words.find? (!c.hasTag ·) with
  | some tag => throw (.unregisteredTag tag c.name)
  | none =>
    let unique := Text.sort words.eraseDups
    if c.type = .singleTag ∧ 1 < unique.length then
      c.reject ("accepts a single tag, got " ++ toString unique.length ++ ": " ++
        " ".intercalate unique)
    else return " ".intercalate unique

/-- The pattern of a rule. -/
def compileRule (c : Column) (rule : String) : Except Error Pattern :=
  match Pattern.parse rule.toList with
  | .ok pattern => .ok pattern
  | .error fault => .error (fault.error?.getD (.invalidRule c.name rule fault))

def acceptCustom (c : Column) (v : Value) : Except Error Value :=
  match v with
  | .text s =>
    if !c.rule.truthy then .ok v
    else
      match c.rule with
      | .text rule => do
        let pattern ← c.compileRule rule
        if pattern.search s.toList then return v
        else
          c.reject ("value " ++ String.ofList v.shown ++ " does not match rule " ++
            String.ofList c.rule.shown)
      | _ => .error .wrongKind
  | _ => c.reject ("must be a string, got " ++ v.described)

/-- Whether a document is a link: an object with a display name that is not empty and a URL. -/
def isLink : Value → Bool
  | .object fields =>
    match Fields.get? fields "displayName", Fields.get? fields "url" with
    | some (.text name), some (.text _) => !name.isEmpty
    | _, _ => false
  | _ => false

def linkForm : String :=
  "must be a JSON string of the form " ++
    "\x7b\"displayName\": \"<non-empty string>\", \"url\": \"<string>\"\x7d"

def acceptLink (c : Column) (v : Value) : Except Error Value :=
  match v with
  | .text s =>
    match Json.read s.toList with
    | .ok document => if isLink document then .ok v else c.reject linkForm
    | .error _ => c.reject linkForm
  | _ => c.reject linkForm

/-- The truth value that a number or truth value is equal to. -/
def flag? : Value → Option Int
  | .bool b => some (if b then 1 else 0)
  | v =>
    match v.integral? with
    | some n => if n = 0 ∨ n = 1 then some n else none
    | none => none

/-- Whether a number lies between two integers. -/
def isBetween (low high : Int) : Value → Bool
  | .int n => low ≤ n && n ≤ high
  | .float x =>
    (x.compareInt? low).any (· != .lt) && (x.compareInt? high).any (· != .gt)
  | _ => false

def acceptInteger (c : Column) (v : Value) : Except Error Value :=
  match v.integral? with
  | none => c.reject ("must be an integer, got " ++ v.described)
  | some n =>
    if isStorable n then .ok (.int n)
    else c.reject ("must fit in a 64-bit integer, got " ++ String.ofList v.shown)

def acceptFloat (c : Column) (v : Value) : Except Error Value :=
  match v with
  | .int n =>
    if isStorable n then .ok v
    else c.reject ("must fit in a 64-bit integer, got " ++ String.ofList v.shown)
  | .float x =>
    if x.isFinite then .ok v else c.reject ("must be a finite number, got " ++ v.described)
  | _ => c.reject ("must be a number, got " ++ v.described)

/-- Accepts a whole number between bounds. -/
def acceptWhole (c : Column) (low high : Int) (demand : String) (v : Value) :
    Except Error Value :=
  match v.integral? with
  | some n =>
    if low ≤ n ∧ n ≤ high then .ok (.int n) else c.reject (demand ++ ", got " ++ v.described)
  | none => c.reject (demand ++ ", got " ++ v.described)

/-- The value that a column stores for a candidate. -/
def accept (c : Column) (v : Value) : Except Error Value :=
  match c.type with
  | .string | .richText =>
    match v with
    | .text _ => .ok v
    | _ => c.reject ("must be a string, got " ++ v.described)
  | .boolean =>
    match flag? v with
    | some n => .ok (.int n)
    | none => c.reject ("must be 0 or 1, got " ++ v.described)
  | .integer => c.acceptInteger v
  | .float => c.acceptFloat v
  | .date => c.acceptWhole 1 maxInteger "must be a positive epoch-millisecond timestamp" v
  | .rating => c.acceptWhole 0 5 "must be an integer from 0 to 5" v
  | .advancedRating =>
    if isBetween 0 10 v then .ok v
    else c.reject ("must be a number from 0.0 to 10.0, got " ++ v.described)
  | .singleTag | .multiTag => do
    let tags ← c.acceptTags v
    return .text tags
  | .custom => c.acceptCustom v
  | .link => c.acceptLink v
  | .other name => .error (.typeOutsideCatalog c.name name)

end Cabinet.Column

/-!
The order of texts by their characters.
-/

namespace Cabinet.Text

/-- Whether one text comes before another, or is the same. -/
def precedes : List Char → List Char → Bool
  | [], _ => true
  | _ :: _, [] => false
  | a :: s, b :: t => if a < b then true else if b < a then false else precedes s t

/-- Puts texts in order. -/
def sort (texts : List String) : List String :=
  texts.mergeSort fun a b => precedes a.toList b.toList

end Cabinet.Text

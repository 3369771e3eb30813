import Cabinet.Proofs.Search.Literal
import Cabinet.Proofs.Search.Typed

/-!
Comparisons as they are typed before an operand, and what they say of stored integers.
-/

namespace Cabinet

open Storage

namespace Comparison

/-- What is typed before an operand for a comparison with it. -/
def typed : Comparison → List Char
  | equal => []
  | comparison => comparison.symbol

/-- Whether an integer is to another one as a comparison says. -/
def Relates (v n : Int) : Comparison → Prop
  | equal => v = n
  | less => v < n
  | atMost => v ≤ n
  | greater => n < v
  | atLeast => n ≤ v

instance (v n : Int) : (comparison : Comparison) → Decidable (comparison.Relates v n)
  | equal => inferInstanceAs (Decidable (v = n))
  | less => inferInstanceAs (Decidable (v < n))
  | atMost => inferInstanceAs (Decidable (v ≤ n))
  | greater => inferInstanceAs (Decidable (n < v))
  | atLeast => inferInstanceAs (Decidable (n ≤ v))

theorem admits_compare (comparison : Comparison) (v n : Int) :
    comparison.admits (compare v n) = decide (comparison.Relates v n) := by
  rw [Bool.eq_iff_iff, decide_eq_true_eq]
  cases comparison <;> simp [admits, Relates, Int.compare_eq_lt, Int.compare_eq_gt]

end Comparison

namespace Search

/-- Words that may stand after a comparison. -/
def isOperand (s : List Char) : Bool :=
  Query.isBareWord s && s.all fun c => c != '<' && c != '=' && c != '>'

/-- Whether a text is a comparison with an operand. Blanks may stand around the operand and around
both. -/
def Compares (text : List Char) (comparison : Comparison) (operand : List Char) : Prop :=
  ∃ blanks, Text.isAllBlank blanks = true ∧ (comparison = .equal → blanks = []) ∧
    Text.trim text = comparison.typed ++ (blanks ++ operand)

variable {column : String} {comparison : Comparison} {s operand : List Char} {row : Lookup} {v : Int}

theorem isBlank_of_isOperand (h : isOperand operand = true) {c : Char} (hc : c ∈ operand) :
    Text.isBlank c = false :=
  Query.isBlank_of_endsWord ((Query.isBareWord_iff.mp (Bool.and_eq_true_iff.mp h).1).2.2 c hc)

/-- A comparison with an operand is a word. -/
theorem isBareWord_typed (comparison : Comparison) (h : isOperand operand = true) :
    Query.isBareWord (comparison.typed ++ operand) = true := by
  obtain ⟨hne, hhead, hends⟩ := Query.isBareWord_iff.mp (Bool.and_eq_true_iff.mp h).1
  have hsymbol : ∀ c ∈ comparison.typed, Query.endsWord c = false := by
    have hall : comparison.typed.all (!Query.endsWord ·) = true := by
      cases comparison <;> decide
    simpa using hall
  refine Query.isBareWord_iff.mpr ⟨by simp [hne], ?_, ?_⟩
  · cases comparison <;> first | exact hhead | simp [Comparison.typed, Comparison.symbol]
  · exact List.forall_mem_append.mpr ⟨hsymbol, hends⟩

theorem compares_typed (comparison : Comparison) (h : isOperand operand = true) :
    Compares (comparison.typed ++ operand) comparison operand := by
  have hends := (Query.isBareWord_iff.mp (isBareWord_typed comparison h)).2.2
  exact ⟨[], rfl, fun _ => rfl, Text.trim_eq_self fun c hc => Query.isBlank_of_endsWord (hends c hc)⟩

theorem splitComparison?_operand (h : isOperand operand = true) : splitComparison? operand = none := by
  have hmark : ∀ c ∈ operand, c ≠ '<' ∧ c ≠ '=' ∧ c ≠ '>' := by
    simpa [and_assoc] using (Bool.and_eq_true_iff.mp h).2
  unfold splitComparison?
  split
  · exact absurd rfl (hmark '>' List.mem_cons_self).2.2
  · exact absurd rfl (hmark '<' List.mem_cons_self).1
  · exact absurd rfl (hmark '>' List.mem_cons_self).2.2
  · exact absurd rfl (hmark '<' List.mem_cons_self).1
  · rfl

theorem splitComparison?_typed {blanks : List Char} (hne : comparison ≠ .equal)
    (hblanks : Text.isAllBlank blanks = true) (h : isOperand operand = true) :
    splitComparison? (comparison.typed ++ (blanks ++ operand)) = some (comparison, operand) := by
  have htrim : Text.trimLeft (blanks ++ operand) = operand := by
    rw [Text.trimLeft, List.dropWhile_append_of_pos (List.all_eq_true.mp hblanks),
      Text.dropWhile_isBlank fun c hc => isBlank_of_isOperand h hc]
  -- Nothing that follows the mark makes another one of it.
  have hmark : ∀ c ∈ blanks ++ operand, c ≠ '=' := by
    refine List.forall_mem_append.mpr ⟨fun c hc => ?_, fun c hc => ?_⟩
    · rintro rfl
      exact absurd (List.all_eq_true.mp hblanks '=' hc) (by decide)
    · exact (by simpa using List.all_eq_true.mp (Bool.and_eq_true_iff.mp h).2 c hc :
        (c ≠ '<' ∧ c ≠ '=') ∧ c ≠ '>').1.2
  have hsplit : ∀ rest, (∀ c ∈ rest, c ≠ '=') →
      splitComparison? ('<' :: rest) = some (.less, Text.trimLeft rest) ∧
        splitComparison? ('>' :: rest) = some (.greater, Text.trimLeft rest) := by
    intro rest hrest
    cases rest with
    | nil => exact ⟨rfl, rfl⟩
    | cons c rest => simp [splitComparison?, hrest c List.mem_cons_self]
  cases comparison with
  | equal => exact absurd rfl hne
  | less => exact (hsplit _ hmark).1.trans (congrArg (fun s => some (Comparison.less, s)) htrim)
  | atMost => exact congrArg (fun s => some (Comparison.atMost, s)) htrim
  | greater => exact (hsplit _ hmark).2.trans (congrArg (fun s => some (Comparison.greater, s)) htrim)
  | atLeast => exact congrArg (fun s => some (Comparison.atLeast, s)) htrim

/-- How a text that is a comparison is split. -/
theorem Compares.splitComparison? (h : Compares s comparison operand) (hs : isOperand operand = true) :
    (comparison = .equal ∧ Text.trim s = operand ∧ Search.splitComparison? operand = none) ∨
      (comparison ≠ .equal ∧
        Search.splitComparison? (Text.trim s) = some (comparison, operand)) := by
  obtain ⟨blanks, hblanks, hequal, htrim⟩ := h
  by_cases hcomparison : comparison = .equal
  · subst hcomparison
    rw [hequal rfl] at htrim
    exact .inl ⟨rfl, htrim, splitComparison?_operand hs⟩
  · rw [htrim]
    exact .inr ⟨hcomparison, splitComparison?_typed hcomparison hblanks hs⟩

/-- A comparison with what is a number, if it is one. -/
theorem Compares.numericClause? (h : Compares s comparison operand) (hs : isOperand operand = true) :
    Search.numericClause? column s =
      if isNumber operand then some (.compare column comparison (numberValue operand)) else none := by
  unfold Search.numericClause?
  obtain ⟨rfl, htrim, hsplit⟩ | ⟨-, hsplit⟩ := h.splitComparison? hs
  · simp only [htrim, hsplit]
  · simp only [hsplit]

/-- The clause of a comparison with a day: a moment is later than the day if it is after the last
millisecond, and earlier if it is before the first one. -/
def dayClause (column : String) (comparison : Comparison) (d : Calendar.Day) : Clause :=
  match comparison with
  | .equal => .between column d.bounds.1 d.bounds.2
  | .less | .atLeast => .compare column comparison (.int d.bounds.1)
  | .greater | .atMost => .compare column comparison (.int d.bounds.2)

/-- A comparison with what is a day, if it is one. -/
theorem Compares.dayClause? (h : Compares s comparison operand) (hs : isOperand operand = true) :
    Search.dayClause? column s = (dayValue? operand).map (dayClause column comparison) := by
  unfold Search.dayClause?
  obtain ⟨rfl, htrim, hsplit⟩ | ⟨hne, hsplit⟩ := h.splitComparison? hs
  · simp only [htrim, hsplit]
    cases dayValue? operand <;> rfl
  · simp only [hsplit]
    cases dayValue? operand with
    | none => rfl
    | some d => cases comparison <;> first | rfl | exact absurd rfl hne

/-- A term of a field that means a column is a term of the column. -/
theorem lower_of_resolve {columns : List Column} {name text : String} {regex : Bool} {c : Column}
    {d : Clause} (hcolumn : resolve columns name.toList = .ok (some c))
    (hterm : termClause c.name c.type text regex = .ok d) :
    lower columns (.field name text regex) = .ok (.clause d) := by
  rw [lower, fieldClause, hcolumn, ok_bind]
  dsimp only
  rw [hterm]
  rfl

/-- How a stored integer is compared with a number. -/
theorem holds_number (hrow : row column = (.integer, .integer v)) {value : Value}
    (h : (∃ n, given value = .integer n) ∨ ∃ x, given value = .real x) :
    holds row (.clause (.compare column comparison value)) =
      .ok (some (comparison.admits ((Cell.integer v).order (given value)))) := by
  rw [holds, holdsClause, hrow]
  obtain ⟨n, hn⟩ | ⟨x, hx⟩ := h
  · rw [hn]
    rfl
  · rw [hx]
    rfl

end Search

end Cabinet

import Cabinet.Proofs.Query.Rendering
import Cabinet.Proofs.Search.Tree
import Mathlib.Data.List.TakeWhile

/-!
Searches that name a field and a single word, as they are typed.
-/

namespace Cabinet

namespace Query

/-- Words that may stand after the colon of a field as they are: no blank, bracket or quotation mark is
in them, and no slash begins them. -/
def isBareWord : List Char → Bool
  | [] => false
  | c :: rest => c != '/' && (c :: rest).all (!endsWord ·)

variable {s : List Char}

theorem isBareWord_iff : isBareWord s = true ↔
    s ≠ [] ∧ s.head? ≠ some '/' ∧ ∀ c ∈ s, endsWord c = false := by
  cases s <;> simp [isBareWord]

theorem isBlank_of_endsWord {c : Char} (h : endsWord c = false) : Text.isBlank c = false := by
  simp only [endsWord, Bool.or_eq_false_iff] at h
  exact h.1.1.1

theorem valueToken?_bareWord (h : isBareWord s = true) : valueToken? s = some (.term, s) := by
  cases s with
  | nil => simp [isBareWord] at h
  | cons c rest =>
    simp only [isBareWord, Bool.and_eq_true, bne_iff_ne, ne_eq] at h
    obtain ⟨hslash, hword⟩ := h
    have hquote : c ≠ '"' := by
      rintro rfl
      simp [endsWord] at hword
    have hdelimited : delimited? (c :: rest) = none := by
      simp [delimited?, regexLexeme?, phraseLexeme?, hslash, hquote]
    have htake : (c :: rest).takeWhile (!endsWord ·) = c :: rest := by
      rw [List.takeWhile_eq_self_iff]
      simpa using hword
    simp [valueToken?, hdelimited, valueLexeme?, htake]

theorem ignores_bareWord (h : isBareWord s = true) :
    s.head?.map Expectation.value.ignores = some false := by
  cases s with
  | nil => simp [isBareWord] at h
  | cons c rest =>
    have hblank := isBlank_of_endsWord ((isBareWord_iff.mp h).2.2 c List.mem_cons_self)
    have hspace : c ≠ ' ' ∧ c ≠ '\t' := by
      constructor <;> (rintro rfl; simp [Text.isBlank] at hblank)
    simp [Expectation.ignores, hspace]

/-- A field with a word after its colon is read as it is typed. -/
theorem parse_bareWord {name text : String} (hname : isFieldName name.toList = true)
    (htext : isBareWord text.toList = true) :
    parse (name ++ ":" ++ text).toList = .ok (.field name text false) := by
  obtain ⟨position, hfield⟩ := takes_fieldName hname 0 (text.toList ++ [])
  have htoken : Expectation.value.token? (text.toList ++ []) = some (.term, text.toList) := by
    rw [List.append_nil]
    exact valueToken?_bareWord htext
  have hstep : ∀ position, Reading.step ⟨[.field name], none⟩ ⟨.term, text.toList, position⟩ =
      .ok ⟨[], some (.field name text false)⟩ := fun position => by
    simp [Reading.step, Reading.beginClause, Reading.takeValue, Token.value]
  have hword := readText_token (ignores_bareWord htext) htoken hstep position
  calc parse (name ++ ":" ++ text).toList =
      readText .clause ⟨[], none⟩ 0 (name.toList ++ [':'] ++ (text.toList ++ [])) := by
        rw [List.append_nil, String.toList_append, String.toList_append]
        rfl
    _ = .ok (.field name text false) := by
        rw [hfield, hword, readText, tokensFrom]
        simp [readFrom, Reading.finish, settle]

end Query

namespace Search

/-- A field with a word after its colon is searched for as the term that it is. -/
theorem compile_bareWord {columns : List Column} {name text : String}
    (hname : Query.isFieldName name.toList = true) (htext : Query.isBareWord text.toList = true) :
    compile columns (.text (name ++ ":" ++ text)) = lower columns (.field name text false) :=
  compile_of_parse (Query.parse_bareWord hname htext) (Nat.le_add_left 1 949)

end Search

end Cabinet

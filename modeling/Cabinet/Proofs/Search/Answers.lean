import Cabinet.Proofs.Query.Acceptance
import Cabinet.Proofs.Query.Rendering
import Cabinet.Proofs.Search.Tree

/-!
Every search text becomes a condition, that of its tree or one on the words of the title. The one
exception is a field that gives a place in more digits than a number may have.
-/

namespace Cabinet

namespace Text

theorem begin_word_eq_nil_iff {word : List Char} {others : List (List Char)} :
    (if word.isEmpty then others else word :: others) = [] ↔ word = [] ∧ others = [] := by
  cases word <;> simp

/-- There are words in every text that is not blank. -/
theorem words_eq_nil_iff {s : List Char} : words s = [] ↔ isAllBlank s = true := by
  -- The word at the beginning is not among the others until a blank ends it.
  have hparts : ((firstAndWords s).1 = [] ∧ (firstAndWords s).2 = []) ↔ isAllBlank s = true := by
    induction s with
    | nil => simp [firstAndWords, isAllBlank]
    | cons c rest ih =>
      simp only [isAllBlank, List.all_cons, Bool.and_eq_true] at ih ⊢
      rw [← ih, firstAndWords]
      cases isBlank c
      · simp
      · simp only [if_true, true_and]
        exact begin_word_eq_nil_iff
  exact begin_word_eq_nil_iff.trans hparts

end Text

/-- The names of the fields that a tree has. -/
def Query.fieldNames : Query → List String
  | term .. => []
  | field name _ _ => [name]
  | negation operand => operand.fieldNames
  | group body => body.fieldNames
  | joined _ left right => left.fieldNames ++ right.fieldNames
  | unknown _ => []

namespace Search

variable {columns : List Column} {α β : Type} {p p' : Prop} {x : Except Error α}

/-- The computation has a result, unless a condition holds under which a number cannot be read. -/
def UnreadableIff (p : Prop) (x : Except Error α) : Prop :=
  (p → x = .error .unreadable) ∧ (¬p → ∃ a, x = .ok a)

namespace UnreadableIff

theorem of_ok {a : α} (h : x = .ok a) : UnreadableIff False x :=
  ⟨False.elim, fun _ => ⟨a, h⟩⟩

theorem congr (h : UnreadableIff p x) (hp : p ↔ p') : UnreadableIff p' x :=
  propext hp ▸ h

theorem bind {next : α → Except Error β} (h : UnreadableIff p x)
    (hnext : ∀ a, x = .ok a → UnreadableIff p' (next a)) : UnreadableIff (p ∨ p') (x >>= next) := by
  by_cases hp : p
  · exact ⟨fun _ => by rw [h.1 hp, error_bind], fun hnot => absurd (.inl hp) hnot⟩
  · obtain ⟨a, ha⟩ := h.2 hp
    rw [ha, ok_bind]
    exact (hnext a ha).congr (by simp [hp])

/-- What is made of the result is there whenever the result is. -/
theorem made {next : α → Except Error β} (h : UnreadableIff p x)
    (hnext : ∀ a, x = .ok a → ∃ b, next a = .ok b) : UnreadableIff p (x >>= next) := by
  have hthere : ∀ a, x = .ok a → UnreadableIff False (next a) := by
    intro a ha
    obtain ⟨b, hb⟩ := hnext a ha
    exact of_ok hb
  exact (h.bind hthere).congr (by simp)

end UnreadableIff

/-- A reference that is no column's name and gives a place in more digits than a number may have. -/
def IsOverlong (columns : List Column) (reference : List Char) : Prop :=
  (∀ c ∈ columns, sameName reference c.name.toList = false) ∧
    ∃ digits, placeDigits? reference = some digits ∧ Text.maxIntegerDigits < digits.length

/-- Whether a field of the tree is such a reference. -/
def HasOverlong (columns : List Column) (q : Query) : Prop :=
  ∃ name ∈ q.fieldNames, IsOverlong columns name.toList

theorem resolve_answers (columns : List Column) (reference : List Char) :
    UnreadableIff (IsOverlong columns reference) (resolve columns reference) := by
  unfold resolve
  split
  · next hempty =>
    obtain rfl := List.isEmpty_iff.mp hempty
    exact (UnreadableIff.of_ok rfl).congr (by simp [IsOverlong, placeDigits?])
  · split
    -- A name comes before a place, however long the place is.
    · next c hfind =>
      have hnamed := List.find?_some hfind
      refine (UnreadableIff.of_ok rfl).congr ⟨False.elim, fun hover => ?_⟩
      simp [hover.1 c (List.mem_of_find?_eq_some hfind)] at hnamed
    · next hfind =>
      have hunnamed : ∀ c ∈ columns, sameName reference c.name.toList = false := by
        simpa using hfind
      split
      · next hplace => exact (UnreadableIff.of_ok rfl).congr (by simp [IsOverlong, hplace])
      · next digits hplace =>
        have hover : IsOverlong columns reference ↔ Text.maxIntegerDigits < digits.length := by
          simpa [IsOverlong, hplace] using fun _ => hunnamed
        split
        · next hlong => exact ⟨fun _ => rfl, fun hnot => absurd (hover.mpr hlong) hnot⟩
        · next hshort => exact (UnreadableIff.of_ok rfl).congr (by simp [hover, hshort])

/-- Whatever a term says, it is a condition on a column of the catalog. -/
theorem termClause_ok {type : ColumnType} (h : type.isOther = false) (column text : String)
    (regex : Bool) : ∃ c, termClause column type text regex = .ok c := by
  unfold termClause
  dsimp only
  split
  · exact ⟨_, rfl⟩
  · split
    · simp [ColumnType.isOther] at h
    · split <;> exact ⟨_, rfl⟩
    · exact ⟨_, rfl⟩
    · split <;> exact ⟨_, rfl⟩

variable (hcatalog : ∀ c ∈ columns, c.type.isOther = false)

include hcatalog in
theorem fieldClause_answers (name text : String) (regex : Bool) :
    UnreadableIff (IsOverlong columns name.toList) (fieldClause columns name text regex) := by
  refine (resolve_answers columns name.toList).made fun column? hcolumn => ?_
  cases column? with
  | none => exact termClause_ok rfl _ _ _
  | some c => exact termClause_ok (hcatalog c (mem_of_resolve hcolumn)) _ _ _

include hcatalog in
/-- The condition of a tree is there unless the tree has a field that cannot be read. -/
theorem lower_answers {q : Query} (hq : q.Plain) :
    UnreadableIff (HasOverlong columns q) (lower columns q) := by
  induction q with
  | term text regex =>
    have hstring : ColumnType.string.isOther = false := rfl
    obtain ⟨c, hc⟩ := termClause_ok hstring titleColumn text regex
    refine (UnreadableIff.of_ok (a := .clause c) ?_).congr (by simp [HasOverlong, Query.fieldNames])
    rw [lower, hc, ok_bind, pure_eq_ok]
  | field name text regex =>
    have hclause := fieldClause_answers hcatalog name text regex
    exact (hclause.made fun c _ => ⟨.clause c, rfl⟩).congr (by simp [HasOverlong, Query.fieldNames])
  | negation operand ih => exact (ih hq).made fun c _ => ⟨.negation c, rfl⟩
  | group body ih => exact ih hq
  | joined connective left right ihl ihr =>
    obtain ⟨-, hleft, hright⟩ := hq
    have hboth := (ihl hleft).bind fun l _ =>
      (ihr hright).made fun r _ => ⟨Condition.joined (capitals connective) l r, rfl⟩
    exact hboth.congr (by simp [HasOverlong, Query.fieldNames, or_and_right, exists_or])
  | unknown text => exact hq.elim

theorem read_eq_ok_iff {text : String} {q : Query} :
    read text = .ok q ↔ Query.parse text.toList = .ok q ∧ q.depth ≤ maxDepth := by
  unfold read
  rw [bind_eq_ok_iff]
  constructor
  · rintro ⟨q', hparse, h⟩
    split at h
    · simp at h
    · next hdepth =>
      obtain rfl := Except.ok.inj h
      exact ⟨hparse, Nat.le_of_not_lt hdepth⟩
  · rintro ⟨hparse, hdepth⟩
    exact ⟨q, hparse, if_neg (Nat.not_lt.mpr hdepth)⟩

/-- A text without a tree is told to be no search. -/
theorem read_kind {text : String} {e : Error} (h : read text = .error e) : e.kind = .query := by
  unfold read at h
  cases hparse : Query.parse text.toList with
  | error e' =>
    rw [hparse, error_bind] at h
    obtain rfl := Except.error.inj h
    exact Query.readFrom_kind (fun fault hfault => Query.tokensFrom_fault hfault) hparse
  | ok q =>
    rw [hparse, ok_bind] at h
    split at h
    · obtain rfl := Except.error.inj h
      rfl
    · simp at h

theorem fallback_chain {text : String} (h : Text.isAllBlank text.toList = false) :
    ∃ first rest, fallback text = .chain first rest := by
  unfold fallback
  split
  · next hwords =>
    rw [List.map_eq_nil_iff, Text.words_eq_nil_iff, h] at hwords
    cases hwords
  · exact ⟨_, _, rfl⟩

include hcatalog in
/-- What becomes of a search text. No text and a blank text let all rows pass. A text with a tree that
is not too deep becomes the condition of the tree, and fails exactly if a field of the tree gives a
place in more digits than a number may have. Any other text is no search, and at least one word of it
is looked for in the title. -/
theorem compile_answers (text : String) :
    compile columns .null = .ok .always ∧
      (Text.isAllBlank text.toList = true → compile columns (.text text) = .ok .always) ∧
      (∀ q, Query.parse text.toList = .ok q → q.depth ≤ maxDepth →
        compile columns (.text text) = lower columns q ∧
          (HasOverlong columns q → lower columns q = .error .unreadable) ∧
          (¬HasOverlong columns q → ∃ c, lower columns q = .ok c)) ∧
      (Text.isAllBlank text.toList = false →
        (∀ q, Query.parse text.toList = .ok q → maxDepth < q.depth) →
          (∃ e, read text = .error e ∧ e.kind = .query) ∧
            compile columns (.text text) = .ok (fallback text) ∧
              ∃ first rest, fallback text = .chain first rest) := by
  refine ⟨rfl, fun hblank => ?_, fun q hq hdepth => ?_, fun hblank hnone => ?_⟩
  · rw [compile, compileText, if_pos hblank]
  · exact ⟨compile_of_parse hq hdepth, lower_answers hcatalog (Query.parse_plain hq)⟩
  · cases hread : read text with
    | ok q =>
      obtain ⟨hq, hdepth⟩ := read_eq_ok_iff.mp hread
      exact absurd hdepth (Nat.not_le.mpr (hnone q hq))
    | error e =>
      refine ⟨⟨e, rfl, read_kind hread⟩, ?_, fallback_chain hblank⟩
      simp only [compile, compileText, hblank, hread, Bool.false_eq_true, if_false]

theorem compile_answers_hidden :
    (∀ c ∈ Column.protectedDefinitions, c.type.isOther = false) ∧
      Query.parse "hidden:true".toList = .ok (.field "hidden" "true" false) ∧
      compile Column.protectedDefinitions (.text "hidden:true") =
        .ok (.clause (.compare "hidden" .equal (.int 1))) ∧
      (∀ q, Query.parse "(hidden".toList ≠ .ok q) ∧
      ∃ first rest, compile Column.protectedDefinitions (.text "(hidden") = .ok (.chain first rest) := by
  have hcatalog : ∀ c ∈ Column.protectedDefinitions, c.type.isOther = false := by decide
  have hparse : Query.parse "hidden:true".toList = .ok (.field "hidden" "true" false) :=
    eq_ok_of_toOption (by decide +kernel)
  have hfails : (Query.parse "(hidden".toList).toOption = none := by decide +kernel
  have hnone : ∀ q, Query.parse "(hidden".toList ≠ .ok q := fun q hq => by
    rw [hq] at hfails
    cases hfails
  obtain ⟨-, -, htree, -⟩ := compile_answers hcatalog "hidden:true"
  obtain ⟨-, -, -, hwords⟩ := compile_answers hcatalog "(hidden"
  obtain ⟨-, hfallback, first, rest, hchain⟩ :=
    hwords (by decide) fun q hq => absurd hq (hnone q)
  refine ⟨hcatalog, hparse, ?_, hnone, first, rest, hchain ▸ hfallback⟩
  exact (htree _ hparse (by decide)).1.trans rfl

/-- The text of a search for `x` in the field at a place that is written in ones. -/
def onesText (n : Nat) : String :=
  String.ofList ('i' :: (List.replicate n '1' ++ [':', '"', 'x', '"']))

theorem parse_ones (n : Nat) : Query.parse (onesText n).toList =
    .ok (.field (String.ofList ('i' :: List.replicate n '1')) "x" false) := by
  have hname : Query.isFieldName ('i' :: List.replicate n '1') = true := by
    simp [Query.isFieldName, Query.beginsWord, Query.endsWord, Text.isBlank]
  have hrender := Query.parse_render_eq
    (q := .field (String.ofList ('i' :: List.replicate n '1')) "x" false)
    (by simp [Query.isRenderable, hname, Query.isValueText])
  simpa [onesText, Query.render, Query.valueText, Query.protect, Query.bracketed] using hrender

theorem isOverlong_ones {n : Nat} (hn : Text.maxIntegerDigits < n) :
    IsOverlong Column.protectedDefinitions ('i' :: List.replicate n '1') := by
  obtain ⟨k, rfl⟩ : ∃ k, n = k + 1 := ⟨n - 1, by omega⟩
  have hdigit : Text.isDigit '1' = true := by decide
  -- No name begins with the two characters that the reference begins with.
  have hlower : Text.lower ('i' :: List.replicate (k + 1) '1') =
      'i' :: '1' :: Text.lowerAfter ['1', 'i'] (List.replicate k '1') := rfl
  have hnames : ∀ c ∈ Column.protectedDefinitions,
      (Text.lower c.name.toList).take 2 ≠ ['i', '1'] := by decide
  refine ⟨fun c hc => Bool.eq_false_iff.mpr fun hsame => hnames c hc ?_,
    List.replicate (k + 1) '1', ?_, by simpa using hn⟩
  · rw [eq_of_beq hsame, hlower]
    rfl
  · simp [placeDigits?, isPlaceLetter, hdigit]

theorem compile_ones {n : Nat} (hn : Text.maxIntegerDigits < n) :
    compile Column.protectedDefinitions (.text (onesText n)) = .error .unreadable := by
  rw [compile_of_parse (parse_ones n) (Nat.le_add_left 1 949)]
  refine (lower_answers (by decide) (Query.parse_plain (parse_ones n))).1
    ⟨_, List.mem_singleton_self _, ?_⟩
  simpa using isOverlong_ones hn

/-- A place in 4301 digits is one digit too long, though the text has a tree. -/
theorem compile_too_many_ones :
    (∀ c ∈ Column.protectedDefinitions, c.type.isOther = false) ∧
      (∃ q, Query.parse (onesText 4301).toList = .ok q ∧ q.depth ≤ maxDepth) ∧
      compile Column.protectedDefinitions (.text (onesText 4301)) = .error .unreadable :=
  ⟨by decide, ⟨_, parse_ones 4301, by decide⟩, compile_ones (by decide)⟩

end Search

end Cabinet

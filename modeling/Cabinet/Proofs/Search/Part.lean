import Cabinet.Proofs.Search.Truth

/-!
Looking for a part of a text. A pattern in which every character of the part stands for itself fits
a text exactly if the part occurs in it, up to the case of the letters of the alphabet.
-/

namespace Cabinet

open Storage

namespace Text

/-- Whether a text occurs in another one, where letters of the alphabet match in either case. -/
def Occurs (part s : List Char) : Prop :=
  foldAscii part <:+: foldAscii s

instance (part s : List Char) : Decidable (Occurs part s) :=
  inferInstanceAs (Decidable (_ <:+: _))

theorem occurs_iff {part s : List Char} :
    Occurs part s ↔ ∃ before found after, s = before ++ (found ++ after) ∧
      foldAscii part = foldAscii found := by
  constructor
  · rintro ⟨a, b, h⟩
    obtain ⟨before, rest, hs, -, hrest⟩ :=
      List.map_eq_append_iff.mp (h.symm.trans (List.append_assoc ..))
    obtain ⟨found, after, rfl, hfound, -⟩ := List.map_eq_append_iff.mp hrest
    exact ⟨before, found, after, hs, hfound.symm⟩
  · rintro ⟨before, found, after, rfl, h⟩
    refine ⟨foldAscii before, foldAscii after, ?_⟩
    rw [h]
    simp [foldAscii]

/-- Whether a text is free of the null character. -/
def IsNullFree (s : List Char) : Prop :=
  ∀ c ∈ s, c.toNat ≠ 0

instance (s : List Char) : Decidable (IsNullFree s) :=
  decidable_of_iff (s.all (·.toNat != 0) = true) (by simp [IsNullFree])

theorem mem_firstAndWords {s : List Char} {c : Char}
    (h : c ∈ (firstAndWords s).1 ∨ ∃ word ∈ (firstAndWords s).2, c ∈ word) : c ∈ s := by
  induction s with
  | nil => simp [firstAndWords] at h
  | cons d rest ih =>
    rw [firstAndWords] at h
    dsimp only at h
    split at h <;> grind

theorem mem_of_mem_words {s word : List Char} {c : Char} (hw : word ∈ words s) (hc : c ∈ word) :
    c ∈ s := by
  unfold words at hw
  dsimp only at hw
  apply mem_firstAndWords
  split at hw <;> grind

end Text

namespace Storage

variable {test : List Char → Bool} {c : Char} {s part rest : List Char}

theorem afterSome_eq_true_iff :
    afterSome test s = true ↔ ∃ before after, s = before ++ after ∧ test after = true := by
  induction s with
  | nil =>
    refine ⟨fun h => ⟨[], [], rfl, h⟩, ?_⟩
    rintro ⟨before, after, hsplit, h⟩
    obtain ⟨-, rfl⟩ := List.append_eq_nil_iff.mp hsplit.symm
    exact h
  | cons c rest ih =>
    rw [afterSome, Bool.or_eq_true, ih]
    constructor
    · rintro (h | ⟨before, after, rfl, h⟩)
      · exact ⟨[], _, rfl, h⟩
      · exact ⟨c :: before, after, rfl, h⟩
    · rintro ⟨before, after, hsplit, h⟩
      cases before with
      | nil => exact .inl (hsplit ▸ h)
      | cons d before => exact .inr ⟨before, after, (List.cons.inj hsplit).2, h⟩

theorem fits_rest : fits ['%'] s = true := by
  rw [fits, afterSome_eq_true_iff]
  exact ⟨s, [], by simp, rfl⟩

/-- A character that stands for itself, with a backslash before it or without, is not found at the end
of a text. -/
theorem fits_escaped_nil (c : Char) (rest : List Char) :
    fits (Search.escapePattern [c] ++ rest) [] = false := by
  by_cases hc : c = '\\' ∨ c = '%' ∨ c = '_'
  · simp [Search.escapePattern, hc, fits]
  · obtain ⟨hslash, hany, hone⟩ : c ≠ '\\' ∧ c ≠ '%' ∧ c ≠ '_' := by simpa using hc
    simp [Search.escapePattern, fits, hslash, hany, hone]

theorem fits_escaped_cons (c d : Char) (rest s : List Char) :
    fits (Search.escapePattern [c] ++ rest) (d :: s) = (c.toLower == d.toLower && fits rest s) := by
  by_cases hc : c = '\\' ∨ c = '%' ∨ c = '_'
  · simp [Search.escapePattern, hc, fits]
  · obtain ⟨hslash, hany, hone⟩ : c ≠ '\\' ∧ c ≠ '%' ∧ c ≠ '_' := by simpa using hc
    simp [Search.escapePattern, fits, hslash, hany, hone, bne_iff_ne.mpr hslash, bne_iff_ne.mpr hone]

theorem fits_escapePattern :
    fits (Search.escapePattern part ++ rest) s = true ↔
      ∃ found after, s = found ++ after ∧ Text.foldAscii part = Text.foldAscii found ∧
        fits rest after = true := by
  induction part generalizing s with
  | nil =>
    refine ⟨fun h => ⟨[], s, rfl, rfl, h⟩, ?_⟩
    rintro ⟨found, after, rfl, hfound, h⟩
    obtain rfl := List.map_eq_nil_iff.mp hfound.symm
    exact h
  | cons c part ih =>
    have hpattern : Search.escapePattern (c :: part) ++ rest =
        Search.escapePattern [c] ++ (Search.escapePattern part ++ rest) := by
      simp [Search.escapePattern]
    rw [hpattern]
    constructor
    · intro h
      cases s with
      | nil => simp [fits_escaped_nil] at h
      | cons d s =>
        rw [fits_escaped_cons, Bool.and_eq_true, beq_iff_eq, ih] at h
        obtain ⟨hd, found, after, rfl, hfound, h⟩ := h
        exact ⟨d :: found, after, rfl, congrArg₂ List.cons hd hfound, h⟩
    · rintro ⟨found, after, rfl, hfound, h⟩
      obtain ⟨d, found, rfl, hd, hfound⟩ := List.map_eq_cons_iff.mp hfound.symm
      rw [List.cons_append, fits_escaped_cons, Bool.and_eq_true, beq_iff_eq, ih]
      exact ⟨hd.symm, found, after, rfl, hfound.symm, h⟩

/-- A pattern of the characters of a part, each for itself, fits the texts that the part occurs in. -/
theorem fits_part :
    fits ('%' :: Search.escapePattern part ++ ['%']) s = true ↔ Text.Occurs part s := by
  rw [Text.occurs_iff, List.cons_append, fits, afterSome_eq_true_iff]
  simp only [fits_escapePattern, fits_rest, and_true]
  constructor
  · rintro ⟨before, _, rfl, found, after, rfl, h⟩
    exact ⟨before, found, after, rfl, h⟩
  · rintro ⟨before, found, after, rfl, h⟩
    exact ⟨before, _, rfl, found, after, rfl, h⟩

theorem beforeNull_eq_self (h : Text.IsNullFree s) : beforeNull s = s := by
  rw [beforeNull, List.takeWhile_eq_self_iff]
  simpa [Text.IsNullFree] using h

/-- Clauses that can all be decided are decided together. -/
theorem holdsAll_eq {row : Lookup} {clauses : List Clause} (t : Truth)
    (h : ∀ c ∈ clauses, holdsClause row c = .ok (c.truth (row c.column))) :
    holdsAll row t clauses = .ok (clauses.foldl (fun t c => t.and (c.truth (row c.column))) t) := by
  induction clauses generalizing t with
  | nil => rfl
  | cons c rest ih =>
    rw [holdsAll]
    split
    · next hfalse => rw [hfalse, foldl_and_false]
    · rw [h c List.mem_cons_self, ok_bind, ih _ fun d hd => h d (List.mem_cons_of_mem _ hd)]
      rfl

end Storage

namespace Search

variable {column : String} {part s : List Char}

theorem isNullFree_pattern (h : Text.IsNullFree part) :
    Text.IsNullFree ('%' :: escapePattern part ++ ['%']) := by
  intro c hc
  simp only [escapePattern, List.cons_append, List.mem_cons, List.mem_append, List.mem_flatMap,
    List.not_mem_nil, or_false] at hc
  obtain rfl | ⟨d, hd, hc⟩ | rfl := hc
  · decide
  · split at hc
    · obtain rfl | rfl : c = '\\' ∨ c = d := by simpa using hc
      · decide
      · exact h c hd
    · obtain rfl : c = d := by simpa using hc
      exact h c hd
  · decide

/-- The clause of a part of the text says yes of the texts that the part occurs in. -/
theorem truth_partClause (hpart : Text.IsNullFree part) {v : String} (hv : Text.IsNullFree v.toList)
    (a : Affinity) :
    (partClause column part).truth (a, .text v) = some (decide (Text.Occurs part v.toList)) := by
  have hfits : fits (beforeNull ('%' :: escapePattern part ++ ['%'])) (beforeNull v.toList) =
      decide (Text.Occurs part v.toList) := by
    rw [beforeNull_eq_self (isNullFree_pattern hpart), beforeNull_eq_self hv, Bool.eq_iff_iff,
      fits_part, decide_eq_true_eq]
  exact congrArg some hfits

/-- The clauses of some parts say yes together of the texts that all of them occur in. -/
theorem truth_partClauses {parts : List (List Char)} (hparts : ∀ part ∈ parts, Text.IsNullFree part)
    {v : String} (hv : Text.IsNullFree v.toList) {row : Lookup} {a : Affinity}
    (hrow : row column = (a, .text v)) (b : Bool) :
    (parts.map (partClause column)).foldl (fun t c => Truth.and t (c.truth (row c.column))) (some b) =
      some (b && decide (∀ part ∈ parts, Text.Occurs part v.toList)) := by
  induction parts generalizing b with
  | nil => simp
  | cons part rest ih =>
    rw [List.forall_mem_cons] at hparts
    have hclause : (partClause column part).truth (row (partClause column part).column) =
        some (decide (Text.Occurs part v.toList)) := by
      have htruth : (partClause column part).truth (a, .text v) = _ := truth_partClause hparts.1 hv a
      exact (congrArg (partClause column part).truth hrow).trans htruth
    rw [List.map_cons, List.foldl_cons, hclause, Truth.and_some, ih hparts.2]
    simp [Bool.and_assoc]

/-- The clause of a part can be decided unless its pattern is too long. -/
theorem holds_partClause (row : Lookup)
    (h : (String.ofList ('%' :: escapePattern part ++ ['%'])).utf8ByteSize ≤ maxPatternBytes) :
    holdsClause row (partClause column part) =
      .ok ((partClause column part).truth (row (partClause column part).column)) := by
  rw [partClause, holdsClause, if_neg (Nat.not_lt.mpr h)]
  rfl

theorem fallback_eq {text : String} {word : List Char} {others : List (List Char)}
    (h : Text.words text.toList = word :: others) : fallback text =
      .chain (partClause titleColumn word) (others.map (partClause titleColumn)) := by
  rw [fallback, h]
  rfl

variable {text : String} {row : Lookup} {a : Affinity} {v : String}

/-- Words of the title are looked for one by one. -/
theorem truth_fallback (htext : Text.IsNullFree text.toList) (hv : Text.IsNullFree v.toList)
    (hrow : row titleColumn = (a, .text v)) : (fallback text).truth row =
      some (decide (∀ word ∈ Text.words text.toList, Text.Occurs word v.toList)) := by
  have hwords : ∀ word ∈ Text.words text.toList, Text.IsNullFree word := fun word hword c hc =>
    htext c (Text.mem_of_mem_words hword hc)
  cases hsplit : Text.words text.toList with
  | nil => simp [fallback, hsplit, Condition.truth]
  | cons word others =>
    have htruth := truth_partClauses (hsplit ▸ hwords) hv hrow true
    rw [List.map_cons, List.foldl_cons, Truth.true_and, Bool.true_and] at htruth
    rw [fallback_eq hsplit, Condition.truth, htruth]

/-- Words of the title can be decided unless the pattern of one is too long. -/
theorem holds_fallback (row : Lookup) (h : ∀ word ∈ Text.words text.toList,
      (String.ofList ('%' :: escapePattern word ++ ['%'])).utf8ByteSize ≤ maxPatternBytes) :
    holds row (fallback text) = .ok ((fallback text).truth row) := by
  cases hsplit : Text.words text.toList with
  | nil =>
    rw [fallback, hsplit]
    rfl
  | cons word others =>
    rw [hsplit, List.forall_mem_cons] at h
    rw [fallback_eq hsplit, holds, holds_partClause row h.1, ok_bind, holdsAll_eq]
    · rfl
    · intro c hc
      obtain ⟨other, hother, rfl⟩ := List.mem_map.mp hc
      exact holds_partClause row (h.2 other hother)

/-- A clause that a term becomes looks for a part of the text only if it looks for all of the term. -/
theorem like_of_termClause {type : ColumnType} {regex : Bool} {name : String} {pattern : List Char}
    (h : termClause column type text regex = .ok (.like name pattern)) :
    Clause.like name pattern = partClause column text.toList := by
  obtain ⟨-, hc⟩ | ⟨-, ⟨b, -, hc⟩ | hday | hnumeric | hc⟩ := termClause_eq_ok h
  · simp at hc
  · simp at hc
  · obtain ⟨_, _, -, -, hc | ⟨_, _, -, hc⟩⟩ := dayClause?_eq_some hday
    · simp at hc
    · simp at hc
  · obtain ⟨_, _, -, hc⟩ := numericClause?_eq_some hnumeric
    simp at hc
  · exact hc

/-- A term that is looked for as a part of the text is found in the texts that it occurs in, whatever
its characters mean in patterns; the terms about the title are looked for so. Where a search text is
taken for words of the title, it is true of the titles that all the words occur in. The storage says
the same as long as no pattern is too long for it. -/
theorem parts_found_literally (htext : Text.IsNullFree text.toList) (hv : Text.IsNullFree v.toList) :
    termClause titleColumn .string text false = .ok (partClause titleColumn text.toList) ∧
      (∀ column type name pattern, termClause column type text false = .ok (.like name pattern) →
        name = column ∧ ∀ row a, row column = (a, .text v) →
          (Clause.like name pattern).truth (row column) =
            some (decide (Text.Occurs text.toList v.toList)) ∧
          ((String.ofList pattern).utf8ByteSize ≤ maxPatternBytes →
            holdsClause row (.like name pattern) =
              .ok (some (decide (Text.Occurs text.toList v.toList))))) ∧
      ∀ row a, row titleColumn = (a, .text v) →
        (fallback text).truth row =
          some (decide (∀ word ∈ Text.words text.toList, Text.Occurs word v.toList)) ∧
        ((∀ word ∈ Text.words text.toList,
          (String.ofList ('%' :: escapePattern word ++ ['%'])).utf8ByteSize ≤ maxPatternBytes) →
            holds row (fallback text) = .ok ((fallback text).truth row)) := by
  refine ⟨rfl, fun column type name pattern h => ?_, fun row a hrow => ?_⟩
  · obtain ⟨rfl, rfl⟩ := Clause.like.inj (like_of_termClause h)
    refine ⟨rfl, fun row a hrow => ?_⟩
    have htruth : (partClause name text.toList).truth (row name) =
        some (decide (Text.Occurs text.toList v.toList)) := by
      rw [hrow]
      exact truth_partClause htext hv a
    exact ⟨htruth, fun hshort => (holds_partClause row hshort).trans (congrArg Except.ok htruth)⟩
  · exact ⟨truth_fallback htext hv hrow, holds_fallback row⟩

/-- A term with all that means something in patterns, which is found in one title and not in another. -/
theorem parts_found_literally_marked :
    let title (s : String) : Lookup := fun _ => (.text, .text s)
    Text.IsNullFree "50%_ \\oFF".toList ∧ Text.IsNullFree "Now 50%_ \\Off!".toList ∧
      holdsClause (title "Now 50%_ \\Off!") (partClause titleColumn "50%_ \\oFF".toList) =
        .ok (some true) ∧
      (fallback "50%_ \\oFF").truth (title "Now 50%_ \\Off!") = some true ∧
      (fallback "50%_ \\oFF").truth (title "Now 50 x \\Off!") = some false := by
  intro title
  have htext : Text.IsNullFree "50%_ \\oFF".toList := by decide
  have hfound : Text.IsNullFree "Now 50%_ \\Off!".toList := by decide
  have hother : Text.IsNullFree "Now 50 x \\Off!".toList := by decide
  obtain ⟨hclause, hlike, hfallback⟩ := parts_found_literally htext hfound
  obtain ⟨-, -, hfails⟩ := parts_found_literally htext hother
  obtain ⟨-, hholds⟩ := hlike _ _ _ _ hclause
  refine ⟨htext, hfound, ?_, ?_, ?_⟩
  · exact ((hholds (title "Now 50%_ \\Off!") .text rfl).2 (by decide +kernel)).trans
      (congrArg (Except.ok ∘ some) (by decide +kernel))
  · exact (hfallback _ .text rfl).1.trans (congrArg some (by decide +kernel))
  · exact (hfails _ .text rfl).1.trans (congrArg some (by decide +kernel))

end Search

end Cabinet

import Cabinet.Proofs.Json.Digits
import Cabinet.Proofs.Words
import Mathlib.Data.List.TakeWhile

/-!
The forms that names and ids come in: names are words in lower case with an underscore between
neighbours, and ids begin with a stem of small letters, digits and single underscores. What has its
form already is left as it is.
-/

namespace Cabinet

namespace Text

variable {s : List Char}

/-! Trimming and collapsing -/

theorem words_cons_of_isBlank {c : Char} (h : isBlank c = true) (s : List Char) :
    words (c :: s) = words s := by
  rw [words, firstAndWords_cons_of_isBlank h]
  rfl

theorem words_of_isBlank (h : ∀ c ∈ s, isBlank c = true) : words s = [] := by
  induction s with
  | nil => rfl
  | cons c s ih =>
    obtain ⟨hc, hs⟩ := List.forall_mem_cons.mp h
    rw [words_cons_of_isBlank hc, ih hs]

theorem words_trimLeft (s : List Char) : words (trimLeft s) = words s := by
  induction s with
  | nil => rfl
  | cons c s ih =>
    cases hc : isBlank c with
    | true => rw [trimLeft, List.dropWhile_cons_of_pos hc, ← trimLeft, ih, words_cons_of_isBlank hc]
    | false => rw [trimLeft, List.dropWhile_cons_of_neg (by simp [hc])]

theorem exists_append_trimRight (s : List Char) :
    ∃ blanks, s = trimRight s ++ blanks ∧ ∀ c ∈ blanks, isBlank c = true := by
  refine ⟨(s.reverse.takeWhile isBlank).reverse, ?_, fun c hc => ?_⟩
  · rw [trimRight, ← List.reverse_append, List.takeWhile_append_dropWhile, List.reverse_reverse]
  · exact List.mem_takeWhile_imp (List.mem_reverse.mp hc)

theorem words_trim (s : List Char) : words (trim s) = words s := by
  obtain ⟨blanks, hsplit, hblank⟩ := exists_append_trimRight (trimLeft s)
  rw [← words_trimLeft s, trim]
  cases blanks with
  | nil => rw [← List.append_nil (trimRight _), ← hsplit]
  | cons b blanks =>
    obtain ⟨hb, hblanks⟩ := List.forall_mem_cons.mp hblank
    conv_rhs => rw [hsplit, words_append hb, words_of_isBlank hblanks, List.append_nil]

/-- Whether no blank stands at the beginning of a text. -/
def BeginsInWord (s : List Char) : Prop :=
  ∀ c ∈ s.head?, isBlank c = false

/-- Whether no blank stands at the end of a text. -/
def EndsInWord (s : List Char) : Prop :=
  ∀ c ∈ s.getLast?, isBlank c = false

theorem beginsInWord_trim (s : List Char) : BeginsInWord (trim s) := by
  obtain ⟨blanks, hsplit, -⟩ := exists_append_trimRight (trimLeft s)
  intro c hc
  have hnot := List.head?_dropWhile_not isBlank s
  rw [← trimLeft, hsplit, ← trim, List.head?_append, hc] at hnot
  simpa using hnot

theorem endsInWord_trim (s : List Char) : EndsInWord (trim s) := by
  intro c hc
  rw [trim, trimRight, List.getLast?_reverse] at hc
  have hnot := List.head?_dropWhile_not isBlank (trimLeft s).reverse
  rw [hc] at hnot
  simpa using hnot

theorem EndsInWord.tail {c : Char} (h : EndsInWord (c :: s)) : EndsInWord s := by
  intro d hd
  refine h d ?_
  rw [List.getLast?_cons, hd]
  rfl

/-- Lower-casing puts no blank at the beginning of a text. -/
theorem BeginsInWord.lowerAfter (h : BeginsInWord s) (before : List Char) :
    BeginsInWord (lowerAfter before s) := by
  cases s with
  | nil => exact h
  | cons c s =>
    intro d hd
    rw [lowerAfter_cons, List.head?_append_of_ne_nil _ (formBetween_ne_nil before s c)] at hd
    exact isBlank_of_mem_formBetween (h c rfl) (List.mem_of_mem_head? hd)

/-- Lower-casing puts no blank at the end of a text. -/
theorem EndsInWord.lowerAfter (h : EndsInWord s) (before : List Char) :
    EndsInWord (lowerAfter before s) := by
  induction s generalizing before with
  | nil => exact h
  | cons c s ih =>
    intro d hd
    rw [lowerAfter_cons] at hd
    by_cases hs : s = []
    · subst hs
      rw [Text.lowerAfter, List.append_nil] at hd
      exact isBlank_of_mem_formBetween (h c rfl) (List.mem_of_getLast? hd)
    · rw [List.getLast?_append_of_ne_nil _ (mt lowerAfter_eq_nil_iff.mp hs)] at hd
      exact ih h.tail _ d hd

/-- The separators take the place of the blanks between words, and words stay as they are. -/
theorem collapseBlanks_eq {separator : Char} (h : EndsInWord s) :
    collapseBlanks separator s =
      (firstAndWords s).1 ++ (firstAndWords s).2.flatMap (separator :: ·) := by
  induction s with
  | nil => rfl
  | cons c s ih =>
    rw [collapseBlanks, ih h.tail]
    cases hc : isBlank c with
    | false => simp [firstAndWords_cons hc]
    | true =>
      rw [firstAndWords_cons_of_isBlank hc, if_pos rfl]
      cases s with
      | nil => exact absurd hc (Bool.eq_false_iff.mp (h c rfl))
      | cons d s =>
        cases hd : isBlank d with
        | true => simp [hd, firstAndWords_cons_of_isBlank hd, words_cons_of_isBlank hd]
        | false => simp [hd, firstAndWords_cons hd, words]

theorem intercalate_cons (separator : Char) (word : List Char) (others : List (List Char)) :
    [separator].intercalate (word :: others) = word ++ others.flatMap (separator :: ·) := by
  induction others generalizing word with
  | nil => simp
  | cons other others ih => rw [List.intercalate_cons_cons, ih, List.flatMap_cons]; simp

/-- A text without blanks at its ends is its words with separators between them. -/
theorem collapseBlanks_eq_intercalate {separator : Char} (hs : BeginsInWord s) (he : EndsInWord s) :
    collapseBlanks separator s = [separator].intercalate (words s) := by
  rw [collapseBlanks_eq he]
  cases s with
  | nil => rfl
  | cons c s => simp [words, firstAndWords_cons (hs c rfl), intercalate_cons]

end Text

namespace Name

/-- The normal form of a name is its words in lower case, with an underscore between neighbours. -/
theorem normalizeChars_eq_intercalate (s : List Char) :
    normalizeChars s = ['_'].intercalate ((Text.words s).map Text.lower) := by
  rw [normalizeChars, Text.collapseBlanks_eq_intercalate, Text.words_lower, Text.words_trim]
  · exact (Text.beginsInWord_trim s).lowerAfter []
  · exact (Text.endsInWord_trim s).lowerAfter []

/-- A name is in normal form exactly if it has no blank and is in lower case. -/
theorem normalizeChars_eq_self_iff {s : List Char} :
    normalizeChars s = s ↔ (∀ c ∈ s, Text.isBlank c = false) ∧ Text.lower s = s := by
  constructor
  · intro h
    refine ⟨fun c hc => (mem_normalizeChars (h ▸ hc)).1, ?_⟩
    exact Text.lowerAfter_eq_self fun c hc => (mem_normalizeChars (h ▸ hc)).2
  · rintro ⟨hblank, hlower⟩
    rw [normalizeChars, Text.trim_eq_self hblank, hlower, Text.collapseBlanks_eq_self hblank]

/-! Stems of ids -/

/-- Whether a character is a small letter of the alphabet or a digit. -/
def isPlain (c : Char) : Bool :=
  ('a' ≤ c && c ≤ 'z') || Text.isAsciiDigit c

theorem isPlain_underscore : isPlain '_' = false := by decide

theorem isLower_of_isPlain {c : Char} (h : isPlain c = true) : Text.IsLower c := by
  have hall : ∀ n < 128, isPlain (Char.ofNat n) = true → Char.ofNat n ≠ Text.capitalSigma ∧
      Char.ofNat n ≠ Text.dottedCapitalI ∧ Text.lowerLetter (Char.ofNat n) = Char.ofNat n := by
    decide
  have hlt : c.toNat < 128 := by
    simp only [isPlain, Text.isAsciiDigit, Bool.or_eq_true, Bool.and_eq_true, decide_eq_true_eq] at h
    rcases h with ⟨-, h⟩ | ⟨-, h⟩
    · exact Nat.lt_of_le_of_lt h (by decide)
    · exact Nat.lt_of_le_of_lt h (by decide)
  have hc := hall c.toNat hlt
  rw [Char.ofNat_toNat] at hc
  exact ⟨(hc h).1, (hc h).2.1, (hc h).2.2⟩

theorem keepPlain_cons {c : Char} (h : isPlain c = true) (s : List Char) :
    keepPlain (c :: s) = c :: keepPlain s := by
  rw [keepPlain, ← isPlain, if_pos h]

/-- What is not plain leaves an underscore, unless one follows. -/
theorem keepPlain_cons_of_not {c : Char} (h : isPlain c = false) (s : List Char) :
    keepPlain (c :: s) =
      if (keepPlain s).head? = some '_' then keepPlain s else '_' :: keepPlain s := by
  rw [keepPlain, ← isPlain, if_neg (Bool.eq_false_iff.mp h)]
  cases keepPlain s with
  | nil => rfl
  | cons d kept =>
    by_cases hd : d = '_'
    · subst hd
      rfl
    · simp [hd]

/-- What an id may begin with: small letters, digits and underscores, no two of which stand side by
side, and not more than the longest id has. -/
structure IsStem (s : List Char) : Prop where
  chars : ∀ c ∈ s, isPlain c = true ∨ c = '_'
  apart : ¬['_', '_'] <:+: s
  length : s.length ≤ maxIdLength

theorem mem_keepPlain {s : List Char} {c : Char} (h : c ∈ keepPlain s) : isPlain c = true ∨ c = '_' := by
  induction s with
  | nil => cases h
  | cons d s ih =>
    cases hd : isPlain d with
    | true =>
      rw [keepPlain_cons hd] at h
      rcases List.mem_cons.mp h with rfl | h
      · exact .inl hd
      · exact ih h
    | false =>
      rw [keepPlain_cons_of_not hd] at h
      split at h
      · exact ih h
      · rcases List.mem_cons.mp h with rfl | h
        · exact .inr rfl
        · exact ih h

/-- Underscores come singly. -/
theorem keepPlain_apart (s : List Char) : ¬['_', '_'] <:+: keepPlain s := by
  induction s with
  | nil => decide
  | cons d s ih =>
    cases hd : isPlain d with
    | true =>
      rw [keepPlain_cons hd, List.infix_cons_iff, List.cons_prefix_cons]
      rintro (⟨rfl, -⟩ | h)
      · exact absurd hd (by decide)
      · exact ih h
    | false =>
      rw [keepPlain_cons_of_not hd]
      split
      · exact ih
      · next hhead =>
        rw [List.infix_cons_iff, List.cons_prefix_cons]
        rintro (⟨-, h⟩ | h)
        · obtain ⟨rest, hrest⟩ := h
          exact hhead (by rw [← hrest]; rfl)
        · exact ih h

/-- What is plain is kept, in its order. -/
theorem filter_keepPlain (s : List Char) : (keepPlain s).filter isPlain = s.filter isPlain := by
  induction s with
  | nil => rfl
  | cons d s ih =>
    cases hd : isPlain d with
    | true => rw [keepPlain_cons hd, List.filter_cons_of_pos hd, List.filter_cons_of_pos hd, ih]
    | false =>
      rw [keepPlain_cons_of_not hd, List.filter_cons_of_neg (by simp [hd]), ← ih]
      split
      · rfl
      · exact List.filter_cons_of_neg (by decide)

theorem isStem_take_keepPlain (s : List Char) : IsStem ((keepPlain s).take maxIdLength) where
  chars _ hc := mem_keepPlain (List.mem_of_mem_take hc)
  apart h := keepPlain_apart s (h.trans (List.take_prefix _ _).isInfix)
  length := List.length_take_le _ _

theorem keepPlain_eq_self {s : List Char} (hchars : ∀ c ∈ s, isPlain c = true ∨ c = '_')
    (hapart : ¬['_', '_'] <:+: s) : keepPlain s = s := by
  induction s with
  | nil => rfl
  | cons c s ih =>
    obtain ⟨hc, hs⟩ := List.forall_mem_cons.mp hchars
    have hself := ih hs fun h => hapart (List.infix_cons h)
    rcases hc with hc | rfl
    · rw [keepPlain_cons hc, hself]
    · rw [keepPlain_cons_of_not isPlain_underscore, hself, if_neg]
      intro hhead
      obtain ⟨rest, rfl⟩ := List.head?_eq_some_iff.mp hhead
      exact hapart ⟨[], rest, rfl⟩

/-- A stem begins the id that is made from it. -/
theorem IsStem.keepPlain_lower {s : List Char} (h : IsStem s) :
    (keepPlain (Text.lower s)).take maxIdLength = s := by
  have hlower : Text.lower s = s := by
    refine Text.lowerAfter_eq_self fun c hc => ?_
    rcases h.chars c hc with hplain | rfl
    · exact isLower_of_isPlain hplain
    · exact Text.isLower_underscore
  rw [hlower, keepPlain_eq_self h.chars h.apart, List.take_of_length_le h.length]

theorem toList_sanitize (name : String) :
    (sanitize name).toList = (keepPlain (Text.lower name.toList)).take maxIdLength :=
  String.toList_ofList

theorem sanitize_eq_self_iff {name : String} : sanitize name = name ↔ IsStem name.toList := by
  rw [← String.toList_inj, toList_sanitize]
  constructor
  · intro h
    exact h ▸ isStem_take_keepPlain _
  · exact IsStem.keepPlain_lower

/-! Ids -/

theorem mem_intText {n : Int} {c : Char} (h : c ∈ Text.intText n) :
    Text.isAsciiDigit c = true ∨ c = '-' ∧ n < 0 := by
  unfold Text.intText at h
  split at h
  · next hn =>
    rcases List.mem_cons.mp h with rfl | h
    · exact .inr ⟨rfl, hn⟩
    · exact .inl (Text.isAsciiDigit_of_mem_natText h)
  · exact .inl (Text.isAsciiDigit_of_mem_natText h)

theorem toList_databaseId (displayName : String) (ms : Int) :
    (databaseId displayName ms).toList = (sanitize displayName).toList ++ '_' :: Text.intText ms := by
  simp [databaseId]

theorem mem_databaseId {displayName : String} {ms : Int} {c : Char}
    (h : c ∈ (databaseId displayName ms).toList) : isPlain c = true ∨ c = '_' ∨ c = '-' ∧ ms < 0 := by
  rw [toList_databaseId, toList_sanitize] at h
  rcases List.mem_append.mp h with h | h
  · exact ((isStem_take_keepPlain _).chars c h).imp_right .inl
  · rcases List.mem_cons.mp h with rfl | h
    · exact .inr (.inl rfl)
    · rcases mem_intText h with hdigit | hsign
      · exact .inl (by rw [isPlain, hdigit, Bool.or_true])
      · exact .inr (.inr hsign)

theorem ne_of_mem_databaseId {displayName : String} {ms : Int} {c d : Char}
    (h : c ∈ (databaseId displayName ms).toList) (hplain : isPlain d = false) (hunder : d ≠ '_')
    (hminus : d ≠ '-') : c ≠ d := by
  rintro rfl
  rcases mem_databaseId h with hc | hc | ⟨hc, -⟩
  · exact Bool.false_ne_true (hplain.symm.trans hc)
  · exact hunder hc
  · exact hminus hc

/-- Names and stems of ids are brought into a form that is left as it is. A name in that form is made
of the words of the name as it was given, in lower case; it has no blank, and exactly such names that
are in lower case have the form. A stem keeps the small letters and digits of what was given, as far as
its length allows, and exactly the stems are left as they are. So an id is never empty, and nothing is
in it that parts a path or a suffix from the rest of the name of a file. -/
theorem forms_projected (name : String) (ms : Int) :
    ((∀ c ∈ (normalize name).toList, Text.isBlank c = false) ∧
      Text.trim (normalize name).toList = (normalize name).toList ∧
      Text.lower (normalize name).toList = (normalize name).toList ∧
      normalize (normalize name) = normalize name ∧
      (normalize name).toList = ['_'].intercalate ((Text.words name.toList).map Text.lower) ∧
      (normalize name = name ↔
        (∀ c ∈ name.toList, Text.isBlank c = false) ∧ Text.lower name.toList = name.toList)) ∧
    (IsStem (sanitize name).toList ∧ sanitize (sanitize name) = sanitize name ∧
      (sanitize name = name ↔ IsStem name.toList) ∧
      ∃ kept : List Char, (sanitize name).toList = kept.take maxIdLength ∧
        kept.filter isPlain = (Text.lower name.toList).filter isPlain) ∧
    databaseId name ms ≠ "" ∧ ∀ c ∈ (databaseId name ms).toList,
      (isPlain c = true ∨ c = '_' ∨ c = '-' ∧ ms < 0) ∧ c ≠ '/' ∧ c ≠ '\\' ∧ c ≠ '.' := by
  have htoList : ∀ name, (normalize name).toList = normalizeChars name.toList :=
    fun name => String.toList_ofList
  have hiff : ∀ name, normalize name = name ↔
      (∀ c ∈ name.toList, Text.isBlank c = false) ∧ Text.lower name.toList = name.toList := by
    intro name
    rw [← String.toList_inj, htoList, normalizeChars_eq_self_iff]
  obtain ⟨hblank, hlower⟩ := (hiff (normalize name)).mp (normalize_normalize name)
  have hstem : IsStem (sanitize name).toList := toList_sanitize name ▸ isStem_take_keepPlain _
  refine ⟨⟨hblank, Text.trim_eq_self hblank, hlower, normalize_normalize name, ?_, hiff name⟩,
    ⟨hstem, sanitize_eq_self_iff.mpr hstem, sanitize_eq_self_iff, keepPlain (Text.lower name.toList),
      toList_sanitize name, filter_keepPlain _⟩, ?_, fun c hc => ⟨mem_databaseId hc, ?_⟩⟩
  · rw [htoList, normalizeChars_eq_intercalate]
  · rw [ne_eq, ← String.toList_eq_nil_iff, toList_databaseId]
    exact List.append_ne_nil_of_right_ne_nil _ (List.cons_ne_nil _ _)
  · exact ⟨ne_of_mem_databaseId hc (by decide) (by decide) (by decide),
      ne_of_mem_databaseId hc (by decide) (by decide) (by decide),
      ne_of_mem_databaseId hc (by decide) (by decide) (by decide)⟩

-- A sigma ends the first word and stands inside the second, whatever blanks are around them.
example : normalize "\u2003ΑΣ \t ΣΑ\n" = "ας_σα" := by decide +kernel

end Name

end Cabinet

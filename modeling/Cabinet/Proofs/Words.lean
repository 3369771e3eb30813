import Cabinet.Proofs.Name
import Cabinet.Proofs.Text.Order

/-!
Words and letter case: the words of a text in lower case are its words, each in lower case.
-/

namespace Cabinet

namespace Text

/-- A blank has no case, is not looked through for a cased letter, and lower-casing leaves it alone. -/
structure IsCaseless (c : Char) : Prop where
  ne_sigma : c ≠ capitalSigma
  ne_dotted : c ≠ dottedCapitalI
  letter_eq : lowerLetter c = c
  not_cased : casedChars.contains c = false
  not_ignorable : caseIgnorableChars.contains c = false

theorem isCaseless_of_isBlank {c : Char} (h : isBlank c = true) : IsCaseless c := by
  have hall : ∀ n ∈ blankCodes, Char.ofNat n ≠ capitalSigma ∧ Char.ofNat n ≠ dottedCapitalI ∧
      lowerLetter (Char.ofNat n) = Char.ofNat n ∧ casedChars.contains (Char.ofNat n) = false ∧
      caseIgnorableChars.contains (Char.ofNat n) = false := by
    decide +kernel
  have hc := hall c.toNat (isBlank_iff.mp h)
  rw [Char.ofNat_toNat] at hc
  exact ⟨hc.1, hc.2.1, hc.2.2.1, hc.2.2.2.1, hc.2.2.2.2⟩

/-- Whether a run moves no letter to a code point. -/
def CaseRun.misses (r : CaseRun) (n : Nat) : Bool :=
  Nat.blt n (r.target r.first) || Nat.blt (r.target r.last) n

theorem lowerRuns_miss_blanks : (lowerRuns.all fun r => blankCodes.all r.misses) = true := by
  decide +kernel

theorem isBlank_toLower_ascii : ∀ n < 128,
    isBlank (Char.ofNat n).toLower = isBlank (Char.ofNat n) := by
  decide +kernel

/-- No letter has a blank for its lower-case form. -/
theorem isBlank_lowerLetter (c : Char) : isBlank (lowerLetter c) = isBlank c := by
  cases hc : isBlank c with
  | true => rw [(isCaseless_of_isBlank hc).letter_eq, hc]
  | false =>
    unfold lowerLetter
    split
    · next h =>
      have hlower := isBlank_toLower_ascii c.toNat h
      rwa [Char.ofNat_toNat, hc] at hlower
    · split
      · decide
      · unfold recase
        cases hf : lowerRuns.findSome? (·.move? c.toNat) with
        | none => exact hc
        | some n =>
          obtain ⟨r, hr, hmove⟩ := List.exists_of_findSome?_eq_some hf
          obtain ⟨hfirst, hlast, -, rfl⟩ := CaseRun.move?_eq_some hmove
          have hregular := List.all_eq_true.mp lowerRuns_isRegular r hr
          simp only [CaseRun.isRegular, CaseRun.target, Bool.and_eq_true, Bool.or_eq_true,
            Nat.ble_eq, Nat.blt_eq] at hregular
          refine Bool.eq_false_iff.mpr fun hblank => ?_
          have hmem := isBlank_iff.mp hblank
          rw [toNat_ofNat (by omega)] at hmem
          have hmiss := List.all_eq_true.mp (List.all_eq_true.mp lowerRuns_miss_blanks r hr) _ hmem
          simp only [CaseRun.misses, CaseRun.target, Bool.or_eq_true, Nat.blt_eq] at hmiss
          omega

/-- The lower-case form of one letter between others, those before it in reverse. -/
def formBetween (before rest : List Char) (c : Char) : List Char :=
  if c = capitalSigma then
    [if meetsCased before && !meetsCased rest then finalSigma else smallSigma]
  else if c = dottedCapitalI then ['i', dotAbove]
  else [lowerLetter c]

theorem lowerAfter_cons (before rest : List Char) (c : Char) :
    lowerAfter before (c :: rest) = formBetween before rest c ++ lowerAfter (c :: before) rest := rfl

theorem formBetween_ne_nil (before rest : List Char) (c : Char) : formBetween before rest c ≠ [] := by
  unfold formBetween
  split_ifs <;> simp

theorem formBetween_of_isBlank {c : Char} (h : isBlank c = true) (before rest : List Char) :
    formBetween before rest c = [c] := by
  have hc := isCaseless_of_isBlank h
  rw [formBetween, if_neg hc.ne_sigma, if_neg hc.ne_dotted, hc.letter_eq]

theorem isBlank_of_mem_formBetween {c d : Char} {before rest : List Char} (h : isBlank c = false)
    (hd : d ∈ formBetween before rest c) : isBlank d = false := by
  unfold formBetween at hd
  split_ifs at hd
  · rw [List.mem_singleton.mp hd]
    decide
  · rw [List.mem_singleton.mp hd]
    decide
  · rcases List.mem_cons.mp hd with rfl | hd
    · decide
    · rw [List.mem_singleton.mp hd]
      decide
  · rw [List.mem_singleton.mp hd, isBlank_lowerLetter, h]

theorem isBlank_of_mem_lowerAfter {before s : List Char} {d : Char}
    (h : ∀ c ∈ s, isBlank c = false) (hd : d ∈ lowerAfter before s) : isBlank d = false := by
  induction s generalizing before with
  | nil => cases hd
  | cons c rest ih =>
    rw [lowerAfter_cons] at hd
    rcases List.mem_append.mp hd with hd | hd
    · exact isBlank_of_mem_formBetween (h c List.mem_cons_self) hd
    · exact ih (fun c hc => h c (List.mem_cons_of_mem _ hc)) hd

theorem lowerAfter_eq_nil_iff {before s : List Char} : lowerAfter before s = [] ↔ s = [] := by
  cases s with
  | nil => exact ⟨fun _ => rfl, fun _ => rfl⟩
  | cons c rest => simp [lowerAfter_cons, formBetween_ne_nil]

theorem meetsCased_cons (c : Char) (s : List Char) : meetsCased (c :: s) =
    if caseIgnorableChars.contains c then meetsCased s else casedChars.contains c := by
  simp only [meetsCased, List.dropWhile_cons]
  cases caseIgnorableChars.contains c <;> rfl

/-- A blank ends the look for a cased letter. -/
theorem meetsCased_append {b : Char} (hb : isBlank b = true) (s t : List Char) :
    meetsCased (s ++ b :: t) = meetsCased s := by
  induction s with
  | nil =>
    rw [List.nil_append, meetsCased_cons, (isCaseless_of_isBlank hb).not_ignorable,
      (isCaseless_of_isBlank hb).not_cased]
    rfl
  | cons c s ih => rw [List.cons_append, meetsCased_cons, meetsCased_cons, ih]

theorem lowerAfter_append {b : Char} (hb : isBlank b = true) (before others s : List Char) :
    lowerAfter (before ++ b :: others) s = lowerAfter before s := by
  induction s generalizing before with
  | nil => rfl
  | cons c rest ih =>
    rw [lowerAfter_cons, lowerAfter_cons, ← List.cons_append, ih]
    simp only [formBetween, meetsCased_append hb]

theorem firstAndWords_cons_of_isBlank {c : Char} (h : isBlank c = true) (rest : List Char) :
    firstAndWords (c :: rest) = ([], words rest) := by
  simp only [firstAndWords, h, words, if_true]

theorem firstAndWords_cons {c : Char} (h : isBlank c = false) (rest : List Char) :
    firstAndWords (c :: rest) = (c :: (firstAndWords rest).1, (firstAndWords rest).2) := by
  simp [firstAndWords, h]

theorem meetsCased_firstAndWords (s : List Char) : meetsCased (firstAndWords s).1 = meetsCased s := by
  induction s with
  | nil => rfl
  | cons c rest ih =>
    cases hc : isBlank c with
    | true =>
      rw [firstAndWords_cons_of_isBlank hc]
      exact (meetsCased_append hc [] rest).symm
    | false => rw [firstAndWords_cons hc, meetsCased_cons, meetsCased_cons, ih]

/-- What stands before the first blank is part of the first word. -/
theorem firstAndWords_append {word : List Char} (h : ∀ c ∈ word, isBlank c = false)
    (rest : List Char) :
    firstAndWords (word ++ rest) = (word ++ (firstAndWords rest).1, (firstAndWords rest).2) := by
  induction word with
  | nil => rfl
  | cons c word ih =>
    rw [List.cons_append, firstAndWords_cons (h c List.mem_cons_self),
      ih fun d hd => h d (List.mem_cons_of_mem _ hd)]
    rfl

/-- The induction is on the text that is left, for every text before it: what was before a blank
decides no form after it, and what a letter stands before matters only as far as the next blank. -/
theorem firstAndWords_lowerAfter (before s : List Char) :
    firstAndWords (lowerAfter before s) =
      (lowerAfter before (firstAndWords s).1, (firstAndWords s).2.map lower) := by
  induction s generalizing before with
  | nil => rfl
  | cons c rest ih =>
    rw [lowerAfter_cons]
    cases hc : isBlank c with
    | true =>
      have hrest := ih []
      have hwords : words (lowerAfter [] rest) = (words rest).map lower := by
        simp only [words, hrest, List.isEmpty_iff, lowerAfter_eq_nil_iff]
        split <;> rfl
      rw [formBetween_of_isBlank hc, List.singleton_append, firstAndWords_cons_of_isBlank hc,
        firstAndWords_cons_of_isBlank hc]
      refine Prod.ext rfl ?_
      exact (congrArg words (lowerAfter_append hc [] before rest)).trans hwords
    | false =>
      have hform : formBetween before (firstAndWords rest).1 c = formBetween before rest c := by
        simp only [formBetween, meetsCased_firstAndWords]
      rw [firstAndWords_append fun _ => isBlank_of_mem_formBetween hc, ih, firstAndWords_cons hc,
        lowerAfter_cons, hform]

/-- The words of a text in lower case are its words in lower case. -/
theorem words_lower (s : List Char) : words (lower s) = (words s).map lower := by
  simp only [words, lower, firstAndWords_lowerAfter, List.isEmpty_iff, lowerAfter_eq_nil_iff]
  split <;> rfl

/-- The words of two texts with a blank between them are those of the one and of the other. -/
theorem words_append {b : Char} (hb : isBlank b = true) (s t : List Char) :
    words (s ++ b :: t) = words s ++ words t := by
  have hfirst : firstAndWords (s ++ b :: t) =
      ((firstAndWords s).1, (firstAndWords s).2 ++ words t) := by
    induction s with
    | nil => exact firstAndWords_cons_of_isBlank hb t
    | cons c s ih =>
      rw [List.cons_append]
      cases hc : isBlank c with
      | true =>
        rw [firstAndWords_cons_of_isBlank hc, firstAndWords_cons_of_isBlank hc, words, ih]
        simp only [words]
        split <;> rfl
      | false => rw [firstAndWords_cons hc, firstAndWords_cons hc, ih]
  rw [words, hfirst]
  simp only [words]
  split <;> rfl

/-- The words of texts with single spaces between them. -/
theorem words_intercalate_texts (texts : List (List Char)) :
    words ([' '].intercalate texts) = texts.flatMap words := by
  induction texts with
  | nil => rfl
  | cons s rest ih =>
    cases rest with
    | nil => simp
    | cons t rest =>
      rw [List.intercalate_cons_cons, List.append_assoc, List.singleton_append,
        words_append (by decide), ih]
      rfl

/-- A word is a run of characters that are not blank. -/
structure IsWord (word : List Char) : Prop where
  ne_nil : word ≠ []
  notBlank : ∀ c ∈ word, isBlank c = false

theorem isWord_of_mem_words {s word : List Char} (h : word ∈ words s) : IsWord word := by
  -- The first word may still be empty or grow, so by induction only that it holds no blank.
  have hfirst : (∀ c ∈ (firstAndWords s).1, isBlank c = false) ∧
      ∀ word ∈ (firstAndWords s).2, IsWord word := by
    clear h
    induction s with
    | nil => exact ⟨List.forall_mem_nil _, List.forall_mem_nil _⟩
    | cons c s ih =>
      cases hc : isBlank c with
      | true =>
        rw [firstAndWords_cons_of_isBlank hc]
        refine ⟨List.forall_mem_nil _, fun word hword => ?_⟩
        simp only [words] at hword
        split at hword
        · exact ih.2 word hword
        · next hne =>
          rcases List.mem_cons.mp hword with rfl | hword
          · exact ⟨by simpa using hne, ih.1⟩
          · exact ih.2 word hword
      | false =>
        rw [firstAndWords_cons hc]
        exact ⟨List.forall_mem_cons.mpr ⟨hc, ih.1⟩, ih.2⟩
  simp only [words] at h
  split at h
  · exact hfirst.2 word h
  · next hne =>
    rcases List.mem_cons.mp h with rfl | h
    · exact ⟨by simpa using hne, hfirst.1⟩
    · exact hfirst.2 word h

/-- A word is normalised by lower-casing it. -/
theorem IsWord.normalizeChars_eq {word : List Char} (h : IsWord word) :
    Name.normalizeChars word = lower word := by
  rw [Name.normalizeChars, trim_eq_self h.notBlank, collapseBlanks_eq_self]
  exact fun c hc => isBlank_of_mem_lowerAfter h.notBlank hc

/-- A letter that the lower-case forms of a text do not tell from another. -/
structure SameForm (c d : Char) : Prop where
  sigma_iff : c = capitalSigma ↔ d = capitalSigma
  dotted_iff : c = dottedCapitalI ↔ d = dottedCapitalI
  letter_eq : lowerLetter c = lowerLetter d
  cased_eq : casedChars.contains c = casedChars.contains d
  ignorable_eq : caseIgnorableChars.contains c = caseIgnorableChars.contains d

theorem sameForm_toLower (c : Char) : SameForm c.toLower c := by
  have hall : ∀ n < 128, ((Char.ofNat n).toLower = capitalSigma ↔ Char.ofNat n = capitalSigma) ∧
      ((Char.ofNat n).toLower = dottedCapitalI ↔ Char.ofNat n = dottedCapitalI) ∧
      lowerLetter (Char.ofNat n).toLower = lowerLetter (Char.ofNat n) ∧
      casedChars.contains (Char.ofNat n).toLower = casedChars.contains (Char.ofNat n) ∧
      caseIgnorableChars.contains (Char.ofNat n).toLower =
        caseIgnorableChars.contains (Char.ofNat n) := by
    decide +kernel
  by_cases h : c.toNat < 128
  · have hc := hall c.toNat h
    rw [Char.ofNat_toNat] at hc
    exact ⟨hc.1, hc.2.1, hc.2.2.1, hc.2.2.2.1, hc.2.2.2.2⟩
  · rw [toLower_of_small (by omega)]
    exact ⟨Iff.rfl, Iff.rfl, rfl, rfl, rfl⟩

/-- Whether a letter of the alphabet is a capital says nothing about the forms in lower case. -/
theorem lower_foldAscii (s : List Char) : lower (foldAscii s) = lower s := by
  have hmeets : ∀ s : List Char, meetsCased (s.map Char.toLower) = meetsCased s := fun s => by
    induction s with
    | nil => rfl
    | cons c s ih =>
      rw [List.map_cons, meetsCased_cons, meetsCased_cons, ih, (sameForm_toLower c).cased_eq,
        (sameForm_toLower c).ignorable_eq]
  have hafter : ∀ before, lowerAfter (before.map Char.toLower) (s.map Char.toLower) =
      lowerAfter before s := by
    induction s with
    | nil => exact fun _ => rfl
    | cons c rest ih =>
      intro before
      have hc := sameForm_toLower c
      rw [List.map_cons, lowerAfter_cons, lowerAfter_cons, ← List.map_cons, ih]
      simp only [formBetween, hmeets, hc.sigma_iff, hc.dotted_iff, hc.letter_eq]
  exact hafter []

end Text

end Cabinet

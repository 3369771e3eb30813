import Cabinet.Name
import Cabinet.Storage.Sheet

/-!
Normal names: normalising a name once is enough, and names in normal form are the same for storage,
which does not tell the case of letters, only if they are equal.
-/

namespace Cabinet

namespace Text

/-- The code points of the blank characters. -/
def blankCodes : List Nat :=
  [9, 10, 11, 12, 13, 28, 29, 30, 31, 32, 0x85, 0xA0, 0x1680, 0x2000, 0x2001, 0x2002, 0x2003, 0x2004,
    0x2005, 0x2006, 0x2007, 0x2008, 0x2009, 0x200A, 0x2028, 0x2029, 0x202F, 0x205F, 0x3000]

theorem isBlank_iff {c : Char} : isBlank c = true ↔ c.toNat ∈ blankCodes := by
  simp only [isBlank, blankCodes, Bool.or_eq_true, Bool.and_eq_true, decide_eq_true_eq, beq_iff_eq,
    List.mem_cons, List.not_mem_nil, or_false]
  omega

/-- Where a run of letters moves a code point that it holds. -/
def CaseRun.target (r : CaseRun) (c : Nat) : Nat :=
  (c + r.distance).toNat

/-- Whether no letter that the first run moves comes to lie in the second. -/
def CaseRun.avoids (r s : CaseRun) : Bool :=
  Nat.blt (r.target r.last) s.first || Nat.blt s.last (r.target r.first) ||
    (s.step.beq 2 && (r.step.beq 2 || r.first.beq r.last) &&
      ((r.target r.first + s.first) % 2).beq 1)

/-- Whether a run moves letters to small letters of the alphabet or beyond it, and to characters. -/
def CaseRun.isRegular (r : CaseRun) : Bool :=
  Nat.ble 97 (r.target r.first) &&
    (Nat.blt (r.target r.last) 0x130 || Nat.blt 0x130 (r.target r.first)) &&
    (Nat.blt (r.target r.last) 0xD800 ||
      (Nat.ble 0xE000 (r.target r.first) && Nat.blt (r.target r.last) 0x110000))

theorem lowerRuns_isRegular : lowerRuns.all CaseRun.isRegular = true := by
  decide +kernel

theorem lowerRuns_avoid : (lowerRuns.all fun r => lowerRuns.all r.avoids) = true := by
  decide +kernel

/-- A letter that lower-casing leaves alone, wherever it stands. -/
structure IsLower (c : Char) : Prop where
  ne_sigma : c ≠ capitalSigma
  ne_dotted : c ≠ dottedCapitalI
  letter_eq : lowerLetter c = c

namespace CaseRun

variable {r s : CaseRun} {c n : Nat}

theorem move?_eq_some (h : r.move? c = some n) :
    r.first ≤ c ∧ c ≤ r.last ∧ (c - r.first) % r.step = 0 ∧ n = (c + r.distance).toNat := by
  unfold move? at h
  split at h
  · next hc => exact ⟨hc.1, hc.2.1, hc.2.2, (Option.some.inj h).symm⟩
  · cases h

theorem move?_of_avoids (hr : r.isRegular) (ha : r.avoids s) (h : r.move? c = some n) :
    s.move? n = none := by
  obtain ⟨hf, hl, hm, rfl⟩ := move?_eq_some h
  simp only [isRegular, avoids, target, Bool.and_eq_true, Bool.or_eq_true, Nat.ble_eq, Nat.blt_eq,
    Nat.beq_eq] at hr ha
  refine if_neg fun ⟨hsf, hsl, hsm⟩ => ?_
  rcases ha with (ha | ha) | ⟨⟨hs, ht⟩, hp⟩
  · omega
  · omega
  · rw [hs] at hsm
    rcases ht with ht | ht
    · rw [ht] at hm
      omega
    · omega

end CaseRun

theorem toNat_ofNat {n : Nat} (h : n < 0xD800 ∨ 0xE000 ≤ n ∧ n < 0x110000) :
    (Char.ofNat n).toNat = n := by
  have hv : n.isValidChar := by
    rcases h with h | h
    · exact Or.inl h
    · exact Or.inr ⟨by omega, h.2⟩
  rw [Char.ofNat, dif_pos hv]
  rfl

theorem toLower_of_small {c : Char} (h : 97 ≤ c.toNat) : c.toLower = c := by
  refine dif_neg ?_
  rintro ⟨-, hc⟩
  have : c.toNat ≤ 90 := hc
  omega

theorem isLower_toLower_ascii : ∀ n < 128, (Char.ofNat n).toLower ≠ capitalSigma ∧
    (Char.ofNat n).toLower ≠ dottedCapitalI ∧
    lowerLetter (Char.ofNat n).toLower = (Char.ofNat n).toLower := by
  decide

/-- A letter that a run has moved stays where it is. -/
theorem isLower_of_moved {r : CaseRun} (hr : r ∈ lowerRuns) {c n : Nat} (h : r.move? c = some n) :
    IsLower (Char.ofNat n) := by
  have hregular := List.all_eq_true.mp lowerRuns_isRegular r hr
  have havoids := List.all_eq_true.mp (List.all_eq_true.mp lowerRuns_avoid r hr)
  obtain ⟨hf, hl, -, hn⟩ := CaseRun.move?_eq_some h
  have hreg := hregular
  simp only [CaseRun.isRegular, CaseRun.target, Bool.and_eq_true, Bool.or_eq_true, Nat.ble_eq,
    Nat.blt_eq] at hreg
  have hnat : (Char.ofNat n).toNat = n := toNat_ofNat (by omega)
  have hnone : lowerRuns.findSome? (·.move? n) = none := by
    rw [List.findSome?_eq_none_iff]
    intro s hs
    exact CaseRun.move?_of_avoids hregular (havoids s hs) h
  have hletter : lowerLetter (Char.ofNat n) = Char.ofNat n := by
    rw [lowerLetter, hnat]
    split
    · exact toLower_of_small (by omega)
    · rw [if_neg (by omega), recase, hnat, hnone]
  have hdotted : Char.ofNat n ≠ dottedCapitalI := by
    intro he
    have h130 := congrArg Char.toNat he
    rw [hnat] at h130
    have : dottedCapitalI.toNat = 0x130 := rfl
    omega
  refine ⟨fun he => ?_, hdotted, hletter⟩
  rw [he] at hletter
  exact absurd hletter (by decide +kernel)

theorem isLower_lowerLetter (c : Char) : IsLower (lowerLetter c) := by
  unfold lowerLetter
  split
  · next h =>
    have hc := isLower_toLower_ascii c.toNat h
    rw [Char.ofNat_toNat] at hc
    exact ⟨hc.1, hc.2.1, hc.2.2⟩
  · next h =>
    split
    · exact ⟨by decide, by decide, by decide⟩
    · next hd =>
      cases hf : lowerRuns.findSome? (·.move? c.toNat) with
      | none =>
        have hletter : recase lowerRuns c = c := by rw [recase, hf]
        rw [hletter]
        refine ⟨?_, ?_, ?_⟩
        · rintro rfl
          exact absurd hf (by decide +kernel)
        · rintro rfl
          exact hd rfl
        · rw [lowerLetter, if_neg h, if_neg hd, hletter]
      | some n =>
        obtain ⟨r, hr, hm⟩ := List.exists_of_findSome?_eq_some hf
        have hletter : recase lowerRuns c = Char.ofNat n := by rw [recase, hf]
        rw [hletter]
        exact isLower_of_moved hr hm

theorem isLower_of_mem_lowerAfter {before s : List Char} {c : Char} (h : c ∈ lowerAfter before s) :
    IsLower c := by
  induction s generalizing before with
  | nil => simp [lowerAfter] at h
  | cons d rest ih =>
    rw [lowerAfter, List.mem_append] at h
    rcases h with h | h
    -- A sigma has two small forms and the dotted capital becomes two characters; the others become one.
    · split at h
      · split at h <;> rw [List.mem_singleton.mp h] <;>
          exact ⟨by decide, by decide, by decide +kernel⟩
      · split at h
        · rcases List.mem_cons.mp h with rfl | h
          · exact ⟨by decide, by decide, by decide⟩
          · rw [List.mem_singleton.mp h]
            exact ⟨by decide, by decide, by decide +kernel⟩
        · rw [List.mem_singleton.mp h]
          exact isLower_lowerLetter d
    · exact ih h

theorem lowerAfter_eq_self {before s : List Char} (h : ∀ c ∈ s, IsLower c) :
    lowerAfter before s = s := by
  induction s generalizing before with
  | nil => rfl
  | cons c rest ih =>
    have hc := h c List.mem_cons_self
    rw [lowerAfter, if_neg hc.ne_sigma, if_neg hc.ne_dotted, hc.letter_eq,
      ih fun d hd => h d (List.mem_cons_of_mem _ hd)]
    rfl

theorem isLower_underscore : IsLower '_' :=
  ⟨by decide, by decide, by decide⟩

/-- Lower-case letters are not capitals of the alphabet either. -/
theorem IsLower.toLower_eq {c : Char} (h : IsLower c) : c.toLower = c := by
  by_cases hc : c.toNat < 128
  · have := h.letter_eq
    rwa [lowerLetter, if_pos hc] at this
  · exact toLower_of_small (by omega)

theorem dropWhile_isBlank {s : List Char} (h : ∀ c ∈ s, isBlank c = false) :
    s.dropWhile isBlank = s := by
  cases s with
  | nil => rfl
  | cons c rest => simp [h c List.mem_cons_self]

theorem trim_eq_self {s : List Char} (h : ∀ c ∈ s, isBlank c = false) : trim s = s := by
  rw [trim, trimRight, trimLeft, dropWhile_isBlank h, dropWhile_isBlank (by simpa using h),
    List.reverse_reverse]

theorem collapseBlanks_eq_self {separator : Char} {s : List Char}
    (h : ∀ c ∈ s, isBlank c = false) : collapseBlanks separator s = s := by
  induction s with
  | nil => rfl
  | cons c rest ih =>
    rw [collapseBlanks, h c List.mem_cons_self,
      ih fun d hd => h d (List.mem_cons_of_mem _ hd)]
    rfl

theorem mem_collapseBlanks {separator : Char} {s : List Char} {c : Char}
    (h : c ∈ collapseBlanks separator s) : c = separator ∨ c ∈ s ∧ isBlank c = false := by
  induction s with
  | nil => simp [collapseBlanks] at h
  | cons d rest ih =>
    rw [collapseBlanks] at h
    split at h
    · split at h
      · exact (ih h).imp_right fun hm => ⟨List.mem_cons_of_mem _ hm.1, hm.2⟩
      · rcases List.mem_cons.mp h with h | h
        · exact Or.inl h
        · exact (ih h).imp_right fun hm => ⟨List.mem_cons_of_mem _ hm.1, hm.2⟩
    · next hd =>
      rcases List.mem_cons.mp h with rfl | h
      · exact Or.inr ⟨List.mem_cons_self, by simpa using hd⟩
      · exact (ih h).imp_right fun hm => ⟨List.mem_cons_of_mem _ hm.1, hm.2⟩

end Text

namespace Name

theorem mem_normalizeChars {s : List Char} {c : Char} (h : c ∈ normalizeChars s) :
    Text.isBlank c = false ∧ Text.IsLower c := by
  rcases Text.mem_collapseBlanks h with rfl | ⟨hm, hb⟩
  · exact ⟨by decide, Text.isLower_underscore⟩
  · exact ⟨hb, Text.isLower_of_mem_lowerAfter hm⟩

theorem normalizeChars_normalizeChars (s : List Char) :
    normalizeChars (normalizeChars s) = normalizeChars s := by
  have hb : ∀ c ∈ normalizeChars s, Text.isBlank c = false := fun c hc =>
    (mem_normalizeChars hc).1
  rw [normalizeChars, Text.trim_eq_self hb, Text.lower,
    Text.lowerAfter_eq_self fun c hc => (mem_normalizeChars hc).2, Text.collapseBlanks_eq_self hb]

/-- Whether a name says something and is in the form in which names are compared. -/
structure IsNormal (name : String) : Prop where
  ne_empty : name ≠ ""
  normalize_eq : normalize name = name

theorem normalize_normalize (name : String) : normalize (normalize name) = normalize name := by
  simp only [normalize, String.toList_ofList, normalizeChars_normalizeChars]

theorem isNormal_normalize {name : String} (h : (normalize name).isEmpty = false) :
    IsNormal (normalize name) :=
  ⟨by simpa using h, normalize_normalize name⟩

theorem foldAscii_of_normalize_eq {name : String} (h : normalize name = name) :
    Text.foldAscii name.toList = name.toList := by
  have hc : normalizeChars name.toList = name.toList := by
    simpa only [normalize, String.toList_ofList] using congrArg String.toList h
  rw [Text.foldAscii, ← hc, List.map_congr_left (g := id), List.map_id]
  exact fun c hm => (mem_normalizeChars hm).2.toLower_eq

/-- Storage tells names apart that are in the form in which they are compared. -/
theorem sameName_iff {a b : String} (ha : normalize a = a) (hb : normalize b = b) :
    Storage.sameName a b = true ↔ a = b := by
  rw [Storage.sameName, foldAscii_of_normalize_eq ha, foldAscii_of_normalize_eq hb, beq_iff_eq,
    String.toList_inj]

end Name

end Cabinet

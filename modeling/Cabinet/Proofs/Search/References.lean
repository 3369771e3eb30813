import Cabinet.Proofs.Name.Forms
import Cabinet.Proofs.Record.Order
import Cabinet.Proofs.Search.Decimal

/-!
References to columns, by name and by place. In a table at most one column answers to a name and one to
a place, so that it does not matter in which order columns are searched.
-/

namespace Cabinet

namespace Text

/-- Whether a run moves none of the ten digits of a script. -/
def CaseRun.avoidsDigits (r : CaseRun) (first : Nat) : Bool :=
  Nat.blt (first + 9) r.first || Nat.blt r.last first

theorem lowerRuns_avoidDigits : (zeroDigits.all fun n => lowerRuns.all (·.avoidsDigits n)) = true := by
  decide +kernel

/-- A digit is one of the alphabet, or it is one of the ten of another script. -/
theorem isDigit_cases {c : Char} (h : isDigit c = true) :
    c.toNat < 128 ∧ '0' ≤ c ∧ c ≤ '9' ∨
      ¬c.toNat < 128 ∧ ∃ n ∈ zeroDigits, n ≤ c.toNat ∧ c.toNat < n + 10 := by
  rw [isDigit, digitValue?] at h
  split at h
  · next hascii =>
    obtain ⟨_, hvalue⟩ := Option.isSome_iff_exists.mp h
    exact .inl ⟨hascii, (Option.ite_none_right_eq_some.mp hvalue).1⟩
  · next hascii =>
    obtain ⟨n, hn, hvalue⟩ := List.findSome?_isSome_iff.mp h
    obtain ⟨_, hvalue⟩ := Option.isSome_iff_exists.mp hvalue
    exact .inr ⟨hascii, n, hn, (Option.ite_none_right_eq_some.mp hvalue).1⟩

/-- Lower-casing leaves digits alone. -/
theorem isLower_of_isDigit {c : Char} (h : isDigit c = true) : IsLower c := by
  have hsigma : c ≠ capitalSigma := ne_of_isDigit (by decide +kernel) h
  have hdotted : c ≠ dottedCapitalI := ne_of_isDigit (by decide +kernel) h
  refine ⟨hsigma, hdotted, ?_⟩
  rcases isDigit_cases h with ⟨hascii, hdigit⟩ | ⟨hascii, n, hn, hrange⟩
  · have hsmall : ∀ n < 128, '0' ≤ Char.ofNat n ∧ Char.ofNat n ≤ '9' →
        (Char.ofNat n).toLower = Char.ofNat n := by decide
    have hc := hsmall c.toNat hascii
    rw [Char.ofNat_toNat] at hc
    rw [lowerLetter, if_pos hascii, hc hdigit]
  · have havoid := List.all_eq_true.mp (List.all_eq_true.mp lowerRuns_avoidDigits n hn)
    have hnone : lowerRuns.findSome? (·.move? c.toNat) = none := by
      rw [List.findSome?_eq_none_iff]
      intro r hr
      have hapart := havoid r hr
      simp only [CaseRun.avoidsDigits, Bool.or_eq_true, Nat.blt_eq] at hapart
      exact if_neg (by omega)
    have hne : c.toNat ≠ 0x130 := fun heq => hdotted (by rw [← Char.ofNat_toNat c, heq]; rfl)
    rw [lowerLetter, if_neg hascii, if_neg hne, recase, hnone]

end Text

theorem Name.IsNormal.lower_eq {name : String} (h : IsNormal name) :
    Text.lower name.toList = name.toList := by
  have hchars : normalizeChars name.toList = name.toList := by
    simpa only [normalize, String.toList_ofList] using congrArg String.toList h.normalize_eq
  exact (normalizeChars_eq_self_iff.mp hchars).2

namespace Search

section Find

variable {α : Type} {p : α → Bool} {l l' : List α} {a : α}

/-- Where at most one entry satisfies a condition, it is found wherever it stands. -/
theorem find?_eq_some_iff_of_unique (hone : ∀ a ∈ l, ∀ b ∈ l, p a = true → p b = true → a = b) :
    l.find? p = some a ↔ a ∈ l ∧ p a = true := by
  constructor
  · intro h
    exact ⟨List.mem_of_find?_eq_some h, List.find?_some h⟩
  · rintro ⟨ha, hp⟩
    obtain ⟨b, hb⟩ := Option.isSome_iff_exists.mp (List.find?_isSome.mpr ⟨a, ha, hp⟩)
    rw [hb, hone a ha b (List.mem_of_find?_eq_some hb) hp (List.find?_some hb)]

theorem find?_perm (h : l'.Perm l) (hone : ∀ a ∈ l, ∀ b ∈ l, p a = true → p b = true → a = b) :
    l'.find? p = l.find? p := by
  have hone' : ∀ a ∈ l', ∀ b ∈ l', p a = true → p b = true → a = b := fun a ha b hb =>
    hone a (h.subset ha) b (h.subset hb)
  apply Option.ext
  intro a
  rw [find?_eq_some_iff_of_unique hone', find?_eq_some_iff_of_unique hone, h.mem_iff]

end Find

/-- A reference by place: the letter `i`, small or capital, and digits that are not too many to be
read. -/
structure IsPlace (reference digits : List Char) : Prop where
  begins : reference = 'i' :: digits ∨ reference = 'I' :: digits
  areDigits : Text.AreDigits digits
  short : digits.length ≤ Text.maxIntegerDigits

variable {reference digits : List Char}

theorem IsPlace.lower_eq (h : IsPlace reference digits) : Text.lower reference = 'i' :: digits := by
  have hdigits : ∀ before, Text.lowerAfter before digits = digits := fun before =>
    Text.lowerAfter_eq_self fun d hd => Text.isLower_of_isDigit (h.areDigits.2 d hd)
  rcases h.begins with rfl | rfl
  · exact congrArg ('i' :: ·) (hdigits _)
  · exact congrArg ('i' :: ·) (hdigits _)

theorem IsPlace.placeDigits?_eq (h : IsPlace reference digits) :
    placeDigits? reference = some digits := by
  have htake : digits.takeWhile Text.isDigit = digits := List.takeWhile_eq_self_iff.mpr h.areDigits.2
  have hdrop : digits.dropWhile Text.isDigit = [] := List.dropWhile_eq_nil_iff.mpr h.areDigits.2
  rcases h.begins with rfl | rfl
  · simp [placeDigits?, htake, hdrop, isPlaceLetter, h.areDigits.1]
  · simp [placeDigits?, htake, hdrop, isPlaceLetter, h.areDigits.1]

end Search

namespace Table

open Search

variable {t : Table} {columns : List Column} {reference digits : List Char} {c d : Column}

section WellFormed

variable (ht : t.WellFormed)

include ht

theorem WellFormed.sameName_iff (hc : c ∈ t.ordered) :
    sameName reference c.name.toList = true ↔ Text.lower reference = c.name.toList := by
  have hnormal := (ht.named ((mem_ordered_iff ht).mp hc)).2
  rw [sameName, hnormal.lower_eq, beq_iff_eq, eq_comm]

/-- At most one column has the name that a reference gives. -/
theorem WellFormed.eq_of_sameName (hc : c ∈ t.ordered) (hd : d ∈ t.ordered)
    (hcname : sameName reference c.name.toList = true)
    (hdname : sameName reference d.name.toList = true) : c = d := by
  rw [ht.sameName_iff hc] at hcname
  rw [ht.sameName_iff hd, hcname, String.toList_inj] at hdname
  have hget := (mem_ordered_iff ht).mp hc
  rw [hdname, (mem_ordered_iff ht).mp hd] at hget
  exact (Option.some.inj hget).symm

/-- At most one column has an index. -/
theorem WellFormed.eq_of_index {i : Nat} (hc : c ∈ t.ordered) (hd : d ∈ t.ordered)
    (hci : decide (c.index = (i : Int)) = true) (hdi : decide (d.index = (i : Int)) = true) : c = d := by
  have hcat := ht.getElem?_ordered.mpr ⟨(mem_ordered_iff ht).mp hc, of_decide_eq_true hci⟩
  have hdat := ht.getElem?_ordered.mpr ⟨(mem_ordered_iff ht).mp hd, of_decide_eq_true hdi⟩
  exact Option.some.inj (hcat.symm.trans hdat)

theorem WellFormed.find?_index (i : Nat) :
    (t.ordered.find? fun c => c.index = (i : Int)) = t.ordered[i]? := by
  apply Option.ext
  intro c
  rw [find?_eq_some_iff_of_unique fun _ hc _ hd => ht.eq_of_index hc hd, ht.getElem?_ordered,
    mem_ordered_iff ht, decide_eq_true_iff]

/-- The order in which columns are searched does not matter. -/
theorem WellFormed.resolve_perm (hperm : columns.Perm t.ordered) (reference : List Char) :
    resolve columns reference = resolve t.ordered reference := by
  simp only [resolve, find?_perm hperm fun _ hc _ hd => ht.eq_of_sameName hc hd,
    find?_perm hperm fun _ hc _ hd => ht.eq_of_index hc hd]

/-- A name means its column, whatever its case. -/
theorem WellFormed.resolve_name (hc : c ∈ t.ordered) (h : Text.lower reference = c.name.toList) :
    resolve t.ordered reference = .ok (some c) := by
  have hfound : (t.ordered.find? fun c => sameName reference c.name.toList) = some c :=
    (find?_eq_some_iff_of_unique fun _ hc _ hd => ht.eq_of_sameName hc hd).mpr
      ⟨hc, (ht.sameName_iff hc).mpr h⟩
  have hne : reference.isEmpty = false := by
    rw [List.isEmpty_eq_false_iff]
    rintro rfl
    have hnormal := (ht.named ((mem_ordered_iff ht).mp hc)).2
    exact hnormal.ne_empty (String.toList_inj.mp h.symm)
  rw [resolve, hne, hfound]
  rfl

/-- A place means the column that stands there, if no column goes by its text as a name. -/
theorem WellFormed.resolve_place (h : IsPlace reference digits)
    (hfree : ∀ e ∈ t.ordered, e.name.toList ≠ 'i' :: digits) :
    resolve t.ordered reference = .ok t.ordered[Text.numeral digits]? := by
  have hnone : (t.ordered.find? fun c => sameName reference c.name.toList) = none := by
    rw [List.find?_eq_none]
    intro e he hsame
    rw [ht.sameName_iff he, h.lower_eq] at hsame
    exact hfree e he hsame.symm
  have hne : reference.isEmpty = false := by
    rcases h.begins with rfl | rfl <;> rfl
  rw [resolve, hne, hnone, h.placeDigits?_eq, ← ht.find?_index]
  exact if_neg (Nat.not_lt.mpr h.short)

end WellFormed

/-- What references mean in the columns of a table, in whatever order these come: names in any case
their columns, and places the columns that stand there, unless a column goes by the text as a name. -/
structure Answers (t : Table) (columns : List Column) : Prop where
  unordered : ∀ reference, resolve columns reference = resolve t.ordered reference
  named : ∀ c ∈ columns, ∀ reference, Text.lower reference = c.name.toList →
    resolve columns reference = .ok (some c)
  placed : ∀ reference digits, IsPlace reference digits →
    (∀ e ∈ columns, e.name.toList ≠ 'i' :: digits) →
    (∀ c ∈ columns, c.index = Text.numeral digits → resolve columns reference = .ok (some c)) ∧
      (columns.length ≤ Text.numeral digits → resolve columns reference = .ok none)
  counted : ∀ k, (Text.natText k).length ≤ Text.maxIntegerDigits →
    (∀ e ∈ columns, e.name.toList ≠ 'i' :: Text.natText k) →
    resolve columns ('i' :: Text.natText k) = .ok t.ordered[k]?

theorem WellFormed.answers (ht : t.WellFormed) (hperm : columns.Perm t.ordered) :
    t.Answers columns where
  unordered := ht.resolve_perm hperm
  named c hc reference h := by
    rw [ht.resolve_perm hperm, ht.resolve_name (hperm.subset hc) h]
  placed reference digits h hfree := by
    have hplace := ht.resolve_place h fun e he => hfree e (hperm.symm.subset he)
    rw [ht.resolve_perm hperm, hplace]
    refine ⟨fun c hc hindex => ?_, fun hlen => ?_⟩
    · have hget := (mem_ordered_iff ht).mp (hperm.subset hc)
      rw [ht.getElem?_ordered.mpr ⟨hget, hindex⟩]
    · rw [List.getElem?_eq_none (hperm.length_eq ▸ hlen)]
  counted k hshort hfree := by
    have h : IsPlace ('i' :: Text.natText k) (Text.natText k) :=
      ⟨.inl rfl, Text.areDigits_natText k, hshort⟩
    have hplace := ht.resolve_place h fun e he => hfree e (hperm.symm.subset he)
    rw [ht.resolve_perm hperm, hplace, Text.numeral_natText]

end Table

end Cabinet

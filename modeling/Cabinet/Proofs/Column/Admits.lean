import Cabinet.Proofs.Column.Takes
import Cabinet.Rows

/-!
What a row may hold in a column: what is accepted for the column can be held there, in the form in
which storage keeps it.
-/

namespace Cabinet

open Storage

/-- A text of tags: normal names in order, no two the same, with single spaces between them. -/
def IsTagText (s : String) (isSingle : Bool) : Prop :=
  ∃ tags : List String, s = " ".intercalate tags ∧ tags.Nodup ∧
    (tags.Pairwise fun a b => Text.precedes a.toList b.toList = true) ∧
    (∀ tag ∈ tags, Name.IsNormal tag) ∧ (isSingle = true → tags.length ≤ 1)

/-- What a row may hold in a column: nothing, or a text of tags or for a rule, or what the column
accepts and leaves as it is. -/
def Column.Admits (c : Column) (cell : Cell) : Prop :=
  cell = .null ∨
    match c.type with
    | .singleTag => ∃ s, cell = .text s ∧ IsTagText s true
    | .multiTag => ∃ s, cell = .text s ∧ IsTagText s false
    | .custom => ∃ s, cell = .text s
    | _ => c.accept cell.toValue = .ok cell.toValue

namespace Column

variable {c d : Column} {v given : Value} {cell : Cell} {position : Nat}

theorem admits_null (c : Column) : c.Admits .null :=
  .inl rfl

/-- Integers of the range that is stored are finite in a real column. -/
theorem isFinite_ofInt_of_isStorable {n : Int} (h : isStorable n = true) :
    (Binary64.ofInt n).isFinite = true := by
  obtain ⟨hlow, hhigh⟩ := isStorable_iff.mp h
  exact Binary64.isFinite_ofInt (by omega)

/-- A number in a real column, which may be there for an integer. -/
theorem convert_real (x : Binary64) :
    (Cell.real x).convert .real = .real x ∨ ∃ n, x.toInt? = some n ∧ isStorable n = true ∧
      (Cell.real x).convert .real = .real (.ofInt n) := by
  have hconvert : (Cell.real x).convert .real = (Cell.shrink x).widened := rfl
  rw [hconvert, Cell.shrink]
  split
  · next n hn =>
    split
    · next hrange =>
      have hmin : minInteger = -9223372036854775808 := rfl
      have hmax : maxInteger = 9223372036854775807 := rfl
      rw [hmin, hmax, Bool.and_eq_true, decide_eq_true_eq, decide_eq_true_eq] at hrange
      exact .inr ⟨n, hn, isStorable_iff.mpr (by omega), rfl⟩
    · exact .inl rfl
  · exact .inl rfl

theorem isBetween_ofInt {n : Int} (hlow : 0 ≤ n) (hhigh : n ≤ 10) :
    isBetween 0 10 (.float (.ofInt n)) = true := by
  have hall : ∀ n : Fin 11, isBetween 0 10 (.float (.ofInt n.val)) = true := by decide +kernel
  obtain ⟨k, rfl⟩ := Int.eq_ofNat_of_zero_le hlow
  exact hall ⟨k, by omega⟩

/-- What is accepted for an advanced rating is one as a real number. -/
theorem isBetween_convert (h : isBetween 0 10 v = true) (hcell : Cell.ofValue position v = .ok cell) :
    isBetween 0 10 (cell.convert .real).toValue = true := by
  cases v with
  | int n =>
    simp only [isBetween, Bool.and_eq_true, decide_eq_true_eq] at h
    simp only [Cell.ofValue] at hcell
    split at hcell
    · obtain rfl := Except.ok.inj hcell
      exact isBetween_ofInt h.1 h.2
    · simp at hcell
  | float x =>
    have hx : cell = .real x := by
      cases x with
      | nan => simp [isBetween, Binary64.compareInt?] at h
      | infinite | finite => exact (Except.ok.inj hcell).symm
    subst hx
    rcases convert_real x with heq | ⟨n, hn, -, heq⟩
    · rw [heq]
      exact h
    · rw [heq]
      simp only [isBetween, Bool.and_eq_true, Option.any_eq_true, bne_iff_ne] at h
      obtain ⟨⟨o, ho, hlow⟩, o', ho', hhigh⟩ := h
      have hbounds := Binary64.toInt?_between hn (fun heq => hlow (Option.some.inj (ho.symm.trans heq)))
        fun heq => hhigh (Option.some.inj (ho'.symm.trans heq))
      exact isBetween_ofInt hbounds.1 hbounds.2
  | _ => simp [isBetween] at h

theorem ofValue_int {n : Int} (h : Cell.ofValue position (.int n) = .ok cell) :
    isStorable n = true ∧ cell = .integer n := by
  simp only [Cell.ofValue] at h
  split at h
  · next hn => exact ⟨hn, (Except.ok.inj h).symm⟩
  · simp at h

theorem ofValue_finite {x : Binary64} (hx : x.isFinite = true)
    (h : Cell.ofValue position (.float x) = .ok cell) : cell = .real x := by
  cases x with
  | nan => simp [Binary64.isFinite] at hx
  | infinite | finite => exact (Except.ok.inj h).symm

/-- A finite number is finite in a real column. -/
theorem isFinite_convert {x : Binary64} (hx : x.isFinite = true) :
    ∃ y, (Cell.real x).convert .real = .real y ∧ y.isFinite = true := by
  rcases convert_real x with heq | ⟨n, -, hn, heq⟩
  · exact ⟨x, heq, hx⟩
  · exact ⟨_, heq, isFinite_ofInt_of_isStorable hn⟩

/-- What is accepted as tags is a text of tags. -/
theorem Registers.isTagText {texts : List String} (h : c.Registers (texts.flatMap tagWords)) :
    IsTagText (" ".intercalate (Text.sort (texts.flatMap tagWords).eraseDups))
      (c.type == .singleTag) := by
  have hperm : (Text.sort (texts.flatMap tagWords).eraseDups).Perm _ := List.mergeSort_perm _ _
  refine ⟨_, rfl, Text.nodup_sort (Text.nodup_eraseDups _), Text.pairwise_sort _, fun tag htag => ?_,
    fun hsingle => ?_⟩
  · obtain ⟨s, -, hs⟩ := List.mem_flatMap.mp (List.mem_eraseDups.mp (hperm.mem_iff.mp htag))
    exact isNormal_of_mem_tagWords hs
  · rw [hperm.length_eq]
    exact h.single (by simpa using hsingle)

/-- What is accepted for a column can be held in any column of its type, in the form in which storage
keeps it there. -/
theorem admits_convert (h : Rows.stored c given = .ok v)
    (hcell : Cell.ofValue position v = .ok cell) (ht : d.type = c.type) :
    d.Admits (cell.convert (.ofStorage c.type.storage)) := by
  by_cases hnull : given = .null
  · subst hnull
    obtain rfl := Except.ok.inj h
    obtain rfl := Except.ok.inj hcell
    cases c.type <;> exact d.admits_null
  have haccept : c.accept given = .ok v := by
    cases given <;> first | exact h | exact absurd rfl hnull
  right
  -- What is taken is taken again in the stored form, by a column of the same type.
  cases takes_of_accept haccept with
  | text htype s =>
    obtain rfl := Except.ok.inj hcell
    have hself := Takes.text (ht ▸ htype) s
    rcases htype with htype | htype
    all_goals
      simp only [ht, htype]
      exact hself.accept_eq_of_type (ht.trans htype) rfl
  | flag htype hq hn =>
    obtain ⟨-, rfl⟩ := ofValue_int hcell
    simp only [ht, htype]
    exact (Takes.flag (ht.trans htype) rfl hn).accept_eq_of_type (ht.trans htype) rfl
  | integer htype hv hq hn =>
    obtain ⟨-, rfl⟩ := ofValue_int hcell
    simp only [ht, htype]
    exact (Takes.integer (ht.trans htype) rfl rfl hn).accept_eq_of_type (ht.trans htype) rfl
  | wholeFloat htype hn =>
    obtain ⟨-, rfl⟩ := ofValue_int hcell
    simp only [ht, htype]
    have hfinite := isFinite_ofInt_of_isStorable hn
    exact (Takes.float (ht.trans htype) hfinite).accept_eq_of_type (ht.trans htype) rfl
  | float htype hx =>
    obtain rfl := ofValue_finite hx hcell
    obtain ⟨y, hy, hfinite⟩ := isFinite_convert hx
    have hkept : (Cell.real _).convert (.ofStorage ColumnType.float.storage) = .real y := hy
    simp only [ht, htype, hkept]
    exact (Takes.float (ht.trans htype) hfinite).accept_eq_of_type (ht.trans htype) rfl
  | date htype hv hq hn =>
    obtain ⟨-, rfl⟩ := ofValue_int hcell
    simp only [ht, htype]
    exact (Takes.date (ht.trans htype) rfl rfl hn).accept_eq_of_type (ht.trans htype) rfl
  | rating htype hv hq hn =>
    obtain ⟨-, rfl⟩ := ofValue_int hcell
    simp only [ht, htype]
    exact (Takes.rating (ht.trans htype) rfl rfl hn).accept_eq_of_type (ht.trans htype) rfl
  | advancedRating htype hv hq hbetween =>
    have hbetween : isBetween 0 10 v = true :=
      isBetween_iff.mpr ⟨hv, _, hq, by simpa using hbetween⟩
    simp only [ht, htype, accept]
    exact if_pos (isBetween_convert hbetween hcell)
  | tags htype hv hregisters =>
    obtain rfl := Except.ok.inj hcell
    have htags := hregisters.isTagText
    cases hc : c.type with
    | singleTag | multiTag =>
      rw [hc] at htags
      simp only [ht, hc]
      exact ⟨_, rfl, htags⟩
    | _ => simp [hc, ColumnType.isTag] at htype
  | custom htype s =>
    obtain rfl := Except.ok.inj hcell
    simp only [ht, htype]
    exact ⟨s, rfl⟩
  | link htype s hread hname hne hurl =>
    obtain rfl := Except.ok.inj hcell
    simp only [ht, htype]
    exact (Takes.link (ht.trans htype) s hread hname hne hurl).accept_eq_of_type (ht.trans htype) rfl

/-- What is there in a column for truth values is zero or one. -/
theorem flag_of_admits (h : c.Admits cell) (ht : c.type = .boolean) (hthere : cell ≠ .null) :
    ∃ n, (n = 0 ∨ n = 1) ∧ cell = .integer n := by
  have haccept := h.resolve_left hthere
  simp only [ht, accept] at haccept
  split at haccept
  · next n hflag =>
    have hvalue : Value.int n = cell.toValue := Except.ok.inj haccept
    cases cell with
    | integer m =>
      obtain rfl := Value.int.inj hvalue
      exact ⟨n, (flag?_eq_some_iff.mp hflag).2, rfl⟩
    | _ => simp [Cell.toValue] at hvalue
  · exact absurd haccept (reject_ne_ok _ _ _)

/-- What is there in a column for dates is positive. -/
theorem date_of_admits (h : c.Admits cell) (ht : c.type = .date) :
    cell = .null ∨ ∃ n, 0 < n ∧ cell = .integer n := by
  refine h.imp_right fun haccept => ?_
  simp only [ht, accept] at haccept
  obtain ⟨n, -, ⟨hpos, -⟩, hvalue⟩ := acceptWhole_eq_ok.mp haccept
  cases cell with
  | integer m =>
    obtain rfl := Value.int.inj hvalue
    exact ⟨m, hpos, rfl⟩
  | _ => simp [Cell.toValue] at hvalue

end Column

end Cabinet

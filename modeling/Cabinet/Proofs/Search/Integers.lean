import Cabinet.Proofs.Number.Rounding
import Cabinet.Proofs.Search.Decimal

/-!
Searches for integers. An integer that storage has no room for is compared as the floating-point
number nearest to it, which says the same of all stored integers but, for some, of the smallest one.
-/

namespace Cabinet

open Storage

namespace Search

variable {columns : List Column} {column name text : String} {row : Lookup} {comparison : Comparison}
  {s : List Char} {n v : Int}

theorem order_real {x : Binary64} {m : Int} (h : x.compareInt? v = some (compare m v)) :
    (Cell.integer v).order (.real x) = compare v m := by
  rw [Cell.order, h]
  exact Int.compare_swap m v

/-- How a stored integer is compared with the floating-point number nearest to an integer that storage
has no room for: some integers right below the smallest one that can be stored are rounded to it. -/
theorem compareInt?_beyond {negative : Bool} {digits : Nat}
    (hn : n = if negative then -(digits : Int) else digits) (hbeyond : isStorable n = false)
    (hv : isStorable v = true) : (Binary64.ofDecimal negative digits 0).compareInt? v =
      some (compare (if minInteger - 1024 ≤ n ∧ n < minInteger then minInteger else n) v) := by
  have hmin : minInteger = -2 ^ 63 := rfl
  have hmax : maxInteger = 2 ^ 63 - 1 := rfl
  have hbounds : -2 ^ 63 ≤ v ∧ v ≤ 2 ^ 63 - 1 := by simpa [isStorable, hmin, hmax] using hv
  have hsize : n < -2 ^ 63 ∨ 2 ^ 63 - 1 < n := by
    simp only [isStorable, hmin, hmax, Bool.and_eq_false_iff, decide_eq_false_iff_not] at hbeyond
    omega
  rw [hmin]
  cases negative with
  | false =>
    simp only [Bool.false_eq_true, if_false] at hn
    rw [Binary64.compareInt?_positive (by omega) hbounds.2, if_neg (by omega),
      compare_gt_iff_gt.mpr (by omega)]
  | true =>
    simp only [if_true] at hn
    rcases Nat.lt_or_ge (2 ^ 63 + 1024) digits with hfar | hnear
    · rw [Binary64.compareInt?_negative hfar hbounds.1, if_neg (by omega),
        compare_lt_iff_lt.mpr (by omega)]
    · rw [Binary64.compareInt?_next (by omega) hnear, if_pos (by omega)]

/-- An integer is an integer for storage, too, or else the number nearest to it. -/
theorem given_numberValue_eq (h : Text.WritesInteger s n) :
    ((Text.splitSign s).2.length ≤ Text.maxIntegerDigits ∧ isStorable n = true ∧
      given (numberValue s) = .integer n) ∨
    (((Text.splitSign s).2.length ≤ Text.maxIntegerDigits → isStorable n = false) ∧
      given (numberValue s) =
        .real (.ofDecimal (Text.splitSign s).1 (Text.numeral (Text.splitSign s).2) 0)) := by
  have hreal := given_float (Binary64.ofDecimal_ne_nan (Text.splitSign s).1
    (Text.numeral (Text.splitSign s).2) 0)
  rw [numberValue, h.integer?, Binary64.read?_of_writesInteger h]
  rcases Nat.lt_or_ge Text.maxIntegerDigits (Text.splitSign s).2.length with hlong | hshort
  · rw [if_pos hlong]
    exact .inr ⟨fun hshort => absurd hlong (Nat.not_lt.mpr hshort), hreal⟩
  · rw [if_neg (Nat.not_lt.mpr hshort)]
    cases hstorable : isStorable n with
    | true => exact .inl ⟨hshort, rfl, by simp [hstorable, given_int hstorable]⟩
    | false => exact .inr ⟨fun _ => rfl, by simpa [hstorable] using hreal⟩

/-- The integer that stored integers are compared with where a text writes one. It is the integer
itself, unless it is right below the smallest one that can be stored, or has more digits than are read
as an integer and is rounded though there is room for it. -/
structure ComparedAs (s : List Char) (n m : Int) : Prop where
  exact : ¬(minInteger - 1024 ≤ n ∧ n < minInteger) →
    ((Text.splitSign s).2.length ≤ Text.maxIntegerDigits ∨ isStorable n = false ∨
      Binary64.Fits n.natAbs) → m = n
  smallest : minInteger - 1024 ≤ n → n < minInteger → m = minInteger
  nearest : Text.maxIntegerDigits < (Text.splitSign s).2.length → isStorable n = true →
    (Binary64.ofInt n).toInt? = some m

theorem natAbs_lt_of_isStorable (h : isStorable n = true) : n.natAbs < 2 ^ 64 := by
  have hmin : minInteger = -2 ^ 63 := rfl
  have hmax : maxInteger = 2 ^ 63 - 1 := rfl
  simp only [isStorable, hmin, hmax, Bool.and_eq_true, decide_eq_true_eq] at h
  omega

theorem ComparedAs.of_isStorable {m : Int} (h : isStorable n = true)
    (hexact : (Text.splitSign s).2.length ≤ Text.maxIntegerDigits ∨ Binary64.Fits n.natAbs → m = n)
    (hnearest : Text.maxIntegerDigits < (Text.splitSign s).2.length →
      (Binary64.ofInt n).toInt? = some m) : ComparedAs s n m where
  exact _ hcases := hexact (hcases.imp_right fun hcases => hcases.resolve_left (by simp [h]))
  smallest _ hbelow := by
    simp only [isStorable, Bool.and_eq_true, decide_eq_true_eq] at h
    omega
  nearest hlong _ := hnearest hlong

theorem order_numberValue (h : Text.WritesInteger s n) : ∃ m, ComparedAs s n m ∧
    ∀ v, isStorable v = true → (Cell.integer v).order (given (numberValue s)) = compare v m := by
  obtain ⟨hshort, hstorable, hgiven⟩ | ⟨hlong, hgiven⟩ := given_numberValue_eq h
  · refine ⟨n, .of_isStorable hstorable (fun _ => rfl) fun hlong => ?_, fun v _ => ?_⟩
    · exact absurd hshort (Nat.not_le.mpr hlong)
    · rw [hgiven, Cell.order]
  obtain ⟨negative, digits, hsplit, -, hn⟩ := h.splitSign
  have habs : Text.numeral digits = n.natAbs := by
    rw [hn]
    split <;> simp
  rw [hgiven, hsplit]
  cases hstorable : isStorable n with
  | true =>
    have hsize : n.natAbs < 2 ^ 64 := natAbs_lt_of_isStorable hstorable
    obtain ⟨m, hm⟩ := Binary64.exists_toInt?_ofInt hsize
    have hexact : (Binary64.ofDecimal negative (Text.numeral digits) 0).toInt? = some m := by
      rw [Binary64.toInt?_ofDecimal negative (habs ▸ hsize), ← hn, hm]
    refine ⟨m, .of_isStorable hstorable ?_ fun _ => hm, fun v _ => ?_⟩
    · rintro (hshort | hfits)
      · simp [hlong hshort] at hstorable
      · exact Option.some.inj (hm.symm.trans (Binary64.toInt?_ofInt hsize hfits))
    · exact order_real (Binary64.compareInt?_of_toInt? hexact)
  | false =>
    refine ⟨if minInteger - 1024 ≤ n ∧ n < minInteger then minInteger else n, ?_,
      fun v hv => order_real (compareInt?_beyond hn hstorable hv)⟩
    exact ⟨fun hfar _ => if_neg hfar, fun hlow hbelow => if_pos ⟨hlow, hbelow⟩, by simp [hstorable]⟩

/-- The condition of a comparison with an integer. -/
theorem lower_integer {c : Column} (hcolumn : resolve columns name.toList = .ok (some c))
    (htype : c.type = .integer) (hs : Text.WritesInteger s n)
    (htext : Compares text.toList comparison s) :
    lower columns (.field name text false) =
      .ok (.clause (.compare c.name comparison (numberValue s))) := by
  have hnumeric : numericClause? c.name text.toList =
      some (.compare c.name comparison (numberValue s)) := by
    rw [htext.numericClause? (isOperand_of_writesInteger hs), if_pos (isNumber_of_writesInteger hs)]
  exact lower_of_resolve hcolumn (by simp [termClause, htype, hnumeric, ColumnType.isNumeric])

/-- What the condition of a comparison with an integer says of stored integers. -/
theorem holds_integer (column : String) (comparison : Comparison) (hs : Text.WritesInteger s n) :
    ∃ m, ComparedAs s n m ∧ ∀ row v, row column = (.integer, .integer v) → isStorable v = true →
      holds row (.clause (.compare column comparison (numberValue s))) =
        .ok (some (decide (comparison.Relates v m))) := by
  obtain ⟨m, hm, horder⟩ := order_numberValue hs
  refine ⟨m, hm, fun row v hrow hv => ?_⟩
  have hgiven : (∃ n, given (numberValue s) = .integer n) ∨ ∃ x, given (numberValue s) = .real x :=
    (given_numberValue_eq hs).imp (fun h => ⟨_, h.2.2⟩) fun h => ⟨_, h.2⟩
  rw [holds_number hrow hgiven, horder v hv, Comparison.admits_compare]

theorem compile_integer {c : Column} (hcolumn : resolve columns name.toList = .ok (some c))
    (htype : c.type = .integer) (hname : Query.isFieldName name.toList = true)
    (hs : Text.WritesInteger s n) (htext : text.toList = comparison.typed ++ s) :
    compile columns (.text (name ++ ":" ++ text)) =
      .ok (.clause (.compare c.name comparison (numberValue s))) := by
  have hoperand := isOperand_of_writesInteger hs
  have hword := isBareWord_typed comparison hoperand
  have hcompares := compares_typed comparison hoperand
  rw [← htext] at hword hcompares
  rw [compile_bareWord hname hword, lower_integer hcolumn htype hs hcompares]

/-- A search of a column of integers for a comparison with an integer says of each stored integer
whether the comparison is true, where the integer is exact: that is all of them but those right below
the smallest one that can be stored, which are compared as that, and some of more digits than are read
as an integer, which are rounded. -/
theorem integers_compared {c : Column} (hcolumn : resolve columns name.toList = .ok (some c))
    (htype : c.type = .integer) (hs : Text.WritesInteger s n)
    (htext : Compares text.toList comparison s) :
    ∃ d m, lower columns (.field name text false) = .ok d ∧
      (Query.isFieldName name.toList = true → text.toList = comparison.typed ++ s →
        compile columns (.text (name ++ ":" ++ text)) = .ok d) ∧
      ComparedAs s n m ∧ ∀ row v, row c.name = (.integer, .integer v) → isStorable v = true →
        holds row d = .ok (some (decide (comparison.Relates v m))) := by
  obtain ⟨m, hm, hholds⟩ := holds_integer c.name comparison hs
  exact ⟨_, m, lower_integer hcolumn htype hs htext,
    fun hname htyped => compile_integer hcolumn htype hname hs htyped, hm, hholds⟩

/-- An integer that is larger than all that can be stored. -/
theorem integers_compared_beyond :
    let columns : List Column := [{ name := "num", type := .integer, index := 6 }]
    resolve columns "num".toList = .ok columns.head? ∧
      Text.WritesInteger "99999999999999999999".toList 99999999999999999999 ∧
      ∃ d, compile columns (.text "num:<99999999999999999999") = .ok d ∧
        holds (fun _ => (.integer, .integer maxInteger)) d = .ok (some true) := by
  intro columns
  have hs : Text.WritesInteger "99999999999999999999".toList 99999999999999999999 :=
    .plain (by decide +kernel)
  have htext : Compares "<99999999999999999999".toList .less "99999999999999999999".toList :=
    compares_typed .less (isOperand_of_writesInteger hs)
  have hcolumn : resolve columns "num".toList = .ok columns.head? := rfl
  obtain ⟨d, m, -, hcompile, hm, hholds⟩ := integers_compared hcolumn rfl hs htext
  obtain rfl := hm.exact (by decide +kernel) (.inr (.inl (by decide +kernel)))
  refine ⟨hcolumn, hs, d, hcompile (by decide) rfl, ?_⟩
  rw [hholds _ _ rfl (by decide +kernel)]
  rfl

/-- An integer that is no floating-point number is rounded if it has too many digits. -/
theorem long_integer_rounded (hs : Text.WritesInteger s 9007199254740993)
    (hlong : Text.maxIntegerDigits < (Text.splitSign s).2.length) :
    holds (fun _ => (.integer, .integer 9007199254740993))
      (.clause (.compare "num" .equal (numberValue s))) = .ok (some false) := by
  obtain ⟨m, hm, hholds⟩ := holds_integer "num" .equal hs
  obtain rfl : m = 9007199254740992 :=
    Option.some.inj ((hm.nearest hlong (by decide +kernel)).symm.trans (by decide +kernel))
  rw [hholds _ 9007199254740993 rfl (by decide +kernel)]
  rfl

/-- Integers that are not exact: the one right below the smallest one that can be stored is found as
that, and an integer is not found by a text of itself with too many zeros before it. -/
theorem integers_not_all_compared :
    let columns : List Column := [{ name := "num", type := .integer, index := 6 }]
    let zeros := List.replicate 4300 '0' ++ "9007199254740993".toList
    (Text.WritesInteger "-9223372036854775809".toList (-9223372036854775809) ∧
      ∃ d, compile columns (.text "num:-9223372036854775809") = .ok d ∧
        holds (fun _ => (.integer, .integer (-9223372036854775808))) d = .ok (some true)) ∧
    (Text.WritesInteger zeros 9007199254740993 ∧
      ∃ d, compile columns (.text ("num:" ++ String.ofList zeros)) = .ok d ∧
        holds (fun _ => (.integer, .integer 9007199254740993)) d = .ok (some false)) := by
  intro columns zeros
  have hcolumn : resolve columns "num".toList = .ok columns.head? := rfl
  have hsmall : Text.WritesInteger "-9223372036854775809".toList (-9223372036854775809) :=
    .minus (by decide +kernel)
  have hdigits : Text.AreDigits zeros := Text.areDigits_zeros 4300 (by decide)
  have hvalue : Text.numeral zeros = 9007199254740993 :=
    (Text.numeral_zeros 4300 _).trans (by decide +kernel)
  have hzeros : Text.WritesInteger zeros 9007199254740993 := by
    have hwrites := Text.WritesInteger.plain hdigits
    rwa [hvalue] at hwrites
  have hlong : Text.maxIntegerDigits < (Text.splitSign zeros).2.length := by
    rw [Text.splitSign_of_areDigits hdigits, List.length_append, List.length_replicate]
    decide
  clear_value zeros
  have hname : "num:" = "num" ++ ":" := rfl
  have htext : (String.ofList zeros).toList = Comparison.equal.typed ++ zeros := String.toList_ofList
  have hcompile : compile columns (.text ("num" ++ ":" ++ "-9223372036854775809")) = .ok _ :=
    compile_integer hcolumn rfl (by decide) hsmall (rfl : _ = Comparison.equal.typed ++ _)
  refine ⟨⟨hsmall, _, hcompile, ?_⟩, hzeros, _, ?_, long_integer_rounded hzeros hlong⟩
  · obtain ⟨m, hm, hholds⟩ := holds_integer "num" .equal hsmall
    obtain rfl := hm.smallest (by decide +kernel) (by decide +kernel)
    rw [hholds _ (-9223372036854775808) rfl (by decide +kernel)]
    rfl
  · rw [hname]
    exact compile_integer hcolumn rfl (by decide) hzeros htext

end Search

end Cabinet

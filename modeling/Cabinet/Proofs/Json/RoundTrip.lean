import Cabinet.Proofs.Json.Parts
import Mathlib.Tactic.SplitIfs

/-!
Reading a JSON text that was written gives the value back, if its numbers are integers that are
short enough or are not finite, and the keys of its objects are all different.
-/

namespace Cabinet.Json

/-! Strings -/

theorem unitChar_of_toNat {c : Char} (h : c.toNat < 0x10000) (rest : List Char) :
    unitChar c.toNat rest = (c, rest) := by
  have hv := c.valid
  simp only [UInt32.isValidChar, Nat.isValidChar] at hv
  have hn : c.toNat = c.val.toNat := rfl
  have high : isHighSurrogate c.toNat = false := by
    simp only [isHighSurrogate, Bool.and_eq_false_iff, decide_eq_false_iff_not]
    omega
  have low : isLowSurrogate c.toNat = false := by
    simp only [isLowSurrogate, Bool.and_eq_false_iff, decide_eq_false_iff_not]
    omega
  unfold unitChar
  rw [high, low]
  simp [Char.ofNat_toNat]

theorem unitChar_pair {high low : Nat} (hh : 0xD800 ≤ high ∧ high < 0xDC00)
    (hl : 0xDC00 ≤ low ∧ low < 0xE000) (rest : List Char) :
    unitChar high (unitEscape low ++ rest) =
      (Char.ofNat (0x10000 + (high - 0xD800) * 0x400 + (low - 0xDC00)), rest) := by
  have isHigh : isHighSurrogate high = true := by
    simpa only [isHighSurrogate, Bool.and_eq_true, decide_eq_true_eq] using hh
  have isLow : isLowSurrogate low = true := by
    simpa only [isLowSurrogate, Bool.and_eq_true, decide_eq_true_eq] using hl
  simp only [unitChar, isHigh, if_true, unitEscape, List.cons_append,
    codeUnit?_paddedHex (by omega : low < 0x10000), isLow]

theorem stringChar?_unitEscape {n : Nat} (h : n < 0x10000) (rest : List Char) :
    stringChar? (unitEscape n ++ rest) = some (unitChar n rest) := by
  simp only [unitEscape, List.cons_append, stringChar?, codeUnit?_paddedHex h,
    Option.bind_eq_bind, Option.bind_some]

theorem stringChar?_escaped (c : Char) (rest : List Char) :
    stringChar? (escaped c ++ rest) = some (c, rest) := by
  unfold escaped
  split_ifs with h1 h2 h3 h4 h5 h6 h7 h8 h9
  · subst h1; rfl
  · subst h2; rfl
  · subst h3; rfl
  · subst h4; rfl
  · subst h5; rfl
  · subst h6; rfl
  · subst h7; rfl
  · have hn : ¬c.toNat < 32 := by omega
    simp [stringChar?, hn, h2]
  · rw [stringChar?_unitEscape h9, unitChar_of_toNat h9]
  · have hv := c.valid
    simp only [UInt32.isValidChar, Nat.isValidChar] at hv
    have hn : c.toNat = c.val.toNat := rfl
    obtain ⟨n, hc⟩ : ∃ n, c.toNat = 0x10000 + n := ⟨c.toNat - 0x10000, by omega⟩
    have hsub : c.toNat - 0x10000 = n := by omega
    have hpair : 0x10000 + (0xD800 + n / 0x400 - 0xD800) * 0x400 + (0xDC00 + n % 0x400 - 0xDC00) =
        c.toNat := by omega
    simp only [hsub, List.append_assoc]
    rw [stringChar?_unitEscape (by omega), unitChar_pair (by omega) (by omega), hpair,
      Char.ofNat_toNat]

theorem escaped_ne_nil (c : Char) : escaped c ≠ [] := by
  intro h
  have hc := stringChar?_escaped c []
  rw [h] at hc
  simp [stringChar?] at hc

theorem escaped_head_ne_quote {c d : Char} {s : List Char} (h : escaped c = d :: s) : d ≠ '"' := by
  rintro rfl
  have hc := stringChar?_escaped c []
  rw [h, List.append_nil] at hc
  obtain ⟨rfl, -⟩ : '"' = c ∧ s = [] := by simpa [stringChar?] using hc
  exact absurd h (by simp [escaped])

theorem stringBody?_escaped (s : List Char) (fuel : Nat) (h : s.length < fuel) (rest : List Char) :
    stringBody? fuel (s.flatMap escaped ++ '"' :: rest) = some (s, rest) := by
  induction s generalizing fuel with
  | nil =>
    obtain ⟨fuel, rfl⟩ := Nat.exists_eq_add_of_lt h
    simp [stringBody?]
  | cons c s ih =>
    obtain ⟨fuel, rfl⟩ : ∃ n, fuel = n + 1 := ⟨fuel - 1, by omega⟩
    cases he : escaped c with
    | nil => exact absurd he (escaped_ne_nil c)
    | cons d t =>
      have hd := escaped_head_ne_quote he
      have hc := stringChar?_escaped c (s.flatMap escaped ++ '"' :: rest)
      rw [he] at hc
      rw [List.flatMap_cons, he, List.append_assoc, List.cons_append, stringBody?]
      · rw [List.cons_append] at hc
        simp [hc, ih fuel (by simpa using h)]
      · intro _ hcons
        exact hd (List.cons.inj hcons).1

theorem length_le_stringText (s : List Char) : s.length + 2 ≤ (stringText s).length := by
  have hle : s.length ≤ (s.flatMap escaped).length := by
    induction s with
    | nil => simp
    | cons c s ih =>
      have := List.length_pos_iff.mpr (escaped_ne_nil c)
      simp only [List.flatMap_cons, List.length_append, List.length_cons]
      omega
  simp only [stringText, List.length_append, List.length_cons, List.length_nil]
  omega

/-- What may follow a value in a text that was written. -/
def Follows (rest : List Char) : Prop :=
  rest = [] ∨ (∃ t, rest = ',' :: t) ∨ ∃ t, rest = '\n' :: t

theorem Follows.takeWhile_digits {rest : List Char} (h : Follows rest) (s : List Char)
    (hs : ∀ c ∈ s, Text.isAsciiDigit c = true) :
    (s ++ rest).takeWhile Text.isAsciiDigit = s ∧
      (s ++ rest).dropWhile Text.isAsciiDigit = rest := by
  induction s with
  | nil => rcases h with rfl | ⟨t, rfl⟩ | ⟨t, rfl⟩ <;> simp [Text.isAsciiDigit]
  | cons c s ih =>
    have ih' := ih fun d hd => hs d (List.mem_cons_of_mem _ hd)
    simp [hs c List.mem_cons_self, ih']

/-! Numbers -/

theorem wholeDigits_natText (n : Nat) {rest : List Char} (h : Follows rest) :
    wholeDigits (Text.natText n ++ rest) = (Text.natText n, rest) := by
  unfold wholeDigits
  split
  · next t he =>
    cases hs : Text.natText n with
    | nil => exact absurd hs (Text.natText_ne_nil n)
    | cons c s =>
      rw [hs, List.cons_append] at he
      obtain ⟨rfl, ht⟩ := List.cons.inj he
      rw [(Text.natText_of_head_zero hs).2, List.nil_append] at ht
      rw [(Text.natText_of_head_zero hs).2, ht]
  · have := h.takeWhile_digits (Text.natText n) fun c hc => Text.isAsciiDigit_of_mem_natText hc
    rw [this.1, this.2]

theorem number_natText (negative : Bool) (n : Nat) {rest : List Char}
    (hn : (Text.natText n).length ≤ Text.maxIntegerDigits) (h : Follows rest) :
    number negative (Text.natText n ++ rest) =
      .ok (.int (if negative then -(n : Int) else n), rest) := by
  have hf : fraction rest = ([], rest) := by
    rcases h with rfl | ⟨t, rfl⟩ | ⟨t, rfl⟩ <;> simp [fraction]
  have he : exponent? rest = (none, rest) := by
    rcases h with rfl | ⟨t, rfl⟩ | ⟨t, rfl⟩ <;> simp [exponent?]
  simp only [number, wholeDigits_natText n h, hf, he]
  rw [if_neg (by simpa using Text.natText_ne_nil n), if_neg (by omega), Text.numeral_natText]

theorem scalar_intText (n : Int) {rest : List Char}
    (hn : (Text.natText n.natAbs).length ≤ Text.maxIntegerDigits) (h : Follows rest) :
    scalar (Text.intText n ++ rest) = .ok (.int n, rest) := by
  cases hs : Text.natText n.natAbs with
  | nil => exact absurd hs (Text.natText_ne_nil _)
  | cons d s =>
    have hd : Text.isAsciiDigit d = true :=
      Text.isAsciiDigit_of_mem_natText (hs ▸ List.mem_cons_self)
    have hnum := fun negative => number_natText negative n.natAbs hn h
    have hne : d ≠ 'n' ∧ d ≠ 't' ∧ d ≠ 'f' ∧ d ≠ 'N' ∧ d ≠ 'I' ∧ d ≠ '-' := by
      refine ⟨?_, ?_, ?_, ?_, ?_, ?_⟩ <;> rintro rfl <;> exact absurd hd (by decide)
    by_cases hneg : n < 0
    · have hno : keywords.find? (·.1.isPrefixOf ('-' :: d :: (s ++ rest))) = none := by
        simp [keywords, List.isPrefixOf, hne.2.2.2.2.1.symm]
      rw [Text.intText, if_pos hneg, hs, List.cons_append, List.cons_append, scalar, hno]
      simp only
      rw [← List.cons_append, ← hs, hnum true]
      simp only [if_true, Except.ok.injEq, Prod.mk.injEq, Value.int.injEq, and_true]
      omega
    · have hno : keywords.find? (·.1.isPrefixOf (d :: (s ++ rest))) = none := by
        simp [keywords, List.isPrefixOf, hne.1.symm, hne.2.1.symm, hne.2.2.1.symm,
          hne.2.2.2.1.symm, hne.2.2.2.2.1.symm, hne.2.2.2.2.2.symm]
      rw [Text.intText, if_neg hneg, hs, List.cons_append, scalar, hno]
      · simp only
        rw [← List.cons_append, ← hs, hnum false]
        simp only [Bool.false_eq_true, if_false, Except.ok.injEq, Prod.mk.injEq, Value.int.injEq,
          and_true]
        omega
      · exact fun t he => hne.2.2.2.2.2 (List.cons.inj he).1

/-! Values -/

mutual

/-- Whether a value holds no fractional numbers, and its objects have each key once. -/
def IsPlain : Value → Prop
  | .float _ => False
  | .list items => ArePlain items
  | .object fields => (Fields.keys fields).Nodup ∧ FieldsArePlain fields
  | _ => True

def ArePlain : List Value → Prop
  | [] => True
  | v :: rest => IsPlain v ∧ ArePlain rest

def FieldsArePlain : List (String × Value) → Prop
  | [] => True
  | (_, v) :: rest => IsPlain v ∧ FieldsArePlain rest

end

/-- An integer does not begin like anything else. -/
theorem intText_head (n : Int) :
    ∃ c t, Text.intText n = c :: t ∧
      ∀ d ∈ ['"', '[', ']', '\x7b', ' ', '\t', '\n', '\r'], c ≠ d := by
  have hminus : ∀ d ∈ ['"', '[', ']', '\x7b', ' ', '\t', '\n', '\r'], '-' ≠ d := by
    rintro d hd rfl
    exact absurd (List.elem_eq_true_of_mem hd) (by decide)
  rw [Text.intText]
  split
  · exact ⟨_, _, rfl, hminus⟩
  · cases hs : Text.natText n.natAbs with
    | nil => exact absurd hs (Text.natText_ne_nil _)
    | cons c t =>
      have hc : Text.isAsciiDigit c = true :=
        Text.isAsciiDigit_of_mem_natText (hs ▸ List.mem_cons_self)
      refine ⟨c, t, rfl, ?_⟩
      rintro d hd rfl
      exact absurd (List.all_eq_true.mp (by decide : ['"', '[', ']', '\x7b', ' ', '\t', '\n',
        '\r'].all (fun c => !Text.isAsciiDigit c) = true) c hd) (by simp [hc])

/-- The first character of a text that was written is none that a reader of lists passes over. -/
theorem text_head (depth : Nat) (v : Value) (hp : IsFirm v) :
    ∃ c t, text depth v = c :: t ∧ isSpace c = false ∧ c ≠ ']' := by
  cases v with
  | null => exact ⟨_, _, rfl, by decide, by decide⟩
  | bool b => cases b <;> exact ⟨_, _, rfl, by decide, by decide⟩
  | int n =>
    obtain ⟨c, t, ht, hc⟩ := intText_head n
    exact ⟨c, t, ht, by simp [isSpace, hc], hc _ (by simp)⟩
  | float x =>
    cases x with
    | nan => exact ⟨_, _, rfl, by decide, by decide⟩
    | infinite negative => cases negative <;> exact ⟨_, _, rfl, by decide, by decide⟩
    | finite => exact absurd hp (by simp [IsFirm, Binary64.isFinite])
  | text s => exact ⟨_, _, rfl, by decide, by decide⟩
  | list items => cases items <;> exact ⟨_, _, rfl, by decide, by decide⟩
  | object fields => rcases fields with _ | ⟨⟨_, _⟩, _⟩ <;> exact ⟨_, _, rfl, by decide, by decide⟩

theorem skipSpace_text (depth : Nat) (v : Value) (hp : IsFirm v) (rest : List Char) :
    skipSpace (text depth v ++ rest) = text depth v ++ rest := by
  obtain ⟨c, t, ht, hc, -⟩ := text_head depth v hp
  rw [ht, skipSpace, List.cons_append, List.dropWhile_cons_of_neg (by simp [hc])]

theorem skipSpace_newLine (depth : Nat) (s : List Char) :
    skipSpace (newLine depth ++ s) = skipSpace s := by
  have hspaces : ∀ n, skipSpace (List.replicate n ' ' ++ s) = skipSpace s := by
    intro n
    induction n with
    | zero => rfl
    | succ n ih => exact ih
  exact hspaces (2 * depth)

theorem follows_newLine (depth : Nat) (s : List Char) : Follows (newLine depth ++ s) :=
  Or.inr (Or.inr ⟨_, rfl⟩)

theorem follows_itemsText (depth e : Nat) (items : List Value) (s : List Char) :
    Follows (itemsText depth items ++ (newLine e ++ s)) := by
  cases items with
  | nil => exact follows_newLine e s
  | cons v rest => exact Or.inr (Or.inl ⟨_, rfl⟩)

theorem follows_fieldsText (depth e : Nat) (fields : List (String × Value)) (s : List Char) :
    Follows (fieldsText depth fields ++ (newLine e ++ s)) := by
  rcases fields with _ | ⟨⟨key, v⟩, rest⟩
  · exact follows_newLine e s
  · exact Or.inr (Or.inl ⟨_, rfl⟩)

mutual

theorem value_text (v : Value) (depth fuel : Nat) {rest : List Char} (hp : v.All IsFirm)
    (hr : Follows rest) (hf : (text depth v).length < fuel) :
    value fuel (text depth v ++ rest) = .ok (v, rest) := by
  -- The induction is on the fuel: what is read of a part is shorter than the text of the whole.
  obtain ⟨fuel, rfl⟩ : ∃ n, fuel = n + 1 := ⟨fuel - 1, by omega⟩
  match v with
  | .null => rfl
  | .bool true => rfl
  | .bool false => rfl
  | .int n =>
    have hs := scalar_intText n hp hr
    obtain ⟨c, t, ht, hc⟩ := intText_head n
    rw [ht, List.cons_append] at hs
    rw [text, ht, List.cons_append, value]
    · exact hs
    · exact fun s he => hc '"' (by simp) (List.cons.inj he).1
    · exact fun s he => hc '[' (by simp) (List.cons.inj he).1
    · exact fun s he => hc '\x7b' (by simp) (List.cons.inj he).1
  | .float .nan => rfl
  | .float (.infinite true) => rfl
  | .float (.infinite false) => rfl
  | .float (.finite ..) => exact absurd hp (by simp [Value.All, IsFirm, Binary64.isFinite])
  | .text s =>
    have hlen := length_le_stringText s.toList
    have heq : text depth (.text s) ++ rest = '"' :: (s.toList.flatMap escaped ++ '"' :: rest) := by
      simp [text, stringText]
    rw [heq, value, stringBody?_escaped s.toList _ (by
      rw [← heq, List.length_append, text]
      omega)]
    simp only [String.ofList_toList]
  | .list [] => rfl
  | .list (v :: items) =>
    obtain ⟨c, t, ht, -, hc⟩ := text_head (depth + 1) v hp.2.1.self
    have heq : text depth (.list (v :: items)) ++ rest =
        '[' :: (newLine (depth + 1) ++ (text (depth + 1) v ++ (itemsText (depth + 1) items ++
          (newLine depth ++ ']' :: rest)))) := by
      simp [text]
    have hlen : (text depth (.list (v :: items))).length =
        (text (depth + 1) v).length + (itemsText (depth + 1) items).length +
          (4 * depth + 6) := by
      simp [text, newLine]
      omega
    have ih := items_text v items (depth + 1) depth fuel rest hp.2.1 hp.2.2 (by omega)
    rw [heq, value, skipSpace_newLine, skipSpace_text _ _ hp.2.1.self]
    split
    -- The first item does not begin with the bracket that would end the list here.
    · next h =>
      rw [ht, List.cons_append] at h
      exact absurd (List.cons.inj h).1 hc
    · rw [ih]
      rfl
  | .object [] => rfl
  | .object ((key, v) :: fields) =>
    have heq : text depth (.object ((key, v) :: fields)) ++ rest =
        '\x7b' :: (newLine (depth + 1) ++ (stringText key.toList ++ (':' :: ' ' ::
          (text (depth + 1) v ++ (fieldsText (depth + 1) fields ++
            (newLine depth ++ '\x7d' :: rest)))))) := by
      simp [text]
    have hlen : (text depth (.object ((key, v) :: fields))).length =
        (stringText key.toList).length + (text (depth + 1) v).length +
          (fieldsText (depth + 1) fields).length + (4 * depth + 8) := by
      simp [text, newLine]
      omega
    have ih := members_text key v fields (depth + 1) depth fuel rest hp.2.1 hp.2.2 (by omega)
    rw [heq, value, skipSpace_newLine, show skipSpace (stringText key.toList ++ _) =
      stringText key.toList ++ _ from rfl]
    split
    · next h => exact absurd (List.cons.inj h).1 (by decide)
    · rw [ih]
      simp only [ok_bind, Fields.ofAssignments_eq hp.1]
termination_by fuel

theorem items_text (v : Value) (items : List Value) (depth e fuel : Nat) (after : List Char)
    (hp : v.All IsFirm) (hps : Value.AllItems IsFirm items)
    (hf : (text depth v).length + (itemsText depth items).length + 1 < fuel) :
    Json.items fuel (text depth v ++ (itemsText depth items ++ (newLine e ++ ']' :: after))) =
      .ok (v :: items, after) := by
  obtain ⟨fuel, rfl⟩ : ∃ n, fuel = n + 1 := ⟨fuel - 1, by omega⟩
  have ih := value_text v depth fuel hp (follows_itemsText depth e items (']' :: after)) (by omega)
  rw [Json.items, ih]
  match items with
  | [] =>
    simp only [itemsText, List.nil_append, ok_bind, skipSpace_newLine]
    rfl
  | u :: us =>
    have hlen : (itemsText depth (u :: us)).length =
        (text depth u).length + (itemsText depth us).length + (2 * depth + 2) := by
      simp [itemsText, newLine]
      omega
    have ih' := items_text u us depth e fuel after hps.1 hps.2 (by omega)
    have heq : itemsText depth (u :: us) ++ (newLine e ++ ']' :: after) =
        ',' :: (newLine depth ++ (text depth u ++ (itemsText depth us ++
          (newLine e ++ ']' :: after)))) := by
      simp [itemsText]
    rw [heq]
    simp only [ok_bind]
    rw [show skipSpace (',' :: (newLine depth ++ _)) = ',' :: (newLine depth ++ _) from rfl]
    simp only [skipSpace_newLine, skipSpace_text _ _ hps.1.self, ih', ok_bind]
termination_by fuel

theorem members_text (key : String) (v : Value) (fields : List (String × Value))
    (depth e fuel : Nat) (after : List Char) (hp : v.All IsFirm)
    (hps : Value.AllFields IsFirm fields)
    (hf : (text depth v).length + (fieldsText depth fields).length + 1 < fuel) :
    members fuel (stringText key.toList ++ (':' :: ' ' :: (text depth v ++
      (fieldsText depth fields ++ (newLine e ++ '\x7d' :: after))))) =
      .ok ((key, v) :: fields, after) := by
  obtain ⟨fuel, rfl⟩ : ∃ n, fuel = n + 1 := ⟨fuel - 1, by omega⟩
  have hlen := length_le_stringText key.toList
  have ih := value_text v depth fuel hp
    (follows_fieldsText depth e fields ('\x7d' :: after)) (by omega)
  have hbody : ∀ rest, stringText key.toList ++ rest =
      '"' :: (key.toList.flatMap escaped ++ '"' :: rest) := by
    simp [stringText]
  rw [hbody, members, stringBody?_escaped key.toList _ (by
    rw [← hbody, List.length_append]
    omega)]
  have hcolon : ∀ s, skipSpace (':' :: s) = ':' :: s := fun _ => rfl
  have hspace : ∀ s, skipSpace (' ' :: s) = skipSpace s := fun _ => rfl
  simp only [hcolon, hspace, skipSpace_text _ _ hp.self, ih, ok_bind, String.ofList_toList]
  -- What is left behind the first member decides what is read next: a brace ends the object, a
  -- comma goes on with the next member.
  match fields with
  | [] =>
    simp only [fieldsText, List.nil_append, skipSpace_newLine]
    rfl
  | (k, u) :: us =>
    have hlen : (fieldsText depth ((k, u) :: us)).length = (stringText k.toList).length +
        (text depth u).length + (fieldsText depth us).length + (2 * depth + 4) := by
      simp [fieldsText, newLine]
      omega
    have ih' := members_text k u us depth e fuel after hps.1 hps.2 (by omega)
    have heq : fieldsText depth ((k, u) :: us) ++ (newLine e ++ '\x7d' :: after) =
        ',' :: (newLine depth ++ (stringText k.toList ++ (':' :: ' ' :: (text depth u ++
          (fieldsText depth us ++ (newLine e ++ '\x7d' :: after)))))) := by
      simp [fieldsText]
    rw [heq]
    rw [show skipSpace (',' :: (newLine depth ++ _)) = ',' :: (newLine depth ++ _) from rfl]
    simp only [skipSpace_newLine]
    rw [show skipSpace (stringText k.toList ++ _) = stringText k.toList ++ _ from rfl]
    simp only [ih', ok_bind]
termination_by fuel

end

/-- A value that is firm throughout is read as it was written. -/
theorem read_write_all {v : Value} (hp : v.All IsFirm) : read (write v) = .ok v := by
  have hv := value_text v 0 (2 * (write v).length + 2) hp (Or.inl rfl) (by rw [write]; omega)
  have hs := skipSpace_text 0 v hp.self []
  rw [List.append_nil] at hv hs
  simp only [write] at hv
  simp only [read, write, hs, hv]
  rfl

mutual

theorem IsPlain.all_isFirm {v : Value} (hp : IsPlain v) (hw : isWritable v = true) :
    v.All IsFirm := by
  match v with
  | .null => trivial
  | .bool b => trivial
  | .int n =>
    have hn : (Text.natText n.natAbs).length ≤ Text.maxIntegerDigits := of_decide_eq_true hw
    exact hn
  | .float x => exact hp.elim
  | .text s => trivial
  | .list items => exact ⟨trivial, ArePlain.all_isFirm hp hw⟩
  | .object fields => exact ⟨hp.1, FieldsArePlain.all_isFirm hp.2 hw⟩

theorem ArePlain.all_isFirm {items : List Value} (hp : ArePlain items)
    (hw : areWritable items = true) : Value.AllItems IsFirm items := by
  match items with
  | [] => trivial
  | v :: rest =>
    have hw := Bool.and_eq_true_iff.mp hw
    exact ⟨IsPlain.all_isFirm hp.1 hw.1, ArePlain.all_isFirm hp.2 hw.2⟩

theorem FieldsArePlain.all_isFirm {fields : Fields Value} (hp : FieldsArePlain fields)
    (hw : fieldsAreWritable fields = true) : Value.AllFields IsFirm fields := by
  match fields with
  | [] => trivial
  | (_, v) :: rest =>
    have hw := Bool.and_eq_true_iff.mp hw
    exact ⟨IsPlain.all_isFirm hp.1 hw.1, FieldsArePlain.all_isFirm hp.2 hw.2⟩

end

theorem read_write {v : Value} (hp : IsPlain v) (hw : isWritable v = true) :
    read (write v) = .ok v :=
  read_write_all (hp.all_isFirm hw)

mutual

theorem isWritable_of_all {v : Value} (h : v.All IsFirm) : isWritable v = true := by
  match v with
  | .null => rfl
  | .bool b => rfl
  | .int n =>
    have hn : (Text.natText n.natAbs).length ≤ Text.maxIntegerDigits := h
    exact decide_eq_true hn
  | .float x => rfl
  | .text s => rfl
  | .list items => exact areWritable_of_all h.2
  | .object fields => exact fieldsAreWritable_of_all h.2

theorem areWritable_of_all {items : List Value} (h : Value.AllItems IsFirm items) :
    areWritable items = true := by
  match items with
  | [] => rfl
  | v :: rest => exact Bool.and_eq_true_iff.mpr ⟨isWritable_of_all h.1, areWritable_of_all h.2⟩

theorem fieldsAreWritable_of_all {fields : Fields Value} (h : Value.AllFields IsFirm fields) :
    fieldsAreWritable fields = true := by
  match fields with
  | [] => rfl
  | (_, v) :: rest =>
    exact Bool.and_eq_true_iff.mpr ⟨isWritable_of_all h.1, fieldsAreWritable_of_all h.2⟩

end

end Cabinet.Json

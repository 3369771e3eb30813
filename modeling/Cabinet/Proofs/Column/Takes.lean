import Cabinet.Proofs.Column.Tags
import Cabinet.Proofs.Number.Exact

/-!
Which values the types of the catalog take, and for what: a column accepts exactly what its type takes.
-/

namespace Cabinet

variable {v w : Value} {n : Int}

/-- The number that a value is, if it is one; truth values are zero and one. -/
def Value.rational? : Value → Option ℚ
  | bool b => some (if b then 1 else 0)
  | int n => some n
  | float x => x.rational?
  | _ => none

theorem Value.integral?_eq_some_iff :
    v.integral? = some n ↔ v.isNumber = true ∧ v.rational? = some (n : ℚ) := by
  cases v with
  | int m => simp [integral?, isNumber, rational?]
  | float x => simpa [integral?, isNumber, rational?] using Binary64.toInt?_eq_some_iff
  | _ => simp [integral?, isNumber]

theorem isStorable_iff {n : Int} :
    isStorable n = true ↔ -9223372036854775808 ≤ n ∧ n ≤ 9223372036854775807 := by
  have hmin : minInteger = -9223372036854775808 := rfl
  have hmax : maxInteger = 9223372036854775807 := rfl
  simp only [isStorable, hmin, hmax, Bool.and_eq_true, decide_eq_true_eq]

/-- Texts, finite floats and integers of 64 bits. -/
inductive Value.IsStored : Value → Prop
  | text (s : String) : IsStored (.text s)
  | float {x : Binary64} (h : x.isFinite = true) : IsStored (.float x)
  | int {n : Int} (h : isStorable n = true) : IsStored (.int n)

theorem ColumnType.storage_of_isTag {type : ColumnType} (h : type.isTag = true) :
    type.storage = .text := by
  cases type <;> first | rfl | cases h

namespace Column

variable {c : Column} {e : Error}

/-- A column of the catalog whose tags have names that can be looked up, and whose rule, if it has one,
is a pattern. -/
structure Proper (c : Column) : Prop where
  type : c.type.isOther = false
  tags : c.type.isTag = true → c.tags.all (canLookUp ·.name) = true
  rule : c.type = .custom → c.rule.truthy = true →
    ∃ rule pattern, c.rule = .text rule ∧ Pattern.parse rule.toList = .ok pattern

/-- Values that the type of a column takes, and what it takes them for. -/
inductive Takes (c : Column) : Value → Value → Prop
  | text (ht : c.type = .string ∨ c.type = .richText) (s : String) : Takes c (.text s) (.text s)
  | flag (ht : c.type = .boolean) {v : Value} {n : Int} (hq : v.rational? = some (n : ℚ))
    (hn : n = 0 ∨ n = 1) : Takes c v (.int n)
  | integer (ht : c.type = .integer) {v : Value} {n : Int} (hv : v.isNumber = true)
    (hq : v.rational? = some (n : ℚ)) (hn : isStorable n = true) : Takes c v (.int n)
  | wholeFloat (ht : c.type = .float) {n : Int} (hn : isStorable n = true) : Takes c (.int n) (.int n)
  | float (ht : c.type = .float) {x : Binary64} (hx : x.isFinite = true) : Takes c (.float x) (.float x)
  | date (ht : c.type = .date) {v : Value} {n : Int} (hv : v.isNumber = true)
    (hq : v.rational? = some (n : ℚ)) (hn : 1 ≤ n ∧ n ≤ maxInteger) : Takes c v (.int n)
  | rating (ht : c.type = .rating) {v : Value} {n : Int} (hv : v.isNumber = true)
    (hq : v.rational? = some (n : ℚ)) (hn : 0 ≤ n ∧ n ≤ 5) : Takes c v (.int n)
  | advancedRating (ht : c.type = .advancedRating) {v : Value} {q : ℚ} (hv : v.isNumber = true)
    (hq : v.rational? = some q) (hbetween : 0 ≤ q ∧ q ≤ 10) : Takes c v v
  | tags (ht : c.type.isTag = true) {v : Value} {texts : List String} (hv : TagTexts v texts)
    (hregisters : c.Registers (texts.flatMap tagWords)) :
    Takes c v (.text (" ".intercalate (Text.sort (texts.flatMap tagWords).eraseDups)))
  | custom (ht : c.type = .custom) (s : String) (hrule : c.rule.truthy = true → ∃ rule pattern,
      c.rule = .text rule ∧ Pattern.parse rule.toList = .ok pattern ∧
        pattern.search s.toList = true) : Takes c (.text s) (.text s)
  | link (ht : c.type = .link) (s : String) {fields : Fields Value} {name url : String}
    (hread : Json.read s.toList = .ok (.object fields))
    (hname : fields.get? "displayName" = some (.text name)) (hne : name ≠ "")
    (hurl : fields.get? "url" = some (.text url)) : Takes c (.text s) (.text s)

theorem flag?_of_ne_bool (hv : ∀ b, v ≠ .bool b) :
    flag? v = some n ↔ v.integral? = some n ∧ (n = 0 ∨ n = 1) := by
  unfold flag?
  split
  · next b => exact absurd rfl (hv b)
  · cases v.integral? with
    | none => simp
    | some m =>
      simp only [Option.ite_none_right_eq_some, Option.some.injEq]
      exact ⟨fun h => ⟨h.2, h.2 ▸ h.1⟩, fun h => ⟨h.1 ▸ h.2, h.1⟩⟩

theorem flag?_eq_some_iff : flag? v = some n ↔ v.rational? = some (n : ℚ) ∧ (n = 0 ∨ n = 1) := by
  cases v with
  | bool b =>
    have hone : (1 : ℚ) = n ↔ 1 = n := by exact_mod_cast Iff.rfl
    have hzero : (0 : ℚ) = n ↔ 0 = n := by exact_mod_cast Iff.rfl
    cases b with
    | true =>
      simp only [flag?, Value.rational?, if_true, Option.some.injEq, hone]
      omega
    | false =>
      simp only [flag?, Value.rational?, Bool.false_eq_true, if_false, Option.some.injEq, hzero]
      omega
  | int m => rw [flag?_of_ne_bool (by simp)]; simp [Value.integral?_eq_some_iff, Value.isNumber]
  | float x => rw [flag?_of_ne_bool (by simp)]; simp [Value.integral?_eq_some_iff, Value.isNumber]
  | _ => simp [flag?, Value.integral?, Value.rational?]

theorem isBetween_iff {low high : Int} : isBetween low high v = true ↔
    v.isNumber = true ∧ ∃ q, v.rational? = some q ∧ (low : ℚ) ≤ q ∧ q ≤ high := by
  cases v with
  | int n => simp [isBetween, Value.isNumber, Value.rational?]
  | float x =>
    cases x with
    | nan => simp [isBetween, Value.rational?, Binary64.rational?, Binary64.compareInt?]
    | infinite negative =>
      cases negative <;> simp [isBetween, Value.rational?, Binary64.rational?, Binary64.compareInt?]
    | finite negative m e h =>
      have hcompare : ∀ n : Int, (Binary64.finite negative m e h).compareInt? n =
          some (compare (Binary64.exact negative m e) n) := fun n => by
        rw [Binary64.compareInt?_eq (by simp), Binary64.extended, Extended.compare_ofRat]
      simp [isBetween, Value.isNumber, Value.rational?, Binary64.rational?, hcompare, compare_lt_iff_lt,
        compare_gt_iff_gt]
  | _ => simp [isBetween, Value.isNumber]

theorem isLink_iff {document : Value} : isLink document = true ↔ ∃ fields name url,
    document = .object fields ∧ Fields.get? fields "displayName" = some (.text name) ∧ name ≠ "" ∧
      Fields.get? fields "url" = some (.text url) := by
  unfold isLink
  split
  · next fields =>
    split
    · next name url hname hurl => simp [hname, hurl]
    · next hnot =>
      refine iff_of_false (by simp) ?_
      rintro ⟨_, name, url, ⟨⟩, hname, -, hurl⟩
      exact hnot name url hname hurl
  · next hnot =>
    refine iff_of_false (by simp) ?_
    rintro ⟨fields, name, url, rfl, -⟩
    exact hnot fields rfl

section Checks

variable {α : Type} {detail demand : String} {low high : Int}

theorem reject_ne_ok (c : Column) (detail : String) (a : α) : c.reject detail ≠ .ok a := by
  simp [reject]

/-- A check that either takes a value for another or refuses it. -/
theorem check_eq_ok (p : Prop) [Decidable p] (c : Column) (detail : String) (a b : α) :
    (if p then .ok a else c.reject detail) = .ok b ↔ p ∧ b = a := by
  split
  · next hp => simp only [hp, true_and, Except.ok.injEq, eq_comm]
  · next hp => simp only [hp, false_and, reject_ne_ok]

theorem acceptInteger_eq_ok :
    c.acceptInteger v = .ok w ↔ ∃ n, v.integral? = some n ∧ isStorable n = true ∧ w = .int n := by
  unfold acceptInteger
  cases v.integral? with
  | none => simp [reject_ne_ok]
  | some n => simp [check_eq_ok]

theorem acceptFloat_eq_ok : c.acceptFloat v = .ok w ↔ w = v ∧
    ((∃ n, v = .int n ∧ isStorable n = true) ∨ ∃ x, v = .float x ∧ x.isFinite = true) := by
  cases v with
  | int n => simp [acceptFloat, check_eq_ok, and_comm]
  | float x => simp [acceptFloat, check_eq_ok, and_comm]
  | _ => simp [acceptFloat, reject_ne_ok]

theorem acceptWhole_eq_ok : c.acceptWhole low high demand v = .ok w ↔
    ∃ n, v.integral? = some n ∧ (low ≤ n ∧ n ≤ high) ∧ w = .int n := by
  unfold acceptWhole
  cases v.integral? with
  | none => simp [reject_ne_ok]
  | some n => simp [check_eq_ok]

theorem compileRule_eq_ok_iff {rule : String} {pattern : Pattern} :
    c.compileRule rule = .ok pattern ↔ Pattern.parse rule.toList = .ok pattern := by
  unfold compileRule
  cases Pattern.parse rule.toList <;> simp

/-- A rule that is not empty decides which texts are accepted. -/
theorem acceptCustom_eq_ok : c.acceptCustom v = .ok w ↔
    ∃ s, v = .text s ∧ w = v ∧ (c.rule.truthy = true → ∃ rule pattern, c.rule = .text rule ∧
      Pattern.parse rule.toList = .ok pattern ∧ pattern.search s.toList = true) := by
  cases v with
  | text s =>
    cases htruthy : c.rule.truthy with
    | false => simpa [acceptCustom, htruthy] using eq_comm
    | true =>
      cases hrule : c.rule with
      | text rule =>
        rw [hrule] at htruthy
        simp only [acceptCustom, hrule, htruthy, Bool.not_true, Bool.false_eq_true, if_false,
          bind_eq_ok_iff, compileRule_eq_ok_iff, pure_eq_ok, check_eq_ok]
        constructor
        · rintro ⟨pattern, hpattern, hsearch, rfl⟩
          exact ⟨s, rfl, rfl, fun _ => ⟨rule, pattern, rfl, hpattern, hsearch⟩⟩
        · rintro ⟨_, ⟨⟩, rfl, h⟩
          obtain ⟨_, pattern, ⟨⟩, hpattern, hsearch⟩ := h trivial
          exact ⟨pattern, hpattern, hsearch, rfl⟩
      | _ =>
        rw [hrule] at htruthy
        simp [acceptCustom, hrule, htruthy]
  | _ => simp [acceptCustom, reject_ne_ok]

theorem acceptLink_eq_ok : c.acceptLink v = .ok w ↔
    ∃ s document, v = .text s ∧ w = v ∧ Json.read s.toList = .ok document ∧ isLink document = true := by
  cases v with
  | text s =>
    cases hread : Json.read s.toList with
    | error e => simp [acceptLink, hread, reject_ne_ok]
    | ok document => simp [acceptLink, hread, check_eq_ok, and_comm]
  | _ => simp [acceptLink, reject_ne_ok]

end Checks

/-- What a column accepts is what its type takes, and it is accepted for what its type takes it. -/
theorem takes_of_accept (h : c.accept v = .ok w) : c.Takes v w := by
  cases htype : c.type with
  | string | richText =>
    simp only [accept, htype] at h
    split at h
    · next s =>
      obtain rfl := Except.ok.inj h
      exact .text (by simp [htype]) s
    · exact absurd h (reject_ne_ok _ _ _)
  | boolean =>
    simp only [accept, htype] at h
    split at h
    · next n hn =>
      obtain rfl := Except.ok.inj h
      obtain ⟨hv, hn⟩ := flag?_eq_some_iff.mp hn
      exact .flag htype hv hn
    · exact absurd h (reject_ne_ok _ _ _)
  | integer =>
    simp only [accept, htype, acceptInteger_eq_ok] at h
    obtain ⟨n, hv, hn, rfl⟩ := h
    obtain ⟨hv, hq⟩ := Value.integral?_eq_some_iff.mp hv
    exact .integer htype hv hq hn
  | float =>
    simp only [accept, htype, acceptFloat_eq_ok] at h
    obtain ⟨rfl, ⟨n, rfl, hn⟩ | ⟨x, rfl, hx⟩⟩ := h
    · exact .wholeFloat htype hn
    · exact .float htype hx
  | date =>
    simp only [accept, htype, acceptWhole_eq_ok] at h
    obtain ⟨n, hv, hn, rfl⟩ := h
    obtain ⟨hv, hq⟩ := Value.integral?_eq_some_iff.mp hv
    exact .date htype hv hq hn
  | rating =>
    simp only [accept, htype, acceptWhole_eq_ok] at h
    obtain ⟨n, hv, hn, rfl⟩ := h
    obtain ⟨hv, hq⟩ := Value.integral?_eq_some_iff.mp hv
    exact .rating htype hv hq hn
  | advancedRating =>
    simp only [accept, htype] at h
    obtain ⟨hbetween, rfl⟩ := (check_eq_ok _ _ _ _ _).mp h
    obtain ⟨hv, q, hq, hlow, hhigh⟩ := isBetween_iff.mp hbetween
    exact .advancedRating htype hv hq ⟨by simpa using hlow, by simpa using hhigh⟩
  | singleTag | multiTag =>
    have htag : c.type.isTag = true := by rw [htype, ColumnType.isTag]
    simp only [accept, htype] at h
    obtain ⟨s, hs, h⟩ := bind_eq_ok_iff.mp h
    obtain rfl := Except.ok.inj h
    obtain ⟨texts, htexts, hregisters, rfl⟩ := (acceptTags_eq_ok (canLookUp_of_acceptTags hs)).mp hs
    exact .tags htag htexts hregisters
  | custom =>
    simp only [accept, htype, acceptCustom_eq_ok] at h
    obtain ⟨s, rfl, rfl, hrule⟩ := h
    exact .custom htype s hrule
  | link =>
    simp only [accept, htype, acceptLink_eq_ok] at h
    obtain ⟨s, document, rfl, rfl, hread, hlink⟩ := h
    obtain ⟨fields, name, url, rfl, hname, hne, hurl⟩ := isLink_iff.mp hlink
    exact .link htype s hread hname hne hurl
  | other name => simp [accept, htype] at h

/-- What a type takes is accepted, if the names of its tags can be looked up. -/
theorem Takes.accept_eq (h : c.Takes v w)
    (hnames : c.type.isTag = true → c.tags.all (canLookUp ·.name) = true) : c.accept v = .ok w := by
  cases h with
  | text ht s => rcases ht with ht | ht <;> simp only [accept, ht]
  | flag ht hv hn => simp only [accept, ht, flag?_eq_some_iff.mpr ⟨hv, hn⟩]
  | integer ht hv hq hn =>
    simp only [accept, ht]
    exact acceptInteger_eq_ok.mpr ⟨_, Value.integral?_eq_some_iff.mpr ⟨hv, hq⟩, hn, rfl⟩
  | wholeFloat ht hn =>
    simp only [accept, ht]
    exact acceptFloat_eq_ok.mpr ⟨rfl, .inl ⟨_, rfl, hn⟩⟩
  | float ht hx =>
    simp only [accept, ht]
    exact acceptFloat_eq_ok.mpr ⟨rfl, .inr ⟨_, rfl, hx⟩⟩
  | date ht hv hq hn | rating ht hv hq hn =>
    simp only [accept, ht]
    exact acceptWhole_eq_ok.mpr ⟨_, Value.integral?_eq_some_iff.mpr ⟨hv, hq⟩, hn, rfl⟩
  | advancedRating ht hv hq hbetween =>
    have hbetween : isBetween 0 10 v = true :=
      isBetween_iff.mpr ⟨hv, _, hq, by simpa using hbetween⟩
    simp only [accept, ht, hbetween, if_true]
  | tags ht hv hregisters =>
    have htags := (acceptTags_eq_ok (hnames ht)).mpr ⟨_, hv, hregisters, rfl⟩
    obtain hsingle | hmulti : c.type = .singleTag ∨ c.type = .multiTag := by
      cases htype : c.type <;> simp [htype, ColumnType.isTag] at ht ⊢
    · simp only [accept, hsingle, htags, ok_bind, pure_eq_ok]
    · simp only [accept, hmulti, htags, ok_bind, pure_eq_ok]
  | custom ht s hrule =>
    simp only [accept, ht]
    exact acceptCustom_eq_ok.mpr ⟨s, rfl, rfl, hrule⟩
  | link ht s hread hname hne hurl =>
    simp only [accept, ht]
    exact acceptLink_eq_ok.mpr
      ⟨s, _, rfl, rfl, hread, isLink_iff.mpr ⟨_, _, _, rfl, hname, hne, hurl⟩⟩

theorem Takes.accept_eq_of_type (h : c.Takes v w) {type : ColumnType} (ht : c.type = type)
    (htag : type.isTag = false) : c.accept v = .ok w :=
  h.accept_eq fun htrue => absurd (ht ▸ htrue) (by simp [htag])

/-- A column accepts what its type takes, for what its type takes it. -/
theorem accept_eq_ok_iff (hc : c.Proper) : c.accept v = .ok w ↔ c.Takes v w :=
  ⟨takes_of_accept, fun h => h.accept_eq hc.tags⟩

/-- What a type takes a value for is a text, a finite float or an integer of 64 bits. -/
theorem Takes.isStored (h : c.Takes v w) : w.IsStored := by
  cases h with
  | text ht s => exact .text s
  | flag ht hv hn => exact .int (isStorable_iff.mpr (by omega))
  | integer ht hv hq hn | wholeFloat ht hn => exact .int hn
  | float ht hx => exact .float hx
  | date ht hv hq hn =>
    have hmax : maxInteger = 9223372036854775807 := rfl
    exact .int (isStorable_iff.mpr (by omega))
  | rating ht hv hq hn => exact .int (isStorable_iff.mpr (by omega))
  | advancedRating ht hv hq hbetween =>
    cases v with
    | int n =>
      obtain rfl := Option.some.inj hq
      have hlow : 0 ≤ n := by exact_mod_cast hbetween.1
      have hhigh : n ≤ 10 := by exact_mod_cast hbetween.2
      exact .int (isStorable_iff.mpr (by omega))
    | float x => exact .float (Binary64.isFinite_iff.mpr ⟨_, hq⟩)
    | _ => cases hv
  | tags => exact .text _
  | custom ht s | link ht s => exact .text s

/-- Whatever a column accepts is answered in a form that is stored. -/
theorem isStored_of_accept (h : c.accept v = .ok w) : w.IsStored :=
  (takes_of_accept h).isStored

/-- In columns that are stored as numbers, numbers are taken for numbers that equal them. -/
theorem Takes.rational?_eq (h : c.Takes v w) (ht : c.type.storage ≠ .text) :
    ∃ q, v.rational? = some q ∧ w.rational? = some q := by
  cases h with
  | flag _ hq | integer _ _ hq | date _ _ hq | rating _ _ hq => exact ⟨_, hq, rfl⟩
  | wholeFloat => exact ⟨_, rfl, rfl⟩
  | float _ hx =>
    obtain ⟨q, hq⟩ := Binary64.isFinite_iff.mp hx
    exact ⟨q, hq, hq⟩
  | advancedRating _ _ hq => exact ⟨_, hq, hq⟩
  | text htype => rcases htype with htype | htype <;> simp [htype, ColumnType.storage] at ht
  | tags htype => exact absurd (ColumnType.storage_of_isTag htype) ht
  | custom htype | link htype => simp [htype, ColumnType.storage] at ht

/-- In other columns, but for those of tags, texts are taken as they are. -/
theorem Takes.eq_of_text (h : c.Takes v w) (ht : c.type.storage = .text) (htag : c.type.isTag = false) :
    w = v := by
  cases h with
  | text | wholeFloat | float | advancedRating | custom | link => rfl
  | flag htype | integer htype | date htype | rating htype => simp [htype, ColumnType.storage] at ht
  | tags htype => simp [htype] at htag

/-- What a value is taken for is taken for itself. -/
theorem Takes.takes_self (h : c.Takes v w) (hc : c.Proper) : c.Takes w w := by
  cases h with
  | text ht s => exact .text ht s
  | flag ht hq hn => exact .flag ht rfl hn
  | integer ht hv hq hn => exact .integer ht rfl rfl hn
  | wholeFloat ht hn => exact .wholeFloat ht hn
  | float ht hx => exact .float ht hx
  | date ht hv hq hn => exact .date ht rfl rfl hn
  | rating ht hv hq hn => exact .rating ht rfl rfl hn
  | advancedRating ht hv hq hbetween => exact .advancedRating ht hv hq hbetween
  | tags ht hv hregisters =>
    have hnames := hc.tags ht
    have htags := (acceptTags_eq_ok hnames).mpr ⟨_, hv, hregisters, rfl⟩
    obtain ⟨texts, htexts, hagain, heq⟩ := (acceptTags_eq_ok hnames).mp (acceptTags_acceptTags hnames htags)
    have hself := Takes.tags ht htexts hagain
    rwa [← heq] at hself
  | custom ht s hrule => exact .custom ht s hrule
  | link ht s hread hname hne hurl => exact .link ht s hread hname hne hurl

/-- Failures that refuse a value: for the column, or for a tag that is not registered in it. -/
inductive Refusal (c : Column) : Error → Prop
  | rejected (detail : String) : Refusal c (.rejected c.type c.name detail)
  | unregistered {tag : String} (h : tag ∉ c.tagNames) : Refusal c (.unregisteredTag tag c.name)

theorem Refusal.kind_eq (h : c.Refusal e) : e.kind = .validation := by
  cases h <;> rfl

section Refusals

variable {α : Type} {detail demand : String} {low high : Int} (ht : c.type.isOther = false)

include ht

theorem Refusal.of_reject (h : (c.reject detail : Except Error α) = .error e) : c.Refusal e :=
  reject_eq_error ht h ▸ .rejected detail

theorem Refusal.of_check {p : Prop} [Decidable p] {a : α}
    (h : (if p then .ok a else c.reject detail) = .error e) : c.Refusal e := by
  split at h
  · cases h
  · exact .of_reject ht h

theorem Refusal.of_acceptInteger (h : c.acceptInteger v = .error e) : c.Refusal e := by
  unfold acceptInteger at h
  split at h
  · exact .of_reject ht h
  · exact .of_check ht h

theorem Refusal.of_acceptFloat (h : c.acceptFloat v = .error e) : c.Refusal e := by
  unfold acceptFloat at h
  split at h
  · exact .of_check ht h
  · exact .of_check ht h
  · exact .of_reject ht h

theorem Refusal.of_acceptWhole (h : c.acceptWhole low high demand v = .error e) : c.Refusal e := by
  unfold acceptWhole at h
  split at h
  · exact .of_check ht h
  · exact .of_reject ht h

theorem Refusal.of_acceptTags (hnames : c.tags.all (canLookUp ·.name) = true)
    (h : c.acceptTags v = .error e) : c.Refusal e := by
  rcases acceptTags_eq_error hnames ht h with ⟨detail, rfl⟩ | ⟨tag, hnew, rfl⟩
  · exact .rejected detail
  · exact .unregistered hnew

/-- Where the rule is a pattern, only values are at fault. -/
theorem Refusal.of_acceptCustom (hrule : c.rule.truthy = true →
    ∃ rule pattern, c.rule = .text rule ∧ Pattern.parse rule.toList = .ok pattern)
    (h : c.acceptCustom v = .error e) : c.Refusal e := by
  unfold acceptCustom at h
  split at h
  · split at h
    · cases h
    · next htruthy =>
      obtain ⟨rule, pattern, heq, hpattern⟩ := hrule (by simpa using htruthy)
      simp only [heq, compileRule_eq_ok_iff.mpr hpattern, ok_bind] at h
      exact .of_check ht h
  · exact .of_reject ht h

theorem Refusal.of_acceptLink (h : c.acceptLink v = .error e) : c.Refusal e := by
  unfold acceptLink at h
  split at h
  · split at h
    · exact .of_check ht h
    · exact .of_reject ht h
  · exact .of_reject ht h

end Refusals

/-- What a column does not accept, it refuses. -/
theorem refusal_of_accept (hc : c.Proper) (h : c.accept v = .error e) : c.Refusal e := by
  cases htype : c.type with
  | string | richText | boolean =>
    simp only [accept, htype] at h
    split at h
    · cases h
    · exact .of_reject hc.type h
  | integer =>
    simp only [accept, htype] at h
    exact .of_acceptInteger hc.type h
  | float =>
    simp only [accept, htype] at h
    exact .of_acceptFloat hc.type h
  | date | rating =>
    simp only [accept, htype] at h
    exact .of_acceptWhole hc.type h
  | advancedRating =>
    simp only [accept, htype] at h
    exact .of_check hc.type h
  | singleTag | multiTag =>
    have htag : c.type.isTag = true := by rw [htype, ColumnType.isTag]
    simp only [accept, htype] at h
    rcases bind_eq_error h with h | ⟨s, -, h⟩
    · exact .of_acceptTags hc.type (hc.tags htag) h
    · cases h
  | custom =>
    simp only [accept, htype] at h
    exact .of_acceptCustom hc.type (hc.rule htype) h
  | link =>
    simp only [accept, htype] at h
    exact .of_acceptLink hc.type h
  | other name => exact absurd hc.type (by simp [htype, ColumnType.isOther])

/-- A column of the catalog accepts a value exactly if its type takes it, and refuses all other ones. What
it answers is a text, a finite float or an integer of 64 bits; it equals the value, as a number in columns
that are stored as numbers and as a text elsewhere, unless it is of tags; and it is accepted as it is. -/
theorem accept_exactly (hc : c.Proper) (v : Value) :
    (∀ w, c.accept v = .ok w ↔ c.Takes v w) ∧
    (∀ w, c.accept v = .ok w → w.IsStored ∧ c.accept w = .ok w ∧
      (c.type.storage ≠ .text → ∃ q, v.rational? = some q ∧ w.rational? = some q) ∧
      (c.type.storage = .text → c.type.isTag = false → w = v)) ∧
    ((¬∃ w, c.Takes v w) → ∃ e, c.accept v = .error e ∧ e.kind = .validation ∧ c.Refusal e) := by
  refine ⟨fun w => accept_eq_ok_iff hc, fun w h => ?_, fun hnot => ?_⟩
  · have htakes := (accept_eq_ok_iff hc).mp h
    exact ⟨htakes.isStored, (accept_eq_ok_iff hc).mpr (htakes.takes_self hc), htakes.rational?_eq,
      htakes.eq_of_text⟩
  · cases h : c.accept v with
    | ok w => exact absurd ⟨w, (accept_eq_ok_iff hc).mp h⟩ hnot
    | error e =>
      have hrefusal := refusal_of_accept hc h
      exact ⟨e, rfl, hrefusal.kind_eq, hrefusal⟩

/-- A column of codes: two capital letters. -/
def coded : Column where
  name := "code"
  type := .custom
  index := 6
  rule := .text "^[A-Z][A-Z]$"

/-- A code is accepted as it is, and accepted again; a number is refused. -/
theorem coded_accept : coded.Proper ∧ coded.accept (.text "AB") = .ok (.text "AB") ∧
    (Value.text "AB").IsStored ∧ ∃ e, coded.accept (.int 12) = .error e ∧ e.kind = .validation := by
  have hrun : (Pattern.parse "^[A-Z][A-Z]$".toList).toOption.map (·.search "AB".toList) = some true := by
    decide +kernel
  obtain ⟨pattern, hparse, hsearch⟩ := Option.map_eq_some_iff.mp hrun
  have hpattern := eq_ok_of_toOption hparse
  have hproper : coded.Proper :=
    ⟨rfl, nofun, fun _ _ => ⟨_, pattern, rfl, hpattern⟩⟩
  have htakes : coded.Takes (.text "AB") (.text "AB") :=
    .custom rfl "AB" fun _ => ⟨_, pattern, rfl, hpattern, hsearch⟩
  have haccept := ((accept_exactly hproper (.text "AB")).1 _).mpr htakes
  have hnot : ¬∃ w, coded.Takes (.int 12) w := by
    rintro ⟨w, hw⟩
    exact reject_ne_ok _ _ w (((accept_exactly hproper (.int 12)).1 w).mpr hw)
  obtain ⟨e, he, hkind, -⟩ := (accept_exactly hproper (.int 12)).2.2 hnot
  exact ⟨hproper, haccept, ((accept_exactly hproper (.text "AB")).2.1 _ haccept).1, e, he, hkind⟩

end Column

end Cabinet

import Cabinet.Proofs.Except
import Cabinet.Proofs.Fields
import Cabinet.Proofs.Json.Digits
import Cabinet.Number.Reading
import Mathlib.Algebra.Ring.Nat
import Mathlib.Data.List.Induction

/-!
The values inside a value, and what is known of them when a JSON text was read: integers are short
enough to be written, and the keys of every object are all different.
-/

namespace Cabinet

namespace Value

mutual

/-- Whether something is true of a value and of every value inside it. -/
def All (p : Value → Prop) : Value → Prop
  | .list items => p (.list items) ∧ AllItems p items
  | .object fields => p (.object fields) ∧ AllFields p fields
  | v => p v

def AllItems (p : Value → Prop) : List Value → Prop
  | [] => True
  | v :: rest => All p v ∧ AllItems p rest

def AllFields (p : Value → Prop) : List (String × Value) → Prop
  | [] => True
  | (_, v) :: rest => All p v ∧ AllFields p rest

end

variable {p q : Value → Prop}

theorem allItems_iff {items : List Value} : AllItems p items ↔ ∀ v ∈ items, v.All p := by
  induction items with
  | nil => simp [AllItems]
  | cons v rest ih => simp [AllItems, ih]

theorem allFields_iff {fields : Fields Value} : AllFields p fields ↔ ∀ e ∈ fields, e.2.All p := by
  induction fields with
  | nil => simp [AllFields]
  | cons e rest ih => simp [AllFields, ih]

theorem all_list {items : List Value} :
    (Value.list items).All p ↔ p (.list items) ∧ ∀ v ∈ items, v.All p := by
  rw [All, allItems_iff]

theorem all_object {fields : Fields Value} :
    (Value.object fields).All p ↔ p (.object fields) ∧ ∀ e ∈ fields, e.2.All p := by
  rw [All, allFields_iff]

theorem All.self {v : Value} (h : v.All p) : p v := by
  cases v with
  | list items => exact (all_list.mp h).1
  | object fields => exact (all_object.mp h).1
  | _ => exact h

mutual

theorem All.and_imp {r : Value → Prop} {v : Value} (hp : v.All p) (hq : v.All q)
    (h : ∀ v, p v → q v → r v) : v.All r := by
  match v with
  | .list items => exact ⟨h _ hp.1 hq.1, AllItems.and_imp hp.2 hq.2 h⟩
  | .object fields => exact ⟨h _ hp.1 hq.1, AllFields.and_imp hp.2 hq.2 h⟩
  | .null => exact h _ hp hq
  | .bool b => exact h _ hp hq
  | .int n => exact h _ hp hq
  | .float x => exact h _ hp hq
  | .text s => exact h _ hp hq

theorem AllItems.and_imp {r : Value → Prop} {items : List Value} (hp : AllItems p items)
    (hq : AllItems q items) (h : ∀ v, p v → q v → r v) : AllItems r items := by
  match items with
  | [] => trivial
  | v :: rest => exact ⟨All.and_imp hp.1 hq.1 h, AllItems.and_imp hp.2 hq.2 h⟩

theorem AllFields.and_imp {r : Value → Prop} {fields : Fields Value} (hp : AllFields p fields)
    (hq : AllFields q fields) (h : ∀ v, p v → q v → r v) : AllFields r fields := by
  match fields with
  | [] => trivial
  | (_, v) :: rest => exact ⟨All.and_imp hp.1 hq.1 h, AllFields.and_imp hp.2 hq.2 h⟩

end

end Value

namespace Text

theorem digitValue?_lt (c : Char) : (digitValue? c).getD 0 < 10 := by
  have hlt : ∀ d, digitValue? c = some d → d < 10 := by
    intro d hd
    unfold digitValue? at hd
    split at hd
    · split at hd
      · next hc =>
        obtain rfl := Option.some.inj hd
        have h9 : c.toNat ≤ 57 := hc.2
        omega
      · cases hd
    · obtain ⟨start, -, hstart⟩ := List.exists_of_findSome?_eq_some hd
      split at hstart
      · obtain rfl := Option.some.inj hstart
        omega
      · cases hstart
  cases hd : digitValue? c with
  | none => decide
  | some d => exact hlt d hd

theorem numeral_lt (s : List Char) : numeral s < 10 ^ s.length := by
  induction s using List.reverseRecOn with
  | nil => decide
  | append_singleton s c ih =>
    have hc := digitValue?_lt c
    rw [numeral_append, List.length_append, List.length_singleton, Nat.pow_succ]
    omega

/-- An integer that is not too long to be written. -/
def IsShort (n : Int) : Prop :=
  (natText n.natAbs).length ≤ maxIntegerDigits

theorem isShort_iff {n : Int} : IsShort n ↔ n.natAbs < 10 ^ maxIntegerDigits :=
  Nat.length_toDigits_le_iff (by decide) (by decide)

/-- Digits within the limit on their count are those of a number that can be written. -/
theorem isShort_numeral {digits : List Char} (h : digits.length ≤ maxIntegerDigits)
    (negative : Bool) : IsShort (if negative then -(numeral digits : Int) else numeral digits) := by
  have hlt : numeral digits < 10 ^ maxIntegerDigits :=
    Nat.lt_of_lt_of_le (numeral_lt digits) (Nat.pow_le_pow_right (by decide) h)
  rw [isShort_iff]
  split <;> simpa using hlt

theorem isShort_integer? {s : List Char} {n : Int} (h : integer? s = some n) : IsShort n := by
  unfold integer? at h
  obtain ⟨digits, -, h⟩ := Option.bind_eq_some_iff.mp h
  split at h
  · cases h
  · next hlength =>
    obtain rfl := Option.some.inj h
    exact isShort_numeral (Nat.not_lt.mp hlength) _

end Text

namespace Json

/-- What a value is like that a reader has made, as far as it shows outside of the values in it: its
integers are short, and its objects have no more than so many keys, each once. -/
def IsRead (most : Nat) : Value → Prop
  | .int n => Text.IsShort n
  | .object fields => (Fields.keys fields).Nodup ∧ fields.length ≤ most
  | _ => True

/-- A value that is read as it was written, as far as it shows outside of the values in it: an integer
that is short, a floating-point number that is not finite, an object that has each key once. -/
def IsFirm : Value → Prop
  | .int n => Text.IsShort n
  | .float x => x.isFinite = false
  | .object fields => (Fields.keys fields).Nodup
  | _ => True

variable {most : Nat} {s rest : List Char} {v : Value}

theorem all_isRead_number {negative : Bool} (h : number negative s = .ok (v, rest)) :
    v.All (IsRead most) := by
  unfold number at h
  dsimp only at h
  split at h
  · cases h
  split at h
  · split at h
    · cases h
    · next hlength =>
      obtain ⟨rfl, -⟩ := Prod.mk.inj (Except.ok.inj h)
      exact Text.isShort_numeral (Nat.not_lt.mp hlength) negative
  · obtain ⟨rfl, -⟩ := Prod.mk.inj (Except.ok.inj h)
    trivial

theorem all_isRead_scalar (h : scalar s = .ok (v, rest)) : v.All (IsRead most) := by
  have hwords : ∀ e ∈ keywords, e.2.All (IsRead most) := by
    simp [keywords, Value.All, IsRead]
  unfold scalar at h
  split at h
  · next word v' hfind =>
    obtain ⟨rfl, -⟩ := Prod.mk.inj (Except.ok.inj h)
    exact hwords _ (List.mem_of_find?_eq_some hfind)
  · split at h <;> exact all_isRead_number h

/-- What the readers of values, lists and objects make with some fuel. An object takes fuel for each of
its members. -/
structure ReadersMake (most fuel : Nat) : Prop where
  value : ∀ {s v rest}, value fuel s = .ok (v, rest) → v.All (IsRead most)
  items : ∀ {s vs rest}, items fuel s = .ok (vs, rest) → ∀ v ∈ vs, v.All (IsRead most)
  members : ∀ {s fields rest}, members fuel s = .ok (fields, rest) →
    fields.length ≤ fuel ∧ ∀ e ∈ fields, e.2.All (IsRead most)

variable {fuel : Nat}

theorem all_isRead_object {fields : List (String × Value)} (hlength : fields.length ≤ most)
    (hfields : ∀ e ∈ fields, e.2.All (IsRead most)) :
    (Value.object (Fields.ofAssignments fields)).All (IsRead most) :=
  Value.all_object.mpr
    ⟨⟨Fields.nodup_keys_ofAssignments fields, Nat.le_trans (Fields.length_ofAssignments_le fields) hlength⟩,
      fun e he => hfields e (Fields.mem_of_mem_ofAssignments he)⟩

theorem ReadersMake.value_succ (ih : ReadersMake most fuel) (hfuel : fuel ≤ most)
    (h : Json.value (fuel + 1) s = .ok (v, rest)) : v.All (IsRead most) := by
  unfold Json.value at h
  split at h
  · split at h
    · obtain ⟨rfl, -⟩ := Prod.mk.inj (Except.ok.inj h)
      trivial
    · cases h
  · split at h
    · obtain ⟨rfl, -⟩ := Prod.mk.inj (Except.ok.inj h)
      exact ⟨trivial, trivial⟩
    · obtain ⟨⟨vs, after⟩, hitems, h⟩ := bind_eq_ok_iff.mp h
      obtain ⟨rfl, -⟩ := Prod.mk.inj (Except.ok.inj h)
      exact Value.all_list.mpr ⟨trivial, ih.items hitems⟩
  · split at h
    · obtain ⟨rfl, -⟩ := Prod.mk.inj (Except.ok.inj h)
      have hnone : ([] : List (String × Value)).length ≤ most := Nat.zero_le most
      exact all_isRead_object hnone (List.forall_mem_nil _)
    · obtain ⟨⟨fields, after⟩, hmembers, h⟩ := bind_eq_ok_iff.mp h
      obtain ⟨rfl, -⟩ := Prod.mk.inj (Except.ok.inj h)
      exact all_isRead_object (Nat.le_trans (ih.members hmembers).1 hfuel) (ih.members hmembers).2
  · exact all_isRead_scalar h

theorem ReadersMake.items_succ (ih : ReadersMake most fuel) {vs : List Value}
    (h : Json.items (fuel + 1) s = .ok (vs, rest)) : ∀ v ∈ vs, v.All (IsRead most) := by
  unfold Json.items at h
  obtain ⟨⟨v, after⟩, hv, h⟩ := bind_eq_ok_iff.mp h
  dsimp only at h
  split at h
  · obtain ⟨rfl, -⟩ := Prod.mk.inj (Except.ok.inj h)
    exact List.forall_mem_singleton.mpr (ih.value hv)
  · obtain ⟨⟨others, after⟩, hothers, h⟩ := bind_eq_ok_iff.mp h
    obtain ⟨rfl, -⟩ := Prod.mk.inj (Except.ok.inj h)
    exact List.forall_mem_cons.mpr ⟨ih.value hv, ih.items hothers⟩
  · cases h

theorem ReadersMake.members_succ (ih : ReadersMake most fuel) {fields : List (String × Value)}
    (h : Json.members (fuel + 1) s = .ok (fields, rest)) :
    fields.length ≤ fuel + 1 ∧ ∀ e ∈ fields, e.2.All (IsRead most) := by
  unfold Json.members at h
  split at h
  · split at h
    · cases h
    · split at h
      · obtain ⟨⟨v, after⟩, hv, h⟩ := bind_eq_ok_iff.mp h
        dsimp only at h
        split at h
        · obtain ⟨rfl, -⟩ := Prod.mk.inj (Except.ok.inj h)
          exact ⟨by simp, List.forall_mem_singleton.mpr (ih.value hv)⟩
        · obtain ⟨⟨others, after⟩, hothers, h⟩ := bind_eq_ok_iff.mp h
          obtain ⟨rfl, -⟩ := Prod.mk.inj (Except.ok.inj h)
          obtain ⟨hlength, hall⟩ := ih.members hothers
          exact ⟨Nat.succ_le_succ hlength, List.forall_mem_cons.mpr ⟨ih.value hv, hall⟩⟩
        · cases h
      · cases h
  · cases h

theorem readersMake (h : fuel ≤ most) : ReadersMake most fuel := by
  induction fuel with
  | zero => exact ⟨fun h => (by cases h), fun h => (by cases h), fun h => (by cases h)⟩
  | succ fuel ih =>
    have hfuel : fuel ≤ most := Nat.le_of_succ_le h
    exact ⟨(ih hfuel).value_succ hfuel, (ih hfuel).items_succ, (ih hfuel).members_succ⟩

/-- What is read has short integers, and objects whose keys differ and are no more than there is room
for in the text. -/
theorem all_isRead (h : read s = .ok v) : v.All (IsRead (2 * s.length + 2)) := by
  obtain ⟨⟨v', rest⟩, hv, h⟩ := bind_eq_ok_iff.mp h
  dsimp only at h
  split at h
  · obtain rfl := Except.ok.inj h
    exact (readersMake (Nat.le_refl _)).value hv
  · cases h

end Json

end Cabinet

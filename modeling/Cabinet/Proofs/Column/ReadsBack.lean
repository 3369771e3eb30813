import Cabinet.Proofs.Column.Admits

/-!
What is read back from a column for a value that was put into it.
-/

namespace Cabinet

open Storage

/-- What is read back for a value that was put into a column: the value itself, or a float that
equals it. An integer that is kept as a float is one of these as long as 53 bits hold it. -/
inductive Storage.Cell.ReadsBack : Cell → Value → Prop
  | null : ReadsBack .null .null
  | integer (n : Int) : ReadsBack (.integer n) (.int n)
  | text (s : String) : ReadsBack (.text s) (.text s)
  | widened {n : Int} (exact : n.natAbs ≤ 2 ^ 53 → (Binary64.ofInt n).toInt? = some n) :
    ReadsBack (.real (.ofInt n)) (.int n)
  | real {x y : Binary64} (equal : x.compare? y = some .eq) : ReadsBack (.real x) (.float y)

namespace Column

variable {d : Column} {cell : Cell} {offered v : Value} {position : Nat} {n : Int}

theorem compare?_self {x : Binary64} (hx : x ≠ .nan) : x.compare? x = some .eq := by
  cases x with
  | nan => exact absurd rfl hx
  | infinite | finite => simp [Binary64.compare?]

/-- What is accepted for a column is a text or a number, as the column is declared. -/
theorem accept_cases (h : d.accept offered = .ok v) :
    (d.type.storage = .text ∧ ∃ s, v = .text s) ∨ (d.type.storage = .integer ∧ ∃ n, v = .int n) ∨
      d.type.storage = .real ∧ ((∃ n, v = .int n) ∨ ∃ x, v = .float x ∧ x ≠ .nan) := by
  cases takes_of_accept h with
  | text htype s => exact .inl ⟨by rcases htype with htype | htype <;> rw [htype] <;> rfl, s, rfl⟩
  | flag htype | integer htype | date htype | rating htype =>
    exact .inr (.inl ⟨by rw [htype]; rfl, _, rfl⟩)
  | wholeFloat htype => exact .inr (.inr ⟨by rw [htype]; rfl, .inl ⟨_, rfl⟩⟩)
  | @float htype x hx =>
    refine .inr (.inr ⟨by rw [htype]; rfl, .inr ⟨x, rfl, ?_⟩⟩)
    rintro rfl
    cases hx
  | advancedRating htype hv hq =>
    refine .inr (.inr ⟨by rw [htype]; rfl, ?_⟩)
    cases offered with
    | int n => exact .inl ⟨n, rfl⟩
    | float x =>
      refine .inr ⟨x, rfl, ?_⟩
      rintro rfl
      cases hq
    | _ => cases hv
  | tags htype => exact .inl ⟨ColumnType.storage_of_isTag htype, _, rfl⟩
  | custom htype s | link htype s => exact .inl ⟨by rw [htype]; rfl, s, rfl⟩

theorem readsBack_real {x : Binary64} (hx : x ≠ .nan) :
    ((Cell.real x).convert .real).ReadsBack (.float x) := by
  rcases convert_real x with heq | ⟨n, hn, hstorable, heq⟩
  · rw [heq]
    exact .real (compare?_self hx)
  · rw [heq]
    obtain ⟨hlow, hhigh⟩ := isStorable_iff.mp hstorable
    have hexact := Binary64.toInt?_ofInt (by omega) (Binary64.fits_toInt? hn)
    exact .real (Binary64.compare?_of_toInt? hexact hn)

theorem readsBack_widened (hn : isStorable n = true) :
    ((Cell.integer n).convert .real).ReadsBack (.int n) := by
  obtain ⟨hlow, hhigh⟩ := isStorable_iff.mp hn
  exact .widened fun hle => Binary64.toInt?_ofInt (by omega) (Binary64.fits_of_le hle)

/-- What was accepted for a column is read back from it. -/
theorem readsBack_convert (h : Rows.stored d offered = .ok v) (hcell : Cell.ofValue position v = .ok cell) :
    (cell.convert (.ofStorage d.type.storage)).ReadsBack v := by
  by_cases hnull : offered = .null
  · subst hnull
    obtain rfl := Except.ok.inj h
    obtain rfl := Except.ok.inj hcell
    cases d.type.storage <;> exact .null
  have haccept : d.accept offered = .ok v := by
    cases offered <;> first | exact h | exact absurd rfl hnull
  rcases accept_cases haccept with ⟨hs, s, rfl⟩ | ⟨hs, n, rfl⟩ | ⟨hs, ⟨n, rfl⟩ | ⟨x, rfl, hx⟩⟩
  · obtain rfl := Except.ok.inj hcell
    rw [hs]
    exact .text s
  · obtain ⟨-, rfl⟩ := ofValue_int hcell
    rw [hs]
    exact .integer n
  · obtain ⟨hn, rfl⟩ := ofValue_int hcell
    rw [hs]
    exact readsBack_widened hn
  · have hreal : cell = .real x := by
      cases x with
      | nan => exact absurd rfl hx
      | infinite | finite => exact (Except.ok.inj hcell).symm
    rw [hs, hreal]
    exact readsBack_real hx

end Column

end Cabinet

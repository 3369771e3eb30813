import Cabinet.Proofs.Query.Accepted
import Cabinet.Proofs.Query.Reading

/-!
Which texts are searches. A text is read exactly if its tokens may be read as some tree, however its
operators bind; what is wrong with any other text is told as a fault of the search.
-/

namespace Cabinet.Query

open Reading

variable {r : Reading} {t : Token} {tokens : List Token} {fault? : Option Error} {e : Error}
  {q : Query}

theorem readFrom_fault (r : Reading) (tokens : List Token) (fault : Error) :
    readFrom r tokens (some fault) ≠ .ok q := by
  induction tokens generalizing r with
  | nil => simp [readFrom]
  | cons t rest ih =>
    simp only [readFrom, ne_eq, bind_eq_ok_iff, not_exists, not_and]
    exact fun r' _ => ih r'

theorem parse_eq_ok_iff {s : List Char} : parse s = .ok q ↔
    ∃ tokens, tokenize s = .ok tokens ∧ readFrom ⟨[], none⟩ tokens none = .ok q := by
  unfold parse tokenize
  generalize tokensFrom .clause 0 s = lexed
  obtain ⟨tokens, fault?⟩ := lexed
  cases fault? with
  | none => simp
  | some fault => simp [readFrom_fault]

/-- What the lexer finds wrong with a text. -/
theorem tokensFrom_fault {expectation : Expectation} {position : Nat} {s : List Char}
    (h : (tokensFrom expectation position s).2 = some e) : e.kind = .query := by
  fun_induction tokensFrom expectation position s with
  | case1 => simp at h
  | case2 _ _ _ _ _ ih => exact ih h
  | case3 expectation =>
    obtain rfl := Option.some.inj h
    cases expectation <;> rfl
  | case4 _ _ _ _ _ _ _ _ _ _ hrest ih =>
    rw [hrest] at ih
    exact ih h

theorem refuse_kind (h : refuse t = .error e) : e.kind = .query := by
  obtain rfl := Except.error.inj h
  rfl

theorem beginClause_kind {pending : List Pending} (h : beginClause pending t = .error e) :
    e.kind = .query := by
  unfold beginClause at h
  split at h
  case h_8 => exact refuse_kind h
  all_goals cases h

theorem step_kind (h : r.step t = .error e) : e.kind = .query := by
  unfold step at h
  split at h
  · exact beginClause_kind h
  · simp only [afterClause] at h
    split at h
    · cases h
    · cases h
    · split at h
      · cases h
      · exact refuse_kind h
    · exact beginClause_kind h

theorem finish_kind (h : r.finish = .error e) : e.kind = .query := by
  unfold finish at h
  split at h
  · obtain rfl := Except.error.inj h
    rfl
  · split at h
    · cases h
    · obtain rfl := Except.error.inj h
      rfl

theorem readFrom_kind (hfault : ∀ fault, fault? = some fault → fault.kind = .query)
    (h : readFrom r tokens fault? = .error e) : e.kind = .query := by
  induction tokens generalizing r with
  | nil =>
    cases fault? with
    | none => exact finish_kind h
    | some fault =>
      obtain rfl := Except.error.inj h
      exact hfault fault rfl
  | cons t rest ih =>
    rw [readFrom] at h
    cases hstep : r.step t with
    | ok r' =>
      rw [hstep, ok_bind] at h
      exact ih h
    | error e' =>
      rw [hstep, error_bind] at h
      obtain rfl := Except.error.inj h
      exact step_kind hstep

/-- A text is read exactly if its tokens are a search. What it is read as is a tree of that search,
with the signs that the tokens say one after another. What else may come out is a fault of the
search. -/
theorem parse_derives (s : List Char) :
    ((∃ q, parse s = .ok q) ↔ ∃ tokens q, tokenize s = .ok tokens ∧ Derives tokens q) ∧
      (∀ q, parse s = .ok q → ∃ tokens, tokenize s = .ok tokens ∧ Derives tokens q ∧
        q.signs = signsFrom false none tokens) ∧
      ∀ e, parse s = .error e → e.kind = .query := by
  have hparsed : ∀ q, parse s = .ok q → ∃ tokens, tokenize s = .ok tokens ∧ Derives tokens q := by
    intro q h
    obtain ⟨tokens, htokens, hread⟩ := parse_eq_ok_iff.mp h
    exact ⟨tokens, htokens, derives_of_readFrom (r := ⟨[], none⟩) Waits.nothing hread⟩
  refine ⟨⟨fun ⟨q, h⟩ => ?_, fun ⟨tokens, q, htokens, h⟩ => ?_⟩, fun q h => ?_, fun e h => ?_⟩
  · obtain ⟨tokens, htokens, hderives⟩ := hparsed q h
    exact ⟨tokens, q, htokens, hderives⟩
  · obtain ⟨p, hreads⟩ := h.readable
    obtain ⟨read, hread, -⟩ := hreads.read
    exact ⟨read, parse_eq_ok_iff.mpr ⟨tokens, htokens, hread⟩⟩
  · obtain ⟨tokens, htokens, hderives⟩ := hparsed q h
    have hsigns := hderives.signsFrom_append false []
    exact ⟨tokens, htokens, hderives, by simpa [neighbour, signsFrom] using hsigns.symm⟩
  · exact readFrom_kind (fun fault hfault => tokensFrom_fault hfault) h

end Cabinet.Query

import Cabinet.Proofs.Query.Acceptance
import Mathlib

/-!
How the reader of search texts binds clauses, against the grammar of the search language. The two
differ where a sign that negates comes directly after a negated clause: the reader takes it into
the negation before it.
-/

namespace Cabinet.Query

open Reading

variable {extra pending : List Pending} {p q x y : Query} {r r' : Reading} {t n : Token}
  {tokens : List Token}

/-- Completing what waits changes nothing about the whole. -/
theorem whole_settle (strength : Nat) (pending : List Pending) (q : Query) :
    whole (settle strength pending q).1 (settle strength pending q).2 =
    whole pending q := by
  induction pending generalizing q with
  | nil => rfl
  | cons p rest ih =>
    rw [settle]
    split
    · exact ih _
    · rfl

/-- Whatever comes now, more than a clause has been negated. -/
def Overbinds (pending : List Pending) : Prop :=
  ∀ q, ¬(whole pending q).NegatesClauses

/-- However the text ends, more than a clause has been negated. -/
def Reading.Overbinds (r : Reading) : Prop :=
  match r.clause? with
  | none => Query.Overbinds r.pending
  | some q => ¬(whole r.pending q).NegatesClauses

theorem NegatesClauses.of_whole (hq : y.NegatesClauses → x.NegatesClauses)
    (hc : y.isClause = true → x.isClause = true) (h : (whole extra y).NegatesClauses) :
    (whole extra x).NegatesClauses := by
  induction extra generalizing x y with
  | nil => exact hq h
  | cons p rest ih =>
    refine ih ?_ ?_ h
    · cases p with
      | negation => exact fun h => ⟨hc h.1, hq h.2⟩
      | group => exact hq
      | joined c left => exact fun h => ⟨h.1, hq h.2⟩
      | field => exact hq
    · cases p with
      | negation | group | joined => exact id
      | field => exact hc

theorem NegatesClauses.inner (h : (whole extra x).NegatesClauses) : x.NegatesClauses := by
  induction extra generalizing x with
  | nil => exact h
  | cons p rest ih =>
    have hp := ih h
    cases p with
    | negation => exact hp.2
    | group => exact hp
    | joined => exact hp.2
    | field => exact hp

/-- What was wrong with a clause is wrong with what it is joined to. -/
theorem overbinds_joined (h : ¬(whole pending q).NegatesClauses) (c : Connective) :
    Overbinds (.joined c q :: pending) := by
  intro x hx
  exact h (NegatesClauses.of_whole (y := .joined c q x) (fun h => h.1) (by simp [isClause]) hx)

theorem Reading.Begun.overbinds (hr : Begun pending t r) (h : Query.Overbinds pending) :
    r.Overbinds := by
  cases hr with
  | negation | group | field => exact fun x => h _
  | named hp =>
    subst hp
    exact h _
  | value => exact h _

theorem Reading.Continued.overbinds (hr : Continued pending q t r)
    (h : ¬(whole pending q).NegatesClauses) : r.Overbinds := by
  cases hr with
  | joined => exact overbinds_joined h _
  | closed hp =>
    subst hp
    exact h
  | neighbour hr => exact hr.overbinds (overbinds_joined h .and)

theorem step_overbinds (h : r.Overbinds) (hr : r.step t = .ok r') : r'.Overbinds := by
  cases steps_of_step hr with
  | begun hr => exact hr.overbinds h
  | @continued pending q _ hr =>
    have hclause : ¬(whole pending q).NegatesClauses := h
    rw [← whole_settle t.kind.strength] at hclause
    exact hr.overbinds hclause

theorem finish_overbinds (h : r.Overbinds) (hq : r.finish = .ok q) : ¬q.NegatesClauses := by
  obtain ⟨pending, clause, rfl, hsettle⟩ := finish_eq_ok hq
  have hclause : ¬(whole pending clause).NegatesClauses := h
  rw [← whole_settle 0, hsettle] at hclause
  exact hclause

/-- After a sign that negates, a clause is to come. -/
theorem exists_of_step_negates (hn : n.kind.negates = true) (r : Reading) :
    ∃ pending, r.step n = .ok ⟨.negation :: pending, none⟩ := by
  obtain ⟨pending, clause?⟩ := r
  cases clause? with
  | none => exact ⟨_, step_negates hn⟩
  | some q =>
    exact ⟨_, (step_neighbour (TokenKind.begins_of_negates hn).1).trans (step_negates hn)⟩

/-- The reader takes a sign after a negated clause into the negation. -/
theorem FollowsNegated.overbinds (h : FollowsNegated tokens)
    (hr : tokens.foldlM step r = .ok r') : r'.Overbinds := by
  obtain ⟨before, m, after, rfl, hm, start, n, operand, q, rfl, hn, hread⟩ := h
  simp only [List.append_assoc, List.cons_append, List.foldlM_append, List.foldlM_cons,
    bind_eq_ok_iff] at hr
  obtain ⟨r₀, -, r₁, hnegation, r₂, hoperand, r₃, hsign, hrest⟩ := hr
  obtain ⟨pending, hpending⟩ := exists_of_step_negates hn r₀
  obtain rfl := Except.ok.inj (hpending.symm.trans hnegation)
  obtain ⟨extra, c, hrun, ⟨hextra, -⟩, -⟩ :=
    hread.runs (.negation :: pending) (by simp [Free]) (stops_three _)
  obtain rfl := Except.ok.inj (hrun.symm.trans hoperand)
  obtain ⟨hbegins, hstrength⟩ := TokenKind.begins_of_negates hm
  rw [step_neighbour hbegins, hstrength, settle_of_stops (stops_three _), step_negates hm] at hsign
  obtain rfl := Except.ok.inj hsign
  refine foldlM_invariant (P := Reading.Overbinds) ?_ (fun _ _ _ _ h => step_overbinds h) hrest
  -- The nearest of the negations is now of two clauses that are joined.
  intro x hx
  have hinner : ∀ rest, (whole (.negation :: rest) (.joined .and c (.negation x))).NegatesClauses →
      False := by
    intro rest h
    have hbound : (Query.negation (.joined .and c (.negation x))).NegatesClauses := NegatesClauses.inner h
    exact absurd hbound.1 (by simp [isClause])
  cases extra with
  | nil => exact hinner _ hx
  | cons p rest =>
    obtain rfl := hextra p List.mem_cons_self
    exact hinner _ hx

/-- A tree that is read is the documented one, but for how conjunctions are grouped, unless a sign
follows a negated clause; then it is not. -/
theorem regroups_iff (hq : readFrom ⟨[], none⟩ tokens none = .ok q)
    (h : Reads .disjunction tokens p) : Regroups q p ↔ ¬FollowsNegated tokens := by
  obtain ⟨read, hread, hregroups⟩ := h.read
  obtain rfl := Except.ok.inj (hread.symm.trans hq)
  constructor
  · intro hsame hfollows
    rw [readFrom_eq] at hq
    obtain ⟨r, hr, hfinish⟩ := bind_eq_ok_iff.mp hq
    have hnot := finish_overbinds (hfollows.overbinds hr) hfinish
    exact hnot (hsame.negatesClauses_iff.2.mpr h.negatesClauses.1)
  · exact hregroups

/-- Every text that is read is a search of the documented grammar. Its tree is what the grammar says,
but for how conjunctions are grouped, exactly if no sign that negates comes directly after a negated
clause. -/
theorem parse_precedence {s : List Char} (h : parse s = .ok q) : ∃ tokens,
    tokenize s = .ok tokens ∧ (∃ p, Reads .disjunction tokens p) ∧
      ∀ p, Reads .disjunction tokens p → (Regroups q p ↔ ¬FollowsNegated tokens) := by
  unfold parse at h
  unfold tokenize
  generalize tokensFrom .clause 0 s = lexed at h ⊢
  obtain ⟨tokens, fault⟩ := lexed
  cases fault with
  | some fault => exact absurd h (readFrom_fault _ _ _)
  | none =>
    have hreadable := readable_of_readFrom (r := ⟨[], none⟩) Waits.nothing h
    exact ⟨tokens, rfl, hreadable, fun p hp => regroups_iff h hp⟩

theorem parse_precedence_neighbours : ∃ tokens, tokenize ['!', 'a', ' ', 'b'] = .ok tokens ∧
    (∃ p, Reads .disjunction tokens p) ∧ ∀ p, Reads .disjunction tokens p →
      (Regroups (.joined .and (.negation (.term "a" false)) (.term "b" false)) p ↔
        ¬FollowsNegated tokens) :=
  parse_precedence (by cbv)

/-- Two negated neighbours are read as one negation, of the first together with the second. -/
theorem parse_negated_neighbours :
    parse ['!', 'a', ' ', '!', 'b'] =
      .ok (.negation (.joined .and (.term "a" false) (.negation (.term "b" false)))) ∧
    ¬Regroups (.negation (.joined .and (.term "a" false) (.negation (.term "b" false))))
      (.joined .and (.negation (.term "a" false)) (.negation (.term "b" false))) := by
  refine ⟨by cbv, fun h => ?_⟩
  have hclause := h.negatesClauses_iff.1
  simp [isClause] at hclause

end Cabinet.Query

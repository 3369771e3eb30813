import Cabinet.Query.Parser

/-!
The search language as a grammar, apart from the reader. A negation is of the one clause after it,
`and` and neighbours join such clauses, and `or` joins conjunctions.
-/

namespace Cabinet.Query

namespace TokenKind

/-- The signs that negate the clause after them. -/
def negates : TokenKind → Bool
  | not => true
  | bang => true
  | _ => false

/-- Whether a token that is a value is a regular expression. -/
def regex? : TokenKind → Option Bool
  | term => some false
  | phrase => some false
  | regex => some true
  | _ => none

end TokenKind

/-- How loosely the parts of a search are bound. -/
inductive Level where
  | clause
  | conjunction
  | disjunction
  deriving DecidableEq, Repr

/-- What stands between two clauses of a conjunction: nothing, or `and`. -/
inductive Between : List Token → Prop where
  | neighbours : Between []
  | and {t : Token} (h : t.kind = .and) : Between [t]

/-- The tokens are a search of some level, and the tree is what they say. -/
inductive Reads : Level → List Token → Query → Prop where
  | value {t : Token} {regex : Bool} (h : t.kind.regex? = some regex) :
    Reads .clause [t] (.term (String.ofList t.value) regex)
  | field {f t : Token} {regex : Bool} (hf : f.kind = .field) (h : t.kind.regex? = some regex) :
    Reads .clause [f, t] (.field (String.ofList f.value) (String.ofList t.value) regex)
  | group {o c : Token} {tokens : List Token} {q : Query} (ho : o.kind = .opening)
    (hc : c.kind = .closing) (h : Reads .disjunction tokens q) :
    Reads .clause (o :: (tokens ++ [c])) (.group q)
  | negation {n : Token} {tokens : List Token} {q : Query} (hn : n.kind.negates = true)
    (h : Reads .clause tokens q) : Reads .clause (n :: tokens) (.negation q)
  | clause {tokens : List Token} {q : Query} (h : Reads .clause tokens q) :
    Reads .conjunction tokens q
  | and {left between right : List Token} {p q : Query} (hl : Reads .conjunction left p)
    (hb : Between between) (hr : Reads .clause right q) :
    Reads .conjunction (left ++ (between ++ right)) (.joined .and p q)
  | conjunction {tokens : List Token} {q : Query} (h : Reads .conjunction tokens q) :
    Reads .disjunction tokens q
  | or {o : Token} {left right : List Token} {p q : Query} (hl : Reads .disjunction left p)
    (ho : o.kind = .or) (hr : Reads .conjunction right q) :
    Reads .disjunction (left ++ o :: right) (.joined .or p q)

/-- The trees are the same but for how conjunctions of conjunctions are grouped. -/
inductive Regroups : Query → Query → Prop where
  | same (q : Query) : Regroups q q
  | back {p q : Query} (h : Regroups p q) : Regroups q p
  | trans {p q r : Query} (h : Regroups p q) (h' : Regroups q r) : Regroups p r
  | regroup (p q r : Query) :
    Regroups (.joined .and (.joined .and p q) r) (.joined .and p (.joined .and q r))
  | joined (c : Connective) {p p' q q' : Query} (hp : Regroups p p') (hq : Regroups q q') :
    Regroups (.joined c p q) (.joined c p' q')
  | negation {p q : Query} (h : Regroups p q) : Regroups (.negation p) (.negation q)
  | group {p q : Query} (h : Regroups p q) : Regroups (.group p) (.group q)

/-- The last clause is negated. -/
def EndsNegated (tokens : List Token) : Prop :=
  ∃ before n operand q, tokens = before ++ n :: operand ∧ n.kind.negates = true ∧
    Reads .clause operand q

/-- A sign that negates comes directly after a negated clause. -/
def FollowsNegated (tokens : List Token) : Prop :=
  ∃ before n after, tokens = before ++ n :: after ∧ n.kind.negates = true ∧ EndsNegated before

/-- A clause, which nothing in it that is joined is outside of a group. -/
def isClause : Query → Bool
  | joined .. => false
  | _ => true

/-- What is negated is always one clause. -/
def NegatesClauses : Query → Prop
  | negation q => q.isClause = true ∧ q.NegatesClauses
  | group q => q.NegatesClauses
  | joined _ p q => p.NegatesClauses ∧ q.NegatesClauses
  | _ => True

variable {level : Level} {tokens before left right : List Token} {n t : Token} {p q : Query}

theorem EndsNegated.after (h : EndsNegated tokens) (before : List Token) :
    EndsNegated (before ++ tokens) := by
  obtain ⟨start, n, operand, q, rfl, hn, hq⟩ := h
  exact ⟨before ++ start, n, operand, q, by simp, hn, hq⟩

theorem FollowsNegated.within (h : FollowsNegated tokens) (before after : List Token) :
    FollowsNegated (before ++ (tokens ++ after)) := by
  obtain ⟨start, n, rest, rfl, hn, hends⟩ := h
  exact ⟨before ++ start, n, rest ++ after, by simp, hn, hends.after before⟩

theorem TokenKind.begins_of_negates {k : TokenKind} (h : k.negates = true) :
    (k ≠ .and ∧ k ≠ .or ∧ k ≠ .closing) ∧ k.strength = 3 := by
  cases k <;> simp_all [negates, strength]

/-- A clause begins with no connective and with no closing parenthesis. -/
theorem Reads.exists_head (h : Reads .clause tokens q) : ∃ t rest, tokens = t :: rest ∧
    (t.kind.strength = 2 ∨ t.kind.strength = 3 ∧ t.kind.negates = true) ∧
      t.kind ≠ .and ∧ t.kind ≠ .or ∧ t.kind ≠ .closing := by
  cases h with
  | @value t regex h =>
    exact ⟨t, [], rfl, by cases hk : t.kind <;> simp_all [TokenKind.regex?, TokenKind.strength]⟩
  | @field f t regex hf h => exact ⟨f, [t], rfl, by simp [hf, TokenKind.strength]⟩
  | @group o c tokens q ho hc h => exact ⟨o, tokens ++ [c], rfl, by simp [ho, TokenKind.strength]⟩
  | @negation n tokens q hn h =>
    obtain ⟨hbegins, hstrength⟩ := TokenKind.begins_of_negates hn
    exact ⟨n, tokens, rfl, .inr ⟨hstrength, hn⟩, hbegins⟩

/-- What a grammar reads negates single clauses, and a clause is one. -/
theorem Reads.negatesClauses (h : Reads level tokens q) :
    q.NegatesClauses ∧ (level = .clause → q.isClause = true) := by
  induction h with
  | value | field => exact ⟨trivial, fun _ => rfl⟩
  | group _ _ _ ih => exact ⟨ih.1, fun _ => rfl⟩
  | negation _ _ ih => exact ⟨⟨ih.2 rfl, ih.1⟩, fun _ => rfl⟩
  | clause _ ih => exact ⟨ih.1, by simp⟩
  | and _ _ _ ihl ihr => exact ⟨⟨ihl.1, ihr.1⟩, by simp⟩
  | conjunction _ ih => exact ⟨ih.1, by simp⟩
  | or _ _ _ ihl ihr => exact ⟨⟨ihl.1, ihr.1⟩, by simp⟩

theorem Regroups.negatesClauses_iff (h : Regroups p q) :
    p.isClause = q.isClause ∧ (p.NegatesClauses ↔ q.NegatesClauses) := by
  induction h with
  | same q => exact ⟨rfl, .rfl⟩
  | back _ ih => exact ⟨ih.1.symm, ih.2.symm⟩
  | trans _ _ ih ih' => exact ⟨ih.1.trans ih'.1, ih.2.trans ih'.2⟩
  | regroup p q r => exact ⟨rfl, and_assoc⟩
  | joined c _ _ ihp ihq => exact ⟨rfl, and_congr ihp.2 ihq.2⟩
  | negation _ ih => exact ⟨rfl, and_congr (by rw [ih.1]) ih.2⟩
  | group _ ih => exact ⟨rfl, ih.2⟩

/-- The tokens are a search, whatever it says. -/
def Readable (tokens : List Token) : Prop :=
  ∃ q, Reads .disjunction tokens q

theorem Reads.readable (h : Reads .clause tokens q) : Readable tokens :=
  ⟨q, .conjunction (.clause h)⟩

theorem Readable.and (h : Readable left) {between : List Token} (hb : Between between)
    (hr : Reads .clause right q) : Readable (left ++ (between ++ right)) := by
  obtain ⟨p, h⟩ := h
  cases h with
  | conjunction h => exact ⟨_, .conjunction (.and h hb hr)⟩
  | @or o left' right' p' q' hl ho h =>
    have hread := Reads.or hl ho (.and h hb hr)
    exact ⟨_, by simpa using hread⟩

theorem Readable.or (h : Readable left) {o : Token} (ho : o.kind = .or)
    (hr : Reads .conjunction right q) : Readable (left ++ o :: right) :=
  h.elim fun _ h => ⟨_, .or h ho hr⟩

/-- Tokens that can stand before every clause can stand before every search. -/
theorem Reads.prepend (before : List Token) (h : Reads level tokens q)
    (hb : ∀ {tokens q}, Reads .clause tokens q → Readable (before ++ tokens)) :
    Readable (before ++ tokens) := by
  induction h with
  | value h => exact hb (.value h)
  | field hf h => exact hb (.field hf h)
  | group ho hc h => exact hb (.group ho hc h)
  | negation hn h => exact hb (.negation hn h)
  | clause _ ih => exact ih
  | and _ hbetween hr ih => simpa using ih.and hbetween hr
  | conjunction _ ih => exact ih
  | or _ ho hr ih => simpa using ih.or ho hr

theorem Readable.negation (h : Readable tokens) (hn : n.kind.negates = true) :
    Readable (n :: tokens) :=
  h.elim fun _ h => h.prepend [n] fun h => (Reads.negation hn h).readable

theorem Readable.join (hl : Readable left) (hr : Readable right) {between : List Token}
    (hb : Between between ∨ ∃ o, between = [o] ∧ o.kind = .or) :
    Readable (left ++ (between ++ right)) := by
  obtain ⟨q, h⟩ := hr
  rw [← List.append_assoc]
  refine h.prepend (left ++ between) fun h => ?_
  rw [List.append_assoc]
  rcases hb with hb | ⟨o, rfl, ho⟩
  · exact hl.and hb h
  · exact hl.or ho (.clause h)

end Cabinet.Query

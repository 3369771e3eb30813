import Cabinet.Proofs.Query.Steps

/-!
What the reader of search texts accepts is a search, with a tree that the tokens may be read as: the
tokens read so far are put together as what waits and the clause after it.
-/

namespace Cabinet.Query

open Reading

/-- The tokens before a clause, as what they leave waiting. -/
inductive Waits : List Token → List Pending → Prop where
  | nothing : Waits [] []
  | negation {tokens : List Token} {pending : List Pending} {n : Token} (h : Waits tokens pending)
    (hn : n.kind.negates = true) : Waits (tokens ++ [n]) (.negation :: pending)
  | group {tokens : List Token} {pending : List Pending} {t : Token} (h : Waits tokens pending)
    (ht : t.kind = .opening) : Waits (tokens ++ [t]) (.group :: pending)
  | field {tokens : List Token} {pending : List Pending} {t : Token} (h : Waits tokens pending)
    (ht : t.kind = .field) : Waits (tokens ++ [t]) (.field (String.ofList t.value) :: pending)
  | joined {tokens left between : List Token} {pending : List Pending} {c : Connective} {q : Query}
    (h : Waits tokens pending) (hl : Derives left q) (hj : Joins c between) :
    Waits (tokens ++ (left ++ between)) (.joined c q :: pending)

variable {before tokens : List Token} {pending : List Pending} {q : Query} {r r' : Reading} {t : Token}

/-- The tokens that led to a reading: what waits, and then the clause. -/
def Reading.Of (r : Reading) (tokens : List Token) : Prop :=
  match r.clause? with
  | none => Waits tokens r.pending
  | some q => ∃ before clause, tokens = before ++ clause ∧ Waits before r.pending ∧ Derives clause q

theorem Waits.settle {clause : List Token} (h : Waits before pending) (hc : Derives clause q)
    (strength : Nat) : ∃ before' clause', before ++ clause = before' ++ clause' ∧
      Waits before' (settle strength pending q).1 ∧
        Derives clause' (settle strength pending q).2 := by
  induction h generalizing clause q with
  | nothing => exact ⟨[], clause, rfl, .nothing, hc⟩
  | negation h hn ih =>
    rw [Query.settle]
    split
    · simpa [Pending.complete] using ih (.negation hn hc)
    · exact ⟨_, clause, rfl, .negation h hn, hc⟩
  | group h ht => exact ⟨_, clause, rfl, .group h ht, hc⟩
  | field h ht => exact ⟨_, clause, rfl, .field h ht, hc⟩
  | joined h hl hj ih =>
    rw [Query.settle]
    split
    · simpa [Pending.complete] using ih (.joined hl hj hc)
    · exact ⟨_, clause, rfl, .joined h hl hj, hc⟩

theorem Reading.Begun.of (hr : Begun pending t r) (h : Waits tokens pending) : r.Of (tokens ++ [t]) := by
  cases hr with
  | negation hkind => exact h.negation hkind
  | group hkind => exact h.group hkind
  | field hkind => exact h.field hkind
  | named hp hkind =>
    subst hp
    cases h with
    | @field before _ f h hf => exact ⟨before, [f, t], by simp, h, .field hf hkind⟩
  | value hkind => exact ⟨tokens, [t], rfl, h, .value hkind⟩

theorem Reading.Continued.of {clause : List Token} (hr : Continued pending q t r) (h : Waits before pending)
    (hc : Derives clause q) : r.Of (before ++ clause ++ [t]) := by
  rw [List.append_assoc]
  cases hr with
  | joined hj => exact h.joined hc hj
  | closed hp hkind =>
    subst hp
    cases h with
    | @group start _ o hstart ho =>
      exact ⟨start, o :: (clause ++ [t]), by simp, hstart, .group ho hkind hc⟩
  | neighbour hr => simpa using hr.of (h.joined hc (.and .neighbours))

theorem step_of (h : r.Of tokens) (hr : r.step t = .ok r') : r'.Of (tokens ++ [t]) := by
  cases steps_of_step hr with
  | begun hr => exact hr.of h
  | continued hr =>
    obtain ⟨before, clause, rfl, hbefore, hc⟩ := h
    obtain ⟨before', clause', heq, hbefore', hc'⟩ := hbefore.settle hc t.kind.strength
    exact heq ▸ hr.of hbefore' hc'

/-- Tokens that the reader takes to the end may be read as the tree that it gives. -/
theorem derives_of_readFrom {rest : List Token} (h : r.Of tokens)
    (hq : readFrom r rest none = .ok q) : Derives (tokens ++ rest) q := by
  induction rest generalizing r tokens with
  | nil =>
    obtain ⟨pending, clause, rfl, hsettle⟩ := finish_eq_ok hq
    obtain ⟨before, tokens', rfl, hbefore, hc⟩ := h
    obtain ⟨before', clause', heq, h', hc'⟩ := hbefore.settle hc 0
    rw [hsettle] at h' hc'
    cases h'
    simpa [heq] using hc'
  | cons t rest ih =>
    obtain ⟨r', hr', hq⟩ := bind_eq_ok_iff.mp hq
    simpa using ih (step_of h hr') hq

theorem readable_of_readFrom {rest : List Token} (h : r.Of tokens)
    (hq : readFrom r rest none = .ok q) : Readable (tokens ++ rest) :=
  (derives_of_readFrom h hq).readable

end Cabinet.Query

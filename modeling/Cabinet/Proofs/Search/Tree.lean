import Cabinet.Proofs.Query.Steps
import Cabinet.Proofs.Search.Statement

/-!
The trees of search texts: clauses joined by `and` and `or`, which become conditions in brackets.
Blank texts have no tree.
-/

namespace Cabinet

namespace Query

/-- A tree with nothing but what a search text can say. -/
def Plain : Query → Prop
  | term .. => True
  | field .. => True
  | negation operand => operand.Plain
  | group body => body.Plain
  | joined connective left right =>
    (connective = .and ∨ connective = .or) ∧ left.Plain ∧ right.Plain
  | unknown _ => False

def Pending.Plain : Pending → Prop
  | joined connective left => (connective = .and ∨ connective = .or) ∧ left.Plain
  | _ => True

/-- A reading with nothing in it but what a search text can say. -/
structure Reading.Plain (r : Reading) : Prop where
  pending : ∀ p ∈ r.pending, p.Plain
  clause : ∀ q ∈ r.clause?, q.Plain

theorem Pending.Plain.complete {p : Pending} {q : Query} (hp : p.Plain) (hq : q.Plain) :
    (p.complete q).Plain := by
  cases p with
  | negation => exact hq
  | group => exact hq
  | joined connective left => exact ⟨hp.1, hp.2, hq⟩
  | field name => exact hq

theorem settle_plain (strength : Nat) {pending : List Pending} {q : Query}
    (hp : ∀ p ∈ pending, p.Plain) (hq : q.Plain) :
    (∀ p ∈ (settle strength pending q).1, p.Plain) ∧ (settle strength pending q).2.Plain := by
  induction pending generalizing q with
  | nil => exact ⟨hp, hq⟩
  | cons p rest ih =>
    have hrest := fun p hp' => hp p (List.mem_cons_of_mem _ hp')
    rw [settle]
    split
    · exact ih hrest ((hp p List.mem_cons_self).complete hq)
    · exact ⟨hp, hq⟩

namespace Reading

variable {pending : List Pending} {t : Token} {q : Query} {r r' : Reading}

theorem Plain.push {p : Pending} (hp : p.Plain) (h : ∀ p ∈ pending, p.Plain) :
    Plain ⟨p :: pending, none⟩ :=
  ⟨List.forall_mem_cons.mpr ⟨hp, h⟩, by simp⟩

theorem Begun.plain (hr : Begun pending t r) (h : ∀ p ∈ pending, p.Plain) : r.Plain := by
  cases hr with
  | negation => exact .push trivial h
  | group => exact .push trivial h
  | field => exact .push trivial h
  | named hp =>
    subst hp
    exact ⟨(List.forall_mem_cons.mp h).2, by simp [Query.Plain]⟩
  | value => exact ⟨h, by simp [Query.Plain]⟩

theorem Continued.plain (hr : Continued pending q t r) (h : ∀ p ∈ pending, p.Plain) (hq : q.Plain) :
    r.Plain := by
  cases hr with
  | joined hj => exact .push ⟨by cases hj <;> simp, hq⟩ h
  | closed hp =>
    subst hp
    exact ⟨(List.forall_mem_cons.mp h).2, by simpa [Query.Plain] using hq⟩
  | neighbour hr =>
    have hjoined : (Pending.joined .and q).Plain := ⟨.inl rfl, hq⟩
    exact hr.plain (List.forall_mem_cons.mpr ⟨hjoined, h⟩)

theorem step_plain (h : r.Plain) (hr : r.step t = .ok r') : r'.Plain := by
  cases steps_of_step hr with
  | begun hr => exact hr.plain h.pending
  | continued hr =>
    obtain ⟨hpending, hclause⟩ := settle_plain t.kind.strength h.pending (h.clause _ rfl)
    exact hr.plain hpending hclause

theorem finish_plain (h : r.Plain) (hq : r.finish = .ok q) : q.Plain := by
  obtain ⟨pending, clause, rfl, hsettle⟩ := finish_eq_ok hq
  have hclause := (settle_plain 0 h.pending (h.clause clause rfl)).2
  rwa [hsettle] at hclause

end Reading

theorem readFrom_plain {r : Reading} {tokens : List Token} {fault : Option Error} {q : Query}
    (h : r.Plain) (hq : readFrom r tokens fault = .ok q) : q.Plain := by
  induction tokens generalizing r with
  | nil =>
    cases fault with
    | none => exact Reading.finish_plain h hq
    | some e => simp [readFrom] at hq
  | cons t rest ih =>
    rw [readFrom] at hq
    obtain ⟨r', hr', hq⟩ := bind_eq_ok_iff.mp hq
    exact ih (Reading.step_plain h hr') hq

theorem parse_plain {s : List Char} {q : Query} (h : parse s = .ok q) : q.Plain := by
  unfold parse at h
  exact readFrom_plain ⟨by simp, by simp⟩ h

/-- No token begins with a blank. -/
theorem clauseToken?_blank {c : Char} (hc : Text.isBlank c = true) (rest : List Char) :
    clauseToken? (c :: rest) = none := by
  have hsigns : ∀ d ∈ ['&', '|', '(', ')', '!', '/', '"'], Text.isBlank d = false := by
    simp [Text.isBlank]
  have hne : ∀ d ∈ ['&', '|', '(', ')', '!', '/', '"'], c ≠ d := by
    intro d hd heq
    simp [heq, hsigns d hd] at hc
  simp only [List.forall_mem_cons] at hne
  obtain ⟨hamp, hbar, hopen, hclose, hbang, hslash, hquote, -⟩ := hne
  have hends : endsWord c = true := by simp [endsWord, hc]
  have hregex : regexLexeme? (c :: rest) = none := by simp [regexLexeme?, hslash]
  have hphrase : phraseLexeme? (c :: rest) = none := by simp [phraseLexeme?, hquote]
  unfold clauseToken?
  split
  all_goals simp_all [delimited?, fieldLexeme?, termLexeme?, beginsWord]

theorem tokensFrom_blank {s : List Char} (h : Text.isAllBlank s = true) (position : Nat) :
    (tokensFrom .clause position s).1 = [] := by
  induction s generalizing position with
  | nil => rw [tokensFrom]
  | cons c rest ih =>
    simp only [Text.isAllBlank, List.all_cons, Bool.and_eq_true] at h
    rw [tokensFrom]
    split
    · exact ih h.2 _
    · rw [Expectation.token?, clauseToken?_blank h.1]

/-- A text with nothing but blanks in it has no tree. -/
theorem parse_blank {s : List Char} (h : Text.isAllBlank s = true) (q : Query) : parse s ≠ .ok q := by
  have htokens := tokensFrom_blank h 0
  unfold parse
  rcases hs : tokensFrom .clause 0 s with ⟨tokens, fault⟩
  rw [hs] at htokens
  obtain rfl : tokens = [] := htokens
  cases fault <;> simp [readFrom, Reading.finish]

end Query

namespace Search

/-- What a reference means is one of the columns. -/
theorem mem_of_resolve {columns : List Column} {reference : List Char} {c : Column}
    (h : resolve columns reference = .ok (some c)) : c ∈ columns := by
  unfold resolve at h
  split at h
  · simp at h
  split at h
  · next hfind =>
    obtain rfl := Option.some.inj (Except.ok.inj h)
    exact List.mem_of_find?_eq_some hfind
  split at h
  · simp at h
  split at h
  · simp at h
  · exact List.mem_of_find?_eq_some (Except.ok.inj h)

/-- A tree that a search text can say becomes a condition in brackets. -/
theorem enclosed_lower {columns : List Column} {q : Query} {c : Condition} (hq : q.Plain)
    (h : lower columns q = .ok c) : c.Enclosed := by
  induction q generalizing c with
  | term text regex =>
    obtain ⟨clause, -, h⟩ := bind_eq_ok_iff.mp h
    obtain rfl := Except.ok.inj h
    exact .clause clause
  | field name text regex =>
    obtain ⟨clause, -, h⟩ := bind_eq_ok_iff.mp h
    obtain rfl := Except.ok.inj h
    exact .clause clause
  | negation operand ih =>
    obtain ⟨d, hd, h⟩ := bind_eq_ok_iff.mp h
    obtain rfl := Except.ok.inj h
    exact .negation (ih hq hd)
  | group body ih => exact ih hq h
  | joined connective left right ihl ihr =>
    obtain ⟨hconnective, hleft, hright⟩ := hq
    obtain ⟨l, hl, h⟩ := bind_eq_ok_iff.mp h
    obtain ⟨r, hr, h⟩ := bind_eq_ok_iff.mp h
    obtain rfl := Except.ok.inj h
    rcases hconnective with rfl | rfl
    · exact .conjunction (ihl hleft hl) (ihr hright hr)
    · exact .disjunction (ihl hleft hl) (ihr hright hr)
  | unknown text => exact hq.elim

/-- The condition of a text that has a tree is that of the tree. -/
theorem compile_of_parse {columns : List Column} {text : String} {q : Query}
    (hq : Query.parse text.toList = .ok q) (hdepth : q.depth ≤ maxDepth) :
    compile columns (.text text) = lower columns q := by
  have hblank : Text.isAllBlank text.toList = false :=
    Bool.eq_false_iff.mpr fun hblank => Query.parse_blank hblank q hq
  have hread : read text = .ok q := by
    rw [read, hq, ok_bind, if_neg (Nat.not_lt.mpr hdepth)]
    rfl
  simp only [compile, compileText, hblank, hread, Bool.false_eq_true, if_false]

end Search

end Cabinet

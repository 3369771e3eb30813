import Cabinet.Proofs.Except
import Cabinet.Proofs.Query.Grammar

/-!
A search is read as what it says: wherever one of its parts begins, the reader takes the part and
leaves what is settled by the token after it.
-/

namespace Cabinet.Query

open Reading

variable {strength : Nat} {base extra pending : List Pending} {p q x y : Query} {t n : Token}
  {tokens : List Token}

/-- A clause with all that waits for it. -/
def whole (pending : List Pending) (q : Query) : Query :=
  pending.foldl (fun q p => p.complete q) q

theorem whole_append : whole (extra ++ base) q = whole base (whole extra q) := by
  simp [whole]

/-- Nothing is completed here before a token of the strength. -/
def Stops (strength : Nat) (pending : List Pending) : Prop :=
  ∀ p ∈ pending.head?, p.completesBefore strength = false

theorem Pending.completesBefore_mono {p : Pending} (h : p.completesBefore (strength + 1) = true) :
    p.completesBefore strength = true := by
  cases p with
  | negation | group | field => simp_all [completesBefore]; try omega
  | joined c left =>
    cases c <;> simp_all [completesBefore]
    omega

theorem settle_of_stops (h : Stops strength base) : settle strength base q = (base, q) := by
  cases base with
  | nil => rfl
  | cons p rest => simp [settle, h p rfl]

theorem settle_append (he : ∀ p ∈ extra, p.completesBefore strength = true)
    (hb : Stops strength base) : settle strength (extra ++ base) q = (base, whole extra q) := by
  induction extra generalizing q with
  | nil => exact settle_of_stops hb
  | cons p rest ih =>
    obtain ⟨hp, hrest⟩ := List.forall_mem_cons.mp he
    rw [List.cons_append, settle, if_pos hp, ih hrest]
    rfl

/-- No field waits for its value. -/
def Free (pending : List Pending) : Prop :=
  ∀ name, pending.head? ≠ some (.field name)

/-- Clauses of one conjunction wait. -/
def AreAnds (pending : List Pending) : Prop :=
  ∀ p ∈ pending, ∃ left, p = .joined .and left

namespace Level

/-- The parts of a search wait for the clause after them before tokens of this strength. -/
def waitsBefore : Level → Nat
  | clause => 3
  | conjunction => 2
  | disjunction => 1

/-- What a part of a search leaves waiting. -/
def Leaves : Level → List Token → List Pending → Prop
  | clause, tokens, extra => (∀ p ∈ extra, p = .negation) ∧ (extra = [] ∨ EndsNegated tokens)
  | conjunction, tokens, extra => (∀ p ∈ extra, p.completesBefore 2 = true) ∧
    (¬FollowsNegated tokens → AreAnds extra ∨ EndsNegated tokens)
  | disjunction, _, extra => ∀ p ∈ extra, p.completesBefore 1 = true

/-- Wherever it may stand, the reader takes the tokens and leaves what it should; and it takes them
for the tree if no sign follows a negated clause. -/
def Runs (level : Level) (tokens : List Token) (q : Query) : Prop :=
  ∀ base, Free base → Stops level.waitsBefore base → ∃ extra c,
    tokens.foldlM step ⟨base, none⟩ = .ok ⟨extra ++ base, some c⟩ ∧ level.Leaves tokens extra ∧
      (¬FollowsNegated tokens → Regroups (whole extra c) q)

end Level

theorem Stops.mono (h : Stops strength base) : Stops (strength + 1) base := by
  intro p hp
  have hp' := h p hp
  refine Bool.eq_false_iff.mpr fun hc => ?_
  rw [Pending.completesBefore_mono hc] at hp'
  simp at hp'

theorem stops_joined {c : Connective} (h : strength = 3 ∨ c = .or ∧ strength = 2) :
    Stops strength (.joined c p :: base) := by
  intro p' hp'
  obtain rfl := Option.some.inj hp'
  rcases h with rfl | ⟨rfl, rfl⟩
  · cases c <;> rfl
  · rfl

theorem stops_group : Stops strength (.group :: base) := by
  intro p hp
  obtain rfl := Option.some.inj hp
  rfl

theorem stops_three (base : List Pending) : Stops 3 base := by
  intro p _
  cases p with
  | joined c left => cases c <;> rfl
  | negation | group | field => rfl

theorem Regroups.whole (h : Regroups x y) (extra : List Pending) :
    Regroups (whole extra x) (whole extra y) := by
  induction extra generalizing x y with
  | nil => exact h
  | cons p rest ih =>
    refine ih ?_
    cases p with
    | negation => exact .negation h
    | group => exact .group h
    | joined c left => exact .joined c (.same left) h
    | field => exact h

theorem Regroups.whole_ands (h : AreAnds extra) :
    Regroups (Query.whole extra (.joined .and x y)) (.joined .and (Query.whole extra x) y) := by
  induction extra generalizing x with
  | nil => exact .same _
  | cons p rest ih =>
    obtain ⟨⟨left, rfl⟩, hrest⟩ := List.forall_mem_cons.mp h
    exact ((Regroups.regroup left x y).back.whole rest).trans (ih hrest)

/-- Before a clause in the place of a neighbour, a clause is joined as before `and`. -/
theorem step_neighbour (hn : t.kind ≠ .and ∧ t.kind ≠ .or ∧ t.kind ≠ .closing) :
    step ⟨pending, some q⟩ t = step ⟨.joined .and (settle t.kind.strength pending q).2 ::
      (settle t.kind.strength pending q).1, none⟩ t := by
  simp only [step, afterClause]
  split <;> simp_all

theorem step_negates (hn : n.kind.negates = true) :
    step ⟨base, none⟩ n = .ok ⟨.negation :: base, none⟩ := by
  cases hk : n.kind <;> simp_all [TokenKind.negates, step, beginClause]

theorem step_value {regex : Bool} (hf : Free base) (h : t.kind.regex? = some regex) :
    step ⟨base, none⟩ t = .ok ⟨base, some (.term (String.ofList t.value) regex)⟩ := by
  have htake : ∀ regex, takeValue base t.value regex =
      ⟨base, some (.term (String.ofList t.value) regex)⟩ := by
    intro regex
    unfold takeValue
    split
    · exact absurd rfl (hf _)
    · rfl
  cases hk : t.kind <;> simp_all [TokenKind.regex?, step, beginClause]

theorem step_field {f : Token} (hf : f.kind = .field) :
    step ⟨base, none⟩ f = .ok ⟨.field (String.ofList f.value) :: base, none⟩ := by
  simp [step, beginClause, hf]

theorem step_field_value {name : String} {regex : Bool} (h : t.kind.regex? = some regex) :
    step ⟨.field name :: base, none⟩ t =
      .ok ⟨base, some (.field name (String.ofList t.value) regex)⟩ := by
  cases hk : t.kind <;> simp_all [TokenKind.regex?, step, beginClause, takeValue]

theorem step_opening {o : Token} (ho : o.kind = .opening) :
    step ⟨base, none⟩ o = .ok ⟨.group :: base, none⟩ := by
  simp [step, beginClause, ho]

/-- A closing bracket completes what waits inside the brackets, and nothing beyond the opening one. -/
theorem step_closing {c : Token} (hc : c.kind = .closing)
    (he : ∀ p ∈ extra, p.completesBefore 0 = true) :
    step ⟨extra ++ .group :: base, some q⟩ c = .ok ⟨base, some (.group (whole extra q))⟩ := by
  have hsettle : settle 0 (extra ++ .group :: base) q = (.group :: base, whole extra q) :=
    settle_append he stops_group
  simp [step, afterClause, hc, TokenKind.strength, hsettle]

/-- A conjunction goes on with a clause: after `and`, and before most clauses, all that belongs to
the conjunction is completed first; before a negated neighbour nothing is. -/
theorem foldlM_between {between right : List Token} (hb : Between between) (hr : Reads .clause right q)
    (pending : List Pending) (c : Query) : ∃ strength,
      (strength = 2 ∨
        strength = 3 ∧ between = [] ∧ ∃ n rest, right = n :: rest ∧ n.kind.negates = true) ∧
        (between ++ right).foldlM step ⟨pending, some c⟩ =
          right.foldlM step ⟨.joined .and (settle strength pending c).2 ::
            (settle strength pending c).1, none⟩ := by
  cases hb with
  | @and a ha =>
    have hand : step ⟨pending, some c⟩ a =
        .ok ⟨.joined .and (settle 2 pending c).2 :: (settle 2 pending c).1, none⟩ := by
      simp [step, afterClause, ha, TokenKind.strength]
    exact ⟨2, .inl rfl, by simp [hand]⟩
  | neighbours =>
    obtain ⟨t, rest, rfl, hstrength, hbegins⟩ := hr.exists_head
    refine ⟨t.kind.strength, ?_, ?_⟩
    · rcases hstrength with h | ⟨h, hn⟩
      · exact .inl h
      · exact .inr ⟨h, rfl, t, rest, rfl, hn⟩
    · rw [List.nil_append, List.foldlM_cons, List.foldlM_cons, step_neighbour hbegins]

theorem runs_value {regex : Bool} (h : t.kind.regex? = some regex) :
    Level.clause.Runs [t] (.term (String.ofList t.value) regex) := by
  intro base hf _
  refine ⟨[], _, ?_, ⟨by simp, .inl rfl⟩, fun _ => .same _⟩
  simp [step_value hf h]

theorem runs_field {f : Token} {regex : Bool} (hf : f.kind = .field)
    (h : t.kind.regex? = some regex) :
    Level.clause.Runs [f, t] (.field (String.ofList f.value) (String.ofList t.value) regex) := by
  intro base _ _
  refine ⟨[], _, ?_, ⟨by simp, .inl rfl⟩, fun _ => .same _⟩
  simp [step_field hf, step_field_value h]

theorem runs_group {o c : Token} (ho : o.kind = .opening) (hc : c.kind = .closing)
    (ih : Level.disjunction.Runs tokens q) : Level.clause.Runs (o :: (tokens ++ [c])) (.group q) := by
  intro base _ _
  obtain ⟨extra, inner, hrun, hextra, hregroups⟩ :=
    ih (.group :: base) (by simp [Free]) stops_group
  have hclosing : step ⟨extra ++ .group :: base, some inner⟩ c =
      .ok ⟨base, some (.group (whole extra inner))⟩ :=
    step_closing hc fun p hp => Pending.completesBefore_mono (hextra p hp)
  refine ⟨[], .group (whole extra inner), ?_, ⟨by simp, .inl rfl⟩, fun hfollows => ?_⟩
  · simp [step_opening ho, hrun, hclosing]
  · exact .group (hregroups fun h => hfollows (by simpa using h.within [o] [c]))

theorem runs_negation (hn : n.kind.negates = true) (h : Reads .clause tokens q)
    (ih : Level.clause.Runs tokens q) : Level.clause.Runs (n :: tokens) (.negation q) := by
  intro base _ _
  obtain ⟨extra, c, hrun, ⟨hextra, -⟩, hregroups⟩ :=
    ih (.negation :: base) (by simp [Free]) (stops_three _)
  have hends : EndsNegated (n :: tokens) := ⟨[], n, tokens, q, rfl, hn, h⟩
  refine ⟨extra ++ [.negation], c, ?_, ⟨?_, .inr hends⟩, fun hfollows => ?_⟩
  · simp [step_negates hn, hrun]
  · simpa [or_imp, forall_and] using hextra
  · rw [whole_append]
    exact .negation (hregroups fun h => hfollows (by simpa using h.within [n] []))

theorem runs_clause (ih : Level.clause.Runs tokens q) : Level.conjunction.Runs tokens q := by
  intro base hf _
  obtain ⟨extra, c, hrun, ⟨hextra, hends⟩, hregroups⟩ := ih base hf (stops_three _)
  refine ⟨extra, c, hrun, ⟨fun p hp => by rw [hextra p hp]; rfl, fun _ => ?_⟩, hregroups⟩
  rcases hends with rfl | hends
  · exact .inl (by simp [AreAnds])
  · exact .inr hends

theorem runs_conjunction (ih : Level.conjunction.Runs tokens q) :
    Level.disjunction.Runs tokens q := by
  intro base hf hb
  obtain ⟨extra, c, hrun, ⟨hextra, -⟩, hregroups⟩ := ih base hf hb.mono
  exact ⟨extra, c, hrun, fun p hp => Pending.completesBefore_mono (hextra p hp), hregroups⟩

theorem runs_and {left between right : List Token} (hb : Between between)
    (hr : Reads .clause right q) (ihl : Level.conjunction.Runs left p)
    (ihr : Level.clause.Runs right q) :
    Level.conjunction.Runs (left ++ (between ++ right)) (.joined .and p q) := by
  intro base hf hstops
  obtain ⟨extra, c, hrun, ⟨hextra, hands⟩, hregroups⟩ := ihl base hf hstops
  have hleft : ¬FollowsNegated (left ++ (between ++ right)) → ¬FollowsNegated left :=
    fun hfollows h => hfollows (by simpa using h.within [] (between ++ right))
  have hright : ¬FollowsNegated (left ++ (between ++ right)) → ¬FollowsNegated right :=
    fun hfollows h => hfollows (by simpa using h.within (left ++ between) [])
  obtain ⟨strength, hstrength, hgoes⟩ := foldlM_between hb hr (extra ++ base) c
  rcases hstrength with rfl | ⟨rfl, rfl, n, rest, rfl, hn⟩
  · rw [settle_append hextra hstops] at hgoes
    obtain ⟨extra', c', hrun', ⟨hextra', hends⟩, hregroups'⟩ :=
      ihr (.joined .and (whole extra c) :: base) (by simp [Free]) (stops_three _)
    refine ⟨extra' ++ [.joined .and (whole extra c)], c', ?_, ⟨fun p hp => ?_, fun _ => ?_⟩,
      fun hfollows => ?_⟩
    · rw [List.foldlM_append, hrun, ok_bind, hgoes]
      simpa using hrun'
    · rcases List.mem_append.mp hp with hp | hp
      · rw [hextra' p hp]
        rfl
      · obtain rfl := List.mem_singleton.mp hp
        rfl
    · rcases hends with rfl | hends
      · exact .inl (by simp [AreAnds])
      · exact .inr (by simpa using hends.after (left ++ between))
    · rw [whole_append]
      exact .joined .and (hregroups (hleft hfollows)) (hregroups' (hright hfollows))
  · rw [settle_of_stops (stops_three _)] at hgoes
    obtain ⟨extra', c', hrun', ⟨hextra', hends⟩, hregroups'⟩ :=
      ihr (.joined .and c :: (extra ++ base)) (by simp [Free]) (stops_three _)
    -- A negated neighbour: were the clause before it negated, a sign would follow a negated clause.
    have hands' : ¬FollowsNegated (left ++ ([] ++ n :: rest)) → AreAnds extra := fun hfollows =>
      (hands (hleft hfollows)).resolve_right fun h => hfollows ⟨left, n, rest, rfl, hn, h⟩
    refine ⟨extra' ++ .joined .and c :: extra, c', ?_, ⟨fun p hp => ?_, fun hfollows => ?_⟩,
      fun hfollows => ?_⟩
    · simpa [hrun] using hgoes.trans hrun'
    · rcases List.mem_append.mp hp with hp | hp
      · rw [hextra' p hp]
        rfl
      · rcases List.mem_cons.mp hp with rfl | hp
        · rfl
        · exact hextra p hp
    · rcases hends with rfl | hends
      · exact .inl (List.forall_mem_cons.mpr ⟨⟨c, rfl⟩, hands' hfollows⟩)
      · exact .inr (hends.after left)
    · rw [whole_append]
      refine (Regroups.whole_ands (hands' hfollows)).trans ?_
      exact .joined .and (hregroups (hleft hfollows)) (hregroups' (hright hfollows))

theorem runs_or {o : Token} {left right : List Token} (ho : o.kind = .or)
    (ihl : Level.disjunction.Runs left p) (ihr : Level.conjunction.Runs right q) :
    Level.disjunction.Runs (left ++ o :: right) (.joined .or p q) := by
  intro base hf hb
  obtain ⟨extra, c, hrun, hextra, hregroups⟩ := ihl base hf hb
  have hor : step ⟨extra ++ base, some c⟩ o = .ok ⟨.joined .or (whole extra c) :: base, none⟩ := by
    have hsettle : settle 1 (extra ++ base) c = (base, whole extra c) := settle_append hextra hb
    simp [step, afterClause, ho, TokenKind.strength, hsettle]
  obtain ⟨extra', c', hrun', ⟨hextra', -⟩, hregroups'⟩ :=
    ihr (.joined .or (whole extra c) :: base) (by simp [Free]) (stops_joined (.inr ⟨rfl, rfl⟩))
  refine ⟨extra' ++ [.joined .or (whole extra c)], c', ?_, fun p hp => ?_, fun hfollows => ?_⟩
  · simp [hrun, hor, hrun']
  · rcases List.mem_append.mp hp with hp | hp
    · exact Pending.completesBefore_mono (hextra' p hp)
    · obtain rfl := List.mem_singleton.mp hp
      rfl
  · rw [whole_append]
    refine .joined .or (hregroups fun h => hfollows ?_) (hregroups' fun h => hfollows ?_)
    · simpa using h.within [] (o :: right)
    · simpa using h.within (left ++ [o]) []

theorem Reads.runs {level : Level} (h : Reads level tokens q) : level.Runs tokens q := by
  induction h with
  | value h => exact runs_value h
  | field hf h => exact runs_field hf h
  | group ho hc _ ih => exact runs_group ho hc ih
  | negation hn h ih => exact runs_negation hn h ih
  | clause _ ih => exact runs_clause ih
  | and _ hb hr ihl ihr => exact runs_and hb hr ihl ihr
  | conjunction _ ih => exact runs_conjunction ih
  | or _ ho _ ihl ihr => exact runs_or ho ihl ihr

theorem readFrom_eq (r : Reading) (tokens : List Token) :
    readFrom r tokens none = tokens.foldlM step r >>= finish := by
  induction tokens generalizing r with
  | nil => rfl
  | cons t rest ih => simp only [readFrom, List.foldlM_cons, bind_assoc, ih]

/-- A search is read, and for what it says if no sign follows a negated clause. -/
theorem Reads.read (h : Reads .disjunction tokens q) : ∃ read,
    readFrom ⟨[], none⟩ tokens none = .ok read ∧ (¬FollowsNegated tokens → Regroups read q) := by
  obtain ⟨extra, c, hrun, hextra, hregroups⟩ := h.runs [] (by simp [Free]) (by simp [Stops])
  have hsettle : settle 0 (extra ++ []) c = ([], whole extra c) :=
    settle_append (fun p hp => Pending.completesBefore_mono (hextra p hp)) (by simp [Stops])
  refine ⟨whole extra c, ?_, hregroups⟩
  rw [readFrom_eq, hrun, ok_bind]
  simp only [finish, hsettle]

end Cabinet.Query

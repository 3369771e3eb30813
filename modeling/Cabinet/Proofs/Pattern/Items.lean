import Cabinet.Proofs.Pattern.Groups

/-!
The items of a pattern, with what is inside of its groups: tame tokens are read without failing but to
refuse the pattern.
-/

namespace Cabinet.Pattern

variable {asked : Char → Prop} {all : List Token} {spare fuel : Nat} {s : Scan} {t : Token}

theorem yields_peek (s : Scan) :
    Yields (fun t? s' => t? = s.tokens.head? ∧ s' = s) (Reading.peek.run s) :=
  ⟨rfl, rfl⟩

/-- A special character that is none of the others opens a group. -/
theorem opens_of_isSpecial (hplain : t.escaped = false) (hspecial : isSpecial t.char = true)
    (hslash : t.is '\\' = false) (hends : (t.is '|' || t.is ')') = false)
    (hother : t.char ∉ "[?*+\x7b.^$".toList) : t.is '(' = true := by
  simp only [isSpecial, Token.is, hplain] at *
  simp at hspecial hother hends hslash ⊢
  grind

theorem yields_next_of_cons {rest : List Token} (h : s.tokens = t :: rest) :
    Yields (fun _ s' => s' = { s with tokens := rest }) (Reading.next.run s) := by
  unfold Reading.next
  rw [StateT.run_bind, StateT.run_get, pure_bind, h]
  exact Yields.bind (yields_moveTo rest s) fun _ _ heq => heq

/-- What is known of the readers that are called again, for what follows and inside of groups. -/
structure Inner (asked : Char → Prop) (all : List Token) (fuel : Nat) : Prop where
  alternatives : ∀ top first flags, Steady asked all 0 (alternatives fuel top first flags)
  items : ∀ top first flags done, Steady asked all 0 (items fuel top first flags done)

namespace Inner

theorem goOn (h : Inner asked all fuel) (top first : Bool) (flags : Flags) (done : List Pattern) :
    Steady asked all spare (Pattern.items fuel top first flags done) :=
  (h.items _ _ _ _).mono (Nat.zero_le _)

/-- What stands inside a group. -/
theorem inside (h : Inner asked all fuel) (flags : Flags) :
    Steady asked all 2 (Reading.nested 2 (Pattern.alternatives fuel false false flags)) :=
  .nested (h.alternatives _ _ _) (Nat.le_refl 2)

/-- What stands inside a branch of a condition. -/
theorem branch (h : Inner asked all fuel) (flags : Flags) :
    Steady asked all 2 (Reading.nested 1 (Pattern.items fuel false false flags [])) :=
  .nested (h.items _ _ _ _) (Nat.le_succ 1)

/-- The end of a group, and what follows it. -/
theorem close (h : Inner asked all fuel) (start : Nat) (top first : Bool) (flags : Flags)
    (done : List Pattern) :
    Steady asked all spare (closeGroup start >>= fun _ => Pattern.items fuel top first flags done) :=
  .bind (.closeGroup _) fun _ => h.goOn _ _ _ _

end Inner

theorem steady_items (hall : Tame asked all) (h : Inner asked all fuel) (top first : Bool) (flags : Flags)
    (done : List Pattern) : Steady asked all 0 (items (fuel + 1) top first flags done) := by
  intro s hs hroom
  unfold items
  refine Yields.bind (yields_peek s) fun t? s' ⟨ht?, hs'⟩ => ?_
  subst hs'
  cases htokens : s'.tokens with
  | nil =>
    rw [htokens] at ht?
    subst ht?
    exact .refl s'
  | cons t rest =>
    rw [htokens] at ht? hs hroom
    subst ht?
    dsimp only [List.head?_cons]
    split
    · exact .refl s'
    next hends =>
    refine Yields.bind (yields_next_of_cons htokens) fun _ s hnext => ?_
    have hrest : s.tokens = rest := by rw [hnext]
    have hreads : Reads asked s' s := hnext ▸ .moved (htokens ▸ List.suffix_cons t rest)
    rw [← hrest] at hs hroom
    have hlater : s.tokens <:+ all := (List.suffix_cons t _).trans hs
    rw [openings_cons, ← hreads.room] at hroom
    have hroom₀ : 2 * openings s.tokens + 0 ≤ s.room := by omega
    refine Yields.imp (?_ : Ends asked s _) fun _ _ => hreads.trans
    have hsteady : ∀ {x : Reading (List Pattern)}, Steady asked all 0 x → Ends asked s (x.run s) :=
      fun hx => hx s hlater hroom₀
    split
    · exact hsteady (.bind (.escaped _ _) fun _ => h.goOn _ _ _ _)
    next hplain =>
    split
    · exact hsteady (h.goOn _ _ _ _)
    split
    · exact hsteady (.bind (.skipPast _) fun _ => h.goOn _ _ _ _)
    split
    · exact hsteady (h.goOn _ _ _ _)
    next hspecial =>
    split
    · exact hsteady (.bind (.charSet _ _) fun _ => h.goOn _ _ _ _)
    · exact hsteady (.bind (.repeatLast _ _ _) fun _ => h.goOn _ _ _ _)
    · exact hsteady (.bind (.repeatLast _ _ _) fun _ => h.goOn _ _ _ _)
    · exact hsteady (.bind (.repeatLast _ _ _) fun _ => h.goOn _ _ _ _)
    · next hbrace =>
      have ht : t.is '\x7b' = true := by simp [Token.is, hplain, hbrace]
      refine Ends.bind (ends_bracedBounds hall t.start hs ht hroom₀) fun bounds? s' hbounds => ?_
      refine (?_ : Steady asked all 0 _) s' (hbounds.rest.trans hlater) (hbounds.enough hroom₀)
      split
      · exact h.goOn _ _ _ _
      · exact .bind (.repeatLast _ _ _) fun _ => h.goOn _ _ _ _
    · exact hsteady (h.goOn _ _ _ _)
    · exact hsteady (h.goOn _ _ _ _)
    · exact hsteady (h.goOn _ _ _ _)
    · have ht : t.is '(' = true := opens_of_isSpecial (by simpa using hplain) (by simpa using hspecial)
        (hall.slash t (hs.mem List.mem_cons_self)) (by simpa using hends)
        (by simp; grind)
      -- an opening parenthesis counts for two of the room
      have hroom₂ : 2 * openings s.tokens + 2 ≤ s.room := by simpa [ht, Nat.mul_add] using hroom
      refine Ends.bind (ends_opening hall flags hs ht hroom₂) fun o s' hopened => ?_
      refine (?_ : Steady asked all 2 _) s' (hopened.rest.trans hlater) (hopened.enough hroom₂)
      split
      · exact .check (.failAt _ _) fun _ => .get_bind fun _ => h.goOn _ _ _ _
      · exact .bind (.skipComment _) fun _ => h.goOn _ _ _ _
      · exact .bind (.namedReference _) fun _ => h.goOn _ _ _ _
      · exact .bind (.openCapture _) fun _ => .bind (h.inside _) fun _ => .bind (.closeGroup _) fun _ =>
          .bind (.closeCapture _ _) fun _ => h.goOn _ _ _ _
      · exact .bind (h.inside _) fun _ => h.close _ _ _ _ _
      · exact .bind (h.inside _) fun _ => h.close _ _ _ _ _
      · exact .bind (h.inside _) fun _ => h.close _ _ _ _ _
      · exact .bind (.lookingBehind (h.inside _)) fun _ => h.close _ _ _ _ _
      · refine .bind .conditionGroup fun _ => .bind (h.branch _) fun _ => .bind (.accept _) fun _ =>
          .ite (fun _ => .bind (h.branch _) fun _ => ?_) fun _ => .bind (.pure _) fun _ => ?_
        -- with another branch or without one, there must not be a third
        all_goals
          exact .bind (.get_bind fun _ => .pure _) fun _ => .check (.fail _ _) fun _ => h.close _ _ _ _ _

theorem inner (hall : Tame asked all) (fuel : Nat) : Inner asked all fuel := by
  induction fuel with
  | zero => exact ⟨fun _ _ _ => .fail _ _, fun _ _ _ _ => .fail _ _⟩
  | succ fuel ih =>
    refine ⟨fun top first flags => ?_, steady_items hall ih⟩
    exact .bind (ih.items _ _ _ _) fun _ => .bind (.accept _) fun _ => .ite (fun _ => .get_bind fun _ =>
      .bind (ih.alternatives _ _ _) fun _ => .pure _) fun _ => .pure _

end Cabinet.Pattern

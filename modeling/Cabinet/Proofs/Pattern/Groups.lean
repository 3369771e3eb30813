import Cabinet.Proofs.Pattern.Parts

/-!
The groups of a pattern, the flags that are set for the whole of it, and the bounds of its repetitions:
where the numbers are not too large and there is room for the groups, they are read without failing but
to refuse the pattern.
-/

namespace Cabinet.Pattern

variable {asked : Char → Prop} {all : List Token} {spare : Nat} {s s' : Scan} {t : Token}

theorem yields_next (s : Scan) : Yields (fun t? s' => match t? with
    | none => s' = s
    | some t => ∃ rest, s.tokens = t :: rest ∧ s' = { s with tokens := rest }) (Reading.next.run s) := by
  unfold Reading.next
  rw [StateT.run_bind, StateT.run_get, pure_bind]
  cases htokens : s.tokens with
  | nil => exact rfl
  | cons t rest => exact (yields_moveTo rest s).bind fun _ s' heq => ⟨rest, rfl, heq⟩

theorem yields_accept (c : Char) (s : Scan) : Yields (fun found s' => match found with
    | false => s' = s
    | true => ∃ t rest, s.tokens = t :: rest ∧ t.is c = true ∧ s' = { s with tokens := rest })
    ((Reading.accept c).run s) := by
  unfold Reading.accept
  rw [StateT.run_bind, StateT.run_get, pure_bind]
  cases htokens : s.tokens with
  | nil => exact rfl
  | cons t rest =>
    dsimp only
    split
    · next ht => exact (yields_moveTo rest s).bind fun _ s' heq => ⟨t, rest, rfl, ht, heq⟩
    · exact rfl

/-- Plain characters that pass a test. -/
def ArePlain (p : Char → Bool) (tokens : List Token) : Prop :=
  ∀ t ∈ tokens, t.escaped = false ∧ p t.char = true

theorem yields_takeAll (p : Char → Bool) (s : Scan) : Yields (fun taken s' =>
    ∃ before rest, s.tokens = before ++ rest ∧ ArePlain p before ∧ taken = before.map (·.char) ∧
      s' = { s with tokens := rest }) ((Reading.takeAll p).run s) := by
  unfold Reading.takeAll Reading.takeUpTo
  rw [StateT.run_bind, StateT.run_get, pure_bind, StateT.run_bind, StateT.run_get, pure_bind]
  dsimp only
  rw [List.take_length]
  obtain ⟨rest, hrest⟩ := List.takeWhile_prefix (l := s.tokens) fun t : Token => !t.escaped && p t.char
  have hplain := List.all_takeWhile (l := s.tokens) (p := fun t : Token => !t.escaped && p t.char)
  generalize s.tokens.takeWhile (fun t => !t.escaped && p t.char) = before at hrest hplain
  have hplain : ArePlain p before := fun t ht => by simpa using List.all_eq_true.mp hplain t ht
  rw [← hrest, List.drop_left]
  split
  · exact (yields_moveTo rest s).bind fun _ s' heq => ⟨before, rest, rfl, hplain, rfl, heq⟩
  · next hnil =>
    obtain rfl : before = [] := by simpa using hnil
    exact ⟨[], rest, rfl, hplain, rfl, by rw [show rest = s.tokens from hrest]⟩

/-- Letters that ask for a flag of the whole pattern. -/
def Asks (all : List Token) (c : Char) : Prop :=
  ∃ start mark letters stop rest, (start :: mark :: (letters ++ stop :: rest)) <:+ all ∧
    start.is '(' = true ∧ mark.is '?' = true ∧ stop.is ')' = true ∧
    (∀ l ∈ letters, (flagOf? l).isSome = true) ∧ ∃ l ∈ letters, l.is c = true

/-- Whether the digits of a count are few enough, and the count is small enough. -/
def Fits (digits : List Char) : Prop :=
  digits.length ≤ Text.maxIntegerDigits ∧ Text.numeral digits < repetitionLimit

/-- Tokens whose counts fit, and that ask for no more flags than are given. -/
structure Tame (asked : Char → Prop) (all : List Token) : Prop where
  slash : ∀ t ∈ all, t.is '\\' = false
  counts : ∀ mark digits rest, (mark :: (digits ++ rest)) <:+ all →
    mark.is '\x7b' = true ∨ mark.is ',' = true → ArePlain Text.isAsciiDigit digits →
    Fits (digits.map (·.char))
  flags : ∀ c, Asks all c → asked c

theorem flagOf?_repertoire {flag : Flags} (h : flagOf? t = some flag) :
    (flag.ascii = true → t.is 'a' = true) ∧ (flag.unicode = true → t.is 'u' = true) := by
  unfold flagOf? at h
  split at h
  · cases h
  next hplain =>
  unfold Flags.ofLetter? at h
  split at h
  case h_8 => cases h
  all_goals
    obtain rfl := Option.some.inj h
    constructor <;> intro hflag <;> simp_all [Token.is]

theorem Yields.ite_bind {α β : Type} {told : α → Scan → Prop} {told' : β → Scan → Prop} {p : Prop}
    [Decidable p] {x y : Reading α} {next : α → Reading β} (h : Yields told ((if p then x else y).run s))
    (hnext : ∀ a s', told a s' → Yields told' ((next a).run s')) :
    Yields told' ((if p then x >>= next else y >>= next).run s) := by
  split <;> rename_i hp
  · exact Yields.bind (by simpa [hp] using h) hnext
  · exact Yields.bind (by simpa [hp] using h) hnext

/-- What has been read when flags are collected from letters, and added to those given. -/
structure Collects (t : Token) (s : Scan) (given : Flags) (letters : List Token)
    (result : Flags × Token) (s' : Scan) : Prop where
  read : t :: s.tokens = letters ++ result.2 :: s'.tokens
  moved : s' = { s with tokens := s'.tokens }
  flags : ∀ l ∈ letters, (flagOf? l).isSome = true
  ascii : result.1.ascii = true → given.ascii = true ∨ ∃ l ∈ letters, l.is 'a' = true
  unicode : result.1.unicode = true → given.unicode = true ∨ ∃ l ∈ letters, l.is 'u' = true

/-- A letter more before those that are collected. -/
theorem Collects.cons {u : Token} {added flag : Flags} {letters rest : List Token}
    {result : Flags × Token} (hflag : flagOf? t = some flag) (htokens : s.tokens = u :: rest)
    (h : Collects u { s with tokens := rest } (added.union flag) letters result s') :
    Collects t s added (t :: letters) result s' where
  read := by rw [htokens, List.cons_append, ← h.read]
  moved := h.moved
  flags := List.forall_mem_cons.mpr ⟨by rw [hflag]; rfl, h.flags⟩
  ascii ha := by
    rcases h.ascii ha with hunion | ⟨l, hl, hla⟩
    · exact (Bool.or_eq_true_iff.mp hunion).imp_right fun hf =>
        ⟨t, List.mem_cons_self, (flagOf?_repertoire hflag).1 hf⟩
    · exact .inr ⟨l, List.mem_cons_of_mem t hl, hla⟩
  unicode hu := by
    rcases h.unicode hu with hunion | ⟨l, hl, hlu⟩
    · exact (Bool.or_eq_true_iff.mp hunion).imp_right fun hf =>
        ⟨t, List.mem_cons_self, (flagOf?_repertoire hflag).2 hf⟩
    · exact .inr ⟨l, List.mem_cons_of_mem t hl, hlu⟩

/-- What is left then was left before. -/
theorem Collects.rest {given : Flags} {letters : List Token} {result : Flags × Token}
    (h : Collects t s given letters result s') : s'.tokens <:+ s.tokens := by
  have hread := h.read
  cases letters with
  | nil => exact (List.cons.inj hread).2 ▸ List.suffix_refl _
  | cons l letters =>
    rw [(List.cons.inj hread).2]
    exact (List.suffix_cons _ _).trans (List.suffix_append letters _)

/-- Nothing is collected before the character that ends the letters. -/
theorem Collects.nil (t : Token) (s : Scan) (given : Flags) : Collects t s given [] (given, t) s :=
  ⟨rfl, rfl, nofun, .inl, .inl⟩

theorem yields_fail {α : Type} {told : α → Scan → Prop} (reason : String) (back : Nat) (s : Scan) :
    Yields told ((Reading.fail reason back : Reading α).run s) :=
  rfl

/-- Flags are collected from letters. -/
theorem yields_addedFlags (fuel : Nat) (t : Token) (added : Flags) (s : Scan) :
    Yields (fun result s' => ∃ letters, Collects t s added letters result s')
      ((addedFlags fuel t added).run s) := by
  induction fuel generalizing t added s with
  | zero => exact yields_fail _ _ s
  | succ fuel ih =>
    unfold addedFlags
    cases hflag : flagOf? t with
    | none => exact yields_fail _ _ s
    | some flag =>
      dsimp only
      split
      · exact rfl
      refine (yields_next s).bind fun u? s' hnext => ?_
      cases u? with
      | none => exact yields_fail _ _ s'
      | some u =>
        obtain ⟨rest, htokens, rfl⟩ := hnext
        dsimp only
        split
        · exact ⟨[t], .cons hflag htokens (.nil u _ _)⟩
        split
        · exact (ih u _ _).imp fun result s' ⟨letters, hcollects⟩ =>
            ⟨t :: letters, .cons hflag htokens hcollects⟩
        · exact yields_fail _ _ _

/-- The flags of a group are no others than those that are asked for. -/
theorem ends_groupFlags {start mark : Token} (hall : Tame asked all)
    (hs : (start :: mark :: t :: s.tokens) <:+ all) (hstart : start.is '(' = true)
    (hmark : mark.is '?' = true) (hroom : 2 * openings s.tokens + spare ≤ s.room) :
    Ends asked s ((groupFlags t).run s) := by
  unfold groupFlags
  rw [StateT.run_bind, StateT.run_get, pure_bind]
  have hcollect : Yields (fun result s' => ∃ letters, Collects t s {} letters result s')
      (StateT.run (if t.is '-' then pure ({}, t) else addedFlags (s.tokens.length + 1) t {}) s) := by
    split
    · exact ⟨[], .nil t s {}⟩
    · exact yields_addedFlags _ t {} s
  dsimp only
  refine Yields.ite_bind hcollect fun (added, close) s' ⟨letters, h⟩ => ?_
  have hreads : Reads asked s s' := h.moved ▸ .moved h.rest
  have hasks : close.is ')' = true → ∀ c, (∃ l ∈ letters, l.is c = true) → asked c :=
    fun hclose c hletters => hall.flags c ⟨start, mark, letters, close, s'.tokens, h.read ▸ hs, hstart,
      hmark, hclose, h.flags, hletters⟩
  dsimp only
  split
  · next hclose =>
    exact ⟨hreads.rest, hreads.room,
      fun ha => (Bool.or_eq_true_iff.mp ha).elim hreads.ascii fun ha =>
        .inr (hasks hclose _ ((h.ascii ha).resolve_left nofun)),
      fun hu => (Bool.or_eq_true_iff.mp hu).elim hreads.unicode fun hu =>
        .inr (hasks hclose _ ((h.unicode hu).resolve_left nofun))⟩
  · refine Yields.imp (?_ : Ends asked s' _) fun _ _ => hreads.trans
    have hlater : s.tokens <:+ all :=
      (((List.suffix_cons _ _).trans (List.suffix_cons _ _)).trans (List.suffix_cons _ _)).trans hs
    refine Steady.check (.fail _ _) (fun _ => .ite (fun _ => .bind .next fun
      | none => .bind (.fail _ _) fun removed => ?_
      | some u => .ite (fun _ => .bind (.removedFlags _ _ _) fun removed => ?_) fun _ =>
          .bind (.fail _ _) fun removed => ?_) fun _ => .bind (.pure _) fun removed => ?_)
      s' (hreads.rest.trans hlater) (hreads.enough hroom)
    -- whatever has been turned off, it is checked in the same way
    all_goals exact .check (.fail _ _) fun _ => .check (.fail _ _) fun _ => .pure _

/-! What opens a group -/

/-- What follows an opening parenthesis. -/
theorem ends_opening (hall : Tame asked all) (flags : Flags) (hs : (t :: s.tokens) <:+ all)
    (ht : t.is '(' = true) (hroom : 2 * openings s.tokens + spare ≤ s.room) :
    Ends asked s ((opening flags).run s) := by
  unfold opening
  refine Yields.bind (yields_accept '?' s) fun found s₁ hfound => ?_
  cases found with
  | false =>
    subst hfound
    exact .refl _
  | true =>
    obtain ⟨mark, rest, htokens, hmark, rfl⟩ := hfound
    refine Yields.bind (yields_next _) fun u? s₂ hnext => ?_
    cases u? with
    | none => exact yields_fail _ _ _
    | some u =>
      obtain ⟨rest', rfl, rfl⟩ := hnext
      have hlater : (t :: mark :: u :: rest') <:+ all := htokens ▸ hs
      have hreads : Reads asked s { s with tokens := rest' } :=
        .moved (htokens ▸ (List.suffix_cons _ _).trans (List.suffix_cons _ _))
      -- In most of the cases the mark is left behind and a steady reader goes on with what follows
      -- it.
      have hsteady : ∀ {x : Reading Opening}, Steady asked all spare x →
          Ends asked s (x.run { s with tokens := rest' }) := fun hx =>
        (hx _ (((List.suffix_cons _ _).trans ((List.suffix_cons _ _).trans (List.suffix_cons _ _))).trans
          hlater) (hreads.enough hroom)).imp fun _ _ => hreads.trans
      dsimp only
      split
      · exact hsteady .namedOpening
      split
      · exact hsteady (.pure _)
      split
      · exact hsteady (.pure _)
      split
      · exact hsteady (.pure _)
      split
      · exact hsteady (.pure _)
      split
      · refine hsteady (.bind .next fun v? => ?_)
        cases v? with
        | none => exact .fail _ _
        | some v => exact .ite (fun _ => .pure _) fun _ => .ite (fun _ => .pure _) fun _ => .fail _ _
      split
      · exact hsteady (.pure _)
      split
      · exact hsteady (.pure _)
      split
      · -- Flags are read from the parenthesis on, as it is there that what they ask for begins.
        refine Yields.bind (ends_groupFlags hall hlater ht hmark (hreads.enough hroom)) ?_
        intro flags? s' hflags
        have hends := hreads.trans hflags
        cases flags? with
        | none => exact hends
        | some _ => exact hends
      · exact hsteady (.fail _ _)

/-! The bounds of a repetition -/

theorem Steady.repetitionCount {digits : List Char} (h : Fits digits) :
    Steady asked all spare (repetitionCount digits) := by
  unfold Pattern.repetitionCount
  rw [if_neg (Nat.not_lt.mpr h.1)]
  exact .ite (fun hlimit => absurd h.2 (Nat.not_lt.mpr hlimit)) fun _ => .pure _

/-- Digits after a character that may stand before a count. -/
theorem yields_digits {mark : Token} (hall : Tame asked all) (hs : (mark :: s.tokens) <:+ all)
    (hmark : mark.is '\x7b' = true ∨ mark.is ',' = true) :
    Yields (fun digits s' => Fits digits ∧ Reads asked s s')
      ((Reading.takeAll Text.isAsciiDigit).run s) :=
  (yields_takeAll _ s).imp fun _ _ ⟨before, rest, htokens, hplain, hdigits, hs'⟩ =>
    ⟨hdigits ▸ hall.counts mark before rest (htokens ▸ hs) hmark hplain,
      hs' ▸ .moved (htokens ▸ List.suffix_append before rest)⟩

/-- What follows a brace: bounds, or else nothing is read. -/
theorem ends_bracedBounds (hall : Tame asked all) (start : Nat) (hs : (t :: s.tokens) <:+ all)
    (ht : t.is '\x7b' = true) (hroom : 2 * openings s.tokens + spare ≤ s.room) :
    Ends asked s ((bracedBounds start).run s) := by
  have hlater : s.tokens <:+ all := (List.suffix_cons _ _).trans hs
  unfold bracedBounds
  rw [StateT.run_bind, StateT.run_get, pure_bind]
  dsimp only
  split
  · exact .refl s
  refine Yields.bind (yields_digits hall hs (.inl ht)) fun low s₁ ⟨hlow, hreads₁⟩ => ?_
  refine Yields.bind (yields_accept ',' s₁) fun comma s₂ hcomma => ?_
  -- Without a comma the lower bound is the upper one, too.
  have hhigh : Yields (fun high s' => Fits high ∧ Reads asked s s')
      ((if comma = true then Reading.takeAll Text.isAsciiDigit else pure low).run s₂) := by
    cases comma with
    | false =>
      subst hcomma
      exact ⟨hlow, hreads₁⟩
    | true =>
      obtain ⟨mark, rest, htokens, hmark, rfl⟩ := hcomma
      have hmoved : Reads asked s { s₁ with tokens := rest } :=
        hreads₁.trans (.moved (htokens ▸ List.suffix_cons mark rest))
      have hs' : (mark :: rest) <:+ all := htokens ▸ hreads₁.rest.trans hlater
      exact (yields_digits hall hs' (.inr hmark)).imp fun _ _ h => ⟨h.1, hmoved.trans h.2⟩
  refine Yields.ite_bind hhigh fun high s₃ ⟨hhigh, hreads₃⟩ => ?_
  refine Yields.bind (yields_accept '\x7d' s₃) fun closed s₄ hclosed => ?_
  cases closed with
  | false => exact .refl s
  | true =>
    obtain ⟨mark, rest, htokens, -, rfl⟩ := hclosed
    have hreads : Reads asked s { s₃ with tokens := rest } :=
      hreads₃.trans (.moved (htokens ▸ List.suffix_cons mark rest))
    have htail : ∀ least, Steady asked all spare (do
        if high.isEmpty then return some (least, none)
        let most ← repetitionCount high
        if most < least then Reading.failAt "min repeat greater than max repeat" (start + 1)
        return some (least, some most) : Reading (Option (Nat × Option Nat))) := fun _ =>
      .ite (fun _ => .pure _) fun _ => .bind (.repetitionCount hhigh) fun _ =>
        .check (.failAt _ _) fun _ => .pure _
    have hsteady : Steady asked all spare _ := .ite (p := low.isEmpty = true)
      (fun _ => .bind (.pure 0) htail) fun _ => .bind (.repetitionCount hlow) htail
    exact (hsteady _ (hreads.rest.trans hlater) (hreads.enough hroom)).imp fun _ _ => hreads.trans

/-! Readers of what stands inside a group -/

namespace Steady

variable {α : Type} {read : Reading α}

/-- A group takes some of the room that is to spare, and gives it back. -/
theorem nested {calls : Nat} (h : Steady asked all 0 read) (hle : calls ≤ spare) :
    Steady asked all spare (Reading.nested calls read) := by
  intro s hs hroom
  unfold Reading.nested
  rw [StateT.run_bind, StateT.run_get, pure_bind]
  dsimp only
  rw [if_neg (by omega)]
  rw [StateT.run_bind, StateT.run_modify, pure_bind]
  have hinside := h { s with room := s.room - calls } hs (by dsimp only; omega)
  refine Yields.bind hinside fun _ _ hreads => ?_
  exact ⟨hreads.rest, rfl, hreads.ascii, hreads.unicode⟩

theorem lookingBehind (h : Steady asked all spare read) :
    Steady asked all spare (lookingBehind read) := by
  refine .get_bind fun _ => .check (.modify (fun _ => rfl) (fun _ => rfl) fun _ => rfl) fun _ =>
    .bind h fun _ => .check (.modify (fun _ => rfl) (fun _ => rfl) fun _ => rfl) fun _ => .pure _

end Steady

end Cabinet.Pattern

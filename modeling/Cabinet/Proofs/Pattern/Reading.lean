import Cabinet.Error
import Cabinet.Pattern.Parser
import Cabinet.Proofs.Except

/-!
What readers of patterns do whatever they read: they go on among the tokens, and if they fail, they
refuse the pattern.
-/

namespace Cabinet.Pattern

variable {α β : Type} {asked : Char → Prop} {all : List Token} {spare : Nat} {s s' : Scan}

/-- How many groups open among tokens. -/
def openings (tokens : List Token) : Nat :=
  tokens.countP (·.is '(')

theorem openings_cons (t : Token) (tokens : List Token) :
    openings (t :: tokens) = openings tokens + if t.is '(' then 1 else 0 :=
  List.countP_cons

/-- Where readers come: on among the tokens, with the room that there was, and with no more of the two
repertoires for the whole pattern than are asked for. -/
structure Reads (asked : Char → Prop) (s s' : Scan) : Prop where
  rest : s'.tokens <:+ s.tokens
  room : s'.room = s.room
  ascii : s'.flags.ascii = true → s.flags.ascii = true ∨ asked 'a'
  unicode : s'.flags.unicode = true → s.flags.unicode = true ∨ asked 'u'

theorem Reads.of_eq (htokens : s'.tokens = s.tokens) (hroom : s'.room = s.room)
    (hflags : s'.flags = s.flags) : Reads asked s s' :=
  ⟨htokens ▸ List.suffix_refl _, hroom, fun h => .inl (hflags ▸ h), fun h => .inl (hflags ▸ h)⟩

theorem Reads.refl (s : Scan) : Reads asked s s :=
  .of_eq rfl rfl rfl

theorem Reads.trans {t : Scan} (h : Reads asked s t) (h' : Reads asked t s') : Reads asked s s' where
  rest := h'.rest.trans h.rest
  room := h'.room.trans h.room
  ascii ha := (h'.ascii ha).elim h.ascii .inr
  unicode hu := (h'.unicode hu).elim h.unicode .inr

theorem Reads.moved {tokens : List Token} (h : tokens <:+ s.tokens) :
    Reads asked s { s with tokens } :=
  ⟨h, rfl, .inl, .inl⟩

/-- A reader that fails only to refuse the pattern, and otherwise ends as is told. -/
def Yields (told : α → Scan → Prop) : Except Fault (α × Scan) → Prop
  | .ok (a, s') => told a s'
  | .error fault => fault.error? = none

theorem Yields.bind {told : α → Scan → Prop} {told' : β → Scan → Prop} {x : Reading α}
    {next : α → Reading β} (h : Yields told (x.run s))
    (hnext : ∀ a s', told a s' → Yields told' ((next a).run s')) :
    Yields told' ((x >>= next).run s) := by
  rw [StateT.run_bind]
  cases hx : x.run s with
  | error fault =>
    rw [hx] at h
    exact h
  | ok result =>
    rw [hx] at h
    exact hnext result.1 result.2 h

theorem Yields.imp {told told' : α → Scan → Prop} {x : Except Fault (α × Scan)} (h : Yields told x)
    (himp : ∀ a s', told a s' → told' a s') : Yields told' x := by
  cases x with
  | error fault => exact h
  | ok result => exact himp result.1 result.2 h

theorem Yields.of_error {told : α → Scan → Prop} {x : Except Fault (α × Scan)} {fault : Fault}
    (h : Yields told x) (hx : Prod.fst <$> x = .error fault) : fault.error? = none := by
  cases x with
  | ok result => cases hx
  | error found =>
    cases hx
    exact h

/-- How a reader may end that began at a place: it comes somewhere, or it refuses the pattern. -/
abbrev Ends (asked : Char → Prop) (s : Scan) (x : Except Fault (α × Scan)) : Prop :=
  Yields (fun _ s' => Reads asked s s') x

theorem Ends.pure (a : α) (s : Scan) : Ends asked s ((Pure.pure a : Reading α).run s) :=
  Reads.refl s

theorem Ends.bind {x : Reading α} {next : α → Reading β} (h : Ends asked s (x.run s))
    (hnext : ∀ a s', Reads asked s s' → Ends asked s' ((next a).run s')) :
    Ends asked s ((x >>= next).run s) :=
  Yields.bind h fun a s' hreads => (hnext a s' hreads).imp fun _ _ => hreads.trans

/-- There is as much room where a reader comes. -/
theorem Reads.enough (h : Reads asked s s') (hroom : 2 * openings s.tokens + spare ≤ s.room) :
    2 * openings s'.tokens + spare ≤ s'.room := by
  have hle : openings s'.tokens ≤ openings s.tokens := h.rest.sublist.countP_le
  rw [h.room]
  omega

/-- A reader that ends so wherever tokens of the pattern are left, with room for all groups that may
still open and for `spare` calls more. -/
def Steady (asked : Char → Prop) (all : List Token) (spare : Nat) (x : Reading α) : Prop :=
  ∀ s, s.tokens <:+ all → 2 * openings s.tokens + spare ≤ s.room → Ends asked s (x.run s)

namespace Steady

variable {x : Reading α} {next : α → Reading β} {p : Prop} [Decidable p] {y : Reading α}

theorem pure (a : α) : Steady asked all spare (Pure.pure a : Reading α) :=
  fun s _ _ => Reads.refl s

theorem bind (h : Steady asked all spare x) (hnext : ∀ a, Steady asked all spare (next a)) :
    Steady asked all spare (x >>= next) := by
  intro s hs hroom
  exact Ends.bind (h s hs hroom) fun a s' hreads => hnext a s' (hreads.rest.trans hs) (hreads.enough hroom)

/-- What is known of the place may be used in what follows. -/
theorem get_bind {next : Scan → Reading β} (h : ∀ s, Steady asked all spare (next s)) :
    Steady asked all spare (get >>= next) :=
  fun s hs hroom => h s s hs hroom

theorem throw {fault : Fault} (h : fault.error? = none) :
    Steady asked all spare (throw fault : Reading α) :=
  fun _ _ _ => h

theorem mono {more : Nat} (h : Steady asked all spare x) (hle : spare ≤ more) :
    Steady asked all more x :=
  fun s hs hroom => h s hs (by omega)

theorem ite (hx : p → Steady asked all spare x) (hy : ¬p → Steady asked all spare y) :
    Steady asked all spare (if p then x else y) := by
  split
  · next h => exact hx h
  · next h => exact hy h

/-- What is refused under a condition goes on otherwise. -/
theorem check {refused : Reading Unit} {next : Unit → Reading β}
    (hrefused : Steady asked all spare refused) (hnext : ∀ u, Steady asked all spare (next u)) :
    Steady asked all spare (if p then refused >>= next else next ()) :=
  .ite (fun _ => hrefused.bind hnext) fun _ => hnext ()

/-- A change that leaves the tokens, the room and the flags as they are. -/
theorem modify {f : Scan → Scan} (htokens : ∀ s, (f s).tokens = s.tokens)
    (hroom : ∀ s, (f s).room = s.room) (hflags : ∀ s, (f s).flags = s.flags) :
    Steady asked all spare (modify f : Reading Unit) :=
  fun s _ _ => Reads.of_eq (htokens s) (hroom s) (hflags s)

theorem failAt (reason : String) (position : Nat) :
    Steady asked all spare (Reading.failAt reason position : Reading α) :=
  .throw rfl

theorem fail (reason : String) (back : Nat) :
    Steady asked all spare (Reading.fail reason back : Reading α) :=
  .bind (.get_bind fun _ => .pure _) fun _ => .failAt reason _

end Steady

theorem yields_moveTo (tokens : List Token) (s : Scan) :
    Yields (fun _ s' => s' = { s with tokens }) ((Reading.moveTo tokens).run s) := by
  unfold Reading.moveTo
  rw [StateT.run_bind, StateT.run_get, pure_bind]
  dsimp only
  split
  · exact rfl
  · exact rfl

theorem ends_moveTo {tokens : List Token} (h : tokens <:+ s.tokens) :
    Ends asked s ((Reading.moveTo tokens).run s) :=
  (yields_moveTo tokens s).imp fun _ _ heq => heq ▸ .moved h

namespace Steady

/-- After a move to later tokens, what is steady ends as it does. -/
theorem moveTo_bind {tokens : List Token} {next : Unit → Reading β} (h : tokens <:+ s.tokens)
    (hs : s.tokens <:+ all) (hroom : 2 * openings s.tokens + spare ≤ s.room)
    (hnext : Steady asked all spare (next ())) :
    Ends asked s ((Reading.moveTo tokens >>= next).run s) := by
  refine Ends.bind (ends_moveTo h) fun _ s' hreads => hnext s' (hreads.rest.trans hs) (hreads.enough hroom)

theorem next : Steady asked all spare Reading.next := by
  intro s hs hroom
  unfold Reading.next
  rw [StateT.run_bind, StateT.run_get, pure_bind]
  cases htokens : s.tokens with
  | nil => exact .pure none s
  | cons t rest => exact moveTo_bind (htokens ▸ List.suffix_cons t rest) hs hroom (.pure _)

theorem accept (c : Char) : Steady asked all spare (Reading.accept c) := by
  intro s hs hroom
  unfold Reading.accept
  rw [StateT.run_bind, StateT.run_get, pure_bind]
  cases htokens : s.tokens with
  | nil => exact .pure false s
  | cons t rest =>
    dsimp only
    split
    · exact moveTo_bind (htokens ▸ List.suffix_cons t rest) hs hroom (.pure _)
    · exact .pure false s

theorem takeUpTo (count : Nat) (p : Char → Bool) : Steady asked all spare (Reading.takeUpTo count p) := by
  intro s hs hroom
  unfold Reading.takeUpTo
  simp only [StateT.run_bind, StateT.run_get, pure_bind]
  split
  · exact moveTo_bind (List.drop_suffix _ _) hs hroom (.pure _)
  · exact .pure _ s

theorem nameUntil (close : Char) (what : String) :
    Steady asked all spare (Reading.nameUntil close what) := by
  intro s hs hroom
  unfold Reading.nameUntil
  simp only [StateT.run_bind, StateT.run_get, pure_bind]
  split
  · exact moveTo_bind List.nil_suffix hs hroom (.ite (fun _ => .fail _ _) fun _ => .fail _ _)
  · next t rest hdrop =>
    have hrest : rest <:+ s.tokens :=
      (List.suffix_cons t rest).trans (hdrop ▸ List.drop_suffix _ _)
    exact moveTo_bind hrest hs hroom (.ite (fun _ => .bind (.fail _ _) fun _ => .pure _) fun _ => .pure _)

end Steady

end Cabinet.Pattern

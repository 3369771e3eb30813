/-!
Sequences of computations that may fail: what it takes for all of them to succeed.
-/

namespace Cabinet

variable {ε α β γ : Type}

@[simp] theorem ok_bind (a : α) (next : α → Except ε β) : (Except.ok a >>= next) = next a := rfl

@[simp] theorem error_bind (e : ε) (next : α → Except ε β) :
    (Except.error e >>= next) = Except.error e := rfl

@[simp] theorem throw_eq_error (e : ε) : (throw e : Except ε α) = Except.error e := rfl

@[simp] theorem pure_eq_ok (a : α) : (pure a : Except ε α) = Except.ok a := rfl

theorem bind_eq_ok_iff {x : Except ε α} {next : α → Except ε β} {b : β} :
    (x >>= next) = .ok b ↔ ∃ a, x = .ok a ∧ next a = .ok b := by
  cases x with
  | ok a => simp
  | error e => simp

/-- Of two computations in a row, one fails where both together do. -/
theorem bind_eq_error {x : Except ε α} {next : α → Except ε β} {e : ε} (h : x >>= next = .error e) :
    x = .error e ∨ ∃ a, x = .ok a ∧ next a = .error e := by
  cases x with
  | error e' => exact .inl (by simpa using h)
  | ok a => exact .inr ⟨a, rfl, h⟩

theorem eq_ok_of_toOption {x : Except ε α} {a : α} (h : x.toOption = some a) : x = .ok a := by
  cases x with
  | ok b => exact congrArg Except.ok (Option.some.inj h)
  | error e => simp [Except.toOption] at h

/-- A check that was passed. -/
theorem check_eq_ok_iff {c : Prop} [Decidable c] {e : ε} {refused : α → Except ε β}
    {rest : Except ε β} {b : β} :
    (if c then (Except.error e : Except ε α) >>= refused else rest) = .ok b ↔ ¬c ∧ rest = .ok b := by
  split <;> simp_all

/-- What there is after a computation on what there may be was computed. -/
theorem of_mapM_eq_ok {f : α → Except ε β} {a? : Option α} {b? : Option β} (h : a?.mapM f = .ok b?)
    {b : β} (hb : b ∈ b?) : ∃ a, f a = .ok b := by
  cases a? with
  | none => simp_all
  | some a =>
    obtain ⟨b', hb', h⟩ := bind_eq_ok_iff.mp h
    exact ⟨a, by simp_all⟩

/-- What holds at the beginning and is kept by each step holds at the end. -/
theorem foldlM_invariant {P : β → Prop} {f : β → α → Except ε β} {items : List α} {b b' : β}
    (hb : P b) (hf : ∀ b, ∀ a ∈ items, ∀ b', P b → f b a = .ok b' → P b')
    (h : items.foldlM f b = .ok b') : P b' := by
  induction items generalizing b with
  | nil => exact Except.ok.inj h ▸ hb
  | cons a rest ih =>
    rw [List.foldlM_cons] at h
    obtain ⟨c, hc, h⟩ := bind_eq_ok_iff.mp h
    have hPc := hf b a List.mem_cons_self c hb hc
    exact ih hPc (fun b a ha => hf b a (List.mem_cons_of_mem _ ha)) h

theorem filterAuxM_eq_ok {f : α → Except ε Bool} {p : α → Bool} {items acc kept : List α}
    (hf : ∀ a ∈ items, ∀ b, f a = .ok b → b = p a) (h : items.filterAuxM f acc = .ok kept) :
    kept.reverse = acc.reverse ++ items.filter p := by
  induction items generalizing acc with
  | nil =>
    obtain rfl := Except.ok.inj h
    simp
  | cons a rest ih =>
    rw [List.filterAuxM] at h
    obtain ⟨b, hb, h⟩ := bind_eq_ok_iff.mp h
    rw [ih (fun a ha => hf a (List.mem_cons_of_mem _ ha)) h, hf a List.mem_cons_self b hb]
    cases hp : p a <;> simp [hp]

/-- A selection by a test that may fail is one by what the test answers. -/
theorem filterM_eq_ok {f : α → Except ε Bool} {p : α → Bool} {items kept : List α}
    (hf : ∀ a ∈ items, ∀ b, f a = .ok b → b = p a) (h : items.filterM f = .ok kept) :
    kept = items.filter p := by
  obtain ⟨reversed, hreversed, h⟩ := bind_eq_ok_iff.mp h
  obtain rfl := Except.ok.inj h
  simpa using filterAuxM_eq_ok hf hreversed

theorem filterAuxM_ok {f : α → Except ε Bool} {p : α → Bool} {items : List α}
    (h : ∀ a ∈ items, f a = .ok (p a)) (acc : List α) :
    List.filterAuxM f items acc = .ok ((items.filter p).reverse ++ acc) := by
  induction items generalizing acc with
  | nil => rfl
  | cons a rest ih =>
    obtain ⟨hhead, hrest⟩ := List.forall_mem_cons.mp h
    rw [List.filterAuxM, hhead, ok_bind, ih hrest]
    cases hp : p a <;> simp [hp]

/-- Where a test always has a result, those are kept that pass it. -/
theorem filterM_ok {f : α → Except ε Bool} {p : α → Bool} {items : List α}
    (h : ∀ a ∈ items, f a = .ok (p a)) : items.filterM f = .ok (items.filter p) := by
  rw [List.filterM, filterAuxM_ok h, ok_bind, pure_eq_ok]
  simp

theorem filterAuxM_eq_error {f : α → Except ε Bool} {items acc : List α} {e : ε}
    (h : items.filterAuxM f acc = .error e) : ∃ a ∈ items, f a = .error e := by
  induction items generalizing acc with
  | nil => cases h
  | cons a rest ih =>
    rcases bind_eq_error h with h | ⟨b, -, h⟩
    · exact ⟨a, List.mem_cons_self, h⟩
    · obtain ⟨c, hc, hf⟩ := ih h
      exact ⟨c, List.mem_cons_of_mem a hc, hf⟩

/-- A selection fails only where its test does. -/
theorem filterM_eq_error {f : α → Except ε Bool} {items : List α} {e : ε}
    (h : items.filterM f = .error e) : ∃ a ∈ items, f a = .error e := by
  rcases bind_eq_error h with h | ⟨kept, -, h⟩
  · exact filterAuxM_eq_error h
  · cases h

/-- Each of the results is that of one of the items. -/
theorem exists_of_mapM_eq_ok {f : α → Except ε β} {items : List α} {results : List β}
    (h : items.mapM f = .ok results) : ∀ b ∈ results, ∃ a ∈ items, f a = .ok b := by
  induction items generalizing results with
  | nil =>
    obtain rfl := Except.ok.inj h
    exact fun b hb => absurd hb List.not_mem_nil
  | cons a rest ih =>
    rw [List.mapM_cons] at h
    obtain ⟨b, hb, h⟩ := bind_eq_ok_iff.mp h
    obtain ⟨others, hothers, h⟩ := bind_eq_ok_iff.mp h
    obtain rfl := Except.ok.inj h
    refine List.forall_mem_cons.mpr ⟨⟨a, List.mem_cons_self, hb⟩, fun b' hb' => ?_⟩
    obtain ⟨a', ha', hf⟩ := ih hothers b' hb'
    exact ⟨a', List.mem_cons_of_mem a ha', hf⟩

/-- What each computation keeps of its item, all of them keep of the items. -/
theorem map_eq_of_mapM_eq_ok {f : α → Except ε β} {g : β → γ} {k : α → γ} {items : List α}
    {results : List β} (hf : ∀ a b, f a = .ok b → g b = k a) (h : items.mapM f = .ok results) :
    results.map g = items.map k := by
  induction items generalizing results with
  | nil =>
    obtain rfl := Except.ok.inj h
    rfl
  | cons a rest ih =>
    rw [List.mapM_cons] at h
    obtain ⟨b, hb, h⟩ := bind_eq_ok_iff.mp h
    obtain ⟨others, hothers, h⟩ := bind_eq_ok_iff.mp h
    obtain rfl := Except.ok.inj h
    rw [List.map_cons, List.map_cons, hf a b hb, ih hothers]

/-- What is taken apart and put together again one by one is the same as before. -/
theorem mapM_map_eq_ok {f : β → Except ε γ} {g : α → β} {k : α → γ} {items : List α}
    (h : ∀ a ∈ items, f (g a) = .ok (k a)) : (items.map g).mapM f = .ok (items.map k) := by
  induction items with
  | nil => rfl
  | cons a rest ih =>
    have hrest := ih fun b hb => h b (List.mem_cons_of_mem a hb)
    rw [List.map_cons, List.mapM_cons, h a List.mem_cons_self, hrest]
    rfl

theorem mapM_zipIdx_map_eq_ok {f : β × Nat → Except ε γ} {g : α → β} {k : α → γ} {items : List α}
    (start : Nat) (h : ∀ a ∈ items, ∀ i, f (g a, i) = .ok (k a)) :
    ((items.map g).zipIdx start).mapM f = .ok (items.map k) := by
  induction items generalizing start with
  | nil => rfl
  | cons a rest ih =>
    have hrest := ih (start + 1) fun b hb => h b (List.mem_cons_of_mem a hb)
    rw [List.map_cons, List.zipIdx_cons, List.mapM_cons, h a List.mem_cons_self, hrest]
    rfl

end Cabinet

import Cabinet.Proofs.Name
import Cabinet.Proofs.Query.Lexeme
import Cabinet.Proofs.Query.Rendering

/-!
The lexer loses nothing: a search text is what its tokens are written in, with characters between them
that are passed over, and where it is refused no lexeme begins.
-/

namespace Cabinet

/-- A letter that lower-casing leaves alone is in the lower-case form of any text that it is in. -/
theorem Text.IsLower.mem_lower {c : Char} {s : List Char} (h : IsLower c) (hc : c ∈ s) :
    c ∈ lower s := by
  have hafter : ∀ before, c ∈ lowerAfter before s := by
    induction s with
    | nil => cases hc
    | cons d rest ih =>
      intro before
      rw [lowerAfter, List.mem_append]
      rcases List.mem_cons.mp hc with rfl | hc
      · rw [if_neg h.ne_sigma, if_neg h.ne_dotted, h.letter_eq]
        exact .inl List.mem_cons_self
      · exact .inr (ih hc _)
  exact hafter []

namespace Query

variable {e : Expectation} {n : Nat} {s l : List Char} {form : Form} {tokens : List Token}

/-! What tokens are taken for -/

/-- Whether a lexeme is taken for an operator exactly if it is one: a double sign, or a word that is
reserved in lower case. -/
structure IsTyped (kind : TokenKind) (lexeme : List Char) : Prop where
  and_iff : kind = .and ↔ lexeme = ['&', '&'] ∨ String.ofList (Text.lower lexeme) = "and"
  or_iff : kind = .or ↔ lexeme = ['|', '|'] ∨ String.ofList (Text.lower lexeme) = "or"
  not_iff : kind = .not ↔ String.ofList (Text.lower lexeme) = "not"

/-- No operator is written with a slash, a quotation mark or a colon. -/
theorem isTyped_of_mem {kind : TokenKind} {c : Char} (hc : c = '/' ∨ c = '"' ∨ c = ':') (hl : c ∈ l)
    (hand : kind ≠ .and) (hor : kind ≠ .or) (hnot : kind ≠ .not) : IsTyped kind l := by
  have hlower : Text.IsLower c := by
    rcases hc with rfl | rfl | rfl <;> exact ⟨by decide, by decide, by decide⟩
  have hword : ∀ word : String, c ∉ word.toList → String.ofList (Text.lower l) ≠ word := by
    rintro word hfree rfl
    rw [String.toList_ofList] at hfree
    exact hfree (hlower.mem_lower hl)
  have hsign : ∀ text : List Char, c ∉ text → l ≠ text := fun text hfree heq => hfree (heq ▸ hl)
  have hfree : ∀ text ∈ [['&', '&'], ['|', '|'], "and".toList, "or".toList, "not".toList], c ∉ text := by
    rcases hc with rfl | rfl | rfl <;> decide
  simp only [List.forall_mem_cons] at hfree
  obtain ⟨hands, hors, hand', hor', hnot', -⟩ := hfree
  exact ⟨iff_of_false hand (not_or.mpr ⟨hsign _ hands, hword _ hand'⟩),
    iff_of_false hor (not_or.mpr ⟨hsign _ hors, hword _ hor'⟩), iff_of_false hnot (hword _ hnot')⟩

theorem isTyped_word {c : Char} {rest : List Char} (hc : beginsWord c = true) :
    IsTyped (wordKind (c :: rest)) (c :: rest) := by
  have hands : c :: rest ≠ ['&', '&'] := by
    rintro ⟨⟩
    simp [beginsWord] at hc
  have hors : c :: rest ≠ ['|', '|'] := by
    rintro ⟨⟩
    simp [beginsWord] at hc
  simp only [wordKind]
  constructor
  all_goals split <;> simp_all

/-- The signs, which stand in the place of a clause only. -/
theorem Expectation.sign_cases {kind : TokenKind} (h : .sign kind l ∈ e.forms) : e = .clause ∧
    (kind = .and ∧ l = ['&', '&'] ∨ kind = .or ∧ l = ['|', '|'] ∨ kind = .opening ∧ l = ['('] ∨
      kind = .closing ∧ l = [')'] ∨ kind = .bang ∧ l = ['!']) := by
  cases e with
  | clause => exact ⟨rfl, by simpa [forms] using h⟩
  | value => simp [forms] at h

/-- In the place of a clause, operators and reserved words are told from all else. -/
theorem Expectation.Takes.isTyped (h : Expectation.clause.Takes form s l) : IsTyped (form.kind l) l := by
  have hmem := h.mem_forms
  cases h.spells with
  | sign kind =>
    obtain ⟨-, hsign⟩ := sign_cases hmem
    rcases hsign with ⟨rfl, rfl⟩ | ⟨rfl, rfl⟩ | ⟨rfl, rfl⟩ | ⟨rfl, rfl⟩ | ⟨rfl, rfl⟩ <;>
      exact ⟨by decide, by decide, by decide⟩
  | regex => exact isTyped_of_mem (.inl rfl) List.mem_cons_self nofun nofun nofun
  | phrase => exact isTyped_of_mem (.inr (.inl rfl)) List.mem_cons_self nofun nofun nofun
  | field => exact isTyped_of_mem (.inr (.inr rfl)) (by simp) nofun nofun nofun
  | word hc => exact isTyped_word hc
  | value => simp [forms] at hmem

/-- In the place of a value there is a word, a phrase or a regular expression, whatever the word. -/
theorem Expectation.Takes.isValue (h : Expectation.value.Takes form s l) :
    form.kind l = .term ∨ form.kind l = .phrase ∨ form.kind l = .regex := by
  have hmem := h.mem_forms
  simp only [forms, List.mem_cons, List.not_mem_nil, or_false] at hmem
  rcases hmem with rfl | rfl | rfl
  · exact .inr (.inr rfl)
  · exact .inr (.inl rfl)
  · exact .inl rfl

/-- A lexeme begins with a character that is not passed over. -/
theorem Expectation.Takes.exists_cons (h : e.Takes form s l) :
    ∃ c rest, l = c :: rest ∧ e.ignores c = false := by
  have hmem := h.mem_forms
  cases h.spells with
  | sign kind =>
    obtain ⟨rfl, hsign⟩ := sign_cases hmem
    rcases hsign with ⟨-, rfl⟩ | ⟨-, rfl⟩ | ⟨-, rfl⟩ | ⟨-, rfl⟩ | ⟨-, rfl⟩ <;>
      exact ⟨_, _, rfl, by decide⟩
  | regex => cases e <;> exact ⟨_, _, rfl, by decide⟩
  | phrase => cases e <;> exact ⟨_, _, rfl, by decide⟩
  | field hc | word hc =>
    cases e with
    | clause => exact ⟨_, _, rfl, ignores_of_beginsWord hc⟩
    | value => simp [forms] at hmem
  | value hne hword =>
    cases e with
    | clause => simp [forms] at hmem
    | value =>
      obtain ⟨c, rest, rfl⟩ := List.exists_cons_of_ne_nil hne
      refine ⟨c, rest, rfl, Bool.eq_false_iff.mpr fun hignored => ?_⟩
      have hblank : c = ' ' ∨ c = '\t' := by simpa [ignores] using hignored
      have hends := hword c List.mem_cons_self
      rcases hblank with rfl | rfl <;> simp [endsWord, Text.isBlank] at hends

/-! From one token to the next -/

/-- The characters that may stand between tokens; only some of them between a field and its value. -/
def Expectation.gapChars : Expectation → List Char
  | clause => [' ', '\t', '\r', '\n']
  | value => [' ', '\t']

theorem Expectation.ignores_iff {c : Char} : e.ignores c = true ↔ c ∈ e.gapChars := by
  cases e <;> simp [ignores, gapChars, or_assoc]

/-- How far the lexer has come: what it expects, how many characters are behind it, and which are
before it. -/
structure Cursor where
  expectation : Expectation
  position : Nat
  rest : List Char

/-- The tokens that are passed from one place in a text to a later one, each after a gap, each taken for
what is expected there. -/
inductive Lexes : Cursor → List Token → Cursor → Prop where
  | gap {e : Expectation} {n : Nat} {gap rest : List Char} (hgap : ∀ c ∈ gap, c ∈ e.gapChars) :
    Lexes ⟨e, n, gap ++ rest⟩ [] ⟨e, n + gap.length, rest⟩
  | token {e : Expectation} {n : Nat} {gap lexeme rest : List Char} {form : Form} {tokens : List Token}
    {q : Cursor} (hgap : ∀ c ∈ gap, c ∈ e.gapChars) (ht : e.Takes form (lexeme ++ rest) lexeme)
    (h : Lexes ⟨(form.kind lexeme).expects, n + gap.length + lexeme.length, rest⟩ tokens q) :
    Lexes ⟨e, n, gap ++ (lexeme ++ rest)⟩ (⟨form.kind lexeme, lexeme, n + gap.length⟩ :: tokens) q

/-- Where the lexer stops: at the end of the text, or where no lexeme begins that is expected. -/
inductive Cursor.Ends : Cursor → Option Error → Prop where
  | finished (e : Expectation) (n : Nat) : Ends ⟨e, n, []⟩ none
  | refused {e : Expectation} {c : Char} {rest : List Char} (n : Nat) (hc : c ∉ e.gapChars)
    (hnone : ∀ form ∈ e.forms, ¬form.Begins (c :: rest)) : Ends ⟨e, n, c :: rest⟩ (some (e.fault c n))

variable {p q : Cursor}

theorem Lexes.passed {c : Char} (hc : c ∈ e.gapChars) (h : Lexes ⟨e, n + 1, s⟩ tokens q) :
    Lexes ⟨e, n, c :: s⟩ tokens q := by
  cases h with
  | @gap _ _ gap rest hgap =>
    have hlonger : Lexes ⟨e, n, c :: gap ++ rest⟩ [] ⟨e, n + (c :: gap).length, rest⟩ :=
      .gap (List.forall_mem_cons.mpr ⟨hc, hgap⟩)
    rwa [List.length_cons, ← Nat.add_assoc, Nat.add_right_comm] at hlonger
  | token hgap ht h =>
    rw [Nat.add_right_comm n 1] at h ⊢
    exact .token (List.forall_mem_cons.mpr ⟨hc, hgap⟩) ht h

theorem tokensFrom_lexes (e : Expectation) (n : Nat) (s : List Char) :
    ∃ q, Lexes ⟨e, n, s⟩ (tokensFrom e n s).1 q ∧ q.Ends (tokensFrom e n s).2 := by
  fun_induction tokensFrom e n s with
  | case1 e n => exact ⟨⟨e, n, []⟩, .gap (List.forall_mem_nil _), .finished e n⟩
  | case2 e n c rest hc ih =>
    obtain ⟨q, hlexes, hends⟩ := ih
    exact ⟨q, hlexes.passed (Expectation.ignores_iff.mp hc), hends⟩
  | case3 e n c rest hc hnone =>
    refine ⟨⟨e, n, c :: rest⟩, .gap (List.forall_mem_nil _), .refused n ?_ ?_⟩
    · exact fun hgap => hc (Expectation.ignores_iff.mpr hgap)
    · exact Expectation.token?_eq_none_iff.mp hnone
  | case4 e n c rest hc kind lexeme htoken tokens fault hrest ih =>
    obtain ⟨form, ht, rfl⟩ := Expectation.token?_eq_some_iff.mp htoken
    obtain ⟨d, word, rfl, -⟩ := ht.exists_cons
    obtain ⟨after, hafter⟩ := ht.here
    obtain ⟨rfl, rfl⟩ := List.cons.inj hafter
    have hdrop : (word ++ after).drop ((d :: word).length - 1) = after := List.drop_left
    obtain ⟨q, hlexes, hends⟩ := ih
    rw [hrest, List.append_eq, hdrop] at hlexes
    rw [hrest] at hends
    exact ⟨q, .token (List.forall_mem_nil _) ht hlexes, hends⟩

theorem tokensFrom_gap {gap : List Char} (hgap : ∀ c ∈ gap, c ∈ e.gapChars) (n : Nat) (s : List Char) :
    tokensFrom e n (gap ++ s) = tokensFrom e (n + gap.length) s := by
  induction gap generalizing n with
  | nil => rfl
  | cons c gap ih =>
    obtain ⟨hc, hgap⟩ := List.forall_mem_cons.mp hgap
    rw [List.cons_append, tokensFrom, if_pos (Expectation.ignores_iff.mpr hc), ih hgap, List.length_cons,
      Nat.add_assoc, Nat.add_comm 1]

/-- No other tokens are there than those that the lexer finds. -/
theorem Lexes.tokensFrom_eq {fault? : Option Error} (h : Lexes p tokens q) (hq : q.Ends fault?) :
    tokensFrom p.expectation p.position p.rest = (tokens, fault?) := by
  induction h with
  | @gap e n gap rest hgap =>
    dsimp only
    rw [tokensFrom_gap hgap]
    cases hq with
    | finished => rw [tokensFrom]
    | refused _ hc hnone =>
      rw [tokensFrom, if_neg (mt Expectation.ignores_iff.mp hc),
        Expectation.token?_eq_none_iff.mpr hnone]
  | @token e n gap lexeme rest form tokens q hgap ht _ ih =>
    dsimp only at ih ⊢
    obtain ⟨c, word, rfl, hc⟩ := ht.exists_cons
    have htoken := Expectation.token?_eq_some_iff.mpr ⟨form, ht, rfl⟩
    rw [List.cons_append] at htoken
    rw [tokensFrom_gap hgap, List.cons_append, tokensFrom, if_neg (Bool.eq_false_iff.mp hc), htoken]
    dsimp only
    rw [List.length_cons, Nat.add_sub_cancel, List.drop_left, ← List.length_cons, ih hq]

/-- What is expected after some tokens. -/
def expectedAfter (tokens : List Token) (e : Expectation) : Expectation :=
  (tokens.getLast?.map (·.kind.expects)).getD e

theorem expectedAfter_cons (t : Token) (tokens : List Token) (e : Expectation) :
    expectedAfter (t :: tokens) e = expectedAfter tokens t.kind.expects := by
  cases tokens with
  | nil => rfl
  | cons u tokens => rw [expectedAfter, expectedAfter, List.getLast?_cons_cons, List.getLast?_cons]; rfl

/-- The text of tokens with the gaps before them. -/
def layout (pieces : List (List Char × Token)) : List Char :=
  pieces.flatMap fun (gap, t) => gap ++ t.lexeme

/-- Tokens that are laid out from a position on, each at its own, with such gaps before them as may
be there. -/
def AreLaid : Expectation → Nat → List (List Char × Token) → Prop
  | _, _, [] => True
  | e, n, (gap, t) :: rest => (∀ c ∈ gap, c ∈ e.gapChars) ∧ t.position = n + gap.length ∧
    AreLaid t.kind.expects (t.position + t.lexeme.length) rest

/-- The text that has been passed is that of the tokens, with gaps before them and after the last. -/
theorem Lexes.exists_layout (h : Lexes p tokens q) : ∃ pieces last, pieces.map (·.2) = tokens ∧
    p.rest = layout pieces ++ (last ++ q.rest) ∧
    q.position = p.position + (layout pieces ++ last).length ∧
    q.expectation = expectedAfter tokens p.expectation ∧ AreLaid p.expectation p.position pieces ∧
    ∀ c ∈ last, c ∈ q.expectation.gapChars := by
  induction h with
  | @gap e n gap rest hgap => exact ⟨[], gap, rfl, rfl, rfl, rfl, trivial, hgap⟩
  | @token e n gap lexeme rest form tokens q hgap ht _ ih =>
    obtain ⟨pieces, last, rfl, hrest, hposition, hexpects, hlaid, hlast⟩ := ih
    refine ⟨(gap, ⟨form.kind lexeme, lexeme, n + gap.length⟩) :: pieces, last, rfl, ?_, ?_, ?_,
      ⟨hgap, rfl, hlaid⟩, hlast⟩
    · dsimp only at hrest
      simp [layout, hrest]
    · rw [hposition]
      simp [layout, Nat.add_assoc]
    · rw [hexpects, expectedAfter_cons]

/-- Each token is taken for what is expected after those before it. -/
theorem Lexes.exists_takes (h : Lexes p tokens q) {before after : List Token} {t : Token}
    (ht : tokens = before ++ t :: after) :
    ∃ form s, (expectedAfter before p.expectation).Takes form s t.lexeme ∧
      form.kind t.lexeme = t.kind := by
  induction h generalizing before with
  | gap => simp at ht
  | @token e n gap lexeme rest form tokens q hgap htakes _ ih =>
    cases before with
    | nil =>
      obtain ⟨rfl, -⟩ := List.cons.inj ht
      exact ⟨form, _, htakes, rfl⟩
    | cons u before =>
      obtain ⟨rfl, htail⟩ := List.cons.inj ht
      obtain ⟨form', s', htakes', hkind⟩ := ih htail
      exact ⟨form', s', (expectedAfter_cons _ before e).symm ▸ htakes', hkind⟩

/-- Tokens come one behind another. -/
theorem Lexes.ascending (h : Lexes p tokens q) : (∀ t ∈ tokens, p.position ≤ t.position) ∧
    tokens.Pairwise fun t u => t.position < u.position := by
  induction h with
  | gap => exact ⟨List.forall_mem_nil _, .nil⟩
  | @token e n gap lexeme rest form tokens q hgap ht _ ih =>
    obtain ⟨c, word, rfl, -⟩ := ht.exists_cons
    obtain ⟨hbehind, hpairwise⟩ := ih
    dsimp only [List.length_cons] at hbehind ⊢
    refine ⟨List.forall_mem_cons.mpr ⟨Nat.le_add_right .., fun t ht => ?_⟩,
      List.pairwise_cons.mpr ⟨fun t ht => ?_, hpairwise⟩⟩
    · have hle := hbehind t ht
      omega
    · have hle := hbehind t ht
      dsimp only
      omega

theorem tokenize_eq_ok_iff : tokenize s = .ok tokens ↔ tokensFrom .clause 0 s = (tokens, none) := by
  unfold tokenize
  split <;> simp_all

theorem tokenize_eq_error_iff {fault : Error} :
    tokenize s = .error fault ↔ ∃ tokens, tokensFrom .clause 0 s = (tokens, some fault) := by
  unfold tokenize
  split <;> simp_all

theorem tokensFrom_eq_iff {fault? : Option Error} : tokensFrom e n s = (tokens, fault?) ↔
    ∃ q, Lexes ⟨e, n, s⟩ tokens q ∧ q.Ends fault? := by
  constructor
  · intro h
    have hlexes := tokensFrom_lexes e n s
    rwa [h] at hlexes
  · rintro ⟨q, hlexes, hends⟩
    exact hlexes.tokensFrom_eq hends

/-- The tokens of a search text are those that are found from its beginning to its end: each is taken
for the first form of a lexeme, and the longest, that is expected where it begins. They come one
behind another and are all of the text but for gaps, which after the name of a field are spaces and
tabs; after such a name comes a value, if anything, whatever its word; and everywhere else a word is
an operator exactly if it is reserved. A text is refused where no lexeme begins that is expected
there, and nowhere else. -/
theorem tokenize_loses_nothing (s : List Char) :
    (∀ tokens, tokenize s = .ok tokens ↔ ∃ e n, Lexes ⟨.clause, 0, s⟩ tokens ⟨e, n, []⟩) ∧
    (∀ tokens, tokenize s = .ok tokens →
      (tokens.Pairwise fun t u => t.position < u.position) ∧
      (∃ pieces last, pieces.map (·.2) = tokens ∧ s = layout pieces ++ last ∧
        AreLaid .clause 0 pieces ∧ ∀ c ∈ last, c ∈ (expectedAfter tokens .clause).gapChars) ∧
      (∀ before f t after, tokens = before ++ f :: t :: after → f.kind = .field →
        t.kind = .term ∨ t.kind = .phrase ∨ t.kind = .regex) ∧
      ∀ before t after, tokens = before ++ t :: after → (∀ f ∈ before.getLast?, f.kind ≠ .field) →
        IsTyped t.kind t.lexeme) ∧
    ∀ fault, tokenize s = .error fault ↔ ∃ tokens read c rest,
      s = read ++ c :: rest ∧ fault = (expectedAfter tokens .clause).fault c read.length ∧
      Lexes ⟨.clause, 0, s⟩ tokens ⟨expectedAfter tokens .clause, read.length, c :: rest⟩ ∧
      c ∉ (expectedAfter tokens .clause).gapChars ∧
      ∀ form ∈ (expectedAfter tokens .clause).forms, ¬form.Begins (c :: rest) := by
  have hok : ∀ tokens, tokenize s = .ok tokens ↔ ∃ e n, Lexes ⟨.clause, 0, s⟩ tokens ⟨e, n, []⟩ := by
    intro tokens
    rw [tokenize_eq_ok_iff, tokensFrom_eq_iff]
    constructor
    · rintro ⟨q, hlexes, ⟨e, n⟩⟩
      exact ⟨e, n, hlexes⟩
    · rintro ⟨e, n, hlexes⟩
      exact ⟨_, hlexes, .finished e n⟩
  refine ⟨hok, fun tokens htokens => ?_, fun fault => ?_⟩
  · obtain ⟨e, n, hlexes⟩ := (hok tokens).mp htokens
    refine ⟨hlexes.ascending.2, ?_, ?_, ?_⟩
    · obtain ⟨pieces, last, htokens, hrest, -, hexpects, hlaid, hlast⟩ := hlexes.exists_layout
      exact ⟨pieces, last, htokens, by simpa using hrest, hlaid, hexpects ▸ hlast⟩
    · intro before f t after heq hf
      have htokens : tokens = (before ++ [f]) ++ t :: after := by simp [heq]
      obtain ⟨form, s', htakes, hkind⟩ := hlexes.exists_takes htokens
      have hexpects : expectedAfter (before ++ [f]) .clause = .value := by
        simp [expectedAfter, hf, TokenKind.expects]
      exact hkind ▸ (hexpects ▸ htakes).isValue
    · intro before t after heq hfield
      obtain ⟨form, s', htakes, hkind⟩ := hlexes.exists_takes heq
      have hexpects : expectedAfter before .clause = .clause := by
        unfold expectedAfter
        cases hlast : before.getLast? with
        | none => rfl
        | some f =>
          have hf := hfield f hlast
          cases hk : f.kind <;> simp_all [TokenKind.expects]
      exact hkind ▸ (hexpects ▸ htakes).isTyped
  · -- The position of the fault and what is expected there are those of the cursor at which the
    -- lexemes end; the layout of the tokens read before it tells both.
    rw [tokenize_eq_error_iff]
    simp only [tokensFrom_eq_iff]
    constructor
    · rintro ⟨tokens, q, hlexes, hends⟩
      obtain ⟨pieces, last, -, hrest, hposition, hexpects, -⟩ := hlexes.exists_layout
      cases hends with
      | @refused e c rest n hc hnone =>
        dsimp only at hrest hposition hexpects
        rw [Nat.zero_add] at hposition
        subst hexpects hposition
        exact ⟨tokens, layout pieces ++ last, c, rest, by simpa using hrest, rfl, hlexes, hc, hnone⟩
    · rintro ⟨tokens, read, c, rest, rfl, rfl, hlexes, hc, hnone⟩
      exact ⟨tokens, _, hlexes, .refused _ hc hnone⟩

end Query

end Cabinet

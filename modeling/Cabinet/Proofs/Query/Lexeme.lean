import Cabinet.Query.Lexer
import Mathlib.Data.List.TakeWhile

/-!
The forms of lexemes as sets of texts, apart from the lexer. Where a text begins with a lexeme of some
form, the lexer takes the longest one of the first form that has any; where it takes none, there is
none.
-/

namespace Cabinet.Query

/-- What may stand before a delimiter: neither the delimiter nor a backslash, but for pairs of a
backslash and a character that ends no line. -/
inductive Body (delimiter : Char) : List Char → Prop where
  | nil : Body delimiter []
  | plain {c : Char} {s : List Char} (hslash : c ≠ '\\') (hc : c ≠ delimiter) (h : Body delimiter s) :
    Body delimiter (c :: s)
  | escaped {c : Char} {s : List Char} (hc : c ≠ '\n') (h : Body delimiter s) :
    Body delimiter ('\\' :: c :: s)

/-- The forms of lexemes. -/
inductive Form where
  | sign (kind : TokenKind) (text : List Char)
  | regex
  | phrase
  | field
  | word
  | value
  deriving DecidableEq

/-- The forms that are tried where something is expected, one after another. -/
def Expectation.forms : Expectation → List Form
  | clause => [.sign .and ['&', '&'], .sign .or ['|', '|'], .regex, .phrase, .field, .word,
      .sign .opening ['('], .sign .closing [')'], .sign .bang ['!']]
  | value => [.regex, .phrase, .value]

namespace Form

/-- The texts that are lexemes of a form. -/
inductive Spells : Form → List Char → Prop where
  | sign (kind : TokenKind) (text : List Char) : Spells (sign kind text) text
  | regex {body : List Char} (h : Body '/' body) (hne : body ≠ []) :
    Spells regex ('/' :: (body ++ ['/']))
  | phrase {body : List Char} (h : Body '"' body) : Spells phrase ('"' :: (body ++ ['"']))
  | field {c : Char} {name : List Char} (hc : beginsWord c = true)
    (h : ∀ d ∈ name, endsWord d = false ∧ d ≠ ':') : Spells field (c :: (name ++ [':']))
  | word {c : Char} {rest : List Char} (hc : beginsWord c = true)
    (h : ∀ d ∈ rest, endsWord d = false) : Spells word (c :: rest)
  | value {word : List Char} (hne : word ≠ []) (h : ∀ d ∈ word, endsWord d = false) :
    Spells value word

/-- The kind of the token that a lexeme is. -/
def kind : Form → List Char → TokenKind
  | sign kind _, _ => kind
  | regex, _ => .regex
  | phrase, _ => .phrase
  | field, _ => .field
  | word, lexeme => wordKind lexeme
  | value, _ => .term

/-- Whether a text begins with a lexeme of a form. -/
def Begins (form : Form) (s : List Char) : Prop :=
  ∃ lexeme, form.Spells lexeme ∧ lexeme <+: s

/-- The longest lexeme of a form that a text begins with. -/
structure Takes (form : Form) (s lexeme : List Char) : Prop where
  spells : form.Spells lexeme
  here : lexeme <+: s
  longest : ∀ other, form.Spells other → other <+: s → other.length ≤ lexeme.length

/-- The lexeme of a form that the lexer finds at the beginning of a text. -/
def lexeme? : Form → List Char → Option (List Char)
  | sign _ text, s => if text <+: s then some text else none
  | regex, s => regexLexeme? s
  | phrase, s => phraseLexeme? s
  | field, s => fieldLexeme? s
  | word, s => termLexeme? s
  | value, s => valueLexeme? s

end Form

/-! Delimited texts -/

variable {delimiter : Char} {s l lexeme body rest : List Char}

theorem untilDelimiter?_append (hd : delimiter ≠ '\\') (h : Body delimiter body) (rest : List Char) :
    untilDelimiter? delimiter (body ++ delimiter :: rest) = some (body ++ [delimiter]) := by
  induction h with
  | nil => simp [untilDelimiter?, hd]
  | plain hslash hc _ ih => simp [untilDelimiter?, hslash, hc, ih]
  | escaped hc _ ih => simp [untilDelimiter?, hc, ih]

theorem of_untilDelimiter? (h : untilDelimiter? delimiter s = some l) :
    ∃ body rest, Body delimiter body ∧ l = body ++ [delimiter] ∧ s = body ++ delimiter :: rest := by
  fun_induction untilDelimiter? delimiter s generalizing l with
  | case1 => simp at h
  | case2 => simp at h
  | case3 => simp at h
  | case4 c s hc ih =>
    obtain ⟨l', hl', rfl⟩ := Option.map_eq_some_iff.mp h
    obtain ⟨body, rest, hbody, rfl, rfl⟩ := ih hl'
    exact ⟨'\\' :: c :: body, rest, .escaped hc hbody, rfl, rfl⟩
  | case5 s =>
    obtain rfl := Option.some.inj h
    exact ⟨[], s, .nil, rfl, rfl⟩
  | case6 c s hlast hpair hc ih =>
    obtain ⟨l', hl', rfl⟩ := Option.map_eq_some_iff.mp h
    obtain ⟨body, rest, hbody, rfl, hs⟩ := ih hl'
    have hslash : c ≠ '\\' := by
      intro hc
      cases s with
      | nil => exact hlast hc rfl
      | cons d s => exact hpair d s hc rfl
    exact ⟨c :: body, rest, .plain hslash hc hbody, rfl, by rw [hs, List.cons_append]⟩

/-- What a text begins with, and the character after it. -/
theorem concat_prefix {c : Char} (h : l <+: s) (hc : s[l.length]? = some c) : l ++ [c] <+: s := by
  obtain ⟨rest, rfl⟩ := h
  rw [List.getElem?_append_right (Nat.le_refl _), Nat.sub_self] at hc
  cases rest with
  | nil => simp at hc
  | cons d rest =>
    obtain rfl := Option.some.inj hc
    exact ⟨rest, by simp⟩

/-! Lexemes at the beginning of a text -/

namespace Form

variable {form : Form}

/-- What the lexer finds is a lexeme of the form. -/
theorem spells_of_lexeme? (h : form.lexeme? s = some lexeme) : form.Spells lexeme ∧ lexeme <+: s := by
  -- In each form the condition of the `if` is what the lexeme begins with, and what is taken by
  -- `takeWhile` or up to a delimiter is its body.
  cases form with
  | sign kind text =>
    obtain ⟨hstart, heq⟩ := Option.ite_none_right_eq_some.mp h
    obtain rfl := Option.some.inj heq
    exact ⟨.sign kind text, hstart⟩
  | regex =>
    simp only [lexeme?] at h
    unfold regexLexeme? at h
    split at h
    · split at h
      · simp at h
      · next l hne huntil =>
        obtain rfl := Option.some.inj h
        obtain ⟨body, rest, hbody, rfl, rfl⟩ := of_untilDelimiter? huntil
        refine ⟨.regex hbody ?_, ⟨rest, by simp⟩⟩
        rintro rfl
        exact hne rfl
      · simp at h
    · simp at h
  | phrase =>
    simp only [lexeme?] at h
    unfold phraseLexeme? at h
    split at h
    · obtain ⟨l, huntil, rfl⟩ := Option.map_eq_some_iff.mp h
      obtain ⟨body, rest, hbody, rfl, rfl⟩ := of_untilDelimiter? huntil
      exact ⟨.phrase hbody, ⟨rest, by simp⟩⟩
    · simp at h
  | field =>
    simp only [lexeme?] at h
    unfold fieldLexeme? at h
    split at h
    · next c s =>
      split at h
      · next hbegins =>
        dsimp only at h
        split at h
        · next hcolon =>
          obtain rfl := Option.some.inj h
          have hstart := concat_prefix (List.takeWhile_prefix _) hcolon
          refine ⟨.field hbegins fun d hd => ?_, (List.prefix_cons_inj c).mpr hstart⟩
          simpa using List.mem_takeWhile_imp hd
        · simp at h
      · simp at h
    · simp at h
  | word =>
    simp only [lexeme?] at h
    unfold termLexeme? at h
    split at h
    · next c s =>
      obtain ⟨hbegins, heq⟩ := Option.ite_none_right_eq_some.mp h
      obtain rfl := Option.some.inj heq
      refine ⟨.word hbegins fun d hd => ?_, ?_⟩
      · simpa using List.mem_takeWhile_imp hd
      · exact (List.prefix_cons_inj c).mpr (List.takeWhile_prefix _)
    · simp at h
  | value =>
    simp only [lexeme?] at h
    unfold valueLexeme? at h
    split at h
    · simp at h
    · next hne =>
      obtain rfl := Option.some.inj h
      refine ⟨.value hne fun d hd => ?_, List.takeWhile_prefix _⟩
      simpa using List.mem_takeWhile_imp hd

/-- Where there is a lexeme of the form, the lexer finds one that is no shorter. -/
theorem Spells.exists_lexeme? (h : form.Spells l) (hs : l <+: s) :
    ∃ lexeme, form.lexeme? s = some lexeme ∧ l.length ≤ lexeme.length := by
  cases h with
  | sign kind => exact ⟨_, if_pos hs, Nat.le_refl _⟩
  | @regex body hbody hne =>
    obtain ⟨rest, rfl⟩ := hs
    have huntil := untilDelimiter?_append (by decide) hbody rest
    refine ⟨_, ?_, Nat.le_refl _⟩
    simp [lexeme?, regexLexeme?, huntil, hne]
  | @phrase body hbody =>
    obtain ⟨rest, rfl⟩ := hs
    have huntil := untilDelimiter?_append (by decide) hbody rest
    refine ⟨_, ?_, Nat.le_refl _⟩
    simp [lexeme?, phraseLexeme?, huntil]
  | @field c name hc hname =>
    obtain ⟨rest, rfl⟩ := hs
    have htake : (name ++ ':' :: rest).takeWhile (fun d => !endsWord d && d != ':') = name := by
      rw [List.takeWhile_append_of_pos (by simpa using hname)]
      simp
    refine ⟨_, ?_, Nat.le_refl _⟩
    simp [lexeme?, fieldLexeme?, hc, htake]
  | @word c word hc hword =>
    obtain ⟨rest, rfl⟩ := hs
    have htake : (word ++ rest).takeWhile (!endsWord ·) = word ++ rest.takeWhile (!endsWord ·) :=
      List.takeWhile_append_of_pos (by simpa using hword)
    refine ⟨_, if_pos hc, ?_⟩
    rw [List.append_eq, htake]
    simp
  | value hne hword =>
    obtain ⟨rest, rfl⟩ := hs
    have htake : (l ++ rest).takeWhile (!endsWord ·) = l ++ rest.takeWhile (!endsWord ·) :=
      List.takeWhile_append_of_pos (by simpa using hword)
    refine ⟨l ++ rest.takeWhile (!endsWord ·), ?_, by simp⟩
    rw [lexeme?, valueLexeme?, htake]
    split
    · simp_all
    · rfl

/-- The lexer finds the longest lexeme of a form. -/
theorem lexeme?_eq_some_iff : form.lexeme? s = some lexeme ↔ form.Takes s lexeme := by
  constructor
  · intro h
    obtain ⟨hspells, hstart⟩ := spells_of_lexeme? h
    refine ⟨hspells, hstart, fun other hother hs => ?_⟩
    obtain ⟨found, hfound, hle⟩ := hother.exists_lexeme? hs
    obtain rfl := Option.some.inj (h.symm.trans hfound)
    exact hle
  · rintro ⟨hspells, hstart, hlongest⟩
    obtain ⟨found, hfound, hle⟩ := hspells.exists_lexeme? hstart
    obtain ⟨hspells', hstart'⟩ := spells_of_lexeme? hfound
    have hlength : found.length = lexeme.length := Nat.le_antisymm (hlongest found hspells' hstart') hle
    rw [hfound, (List.prefix_of_prefix_length_le hstart' hstart hlength.le).eq_of_length hlength]

theorem lexeme?_eq_none_iff : form.lexeme? s = none ↔ ¬form.Begins s := by
  constructor
  · rintro h ⟨l, hspells, hstart⟩
    obtain ⟨lexeme, hlexeme, -⟩ := hspells.exists_lexeme? hstart
    exact nomatch h.symm.trans hlexeme
  · intro h
    rw [Option.eq_none_iff_forall_ne_some]
    exact fun l hl => h ⟨l, spells_of_lexeme? hl⟩

end Form

namespace Expectation

variable {expectation : Expectation} {form : Form} {kind : TokenKind}

/-- The lexeme that is taken where something is expected: one of the first form that has any. -/
structure Takes (expectation : Expectation) (form : Form) (s lexeme : List Char) : Prop
    extends form.Takes s lexeme where
  first : ∃ before after, expectation.forms = before ++ form :: after ∧
    ∀ other ∈ before, ¬other.Begins s

/-- The forms are tried in order. -/
theorem token?_eq_findSome? (expectation : Expectation) (s : List Char) :
    expectation.token? s =
      expectation.forms.findSome? fun form => (form.lexeme? s).map fun l => (form.kind l, l) := by
  cases expectation with
  | value =>
    simp only [token?, valueToken?, delimited?, forms, List.findSome?_cons, List.findSome?_nil,
      Form.lexeme?, Form.kind]
    cases regexLexeme? s <;> cases phraseLexeme? s <;> cases valueLexeme? s <;> rfl
  | clause =>
    simp only [token?, forms, List.findSome?_cons, List.findSome?_nil, Form.lexeme?, Form.kind]
    unfold clauseToken?
    split
    · simp
    · simp
    · simp [regexLexeme?, phraseLexeme?, fieldLexeme?, termLexeme?, beginsWord, endsWord]
    · simp [regexLexeme?, phraseLexeme?, fieldLexeme?, termLexeme?, beginsWord, endsWord]
    · simp [regexLexeme?, phraseLexeme?, fieldLexeme?, termLexeme?, beginsWord, endsWord]
    · next hand hor hopening hclosing hbang =>
      have hnone : ∀ text : List Char, (∀ rest, s ≠ text ++ rest) → ¬text <+: s := fun text hno =>
        not_exists.mpr fun rest h => hno rest h.symm
      rw [if_neg (hnone ['&', '&'] hand), if_neg (hnone ['|', '|'] hor), if_neg (hnone ['('] hopening),
        if_neg (hnone [')'] hclosing), if_neg (hnone ['!'] hbang), delimited?]
      cases regexLexeme? s <;> cases phraseLexeme? s <;> cases fieldLexeme? s <;>
        cases termLexeme? s <;> rfl

theorem token?_eq_some_iff : expectation.token? s = some (kind, lexeme) ↔
    ∃ form, expectation.Takes form s lexeme ∧ form.kind lexeme = kind := by
  rw [token?_eq_findSome?, List.findSome?_eq_some_iff]
  simp only [Option.map_eq_some_iff, Option.map_eq_none_iff, Form.lexeme?_eq_some_iff,
    Form.lexeme?_eq_none_iff, Prod.mk.injEq]
  constructor
  · rintro ⟨before, form, after, hforms, ⟨l, htakes, hkind, rfl⟩, hbefore⟩
    exact ⟨form, ⟨htakes, before, after, hforms, hbefore⟩, hkind⟩
  · rintro ⟨form, htakes, hkind⟩
    obtain ⟨before, after, hforms, hbefore⟩ := htakes.first
    exact ⟨before, form, after, hforms, ⟨lexeme, htakes.toTakes, hkind, rfl⟩, hbefore⟩

theorem token?_eq_none_iff :
    expectation.token? s = none ↔ ∀ form ∈ expectation.forms, ¬form.Begins s := by
  simp only [token?_eq_findSome?, List.findSome?_eq_none_iff, Option.map_eq_none_iff,
    Form.lexeme?_eq_none_iff]

theorem Takes.mem_forms (h : expectation.Takes form s lexeme) : form ∈ expectation.forms := by
  obtain ⟨before, after, hforms, -⟩ := h.first
  rw [hforms]
  exact List.mem_append_right before List.mem_cons_self

end Expectation

end Cabinet.Query

import Cabinet.Proofs.Json.Digits
import Cabinet.Proofs.Pattern.Items
import Mathlib.Data.List.Infix

/-!
Texts that are read as a pattern or refused as none: their counts are not too large, their groups are not
too many, and they do not ask for two repertoires of characters at once.
-/

namespace Cabinet.Pattern

variable {s digits rest : List Char} {t : Token} {tokens : List Token}

instance (digits : List Char) : Decidable (Fits digits) :=
  inferInstanceAs (Decidable (_ ∧ _))

/-- Whether a text does not begin with a count that is too large. -/
def beginsFit : List Char → Bool
  | mark :: rest =>
    !(mark == '\x7b' || mark == ',') || decide (Fits (rest.takeWhile Text.isAsciiDigit))
  | [] => true

/-- Whether a letter stands for a flag. -/
def isFlag (c : Char) : Bool :=
  (Flags.ofLetter? c).isSome

/-- Whether a text begins with a group that sets a flag for the whole pattern. -/
def beginsAsking (c : Char) : List Char → Bool
  | '(' :: '?' :: rest =>
    (rest.takeWhile isFlag).contains c && (rest.dropWhile isFlag).head? == some ')'
  | _ => false

/-- Whether a flag for the whole pattern is set somewhere in a text. -/
def asksFor (s : List Char) (c : Char) : Bool :=
  s.tails.any (beginsAsking c)

/-- Texts that no reader of patterns is too small for. -/
structure Modest (s : List Char) : Prop where
  counts : s.tails.all beginsFit = true
  repertoire : (asksFor s 'a' && asksFor s 'u') = false
  nesting : 2 * s.count '(' ≤ maxNesting

theorem modest_iff : Modest s ↔ s.tails.all beginsFit = true ∧
    (asksFor s 'a' && asksFor s 'u') = false ∧ 2 * s.count '(' ≤ maxNesting :=
  ⟨fun h => ⟨h.counts, h.repertoire, h.nesting⟩, fun ⟨hc, hr, hn⟩ => ⟨hc, hr, hn⟩⟩

instance (s : List Char) : Decidable (Modest s) :=
  decidable_of_iff' _ modest_iff

example : Modest "^(a|[bc]\x7b2,4\x7d)+$".toList := by decide +kernel

example : ¬Modest "x\x7b4294967295\x7d".toList := by decide +kernel

/-! The tokens of a text -/

namespace Token

theorem text_of_is {c : Char} (h : t.is c = true) : t.text = [c] := by
  obtain ⟨hplain, hc⟩ : t.escaped = false ∧ t.char = c := by simpa [is] using h
  simp [text, hplain, hc]

theorem flatMap_text {p : Char → Bool} (h : ArePlain p tokens) :
    tokens.flatMap text = tokens.map (·.char) := by
  induction tokens with
  | nil => rfl
  | cons t tokens ih =>
    obtain ⟨ht, htokens⟩ := List.forall_mem_cons.mp h
    rw [List.flatMap_cons, List.map_cons, ih htokens]
    simp [text, ht.1]

/-- The tokens are the text again, but for a lone backslash. -/
theorem text_ofChars (start : Nat) (s : List Char) :
    (ofChars start s).1.flatMap text ++ (if (ofChars start s).2 then ['\\'] else []) = s := by
  fun_induction ofChars start s with
  | case1 => rfl
  | case2 => rfl
  | case3 start c rest tokens openEnd heq ih => simpa [heq, text] using ih
  | case4 start c rest h h' tokens openEnd heq ih => simpa [heq, text] using ih

theorem is_backslash_ofChars (start : Nat) (s : List Char) :
    ∀ t ∈ (ofChars start s).1, t.is '\\' = false := by
  fun_induction ofChars start s with
  | case1 => simp
  | case2 => simp
  | case3 start c rest tokens openEnd heq ih => simpa [heq, is] using ih
  | case4 start c rest h h' tokens openEnd heq ih =>
    have hc : c ≠ '\\' := fun hc => by
      cases rest with
      | nil => exact h hc rfl
      | cons d rest => exact h' d rest hc rfl
    simpa [heq, is, hc] using ih

/-- What is left of the tokens is what is left of the text. -/
theorem suffix_text {start : Nat} (h : tokens <:+ (ofChars start s).1) :
    ∃ rest, (tokens.flatMap text ++ rest) <:+ s := by
  obtain ⟨before, hbefore⟩ := h
  have htext := text_ofChars start s
  rw [← hbefore, List.flatMap_append, List.append_assoc] at htext
  exact ⟨_, _, htext⟩

end Token

theorem openings_le (start : Nat) (s : List Char) : openings (Token.ofChars start s).1 ≤ s.count '(' := by
  have hle : ∀ tokens : List Token, openings tokens ≤ (tokens.flatMap Token.text).count '(' := by
    intro tokens
    induction tokens with
    | nil => exact Nat.le_refl 0
    | cons t tokens ih =>
      rw [openings_cons, List.flatMap_cons, List.count_append, Nat.add_comm]
      refine Nat.add_le_add ?_ ih
      split
      · next ht => rw [Token.text_of_is ht]; exact Nat.le_refl 1
      · exact Nat.zero_le _
  conv_rhs => rw [← Token.text_ofChars start s, List.count_append]
  exact (hle _).trans (Nat.le_add_right _ _)

/-! Counts and flags -/

theorem numeral_le_append (digits rest : List Char) :
    Text.numeral digits ≤ Text.numeral (digits ++ rest) := by
  induction rest using List.reverseRecOn with
  | nil => rw [List.append_nil]
  | append_singleton rest c ih =>
    rw [← List.append_assoc, Text.numeral_append]
    omega

theorem Fits.of_append (h : Fits (digits ++ rest)) : Fits digits :=
  ⟨(List.sublist_append_left _ _).length_le.trans h.1,
    (numeral_le_append digits rest).trans_lt h.2⟩

theorem beginsFit_of_suffix (h : s.tails.all beginsFit = true) {begun : List Char} (hs : begun <:+ s) :
    beginsFit begun = true :=
  List.all_eq_true.mp h begun ((List.mem_tails begun s).mpr hs)

/-- A count among the tokens is one in the text. -/
theorem fits_of_tokens {mark : Token} {start : Nat} {after before : List Token}
    (h : s.tails.all beginsFit = true)
    (hs : (mark :: (before ++ after)) <:+ (Token.ofChars start s).1)
    (hmark : mark.is '\x7b' = true ∨ mark.is ',' = true) (hplain : ArePlain Text.isAsciiDigit before) :
    Fits (before.map (·.char)) := by
  obtain ⟨rest, hrest⟩ := Token.suffix_text hs
  rw [List.flatMap_cons, List.flatMap_append, Token.flatMap_text hplain, List.append_assoc,
    List.append_assoc] at hrest
  have hdigits : ∀ c ∈ before.map (·.char), Text.isAsciiDigit c = true :=
    List.forall_mem_map.mpr fun t ht => (hplain t ht).2
  have hbegun := beginsFit_of_suffix h hrest
  rcases hmark with hmark | hmark <;>
  · rw [Token.text_of_is hmark, List.singleton_append] at hbegun
    have hfits := by simpa [beginsFit] using hbegun
    rw [List.takeWhile_append_of_pos hdigits] at hfits
    exact hfits.of_append

theorem beginsAsking_letters {c : Char} {letters : List Char} (hflags : ∀ d ∈ letters, isFlag d = true)
    (hc : c ∈ letters) : beginsAsking c ('(' :: '?' :: (letters ++ ')' :: rest)) = true := by
  have hclose : isFlag ')' = false := rfl
  simp [beginsAsking, List.takeWhile_append_of_pos hflags, List.dropWhile_append_of_pos hflags, hclose, hc]

/-- Letters that ask for a flag among the tokens ask for it in the text. -/
theorem asksFor_of_asks {start : Nat} {c : Char} (h : Asks (Token.ofChars start s).1 c) :
    asksFor s c = true := by
  obtain ⟨opened, mark, letters, stop, after, hs, hopened, hmark, hstop, hletters, l, hl, hlc⟩ := h
  obtain ⟨rest, hrest⟩ := Token.suffix_text hs
  have hplain : ArePlain isFlag letters := fun l hl => by
    have hflag := hletters l hl
    unfold flagOf? at hflag
    split at hflag
    · cases hflag
    · next hplain => exact ⟨by simpa using hplain, hflag⟩
  rw [List.flatMap_cons, List.flatMap_cons, List.flatMap_append, List.flatMap_cons,
    Token.flatMap_text hplain, Token.text_of_is hopened, Token.text_of_is hmark,
    Token.text_of_is hstop] at hrest
  refine List.any_eq_true.mpr ⟨_, (List.mem_tails _ s).mpr hrest, ?_⟩
  have hflags : ∀ d ∈ letters.map (·.char), isFlag d = true :=
    List.forall_mem_map.mpr fun t ht => (hplain t ht).2
  have hc : c ∈ letters.map (·.char) := by
    obtain ⟨-, rfl⟩ : l.escaped = false ∧ l.char = c := by simpa [Token.is] using hlc
    exact List.mem_map_of_mem hl
  simp only [List.cons_append, List.nil_append, List.append_assoc]
  exact beginsAsking_letters hflags hc

/-- The tokens of a modest text are tame. -/
theorem Modest.tame (h : Modest s) (start : Nat) :
    Tame (fun c => asksFor s c = true) (Token.ofChars start s).1 where
  slash := Token.is_backslash_ofChars start s
  counts _ _ _ := fits_of_tokens h.counts
  flags _ := asksFor_of_asks

/-- The tokens of a whole pattern are read without failing but to refuse it. -/
theorem yields_whole {asked : Char → Prop} {scan : Scan} (hall : Tame asked scan.tokens)
    (hroom : 2 * openings scan.tokens ≤ scan.room) (hflags : scan.flags = {})
    (hasked : ¬(asked 'a' ∧ asked 'u')) : Yields (fun _ _ => True) (whole.run scan) := by
  unfold whole
  rw [StateT.run_bind, StateT.run_get, pure_bind]
  refine Yields.bind ((inner hall _).alternatives _ _ _ scan (List.suffix_refl _) hroom)
    fun p scan' hreads => ?_
  rw [StateT.run_bind, StateT.run_get, pure_bind]
  have hboth : ¬(scan'.flags.ascii && scan'.flags.unicode) = true := fun hboth => by
    obtain ⟨ha, hu⟩ := Bool.and_eq_true_iff.mp hboth
    exact hasked ⟨(hreads.ascii ha).resolve_left (by simp [hflags]),
      (hreads.unicode hu).resolve_left (by simp [hflags])⟩
  dsimp only
  rw [if_neg hboth]
  refine Yields.imp (?_ : Ends asked scan' _) fun _ _ _ => trivial
  refine (?_ : Steady asked scan.tokens 0 _) scan' hreads.rest (hreads.enough hroom)
  refine .check (.fail _ _) fun _ => ?_
  split
  · exact .failAt _ _
  · split
    · exact .throw rfl
    · exact .pure _

/-- A modest text is read as a pattern, or it is refused. -/
theorem Modest.parse_error (h : Modest s) {fault : Fault} (hparse : parse s = .error fault) :
    fault.error? = none := by
  have hroom : 2 * openings (Token.ofChars 0 s).1 ≤ maxNesting :=
    (Nat.mul_le_mul_left 2 (openings_le 0 s)).trans h.nesting
  have hasked : ¬(asksFor s 'a' = true ∧ asksFor s 'u' = true) := fun ⟨ha, hu⟩ => by
    simpa [ha, hu] using h.repertoire
  set scan : Scan :=
    { tokens := (Token.ofChars 0 s).1, length := s.length, openEnd := (Token.ofChars 0 s).2 }
  have hread : Yields (fun _ _ => True) ((Reading.moveTo scan.tokens >>= fun _ => whole).run scan) := by
    refine Yields.bind (yields_moveTo scan.tokens scan) fun _ scan' heq => ?_
    subst heq
    exact yields_whole (h.tame 0) hroom rfl hasked
  exact hread.of_error hparse

end Cabinet.Pattern

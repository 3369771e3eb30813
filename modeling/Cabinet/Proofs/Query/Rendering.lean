import Cabinet.Proofs.Query.Reading

/-!
Every search tree has a text: with brackets around whatever is combined, values between delimiters
and what would end a value kept from it by a backslash, the text is read as the tree again.
-/

namespace Cabinet.Query

/-- A character of a phrase: a quotation mark or a backslash has a backslash before it. -/
def protect (c : Char) : List Char :=
  if c = '"' ∨ c = '\\' then ['\\', c] else [c]

/-- A value as a phrase, or as a regular expression between slashes. -/
def valueText (text : String) (regex : Bool) : List Char :=
  if regex then '/' :: (text.toList ++ ['/']) else '"' :: (text.toList.flatMap protect ++ ['"'])

/-- A word between two clauses or before one, with blanks where it is between. -/
def connectiveText : Connective → List Char
  | .and => [' ', 'A', 'N', 'D', ' ']
  | .or => [' ', 'O', 'R', ' ']
  | .other word => ' ' :: (word.toList ++ [' '])

/-- A text inside brackets. -/
def inBrackets (s : List Char) : List Char :=
  '(' :: (s ++ [')'])

/-- The text of a tree. -/
def render : Query → List Char
  | term text regex => valueText text regex
  | field name text regex => name.toList ++ ':' :: valueText text regex
  | negation operand => ['N', 'O', 'T', ' '] ++ inBrackets operand.render
  | group body => inBrackets body.render
  | joined c left right => inBrackets left.render ++ (connectiveText c ++ inBrackets right.render)
  | unknown text => text.toList

/-- The texts that a regular expression between slashes may have: a slash stands after a backslash
only, and after every backslash stands a character that ends no line. -/
def isPatternText : List Char → Bool
  | [] => true
  | '\\' :: [] => false
  | '\\' :: c :: rest => c != '\n' && isPatternText rest
  | c :: rest => c != '/' && isPatternText rest

/-- The names that a field of a search may have, but for those that a slash begins. -/
def isFieldName : List Char → Bool
  | [] => false
  | c :: rest => beginsWord c && c != '/' && rest.all fun d => !endsWord d && d != ':'

/-- Any text is a value; a regular expression must be one that slashes can hold. -/
def isValueText (text : String) (regex : Bool) : Bool :=
  !regex || (text.toList != [] && isPatternText text.toList)

/-- Whether a tree is made of what search texts have. -/
def isRenderable : Query → Bool
  | term text regex => isValueText text regex
  | field name text regex => isFieldName name.toList && isValueText text regex
  | negation operand => operand.isRenderable
  | group body => body.isRenderable
  | joined (.other _) _ _ => false
  | joined _ left right => left.isRenderable && right.isRenderable
  | unknown _ => false

/-- The tree with the brackets of its text as groups. -/
def bracketed : Query → Query
  | negation operand => .negation (.group operand.bracketed)
  | group body => .group body.bracketed
  | joined c left right => .joined c (.group left.bracketed) (.group right.bracketed)
  | q => q

/-- The tree without its groups. -/
def ungrouped : Query → Query
  | negation operand => .negation operand.ungrouped
  | group body => body.ungrouped
  | joined c left right => .joined c left.ungrouped right.ungrouped
  | q => q

theorem ungrouped_bracketed (q : Query) : q.bracketed.ungrouped = q.ungrouped := by
  induction q with
  | term | field | unknown => rfl
  | negation operand ih => simp [bracketed, ungrouped, ih]
  | group body ih => simp [bracketed, ungrouped, ih]
  | joined c left right ihl ihr => simp [bracketed, ungrouped, ihl, ihr]

/-! Delimited texts -/

variable {c delimiter : Char}

theorem protect_of_marked (h : c = '"' ∨ c = '\\') : protect c = ['\\', c] :=
  if_pos h

theorem protect_of_plain (h : ¬(c = '"' ∨ c = '\\')) : protect c = [c] :=
  if_neg h

theorem untilDelimiter?_plain (hc : c ≠ '\\') (hd : c ≠ delimiter) (rest : List Char) :
    untilDelimiter? delimiter (c :: rest) = (untilDelimiter? delimiter rest).map (c :: ·) := by
  simp [untilDelimiter?, hc, hd]

theorem untilDelimiter?_protect (s rest : List Char) :
    untilDelimiter? '"' (s.flatMap protect ++ '"' :: rest) =
      some (s.flatMap protect ++ ['"']) := by
  induction s with
  | nil => rfl
  | cons c s ih =>
    rw [List.flatMap_cons, List.append_assoc]
    by_cases hc : c = '"' ∨ c = '\\'
    · have hline : c ≠ '\n' := by rcases hc with rfl | rfl <;> decide
      simp [protect_of_marked hc, untilDelimiter?, hline, ih]
    · have hplain := untilDelimiter?_plain (fun h => hc (.inr h)) (fun h => hc (.inl h))
        (s.flatMap protect ++ '"' :: rest)
      simp [protect_of_plain hc, hplain, ih]

theorem unescape_protect (s : List Char) : unescape (s.flatMap protect) = s := by
  induction s with
  | nil => rfl
  | cons c s ih =>
    rw [List.flatMap_cons]
    by_cases hc : c = '"' ∨ c = '\\'
    · simp [protect_of_marked hc, unescape, ih]
    · have hslash : c ≠ '\\' := fun h => hc (.inr h)
      simp [protect_of_plain hc, unescape, hslash, ih]

theorem untilDelimiter?_pattern {s : List Char} (h : isPatternText s = true) (rest : List Char) :
    untilDelimiter? '/' (s ++ '/' :: rest) = some (s ++ ['/']) := by
  fun_induction isPatternText s with
  | case1 => rfl
  | case2 => simp at h
  | case3 c s ih =>
    simp only [Bool.and_eq_true, bne_iff_ne, ne_eq] at h
    simp [untilDelimiter?, h.1, ih h.2]
  | case4 c s hlast hpair ih =>
    simp only [Bool.and_eq_true, bne_iff_ne, ne_eq] at h
    have hc : c ≠ '\\' := by
      intro hc
      cases s with
      | nil => exact hlast hc rfl
      | cons d s => exact hpair d s hc rfl
    rw [List.cons_append, untilDelimiter?_plain hc h.1, ih h.2]
    rfl

theorem inner_delimited (d d' : Char) (s : List Char) : inner (d :: (s ++ [d'])) = s := by
  simp [inner]

/-- A value is one token wherever a value may stand. -/
theorem delimited?_valueText {text : String} {regex : Bool} (h : isValueText text regex = true) :
    ∃ kind : TokenKind, kind.regex? = some regex ∧
      (∀ position, (⟨kind, valueText text regex, position⟩ : Token).value = text.toList) ∧
        ∀ rest, delimited? (valueText text regex ++ rest) = some (kind, valueText text regex) := by
  cases regex with
  | false =>
    refine ⟨.phrase, rfl, fun position => ?_, fun rest => ?_⟩
    · simp [Token.value, valueText, inner_delimited, unescape_protect]
    · simp [valueText, delimited?, regexLexeme?, phraseLexeme?, untilDelimiter?_protect]
  | true =>
    obtain ⟨hne, hpattern⟩ : text.toList ≠ [] ∧ isPatternText text.toList = true := by
      simpa [isValueText] using h
    refine ⟨.regex, rfl, fun position => ?_, fun rest => ?_⟩
    · simp [Token.value, valueText, inner_delimited]
    · have huntil := untilDelimiter?_pattern hpattern rest
      simp [valueText, delimited?, regexLexeme?, huntil, hne]

theorem token?_of_delimited? {e : Expectation} {s : List Char} {x : TokenKind × List Char}
    (h : delimited? s = some x) : e.token? s = some x := by
  cases e with
  | value => simp [Expectation.token?, valueToken?, h]
  | clause =>
    rw [Expectation.token?]
    unfold clauseToken?
    split
    case h_6 => simp [h]
    all_goals simp [delimited?, regexLexeme?, phraseLexeme?] at h

theorem exists_of_isFieldName {name : List Char} (h : isFieldName name = true) :
    ∃ c rest, name = c :: rest ∧ beginsWord c = true ∧ c ≠ '/' ∧
      ∀ d ∈ rest, endsWord d = false ∧ d ≠ ':' := by
  cases name with
  | nil => simp [isFieldName] at h
  | cons c rest => exact ⟨c, rest, rfl, by simpa [isFieldName, and_assoc] using h⟩

theorem ignores_of_beginsWord (h : beginsWord c = true) : Expectation.clause.ignores c = false := by
  refine Bool.eq_false_iff.mpr fun hc => ?_
  have hblank : c = ' ' ∨ c = '\t' ∨ c = '\r' ∨ c = '\n' := by
    simpa [Expectation.ignores, or_assoc] using hc
  rcases hblank with rfl | rfl | rfl | rfl <;> simp [beginsWord, endsWord, Text.isBlank] at h

/-- In the place of a clause, the name of a field with its colon is one token. -/
theorem clauseToken?_field {name : List Char} (h : isFieldName name = true) (rest : List Char) :
    clauseToken? (name ++ ':' :: rest) = some (.field, name ++ [':']) := by
  obtain ⟨c, name, rfl, hbegins, hslash, hname⟩ := exists_of_isFieldName h
  have hquote : c ≠ '"' := by
    rintro rfl
    simp [beginsWord, endsWord] at hbegins
  have hdelimited : delimited? (c :: name ++ ':' :: rest) = none := by
    simp [delimited?, regexLexeme?, phraseLexeme?, hslash, hquote]
  have hlexeme : fieldLexeme? (c :: name ++ ':' :: rest) = some (c :: name ++ [':']) := by
    have htake : (name ++ ':' :: rest).takeWhile (fun d => !endsWord d && d != ':') = name := by
      rw [List.takeWhile_append_of_pos (by simpa using hname)]
      simp
    simp [fieldLexeme?, hbegins, htake]
  unfold clauseToken?
  split
  case h_6 =>
    rw [hdelimited, hlexeme]
    rfl
  all_goals
    next heq =>
    obtain ⟨rfl, -⟩ := List.cons.inj heq
    simp [beginsWord, endsWord] at hbegins

/-! Reading a text part by part -/

open Reading

variable {e e' e'' : Expectation} {r r' r'' : Reading} {s s' : List Char} {base : List Pending}

/-- Reads the rest of a text, where something is expected after what has been read. -/
def readText (e : Expectation) (r : Reading) (position : Nat) (s : List Char) : Except Error Query :=
  readFrom r (tokensFrom e position s).1 (tokensFrom e position s).2

/-- Whatever comes after the text, it takes the reader from one reading to another. -/
def Takes (e : Expectation) (r : Reading) (s : List Char) (e' : Expectation) (r' : Reading) : Prop :=
  ∀ position rest, ∃ position',
    readText e r position (s ++ rest) = readText e' r' position' rest

theorem Takes.append (h : Takes e r s e' r') (h' : Takes e' r' s' e'' r'') :
    Takes e r (s ++ s') e'' r'' := by
  intro position rest
  obtain ⟨position', hs⟩ := h position (s' ++ rest)
  obtain ⟨position'', hs'⟩ := h' position' rest
  exact ⟨position'', by rw [List.append_assoc, hs, hs']⟩

theorem takes_blank (h : e.ignores c = true) : Takes e r [c] e r :=
  fun position rest => ⟨position + 1, by simp [readText, tokensFrom, h]⟩

/-- One token at the beginning of a text. -/
theorem readText_token {kind : TokenKind} {lexeme rest : List Char}
    (hl : lexeme.head?.map e.ignores = some false)
    (ht : e.token? (lexeme ++ rest) = some (kind, lexeme))
    (hs : ∀ position, r.step ⟨kind, lexeme, position⟩ = .ok r') (position : Nat) :
    readText e r position (lexeme ++ rest) =
      readText kind.expects r' (position + lexeme.length) rest := by
  obtain ⟨c, tail, rfl, hc⟩ : ∃ c tail, lexeme = c :: tail ∧ e.ignores c = false := by
    cases lexeme with
    | nil => simp at hl
    | cons c tail => exact ⟨c, tail, rfl, Option.some.inj hl⟩
  have htokens : tokensFrom e position (c :: tail ++ rest) =
      (⟨kind, c :: tail, position⟩ ::
          (tokensFrom kind.expects (position + (c :: tail).length) rest).1,
        (tokensFrom kind.expects (position + (c :: tail).length) rest).2) := by
    rw [List.cons_append] at ht ⊢
    rw [tokensFrom]
    simp [hc, ht]
  simp only [readText, htokens, readFrom, hs, ok_bind]

theorem takes_token (kind : TokenKind) {lexeme : List Char}
    (hl : lexeme.head?.map e.ignores = some false)
    (ht : ∀ rest, e.token? (lexeme ++ rest) = some (kind, lexeme))
    (hs : ∀ position, r.step ⟨kind, lexeme, position⟩ = .ok r') :
    Takes e r lexeme kind.expects r' :=
  fun position rest => ⟨_, readText_token hl (ht rest) hs position⟩

/-- A word that a blank ends. -/
theorem takes_word (kind : TokenKind) (lexeme : List Char)
    (hl : lexeme.head?.map Expectation.clause.ignores = some false)
    (ht : ∀ rest, clauseToken? (lexeme ++ ' ' :: rest) = some (kind, lexeme))
    (hkind : kind.expects = .clause) (hs : ∀ position, r.step ⟨kind, lexeme, position⟩ = .ok r') :
    Takes .clause r (lexeme ++ [' ']) .clause r' := by
  intro position rest
  have hword := readText_token hl (ht rest) hs position
  obtain ⟨position', hblank⟩ :=
    takes_blank (r := r') (by rfl : Expectation.clause.ignores ' ' = true)
      (position + lexeme.length) rest
  rw [hkind] at hword
  exact ⟨position', by simpa using hword.trans hblank⟩

theorem takes_value {text : String} {regex : Bool} (h : isValueText text regex = true)
    (hs : ∀ t : Token, t.kind.regex? = some regex → t.value = text.toList → r.step t = .ok r') :
    Takes e r (valueText text regex) .clause r' := by
  obtain ⟨kind, hkind, hvalue, hdelimited⟩ := delimited?_valueText h
  have hexpects : kind.expects = .clause := by
    cases kind <;> simp_all [TokenKind.regex?, TokenKind.expects]
  have hhead : (valueText text regex).head?.map e.ignores = some false := by
    cases regex <;> cases e <;> rfl
  rw [← hexpects]
  exact takes_token _ hhead (fun rest => token?_of_delimited? (hdelimited rest))
    (fun position => hs _ hkind (hvalue position))

/-- The name of a field waits for its value. -/
theorem takes_fieldName {name : String} (hname : isFieldName name.toList = true) :
    Takes .clause ⟨base, none⟩ (name.toList ++ [':']) .value ⟨.field name :: base, none⟩ := by
  have hhead : (name.toList ++ [':']).head?.map Expectation.clause.ignores = some false := by
    obtain ⟨c, rest, heq, hbegins, -⟩ := exists_of_isFieldName hname
    simp [heq, ignores_of_beginsWord hbegins]
  refine takes_token .field hhead (fun rest => ?_) fun position => ?_
  · rw [List.append_assoc]
    exact clauseToken?_field hname rest
  · simp [step_field, Token.value]

theorem takes_field {name text : String} {regex : Bool} (hname : isFieldName name.toList = true)
    (htext : isValueText text regex = true) :
    Takes .clause ⟨base, none⟩ (name.toList ++ ':' :: valueText text regex) .clause
      ⟨base, some (.field name text regex)⟩ := by
  have hvalue : Takes .value ⟨.field name :: base, none⟩ (valueText text regex) .clause
      ⟨base, some (.field name text regex)⟩ :=
    takes_value htext fun t hkind ht => by
      rw [step_field_value hkind, ht, String.ofList_toList]
  simpa using (takes_fieldName hname).append hvalue

theorem takes_not : Takes .clause ⟨base, none⟩ ['N', 'O', 'T', ' '] .clause
    ⟨.negation :: base, none⟩ :=
  takes_word .not ['N', 'O', 'T'] rfl (fun _ => rfl) rfl
    fun _ => step_negates rfl

/-- Only an opening bracket, or nothing, stands before a clause. -/
def Opens (base : List Pending) : Prop :=
  ∀ p ∈ base.head?, p = .group

theorem Opens.free (h : Opens base) : Free base :=
  fun name hname => by simpa using h (.field name) hname

theorem Opens.stops (h : Opens base) (strength : Nat) : Stops strength base := by
  intro _ hp
  rw [h _ hp]
  rfl

theorem opens_group : Opens (.group :: base) :=
  fun _ hp => (Option.some.inj hp).symm

theorem takes_connective {c : Connective} {q : Query} (hc : c = .and ∨ c = .or) (h : Opens base) :
    Takes .clause ⟨base, some q⟩ (connectiveText c) .clause ⟨.joined c q :: base, none⟩ := by
  have hblank : Takes .clause ⟨base, some q⟩ [' '] .clause ⟨base, some q⟩ := takes_blank rfl
  rcases hc with rfl | rfl
  · refine hblank.append (takes_word .and ['A', 'N', 'D'] rfl (fun _ => rfl)
      rfl fun position => ?_)
    simp [step, afterClause, settle_of_stops (h.stops _)]
  · refine hblank.append (takes_word .or ['O', 'R'] rfl (fun _ => rfl)
      rfl fun position => ?_)
    simp [step, afterClause, settle_of_stops (h.stops _)]

/-- A text that begins a clause is read as the tree, but for what the end of the text completes. -/
def ReadsAs (s : List Char) (q : Query) : Prop :=
  ∀ base, Opens base → ∃ extra c, Takes .clause ⟨base, none⟩ s .clause ⟨extra ++ base, some c⟩ ∧
    (∀ p ∈ extra, p.completesBefore 0 = true) ∧ whole extra c = q

theorem ReadsAs.of_takes {q : Query}
    (h : ∀ base, Opens base → Takes .clause ⟨base, none⟩ s .clause ⟨base, some q⟩) : ReadsAs s q :=
  fun base hbase => ⟨[], q, h base hbase, by simp, rfl⟩

/-- Inside brackets, a text is one clause wherever it stands. -/
theorem ReadsAs.inBrackets {q : Query} (h : ReadsAs s q) (base : List Pending) :
    Takes .clause ⟨base, none⟩ (inBrackets s) .clause ⟨base, some (.group q)⟩ := by
  obtain ⟨extra, c, hs, hextra, rfl⟩ := h (.group :: base) opens_group
  have hopening : Takes .clause ⟨base, none⟩ ['('] .clause ⟨.group :: base, none⟩ :=
    takes_token .opening rfl (fun _ => rfl) fun _ => step_opening rfl
  have hclosing : Takes .clause ⟨extra ++ .group :: base, some c⟩ [')'] .clause
      ⟨base, some (.group (whole extra c))⟩ :=
    takes_token .closing rfl (fun _ => rfl) fun _ => step_closing rfl hextra
  exact hopening.append (hs.append hclosing)

theorem readsAs_render {q : Query} (h : q.isRenderable = true) : ReadsAs q.render q.bracketed := by
  induction q with
  | term text regex =>
    refine .of_takes fun base hbase => takes_value h fun t hkind ht => ?_
    rw [step_value hbase.free hkind, ht, String.ofList_toList]
    rfl
  | field name text regex =>
    obtain ⟨hname, htext⟩ := Bool.and_eq_true_iff.mp h
    exact .of_takes fun base _ => takes_field hname htext
  | negation operand ih =>
    intro base hbase
    have hoperand := (ih h).inBrackets (.negation :: base)
    exact ⟨[.negation], .group operand.bracketed, takes_not.append hoperand,
      by simp [Pending.completesBefore], rfl⟩
  | group body ih => exact .of_takes fun base _ => (ih h).inBrackets base
  | joined c left right ihl ihr =>
    obtain ⟨hc, hleft, hright⟩ : (c = .and ∨ c = .or) ∧ left.isRenderable = true ∧
        right.isRenderable = true := by
      cases c <;> simp_all [isRenderable]
    intro base hbase
    have hl := (ihl hleft).inBrackets base
    have hr := (ihr hright).inBrackets (.joined c (.group left.bracketed) :: base)
    refine ⟨[.joined c (.group left.bracketed)], .group right.bracketed,
      hl.append ((takes_connective hc hbase).append hr), ?_, rfl⟩
    rcases hc with rfl | rfl <;> simp [Pending.completesBefore]
  | unknown text => simp [isRenderable] at h

theorem parse_render_eq {q : Query} (h : q.isRenderable = true) :
    parse q.render = .ok q.bracketed := by
  obtain ⟨extra, c, hs, hextra, hwhole⟩ := readsAs_render h [] (by simp [Opens])
  obtain ⟨position, hread⟩ := hs 0 []
  have hsettle : settle 0 (extra ++ []) c = ([], whole extra c) :=
    settle_append hextra (by simp [Stops])
  calc parse q.render = readText .clause ⟨[], none⟩ 0 (q.render ++ []) := by
        rw [List.append_nil]; rfl
    _ = readText .clause ⟨extra ++ [], some c⟩ position [] := hread
    _ = .ok q.bracketed := by
        rw [readText, tokensFrom]
        simp only [readFrom, finish, hsettle, hwhole]

/-- Every tree of what search texts have is read from its text, but for the groups that the brackets
of the text are. -/
theorem parse_render {q : Query} (h : q.isRenderable = true) :
    ∃ read, parse q.render = .ok read ∧ read.ungrouped = q.ungrouped :=
  ⟨q.bracketed, parse_render_eq h, ungrouped_bracketed q⟩

theorem parse_render_protected :
    ∃ read, parse (joined .or (negation (joined .and (field "and" "a\\\"\n:" false) (term "" false)))
        (group (term "\\/+" true))).render = .ok read ∧
      read.ungrouped = joined .or
        (negation (joined .and (field "and" "a\\\"\n:" false) (term "" false)))
        (term "\\/+" true) :=
  parse_render (by decide)

end Cabinet.Query

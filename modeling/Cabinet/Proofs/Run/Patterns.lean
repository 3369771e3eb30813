import Cabinet.Proofs.Column.Takes
import Cabinet.Proofs.Pattern.Modest
import Cabinet.Proofs.Run.Documents
import Cabinet.Proofs.Run.Pages
import Cabinet.Proofs.Search.Regexes

/-!
Patterns as rules of columns and as terms of searches: a modest text is read as a pattern or refused, and
does no harm where values are checked and rows are searched.
-/

namespace Cabinet

open Operation Storage

namespace Rows

variable {f : Folders} {id given : String} {options : SearchOptions} {w : World} {action : String}

theorem sparesFunctions_count? (what : String) (v : Value) : SparesFunctions (count? what v) := by
  unfold count?
  split
  · exact .ok _
  · split
    · exact .error nofun
    · exact .ok _
  · exact .error nofun

theorem sparesFunctions_table (hs : w.files.Sound) (name : String) :
    ∃ x, SparesFunctions x ∧ (Schema.table f id name).exec w = (x, w) := by
  unfold Schema.table
  rw [exec_bind]
  rcases f.records.read_cases hs id with ⟨r, -, hread⟩ | ⟨-, hread⟩
  · rw [hread]
    refine ⟨r.table (Name.normalize name), ?_, exec_of _ _⟩
    unfold Record.table
    split
    · exact .ok _
    · exact .error nofun
  · rw [hread]
    exact ⟨_, .error (e := .recordMissing (.text id)) nofun, rfl⟩

theorem SearchOptions.regexp_not_mem_seen (options : SearchOptions) (column pattern : String) :
    .regexp column pattern ∉ options.seen.clauses := by
  unfold seen
  split
  · exact List.not_mem_nil
  · exact fun hmem => nomatch List.mem_singleton.mp hmem

/-- What is said of a table that is found is said by the database. -/
theorem of_onOpened_eq_error {α : Type} {st : Statement α} {db : Database}
    (h : st.onOpened (.ok db) = .error (.storage action .functionFailed)) :
    st.run db = .error .functionFailed := by
  have h : Statement.named st.action (st.run db) = .error (.storage action .functionFailed) := h
  unfold Statement.named at h
  split at h
  · cases h
  · next hrun =>
    cases h
    exact hrun

/-- What a search can see is found without a function. -/
theorem SearchOptions.holds_seen_ne (options : SearchOptions) (row : Lookup) :
    holds row options.seen ≠ .error .functionFailed := by
  intro h
  obtain ⟨d, hd, hfailed⟩ := holds_functionFailed h
  obtain ⟨column, pattern, -, -, rfl, -⟩ := holdsClause_functionFailed hfailed
  exact options.regexp_not_mem_seen column pattern hd

/-- A regular expression that a search asks for and that cannot be looked for. -/
def SearchOptions.AsksInVain (options : SearchOptions) : Prop :=
  ∃ text q pattern v e, options.query = .text text ∧ Query.parse text.toList = .ok q ∧
    pattern ∈ q.regexes ∧ findsRegex (.text pattern) v = .error e

theorem SearchOptions.asksInVain {columns : List Column} {c : Condition}
    (hc : Search.compile columns options.query = .ok c)
    (h : ∃ row : Lookup, holds row (options.seen.and c) = .error .functionFailed) :
    options.AsksInVain := by
  obtain ⟨row, hrow⟩ := h
  obtain ⟨d, hd, hfailed⟩ := holds_functionFailed hrow
  obtain ⟨column, pattern, v, e, rfl, hfound⟩ := holdsClause_functionFailed hfailed
  rw [Condition.clauses_and] at hd
  rcases List.mem_append.mp hd with hseen | hd
  · exact absurd hseen (options.regexp_not_mem_seen column pattern)
  · obtain ⟨text, q, hquery, hparse, hmem⟩ := Search.mem_regexes_of_compile hc hd
    exact ⟨text, q, pattern, v, e, hquery, hparse, hmem, hfound⟩

/-- A search that fails in a function asks for a regular expression that cannot be looked for. -/
theorem search_functionFailed (hs : w.files.Sound)
    (h : ((search f id given options).exec w).1 = .error (.storage action .functionFailed)) :
    options.AsksInVain := by
  rcases of_bind_eq_error h with h | ⟨limit?, -, h⟩
  · exact absurd h (sparesFunctions_count? _ _ _)
  rcases of_bind_eq_error h with h | ⟨offset?, -, h⟩
  · exact absurd h (sparesFunctions_count? _ _ _)
  obtain ⟨x, hx, htable⟩ := sparesFunctions_table hs (Name.normalize given)
  rw [exec_bind, htable] at h
  cases x with
  | error e =>
    obtain rfl := Except.error.inj h
    exact absurd rfl (hx action)
  | ok t =>
    rcases of_bind_eq_error h with h | ⟨order, -, h⟩
    · exact absurd h (Search.sparesFunctions_compileOrder _ _ _ _ _)
    obtain ⟨u, log, hnote⟩ := noteFallback_quiet options.query w
    rw [exec_bind, hnote] at h
    rcases of_bind_eq_error h with h | ⟨c, hc, h⟩
    · exact absurd h (Search.sparesFunctions_compile _ _ _)
    rw [exec_bind, Store.exec_existing, Files.has_eq] at h
    cases hfile : w.files.get? (Store.place f.data id) with
    | none => simp [hfile] at h
    | some file =>
      obtain ⟨db, rfl⟩ := hs.database hfile
      simp only [hfile, Option.isSome_some, if_true] at h
      rw [exec_bind, Store.exec_connect (w := { w with log }) hfile] at h
      rcases of_bind_eq_error h with h | ⟨total, -, h⟩
      · obtain ⟨row, hrow⟩ := Database.count_functionFailed (of_onOpened_eq_error h)
        exact absurd hrow (options.holds_seen_ne row)
      rcases of_bind_eq_error h with h | ⟨filtered, -, h⟩
      · exact options.asksInVain hc (Database.count_functionFailed (of_onOpened_eq_error h))
      rcases of_bind_eq_error h with h | ⟨rows, -, h⟩
      · exact options.asksInVain hc (Database.query_functionFailed (of_onOpened_eq_error h))
      · cases h

end Rows

/-! Rules and regular expressions -/

namespace Column

variable {c : Column} {p : String}

/-- A text is compiled as a rule, refused as one, or not read at all. -/
theorem compileRule_cases (c : Column) (p : String) :
    (∃ pattern, Pattern.parse p.toList = .ok pattern ∧ c.compileRule p = .ok pattern) ∨
    (∃ fault, Pattern.parse p.toList = .error fault ∧ fault.error? = none ∧
      c.compileRule p = .error (.invalidRule c.name p fault)) ∨
    ∃ fault e, Pattern.parse p.toList = .error fault ∧ fault.error? = some e ∧
      c.compileRule p = .error e ∧ e.kind ∈ [.overflow, .value, .interrupted] := by
  unfold compileRule
  cases hparse : Pattern.parse p.toList with
  | ok pattern => exact .inl ⟨pattern, rfl, rfl⟩
  | error fault =>
    right
    cases fault with
    | invalid reason position => exact .inl ⟨_, rfl, rfl, rfl⟩
    | repetitionTooLarge | numberTooLong | flagsAtOdds | nestedTooDeep =>
      exact .inr ⟨_, _, rfl, rfl, rfl, by decide⟩

/-- A stored column of the catalog can check values. -/
theorem Sound.proper (h : c.Sound) : c.Proper where
  type := h.catalog
  tags _ := List.all_eq_true.mpr fun t ht => by
    obtain ⟨tag, htag, -⟩ := h.named t ht
    rw [htag]
    rfl
  rule _ htruthy := by
    obtain ⟨rule, hrule, hcompiled⟩ := h.compiled
    obtain ⟨pattern, hpattern⟩ := hcompiled fun hempty => by simp [hrule, hempty, Value.truthy] at htruthy
    exact ⟨rule, pattern, hrule, compileRule_eq_ok.mp hpattern⟩

/-- The rule of a stored column can be compiled again. -/
theorem Sound.compiles (h : c.Sound) :
    ∃ rule pattern, c.rule = .text rule ∧ c.compileRule rule = .ok pattern := by
  obtain ⟨rule, hrule, hcompiled⟩ := h.compiled
  by_cases hempty : rule = ""
  · subst hempty
    exact ⟨"", .empty, hrule, rfl⟩
  · obtain ⟨pattern, hpattern⟩ := hcompiled hempty
    exact ⟨rule, pattern, hrule, hpattern⟩

end Column

namespace Storage

variable {p : String} {v : Value}

theorem findsRegex_null (pattern : Value) : findsRegex pattern .null = .ok false := by
  unfold findsRegex
  rfl

theorem findsRegex_of_ne (hv : v ≠ .null) : findsRegex (.text p) v =
    match Pattern.parse p.toList with
    | .ok pattern => .ok (pattern.search v.plain)
    | .error fault =>
      match fault.error? with
      | some e => .error e
      | none => .ok false := by
  cases v with
  | null => exact absurd rfl hv
  | _ => rfl

/-- What is refused as a rule is found nowhere. -/
theorem findsRegex_of_refused {c : Column} {e : Error} (h : c.compileRule p = .error e)
    (hkind : e.kind = .validation) (v : Value) : findsRegex (.text p) v = .ok false := by
  by_cases hv : v = .null
  · rw [hv, findsRegex_null]
  rcases c.compileRule_cases p with ⟨pattern, -, hcompiled⟩ | ⟨fault, hparse, hfault, -⟩ |
    ⟨fault, e', -, -, hcompiled, hkinds⟩
  · cases h.symm.trans hcompiled
  · rw [findsRegex_of_ne hv, hparse]
    simp only [hfault]
  · cases h.symm.trans hcompiled
    simp [hkind] at hkinds

/-- What is compiled as a rule is looked for in the text of a value. -/
theorem findsRegex_of_compiled {c : Column} {pattern : Pattern} (h : c.compileRule p = .ok pattern)
    (hv : v ≠ .null) : findsRegex (.text p) v = .ok (pattern.search v.plain) := by
  rw [findsRegex_of_ne hv, Column.compileRule_eq_ok.mp h]

/-- A modest text is looked for in any value. -/
theorem findsRegex_of_modest (h : Pattern.Modest p.toList) (v : Value) :
    ∃ found, findsRegex (.text p) v = .ok found := by
  by_cases hv : v = .null
  · exact ⟨false, hv ▸ findsRegex_null _⟩
  rw [findsRegex_of_ne hv]
  cases hparse : Pattern.parse p.toList with
  | ok pattern => exact ⟨_, rfl⟩
  | error fault => simp only [h.parse_error hparse, Except.ok.injEq, exists_eq']

end Storage

/-- Every text is a rule, or it is refused as one with a validation error that names it, unless it is not
modest; and every text is looked for in every value, unless it is not modest. What is refused as a rule
is found nowhere, and nothing is found in nothing. So the rules of stored columns can be compiled again,
and values are refused by them with nothing but validation errors; and a search whose regular expressions
are modest does not fail in them. -/
theorem Reachable.patterns_read_or_refused {f : Folders} {agreed : Bool} {w : World}
    (h : Reachable f agreed w) :
    (∀ (c : Column) (p : String),
      (∃ pattern, c.compileRule p = .ok pattern) ∨
      (∃ e, c.compileRule p = .error e ∧ e.kind = .validation ∧ e.identifier? = some (.text p)) ∨
      ¬Pattern.Modest p.toList ∧
        ∃ e, c.compileRule p = .error e ∧ e.kind ∈ [.overflow, .value, .interrupted]) ∧
    (∀ (p : String) (v : Value), (∃ found, findsRegex (.text p) v = .ok found) ∨
      ¬Pattern.Modest p.toList ∧ v ≠ .null) ∧
    (∀ (p : String) (v : Value),
      (v = .null ∨ ∃ (c : Column) (e : Error), c.compileRule p = .error e ∧ e.kind = .validation) →
      findsRegex (.text p) v = .ok false) ∧
    (∀ (c : Column) (p : String) (pattern : Pattern) (v : Value), c.compileRule p = .ok pattern →
      v ≠ .null → findsRegex (.text p) v = .ok (pattern.search v.plain)) ∧
    (∀ id r name t key c, ((f.records.read id).exec w).1 = .ok r → r.tables.get? name = some t →
      t.columns.get? key = some c →
      (∃ rule pattern, c.rule = .text rule ∧ c.compileRule rule = .ok pattern) ∧
      ∀ v e, c.accept v = .error e → e.kind = .validation) ∧
    ∀ (id given : String) (options : Rows.SearchOptions),
      (∀ text q, options.query = .text text → Query.parse text.toList = .ok q →
        ∀ p ∈ q.regexes, Pattern.Modest p.toList) →
      ∀ action, ((Rows.search f id given options).exec w).1 ≠
        .error (.storage action .functionFailed) := by
  refine ⟨fun c p => ?_, fun p v => ?_, fun p v hnone => ?_, fun c p pattern v hc hv =>
    findsRegex_of_compiled hc hv, fun id r name t key c hread ht hc => ?_,
    fun id given options hmodest action hfailed => ?_⟩
  · rcases c.compileRule_cases p with ⟨pattern, -, hcompiled⟩ | ⟨fault, -, -, hrefused⟩ |
      ⟨fault, e, hparse, hfault, herror, hkind⟩
    · exact .inl ⟨pattern, hcompiled⟩
    · exact .inr (.inl ⟨_, hrefused, rfl, rfl⟩)
    · refine .inr (.inr ⟨fun hmodest => ?_, e, herror, hkind⟩)
      cases hfault.symm.trans (hmodest.parse_error hparse)
  · by_cases hmodest : Pattern.Modest p.toList
    · exact .inl (findsRegex_of_modest hmodest v)
    by_cases hv : v = .null
    · exact .inl ⟨false, hv ▸ findsRegex_null _⟩
    · exact .inr ⟨hmodest, hv⟩
  · rcases hnone with rfl | ⟨c, e, he, hkind⟩
    · exact findsRegex_null _
    · exact findsRegex_of_refused he hkind v
  · have hsound : c.Sound := by
      rcases f.records.read_cases h.good.sound id with ⟨r', hstores, hread'⟩ | ⟨-, hread'⟩
      · rw [hread'] at hread
        obtain rfl := Except.ok.inj hread
        exact (hstores.sound.tables ht).columns hc
      · rw [hread'] at hread
        cases hread
    exact ⟨hsound.compiles, fun v e he => (Column.refusal_of_accept hsound.proper he).kind_eq⟩
  · obtain ⟨text, q, p, v, e, hquery, hparse, hp, he⟩ := Rows.search_functionFailed h.good.sound hfailed
    obtain ⟨found, hfound⟩ := findsRegex_of_modest (hmodest text q hquery hparse p hp) v
    cases he.symm.trans hfound

/-- A new database with a column that has a rule, and with a row. -/
def Request.ruled : List Request :=
  [.createDatabase (.text "a") "",
    .schema "a_0" (.addColumn "entries" (.text "Code") (.text "custom") false none),
    .schema "a_0" (.changeRule "entries" "code" (.text "[a-z]+")),
    .createRow "a_0" "entries" [("title", .text "one")]]

/-- Words of three letters. -/
def Pattern.threeLetters : String :=
  "^[a-z]\x7b3\x7d$"

/-- A repetition whose count is one too large. -/
def Pattern.tooManyTimes : String :=
  "x\x7b4294967295\x7d"

/-- Why a text is not read as a pattern. -/
def Pattern.fault? (s : List Char) : Option Pattern.Fault :=
  match Pattern.parse s with
  | .ok _ => none
  | .error fault => some fault

theorem Pattern.parse_of_fault? {s : List Char} {fault : Pattern.Fault} (h : Pattern.fault? s = some fault) :
    Pattern.parse s = .error fault := by
  unfold Pattern.fault? at h
  split at h
  · cases h
  · next heq => exact heq.trans (congrArg _ (Option.some.inj h))

/-- A search for titles in which a pattern is found. -/
def Rows.SearchOptions.titledBy (p : String) : SearchOptions :=
  { query := .text ("/" ++ p ++ "/") }

/-- Whether a search fails because of a function that it calls. -/
def Rows.failsInFunction (f : Folders) (id given : String) (options : SearchOptions) (w : World) : Bool :=
  match ((search f id given options).exec w).1 with
  | .error (.storage _ .functionFailed) => true
  | _ => false

theorem Rows.exists_of_failsInFunction {f : Folders} {id given : String} {options : SearchOptions}
    {w : World} (h : failsInFunction f id given options w = true) :
    ∃ action, ((search f id given options).exec w).1 = .error (.storage action .functionFailed) := by
  unfold failsInFunction at h
  split at h
  · next action heq => exact ⟨action, heq⟩
  · cases h

/-- A column of a record. -/
def Record.column? (r : Record) (table column : String) : Option Column :=
  (r.tables.get? table).bind (·.columns.get? column)

/-- Whether a workspace has a rule, one search finds a row in it and another one fails. -/
abbrev World.IsRuled (w : World) : Prop :=
  (((RecordFolder.read ⟨"data", false⟩ "a_0").exec w).1.toOption.bind (·.column? "entries" "code")).map
      (·.rule.plain) = some "[a-z]+".toList ∧
    ((Rows.search ⟨"data", "backup"⟩ "a_0" "entries" (.titledBy Pattern.threeLetters)).exec
      w).1.toOption.map (·.filtered) = some 1 ∧
    Rows.failsInFunction ⟨"data", "backup"⟩ "a_0" "entries" (.titledBy Pattern.tooManyTimes) w = true

theorem Request.ruled_runs : (runAll ⟨"data", "backup"⟩ ruled (true, {})).1 = true ∧
    (runAll ⟨"data", "backup"⟩ ruled (true, {})).2.IsRuled := by
  decide +kernel

def World.ruled : Folders.Sample ⟨"data", "backup"⟩ World.IsRuled :=
  Request.sample _ Request.ruled Request.ruled_runs

/-- A rule that is stored is compiled again, and a modest pattern is looked for in titles. -/
theorem Reachable.stored_rule_compiled :
    ∃ (c : Column) (pattern : Pattern), c.rule = .text "[a-z]+" ∧
      c.compileRule "[a-z]+" = .ok pattern ∧
      Pattern.Modest Pattern.threeLetters.toList ∧
      (∃ found, findsRegex (.text Pattern.threeLetters) (.text "one") = .ok found) ∧
      findsRegex (.text Pattern.threeLetters) .null = .ok false ∧
      ∀ action, ((Rows.search ⟨"data", "backup"⟩ "a_0" "entries"
        (.titledBy Pattern.threeLetters)).exec World.ruled.val).1 ≠
          .error (.storage action .functionFailed) := by
  obtain ⟨hreach, hrule, -, -⟩ := World.ruled.property
  obtain ⟨-, hfinds, hnone, -, hstored, hsearch⟩ := hreach.patterns_read_or_refused
  obtain ⟨c, hc, hplain⟩ := Option.map_eq_some_iff.mp hrule
  obtain ⟨r, hr, hcolumn⟩ := Option.bind_eq_some_iff.mp hc
  obtain ⟨t, ht, hget⟩ := Option.bind_eq_some_iff.mp hcolumn
  obtain ⟨⟨rule, pattern, heq, hcompiled⟩, -⟩ :=
    hstored "a_0" r "entries" t "code" c (eq_ok_of_toOption hr) ht hget
  obtain rfl : rule = "[a-z]+" := String.toList_inj.mp (by simpa [heq, Value.plain] using hplain)
  have hmodest : Pattern.Modest Pattern.threeLetters.toList := by decide +kernel
  have hasked : (Query.parse ("/" ++ Pattern.threeLetters ++ "/").toList).toOption.map Query.regexes =
      some [Pattern.threeLetters] := by
    decide +kernel
  refine ⟨c, pattern, heq, hcompiled, hmodest,
    (hfinds _ _).resolve_right fun hnot => hnot.1 hmodest, hnone _ _ (.inl rfl),
    hsearch "a_0" "entries" _ fun text q htext hparse p hp => ?_⟩
  obtain rfl := Value.text.inj htext
  rw [hparse] at hasked
  have hregexes : q.regexes = [Pattern.threeLetters] := Option.some.inj hasked
  rw [hregexes] at hp
  rw [List.mem_singleton.mp hp]
  exact hmodest

/-- A count that is too large is neither taken for a rule nor refused with a validation error; it cannot
be looked for, and a search for it fails. -/
theorem Reachable.large_count_not_refused :
    (¬∀ (c : Column) (p : String), (∃ pattern, c.compileRule p = .ok pattern) ∨
      ∃ e, c.compileRule p = .error e ∧ e.kind = .validation ∧ e.identifier? = some (.text p)) ∧
    (¬∀ (p : String) (v : Value), ∃ found, findsRegex (.text p) v = .ok found) ∧
    ∃ action, ((Rows.search ⟨"data", "backup"⟩ "a_0" "entries"
      (.titledBy Pattern.tooManyTimes)).exec World.ruled.val).1 =
        .error (.storage action .functionFailed) := by
  have hparse : Pattern.parse Pattern.tooManyTimes.toList = .error .repetitionTooLarge :=
    Pattern.parse_of_fault? (by decide +kernel)
  refine ⟨fun hrefused => ?_, fun hfound => ?_, ?_⟩
  · have hcompile : Column.coded.compileRule Pattern.tooManyTimes = .error .numberTooLarge := by
      rw [Column.compileRule, hparse]
      rfl
    rcases hrefused Column.coded Pattern.tooManyTimes with ⟨pattern, h⟩ | ⟨e, h, hkind, -⟩
    · cases hcompile.symm.trans h
    · cases hcompile.symm.trans h
      cases hkind
  · have hne : Value.text "x" ≠ .null := by simp
    obtain ⟨found, h⟩ := hfound Pattern.tooManyTimes (.text "x")
    rw [findsRegex_of_ne hne, hparse] at h
    cases h
  · exact Rows.exists_of_failsInFunction World.ruled.property.2.2.2

end Cabinet

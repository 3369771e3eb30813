import Cabinet.Proofs.Record.RoundTrip
import Cabinet.Proofs.Schema.Change

/-!
Changes of tables and columns keep records sound.
-/

namespace Cabinet

open Storage

/-- Sound records stay sound, and keep their ids. -/
def Revision.Sound {α : Type} (revision : Revision α) : Prop :=
  ∀ {r a r'}, r.Sound → revision r = .ok (a, r') → r'.Sound ∧ r'.id = r.id

/-- Sound records stay sound, and keep their ids, whatever is stored. -/
def Change.Sound {α : Type} (change : Change α) : Prop :=
  ∀ {r db out}, r.Sound → change r db = .ok out → out.record.Sound ∧ out.record.id = r.id

namespace Column

variable {c : Column}

theorem sound_of_type (name : String) {type : ColumnType} (h : type.isOther = false) (index : Int)
    (hidden : Bool) : Sound { name, type, index, hidden } where
  catalog := h
  tags := by simp
  tagless _ := rfl
  rule := trivial
  ruleless _ := rfl
  named := by simp
  distinct := by simp
  compiled := ⟨"", rfl, fun h => absurd rfl h⟩

/-- Whether a rule compiles does not depend on the column; only the message of the error does. -/
theorem compileRule_eq_ok {rule : String} {p : Pattern} :
    c.compileRule rule = .ok p ↔ Pattern.parse rule.toList = .ok p := by
  unfold compileRule
  cases Pattern.parse rule.toList <;> simp

theorem Sound.at (h : c.Sound) (index : Int) : Sound { c with index } :=
  ⟨h.catalog, h.tags, h.tagless, h.rule, h.ruleless, h.named, h.distinct, h.compiled⟩

theorem Sound.called (h : c.Sound) (name : String) : Sound { c with name } := by
  obtain ⟨rule, hrule, hcompiled⟩ := h.compiled
  simp only [compileRule_eq_ok] at hcompiled
  refine ⟨h.catalog, h.tags, h.tagless, h.rule, h.ruleless, h.named, h.distinct, rule, hrule, ?_⟩
  simpa only [compileRule_eq_ok] using hcompiled

theorem Sound.shown (h : c.Sound) (hidden : Bool) : Sound { c with hidden } :=
  ⟨h.catalog, h.tags, h.tagless, h.rule, h.ruleless, h.named, h.distinct, h.compiled⟩

theorem hasTag_iff (tag : String) : c.hasTag tag = true ↔ .text tag ∈ c.tags.map (·.name) := by
  have htext : ∀ v : Value, v.text? = some tag ↔ v = .text tag := by
    intro v
    cases v <;> simp [Value.text?]
  simp only [hasTag, tagNames, List.contains_iff_mem, List.mem_filterMap, htext, List.mem_map]

end Column

namespace Table

variable {t : Table} {name : String} {c d : Column}

theorem fresh_sound : fresh.Sound where
  toWellFormed := fresh_wellFormed
  columns {key c} h := by
    have hother : ∀ p ∈ Column.protectedColumns.zipIdx, p.1.2.1.isOther = false := by decide
    obtain ⟨d, hd, he⟩ := List.mem_map.mp (Fields.mem_of_get? h)
    obtain ⟨p, hp, rfl⟩ := List.mem_map.mp hd
    obtain rfl := (Prod.ext_iff.mp he).2
    exact Column.sound_of_type _ (hother p hp) _ _

theorem Sound.shift (h : t.Sound) (inRange : Int → Bool) (step : Int) {key : String} {c : Column}
    (hc : (Schema.shift inRange step t).columns.get? key = some c) : c.Sound := by
  rw [get?_shift] at hc
  obtain ⟨d, hd, rfl⟩ := Option.map_eq_some_iff.mp hc
  split
  · exact (h.columns hd).at _
  · exact h.columns hd

end Table

namespace Record

variable {r : Record} {name : String} {t : Table}

theorem Sound.put (h : r.Sound) (hn : Name.IsNormal name) (ht : t.Sound) : (r.put name t).Sound where
  plain := h.plain
  tags := h.tags
  nodup := Fields.nodup_keys_put h.nodup name t
  normal {k u} hk := by
    rw [Record.put, Fields.get?_put] at hk
    split at hk
    · next heq => exact heq ▸ hn
    · exact h.normal hk
  tables hk := Fields.forall_get?_put (fun hg => h.tables hg) ht hk

theorem Sound.drop (h : r.Sound) (name : String) :
    Sound { r with tables := r.tables.drop name } where
  plain := h.plain
  tags := h.tags
  nodup := Fields.nodup_keys_drop h.nodup name
  normal {k u} hk := by
    rw [Fields.get?_drop] at hk
    split at hk
    · simp at hk
    · exact h.normal hk
  tables hk := Fields.forall_get?_drop (fun hg => h.tables hg) hk

/-- A table takes the place of one that is there. -/
theorem Sound.replace (h : r.Sound) {u : Table} (hu : r.tables.get? name = some u) (ht : t.Sound) :
    (r.put name t).Sound :=
  h.put (h.normal hu) ht

end Record

namespace Schema

variable {id name old new table : String}

theorem createTable_sound (id : String) (hn : Name.IsNormal name) : (createTable id name).Sound := by
  intro r db out hr h
  obtain ⟨-, stored, -, rfl⟩ := createTable_eq_ok h
  exact ⟨hr.put hn Table.fresh_sound, rfl⟩

theorem renameTable_sound (id old : String) (hn : Name.IsNormal new) :
    (renameTable id old new).Sound := by
  intro r db out hr h
  obtain ⟨t, stored, ht, -, -, rfl⟩ := renameTable_eq_ok h
  exact ⟨(hr.drop old).put hn (hr.tables ht), rfl⟩

theorem deleteTable_sound (name : String) : (deleteTable name).Sound := by
  intro r db out hr h
  obtain ⟨t, stored, -, -, rfl⟩ := deleteTable_eq_ok h
  exact ⟨hr.drop name, rfl⟩

theorem setTableVisibility_sound (name : String) (hidden : Bool) :
    (setTableVisibility name hidden).Sound := by
  intro r a r' hr h
  obtain ⟨t, ht, rfl⟩ := setTableVisibility_eq_ok h
  have hs := hr.tables ht
  exact ⟨hr.replace ht ⟨⟨hs.nodup, hs.named, hs.range, hs.apart, hs.anchored⟩, hs.columns⟩, rfl⟩

theorem createColumn_sound (table : String) (hn : Name.IsNormal name) {type : ColumnType}
    (htype : type.isOther = false) (hidden : Bool) (index? : Option Int) :
    (createColumn table name type hidden index?).Sound := by
  intro r db out hr h
  obtain ⟨t, c, stored, ht, hnew, hc, hrange, hm, -, rfl⟩ := createColumn_eq_ok h
  have hs := hr.tables ht
  have hname : c.name = name := by rw [hc]
  have hsound : c.Sound := hc ▸ Column.sound_of_type name htype c.index hidden
  refine ⟨hr.replace ht ⟨hs.insert (hname ▸ hnew) (hname ▸ hn) hrange hm, fun hk => ?_⟩, rfl⟩
  exact Fields.forall_get?_put (fun hg => hs.shift _ _ hg) hsound hk

theorem renameColumn_sound {t t' : Table} {c c' : Column} {db stored : Database} (hs : t.Sound)
    (hc : t.columns.get? old = some c) (hp : old ∉ Column.protectedNames) (hn : Name.IsNormal new)
    (h : renameColumn table old new t c db = .ok (t', c', stored)) :
    t'.Sound ∧ t'.columns.get? c'.name = some c' ∧ c'.name ∉ Column.protectedNames := by
  obtain ⟨hnew, -, rfl, rfl⟩ := renameColumn_eq_ok h
  refine ⟨⟨hs.rename hc hp hnew hn, fun hk => ?_⟩, by simp [Table.put, Fields.get?_put],
    fun hm => hnew (hs.mem_keys_of_protected hm)⟩
  exact Fields.forall_get?_put (Fields.forall_get?_drop hs.columns) ((hs.columns hc).called new) hk

theorem retypeColumn_sound {t t' : Table} {c c' : Column} {type : ColumnType}
    {db stored : Database} (hs : t.Sound) (hc : t.columns.get? c.name = some c)
    (hp : c.name ∉ Column.protectedNames) (htype : type.isOther = false)
    (h : retypeColumn table type t c db = .ok (t', c', stored)) : t'.Sound := by
  obtain ⟨-, rfl, rfl⟩ := retypeColumn_eq_ok h
  refine ⟨hs.revise hc rfl rfl (.inr hp), fun hk => ?_⟩
  exact Fields.forall_get?_put hs.columns (Column.sound_of_type c.name htype c.index c.hidden) hk

theorem editColumn_sound (id table : String) {name? : Option String} {type? : Option ColumnType}
    (hp : old ∉ Column.protectedNames) (hn : ∀ new ∈ name?, Name.IsNormal new)
    (htype : ∀ type ∈ type?, type.isOther = false) : (editColumn id table old name? type?).Sound := by
  intro r db out hr h
  obtain ⟨t, c, t₁, c₁, db₁, t₂, c₂, ht, hc, hfirst, hsecond, hout⟩ := editColumn_eq_ok h
  have hs := hr.tables ht
  have hfirst' : t₁.Sound ∧ t₁.columns.get? c₁.name = some c₁ ∧ c₁.name ∉ Column.protectedNames := by
    rcases hfirst with ⟨-, heq⟩ | ⟨new, hnew, -, hrename⟩
    · simp only [Prod.mk.injEq] at heq
      obtain ⟨rfl, rfl, rfl⟩ := heq
      have hname := (hs.named hc).1
      exact ⟨hs, hname.symm ▸ hc, hname.symm ▸ hp⟩
    · exact renameColumn_sound hs hc hp (hn new hnew) hrename
  have hsecond' : t₂.Sound := by
    rcases hsecond with ⟨-, heq⟩ | ⟨type, hty, -, hretype⟩
    · simp only [Prod.mk.injEq] at heq
      exact heq.1 ▸ hfirst'.1
    · exact retypeColumn_sound hfirst'.1 hfirst'.2.1 hfirst'.2.2 (htype type hty) hretype
  exact ⟨hout ▸ hr.replace ht hsecond', hout ▸ rfl⟩

theorem deleteColumn_sound (table : String) (hp : name ∉ Column.protectedNames) :
    (deleteColumn table name).Sound := by
  intro r db out hr h
  obtain ⟨t, c, stored, ht, hc, -, rfl⟩ := deleteColumn_eq_ok h
  have hs := hr.tables ht
  refine ⟨hr.replace ht ⟨hs.remove hc hp, fun hk => ?_⟩, rfl⟩
  rw [Table.get?_shift] at hk
  obtain ⟨d, hd, rfl⟩ := Option.map_eq_some_iff.mp hk
  have hsound : d.Sound := Fields.forall_get?_drop hs.columns hd
  split
  · exact hsound.at _
  · exact hsound

/-- A column may be revised as long as it keeps its name, its type and its place. -/
theorem revise_sound (table name : String) {f : Column → Except Error Column}
    (hf : ∀ c d, c.Sound → f c = .ok d → d.Sound ∧ d.name = c.name ∧ d.index = c.index ∧
      d.type = c.type) : (revise table name f).Sound := by
  intro r a r' hr h
  obtain ⟨t, c, ht, hc, hd, rfl⟩ := revise_eq_ok h
  have hs := hr.tables ht
  obtain ⟨hsound, hname, hindex, htype⟩ := hf c a (hs.columns hc) hd
  refine ⟨hr.replace ht ⟨hs.revise hc hname hindex (.inl htype), fun hk => ?_⟩, rfl⟩
  exact Fields.forall_get?_put hs.columns hsound hk

theorem setColumnVisibility_sound (table name : String) (hidden : Bool) :
    (setColumnVisibility table name hidden).Sound := by
  refine revise_sound table name fun c d hc hd => ?_
  obtain rfl := Except.ok.inj hd
  exact ⟨hc.shown hidden, rfl, rfl, rfl⟩

theorem swapColumn_sound (table : String) (hp : name ∉ Column.protectedNames) (index : Int) :
    (swapColumn table name index).Sound := by
  intro r a r' hr h
  obtain ⟨t, c, ht, hc, rfl | ⟨key, other, hm, hne, hother, rfl⟩⟩ := swapColumn_eq_ok h
  · exact ⟨hr, rfl⟩
  have hs := hr.tables ht
  have hkey : t.columns.get? key = some other := hs.get?_of_mem hm
  refine ⟨hr.replace ht ⟨hs.exchange hc hkey hne hp ((hs.named hkey).1 ▸ hother), fun hk => ?_⟩, rfl⟩
  exact Fields.forall_get?_put (Fields.forall_get?_put hs.columns ((hs.columns hkey).at _))
    ((hs.columns hc).at _) hk

theorem moveColumn_sound (table : String) (hp : name ∉ Column.protectedNames) (index : Int) :
    (moveColumn table name index).Sound := by
  intro r a r' hr h
  obtain ⟨t, c, between, step, ht, hc, hrange, hb, hm, rfl⟩ := moveColumn_eq_ok h
  have hs := hr.tables ht
  refine ⟨hr.replace ht ⟨hs.move hc hp hrange hb hm, fun hk => ?_⟩, rfl⟩
  exact Fields.forall_get?_put (fun hg => hs.shift _ _ hg) ((hs.columns hc).at _) hk

/-- A tag that is new to a vocabulary comes last there. -/
theorem registerTag_sound (table name : String) {tag : String} (hn : Name.IsNormal tag)
    {description : Value} (hd : Json.IsPlain description) :
    (registerTag table name tag description).Sound := by
  refine revise_sound table name fun c d hc hcd => ?_
  simp only [bind_eq_ok_iff, throw_eq_error, check_eq_ok_iff] at hcd
  obtain ⟨u, htags, hnew, hcd⟩ := hcd
  obtain rfl := Except.ok.inj hcd
  have htype : c.type.isTag = true := by
    unfold ensureTags at htags
    split at htags <;> simp_all
  rw [Column.hasTag_iff] at hnew
  refine ⟨⟨hc.catalog, fun t ht => ?_, by simp [htype], hc.rule, hc.ruleless, fun t ht => ?_, ?_,
    hc.compiled⟩, rfl, rfl, rfl⟩
  · rcases List.mem_append.mp ht with ht | ht
    · exact hc.tags t ht
    · obtain rfl := List.mem_singleton.mp ht
      exact ⟨trivial, hd⟩
  · rcases List.mem_append.mp ht with ht | ht
    · exact hc.named t ht
    · obtain rfl := List.mem_singleton.mp ht
      exact ⟨tag, rfl, hn⟩
  · rw [List.map_append, List.nodup_append]
    refine ⟨hc.distinct, by simp, fun v hv v' hv' heq => hnew ?_⟩
    obtain rfl : v = .text tag := heq.trans (List.mem_singleton.mp hv')
    exact hv

theorem unregisterTag_sound (table name tag : String) : (unregisterTag table name tag).Sound := by
  refine revise_sound table name fun c d hc hcd => ?_
  simp only [bind_eq_ok_iff] at hcd
  obtain ⟨-, -, hcd⟩ := hcd
  obtain rfl := Except.ok.inj hcd
  have hsub : (c.tags.filter (isOtherTag tag)).Sublist c.tags := List.filter_sublist
  refine ⟨⟨hc.catalog, fun t ht => hc.tags t (hsub.subset ht), fun hno => ?_, hc.rule, hc.ruleless,
    fun t ht => hc.named t (hsub.subset ht), (hsub.map _).nodup hc.distinct, hc.compiled⟩,
    rfl, rfl, rfl⟩
  simp [hc.tagless hno]

theorem setRule_sound (table name : String) (rule : Value) : (setRule table name rule).Sound := by
  refine revise_sound table name fun c d hc hcd => ?_
  simp only [throw_eq_error, check_eq_ok_iff] at hcd
  obtain ⟨htype, hcd⟩ := hcd
  split at hcd
  · next s =>
    obtain ⟨p, hp, hcd⟩ := bind_eq_ok_iff.mp hcd
    obtain rfl := Except.ok.inj hcd
    refine ⟨⟨hc.catalog, hc.tags, hc.tagless, trivial, fun hno => ?_, hc.named, hc.distinct, s, rfl,
      fun _ => ⟨p, hp⟩⟩, rfl, rfl, rfl⟩
    exact absurd (Decidable.not_not.mp htype) hno
  · simp at hcd

end Schema

end Cabinet

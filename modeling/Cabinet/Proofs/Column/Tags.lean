import Cabinet.Column.Accept
import Cabinet.Proofs.Except
import Cabinet.Proofs.Words

/-!
Texts of tags: which values give one, and that such a text gives itself again.
-/

namespace Cabinet

namespace Text

/-- Words with single spaces between them are the words of the text. -/
theorem words_intercalate {pieces : List (List Char)} (hne : ∀ piece ∈ pieces, piece ≠ [])
    (h : ∀ piece ∈ pieces, ∀ c ∈ piece, isBlank c = false) : words ([' '].intercalate pieces) = pieces := by
  have hfirst : firstAndWords ([' '].intercalate pieces) = (pieces.headD [], pieces.tail) := by
    induction pieces with
    | nil => rfl
    | cons piece rest ih =>
      have hpiece := firstAndWords_append (h piece List.mem_cons_self)
      cases rest with
      | nil => simpa [firstAndWords] using hpiece []
      | cons next rest =>
        have ih := ih (fun p hp => hne p (List.mem_cons_of_mem _ hp))
          fun p hp => h p (List.mem_cons_of_mem _ hp)
        have hnext : next ≠ [] := hne next (List.mem_cons_of_mem _ List.mem_cons_self)
        have hblank : isBlank ' ' = true := by decide
        rw [List.intercalate_cons_cons, List.append_assoc, hpiece, List.singleton_append, firstAndWords,
          ih, hblank]
        simp [hnext]
  rw [words, hfirst]
  cases pieces with
  | nil => rfl
  | cons piece rest => simp [hne piece List.mem_cons_self]

end Text

namespace Column

variable {c : Column} {v : Value} {words : List String} {s : String}

/-- The words of tag input are normal names. -/
theorem isNormal_of_mem_tagWords {s tag : String} (h : tag ∈ tagWords s) : Name.IsNormal tag := by
  simp only [tagWords, List.mem_map, List.mem_filter, Bool.not_eq_eq_eq_not, Bool.not_true] at h
  obtain ⟨word, ⟨⟨raw, -, rfl⟩, hword⟩, rfl⟩ := h
  refine ⟨fun hempty => ?_, ?_⟩
  · have hnil := congrArg String.toList hempty
    simp_all
  · rw [Name.normalize, String.toList_ofList, Name.normalizeChars_normalizeChars]

/-- Normal names with single spaces between them are the words of tag input. -/
theorem tagWords_intercalate {tags : List String} (h : ∀ tag ∈ tags, Name.IsNormal tag) :
    tagWords (" ".intercalate tags) = tags := by
  have hchars : ∀ tag ∈ tags, Name.normalizeChars tag.toList = tag.toList := fun tag htag => by
    have hnormal := congrArg String.toList (h tag htag).normalize_eq
    rwa [Name.normalize, String.toList_ofList] at hnormal
  have hwords : Text.words (" ".intercalate tags).toList = tags.map String.toList := by
    rw [String.toList_intercalate]
    refine Text.words_intercalate (fun piece hpiece => ?_) fun piece hpiece ch hch => ?_
    · obtain ⟨tag, htag, rfl⟩ := List.mem_map.mp hpiece
      simpa using (h tag htag).ne_empty
    · obtain ⟨tag, htag, rfl⟩ := List.mem_map.mp hpiece
      exact (Name.mem_normalizeChars (hchars tag htag ▸ hch)).1
  have hmap : (tags.map String.toList).map Name.normalizeChars = tags.map String.toList := by
    rw [List.map_map]
    exact List.map_congr_left hchars
  have hkept : (tags.map String.toList).filter (!·.isEmpty) = tags.map String.toList := by
    refine List.filter_eq_self.mpr fun piece hpiece => ?_
    obtain ⟨tag, htag, rfl⟩ := List.mem_map.mp hpiece
    simpa using (h tag htag).ne_empty
  rw [tagWords, hwords, hmap, hkept, List.map_map]
  exact (List.map_congr_left fun tag _ => String.ofList_toList).trans (List.map_id tags)

/-- Texts in which tags are given. -/
inductive TagTexts : Value → List String → Prop
  | text (s : String) : TagTexts (.text s) [s]
  | list (texts : List String) : TagTexts (.list (texts.map .text)) texts

theorem itemTexts_eq_ok {items : List Value} {texts : List String} :
    c.itemTexts items = .ok texts ↔ items = texts.map .text := by
  induction items generalizing texts with
  | nil => cases texts <;> simp [itemTexts]
  | cons v rest ih =>
    cases v with
    | text s =>
      rw [itemTexts, bind_eq_ok_iff]
      constructor
      · rintro ⟨others, hothers, h⟩
        obtain rfl := Except.ok.inj h
        rw [ih.mp hothers, List.map_cons]
      · intro h
        cases texts with
        | nil => cases h
        | cons t others =>
          obtain ⟨hs, hrest⟩ := List.cons.inj h
          obtain rfl := Value.text.inj hs
          exact ⟨others, ih.mpr hrest, rfl⟩
    | _ => cases texts <;> simp [itemTexts, reject]

/-- The words of tag input are those of its texts. -/
theorem tagInput_eq_ok :
    c.tagInput v = .ok words ↔ ∃ texts, TagTexts v texts ∧ words = texts.flatMap tagWords := by
  constructor
  · intro h
    unfold tagInput at h
    split at h
    · next s => exact ⟨[s], .text s, by simpa using (Except.ok.inj h).symm⟩
    · obtain ⟨texts, htexts, h⟩ := bind_eq_ok_iff.mp h
      rw [itemTexts_eq_ok.mp htexts]
      exact ⟨texts, .list texts, (Except.ok.inj h).symm⟩
    · simp [reject] at h
  · rintro ⟨texts, htexts, rfl⟩
    cases htexts with
    | text s => simp [tagInput]
    | list =>
      rw [tagInput, itemTexts_eq_ok.mpr rfl]
      rfl

/-- Whether the words of tag input are all registered, and no more than the column may hold. -/
structure Registers (c : Column) (words : List String) : Prop where
  registered : ∀ tag ∈ words, tag ∈ c.tagNames
  single : c.type = .singleTag → words.eraseDups.length ≤ 1

/-- Tags are accepted if they are given by texts whose words are registered, and then they are put in
order. -/
theorem acceptTags_eq_ok (hnames : c.tags.all (canLookUp ·.name) = true) :
    c.acceptTags v = .ok s ↔ ∃ texts, TagTexts v texts ∧ c.Registers (texts.flatMap tagWords) ∧
      s = " ".intercalate (Text.sort (texts.flatMap tagWords).eraseDups) := by
  have hlength : ∀ words : List String, (Text.sort words).length = words.length := fun words =>
    (List.mergeSort_perm words _).length_eq
  rw [acceptTags, bind_eq_ok_iff]
  simp only [hnames, Bool.not_true, Bool.false_eq_true, if_false, throw_eq_error, tagInput_eq_ok]
  constructor
  · rintro ⟨_, ⟨texts, htexts, rfl⟩, h⟩
    refine ⟨texts, htexts, ?_⟩
    split at h
    · cases h
    · next hnone =>
      split at h
      · simp [reject] at h
      · next hlong =>
        rw [List.find?_eq_none] at hnone
        refine ⟨⟨fun tag htag => by simpa [hasTag] using hnone tag htag, fun hsingle => ?_⟩,
          (Except.ok.inj h).symm⟩
        rw [← hlength]
        exact Nat.not_lt.mp fun hlt => hlong ⟨hsingle, hlt⟩
  · rintro ⟨texts, htexts, hregisters, rfl⟩
    refine ⟨_, ⟨texts, htexts, rfl⟩, ?_⟩
    have hnone : (texts.flatMap tagWords).find? (!c.hasTag ·) = none :=
      List.find?_eq_none.mpr fun tag htag => by simpa [hasTag] using hregisters.registered tag htag
    rw [hnone]
    refine if_neg fun hlong => ?_
    rw [hlength] at hlong
    exact Nat.not_lt.mpr (hregisters.single hlong.1) hlong.2

/-- Tags are accepted only where the names of all that are registered can be looked up. -/
theorem canLookUp_of_acceptTags (h : c.acceptTags v = .ok s) :
    c.tags.all (canLookUp ·.name) = true := by
  rw [acceptTags] at h
  obtain ⟨words, -, h⟩ := bind_eq_ok_iff.mp h
  simp only [throw_eq_error, check_eq_ok_iff] at h
  simpa using h.1

theorem reject_eq_error {α : Type} {detail : String} {e : Error} (htype : c.type.isOther = false)
    (h : (c.reject detail : Except Error α) = .error e) : e = .rejected c.type c.name detail := by
  simp only [reject, htype, Bool.false_eq_true, if_false] at h
  exact (Except.error.inj h).symm

theorem itemTexts_eq_error {items : List Value} {e : Error} (htype : c.type.isOther = false)
    (h : c.itemTexts items = .error e) : ∃ detail, e = .rejected c.type c.name detail := by
  induction items with
  | nil => cases h
  | cons v rest ih =>
    cases v with
    | text s =>
      rw [itemTexts] at h
      cases hrest : c.itemTexts rest with
      | error e' => exact ih (by simpa [hrest] using h)
      | ok others => simp [hrest] at h
    | _ => exact ⟨_, reject_eq_error htype h⟩

theorem tagInput_eq_error {e : Error} (htype : c.type.isOther = false)
    (h : c.tagInput v = .error e) : ∃ detail, e = .rejected c.type c.name detail := by
  unfold tagInput at h
  split at h
  · cases h
  · next items =>
    cases htexts : c.itemTexts items with
    | error e' =>
      rw [htexts, error_bind] at h
      exact itemTexts_eq_error htype (htexts.trans h)
    | ok texts => simp [htexts] at h
  · exact ⟨_, reject_eq_error htype h⟩

/-- Tags that are not accepted are refused, for the column or for one that is not registered. -/
theorem acceptTags_eq_error {e : Error} (hnames : c.tags.all (canLookUp ·.name) = true)
    (htype : c.type.isOther = false) (h : c.acceptTags v = .error e) :
    (∃ detail, e = .rejected c.type c.name detail) ∨
      ∃ tag, tag ∉ c.tagNames ∧ e = .unregisteredTag tag c.name := by
  rw [acceptTags] at h
  cases hwords : c.tagInput v with
  | error e' =>
    rw [hwords, error_bind] at h
    obtain rfl := Except.error.inj h
    exact .inl (tagInput_eq_error htype hwords)
  | ok words =>
    simp only [hwords, ok_bind, hnames, Bool.not_true, Bool.false_eq_true, if_false, throw_eq_error] at h
    split at h
    · next tag htag =>
      refine .inr ⟨tag, ?_, (Except.error.inj h).symm⟩
      simpa [hasTag] using List.find?_some htag
    · split at h
      · exact .inl ⟨_, reject_eq_error htype h⟩
      · cases h

/-- A text of registered tags is accepted as it is. -/
theorem acceptTags_acceptTags (hnames : c.tags.all (canLookUp ·.name) = true)
    (h : c.acceptTags v = .ok s) : c.acceptTags (.text s) = .ok s := by
  obtain ⟨texts, -, hregisters, rfl⟩ := (acceptTags_eq_ok hnames).mp h
  generalize htags : Text.sort (texts.flatMap tagWords).eraseDups = tags
  have hperm : tags.Perm (texts.flatMap tagWords).eraseDups := htags ▸ List.mergeSort_perm _ _
  have hnodup : tags.Nodup := hperm.nodup_iff.mpr (Text.nodup_eraseDups _)
  have hmem : ∀ {tag}, tag ∈ tags → tag ∈ texts.flatMap tagWords := fun htag =>
    List.mem_eraseDups.mp (hperm.mem_iff.mp htag)
  have hnormal : ∀ tag ∈ tags, Name.IsNormal tag := by
    intro tag htag
    obtain ⟨s, -, hs⟩ := List.mem_flatMap.mp (hmem htag)
    exact isNormal_of_mem_tagWords hs
  refine (acceptTags_eq_ok hnames).mpr ⟨_, .text _, ?_⟩
  rw [List.flatMap_singleton, tagWords_intercalate hnormal,
    Text.sort_eraseDups hnodup (htags ▸ Text.pairwise_sort _)]
  refine ⟨⟨fun tag htag => hregisters.registered tag (hmem htag), fun hsingle => ?_⟩, rfl⟩
  rw [Text.eraseDups_of_nodup hnodup, hperm.length_eq]
  exact hregisters.single hsingle

end Column

end Cabinet

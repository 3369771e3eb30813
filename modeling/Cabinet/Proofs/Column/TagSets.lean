import Cabinet.Proofs.Column.Tags
import Mathlib

/-!
Tags as sets: a column of tags holds the set of the tags that it is given, in order and with single
spaces between them, however they were written.
-/

namespace Cabinet

/-- The words of some texts, in the order in which they come. -/
def writtenWords (texts : List String) : List String :=
  texts.flatMap fun s => (Text.words s.toList).map String.ofList

/-- The tags that some texts name. -/
def tagSet (texts : List String) : Finset String :=
  ((writtenWords texts).map Name.normalize).toFinset

/-- The text of a set of tags: in order, with single spaces between them. -/
def tagText (tags : Finset String) : String :=
  " ".intercalate (tags.sort (· ≤ ·))

/-- A text in lower case. -/
def lowered (s : String) : String :=
  String.ofList (Text.lower s.toList)

/-- A text with the letters `A` to `Z` in lower case. -/
def withoutCapitals (s : String) : String :=
  String.ofList (Text.foldAscii s.toList)

/-- Whether a column may hold a set of tags. -/
structure Column.Permits (c : Column) (tags : Finset String) : Prop where
  registered : ∀ tag ∈ tags, tag ∈ c.tagNames
  single : c.type = .singleTag → tags.card ≤ 1

variable {texts : List String}

theorem writtenWords_singleton (s : String) :
    writtenWords [s] = (Text.words s.toList).map String.ofList := by
  rw [writtenWords, List.flatMap_singleton]

/-- A word that is written is normalised by lower-casing it. -/
theorem normalize_of_mem_writtenWords {word : String} (h : word ∈ writtenWords texts) :
    Name.normalize word = lowered word := by
  obtain ⟨s, -, hword⟩ := List.mem_flatMap.mp h
  obtain ⟨chars, hchars, rfl⟩ := List.mem_map.mp hword
  rw [Name.normalize, lowered, String.toList_ofList, (Text.isWord_of_mem_words hchars).normalizeChars_eq]

theorem map_normalize_writtenWords (texts : List String) :
    (writtenWords texts).map Name.normalize = (writtenWords texts).map lowered :=
  List.map_congr_left fun _ => normalize_of_mem_writtenWords

theorem tagWords_eq (s : String) :
    Column.tagWords s = (writtenWords [s]).map Name.normalize := by
  have hne : ∀ word ∈ Text.words s.toList, Name.normalizeChars word ≠ [] := fun word hword => by
    have h := Text.isWord_of_mem_words hword
    rw [h.normalizeChars_eq, Text.lower, ne_eq, Text.lowerAfter_eq_nil_iff]
    exact h.ne_nil
  have hkept : ((Text.words s.toList).map Name.normalizeChars).filter (!·.isEmpty) =
      (Text.words s.toList).map Name.normalizeChars := by
    refine List.filter_eq_self.mpr fun chars hchars => ?_
    obtain ⟨word, hmem, rfl⟩ := List.mem_map.mp hchars
    simpa using hne word hmem
  rw [Column.tagWords, hkept, writtenWords_singleton, List.map_map, List.map_map]
  exact List.map_congr_left fun word _ => by simp [Name.normalize]

/-- The words of tag input are the written words, each normalised. -/
theorem flatMap_tagWords (texts : List String) :
    texts.flatMap Column.tagWords = (writtenWords texts).map Name.normalize := by
  induction texts with
  | nil => rfl
  | cons s rest ih =>
    rw [List.flatMap_cons, ih, tagWords_eq, ← List.map_append, writtenWords_singleton]
    rfl

/-- Tags are normal names. -/
theorem isNormal_of_mem_tagSet {tag : String} (h : tag ∈ tagSet texts) : Name.IsNormal tag := by
  rw [tagSet, ← flatMap_tagWords, List.mem_toFinset] at h
  obtain ⟨s, -, hs⟩ := List.mem_flatMap.mp h
  exact Column.isNormal_of_mem_tagWords hs

/-- Texts without repetition, in order, are the set of them in order. -/
theorem sort_eraseDups_eq (texts : List String) :
    Text.sort texts.eraseDups = texts.toFinset.sort (· ≤ ·) := by
  have hnodup := Text.nodup_sort (Text.nodup_eraseDups texts)
  have hset : texts.toFinset = (Text.sort texts.eraseDups).toFinset := by
    ext tag
    rw [List.mem_toFinset, List.mem_toFinset, Text.sort, List.mem_mergeSort, List.mem_eraseDups]
  rw [hset]
  refine ((List.toFinset_sort (· ≤ ·) hnodup).mpr ?_).symm
  exact (Text.pairwise_sort _).imp Text.precedes_toList_iff.mp

/-- Splitting the text of a set of tags gives the set. -/
theorem writtenWords_tagText {tags : Finset String} (h : ∀ tag ∈ tags, Name.IsNormal tag) :
    writtenWords [tagText tags] = tags.sort (· ≤ ·) := by
  have hchars : ∀ tag ∈ tags, ∀ c ∈ tag.toList, Text.isBlank c = false := fun tag htag c hc => by
    rw [← (h tag htag).normalize_eq, Name.normalize, String.toList_ofList] at hc
    exact (Name.mem_normalizeChars hc).1
  have hspace : " ".toList = [' '] := rfl
  rw [writtenWords_singleton, tagText, String.toList_intercalate, hspace, Text.words_intercalate,
    List.map_map]
  · exact (List.map_congr_left fun _ _ => String.ofList_toList).trans (List.map_id _)
  · intro piece hpiece
    obtain ⟨tag, htag, rfl⟩ := List.mem_map.mp hpiece
    simpa using (h tag ((Finset.mem_sort _).mp htag)).ne_empty
  · intro piece hpiece
    obtain ⟨tag, htag, rfl⟩ := List.mem_map.mp hpiece
    exact hchars tag ((Finset.mem_sort _).mp htag)

theorem tagSet_tagText {tags : Finset String} (h : ∀ tag ∈ tags, Name.IsNormal tag) :
    tagSet [tagText tags] = tags := by
  ext tag
  rw [tagSet, writtenWords_tagText h, List.mem_toFinset, List.mem_map]
  constructor
  · rintro ⟨word, hword, rfl⟩
    have hmem := (Finset.mem_sort _).mp hword
    rwa [(h word hmem).normalize_eq]
  · exact fun htag => ⟨tag, (Finset.mem_sort _).mpr htag, (h tag htag).normalize_eq⟩

/-- It makes no difference whether texts stand in a list or in one text. -/
theorem writtenWords_intercalate (texts : List String) :
    writtenWords [" ".intercalate texts] = writtenWords texts := by
  have hspace : " ".toList = [' '] := rfl
  rw [writtenWords_singleton, String.toList_intercalate, hspace, Text.words_intercalate_texts,
    List.flatMap_map, List.map_flatMap]
  rfl

/-- The words of texts in lower case are their words in lower case. -/
theorem writtenWords_map_lowered (texts : List String) :
    writtenWords (texts.map lowered) = (writtenWords texts).map lowered := by
  rw [writtenWords, writtenWords, List.flatMap_map, List.map_flatMap]
  refine List.flatMap_congr fun s _ => ?_
  simp [lowered, Text.words_lower]

theorem lowered_withoutCapitals (s : String) : lowered (withoutCapitals s) = lowered s := by
  rw [lowered, withoutCapitals, String.toList_ofList, Text.lower_foldAscii, lowered]

/-- The lower-case forms do not show which of the letters `A` to `Z` are capitals. -/
theorem map_lowered_of_withoutCapitals {texts' : List String}
    (h : texts.map withoutCapitals = texts'.map withoutCapitals) :
    texts.map lowered = texts'.map lowered := by
  have hlower : ∀ texts : List String,
      (texts.map withoutCapitals).map lowered = texts.map lowered := fun texts => by
    rw [List.map_map]
    exact List.map_congr_left fun s _ => lowered_withoutCapitals s
  rw [← hlower, h, hlower]

namespace Column

variable {c : Column} {v v' : Value} {texts' : List String} {s : String}

/-- What is registered and may be held, said of the set. -/
theorem registers_iff : c.Registers (texts.flatMap tagWords) ↔ c.Permits (tagSet texts) := by
  have hmem : ∀ tag, tag ∈ tagSet texts ↔ tag ∈ texts.flatMap tagWords := fun tag => by
    rw [flatMap_tagWords, tagSet, List.mem_toFinset]
  have hcard : (tagSet texts).card = (texts.flatMap tagWords).eraseDups.length := by
    have hlength : (Text.sort (texts.flatMap tagWords).eraseDups).length = _ :=
      (List.mergeSort_perm (texts.flatMap tagWords).eraseDups _).length_eq
    rw [← hlength, sort_eraseDups_eq, Finset.length_sort, flatMap_tagWords, tagSet]
  constructor
  · exact fun h => ⟨fun tag htag => h.registered tag ((hmem tag).mp htag),
      fun hsingle => hcard ▸ h.single hsingle⟩
  · exact fun h => ⟨fun tag htag => h.registered tag ((hmem tag).mpr htag),
      fun hsingle => hcard ▸ h.single hsingle⟩

/-- A column of tags accepts the texts whose tags it may hold, and holds them as a set. -/
theorem acceptTags_eq_tagText (hnames : c.tags.all (canLookUp ·.name) = true) :
    c.acceptTags v = .ok s ↔
      ∃ texts, TagTexts v texts ∧ c.Permits (tagSet texts) ∧ s = tagText (tagSet texts) := by
  rw [acceptTags_eq_ok hnames]
  refine exists_congr fun texts => and_congr_right fun _ => and_congr registers_iff ?_
  rw [sort_eraseDups_eq, flatMap_tagWords, tagText, tagSet]

theorem TagTexts.unique (h : TagTexts v texts) (h' : TagTexts v texts') : texts = texts' := by
  cases h with
  | text s =>
    cases h'
    rfl
  | list =>
    generalize hitems : texts.map Value.text = items at h'
    cases h' with
    | list => exact List.map_injective_iff.mpr (fun _ _ => Value.text.inj) hitems

theorem acceptTags_of_tagTexts (hnames : c.tags.all (canLookUp ·.name) = true)
    (h : TagTexts v texts) :
    c.acceptTags v = .ok s ↔ c.Permits (tagSet texts) ∧ s = tagText (tagSet texts) := by
  rw [acceptTags_eq_tagText hnames]
  constructor
  · rintro ⟨texts', h', hs⟩
    exact h.unique h' ▸ hs
  · exact fun hs => ⟨texts, h, hs⟩

theorem tagInput_of_tagTexts (h : TagTexts v texts) :
    c.tagInput v = .ok ((writtenWords texts).map lowered) :=
  tagInput_eq_ok.mpr ⟨texts, h, by rw [flatMap_tagWords, map_normalize_writtenWords]⟩

/-- Only the words in lower case count, for an error too. -/
theorem acceptTags_congr (h : TagTexts v texts) (h' : TagTexts v' texts')
    (hwords : (writtenWords texts).map lowered = (writtenWords texts').map lowered) :
    c.acceptTags v = c.acceptTags v' := by
  rw [acceptTags, acceptTags, tagInput_of_tagTexts h, tagInput_of_tagTexts h', hwords]

/-- Only the first tag that is not registered is named. -/
theorem acceptTags_unregistered (hnames : c.tags.all (canLookUp ·.name) = true)
    (h : TagTexts v texts) {before after : List String} {tag : String}
    (hwords : (writtenWords texts).map Name.normalize = before ++ tag :: after)
    (hbefore : ∀ t ∈ before, t ∈ c.tagNames) (htag : tag ∉ c.tagNames) :
    c.acceptTags v = .error (.unregisteredTag tag c.name) := by
  have hfind : ((writtenWords texts).map Name.normalize).find? (!c.hasTag ·) = some tag := by
    rw [hwords]
    refine List.find?_eq_some_iff_append.mpr ⟨by simpa [hasTag] using htag, before, after, rfl, ?_⟩
    exact fun t ht => by simpa [hasTag] using hbefore t ht
  rw [map_normalize_writtenWords] at hfind
  simp only [acceptTags, tagInput_of_tagTexts h, ok_bind, hnames, hfind]
  rfl

/-- Only the lower-case forms of the texts count. -/
theorem acceptTags_of_lowered (h : TagTexts v texts) (h' : TagTexts v' texts')
    (hsame : texts.map lowered = texts'.map lowered) : c.acceptTags v = c.acceptTags v' :=
  acceptTags_congr h h' (by rw [← writtenWords_map_lowered, ← writtenWords_map_lowered, hsame])

/-- Tags are held as sets. Of a text, or of a list that holds texts alone, let the tags be its words,
each normalised. If the column may hold them then it holds the text of the set, which splits into the
set again and is taken as it is, and every set of tags that the column may hold is held for some text.
What is held depends on the set of the words in lower case alone: not on their order, their number or
the blanks between them. Nothing, errors included, depends on whether there is a list or a text, or on
what is not seen in lower case, as whether a letter `A` to `Z` is a capital. The first tag that is not
registered is the one that an error names. -/
theorem tags_held_as_sets (c : Column) (hnames : c.tags.all (canLookUp ·.name) = true) :
    (∀ v s, c.acceptTags v = .ok s ↔
      ∃ texts, TagTexts v texts ∧ c.Permits (tagSet texts) ∧ s = tagText (tagSet texts)) ∧
    (∀ v texts s, TagTexts v texts → c.acceptTags v = .ok s →
      writtenWords [s] = (tagSet texts).sort (· ≤ ·) ∧ c.acceptTags (.text s) = .ok s) ∧
    (∀ v v' texts texts', TagTexts v texts → TagTexts v' texts' →
      ((writtenWords texts).map lowered).toFinset = ((writtenWords texts').map lowered).toFinset →
      ∀ s, c.acceptTags v = .ok s ↔ c.acceptTags v' = .ok s) ∧
    (∀ texts : List String,
      c.acceptTags (.list (texts.map .text)) = c.acceptTags (.text (" ".intercalate texts))) ∧
    (∀ v v' texts texts', TagTexts v texts → TagTexts v' texts' →
      texts.map lowered = texts'.map lowered ∨
        texts.map withoutCapitals = texts'.map withoutCapitals →
      c.acceptTags v = c.acceptTags v') ∧
    (∀ tags : Finset String, (∀ tag ∈ tags, Name.IsNormal tag) → c.Permits tags →
      c.acceptTags (.text (tagText tags)) = .ok (tagText tags)) ∧
    ∀ v texts before tag after, TagTexts v texts →
      (writtenWords texts).map Name.normalize = before ++ tag :: after →
      (∀ t ∈ before, t ∈ c.tagNames) → tag ∉ c.tagNames →
      c.acceptTags v = .error (.unregisteredTag tag c.name) ∧
        (Error.unregisteredTag tag c.name).identifier? = some (.text tag) := by
  refine ⟨fun v s => acceptTags_eq_tagText hnames, fun v texts s h hs => ⟨?_, ?_⟩,
    fun v v' texts texts' h h' hwords s => ?_, fun texts => ?_, fun v v' texts texts' h h' hsame => ?_,
    fun tags hnormal hpermits => ?_, fun v texts before tag after h hwords hbefore htag => ?_⟩
  · obtain ⟨-, rfl⟩ := (acceptTags_of_tagTexts hnames h).mp hs
    exact writtenWords_tagText fun tag => isNormal_of_mem_tagSet
  · exact acceptTags_acceptTags hnames hs
  · -- The words of both give one set in lower case, and normalising goes through lower case.
    have hset : tagSet texts = tagSet texts' := by
      rw [tagSet, tagSet, map_normalize_writtenWords, map_normalize_writtenWords, hwords]
    rw [acceptTags_of_tagTexts hnames h, acceptTags_of_tagTexts hnames h', hset]
  · exact acceptTags_congr (.list texts) (.text _) (by rw [writtenWords_intercalate])
  · exact acceptTags_of_lowered h h' (hsame.elim id map_lowered_of_withoutCapitals)
  · have hset := tagSet_tagText hnormal
    exact (acceptTags_of_tagTexts hnames (.text _)).mpr ⟨hset.symm ▸ hpermits, by rw [hset]⟩
  · exact ⟨acceptTags_unregistered hnames h hwords hbefore htag, rfl⟩

/-- A column with two tags, the second of which ends in a small sigma. -/
def themes : Column :=
  { name := "theme", type := .multiTag, index := 6,
    tags := [{ name := .text "war" }, { name := .text "ασ" }] }

theorem themes_held_as_sets : themes.tags.all (canLookUp ·.name) = true ∧
    themes.acceptTags (.list [.text "ασ  War", .text "WAR"]) = .ok "war ασ" ∧
    themes.acceptTags (.text "ασ  War WAR") = .ok "war ασ" ∧
    themes.acceptTags (.text "war peace, love") = .error (.unregisteredTag "peace," "theme") := by
  have hnames : themes.tags.all (canLookUp ·.name) = true := rfl
  obtain ⟨-, -, -, hlist, -, -, hfirst⟩ := tags_held_as_sets themes hnames
  have htext : themes.acceptTags (.text "ασ  War WAR") = .ok "war ασ" := by cbv
  exact ⟨hnames, (hlist ["ασ  War", "WAR"]).trans htext, htext,
    (hfirst _ ["war peace, love"] ["war"] "peace," ["love"] (.text _) (by decide +kernel) (by decide)
      (by decide)).1⟩

/-- Case counts where lower-casing does not undo upper-casing: a capital sigma at the end of a word
becomes a final sigma, so of two texts that are one in capitals only one names the tag. -/
theorem capital_sigma_refused : Text.upper "ασ".toList = "ΑΣ".toList ∧
    Text.upper "ΑΣ".toList = "ΑΣ".toList ∧ themes.acceptTags (.text "ασ") = .ok "ασ" ∧
    themes.acceptTags (.text "ΑΣ") = .error (.unregisteredTag "ας" "theme") :=
  ⟨by decide +kernel, by decide +kernel, by cbv, by cbv⟩

end Column

end Cabinet

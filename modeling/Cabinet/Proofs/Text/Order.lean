import Cabinet.Text.Order
import Mathlib.Data.Finset.Sort
import Mathlib.Data.String.Basic

/-!
Texts in order, and without repetition.
-/

namespace Cabinet.Text

theorem precedes_total (s t : List Char) : (precedes s t || precedes t s) = true := by
  induction s generalizing t with
  | nil => rfl
  | cons a s ih =>
    cases t with
    | nil => rfl
    | cons b t =>
      have hrest := ih t
      simp only [precedes]
      grind

theorem precedes_trans {s t u : List Char} (h : precedes s t = true) (h' : precedes t u = true) :
    precedes s u = true := by
  induction s generalizing t u with
  | nil => rfl
  | cons a s ih =>
    cases t with
    | nil => simp [precedes] at h
    | cons b t =>
      cases u with
      | nil => simp [precedes] at h'
      | cons c u =>
        simp only [precedes] at h h' ⊢
        have hrest := @ih t u
        grind

/-- Texts that have been put in order. -/
theorem pairwise_sort (texts : List String) :
    (sort texts).Pairwise fun a b => precedes a.toList b.toList = true := by
  apply List.pairwise_mergeSort
  · exact fun _ _ _ => precedes_trans
  · exact fun a b => precedes_total a.toList b.toList

theorem nodup_sort {texts : List String} (h : texts.Nodup) : (sort texts).Nodup :=
  (List.mergeSort_perm texts _).nodup_iff.mpr h

theorem nodup_eraseDups (texts : List String) : texts.eraseDups.Nodup := by
  match texts with
  | [] => exact List.nodup_nil
  | s :: rest =>
    rw [List.eraseDups_cons]
    refine List.nodup_cons.mpr ⟨fun h => ?_, nodup_eraseDups _⟩
    simpa using List.mem_eraseDups.mp h
termination_by texts.length
decreasing_by
  have := List.length_filter_le (fun b => !b == s) rest
  simp only [List.length_cons]
  omega

theorem precedes_eq_false_iff {s t : List Char} : precedes s t = false ↔ t < s := by
  induction s generalizing t with
  | nil => simp [precedes]
  | cons a s ih =>
    cases t with
    | nil => simp [precedes]
    | cons b t =>
      rw [List.cons_lt_cons_iff, ← ih, precedes]
      grind

theorem precedes_toList_iff {a b : String} : precedes a.toList b.toList = true ↔ a ≤ b := by
  rw [← not_lt, String.lt_iff_toList_lt, ← precedes_eq_false_iff, Bool.not_eq_false]

theorem eraseDups_of_nodup {texts : List String} (h : texts.Nodup) : texts.eraseDups = texts := by
  induction texts with
  | nil => rfl
  | cons s rest ih =>
    obtain ⟨hnew, hrest⟩ := List.nodup_cons.mp h
    have hkept : rest.filter (fun t => !t == s) = rest := List.filter_eq_self.mpr fun t ht => by
      have hne : t ≠ s := fun heq => hnew (heq ▸ ht)
      simpa using hne
    rw [List.eraseDups_cons, hkept, ih hrest]

/-- Texts that are in order and differ are left as they are. -/
theorem sort_eraseDups {texts : List String} (hnodup : texts.Nodup)
    (h : texts.Pairwise fun a b => precedes a.toList b.toList = true) :
    sort texts.eraseDups = texts := by
  rw [eraseDups_of_nodup hnodup]
  exact List.mergeSort_of_pairwise h

end Cabinet.Text

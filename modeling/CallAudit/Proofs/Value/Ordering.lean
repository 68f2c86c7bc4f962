import CallAudit.Value.Ordering
import Mathlib.Data.List.Basic

/-!
# Sorting texts

Any texts can be sorted, sorting them as data is sorting them as texts, and the order in which they were
given leaves no trace.
-/

namespace CallAudit

namespace Datum

theorem before?_text (a b : String) : before? (.text a) (.text b) = some (decide (a < b)) := by
  unfold before?
  rfl

theorem allComparable_texts (texts : List String) : allComparable (texts.map .text) = true := by
  induction texts with
  | nil => rfl
  | cons text rest ih => simp [allComparable, ih, comparable, before?_text]

theorem sort?_texts (texts : List String) :
    sort? (texts.map .text) = some ((sortTexts texts).map .text) := by
  rw [sort?, if_pos (allComparable_texts texts), sortTexts, List.map_mergeSort]
  intro a _ b _
  rw [before?_text]
  rfl

end Datum

theorem sortTexts_perm (texts : List String) : (sortTexts texts).Perm texts :=
  List.mergeSort_perm texts _

theorem not_decide_lt_iff (a b : String) : (!decide (b < a)) = true ↔ a ≤ b := by
  rw [Bool.not_eq_true', decide_eq_false_iff_not, String.not_lt]

/-- Things sorted by a text have their texts in order. -/
theorem pairwise_mergeSort_by {α : Type} (text : α → String) (items : List α) :
    (items.mergeSort fun a b => !decide (text b < text a)).Pairwise fun a b => text a ≤ text b := by
  have hsorted : (items.mergeSort fun a b => !decide (text b < text a)).Pairwise fun a b =>
      (!decide (text b < text a)) = true := by
    apply List.pairwise_mergeSort
    · intro a b c
      rw [not_decide_lt_iff, not_decide_lt_iff, not_decide_lt_iff]
      exact String.le_trans
    · intro a b
      rw [Bool.or_eq_true, not_decide_lt_iff, not_decide_lt_iff]
      exact String.le_total (text a) (text b)
  exact hsorted.imp fun h => (not_decide_lt_iff _ _).mp h

theorem pairwise_sortTexts (texts : List String) : (sortTexts texts).Pairwise (· ≤ ·) :=
  pairwise_mergeSort_by id texts

/-- Texts in any order are sorted into one list. -/
theorem sortTexts_eq_of_perm {texts others : List String} (hperm : texts.Perm others) :
    sortTexts texts = sortTexts others := by
  have hsorted : (sortTexts texts).Perm (sortTexts others) :=
    (sortTexts_perm texts).trans (hperm.trans (sortTexts_perm others).symm)
  exact hsorted.eq_of_pairwise (fun _ _ _ _ => String.le_antisymm) (pairwise_sortTexts texts)
    (pairwise_sortTexts others)

end CallAudit

import CallAudit.Call.Basic
import CallAudit.Value.Equality
import Mathlib.Data.List.Induction

/-!
# Sets of values

The set made from some values has the same members as they, none of them twice. Names, the lack of a
name and expressions are equal only to themselves, so for these membership is that of lists.
-/

namespace CallAudit

section FirstOfEach

variable {α : Type} {same : α → α → Bool}

theorem firstOfEach_concat (items : List α) (item : α) :
    firstOfEach same (items ++ [item]) =
      if (firstOfEach same items).any (same item) then firstOfEach same items
      else firstOfEach same items ++ [item] := by
  simp [firstOfEach, List.foldl_append]

/-- No item that is kept equals one that is kept before it. -/
theorem pairwise_firstOfEach (items : List α) :
    (firstOfEach same items).Pairwise fun a b => same b a = false := by
  induction items using List.reverseRecOn with
  | nil => exact List.Pairwise.nil
  | append_singleton items item ih =>
    rw [firstOfEach_concat]
    split
    · exact ih
    · next hnew =>
      refine List.pairwise_append.mpr ⟨ih, by simp, ?_⟩
      intro a ha b hb
      rw [List.mem_singleton.mp hb]
      exact Bool.eq_false_iff.mpr fun hsame => hnew (List.any_eq_true.mpr ⟨a, ha, hsame⟩)

theorem firstOfEach_sublist (items : List α) : (firstOfEach same items).Sublist items := by
  induction items using List.reverseRecOn with
  | nil => exact List.Sublist.refl []
  | append_singleton items item ih =>
    rw [firstOfEach_concat]
    split
    · exact ih.trans (List.sublist_append_left items [item])
    · exact ih.append (List.Sublist.refl [item])

/-- An item that equals only itself is kept. -/
theorem mem_firstOfEach_iff {x : α} (hx : ∀ y, same x y = true → y = x) (items : List α) :
    x ∈ firstOfEach same items ↔ x ∈ items := by
  refine ⟨fun h => (firstOfEach_sublist items).subset h, fun h => ?_⟩
  induction items using List.reverseRecOn with
  | nil => cases h
  | append_singleton items item ih =>
    rw [firstOfEach_concat]
    cases List.mem_append.mp h with
    | inl hold =>
      split
      · exact ih hold
      · exact List.mem_append_left _ (ih hold)
    | inr hnew =>
      rw [List.mem_singleton.mp hnew] at hx ⊢
      split
      · next hany =>
        obtain ⟨y, hy, hsame⟩ := List.any_eq_true.mp hany
        exact hx y hsame ▸ hy
      · simp

/-- Each item is kept, or equals one that is kept. -/
theorem exists_mem_firstOfEach (same : α → α → Bool) {items : List α} {x : α} (hx : x ∈ items) :
    x ∈ firstOfEach same items ∨ ∃ y ∈ firstOfEach same items, same x y = true := by
  induction items using List.reverseRecOn with
  | nil => cases hx
  | append_singleton items item ih =>
    rw [firstOfEach_concat]
    cases List.mem_append.mp hx with
    | inl hold =>
      split
      · exact ih hold
      · refine (ih hold).imp (List.mem_append_left _) ?_
        rintro ⟨y, hy, hsame⟩
        exact ⟨y, List.mem_append_left _ hy, hsame⟩
    | inr hlast =>
      rw [List.mem_singleton.mp hlast]
      split
      · next hany => exact .inr (List.any_eq_true.mp hany)
      · exact .inl (by simp)

/-- The items that are not the same as any item before them, kept or not. -/
def withoutEarlier (same : α → α → Bool) (items : List α) : List α :=
  (items.zipIdx.filter fun (item, place) => !(items.take place).any (same item)).map (·.1)

theorem withoutEarlier_concat (items : List α) (item : α) :
    withoutEarlier same (items ++ [item]) =
      if items.any (same item) then withoutEarlier same items else withoutEarlier same items ++ [item] := by
  have hbefore : items.zipIdx.filter (fun (x, place) => !((items ++ [item]).take place).any (same x)) =
      items.zipIdx.filter fun (x, place) => !(items.take place).any (same x) := by
    apply List.filter_congr
    rintro ⟨x, place⟩ hentry
    have hplace : place < items.length := by simpa using (List.mem_zipIdx hentry).2.1
    dsimp only
    rw [List.take_append_of_le_length (Nat.le_of_lt hplace)]
  rw [withoutEarlier, List.zipIdx_append, List.filter_append, hbefore, List.map_append]
  cases hany : items.any (same item) <;> simp [hany, withoutEarlier]

/-- If equality carries over, whether the items kept so far or all the items before are compared with makes
    no difference. -/
theorem firstOfEach_eq_withoutEarlier {items : List α}
    (htrans : ∀ x ∈ items, ∀ y z, same x y = true → same y z = true → same x z = true) :
    firstOfEach same items = withoutEarlier same items := by
  induction items using List.reverseRecOn with
  | nil => rfl
  | append_singleton items item ih =>
    have hany : (firstOfEach same items).any (same item) = items.any (same item) := by
      rw [Bool.eq_iff_iff, List.any_eq_true, List.any_eq_true]
      constructor
      · rintro ⟨x, hx, hsame⟩
        exact ⟨x, (firstOfEach_sublist items).subset hx, hsame⟩
      · rintro ⟨x, hx, hsame⟩
        obtain hkept | ⟨y, hy, hequal⟩ := exists_mem_firstOfEach same hx
        · exact ⟨x, hkept, hsame⟩
        · exact ⟨y, hy, htrans item (by simp) x y hsame hequal⟩
    rw [firstOfEach_concat, withoutEarlier_concat, hany,
      ih fun x hx => htrans x (List.mem_append_left _ hx)]

/-- A search that does not tell equal items apart finds nothing more among the items left out. -/
theorem findSome?_firstOfEach {β : Type} {f : α → Option β}
    (hsame : ∀ x y, same x y = true → (f x).isSome = (f y).isSome) (items : List α) :
    (firstOfEach same items).findSome? f = items.findSome? f := by
  induction items using List.reverseRecOn with
  | nil => rfl
  | append_singleton items item ih =>
    rw [firstOfEach_concat, List.findSome?_append, ← ih]
    split
    · next hany =>
      obtain ⟨x, hx, hequal⟩ := List.any_eq_true.mp hany
      cases hfound : (firstOfEach same items).findSome? f with
      | some result => rfl
      | none =>
        -- An item equal to one in which nothing is found has nothing in it either.
        have hnone : f item = none := by
          apply Option.not_isSome_iff_eq_none.mp
          rw [hsame item x hequal, List.findSome?_eq_none_iff.mp hfound x hx]
          exact Bool.false_ne_true
        rw [Option.none_or, List.findSome?_singleton, hnone]
    · exact List.findSome?_append

/-- A search finds nothing more among items in which it finds nothing. -/
theorem findSome?_filter {β : Type} {f : α → Option β} {p : α → Bool}
    (hnothing : ∀ x, p x = false → f x = none) (items : List α) :
    (items.filter p).findSome? f = items.findSome? f := by
  induction items with
  | nil => rfl
  | cons item items ih =>
    cases hkept : p item with
    | true => rw [List.filter_cons_of_pos hkept, List.findSome?_cons, List.findSome?_cons, ih]
    | false =>
      rw [List.filter_cons_of_neg (Bool.eq_false_iff.mp hkept), ih, List.findSome?_cons,
        hnothing item hkept]

/-- Keeping what equals nothing kept before is dropping duplicates. -/
theorem firstOfEach_eq_eraseDupsBy (same : α → α → Bool) (items : List α) :
    firstOfEach same items = items.eraseDupsBy same := by
  have hloop (items kept : List α) :
      items.foldl (fun kept item => if kept.any (same item) then kept else kept ++ [item])
        kept.reverse = List.eraseDupsBy.loop same items kept := by
    induction items generalizing kept with
    | nil => rfl
    | cons item rest ih =>
      rw [List.foldl_cons, List.any_reverse, List.eraseDupsBy.loop]
      cases kept.any (same item) with
      | true => exact ih kept
      | false =>
        rw [if_neg Bool.false_ne_true, ← List.reverse_cons]
        exact ih (item :: kept)
  exact hloop items []

end FirstOfEach

namespace Value

@[simp] theorem ofName_inj {a b : Option String} : ofName a = ofName b ↔ a = b := by
  refine ⟨fun h => ?_, fun h => h ▸ rfl⟩
  have hname := congrArg name? h
  simpa using hname

/-- Nothing but a name itself equals it, from the other side. -/
theorem ofName_same_iff (name : Option String) (v : Value) :
    (ofName name).same v = true ↔ v = ofName name := by
  cases name <;> cases v <;> simp [ofName, same, magnitude?]
  exact eq_comm

/-- The members of the set made from some values, of those that equal only themselves. -/
theorem isIn_toSet {v : Value} (hv : ∀ w, v.same w = true ↔ w = v) (values : List Value) :
    v.isIn (toSet values) = v.isIn values := by
  have hmem (vs : List Value) : v.isIn vs = true ↔ v ∈ vs := by
    simp [isIn, hv]
  rw [Bool.eq_iff_iff, hmem, hmem]
  exact mem_firstOfEach_iff (fun w h => (hv w).mp h) values

end Value

/-- Texts can be members of a set. -/
theorem Datum.all_isStable_texts (texts : List String) : (texts.map text).all isStable = true := by
  rw [List.all_map, List.all_eq_true]
  exact fun _ _ => rfl

namespace Receiver

/-- What a call is made on equals only itself. -/
theorem value_same_iff (receiver : Receiver) (v : Value) :
    receiver.value.same v = true ↔ v = receiver.value := by
  cases receiver <;> cases v <;> simp [value, Value.same, Value.magnitude?] <;> exact eq_comm

/-- A condition on the key of a receiver is one on receivers that are no expressions. -/
theorem any_key? (receiver : Receiver) (p : Value → Bool) :
    (receiver.key?.any fun key => p (.ofName key)) = (!receiver.isExpression && p receiver.value) := by
  cases receiver <;> rfl

end Receiver

end CallAudit

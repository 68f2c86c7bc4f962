import CallAudit.Proofs.Json.RoundTrip
import Mathlib.Data.List.Nodup

/-!
# What the text of a datum depends on

The order of fields leaves no trace in the text, at any depth, as long as no object names a field twice:
fields of one name would keep the order in which they are given. The length of the text of a collection is
the sum of what its parts add to it, so every further item makes the text longer.
-/

namespace CallAudit

section Matching

variable {α β γ : Type}

/-- Maps that agree on related items agree on lists of them. -/
theorem map_eq_map_of_forall₂ {f : α → γ} {g : β → γ} {related : α → β → Prop} {as : List α}
    {bs : List β} (hlists : List.Forall₂ related as bs)
    (hrelated : ∀ a ∈ as, ∀ b, related a b → f a = g b) : as.map f = bs.map g := by
  induction hlists with
  | nil => rfl
  | @cons a b as bs hab _ ih =>
    have hrest := ih fun a' ha' => hrelated a' (List.mem_cons_of_mem a ha')
    rw [List.map_cons, List.map_cons, hrelated a List.mem_cons_self b hab, hrest]

end Matching

namespace Datum

/-- Data in which no object names a field twice. -/
inductive NamesOnce : Datum → Prop
  | null : NamesOnce .null
  | bool (b : Bool) : NamesOnce (.bool b)
  | int (i : Int) : NamesOnce (.int i)
  | double (d : Double) : NamesOnce (.double d)
  | text (s : String) : NamesOnce (.text s)
  | moment (m : Moment) : NamesOnce (.moment m)
  | list {items : List Datum} (each : ∀ item ∈ items, NamesOnce item) : NamesOnce (.list items)
  | object {fields : List (String × Datum)} (distinct : (fields.map (·.1)).Nodup)
      (each : ∀ field ∈ fields, NamesOnce field.2) : NamesOnce (.object fields)

end Datum

namespace Json

section Order

open Datum (NamesOnce Reordered)

/-- Fields with names of their own are sorted into one list from every order. -/
theorem mergeSort_byName_eq_of_perm {fields others : List (String × List Char)}
    (hdistinct : (fields.map (·.1)).Nodup) (hperm : fields.Perm others) :
    fields.mergeSort byName = others.mergeSort byName := by
  have hsorted : (fields.mergeSort byName).Perm (others.mergeSort byName) :=
    (List.mergeSort_perm fields byName).trans (hperm.trans (List.mergeSort_perm others byName).symm)
  refine hsorted.eq_of_pairwise ?_ (pairwise_mergeSort_by Prod.fst fields)
    (pairwise_mergeSort_by Prod.fst others)
  intro a b ha hb hab hba
  have hb' : b ∈ fields := hperm.mem_iff.mpr (List.mem_mergeSort.mp hb)
  apply List.inj_on_of_nodup_map hdistinct (List.mem_mergeSort.mp ha) hb'
  exact String.le_antisymm hab hba

theorem renderFields_eq_zip (fields : List (String × Datum)) :
    renderFields fields = (fields.map (·.1)).zip ((fields.map (·.2)).map render) := by
  induction fields with
  | nil => rfl
  | cons field fields ih =>
    rw [renderFields, ih]
    rfl

theorem names_renderFields (fields : List (String × Datum)) :
    (renderFields fields).map (·.1) = fields.map (·.1) := by
  rw [renderFields_eq_map, List.map_map]
  rfl

/-- The order of fields leaves no trace in the text. -/
theorem render_eq_of_reordered {a b : Datum} (ha : a.NamesOnce) (horder : a.Reordered b) :
    render a = render b := by
  induction ha generalizing b with
  | @list items _ ih =>
    cases horder with
    | @list _ others each =>
      have htexts : items.map render = others.map render :=
        map_eq_map_of_forall₂ each fun item hitem other => ih item hitem
      rw [render, render, renderAll_eq_map, renderAll_eq_map, htexts]
  | @object fields hdistinct _ ih =>
    cases horder with
    | @object _ ordered others names values order =>
      have htexts : (fields.map (·.2)).map render = (ordered.map (·.2)).map render := by
        apply map_eq_map_of_forall₂ values
        intro value hvalue other hother
        obtain ⟨field, hfield, rfl⟩ := List.mem_map.mp hvalue
        exact ih field hfield hother
      have hfields : renderFields fields = renderFields ordered := by
        rw [renderFields_eq_zip, renderFields_eq_zip, names, htexts]
      have hperm : (renderFields ordered).Perm (renderFields others) := by
        rw [renderFields_eq_map, renderFields_eq_map]
        exact order.map _
      have hnames : ((renderFields ordered).map (·.1)).Nodup := by
        rw [names_renderFields, ← names]
        exact hdistinct
      rw [render, render, hfields, mergeSort_byName_eq_of_perm hnames hperm]
  | _ => cases horder; rfl

end Order

section Length

theorem length_joinWithCommas {texts : List (List Char)} (hsome : texts ≠ []) :
    (joinWithCommas texts).length + 1 = (texts.map fun text => text.length + 1).sum := by
  induction texts with
  | nil => exact absurd rfl hsome
  | cons text rest ih =>
    cases rest with
    | nil => simp [joinWithCommas]
    | cons next rest =>
      have hrest := ih (by simp)
      rw [joinWithCommas, List.length_append, List.length_cons, List.map_cons, List.sum_cons, ← hrest]
      · omega
      · simp

/-- Every item of a list adds its text and one more character. -/
theorem length_render_list {items : List Datum} (hsome : items ≠ []) :
    (render (.list items)).length = 1 + (items.map fun item => (render item).length + 1).sum := by
  have hjoined : (joinWithCommas (renderAll items)).length + 1 =
      (items.map fun item => (render item).length + 1).sum := by
    rw [renderAll_eq_map, length_joinWithCommas (by simpa), List.map_map]
    rfl
  rw [render, List.length_append, List.length_cons, List.length_singleton, ← hjoined]
  omega

/-- Every field of an object adds its name, its value and two more characters, wherever it is put. -/
theorem length_render_object {fields : List (String × Datum)} (hsome : fields ≠ []) :
    (render (.object fields)).length =
      1 + (fields.map fun field => (renderText field.1).length + (render field.2).length + 2).sum := by
  have hperm : (((renderFields fields).mergeSort byName).map renderField).Perm
      (fields.map fun field => renderField (field.1, render field.2)) := by
    have hsorted := (List.mergeSort_perm (renderFields fields) byName).map renderField
    rwa [renderFields_eq_map, List.map_map, ← renderFields_eq_map] at hsorted
  have hne : ((renderFields fields).mergeSort byName).map renderField ≠ [] := by
    intro hnil
    rw [hnil] at hperm
    exact hsome (List.map_eq_nil_iff.mp hperm.nil_eq.symm)
  have hjoined := length_joinWithCommas hne
  rw [(hperm.map fun text => text.length + 1).sum_nat, List.map_map] at hjoined
  have hfield (field : String × Datum) : (renderField (field.1, render field.2)).length + 1 =
      (renderText field.1).length + (render field.2).length + 2 := by
    rw [renderField, List.length_append, List.length_cons]
    dsimp only
    omega
  simp only [Function.comp_def, hfield] at hjoined
  rw [render, List.length_append, List.length_cons, List.length_singleton, ← hjoined]
  omega

end Length

end Json

end CallAudit

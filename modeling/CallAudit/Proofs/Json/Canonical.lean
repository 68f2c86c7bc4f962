import CallAudit.Proofs.Json.Skipping
import Mathlib.Data.List.Perm.Basic
import Mathlib.Data.List.Forall2

/-!
# What the text of a datum tells

Data of one text are alike: they have the same items and the same fields, these in any order. This takes
that objects name no field twice and that doubles are finite, as all data are that were read.
-/

namespace CallAudit

namespace Datum

/-- Data that JSON can hold: no moments, only finite doubles, and no field of an object named twice. -/
inductive IsJson : Datum → Prop
  | null : IsJson .null
  | bool (b : Bool) : IsJson (.bool b)
  | int (i : Int) : IsJson (.int i)
  | double {d : Double} (finite : d.isFinite = true) : IsJson (.double d)
  | text (s : String) : IsJson (.text s)
  | list {items : List Datum} (each : ∀ item ∈ items, IsJson item) : IsJson (.list items)
  | object {fields : List (String × Datum)} (distinct : (fields.map (·.1)).Nodup)
      (each : ∀ field ∈ fields, IsJson field.2) : IsJson (.object fields)

/-- Data that differ in nothing but the order of fields, and in how doubles are held that are written
    alike. -/
inductive Alike : Datum → Datum → Prop
  | null : Alike .null .null
  | bool (b : Bool) : Alike (.bool b) (.bool b)
  | int (i : Int) : Alike (.int i) (.int i)
  | double {d e : Double} (written : Json.renderDouble d = Json.renderDouble e) :
      Alike (.double d) (.double e)
  | text (s : String) : Alike (.text s) (.text s)
  | list {items others : List Datum} (each : List.Forall₂ Alike items others) :
      Alike (.list items) (.list others)
  | object {fields ordered others : List (String × Datum)}
      (names : fields.map (·.1) = ordered.map (·.1))
      (values : List.Forall₂ Alike (fields.map (·.2)) (ordered.map (·.2)))
      (order : ordered.Perm others) : Alike (.object fields) (.object others)

end Datum

namespace Json

section Matching

variable {α β γ : Type}

/-- Lists with one image under two maps are related item by item. -/
theorem forall₂_of_map_eq {f : α → γ} {g : β → γ} {related : α → β → Prop} {as : List α} {bs : List β}
    (h : as.map f = bs.map g) (hrelated : ∀ a ∈ as, ∀ b ∈ bs, f a = g b → related a b) :
    List.Forall₂ related as bs := by
  rw [← List.forall₂_eq_eq_eq, List.forall₂_map_left_iff, List.forall₂_map_right_iff,
    List.forall₂_iff_zip] at h
  refine List.forall₂_iff_zip.mpr ⟨h.1, fun {a b} hab => ?_⟩
  obtain ⟨ha, hb⟩ := List.of_mem_zip hab
  exact hrelated a ha b hb (h.2 hab)

/-- If the images of two lists are one list in two orders, so are the lists themselves but for what the
    map forgets. -/
theorem exists_perm_of_map_perm {f : α → γ} {as bs : List α} (h : (as.map f).Perm (bs.map f)) :
    ∃ ordered : List α, as.map f = ordered.map f ∧ ordered.Perm bs := by
  have himages : List.Forall₂ (fun c b => c = f b) (bs.map f) bs := by
    rw [List.forall₂_map_left_iff, List.forall₂_same]
    exact fun _ _ => rfl
  obtain ⟨ordered, hordered, hperm⟩ := List.perm_comp_forall₂ h himages
  rw [← List.forall₂_map_right_iff, List.forall₂_eq_eq_eq] at hordered
  exact ⟨ordered, hordered, hperm⟩

/-- Fields of the same names in two orders, with values that have the same images, can be matched so that
    the values are related. -/
theorem exists_matched_of_map_perm {f : α → γ} {related : α → α → Prop} {fields others : List (β × α)}
    (h : (fields.map fun field => (field.1, f field.2)).Perm
      (others.map fun field => (field.1, f field.2)))
    (hrelated : ∀ field ∈ fields, ∀ other ∈ others, f field.2 = f other.2 →
      related field.2 other.2) :
    ∃ ordered : List (β × α), fields.map (·.1) = ordered.map (·.1) ∧
      List.Forall₂ related (fields.map (·.2)) (ordered.map (·.2)) ∧ ordered.Perm others := by
  obtain ⟨ordered, hordered, hperm⟩ := exists_perm_of_map_perm h
  have hnames := congrArg (List.map Prod.fst) hordered
  rw [List.map_map, List.map_map] at hnames
  refine ⟨ordered, hnames, ?_, hperm⟩
  rw [List.forall₂_map_left_iff, List.forall₂_map_right_iff]
  exact forall₂_of_map_eq hordered fun field hfield other hother hsame =>
    hrelated field hfield other (hperm.subset hother) (Prod.mk.inj hsame).2

theorem perm_of_mergeSort_eq {le : α → α → Bool} {as bs : List α}
    (h : as.mergeSort le = bs.mergeSort le) : as.Perm bs := by
  have hsorted := List.mergeSort_perm as le
  rw [h] at hsorted
  exact hsorted.symm.trans (List.mergeSort_perm bs le)

end Matching

theorem renderAll_eq_map (ds : List Datum) : renderAll ds = ds.map render := by
  induction ds with
  | nil => rfl
  | cons d ds ih => rw [renderAll, ih, List.map_cons]

theorem renderFields_eq_map (fields : List (String × Datum)) :
    renderFields fields = fields.map fun field => (field.1, render field.2) := by
  induction fields with
  | nil => rfl
  | cons field fields ih =>
    obtain ⟨name, d⟩ := field
    rw [renderFields, ih, List.map_cons]

/-- What the first character of a text tells of a datum: all number characters tell the same, and so do the
    first letters of both truth values. -/
def leadOf (c : Char) : Char := if isNumberChar c then '0' else if c == 'f' then 't' else c

/-- That character for the text of a datum. -/
def lead : Datum → Char
  | .null => 'n'
  | .bool _ => 't'
  | .int _ => '0'
  | .double _ => '0'
  | .text _ => '"'
  | .moment _ => '"'
  | .list _ => '['
  | .object _ => '{'

theorem exists_render_eq_cons {d : Datum} (hd : d.IsJson) :
    ∃ c rest, render d = c :: rest ∧ leadOf c = lead d := by
  have hnumber {text : List Char} (hne : text ≠ []) (htext : ∀ c ∈ text, isNumberChar c = true) :
      ∃ c rest, text = c :: rest ∧ leadOf c = '0' := by
    obtain ⟨c, rest, rfl⟩ := List.exists_cons_of_ne_nil hne
    exact ⟨c, rest, rfl, by rw [leadOf, htext c (by simp), if_pos rfl]⟩
  cases hd with
  | null => exact ⟨'n', _, rfl, rfl⟩
  | bool b =>
    cases b with
    | true => exact ⟨'t', _, rfl, rfl⟩
    | false => exact ⟨'f', _, rfl, rfl⟩
  | int i => exact hnumber (integerText_ne_nil i) fun c => isNumberChar_of_mem_integerText
  | @double d hfinite =>
    have hdouble := NumberStyle.isDoubleText_finiteText .json d
    obtain ⟨c, hc, _⟩ := hdouble.marked
    rw [render, renderDouble, if_pos hfinite]
    exact hnumber (List.ne_nil_of_mem hc) hdouble.number
  | text s => exact ⟨'"', _, rfl, rfl⟩
  | list each => exact ⟨'[', _, rfl, rfl⟩
  | object distinct each => exact ⟨'{', _, rfl, rfl⟩

theorem render_ne_nil {d : Datum} (hd : d.IsJson) : render d ≠ [] := by
  obtain ⟨c, rest, hrender, _⟩ := exists_render_eq_cons hd
  simp [hrender]

theorem lead_eq_of_render_eq {a b : Datum} (ha : a.IsJson) (hb : b.IsJson)
    (h : render a = render b) : lead a = lead b := by
  obtain ⟨c, rest, hc, hlead⟩ := exists_render_eq_cons ha
  obtain ⟨c', rest', hc', hlead'⟩ := exists_render_eq_cons hb
  rw [h, hc', List.cons.injEq] at hc
  rw [← hlead, ← hlead', hc.1]

/-- The text of a list tells the texts of its items. -/
theorem renderAll_eq_of_render_eq {items others : List Datum} (hitems : ∀ item ∈ items, item.IsJson)
    (hothers : ∀ item ∈ others, item.IsJson)
    (h : render (.list items) = render (.list others)) : items.map render = others.map render := by
  have hskipped {ds : List Datum} (hds : ∀ d ∈ ds, d.IsJson) :
      ∀ text ∈ renderAll ds, Skipped 0 text ∧ text ≠ [] := by
    intro text htext
    refine ⟨skipped_renderAll ds text htext, ?_⟩
    rw [renderAll_eq_map] at htext
    obtain ⟨d, hd, rfl⟩ := List.mem_map.mp htext
    exact render_ne_nil (hds d hd)
  have hjoined := List.append_cancel_right (List.cons.inj h).2
  have htexts := joinWithCommas_inj (hskipped hitems) (hskipped hothers) hjoined
  rwa [renderAll_eq_map, renderAll_eq_map] at htexts

theorem renderField_injective : Function.Injective renderField := by
  rintro ⟨name, text⟩ ⟨name', text'⟩ h
  obtain ⟨hname, hrest⟩ := renderText_append_inj.mp h
  exact Prod.ext hname (List.cons.inj hrest).2

/-- The text of an object tells the names of its fields and the texts of their values. -/
theorem renderFields_perm_of_render_eq {fields others : List (String × Datum)}
    (h : render (.object fields) = render (.object others)) :
    (fields.map fun field => (field.1, render field.2)).Perm
      (others.map fun field => (field.1, render field.2)) := by
  have hskipped (fields : List (String × Datum)) :
      ∀ text ∈ ((renderFields fields).mergeSort byName).map renderField,
        Skipped 0 text ∧ text ≠ [] := by
    intro text htext
    obtain ⟨field, hfield, rfl⟩ := List.mem_map.mp htext
    refine ⟨skipped_renderField (skipped_renderFields fields field (List.mem_mergeSort.mp hfield)), ?_⟩
    simp [renderField, renderText]
  have hjoined := List.append_cancel_right (List.cons.inj h).2
  have hsorted := joinWithCommas_inj (hskipped fields) (hskipped others) hjoined
  rw [renderField_injective.list_map.eq_iff] at hsorted
  rw [← renderFields_eq_map, ← renderFields_eq_map]
  exact perm_of_mergeSort_eq hsorted

theorem render_int_ne_render_double {i : Int} {d : Double} (hd : d.isFinite = true) :
    render (.int i) ≠ render (.double d) := by
  intro h
  rw [render, render, renderDouble, if_pos hd] at h
  exact (NumberStyle.isDoubleText_finiteText .json d).ne_integerText i h.symm

/-- Data of one text are alike. -/
theorem alike_of_render_eq {a b : Datum} (ha : a.IsJson) (hb : b.IsJson) (h : render a = render b) :
    a.Alike b := by
  have hlead := lead_eq_of_render_eq ha hb h
  induction ha generalizing b with
  | null =>
    cases hb with
    | null => exact .null
    | _ => cases hlead
  | bool x =>
    cases hb with
    | bool y => cases x <;> cases y <;> first | exact .bool _ | cases h
    | _ => cases hlead
  | int i =>
    cases hb with
    | int j => exact integerText_inj.mp h ▸ .int i
    | double hfinite => exact absurd h (render_int_ne_render_double hfinite)
    | _ => cases hlead
  | double hfinite =>
    cases hb with
    | int j => exact absurd h.symm (render_int_ne_render_double hfinite)
    | double _ => exact .double h
    | _ => cases hlead
  | text s =>
    cases hb with
    | text t => exact renderText_inj.mp h ▸ .text s
    | _ => cases hlead
  | @list items each ih =>
    cases hb with
    | @list others each' =>
      refine .list (forall₂_of_map_eq (renderAll_eq_of_render_eq each each' h) ?_)
      intro item hitem other hother hrender
      have hother := each' other hother
      exact ih item hitem hother hrender (lead_eq_of_render_eq (each item hitem) hother hrender)
    | _ => cases hlead
  | @object fields distinct each ih =>
    cases hb with
    | @object others distinct' each' =>
      have hperm := renderFields_perm_of_render_eq h
      have halike : ∀ field ∈ fields, ∀ other ∈ others, render field.2 = render other.2 →
          field.2.Alike other.2 := by
        intro field hfield other hother hrender
        have hother := each' other hother
        exact ih field hfield hother hrender (lead_eq_of_render_eq (each field hfield) hother hrender)
      obtain ⟨ordered, hnames, hvalues, horder⟩ := exists_matched_of_map_perm hperm halike
      exact .object hnames hvalues horder
    | _ => cases hlead

/-- Data that are written as one text are alike. -/
theorem alike_of_write?_eq {a b : Datum} (ha : a.IsJson) (hb : b.IsJson) {text : String}
    (hwrite : write? a = some text) (hwrite' : write? b = some text) : a.Alike b := by
  have hrender {d : Datum} (h : write? d = some text) : String.ofList (render d) = text := by
    unfold write? at h
    split at h
    · exact Option.some.inj h
    · cases h
  refine alike_of_render_eq ha hb (String.ofList_inj.mp ?_)
  rw [hrender hwrite, hrender hwrite']

end Json

section Fields

variable {α : Type} {fields others : List (String × α)}

theorem lookup_eq_some_iff_mem (hdistinct : (fields.map (·.1)).Nodup) {name : String} {a : α} :
    fields.lookup name = some a ↔ (name, a) ∈ fields := by
  induction fields with
  | nil => simp
  | cons field fields ih =>
    obtain ⟨other, b⟩ := field
    obtain ⟨hother, hdistinct⟩ := List.nodup_cons.mp hdistinct
    rw [List.lookup_cons, List.mem_cons]
    cases hname : name == other with
    | true =>
      obtain rfl := beq_iff_eq.mp hname
      have habsent : (name, a) ∉ fields := fun hmem => hother (List.mem_map.mpr ⟨_, hmem, rfl⟩)
      simp [habsent, eq_comm]
    | false =>
      have hne : name ≠ other := by simpa using hname
      simp [hne, ih hdistinct]

/-- A field with a name of its own is found wherever it stands. -/
theorem lookup_eq_of_perm (hdistinct : (fields.map (·.1)).Nodup) (hperm : fields.Perm others)
    (name : String) : fields.lookup name = others.lookup name := by
  have hdistinct' : (others.map (·.1)).Nodup := (hperm.map _).nodup_iff.mp hdistinct
  refine Option.ext fun a => ?_
  rw [lookup_eq_some_iff_mem hdistinct, lookup_eq_some_iff_mem hdistinct', hperm.mem_iff]

end Fields

namespace Datum.Alike

variable {fields others : List (String × Datum)}

/-- Alike objects have fields of the same names. -/
theorem names_perm (halike : Alike (.object fields) (.object others)) :
    (fields.map (·.1)).Perm (others.map (·.1)) := by
  cases halike with
  | object names values order => exact names ▸ order.map _

/-- Under each name alike objects have alike values, or neither has one. -/
theorem lookup (halike : Alike (.object fields) (.object others))
    (hdistinct : (others.map (·.1)).Nodup) (name : String) :
    Option.Rel Alike (fields.lookup name) (others.lookup name) := by
  cases halike with
  | @object _ ordered _ names values order =>
    rw [← lookup_eq_of_perm ((order.map _).nodup_iff.mpr hdistinct) order]
    clear order hdistinct
    induction fields generalizing ordered with
    | nil =>
      cases ordered with
      | nil => exact .none
      | cons _ _ => cases names
    | cons field fields ih =>
      cases ordered with
      | nil => cases names
      | cons other ordered =>
        obtain ⟨hname, hnames⟩ := List.cons.inj names
        dsimp only at hname
        cases values with
        | cons hvalue hvalues =>
          rw [List.lookup_cons, List.lookup_cons, ← hname]
          cases name == field.1 with
          | true => exact .some hvalue
          | false => exact ih hnames hvalues

theorem field (halike : Alike (.object fields) (.object others))
    (hdistinct : (others.map (·.1)).Nodup) (name : String) {a b : Datum}
    (ha : fields.lookup name = some a) (hb : others.lookup name = some b) : a.Alike b := by
  have hvalues := halike.lookup hdistinct name
  rw [ha, hb] at hvalues
  cases hvalues with
  | some hvalue => exact hvalue

end Datum.Alike

end CallAudit

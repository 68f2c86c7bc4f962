import CallAudit.Event
import CallAudit.Proofs.Json.Reading
import CallAudit.Proofs.Value.Ordering

/-!
# Round trips through JSON

Reading the text of a datum gives the datum back with its fields in order, and that datum has the same
text. So two data that are written alike differ in nothing but the order of fields.
-/

namespace CallAudit

namespace Datum

/-- Data that differ in nothing but the order in which their objects have their fields. -/
inductive Reordered : Datum → Datum → Prop
  | null : Reordered .null .null
  | bool (b : Bool) : Reordered (.bool b) (.bool b)
  | int (i : Int) : Reordered (.int i) (.int i)
  | double (d : Double) : Reordered (.double d) (.double d)
  | text (s : String) : Reordered (.text s) (.text s)
  | moment (m : Moment) : Reordered (.moment m) (.moment m)
  | list {items others : List Datum} (each : List.Forall₂ Reordered items others) :
      Reordered (.list items) (.list others)
  | object {fields ordered others : List (String × Datum)}
      (names : fields.map (·.1) = ordered.map (·.1))
      (values : List.Forall₂ Reordered (fields.map (·.2)) (ordered.map (·.2)))
      (order : ordered.Perm others) : Reordered (.object fields) (.object others)

def byFieldName (a b : String × Datum) : Bool := !decide (b.1 < a.1)

mutual

/-- A datum with the fields of every object in the order of their names. -/
def ordered : Datum → Datum
  | .list items => .list (orderedAll items)
  | .object fields => .object ((orderedFields fields).mergeSort byFieldName)
  | d => d
termination_by structural d => d

def orderedAll : List Datum → List Datum
  | [] => []
  | d :: ds => ordered d :: orderedAll ds
termination_by structural ds => ds

def orderedFields : List (String × Datum) → List (String × Datum)
  | [] => []
  | (name, d) :: fields => (name, ordered d) :: orderedFields fields
termination_by structural fields => fields

end

theorem orderedAll_eq_map (ds : List Datum) : orderedAll ds = ds.map ordered := by
  induction ds with
  | nil => rfl
  | cons d ds ih => rw [orderedAll, ih, List.map_cons]

theorem orderedFields_eq_map (fields : List (String × Datum)) :
    orderedFields fields = fields.map fun field => (field.1, ordered field.2) := by
  induction fields with
  | nil => rfl
  | cons field fields ih =>
    obtain ⟨name, d⟩ := field
    rw [orderedFields, ih, List.map_cons]

theorem names_orderedFields (fields : List (String × Datum)) :
    fields.map (·.1) = (orderedFields fields).map (·.1) := by
  rw [orderedFields_eq_map, List.map_map]
  rfl

/-- The fields may be put in order before their values are. -/
theorem ordered_object (fields : List (String × Datum)) :
    ordered (.object fields) =
      .object ((fields.mergeSort byFieldName).map fun field => (field.1, ordered field.2)) := by
  rw [ordered, orderedFields_eq_map, List.map_mergeSort]
  intro a _ b _
  rfl

mutual

/-- Ordering changes nothing but the order of fields. -/
theorem reordered_ordered : ∀ d : Datum, d.Reordered d.ordered
  | .null => .null
  | .bool b => .bool b
  | .int i => .int i
  | .double d => .double d
  | .text s => .text s
  | .moment m => .moment m
  | .list items => .list (reordered_orderedAll items)
  | .object fields => .object (names_orderedFields fields) (reordered_orderedFields fields)
      (List.mergeSort_perm _ _).symm
termination_by structural d => d

theorem reordered_orderedAll : ∀ ds : List Datum, List.Forall₂ Reordered ds (orderedAll ds)
  | [] => .nil
  | d :: ds => .cons (reordered_ordered d) (reordered_orderedAll ds)
termination_by structural ds => ds

theorem reordered_orderedFields : ∀ fields : List (String × Datum),
    List.Forall₂ Reordered (fields.map (·.2)) ((orderedFields fields).map (·.2))
  | [] => .nil
  | (_, d) :: fields => .cons (reordered_ordered d) (reordered_orderedFields fields)
termination_by structural fields => fields

end

theorem pairwise_byFieldName (fields : List (String × Datum)) :
    (fields.mergeSort byFieldName).Pairwise fun a b => byFieldName a b = true :=
  (pairwise_mergeSort_by Prod.fst fields).imp fun h => (not_decide_lt_iff _ _).mpr h

/-- An object whose names ascend stays as it is if its values do. -/
theorem ordered_object_eq_self {fields : List (String × Datum)}
    (hascending : fields.Pairwise fun a b => byFieldName a b = true)
    (hvalues : ∀ field ∈ fields, ordered field.2 = field.2) : ordered (.object fields) = .object fields := by
  have hsame : (fields.map fun field => (field.1, ordered field.2)) = fields.map fun field => field :=
    List.map_congr_left fun field hfield => by rw [hvalues field hfield]
  rw [ordered_object, List.mergeSort_of_pairwise hascending, hsame, List.map_id']

end Datum

namespace Json

open Datum

theorem allWritable_iff {ds : List Datum} :
    allWritable ds = true ↔ ∀ d ∈ ds, isWritable d = true := by
  induction ds with
  | nil => simp [allWritable]
  | cons d ds ih => simp [allWritable, ih]

theorem fieldsWritable_iff {fields : List (String × Datum)} :
    fieldsWritable fields = true ↔ ∀ field ∈ fields, isWritable field.2 = true := by
  induction fields with
  | nil => simp [fieldsWritable]
  | cons field fields ih => simp [fieldsWritable, ih]

/-- Fields may be put in order before they are written or after. -/
theorem renderFields_mergeSort (fields : List (String × Datum)) :
    renderFields (fields.mergeSort byFieldName) = (renderFields fields).mergeSort byName := by
  rw [renderFields_eq_map, renderFields_eq_map, List.map_mergeSort]
  intro a _ b _
  rfl

/-- A datum is read back from its text with its fields in order. -/
theorem isTextOf_render {d : Datum} (hd : d.IsJson) (hwritable : isWritable d = true) :
    IsTextOf .machine (render d) d.ordered := by
  induction hd with
  | null => exact isTextOf_null
  | bool b =>
    cases b with
    | true => exact isTextOf_true
    | false => exact isTextOf_false
  | int i =>
    have hinteger : integerDatum? .machine i = some (.int i) := if_pos hwritable
    exact isTextOf_number (integerText_ne_nil i) (fun c => isNumberChar_of_mem_integerText)
      (number?_integerText hinteger)
  | @double d hfinite =>
    have hdouble := NumberStyle.isDoubleText_finiteText .json d
    obtain ⟨c, hc, _⟩ := hdouble.marked
    rw [render, renderDouble, if_pos hfinite]
    exact isTextOf_number (List.ne_nil_of_mem hc) hdouble.number
      (number?_finiteText .json .machine hfinite)
  | text s => exact isTextOf_renderText s
  | @list items _ ih =>
    rw [render, renderAll_eq_map, ordered, orderedAll_eq_map]
    refine isTextOf_list ?_
    rw [List.forall₂_map_left_iff, List.forall₂_map_right_iff, List.forall₂_same]
    intro item hitem
    exact ih item hitem (allWritable_iff.mp hwritable item hitem)
  | @object fields hdistinct _ ih =>
    rw [render, ← renderFields_mergeSort, renderFields_eq_map, ordered_object]
    refine isTextOf_object ?_ ?_
    · rw [List.forall₂_map_left_iff, List.forall₂_map_right_iff, List.forall₂_same]
      intro field hfield
      rw [List.mem_mergeSort] at hfield
      exact ⟨rfl, ih field hfield (fieldsWritable_iff.mp hwritable field hfield)⟩
    · rw [List.map_map]
      exact ((List.mergeSort_perm fields byFieldName).map _).nodup_iff.mpr hdistinct

mutual

/-- Ordering the fields of a datum does not change its text. -/
theorem render_ordered : ∀ d : Datum, render d.ordered = render d
  | .null => rfl
  | .bool _ => rfl
  | .int _ => rfl
  | .double _ => rfl
  | .text _ => rfl
  | .moment _ => rfl
  | .list items => by
    rw [ordered, render, render, renderAll_orderedAll items]
  | .object fields => by
    rw [ordered, render, render, ← renderFields_mergeSort,
      List.mergeSort_of_pairwise (pairwise_byFieldName _), renderFields_mergeSort,
      renderFields_orderedFields fields]
termination_by structural d => d

theorem renderAll_orderedAll : ∀ ds : List Datum, renderAll (orderedAll ds) = renderAll ds
  | [] => rfl
  | d :: ds => by rw [orderedAll, renderAll, renderAll, render_ordered d, renderAll_orderedAll ds]
termination_by structural ds => ds

theorem renderFields_orderedFields : ∀ fields : List (String × Datum),
    renderFields (orderedFields fields) = renderFields fields
  | [] => rfl
  | (name, d) :: fields => by
    rw [orderedFields, renderFields, renderFields, render_ordered d, renderFields_orderedFields fields]
termination_by structural fields => fields

end

mutual

theorem isWritable_ordered : ∀ d : Datum, isWritable d.ordered = isWritable d
  | .null => rfl
  | .bool _ => rfl
  | .int _ => rfl
  | .double _ => rfl
  | .text _ => rfl
  | .moment _ => rfl
  | .list items => by rw [ordered, isWritable, isWritable, allWritable_orderedAll items]
  | .object fields => by
    rw [ordered, isWritable, isWritable, ← fieldsWritable_orderedFields fields, Bool.eq_iff_iff,
      fieldsWritable_iff, fieldsWritable_iff]
    simp only [List.mem_mergeSort]
termination_by structural d => d

theorem allWritable_orderedAll : ∀ ds : List Datum, allWritable (orderedAll ds) = allWritable ds
  | [] => rfl
  | d :: ds => by
    rw [orderedAll, allWritable, allWritable, isWritable_ordered d, allWritable_orderedAll ds]
termination_by structural ds => ds

theorem fieldsWritable_orderedFields : ∀ fields : List (String × Datum),
    fieldsWritable (orderedFields fields) = fieldsWritable fields
  | [] => rfl
  | (name, d) :: fields => by
    rw [orderedFields, fieldsWritable, fieldsWritable, isWritable_ordered d,
      fieldsWritable_orderedFields fields]
termination_by structural fields => fields

end

/-- What is written is read back, and what is read back is written in the same way. -/
theorem read?_of_write? {d : Datum} (hd : d.IsJson) {text : String} (hwrite : write? d = some text) :
    read? .machine text.toList = some d.ordered ∧ write? d.ordered = some text := by
  unfold write? at hwrite
  split at hwrite
  · next hwritable =>
    obtain rfl := Option.some.inj hwrite
    rw [String.toList_ofList, write?, isWritable_ordered, if_pos hwritable, render_ordered]
    exact ⟨(isTextOf_render hd hwritable).read?, rfl⟩
  · cases hwrite

section Lines

theorem le_of_mem_of_all {cs : List Char} (hcs : cs.all (0x20 ≤ ·.toNat) = true) {c : Char}
    (hc : c ∈ cs) : 0x20 ≤ c.toNat :=
  of_decide_eq_true (List.all_eq_true.mp hcs c hc)

theorem le_of_mem_escapeChar {c c' : Char} (hc' : c' ∈ escapeChar c) : 0x20 ≤ c'.toNat := by
  unfold escapeChar at hc'
  split_ifs at hc' with _ _ _ _ _ _ _ hcontrol
  iterate 7
    · exact le_of_mem_of_all (by decide) hc'
  · have hdigits : ∀ n < 0x20, ['\\', 'u', '0', '0', Nat.digitChar (n / 16),
        Nat.digitChar (n % 16)].all (0x20 ≤ ·.toNat) = true := by
      decide
    exact le_of_mem_of_all (hdigits c.toNat hcontrol) hc'
  · obtain rfl := List.mem_singleton.mp hc'
    omega

theorem le_of_mem_renderText {s : String} {c : Char} (hc : c ∈ renderText s) : 0x20 ≤ c.toNat := by
  have hquote : 0x20 ≤ '"'.toNat := by decide
  rw [renderText, List.mem_append, List.mem_cons, List.mem_flatMap, List.mem_singleton] at hc
  obtain (rfl | ⟨_, _, hescaped⟩) | rfl := hc
  · exact hquote
  · exact le_of_mem_escapeChar hescaped
  · exact hquote

theorem le_of_isNumberChar {c : Char} (hc : isNumberChar c = true) : 0x20 ≤ c.toNat := by
  unfold isNumberChar at hc
  simp only [Bool.or_eq_true, beq_iff_eq] at hc
  obtain (((hdigit | rfl) | rfl) | rfl) | rfl := hc
  · have hlow : 48 ≤ c.toNat := (Char.isDigit_iff_toNat.mp hdigit).1
    omega
  all_goals decide

theorem le_of_mem_joinWithCommas {texts : List (List Char)}
    (htexts : ∀ text ∈ texts, ∀ c ∈ text, 0x20 ≤ c.toNat) {c : Char}
    (hc : c ∈ joinWithCommas texts) : 0x20 ≤ c.toNat := by
  cases texts with
  | nil => cases hc
  | cons text texts =>
    obtain ⟨htext, htexts⟩ := List.forall_mem_cons.mp htexts
    rw [joinWithCommas_cons, List.mem_append, List.mem_flatMap] at hc
    obtain hc | ⟨other, hother, hc⟩ := hc
    · exact htext c hc
    · cases hc with
      | head => decide
      | tail _ hc => exact htexts other hother c hc

theorem le_of_mem_renderDouble {d : Double} {c : Char} (hc : c ∈ renderDouble d) : 0x20 ≤ c.toNat := by
  unfold renderDouble at hc
  split at hc
  · exact le_of_isNumberChar ((NumberStyle.isDoubleText_finiteText .json d).number c hc)
  · exact le_of_mem_of_all (by decide) hc

mutual

/-- No control character is written, so no text of a datum has an end of a line in it. -/
theorem le_of_mem_render : ∀ (d : Datum), ∀ c ∈ render d, 0x20 ≤ c.toNat
  | .null, _, hc => le_of_mem_of_all (by decide) hc
  | .bool true, _, hc => le_of_mem_of_all (by decide) hc
  | .bool false, _, hc => le_of_mem_of_all (by decide) hc
  | .int _, _, hc => le_of_isNumberChar (isNumberChar_of_mem_integerText hc)
  | .double _, _, hc => le_of_mem_renderDouble hc
  | .text _, _, hc => le_of_mem_renderText hc
  | .moment _, _, hc => le_of_mem_renderText hc
  | .list items, c, hc => by
    rw [render, List.mem_append, List.mem_cons, List.mem_singleton] at hc
    obtain (rfl | hc) | rfl := hc
    · decide
    · exact le_of_mem_joinWithCommas (le_of_mem_renderAll items) hc
    · decide
  | .object fields, c, hc => by
    rw [render, List.mem_append, List.mem_cons, List.mem_singleton] at hc
    obtain (rfl | hc) | rfl := hc
    · decide
    · refine le_of_mem_joinWithCommas (fun text htext c hc => ?_) hc
      obtain ⟨field, hfield, rfl⟩ := List.mem_map.mp htext
      rw [renderField, List.mem_append, List.mem_cons] at hc
      obtain hc | rfl | hc := hc
      · exact le_of_mem_renderText hc
      · decide
      · exact le_of_mem_renderFields fields field (List.mem_mergeSort.mp hfield) c hc
    · decide
termination_by structural d => d

theorem le_of_mem_renderAll : ∀ (ds : List Datum), ∀ text ∈ renderAll ds, ∀ c ∈ text, 0x20 ≤ c.toNat
  | [] => nofun
  | d :: ds => List.forall_mem_cons.mpr ⟨le_of_mem_render d, le_of_mem_renderAll ds⟩
termination_by structural ds => ds

theorem le_of_mem_renderFields : ∀ (fields : List (String × Datum)),
    ∀ field ∈ renderFields fields, ∀ c ∈ field.2, 0x20 ≤ c.toNat
  | [] => nofun
  | (_, d) :: fields => List.forall_mem_cons.mpr ⟨le_of_mem_render d, le_of_mem_renderFields fields⟩
termination_by structural fields => fields

end

theorem toList_of_write? {d : Datum} {text : String} (hwrite : write? d = some text) :
    text.toList = render d := by
  unfold write? at hwrite
  split at hwrite
  · obtain rfl := Option.some.inj hwrite
    exact String.toList_ofList
  · cases hwrite

theorem forall₂_of_mapM_eq_some {α β : Type} {f : α → Option β} {as : List α} {bs : List β}
    (h : as.mapM f = some bs) : List.Forall₂ (fun a b => f a = some b) as bs := by
  induction as generalizing bs with
  | nil =>
    obtain rfl := Option.some.inj h
    exact .nil
  | cons a as ih =>
    rw [List.mapM_cons] at h
    obtain ⟨b, hb, h⟩ := Option.bind_eq_some_iff.mp h
    obtain ⟨bs, hbs, h⟩ := Option.bind_eq_some_iff.mp h
    obtain rfl := Option.some.inj h
    exact .cons hb (ih hbs)

theorem exists_left_of_forall₂ {α β : Type} {related : α → β → Prop} {as : List α} {bs : List β}
    (h : List.Forall₂ related as bs) {b : β} (hb : b ∈ bs) : ∃ a ∈ as, related a b := by
  induction h with
  | nil => cases hb
  | @cons a _ as _ hab _ ih =>
    cases hb with
    | head => exact ⟨a, List.mem_cons_self, hab⟩
    | tail _ hb =>
      obtain ⟨a, ha, hab⟩ := ih hb
      exact ⟨a, List.mem_cons_of_mem _ ha, hab⟩

/-- Data are written a line each. -/
theorem exists_lines_of_writeLines? {data : List Datum} {text : String}
    (hwrite : writeLines? data = some text) :
    ∃ lines, List.Forall₂ (fun d line => write? d = some line) data lines ∧
      text = linesText lines := by
  obtain ⟨lines, hlines, rfl⟩ := Option.map_eq_some_iff.mp hwrite
  exact ⟨lines, forall₂_of_mapM_eq_some hlines, rfl⟩

theorem writeLines?_of_forall₂ {data : List Datum} {lines : List String}
    (hlines : List.Forall₂ (fun d line => write? d = some line) data lines) :
    writeLines? data = some (linesText lines) := by
  have hmap : data.mapM write? = some lines := by
    induction hlines with
    | nil => rfl
    | cons hline _ ih =>
      rw [List.mapM_cons, hline, ih]
      rfl
  rw [writeLines?, hmap]
  rfl

/-- Data are written together if each of them can be written. -/
theorem writeLines?_eq_none_iff {data : List Datum} :
    writeLines? data = none ↔ ∃ d ∈ data, write? d = none := by
  rw [writeLines?, Option.map_eq_none_iff]
  induction data with
  | nil => simp
  | cons d rest ih =>
    rw [List.mapM_cons, List.exists_mem_cons_iff, ← ih]
    cases write? d with
    | none => simp
    | some line => cases rest.mapM write? <;> simp

end Lines

end Json

end CallAudit

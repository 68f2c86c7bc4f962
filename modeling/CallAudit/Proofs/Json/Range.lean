import CallAudit.Proofs.Json.RoundTrip

/-!
# The range of the reader

What a machine reads as JSON can be written as JSON again: integers that do not fit in a word become
doubles, doubles that are not finite are refused, and an object keeps one field of each name.
-/

namespace CallAudit

/-- A datum that JSON can hold and that is written as it. -/
structure Datum.IsPrintable (d : Datum) : Prop where
  isJson : d.IsJson
  writable : Json.isWritable d = true

/-- Fields that make up an object that can be printed. -/
structure Datum.ArePrintable (fields : List (String × Datum)) : Prop where
  distinct : (fields.map (·.1)).Nodup
  each : ∀ field ∈ fields, field.2.IsPrintable

namespace Datum

theorem ArePrintable.nil : ArePrintable [] := ⟨by simp, by simp⟩

theorem isPrintable_list_iff {items : List Datum} :
    (list items).IsPrintable ↔ ∀ item ∈ items, item.IsPrintable := by
  constructor
  · intro hlist item hitem
    cases hlist.isJson with
    | list each => exact ⟨each item hitem, Json.allWritable_iff.mp hlist.writable item hitem⟩
  · intro hitems
    exact ⟨.list fun item hitem => (hitems item hitem).isJson,
      Json.allWritable_iff.mpr fun item hitem => (hitems item hitem).writable⟩

theorem isPrintable_object_iff {fields : List (String × Datum)} :
    (object fields).IsPrintable ↔ ArePrintable fields := by
  constructor
  · intro hobject
    cases hobject.isJson with
    | object distinct each =>
      exact ⟨distinct, fun field hfield =>
        ⟨each field hfield, Json.fieldsWritable_iff.mp hobject.writable field hfield⟩⟩
  · intro hfields
    exact ⟨.object hfields.distinct fun field hfield => (hfields.each field hfield).isJson,
      Json.fieldsWritable_iff.mpr fun field hfield => (hfields.each field hfield).writable⟩

theorem mem_of_mem_setField {fields : List (String × Datum)} {name : String} {value : Datum}
    {field : String × Datum} (hfield : field ∈ setField fields name value) :
    field = (name, value) ∨ field ∈ fields := by
  induction fields with
  | nil => exact .inl (List.mem_singleton.mp hfield)
  | cons first rest ih =>
    rw [setField] at hfield
    split at hfield
    · exact (List.mem_cons.mp hfield).imp_right (List.mem_cons_of_mem first)
    · obtain rfl | hfield := List.mem_cons.mp hfield
      · exact .inr List.mem_cons_self
      · exact (ih hfield).imp_right (List.mem_cons_of_mem first)

theorem nodup_setField {fields : List (String × Datum)} (hdistinct : (fields.map (·.1)).Nodup)
    (name : String) (value : Datum) : ((setField fields name value).map (·.1)).Nodup := by
  induction fields with
  | nil => simp [setField]
  | cons first rest ih =>
    rw [List.map_cons, List.nodup_cons] at hdistinct
    obtain ⟨hfirst, hrest⟩ := hdistinct
    rw [setField]
    split
    · next hsame =>
      rw [List.map_cons, ← eq_of_beq hsame]
      exact List.nodup_cons.mpr ⟨hfirst, hrest⟩
    · next hother =>
      rw [List.map_cons, List.nodup_cons]
      refine ⟨fun hmem => ?_, ih hrest⟩
      obtain ⟨field, hfield, hname⟩ := List.mem_map.mp hmem
      obtain rfl | hfield := mem_of_mem_setField hfield
      · exact hother (beq_iff_eq.mpr hname.symm)
      · exact hfirst (List.mem_map.mpr ⟨field, hfield, hname⟩)

theorem ArePrintable.setField {fields : List (String × Datum)} (hfields : ArePrintable fields)
    {value : Datum} (hvalue : value.IsPrintable) (name : String) :
    ArePrintable (CallAudit.setField fields name value) where
  distinct := nodup_setField hfields.distinct name value
  each := fun field hfield => by
    obtain rfl | hfield := mem_of_mem_setField hfield
    · exact hvalue
    · exact hfields.each field hfield

end Datum

namespace Json

open Datum (IsPrintable ArePrintable isPrintable_list_iff isPrintable_object_iff)

variable {s rest : List Char} {d : Datum}

theorem isPrintable_of_integerDatum? {i : Int} (hread : integerDatum? .machine i = some d) :
    d.IsPrintable := by
  rw [integerDatum?] at hread
  dsimp only at hread
  split_ifs at hread with hfits hfinite
  · cases hread
    exact ⟨.int i, hfits⟩
  · cases hread
    exact ⟨.double hfinite, rfl⟩

theorem isPrintable_of_doubleDatum? {x : Double} (hread : doubleDatum? .machine x = some d) :
    d.IsPrintable := by
  rw [doubleDatum?] at hread
  split_ifs at hread with hrefused
  cases hread
  exact ⟨.double (by simpa using hrefused), rfl⟩

theorem isPrintable_of_number? (hread : number? .machine s = some (d, rest)) : d.IsPrintable := by
  unfold number? at hread
  dsimp only at hread
  split at hread
  · cases hread
  · split at hread
    · cases hread
    · split at hread
      · cases hread
      · split at hread
        · cases hread
        · split at hread
          · obtain ⟨_, hinteger, heq⟩ := Option.map_eq_some_iff.mp hread
            cases heq
            exact isPrintable_of_integerDatum? hinteger
          · obtain ⟨_, hdouble, heq⟩ := Option.map_eq_some_iff.mp hread
            cases heq
            exact isPrintable_of_doubleDatum? hdouble

/-- What is read in so many steps can be printed: a value, the items of a list, and the fields of an
    object after those that are there. -/
structure ReadsPrintable (fuel : Nat) : Prop where
  value : ∀ {s d rest}, value? .machine fuel s = some (d, rest) → d.IsPrintable
  items : ∀ {s ds rest}, items? .machine fuel s = some (ds, rest) → ∀ d ∈ ds, d.IsPrintable
  fields : ∀ {done s fields rest}, ArePrintable done →
    fields? .machine fuel done s = some (fields, rest) → ArePrintable fields

section Step

variable {fuel : Nat} (hreads : ReadsPrintable fuel)

include hreads

theorem isPrintable_of_value? (hread : value? .machine (fuel + 1) s = some (d, rest)) :
    d.IsPrintable := by
  cases s with
  | nil => cases hread
  | cons c after =>
    rw [value?] at hread
    split_ifs at hread
    · obtain ⟨_, _, heq⟩ := Option.map_eq_some_iff.mp hread
      cases heq
      exact ⟨.text _, rfl⟩
    · split at hread
      · cases hread
        exact isPrintable_list_iff.mpr (by simp)
      · obtain ⟨_, hitems, heq⟩ := Option.map_eq_some_iff.mp hread
        cases heq
        exact isPrintable_list_iff.mpr (hreads.items hitems)
    · split at hread
      · cases hread
        exact isPrintable_object_iff.mpr .nil
      · obtain ⟨_, hfields, heq⟩ := Option.map_eq_some_iff.mp hread
        cases heq
        exact isPrintable_object_iff.mpr (hreads.fields .nil hfields)
    · obtain ⟨_, _, heq⟩ := Option.map_eq_some_iff.mp hread
      cases heq
      exact ⟨.null, rfl⟩
    · obtain ⟨_, _, heq⟩ := Option.map_eq_some_iff.mp hread
      cases heq
      exact ⟨.bool true, rfl⟩
    · obtain ⟨_, _, heq⟩ := Option.map_eq_some_iff.mp hread
      cases heq
      exact ⟨.bool false, rfl⟩
    · exact isPrintable_of_number? hread

theorem isPrintable_of_items? {ds : List Datum}
    (hread : items? .machine (fuel + 1) s = some (ds, rest)) : ∀ d ∈ ds, d.IsPrintable := by
  rw [items?] at hread
  split at hread
  · cases hread
  · next d after hvalue =>
    have hd : d.IsPrintable := hreads.value hvalue
    split at hread
    · cases hread
      simpa using hd
    · obtain ⟨_, hmore, heq⟩ := Option.map_eq_some_iff.mp hread
      cases heq
      exact List.forall_mem_cons.mpr ⟨hd, hreads.items hmore⟩
    · cases hread

theorem arePrintable_of_fields? {done fields : List (String × Datum)} (hdone : ArePrintable done)
    (hread : fields? .machine (fuel + 1) done s = some (fields, rest)) : ArePrintable fields := by
  rw [fields?] at hread
  split at hread
  · split at hread
    · cases hread
    · next name _ _ =>
      split at hread
      · split at hread
        · cases hread
        · next d after hvalue =>
          have hset := hdone.setField (hreads.value hvalue) (String.ofList name)
          dsimp only at hread
          split at hread
          · cases hread
            exact hset
          · exact hreads.fields hset hread
          · cases hread
      · cases hread
  · cases hread

end Step

theorem readsPrintable (fuel : Nat) : ReadsPrintable fuel := by
  induction fuel with
  | zero => exact ⟨by simp [value?], by simp [items?], by simp [fields?]⟩
  | succ fuel ih =>
    exact ⟨isPrintable_of_value? ih, isPrintable_of_items? ih, arePrintable_of_fields? ih⟩

/-- What is read with the range of a machine can be printed. -/
theorem isPrintable_of_read? (hread : read? .machine s = some d) : d.IsPrintable := by
  rw [read?] at hread
  split at hread
  · next hvalue =>
    split_ifs at hread
    cases hread
    exact (readsPrintable _).value hvalue
  · cases hread

end Json

end CallAudit

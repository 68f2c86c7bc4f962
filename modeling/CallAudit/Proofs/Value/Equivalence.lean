import CallAudit.Proofs.Json.Canonical
import CallAudit.Proofs.Value.Sets
import Mathlib.Data.List.Perm.Subperm

/-!
# Equality of plain data

Equality of data is an equivalence, although it looks past the kind of a number and past the order of
fields. There are two exceptions: what is not a number does not equal itself, and fields of one name can
hide each other from one side only. JSON has neither.
-/

namespace CallAudit

section Matching

variable {α β γ : Type} {R : α → β → Prop}

theorem forall₂_flip_of_mem {S : β → α → Prop} {as : List α} {bs : List β}
    (hlists : List.Forall₂ R as bs) (hitems : ∀ a ∈ as, ∀ b ∈ bs, R a b → S b a) :
    List.Forall₂ S bs as := by
  induction hlists with
  | nil => exact .nil
  | @cons a b as bs hab _ ih =>
    refine .cons (hitems a List.mem_cons_self b List.mem_cons_self hab) (ih ?_)
    exact fun a' ha' b' hb' => hitems a' (List.mem_cons_of_mem a ha') b' (List.mem_cons_of_mem b hb')

theorem forall₂_trans_of_mem {S : β → γ → Prop} {T : α → γ → Prop} {as : List α} {bs : List β}
    {cs : List γ} (hlists : List.Forall₂ R as bs) (hlists' : List.Forall₂ S bs cs)
    (hitems : ∀ a ∈ as, ∀ b c, R a b → S b c → T a c) : List.Forall₂ T as cs := by
  induction hlists generalizing cs with
  | nil =>
    cases hlists'
    exact .nil
  | @cons a b as bs hab _ ih =>
    cases hlists' with
    | cons hbc hrest =>
      refine .cons (hitems a List.mem_cons_self b _ hab hbc) (ih hrest ?_)
      exact fun a' ha' => hitems a' (List.mem_cons_of_mem a ha')

end Matching

namespace Magnitude

theorem equal_trans {a b c : Magnitude} (hab : a.equal b = true) (hbc : b.equal c = true) :
    a.equal c = true := by
  cases a <;> cases b <;> cases c <;> simp_all [equal]

theorem equal_ofInt_self (i : Int) : (ofInt i).equal (ofInt i) = true :=
  beq_self_eq_true _

theorem equal_ofDouble_self {d : Double} (hnumber : d.isNaN = false) :
    (ofDouble d).equal (ofDouble d) = true := by
  rw [ofDouble, if_neg (Bool.eq_false_iff.mp hnumber)]
  split
  · exact beq_self_eq_true _
  · exact beq_self_eq_true _

end Magnitude

namespace Value

theorem length_ofFields (fields : List (String × Datum)) : (ofFields fields).length = fields.length := by
  induction fields with
  | nil => rfl
  | cons field fields ih => rw [ofFields, List.length_cons, List.length_cons, ih]

theorem lookup_ofFields (fields : List (String × Datum)) (name : String) :
    (ofFields fields).lookup name = (fields.lookup name).map ofDatum := by
  induction fields with
  | nil => rfl
  | cons field fields ih =>
    rw [ofFields, List.lookup_cons, List.lookup_cons, ih]
    cases name == field.1 <;> rfl

end Value

namespace Datum

/-- Data with nothing in them that does not equal itself, and with no two fields of one name. Doubles may be
    infinite. -/
inductive IsOrdinary : Datum → Prop
  | null : IsOrdinary .null
  | bool (b : Bool) : IsOrdinary (.bool b)
  | int (i : Int) : IsOrdinary (.int i)
  | double {d : Double} (number : d.isNaN = false) : IsOrdinary (.double d)
  | text (s : String) : IsOrdinary (.text s)
  | moment (m : Moment) : IsOrdinary (.moment m)
  | list {items : List Datum} (each : ∀ item ∈ items, IsOrdinary item) : IsOrdinary (.list items)
  | object {fields : List (String × Datum)} (distinct : (fields.map (·.1)).Nodup)
      (each : ∀ field ∈ fields, IsOrdinary field.2) : IsOrdinary (.object fields)

/-- All that JSON can hold is ordinary. -/
theorem IsJson.isOrdinary {d : Datum} (hd : d.IsJson) : d.IsOrdinary := by
  induction hd with
  | null => exact .null
  | bool b => exact .bool b
  | int i => exact .int i
  | @double d hfinite =>
    apply IsOrdinary.double
    have hbound : d.exponentField < 2047 := of_decide_eq_true hfinite
    simp only [Double.isNaN, decide_eq_false_iff_not]
    omega
  | text s => exact .text s
  | list _ ih => exact .list ih
  | object hdistinct _ ih => exact .object hdistinct ih

variable {a b c : Datum}

/-- A number equals the numbers of the same value, whatever their kind, and nothing else. -/
theorem same_iff_of_magnitude {m : Magnitude} (ha : a.magnitude? = some m) :
    a.same b = true ↔ ∃ n, b.magnitude? = some n ∧ m.equal n = true := by
  cases a with
  | bool _ | int _ | double _ =>
    cases ha
    cases b <;> simp [same, Value.ofDatum, Value.same, Value.magnitude?, magnitude?]
  | _ => cases ha

theorem same_null_iff : null.same b = true ↔ b = .null := by
  cases b <;> simp [same, Value.ofDatum, Value.same, Value.magnitude?]

theorem same_text_iff {s : String} : (text s).same b = true ↔ b = .text s := by
  cases b with
  | text t =>
    have hunfold : (text s).same (text t) = (s == t) := rfl
    rw [hunfold, beq_iff_eq, text.injEq, eq_comm]
  | _ => simp [same, Value.ofDatum, Value.same, Value.magnitude?]

theorem same_moment_iff {m : Moment} : (moment m).same b = true ↔ b = .moment m := by
  cases b with
  | moment n =>
    have hunfold : (moment m).same (moment n) = (m == n) := rfl
    rw [hunfold, beq_iff_eq, moment.injEq, eq_comm]
  | _ => simp [same, Value.ofDatum, Value.same, Value.magnitude?]

/-- Lists are equal item by item. -/
theorem same_list_iff {items : List Datum} : (list items).same b = true ↔
    ∃ others, b = .list others ∧ List.Forall₂ (fun x y => x.same y = true) items others := by
  have hitems (items others : List Datum) :
      Value.sameItems (Value.ofData items) (Value.ofData others) = true ↔
        List.Forall₂ (fun x y => x.same y = true) items others := by
    induction items generalizing others with
    | nil => cases others <;> simp [Value.ofData, Value.sameItems]
    | cons item items ih =>
      cases others with
      | nil => simp [Value.ofData, Value.sameItems]
      | cons other others =>
        rw [Value.ofData, Value.ofData, Value.sameItems, Bool.and_eq_true, ih, List.forall₂_cons]
        rfl
  cases b with
  | list others =>
    have hunfold : (list items).same (list others) =
        Value.sameItems (Value.ofData items) (Value.ofData others) := rfl
    simp [hunfold, hitems]
  | _ => simp [same, Value.ofDatum, Value.same, Value.magnitude?]

/-- Objects are equal if they have as many fields, and each is found by its name on the other side. -/
theorem same_object_iff {fields : List (String × Datum)} : (object fields).same b = true ↔
    ∃ others, b = .object others ∧ fields.length = others.length ∧
      ∀ field ∈ fields, ∃ d, others.lookup field.1 = some d ∧ field.2.same d = true := by
  have hfields (fields others : List (String × Datum)) :
      Value.sameFields (Value.ofFields fields) (Value.ofFields others) = true ↔
        ∀ field ∈ fields, ∃ d, others.lookup field.1 = some d ∧ field.2.same d = true := by
    induction fields with
    | nil => simp [Value.ofFields, Value.sameFields]
    | cons field fields ih =>
      rw [Value.ofFields, Value.sameFields, Bool.and_eq_true, ih, List.forall_mem_cons,
        Value.lookup_ofFields]
      cases others.lookup field.1 <;> simp [same]
  cases b with
  | object others =>
    have hunfold : (object fields).same (object others) =
        ((Value.ofFields fields).length == (Value.ofFields others).length &&
          Value.sameFields (Value.ofFields fields) (Value.ofFields others)) := rfl
    simp [hunfold, hfields, Value.length_ofFields]
  | _ => simp [same, Value.ofDatum, Value.same, Value.magnitude?]

theorem same_self_of_magnitude {m : Magnitude} (ha : a.magnitude? = some m) (hm : m.equal m = true) :
    a.same a = true :=
  (same_iff_of_magnitude ha).mpr ⟨m, ha, hm⟩

theorem same_comm_of_magnitude {m : Magnitude} (ha : a.magnitude? = some m) (hab : a.same b = true) :
    b.same a = true := by
  obtain ⟨n, hb, hequal⟩ := (same_iff_of_magnitude ha).mp hab
  exact (same_iff_of_magnitude hb).mpr ⟨m, ha, (Magnitude.equal_comm n m).trans hequal⟩

theorem same_trans_of_magnitude {m : Magnitude} (ha : a.magnitude? = some m) (hab : a.same b = true)
    (hbc : b.same c = true) : a.same c = true := by
  obtain ⟨n, hb, hmn⟩ := (same_iff_of_magnitude ha).mp hab
  obtain ⟨k, hc, hnk⟩ := (same_iff_of_magnitude hb).mp hbc
  exact (same_iff_of_magnitude ha).mpr ⟨k, hc, Magnitude.equal_trans hmn hnk⟩

theorem same_refl (ha : a.IsOrdinary) : a.same a = true := by
  induction ha with
  | null => exact same_null_iff.mpr rfl
  | bool x => exact same_self_of_magnitude rfl (Magnitude.equal_ofInt_self _)
  | int i => exact same_self_of_magnitude rfl (Magnitude.equal_ofInt_self i)
  | double hnumber => exact same_self_of_magnitude rfl (Magnitude.equal_ofDouble_self hnumber)
  | text s => exact same_text_iff.mpr rfl
  | moment m => exact same_moment_iff.mpr rfl
  | @list items _ ih => exact same_list_iff.mpr ⟨items, rfl, List.forall₂_same.mpr ih⟩
  | @object fields hdistinct _ ih =>
    refine same_object_iff.mpr ⟨fields, rfl, rfl, fun field hfield => ?_⟩
    exact ⟨field.2, (lookup_eq_some_iff_mem hdistinct).mpr hfield, ih field hfield⟩

/-- As many names on both sides, all of one side among those of the other, are the same names. -/
theorem mem_names_of_subset {fields others : List (String × Datum)}
    (hdistinct : (fields.map (·.1)).Nodup) (hlength : fields.length = others.length)
    (hsubset : ∀ field ∈ fields, ∃ d, others.lookup field.1 = some d) {other : String × Datum}
    (hother : other ∈ others) : ∃ field ∈ fields, field.1 = other.1 := by
  have hnames : fields.map (·.1) ⊆ others.map (·.1) := by
    intro name hname
    obtain ⟨field, hfield, rfl⟩ := List.mem_map.mp hname
    obtain ⟨d, hd⟩ := hsubset field hfield
    obtain ⟨front, back, hothers, _⟩ := List.lookup_eq_some_iff.mp hd
    exact List.mem_map.mpr ⟨(field.1, d), by simp [hothers], rfl⟩
  have hperm : (fields.map (·.1)).Perm (others.map (·.1)) := by
    apply (List.subperm_of_subset hdistinct hnames).perm_of_length_le
    rw [List.length_map, List.length_map]
    exact Nat.le_of_eq hlength.symm
  exact List.mem_map.mp (hperm.mem_iff.mpr (List.mem_map.mpr ⟨other, hother, rfl⟩))

theorem same_symm (ha : a.IsOrdinary) (hb : b.IsOrdinary) (hab : a.same b = true) : b.same a = true := by
  induction ha generalizing b with
  | null =>
    rw [same_null_iff.mp hab]
    exact same_null_iff.mpr rfl
  | bool x => exact same_comm_of_magnitude rfl hab
  | int i => exact same_comm_of_magnitude rfl hab
  | double hnumber => exact same_comm_of_magnitude rfl hab
  | text s =>
    rw [same_text_iff.mp hab]
    exact same_text_iff.mpr rfl
  | moment m =>
    rw [same_moment_iff.mp hab]
    exact same_moment_iff.mpr rfl
  | @list items _ ih =>
    obtain ⟨others, rfl, hall⟩ := same_list_iff.mp hab
    cases hb with
    | list heach =>
      refine same_list_iff.mpr ⟨items, rfl, forall₂_flip_of_mem hall ?_⟩
      exact fun item hitem other hother => ih item hitem (heach other hother)
  | @object fields hdistinct _ ih =>
    obtain ⟨others, rfl, hlength, hall⟩ := same_object_iff.mp hab
    cases hb with
    | object hdistinct' heach =>
      refine same_object_iff.mpr ⟨fields, rfl, hlength.symm, fun other hother => ?_⟩
      have hfound : ∀ field ∈ fields, ∃ d, others.lookup field.1 = some d := fun field hfield =>
        (hall field hfield).imp fun _ h => h.1
      obtain ⟨field, hfield, hname⟩ := mem_names_of_subset hdistinct hlength hfound hother
      obtain ⟨d, hd, hsame⟩ := hall field hfield
      rw [hname, (lookup_eq_some_iff_mem hdistinct').mpr hother, Option.some.injEq] at hd
      refine ⟨field.2, ?_, ih field hfield (heach other hother) (hd ▸ hsame)⟩
      rw [← hname]
      exact (lookup_eq_some_iff_mem hdistinct).mpr hfield

theorem same_trans (ha : a.IsOrdinary) (hab : a.same b = true) (hbc : b.same c = true) :
    a.same c = true := by
  induction ha generalizing b c with
  | null => rwa [same_null_iff.mp hab] at hbc
  | bool x => exact same_trans_of_magnitude rfl hab hbc
  | int i => exact same_trans_of_magnitude rfl hab hbc
  | double hnumber => exact same_trans_of_magnitude rfl hab hbc
  | text s => rwa [same_text_iff.mp hab] at hbc
  | moment m => rwa [same_moment_iff.mp hab] at hbc
  | @list items _ ih =>
    obtain ⟨others, rfl, hall⟩ := same_list_iff.mp hab
    obtain ⟨thirds, rfl, hall'⟩ := same_list_iff.mp hbc
    refine same_list_iff.mpr ⟨thirds, rfl, forall₂_trans_of_mem hall hall' ?_⟩
    exact fun item hitem other third => ih item hitem
  | @object fields _ _ ih =>
    obtain ⟨others, rfl, hlength, hall⟩ := same_object_iff.mp hab
    obtain ⟨thirds, rfl, hlength', hall'⟩ := same_object_iff.mp hbc
    refine same_object_iff.mpr ⟨thirds, rfl, hlength.trans hlength', fun field hfield => ?_⟩
    obtain ⟨d, hd, hsame⟩ := hall field hfield
    obtain ⟨front, back, hothers, _⟩ := List.lookup_eq_some_iff.mp hd
    obtain ⟨e, he, hsame'⟩ := hall' (field.1, d) (by simp [hothers])
    exact ⟨e, he, ih field hfield hsame hsame'⟩

/-- Equality is an equivalence on ordinary data. -/
theorem same_equivalence :
    Equivalence fun (a b : {d : Datum // d.IsOrdinary}) => a.val.same b.val = true where
  refl a := same_refl a.property
  symm {a b} := same_symm a.property b.property
  trans {a _ _} := same_trans a.property

section Distinct

variable {data : List Datum}

/-- Of ordinary data, those are kept that equal none before them. -/
theorem distinct_eq_withoutEarlier (hdata : ∀ d ∈ data, d.IsOrdinary) :
    distinct data = withoutEarlier same data :=
  firstOfEach_eq_withoutEarlier fun d hd _ _ => same_trans (hdata d hd)

theorem pairwise_distinct (hdata : ∀ d ∈ data, d.IsOrdinary) :
    (distinct data).Pairwise fun a b => a.same b = false ∧ b.same a = false := by
  have hordinary {d : Datum} (hd : d ∈ distinct data) : d.IsOrdinary :=
    hdata d ((firstOfEach_sublist data).subset hd)
  refine (pairwise_firstOfEach data).imp_of_mem fun {a b} ha hb hdiffer => ⟨?_, hdiffer⟩
  apply Bool.eq_false_iff.mpr
  intro hsame
  rw [same_symm (hordinary ha) (hordinary hb) hsame] at hdiffer
  cases hdiffer

theorem exists_mem_distinct (hdata : ∀ d ∈ data, d.IsOrdinary) {d : Datum} (hd : d ∈ data) :
    ∃ a ∈ distinct data, a.same d = true := by
  obtain hkept | ⟨a, ha, hsame⟩ := exists_mem_firstOfEach same hd
  · exact ⟨d, hkept, same_refl (hdata d hd)⟩
  · exact ⟨a, ha, same_symm (hdata d hd) (hdata a ((firstOfEach_sublist data).subset ha)) hsame⟩

end Distinct

end Datum

end CallAudit

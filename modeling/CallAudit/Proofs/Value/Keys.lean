import CallAudit.Proofs.Number.Shortest
import CallAudit.Proofs.Value.Equivalence

/-!
# Data as keys

Whatever can be a key is null, a number, a text or a moment. Equality of keys is symmetric and carries
over without any condition, though what is not a number does not equal itself. Equal data are both void or
neither, and both can be keys or neither.
-/

namespace CallAudit.Datum

variable {a b c : Datum}

/-- What can be a key is a number, or equal to nothing but itself. -/
theorem magnitude_or_alone_of_isStable (ha : a.isStable = true) :
    (∃ m, a.magnitude? = some m) ∨ ∀ b, a.same b = true ↔ b = a := by
  cases a with
  | null => exact .inr fun _ => same_null_iff
  | bool _ | int _ | double _ => exact .inl ⟨_, rfl⟩
  | text s => exact .inr fun _ => same_text_iff
  | moment m => exact .inr fun _ => same_moment_iff
  | list _ | object _ => cases ha

theorem isStable_of_magnitude {m : Magnitude} (ha : a.magnitude? = some m) : a.isStable = true := by
  cases a with
  | bool _ | int _ | double _ => rfl
  | _ => cases ha

theorem isStable_eq_of_same (hab : a.same b = true) : a.isStable = b.isStable := by
  cases hstable : a.isStable with
  | true =>
    obtain ⟨m, ha⟩ | halone := magnitude_or_alone_of_isStable hstable
    · obtain ⟨n, hb, _⟩ := (same_iff_of_magnitude ha).mp hab
      exact (isStable_of_magnitude hb).symm
    · rw [(halone b).mp hab, hstable]
  | false =>
    cases a with
    | list items =>
      obtain ⟨others, rfl, _⟩ := same_list_iff.mp hab
      rfl
    | object fields =>
      obtain ⟨others, rfl, _⟩ := same_object_iff.mp hab
      rfl
    | _ => cases hstable

theorem same_comm_of_isStable (ha : a.isStable = true) (hab : a.same b = true) : b.same a = true := by
  obtain ⟨m, hm⟩ | halone := magnitude_or_alone_of_isStable ha
  · exact same_comm_of_magnitude hm hab
  · obtain rfl := (halone b).mp hab
    exact hab

theorem same_trans_of_isStable (ha : a.isStable = true) (hab : a.same b = true)
    (hbc : b.same c = true) : a.same c = true := by
  obtain ⟨m, hm⟩ | halone := magnitude_or_alone_of_isStable ha
  · exact same_trans_of_magnitude hm hab hbc
  · obtain rfl := (halone b).mp hab
    exact hbc

/-- Only a text equals a text. -/
theorem same_text_right_iff {s : String} : a.same (.text s) = true ↔ a = .text s := by
  constructor
  · intro h
    have ha : a.isStable = true := by
      rw [isStable_eq_of_same h]
      rfl
    exact same_text_iff.mp (same_comm_of_isStable ha h)
  · rintro rfl
    exact same_text_iff.mpr rfl

theorem equal_ofInt_zero (i : Int) : (Magnitude.ofInt i).equal (.finite 0) = (i == 0) := by
  have hunits : (Double.oneInUnits : Int) ≠ 0 := Int.natCast_ne_zero.mpr Double.oneInUnits_pos.ne'
  rw [Magnitude.ofInt, Magnitude.equal, Bool.eq_iff_iff, beq_iff_eq, beq_iff_eq, mul_eq_zero,
    or_iff_left hunits]

/-- A number is void if it equals zero. -/
theorem isVoid_of_magnitude {m : Magnitude} (ha : a.magnitude? = some m) :
    a.isVoid = m.equal (.finite 0) := by
  cases a with
  | bool x =>
    cases ha
    rw [equal_ofInt_zero]
    cases x <;> rfl
  | int i =>
    cases ha
    rw [equal_ofInt_zero, isVoid]
  | double d =>
    cases ha
    rw [isVoid, Magnitude.ofDouble]
    cases d.isFinite with
    | true =>
      have hscaled : (d.scaled = 0) ↔ d.magnitude = 0 := by
        unfold Double.scaled
        split <;> omega
      rw [Bool.true_and, if_pos rfl, Magnitude.equal, Bool.eq_iff_iff, beq_iff_eq, beq_iff_eq,
        hscaled]
    | false =>
      rw [Bool.false_and, if_neg Bool.false_ne_true]
      split <;> rfl
  | _ => cases ha

/-- Equal data are both void or neither. -/
theorem isVoid_eq_of_same (hab : a.same b = true) : a.isVoid = b.isVoid := by
  cases hstable : a.isStable with
  | true =>
    obtain ⟨m, ha⟩ | halone := magnitude_or_alone_of_isStable hstable
    · obtain ⟨n, hb, hmn⟩ := (same_iff_of_magnitude ha).mp hab
      have hnm : n.equal m = true := (Magnitude.equal_comm n m).trans hmn
      rw [isVoid_of_magnitude ha, isVoid_of_magnitude hb, Bool.eq_iff_iff]
      exact ⟨Magnitude.equal_trans hnm, Magnitude.equal_trans hmn⟩
    · rw [(halone b).mp hab]
  | false =>
    cases a with
    | list items =>
      obtain ⟨others, rfl, hall⟩ := same_list_iff.mp hab
      rw [isVoid, isVoid, Bool.eq_iff_iff, List.isEmpty_iff_length_eq_zero,
        List.isEmpty_iff_length_eq_zero, hall.length_eq]
    | object fields =>
      obtain ⟨others, rfl, hlength, _⟩ := same_object_iff.mp hab
      rw [isVoid, isVoid, Bool.eq_iff_iff, List.isEmpty_iff_length_eq_zero,
        List.isEmpty_iff_length_eq_zero, hlength]
    | _ => cases hstable

end CallAudit.Datum

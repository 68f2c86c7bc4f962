import CallAudit.Proofs.Store.Lookup
import Mathlib.Data.List.Perm.Basic

/-!
# Looking up with repetitions

A criterion that lists a key several times chooses its bucket as often. So what it finds is each live
site a number of times that the key of the site decides, whatever else is live.
-/

namespace CallAudit

namespace Criterion

/-- Whether a criterion can be used to choose buckets: one value must be stable for that. -/
def choosesBuckets : Criterion → Bool
  | .equals v => v.isStable
  | _ => true

/-- How often a criterion chooses the bucket of a key. -/
def copies : Criterion → Option String → Nat
  | .oneOf vs, key => vs.countP ((Value.ofName key).same ·)
  | criterion, key => if criterion.holds (.ofName key) then 1 else 0

end Criterion

namespace Buckets

variable {keyOf : Entry → Option (Option String)} {buckets : Buckets} {log : List Entry}

theorem filter_eq_flatMap_replicate (log : List Entry) (p : Entry → Bool) :
    log.filter p = log.flatMap fun entry => List.replicate (if p entry then 1 else 0) entry := by
  induction log with
  | nil => rfl
  | cons entry log ih =>
    rw [List.flatMap_cons, ← ih, List.filter_cons]
    cases p entry <;> rfl

/-- Going through a log once for each of some values yields each entry as often as values ask for it. -/
theorem flatMap_filter_perm (log : List Entry) (p : Value → Entry → Bool) (vs : List Value) :
    (vs.flatMap fun v => log.filter (p v)).Perm
      (log.flatMap fun entry => List.replicate (vs.countP fun v => p v entry) entry) := by
  induction vs with
  | nil => simp
  | cons v vs ih =>
    have hcopies (entry : Entry) :
        List.replicate (if p v entry then 1 else 0) entry ++
            List.replicate (vs.countP fun w => p w entry) entry =
          List.replicate ((v :: vs).countP fun w => p w entry) entry := by
      rw [List.replicate_append_replicate, List.countP_cons, Nat.add_comm]
    rw [List.flatMap_cons, filter_eq_flatMap_replicate]
    refine (ih.append_left _).trans ((List.flatMap_append_perm log _ _).trans ?_)
    exact List.Perm.of_eq (List.flatMap_congr fun entry _ => hcopies entry)

namespace Groups

/-- The bucket of a name holds the entries that have it for a key. -/
theorem toList_bucketOf?_flatten_eq (hgroups : Groups keyOf buckets log) (v : Value) :
    (buckets.bucketOf? v).toList.flatten =
      log.filter fun entry => (keyOf entry).any fun key => (Value.ofName key).same v := by
  have hflatten : (buckets.bucketOf? v).toList.flatten = (buckets.bucketOf? v).getD [] := by
    cases buckets.bucketOf? v <;> simp
  rw [hflatten, hgroups.bucketOf?_getD]
  refine List.filter_congr fun entry _ => ?_
  cases keyOf entry with
  | none => rfl
  | some key =>
    rw [Option.any_some, Option.any_some, Bool.eq_iff_iff, Value.same_ofName_iff, Value.ofName_same_iff]

/-- A criterion that lists no key twice chooses each bucket once or not at all. -/
theorem select_perm_copies_of_once (hgroups : Groups keyOf buckets log) {criterion : Criterion}
    (hwell : criterion.WellFormed)
    (honce : ∀ key, criterion.copies key = if criterion.holds (.ofName key) then 1 else 0) :
    ∃ selected, buckets.select criterion = .ok selected ∧ selected.flatten.Perm
      (log.flatMap fun entry => List.replicate ((keyOf entry).elim 0 criterion.copies) entry) := by
  obtain ⟨selected, hselected, hperm⟩ := hgroups.select_perm hwell
  refine ⟨selected, hselected, hperm.trans (List.Perm.of_eq ?_)⟩
  rw [filter_eq_flatMap_replicate]
  refine List.flatMap_congr fun entry _ => ?_
  cases keyOf entry with
  | none => rfl
  | some key => rw [Option.any_some, Option.elim_some, honce]

theorem select_perm_copies (hgroups : Groups keyOf buckets log) {criterion : Criterion}
    (hchooses : criterion.choosesBuckets = true) :
    ∃ selected, buckets.select criterion = .ok selected ∧ selected.flatten.Perm
      (log.flatMap fun entry => List.replicate ((keyOf entry).elim 0 criterion.copies) entry) := by
  cases criterion with
  | equals v => exact hgroups.select_perm_copies_of_once hchooses fun _ => rfl
  | matching r => exact hgroups.select_perm_copies_of_once trivial fun _ => rfl
  | oneOf vs =>
    refine ⟨_, rfl, ?_⟩
    have hflatten : (vs.filterMap buckets.bucketOf?).flatten = vs.flatMap fun v =>
        log.filter fun entry => (keyOf entry).any fun key => (Value.ofName key).same v := by
      rw [List.filterMap_eq_flatMap_toList, ← List.flatMap_id, List.flatMap_assoc]
      refine List.flatMap_congr fun v _ => ?_
      rw [List.flatMap_id, hgroups.toList_bucketOf?_flatten_eq]
    rw [hflatten]
    refine (flatMap_filter_perm log _ vs).trans (List.Perm.of_eq ?_)
    refine List.flatMap_congr fun entry _ => ?_
    cases keyOf entry with
    | none => simp
    | some key => rfl

/-- The sites under the keys that meet a criterion are those of the log, each as often as the criterion
    chooses the bucket of its key. -/
theorem union_eq_flatMap (hgroups : Groups keyOf buckets log)
    (hascending : log.Pairwise (·.ordinal < ·.ordinal)) {criterion : Criterion}
    (hchooses : criterion.choosesBuckets = true) :
    buckets.union criterion = .ok (log.flatMap fun entry =>
      List.replicate ((keyOf entry).elim 0 criterion.copies) entry.site) := by
  obtain ⟨selected, hselected, hperm⟩ := hgroups.select_perm_copies hchooses
  have hmem {a : Entry} (ha : a ∈ log.flatMap fun entry =>
      List.replicate ((keyOf entry).elim 0 criterion.copies) entry) : a ∈ log := by
    obtain ⟨entry, hentry, hcopy⟩ := List.mem_flatMap.mp ha
    rwa [List.eq_of_mem_replicate hcopy]
  have hsorted : (log.flatMap fun entry =>
      List.replicate ((keyOf entry).elim 0 criterion.copies) entry).Pairwise
        (·.ordinal ≤ ·.ordinal) := by
    refine List.pairwise_flatMap.mpr ⟨fun entry _ => ?_, hascending.imp ?_⟩
    · exact List.pairwise_replicate.mpr (.inr (Nat.le_refl _))
    · intro a b hlt c hc d hd
      rw [List.eq_of_mem_replicate hc, List.eq_of_mem_replicate hd]
      exact Nat.le_of_lt hlt
  have hmerge := merge_eq_of_perm_of_sorted hsorted
    (fun a ha b hb => eq_of_ordinal_eq hascending (hmem ha) (hmem hb)) hperm
  rw [union, hselected, Except.map, hmerge, List.map_flatMap]
  simp only [List.map_replicate]

end Groups

/-- One value that could change is no key of buckets, whatever they are. -/
theorem union_of_not_choosesBuckets (buckets : Buckets) {criterion : Criterion}
    (hchooses : criterion.choosesBuckets = false) : buckets.union criterion = .error .notStable := by
  cases criterion with
  | equals v =>
    have hunstable : v.isStable = false := hchooses
    simp [union, select, hunstable, Except.map]
  | oneOf vs | matching r => cases hchooses

end Buckets

end CallAudit

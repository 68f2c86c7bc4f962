import CallAudit.Proofs.Store.Indexing
import CallAudit.Proofs.Value.Sets
import Mathlib.Data.List.Nodup

/-!
# Looking up is filtering

Choosing buckets by a criterion and merging them gives the live sites that meet it, in the order of
addition, whichever way the buckets are chosen and however many there are.
-/

namespace CallAudit

namespace Criterion

/-- A criterion that can be looked up: one value is stable, and of a set no two members are equal. -/
def WellFormed : Criterion → Prop
  | .equals v => v.isStable = true
  | .oneOf vs => vs.Pairwise fun a b => b.same a = false
  | .matching _ => True

theorem wellFormed_oneOf_toSet (values : List Value) : (oneOf (Value.toSet values)).WellFormed :=
  pairwise_firstOfEach values

/-- A collection stands for the set of its members. -/
theorem ofValue_of_members {v : Value} {items : List Value} {criterion : Criterion}
    (hitems : v.members? = some items) (hcriterion : ofValue v = .ok criterion) :
    criterion = .oneOf (Value.toSet items) := by
  cases v <;> simp_all [Value.members?, ofValue, Value.toSet?] <;> grind

end Criterion

namespace Buckets

theorem merge_perm (selected : List (List Entry)) : (merge selected).Perm selected.flatten :=
  List.mergeSort_perm _ _

theorem pairwise_merge (selected : List (List Entry)) :
    (merge selected).Pairwise (·.ordinal ≤ ·.ordinal) := by
  have hmerged : (merge selected).Pairwise fun a b => decide (a.ordinal ≤ b.ordinal) = true :=
    List.pairwise_mergeSort (by simpa using fun a b c => Nat.le_trans)
      (by simpa using fun a b => Nat.le_total _ _) selected.flatten
  exact hmerged.imp of_decide_eq_true

/-- Entries of which no two differ with the same ordinal are put into the one order that there is. -/
theorem merge_eq_of_perm_of_sorted {entries : List Entry}
    (hsorted : entries.Pairwise (·.ordinal ≤ ·.ordinal))
    (hsame : ∀ a ∈ entries, ∀ b ∈ entries, a.ordinal = b.ordinal → a = b)
    {selected : List (List Entry)} (hperm : selected.flatten.Perm entries) :
    merge selected = entries := by
  have hpermuted := (merge_perm selected).trans hperm
  refine hpermuted.eq_of_pairwise ?_ (pairwise_merge selected) hsorted
  intro a b ha hb hab hba
  exact hsame a (hpermuted.mem_iff.mp ha) b hb (Nat.le_antisymm hab hba)

/-- A log has each ordinal once. -/
theorem eq_of_ordinal_eq {log : List Entry} (hascending : log.Pairwise (·.ordinal < ·.ordinal))
    {a b : Entry} (ha : a ∈ log) (hb : b ∈ log) (hordinal : a.ordinal = b.ordinal) : a = b := by
  have hnodup : (log.map (·.ordinal)).Nodup :=
    List.pairwise_map.mpr (hascending.imp fun h => Nat.ne_of_lt h)
  exact List.inj_on_of_nodup_map hnodup ha hb hordinal

/-- Entries in the order of addition are found again by sorting them. -/
theorem merge_eq_of_perm {log : List Entry} (hascending : log.Pairwise (·.ordinal < ·.ordinal))
    {selected : List (List Entry)} (hperm : selected.flatten.Perm log) : merge selected = log :=
  merge_eq_of_perm_of_sorted (hascending.imp fun h => Nat.le_of_lt h)
    (fun _ ha _ hb hordinal => eq_of_ordinal_eq hascending ha hb hordinal) hperm

namespace Groups

variable {keyOf : Entry → Option (Option String)} {buckets : Buckets} {log : List Entry}

theorem bucketOf?_getD (hgroups : Groups keyOf buckets log) (v : Value) :
    (buckets.bucketOf? v).getD [] =
      log.filter fun entry => (keyOf entry).any fun key => v.same (.ofName key) := by
  unfold bucketOf?
  cases h : v.name? with
  | none =>
    symm
    rw [Option.bind_none, Option.getD_none, List.filter_eq_nil_iff]
    intro entry _
    cases keyOf entry with
    | none => simp
    | some key =>
      intro hsame
      rw [Option.any_some, Value.same_ofName_iff] at hsame
      simp [hsame] at h
  | some name =>
    have hv := Value.name?_eq_some_iff.mp h
    have hentries := hgroups.entries_eq name
    unfold entries at hentries
    rw [Option.bind_some, hentries]
    apply List.filter_congr
    intro entry _
    cases keyOf entry with
    | none => simp
    | some key =>
      rw [Bool.eq_iff_iff, Option.any_some, Value.same_ofName_iff, hv]
      simp [eq_comm]

/-- The sites under the key that a value is. -/
theorem sitesAt_eq (hgroups : Groups keyOf buckets log) (v : Value) :
    buckets.sitesAt v =
      if v.isStable then
        .ok ((log.filter fun entry => (keyOf entry).any fun key => v.same (.ofName key)).map (·.site))
      else .error .notStable := by
  rw [sitesAt, hgroups.bucketOf?_getD]

/-- The buckets of distinct keys, which are those that a condition on keys holds of. -/
theorem flatMap_entries_perm_of_iff (hgroups : Groups keyOf buckets log)
    {ks : List (Option String)} (hnodup : ks.Nodup) {p : Option String → Bool}
    (hks : ∀ key ∈ buckets.keys, key ∈ ks ↔ p key = true) :
    (ks.flatMap buckets.entries).Perm (log.filter fun entry => (keyOf entry).any p) := by
  refine (hgroups.flatMap_entries_perm hnodup).trans (List.Perm.of_eq ?_)
  apply List.filter_congr
  intro entry hentry
  cases h : keyOf entry with
  | none => rfl
  | some key =>
    rw [Option.any_some, Option.any_some, Bool.eq_iff_iff, List.contains_iff_mem]
    exact hks key (hgroups.mem_keys_of_mem_log hentry h)

/-- The bucket of a value, if there is one, is the group of the name that the value is. -/
theorem toList_bucketOf?_flatten (buckets : Buckets) (v : Value) :
    (buckets.bucketOf? v).toList.flatten = v.name?.toList.flatMap buckets.entries := by
  unfold bucketOf? entries
  cases v.name? with
  | none => rfl
  | some name => cases h : buckets.lookup name <;> simp [h]

theorem select_perm (hgroups : Groups keyOf buckets log) {criterion : Criterion}
    (hwell : criterion.WellFormed) :
    ∃ selected, buckets.select criterion = .ok selected ∧
      selected.flatten.Perm
        (log.filter fun entry => (keyOf entry).any fun key => criterion.holds (.ofName key)) := by
  cases criterion with
  | equals v =>
    refine ⟨_, if_pos hwell, ?_⟩
    rw [toList_bucketOf?_flatten]
    refine hgroups.flatMap_entries_perm_of_iff (by cases v.name? <;> simp) fun key _ => ?_
    rw [Criterion.holds, Value.ofName_same_iff, ← Value.name?_eq_some_iff, Option.mem_toList]
  | oneOf vs =>
    refine ⟨_, rfl, ?_⟩
    have hflatten : (vs.filterMap buckets.bucketOf?).flatten =
        (vs.filterMap Value.name?).flatMap buckets.entries := by
      rw [List.filterMap_eq_flatMap_toList, List.filterMap_eq_flatMap_toList, List.flatMap_assoc,
        ← List.flatMap_id, List.flatMap_assoc]
      refine List.flatMap_congr fun v _ => ?_
      rw [List.flatMap_id, toList_bucketOf?_flatten]
    rw [hflatten]
    refine hgroups.flatMap_entries_perm_of_iff ?_ fun key _ => ?_
    · -- Two members that are one name would be equal.
      refine List.pairwise_filterMap.mpr (List.Pairwise.imp ?_ hwell)
      intro v w hdistinct a ha b hb heq
      subst heq
      rw [Value.name?_eq_some_iff.mp ha, Value.name?_eq_some_iff.mp hb] at hdistinct
      rw [(Value.same_ofName_iff _ _).mpr rfl] at hdistinct
      cases hdistinct
    · simp only [List.mem_filterMap, Value.name?_eq_some_iff, Criterion.holds, Value.isIn,
        List.any_eq_true, Value.ofName_same_iff]
  | matching r =>
    refine ⟨_, rfl, ?_⟩
    have hflatten : ((buckets.filter fun bucket => (Criterion.matching r).holds (.ofName bucket.1)).map
        (·.2)).flatten = (buckets.keys.filter fun key =>
          (Criterion.matching r).holds (.ofName key)).flatMap buckets.entries := by
      rw [keys, List.filter_map, List.flatMap_map, ← List.flatMap_def]
      refine List.flatMap_congr ?_
      rintro ⟨key, es⟩ hbucket
      exact (entries_of_mem hgroups.nodup (List.mem_filter.mp hbucket).1).symm
    refine (List.Perm.of_eq hflatten).trans
      (hgroups.flatMap_entries_perm_of_iff (hgroups.nodup.filter _) fun key hkey => ?_)
    simp [List.mem_filter, hkey]

/-- The sites under the keys that meet a criterion are those of the log whose key meets it. -/
theorem union_eq (hgroups : Groups keyOf buckets log)
    (hascending : log.Pairwise (·.ordinal < ·.ordinal)) {criterion : Criterion}
    (hwell : criterion.WellFormed) :
    buckets.union criterion = .ok ((log.filter fun entry =>
      (keyOf entry).any fun key => criterion.holds (.ofName key)).map (·.site)) := by
  obtain ⟨selected, hselected, hperm⟩ := hgroups.select_perm hwell
  rw [union, hselected, Except.map, merge_eq_of_perm (hascending.sublist List.filter_sublist) hperm]

end Groups

end Buckets

namespace Store

variable {store : Store} {live : List Site}

theorem Represents.sitesAt_byMethod (hrep : store.Represents live) (v : Value) :
    store.byMethod.sitesAt v =
      if v.isStable then .ok (live.filter fun site => v.same (.text site.call.method))
      else .error .notStable := by
  obtain ⟨log, hindexes, rfl⟩ := hrep
  rw [hindexes.byMethod.sitesAt_eq, List.filter_map]
  rfl

theorem Represents.sitesAt_byReceiver (hrep : store.Represents live) (v : Value) :
    store.byReceiver.sitesAt v =
      if v.isStable then
        .ok (live.filter fun site => !site.call.receiver.isExpression && v.same site.call.receiver.value)
      else .error .notStable := by
  obtain ⟨log, hindexes, rfl⟩ := hrep
  rw [hindexes.byReceiver.sitesAt_eq, List.filter_map]
  simp only [Entry.receiverKey, Receiver.any_key?]
  rfl

/-- Looking up methods finds the live sites whose method meets a criterion. -/
theorem Represents.withMethod_eq (hrep : store.Represents live) {criterion : Criterion}
    (hwell : criterion.WellFormed) :
    store.withMethod criterion =
      .ok (live.filter fun site => criterion.holds (.text site.call.method)) := by
  obtain ⟨log, hindexes, rfl⟩ := hrep
  rw [withMethod, hindexes.byMethod.union_eq hindexes.ascending hwell, List.filter_map]
  rfl

/-- Looking up receivers finds the live sites whose receiver is no expression and meets a criterion. -/
theorem Represents.withReceiver_eq (hrep : store.Represents live) {criterion : Criterion}
    (hwell : criterion.WellFormed) :
    store.withReceiver criterion = .ok (live.filter fun site =>
      !site.call.receiver.isExpression && criterion.holds site.call.receiver.value) := by
  obtain ⟨log, hindexes, rfl⟩ := hrep
  rw [withReceiver, hindexes.byReceiver.union_eq hindexes.ascending hwell, List.filter_map]
  simp only [Entry.receiverKey, Receiver.any_key?]
  rfl

end Store

end CallAudit

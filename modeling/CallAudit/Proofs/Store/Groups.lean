import CallAudit.Store.Lookup
import Mathlib.Data.List.Basic

/-!
# Buckets as groups of a log

Buckets under one kind of key hold the entries of a log that have such a key, each under its own and in
the order of the log. Looking up, adding and going through all buckets are then operations on the log.
-/

namespace CallAudit

namespace Buckets

def keys (buckets : Buckets) : List (Option String) := buckets.map (·.1)

/-- All entries, bucket by bucket. -/
def contents (buckets : Buckets) : List Entry := buckets.flatMap (·.2)

@[simp] theorem contents_cons (bucket : Option String × List Entry) (rest : Buckets) :
    contents (bucket :: rest) = bucket.2 ++ contents rest :=
  List.flatMap_cons

theorem contents_append (front back : Buckets) :
    contents (front ++ back) = front.contents ++ back.contents :=
  List.flatMap_append

theorem entries_eq_nil_of_notMem_keys {buckets : Buckets} {key : Option String}
    (hkey : key ∉ buckets.keys) : buckets.entries key = [] := by
  induction buckets with
  | nil => rfl
  | cons bucket rest ih =>
    obtain ⟨k, es⟩ := bucket
    have hne : key ≠ k := by
      rintro rfl
      exact hkey (by simp [keys])
    have hrest : key ∉ keys rest := fun h => hkey (List.mem_cons_of_mem k h)
    rw [entries_cons, if_neg hne, ih hrest]

theorem entries_of_mem {buckets : Buckets} {key : Option String} {es : List Entry}
    (hnodup : buckets.keys.Nodup) (hmem : (key, es) ∈ buckets) : buckets.entries key = es := by
  induction buckets with
  | nil => cases hmem
  | cons bucket rest ih =>
    obtain ⟨k, es'⟩ := bucket
    obtain ⟨hk, hrest⟩ := List.nodup_cons.mp hnodup
    rw [entries_cons]
    cases hmem with
    | head => simp
    | tail _ hmem =>
      have hne : key ≠ k := by
        rintro rfl
        exact hk (List.mem_map_of_mem (f := (·.1)) hmem)
      rw [if_neg hne, ih hrest hmem]

theorem contents_eq_flatMap_keys {buckets : Buckets} (hnodup : buckets.keys.Nodup) :
    buckets.contents = buckets.keys.flatMap buckets.entries := by
  unfold contents keys
  rw [List.flatMap_map]
  apply List.flatMap_congr
  rintro ⟨key, es⟩ hmem
  exact (entries_of_mem hnodup hmem).symm

theorem keys_add (buckets : Buckets) (key : Option String) (entry : Entry) :
    (buckets.add key entry).keys =
      if key ∈ buckets.keys then buckets.keys else buckets.keys ++ [key] := by
  induction buckets with
  | nil => rfl
  | cons bucket rest ih =>
    obtain ⟨k, es⟩ := bucket
    unfold add
    by_cases hk : k = key
    · subst hk
      simp [keys]
    · rw [if_neg hk]
      have hne : key ≠ k := fun h => hk h.symm
      simp only [keys, List.map_cons, List.mem_cons, hne, false_or] at ih ⊢
      rw [ih]
      by_cases hmem : key ∈ rest.map (·.1) <;> simp [hmem]

theorem nodup_keys_add {buckets : Buckets} (hnodup : buckets.keys.Nodup) (key : Option String)
    (entry : Entry) : (buckets.add key entry).keys.Nodup := by
  rw [keys_add]
  split
  · exact hnodup
  · next hkey =>
    refine List.nodup_append.mpr ⟨hnodup, by simp, ?_⟩
    intro k hk k' hk' heq
    rw [List.mem_singleton.mp hk'] at heq
    exact hkey (heq ▸ hk)

theorem keys_append (front back : Buckets) : keys (front ++ back) = front.keys ++ back.keys :=
  List.map_append

theorem keys_perm {order buckets : Buckets} (hperm : order.Perm buckets) :
    order.keys.Perm buckets.keys :=
  hperm.map Prod.fst

/-- Of buckets under distinct keys only one part has the entries of a key. -/
theorem entries_append {front back : Buckets} (hnodup : (keys (front ++ back)).Nodup)
    (key : Option String) : entries (front ++ back) key = front.entries key ++ back.entries key := by
  induction front with
  | nil => rfl
  | cons bucket rest ih =>
    obtain ⟨k, es⟩ := bucket
    obtain ⟨hk, hrest⟩ := List.nodup_cons.mp hnodup
    rw [List.cons_append, entries_cons, entries_cons, ih hrest]
    split
    · next hkey =>
      subst hkey
      have hback : key ∉ back.keys := by
        intro h
        refine hk ?_
        rw [List.append_eq, List.map_append]
        exact List.mem_append_right _ h
      rw [entries_eq_nil_of_notMem_keys hback, List.append_nil]
    · rfl

theorem entries_eq_of_perm {order buckets : Buckets} (hnodup : buckets.keys.Nodup)
    (hperm : order.Perm buckets) (key : Option String) : order.entries key = buckets.entries key := by
  by_cases hkey : key ∈ order.keys
  · obtain ⟨⟨_, es⟩, hbucket, rfl⟩ := List.mem_map.mp hkey
    rw [entries_of_mem ((keys_perm hperm).nodup_iff.mpr hnodup) hbucket,
      entries_of_mem hnodup (hperm.mem_iff.mp hbucket)]
  · rw [entries_eq_nil_of_notMem_keys hkey,
      entries_eq_nil_of_notMem_keys ((keys_perm hperm).mem_iff.not.mp hkey)]

/-- No bucket is empty. -/
def Filled (buckets : Buckets) : Prop := ∀ bucket ∈ buckets, bucket.2 ≠ []

theorem Filled.add {buckets : Buckets} (hfilled : buckets.Filled) (key : Option String)
    (entry : Entry) : (buckets.add key entry).Filled := by
  induction buckets with
  | nil => simp [Filled, Buckets.add]
  | cons bucket rest ih =>
    obtain ⟨k, es⟩ := bucket
    have hrest : Filled rest := fun b hb => hfilled b (List.mem_cons_of_mem _ hb)
    have hes : es ≠ [] := hfilled (k, es) (by simp)
    unfold Buckets.add
    split
    · rintro b (_ | ⟨_, hb⟩)
      · simp
      · exact hrest b hb
    · rintro b (_ | ⟨_, hb⟩)
      · exact hes
      · exact ih hrest b hb

/-- The buckets hold the entries of a log that have a key, each under its key and in the order of the
    log. No key comes twice and no bucket is empty. -/
structure Groups (keyOf : Entry → Option (Option String)) (buckets : Buckets) (log : List Entry) :
    Prop where
  nodup : buckets.keys.Nodup
  filled : buckets.Filled
  entries_eq : ∀ key, buckets.entries key = log.filter (keyOf · = some key)

namespace Groups

variable {keyOf : Entry → Option (Option String)} {buckets : Buckets} {log : List Entry}

theorem nil (keyOf : Entry → Option (Option String)) : Groups keyOf [] [] where
  nodup := List.nodup_nil
  filled := by simp [Filled]
  entries_eq := by simp

theorem add (hgroups : Groups keyOf buckets log) {entry : Entry} {key : Option String}
    (hkey : keyOf entry = some key) : Groups keyOf (buckets.add key entry) (log ++ [entry]) where
  nodup := nodup_keys_add hgroups.nodup key entry
  filled := hgroups.filled.add key entry
  entries_eq := by
    intro other
    rw [entries_add, hgroups.entries_eq, List.filter_append]
    by_cases h : other = key
    · simp [hkey, h]
    · simp [hkey, h, Ne.symm h]

/-- An entry without a key is in no bucket. -/
theorem add_unkeyed (hgroups : Groups keyOf buckets log) {entry : Entry} (hkey : keyOf entry = none) :
    Groups keyOf buckets (log ++ [entry]) where
  nodup := hgroups.nodup
  filled := hgroups.filled
  entries_eq := by
    intro other
    rw [hgroups.entries_eq, List.filter_append]
    simp [hkey]

/-- The order of the buckets does not matter. -/
theorem of_perm (hgroups : Groups keyOf buckets log) {order : Buckets} (hperm : order.Perm buckets) :
    Groups keyOf order log where
  nodup := (keys_perm hperm).nodup_iff.mpr hgroups.nodup
  filled := fun bucket hbucket => hgroups.filled bucket (hperm.mem_iff.mp hbucket)
  entries_eq := fun key => (entries_eq_of_perm hgroups.nodup hperm key).trans (hgroups.entries_eq key)

theorem mem_keys_of_mem_log (hgroups : Groups keyOf buckets log) {entry : Entry} {key : Option String}
    (hentry : entry ∈ log) (hkey : keyOf entry = some key) : key ∈ buckets.keys := by
  by_contra hnot
  have hnil := entries_eq_nil_of_notMem_keys hnot
  rw [hgroups.entries_eq, List.filter_eq_nil_iff] at hnil
  exact hnil entry hentry (by simpa using hkey)

/-- The groups of distinct keys, one after the other, are the entries of the log with such keys in
    another order. -/
theorem flatMap_entries_perm (hgroups : Groups keyOf buckets log) {ks : List (Option String)}
    (hnodup : ks.Nodup) :
    (ks.flatMap buckets.entries).Perm (log.filter fun entry => (keyOf entry).any (ks.contains ·)) := by
  induction ks with
  | nil => simp
  | cons k ks ih =>
    obtain ⟨hk, hks⟩ := List.nodup_cons.mp hnodup
    have hin : log.filter (keyOf · = some k) = (log.filter fun entry =>
        (keyOf entry).any ((k :: ks).contains ·)).filter (keyOf · = some k) := by
      rw [List.filter_filter]
      apply List.filter_congr
      intro entry _
      by_cases h : keyOf entry = some k <;> simp [h]
    have hout : (log.filter fun entry => (keyOf entry).any (ks.contains ·)) = (log.filter fun entry =>
        (keyOf entry).any ((k :: ks).contains ·)).filter (fun entry => !decide (keyOf entry = some k)) := by
      rw [List.filter_filter]
      apply List.filter_congr
      intro entry _
      cases h : keyOf entry with
      | none => simp
      | some key =>
        by_cases hkey : key = k
        · subst hkey
          simpa using hk
        · simp [hkey]
    rw [List.flatMap_cons, hgroups.entries_eq, hin]
    exact ((ih hks).trans (List.Perm.of_eq hout)).append_left _ |>.trans
      (List.filter_append_perm _ _)

theorem contents_perm (hgroups : Groups keyOf buckets log) :
    buckets.contents.Perm (log.filter fun entry => (keyOf entry).isSome) := by
  rw [contents_eq_flatMap_keys hgroups.nodup]
  refine (hgroups.flatMap_entries_perm hgroups.nodup).trans (List.Perm.of_eq ?_)
  apply List.filter_congr
  intro entry hentry
  cases h : keyOf entry with
  | none => rfl
  | some key => simpa using hgroups.mem_keys_of_mem_log hentry h

theorem mem_contents_iff (hgroups : Groups keyOf buckets log) {entry : Entry} :
    entry ∈ buckets.contents ↔ entry ∈ log ∧ (keyOf entry).isSome = true := by
  rw [hgroups.contents_perm.mem_iff, List.mem_filter]

/-- A bucket is a part of the log in its order. -/
theorem sublist_log (hgroups : Groups keyOf buckets log) {bucket : Option String × List Entry}
    (hbucket : bucket ∈ buckets) : bucket.2.Sublist log := by
  rw [← entries_of_mem hgroups.nodup hbucket, hgroups.entries_eq]
  exact List.filter_sublist

end Groups

end Buckets

end CallAudit

import CallAudit.Proofs.Store.Interruption

/-!
# Ordinals

An ordinal is given away once. So whatever has happened to a store, even if removals failed half way, each
kind of buckets still groups a log of its own in the order of addition, and no two entries of it share an
ordinal. What a set of keys finds is therefore the same in whichever order the set is gone through.
-/

namespace CallAudit

namespace Buckets

/-- The entries in some buckets, each once, in the order of addition. -/
structure HasLog (buckets : Buckets) (log : List Entry) : Prop where
  perm : log.Perm buckets.contents
  ascending : log.Pairwise (·.ordinal < ·.ordinal)

/-- Entries can be put into the order of addition in one way only. -/
theorem HasLog.unique {buckets : Buckets} {log other : List Entry} (hlog : buckets.HasLog log)
    (hother : buckets.HasLog other) : log = other := by
  refine (hlog.perm.trans hother.perm.symm).eq_of_pairwise ?_ hlog.ascending hother.ascending
  intro a b _ _ hab hba
  exact absurd hab (Nat.lt_asymm hba)

/-- The buckets group a log of entries that have keys, whose ordinals ascend to the next one. -/
structure Logs (keyOf : Entry → Option (Option String)) (next : Nat) (buckets : Buckets)
    (log : List Entry) : Prop where
  groups : Groups keyOf buckets log
  keyed : ∀ entry ∈ log, (keyOf entry).isSome = true
  ascending : log.Pairwise (·.ordinal < ·.ordinal)
  bounded : ∀ entry ∈ log, entry.ordinal < next

namespace Logs

variable {keyOf : Entry → Option (Option String)} {next : Nat} {buckets : Buckets} {log : List Entry}

theorem nil (keyOf : Entry → Option (Option String)) (next : Nat) : Logs keyOf next [] [] where
  groups := .nil keyOf
  keyed := by simp
  ascending := List.Pairwise.nil
  bounded := by simp

theorem succ (hlogs : Logs keyOf next buckets log) : Logs keyOf (next + 1) buckets log where
  groups := hlogs.groups
  keyed := hlogs.keyed
  ascending := hlogs.ascending
  bounded := fun entry hentry => Nat.lt_succ_of_lt (hlogs.bounded entry hentry)

/-- An entry with the next ordinal comes after all others. -/
theorem add (hlogs : Logs keyOf next buckets log) {site : Site} {key : Option String}
    (hkey : keyOf ⟨next, site⟩ = some key) :
    Logs keyOf (next + 1) (buckets.add key ⟨next, site⟩) (log ++ [⟨next, site⟩]) where
  groups := hlogs.groups.add hkey
  keyed := by
    intro entry hentry
    cases List.mem_append.mp hentry with
    | inl hold => exact hlogs.keyed entry hold
    | inr hnew => rw [List.mem_singleton.mp hnew, hkey, Option.isSome_some]
  ascending := by
    refine List.pairwise_append.mpr ⟨hlogs.ascending, by simp, fun entry hentry last hlast => ?_⟩
    rw [List.mem_singleton.mp hlast]
    exact hlogs.bounded entry hentry
  bounded := by
    intro entry hentry
    cases List.mem_append.mp hentry with
    | inl hold => exact Nat.lt_succ_of_lt (hlogs.bounded entry hold)
    | inr hnew => rw [List.mem_singleton.mp hnew]; exact Nat.lt_succ_self next

theorem prune (hlogs : Logs keyOf next buckets log) (test : SiteTest) :
    ∃ kept, Logs keyOf next (buckets.prune test).1 kept :=
  ⟨_, {
    groups := hlogs.groups.prune test
    keyed := fun entry hentry => hlogs.keyed entry (List.mem_filter.mp hentry).1
    ascending := hlogs.ascending.sublist List.filter_sublist
    bounded := fun entry hentry => hlogs.bounded entry (List.mem_filter.mp hentry).1 }⟩

theorem hasLog (hlogs : Logs keyOf next buckets log) : buckets.HasLog log where
  perm := by
    have hperm := hlogs.groups.contents_perm
    rw [List.filter_eq_self.mpr hlogs.keyed] at hperm
    exact hperm.symm
  ascending := hlogs.ascending

end Logs

/-- The ordinals of the entries are below the next one, and tell the entries apart. -/
structure Numbered (next : Nat) (buckets : Buckets) : Prop where
  bounded : ∀ entry ∈ buckets.contents, entry.ordinal < next
  distinct : ∀ a ∈ buckets.contents, ∀ b ∈ buckets.contents, a.ordinal = b.ordinal → a = b

theorem Logs.numbered {keyOf : Entry → Option (Option String)} {next : Nat} {buckets : Buckets}
    {log : List Entry} (hlogs : Logs keyOf next buckets log) : Numbered next buckets where
  bounded := fun entry hentry => hlogs.bounded entry (hlogs.hasLog.perm.mem_iff.mpr hentry)
  distinct := fun _ ha _ hb => eq_of_ordinal_eq hlogs.ascending
    (hlogs.hasLog.perm.mem_iff.mpr ha) (hlogs.hasLog.perm.mem_iff.mpr hb)

theorem mem_contents_of_bucketOf? {buckets : Buckets} {v : Value} {entries : List Entry}
    (hentries : buckets.bucketOf? v = some entries) {entry : Entry} (hentry : entry ∈ entries) :
    entry ∈ buckets.contents := by
  obtain ⟨key, _, hlookup⟩ := Option.bind_eq_some_iff.mp hentries
  obtain ⟨front, back, hbuckets, _⟩ := List.lookup_eq_some_iff.mp hlookup
  refine List.mem_flatMap.mpr ⟨(key, entries), ?_, hentry⟩
  rw [hbuckets]
  exact List.mem_append_right front List.mem_cons_self

/-- The buckets of some values are merged into one list in whichever order these are given. -/
theorem Numbered.union_oneOf_eq_of_perm {next : Nat} {buckets : Buckets}
    (hnumbered : Numbered next buckets) {vs ws : List Value} (hperm : vs.Perm ws) : buckets.union (.oneOf vs) = buckets.union (.oneOf ws) := by
  have hselected (values : List Value) :
      (merge (values.filterMap buckets.bucketOf?)) ⊆ buckets.contents := by
    intro entry hentry
    obtain ⟨bucket, hbucket, hmem⟩ := List.mem_flatten.mp ((merge_perm _).mem_iff.mp hentry)
    obtain ⟨v, _, hv⟩ := List.mem_filterMap.mp hbucket
    exact mem_contents_of_bucketOf? hv hmem
  have hmerge : merge (vs.filterMap buckets.bucketOf?) = merge (ws.filterMap buckets.bucketOf?) := by
    refine merge_eq_of_perm_of_sorted (pairwise_merge _) (fun a ha b hb => ?_) ?_
    · exact hnumbered.distinct a (hselected ws ha) b (hselected ws hb)
    · exact ((hperm.filterMap _).flatten).trans (merge_perm _).symm
  rw [union, union, select, select, Except.map, Except.map, hmerge]

end Buckets

namespace Store

/-- Both kinds of buckets are numbered below the ordinal of the next addition. -/
structure Numbered (store : Store) : Prop where
  byMethod : store.byMethod.Numbered store.nextOrdinal
  byReceiver : store.byReceiver.Numbered store.nextOrdinal

/-- Each kind of buckets groups a log of its own. -/
structure Logged (store : Store) : Prop where
  byMethod : ∃ log, Buckets.Logs Entry.methodKey store.nextOrdinal store.byMethod log
  byReceiver : ∃ log, Buckets.Logs Entry.receiverKey store.nextOrdinal store.byReceiver log

namespace Logged

variable {store : Store}

theorem insert (hlogged : store.Logged) (site : Site) : (store.insert site).Logged := by
  obtain ⟨⟨methods, hmethods⟩, receivers, hreceivers⟩ := hlogged
  refine ⟨⟨_, hmethods.add rfl⟩, ?_⟩
  unfold Store.insert
  cases hkey : site.call.receiver.key? with
  | none => exact ⟨_, hreceivers.succ⟩
  | some key => exact ⟨_, hreceivers.add hkey⟩

theorem insertAll (hlogged : store.Logged) (sites : List Site) : (store.insertAll sites).Logged := by
  induction sites generalizing store with
  | nil => exact hlogged
  | cons site rest ih => exact ih (hlogged.insert site)

theorem removeWhere (hlogged : store.Logged) (test : SiteTest) :
    ((removeWhere test).run store).state.Logged := by
  obtain ⟨⟨methods, hmethods⟩, receivers, hreceivers⟩ := hlogged
  obtain ⟨_, _, hrun⟩ | ⟨_, _, _, _, hrun⟩ | ⟨_, hrun⟩ := removeWhere_run_cases test store
  · rw [hrun]
    exact ⟨hmethods.prune test, receivers, hreceivers⟩
  · rw [hrun]
    exact ⟨hmethods.prune test, hreceivers.prune test⟩
  · rw [hrun]
    exact ⟨hmethods.prune test, hreceivers.prune test⟩

end Logged

theorem Reachable.logged {store : Store} (hreachable : store.Reachable) : store.Logged := by
  induction hreachable with
  | empty => exact ⟨⟨[], .nil _ _⟩, [], .nil _ _⟩
  | @step store step _ ih =>
    obtain ⟨sites, _, hstate, _⟩ | ⟨test, hstate, _⟩ | ⟨hstate, _⟩ := step.run_cases store
    · rw [hstate]
      exact ih.insertAll sites
    · rw [hstate]
      exact ih.removeWhere test
    · rwa [hstate]

theorem Reachable.numbered {store : Store} (hreachable : store.Reachable) : store.Numbered := by
  obtain ⟨⟨methods, hmethods⟩, receivers, hreceivers⟩ := hreachable.logged
  exact ⟨hmethods.numbered, hreceivers.numbered⟩

end Store

end CallAudit

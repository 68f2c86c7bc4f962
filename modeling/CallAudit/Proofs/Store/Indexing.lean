import CallAudit.Proofs.Store.Pruning

/-!
# Stores as two indices of one log

The buckets by method and the buckets by receiver group the same log of additions. Adding sites appends
to that log, and a removal that does not fail filters it.
-/

namespace CallAudit

/-- An entry is looked up by its method, which it always has. -/
def Entry.methodKey (entry : Entry) : Option (Option String) := some (some entry.site.call.method)

/-- An entry is looked up by its receiver unless that is an expression. -/
def Entry.receiverKey (entry : Entry) : Option (Option String) := entry.site.call.receiver.key?

namespace Store

/-- Both kinds of buckets group one log, whose ordinals ascend to the next one, and the count is its
    length. -/
structure Indexes (store : Store) (log : List Entry) : Prop where
  ascending : log.Pairwise (·.ordinal < ·.ordinal)
  bounded : ∀ entry ∈ log, entry.ordinal < store.nextOrdinal
  count_eq : store.count = log.length
  byMethod : Buckets.Groups Entry.methodKey store.byMethod log
  byReceiver : Buckets.Groups Entry.receiverKey store.byReceiver log

namespace Indexes

variable {store : Store} {log : List Entry}

theorem empty : Store.empty.Indexes [] where
  ascending := List.Pairwise.nil
  bounded := by simp
  count_eq := rfl
  byMethod := .nil _
  byReceiver := .nil _

theorem insert (hindexes : store.Indexes log) (site : Site) :
    (store.insert site).Indexes (log ++ [⟨store.nextOrdinal, site⟩]) where
  ascending := by
    refine List.pairwise_append.mpr ⟨hindexes.ascending, by simp, ?_⟩
    intro entry hentry last hlast
    rw [List.mem_singleton.mp hlast]
    exact hindexes.bounded entry hentry
  bounded := by
    intro entry hentry
    change entry.ordinal < store.nextOrdinal + 1
    cases List.mem_append.mp hentry with
    | inl hold => exact Nat.lt_succ_of_lt (hindexes.bounded entry hold)
    | inr hnew => simp [List.mem_singleton.mp hnew]
  count_eq := by
    have hcount := hindexes.count_eq
    simp only [Store.insert, List.length_append, List.length_singleton]
    omega
  byMethod := hindexes.byMethod.add rfl
  byReceiver := by
    cases h : site.call.receiver.key? with
    | none =>
      have hkey : Entry.receiverKey ⟨store.nextOrdinal, site⟩ = none := h
      simpa only [Store.insert, h] using hindexes.byReceiver.add_unkeyed hkey
    | some key =>
      have hkey : Entry.receiverKey ⟨store.nextOrdinal, site⟩ = some key := h
      simpa only [Store.insert, h] using hindexes.byReceiver.add hkey

theorem insertAll (hindexes : store.Indexes log) (sites : List Site) :
    ∃ log', (store.insertAll sites).Indexes log' ∧
      log'.map (·.site) = log.map (·.site) ++ sites := by
  induction sites generalizing store log with
  | nil => exact ⟨log, hindexes, by simp⟩
  | cons site rest ih =>
    obtain ⟨log', hlog', hsites⟩ := ih (hindexes.insert site)
    exact ⟨log', hlog', by simp [hsites]⟩

/-- Every entry of the log is in a bucket by method. -/
theorem contents_byMethod_perm (hindexes : store.Indexes log) : store.byMethod.contents.Perm log := by
  have hperm := hindexes.byMethod.contents_perm
  have hall : log.filter (fun entry => entry.methodKey.isSome) = log :=
    List.filter_eq_self.mpr fun _ _ => rfl
  rwa [hall] at hperm

theorem mem_log_of_mem_byReceiver (hindexes : store.Indexes log) {entry : Entry}
    (hentry : entry ∈ store.byReceiver.contents) : entry ∈ log :=
  (hindexes.byReceiver.mem_contents_iff.mp hentry).1

/-- A bucket of either kind is a part of the log in its order, and not empty. -/
theorem bucket_ordered (hindexes : store.Indexes log) {bucket : Option String × List Entry}
    (hbucket : bucket ∈ store.byMethod ++ store.byReceiver) :
    bucket.2 ≠ [] ∧ bucket.2.Pairwise (·.ordinal < ·.ordinal) ∧
      ∀ entry ∈ bucket.2, entry.ordinal < store.nextOrdinal := by
  have hpart : bucket.2 ≠ [] ∧ bucket.2.Sublist log := by
    cases List.mem_append.mp hbucket with
    | inl hmethod =>
      exact ⟨hindexes.byMethod.filled bucket hmethod, hindexes.byMethod.sublist_log hmethod⟩
    | inr hreceiver =>
      exact ⟨hindexes.byReceiver.filled bucket hreceiver, hindexes.byReceiver.sublist_log hreceiver⟩
  obtain ⟨hne, hsublist⟩ := hpart
  exact ⟨hne, hindexes.ascending.sublist hsublist,
    fun entry hentry => hindexes.bounded entry (hsublist.subset hentry)⟩

/-- A removal whose test answers for every live site filters the log and tells how many entries that
    takes out. -/
theorem removeWhere_of_answers (hindexes : store.Indexes log) {test : SiteTest}
    (hanswers : ∀ entry ∈ log, test.answers entry.site = true) :
    ∃ after, (removeWhere test).run store = ⟨after, [], .ok (log.countP (test.holds ·.site))⟩ ∧
      after.Indexes (log.filter (!test.holds ·.site)) := by
  have hperm := hindexes.contents_byMethod_perm
  have hmethod := @Buckets.prune_of_answers test store.byMethod
    fun entry hentry => hanswers entry (hperm.mem_iff.mp hentry)
  have hreceiver := @Buckets.prune_of_answers test store.byReceiver
    fun entry hentry => hanswers entry (hindexes.mem_log_of_mem_byReceiver hentry)
  rw [hperm.countP_eq] at hmethod
  refine ⟨{ store with
    byMethod := store.byMethod.without test
    byReceiver := store.byReceiver.without test
    count := store.count - log.countP (test.holds ·.site) }, ?_, ?_⟩
  · simp [Action.run, removeWhere, hmethod, hreceiver]
  · exact {
      ascending := hindexes.ascending.sublist List.filter_sublist
      bounded := fun entry hentry => hindexes.bounded entry (List.mem_filter.mp hentry).1
      count_eq := by
        have hparts := List.length_eq_length_filter_add (test.holds ·.site) (l := log)
        change store.count - log.countP (test.holds ·.site) = _
        rw [hindexes.count_eq, List.countP_eq_length_filter]
        omega
      byMethod := hindexes.byMethod.without test
      byReceiver := hindexes.byReceiver.without test }

/-- A removal fails if its test does not answer for some live site. -/
theorem removeWhere_of_not_answers (hindexes : store.Indexes log) {test : SiteTest}
    (hfails : ∃ entry ∈ log, test.answers entry.site = false) :
    ∃ failure, ((removeWhere test).run store).outcome = .error failure := by
  obtain ⟨entry, hentry, hfail⟩ := hfails
  have hmem := hindexes.contents_byMethod_perm.mem_iff.mpr hentry
  obtain ⟨failure, herror⟩ := Buckets.prune_snd_of_not_answers ⟨entry, hmem, hfail⟩
  refine ⟨failure, ?_⟩
  rw [Action.run, removeWhere, ← Prod.eta (store.byMethod.prune test), herror]

end Indexes

/-- A store represents the sites of the log that it indexes, in their order. -/
def Represents (store : Store) (live : List Site) : Prop :=
  ∃ log, store.Indexes log ∧ log.map (·.site) = live

namespace Represents

variable {store : Store} {live : List Site}

theorem empty : Store.empty.Represents [] := ⟨[], .empty, rfl⟩

theorem count_eq (hrep : store.Represents live) : store.count = live.length := by
  obtain ⟨log, hindexes, rfl⟩ := hrep
  simpa using hindexes.count_eq

theorem insertAll (hrep : store.Represents live) (sites : List Site) :
    (store.insertAll sites).Represents (live ++ sites) := by
  obtain ⟨log, hindexes, rfl⟩ := hrep
  exact hindexes.insertAll sites

theorem removeWhere_of_answers (hrep : store.Represents live) {test : SiteTest}
    (hanswers : ∀ site ∈ live, test.answers site = true) :
    ∃ after, (removeWhere test).run store = ⟨after, [], .ok (live.countP test.holds)⟩ ∧
      after.Represents (live.filter (!test.holds ·)) := by
  obtain ⟨log, hindexes, rfl⟩ := hrep
  obtain ⟨after, hrun, hafter⟩ := hindexes.removeWhere_of_answers fun entry hentry =>
    hanswers entry.site (List.mem_map_of_mem hentry)
  refine ⟨after, ?_, _, hafter, ?_⟩
  · rw [hrun, List.countP_map]
    rfl
  · rw [List.filter_map]
    rfl

theorem removeWhere_of_not_answers (hrep : store.Represents live) {test : SiteTest} {site : Site}
    (hsite : site ∈ live) (hfails : test.answers site = false) :
    ∃ failure, ((removeWhere test).run store).outcome = .error failure := by
  obtain ⟨log, hindexes, rfl⟩ := hrep
  obtain ⟨entry, hentry, rfl⟩ := List.mem_map.mp hsite
  exact hindexes.removeWhere_of_not_answers ⟨entry, hentry, hfails⟩

/-- A removal completes only if its test answers for every live site. -/
theorem answers_of_removeWhere_ok (hrep : store.Represents live) {test : SiteTest} {removed : Nat}
    (hok : ((removeWhere test).run store).outcome = .ok removed) :
    ∀ site ∈ live, test.answers site = true := by
  intro site hsite
  cases h : test.answers site with
  | true => rfl
  | false =>
    obtain ⟨failure, herror⟩ := hrep.removeWhere_of_not_answers hsite h
    rw [hok] at herror
    cases herror

end Represents

end Store

end CallAudit

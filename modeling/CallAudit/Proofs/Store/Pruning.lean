import CallAudit.Proofs.Store.Groups
import CallAudit.Store.Removal
import Mathlib.Data.List.TakeWhile

/-!
# Pruning buckets

What going through buckets with a test leaves of them: the buckets before the first one that the test
fails in are rid of the entries that it holds of, and the others are as they were.
-/

namespace CallAudit

namespace SiteTest

/-- Whether a test gives an answer for a site. -/
def answers (test : SiteTest) (site : Site) : Bool := (test site).isOk

/-- Whether a test holds of a site. A test that fails on it does not. -/
def holds (test : SiteTest) (site : Site) : Bool :=
  match test site with
  | .ok held => held
  | .error _ => false

theorem eq_ok_of_answers {test : SiteTest} {site : Site} (hanswers : test.answers site = true) :
    test site = .ok (test.holds site) := by
  unfold answers at hanswers
  unfold holds
  cases h : test site with
  | ok held => rfl
  | error failure => simp [h, Except.isOk, Except.toBool] at hanswers

/-- Whether a test gives an answer for every entry of a bucket. -/
def answersIn (test : SiteTest) (bucket : Option String × List Entry) : Bool :=
  bucket.2.all fun entry => test.answers entry.site

end SiteTest

theorem keptEntries_of_answers {test : SiteTest} {entries : List Entry}
    (hanswers : ∀ entry ∈ entries, test.answers entry.site = true) :
    keptEntries test entries = .ok (entries.filter (!test.holds ·.site)) := by
  induction entries with
  | nil => rfl
  | cons entry rest ih =>
    have hentry := SiteTest.eq_ok_of_answers (hanswers entry (by simp))
    rw [keptEntries, hentry, ih fun e he => hanswers e (List.mem_cons_of_mem entry he)]
    cases h : test.holds entry.site <;> simp [Except.map, h]

theorem keptEntries_of_not_answers {test : SiteTest} {entries : List Entry}
    (hfails : ∃ entry ∈ entries, test.answers entry.site = false) :
    ∃ failure, keptEntries test entries = .error failure := by
  induction entries with
  | nil => simp at hfails
  | cons entry rest ih =>
    rw [keptEntries]
    cases h : test entry.site with
    | error failure => exact ⟨failure, rfl⟩
    | ok held =>
      obtain ⟨e, he, hfail⟩ := hfails
      cases he with
      | head => simp [SiteTest.answers, h, Except.isOk, Except.toBool] at hfail
      | tail _ he =>
        obtain ⟨failure, hrest⟩ := ih ⟨e, he, hfail⟩
        exact ⟨failure, by simp [hrest, Except.map]⟩

namespace Buckets

/-- The buckets without the entries that a test holds of, and without those that this leaves empty. -/
def without (test : SiteTest) (buckets : Buckets) : Buckets :=
  (buckets.map fun (key, entries) => (key, entries.filter (!test.holds ·.site))).filter (!·.2.isEmpty)

theorem without_cons (test : SiteTest) (key : Option String) (entries : List Entry)
    (rest : Buckets) :
    without test ((key, entries) :: rest) =
      if (entries.filter (!test.holds ·.site)).isEmpty then without test rest
      else (key, entries.filter (!test.holds ·.site)) :: without test rest := by
  unfold without
  rw [List.map_cons, List.filter_cons]
  cases (entries.filter (!test.holds ·.site)).isEmpty <;> simp

theorem filled_without (test : SiteTest) (buckets : Buckets) : (buckets.without test).Filled := by
  intro bucket hbucket
  have hkept := (List.mem_filter.mp hbucket).2
  simpa using hkept

theorem keys_without_sublist (test : SiteTest) (buckets : Buckets) :
    (buckets.without test).keys.Sublist buckets.keys := by
  induction buckets with
  | nil => exact List.Sublist.refl []
  | cons bucket rest ih =>
    obtain ⟨key, entries⟩ := bucket
    rw [without_cons]
    split
    · exact ih.cons key
    · exact ih.cons_cons key

theorem contents_without (test : SiteTest) (buckets : Buckets) :
    (buckets.without test).contents = buckets.contents.filter (!test.holds ·.site) := by
  induction buckets with
  | nil => rfl
  | cons bucket rest ih =>
    obtain ⟨key, entries⟩ := bucket
    rw [without_cons, contents_cons, List.filter_append, ← ih]
    split
    · next hempty => rw [List.isEmpty_iff.mp hempty, List.nil_append]
    · rw [contents_cons]

theorem entries_without {test : SiteTest} {buckets : Buckets} (hnodup : buckets.keys.Nodup)
    (key : Option String) :
    (buckets.without test).entries key = (buckets.entries key).filter (!test.holds ·.site) := by
  induction buckets with
  | nil => rfl
  | cons bucket rest ih =>
    obtain ⟨k, entries⟩ := bucket
    obtain ⟨hk, hrest⟩ := List.nodup_cons.mp hnodup
    rw [without_cons, entries_cons]
    by_cases hkey : key = k
    · subst hkey
      rw [if_pos rfl]
      split
      · -- An emptied bucket is gone, and no later one has its key.
        next hempty =>
        rw [ih hrest, entries_eq_nil_of_notMem_keys hk, List.isEmpty_iff.mp hempty, List.filter_nil]
      · rw [entries_cons, if_pos rfl]
    · rw [if_neg hkey, ← ih hrest]
      split
      · rfl
      · rw [entries_cons, if_neg hkey]

theorem without_eq_self {test : SiteTest} {buckets : Buckets} (hfilled : buckets.Filled)
    (hnone : ∀ entry ∈ buckets.contents, test.holds entry.site = false) :
    buckets.without test = buckets := by
  induction buckets with
  | nil => rfl
  | cons bucket rest ih =>
    obtain ⟨key, entries⟩ := bucket
    have hentries : entries.filter (!test.holds ·.site) = entries := by
      rw [List.filter_eq_self]
      intro entry hentry
      simp [hnone entry (List.mem_append_left _ hentry)]
    have hne : entries ≠ [] := hfilled (key, entries) (by simp)
    rw [without_cons, hentries, if_neg (by simpa using hne),
      ih (fun b hb => hfilled b (List.mem_cons_of_mem _ hb))
        (fun entry hentry => hnone entry (List.mem_append_right _ hentry))]

/-- A removal is through with the buckets before the first in which its test fails. -/
theorem prune_fst (test : SiteTest) (buckets : Buckets) :
    (buckets.prune test).1 =
      without test (buckets.takeWhile test.answersIn) ++ buckets.dropWhile test.answersIn := by
  induction buckets with
  | nil => rfl
  | cons bucket rest ih =>
    obtain ⟨key, entries⟩ := bucket
    rw [prune, List.takeWhile_cons, List.dropWhile_cons]
    cases h : test.answersIn (key, entries) with
    | false =>
      obtain ⟨failure, hfail⟩ := keptEntries_of_not_answers (by simpa [SiteTest.answersIn] using h)
      simp [hfail, without]
    | true =>
      rw [keptEntries_of_answers (by simpa [SiteTest.answersIn] using h)]
      simp only [↓reduceIte, without_cons, ih]
      split <;> rfl

theorem prune_snd_of_answers {test : SiteTest} {buckets : Buckets}
    (hanswers : ∀ entry ∈ buckets.contents, test.answers entry.site = true) :
    (buckets.prune test).2 = .ok (buckets.contents.countP (test.holds ·.site)) := by
  induction buckets with
  | nil => rfl
  | cons bucket rest ih =>
    obtain ⟨key, entries⟩ := bucket
    have hentries := keptEntries_of_answers fun e he => hanswers e (List.mem_append_left _ he)
    have hrest := ih fun e he => hanswers e (List.mem_append_right _ he)
    have hlength : entries.length - (entries.filter (!test.holds ·.site)).length =
        entries.countP (test.holds ·.site) := by
      have hparts := List.length_eq_length_filter_add (test.holds ·.site) (l := entries)
      rw [List.countP_eq_length_filter]
      omega
    rw [prune, hentries]
    simp only [hrest, Except.map, hlength, contents_cons, List.countP_append, Nat.add_comm]

theorem prune_snd_of_not_answers {test : SiteTest} {buckets : Buckets}
    (hfails : ∃ entry ∈ buckets.contents, test.answers entry.site = false) :
    ∃ failure, (buckets.prune test).2 = .error failure := by
  induction buckets with
  | nil => simp [contents] at hfails
  | cons bucket rest ih =>
    obtain ⟨key, entries⟩ := bucket
    rw [prune]
    cases h : keptEntries test entries with
    | error failure => exact ⟨failure, rfl⟩
    | ok kept =>
      obtain ⟨entry, hentry, hfail⟩ := hfails
      cases List.mem_append.mp hentry with
      | inl hhere =>
        obtain ⟨failure, herror⟩ := keptEntries_of_not_answers ⟨entry, hhere, hfail⟩
        rw [herror] at h
        cases h
      | inr hrest =>
        obtain ⟨failure, herror⟩ := ih ⟨entry, hrest, hfail⟩
        exact ⟨failure, by simp [herror, Except.map]⟩

theorem prune_of_answers {test : SiteTest} {buckets : Buckets}
    (hanswers : ∀ entry ∈ buckets.contents, test.answers entry.site = true) :
    buckets.prune test =
      (buckets.without test, .ok (buckets.contents.countP (test.holds ·.site))) := by
  have hall : ∀ bucket ∈ buckets, test.answersIn bucket = true := by
    intro bucket hbucket
    refine List.all_eq_true.mpr fun entry hentry => hanswers entry ?_
    exact List.mem_flatMap.mpr ⟨bucket, hbucket, hentry⟩
  refine Prod.ext ?_ (prune_snd_of_answers hanswers)
  rw [prune_fst, List.takeWhile_eq_self_iff.mpr hall, List.dropWhile_eq_nil_iff.mpr hall,
    List.append_nil]

theorem Groups.without {keyOf : Entry → Option (Option String)} {buckets : Buckets}
    {log : List Entry} (hgroups : Groups keyOf buckets log) (test : SiteTest) :
    Groups keyOf (buckets.without test) (log.filter (!test.holds ·.site)) where
  nodup := (keys_without_sublist test buckets).nodup hgroups.nodup
  filled := filled_without test buckets
  entries_eq := by
    intro key
    rw [entries_without hgroups.nodup, hgroups.entries_eq, List.filter_filter, List.filter_filter]
    apply List.filter_congr
    intro entry _
    rw [Bool.and_comm]

/-- Going through some of the buckets with a test takes out the entries with their keys that the test
    holds of. -/
theorem Groups.without_append {keyOf : Entry → Option (Option String)} {front back : Buckets}
    {log : List Entry} (hgroups : Groups keyOf (front ++ back) log) (test : SiteTest) :
    Groups keyOf (front.without test ++ back) (log.filter fun entry =>
      !(test.holds entry.site && (keyOf entry).any front.keys.contains)) := by
  have hkeys := hgroups.nodup
  rw [keys_append] at hkeys
  obtain ⟨hfront, _, hdisjoint⟩ := List.nodup_append.mp hkeys
  have hnodup : (keys (front.without test ++ back)).Nodup := by
    rw [keys_append]
    exact ((keys_without_sublist test front).append_right back.keys).nodup hkeys
  refine ⟨hnodup, fun bucket hbucket => ?_, fun key => ?_⟩
  · cases List.mem_append.mp hbucket with
    | inl hdone => exact filled_without test front bucket hdone
    | inr hback => exact hgroups.filled bucket (List.mem_append_right front hback)
  · have hkept : (log.filter fun entry => !(test.holds entry.site &&
        (keyOf entry).any front.keys.contains)).filter (keyOf · = some key) =
        (log.filter (keyOf · = some key)).filter fun entry =>
          !(test.holds entry.site && front.keys.contains key) := by
      rw [List.filter_filter, List.filter_filter]
      refine List.filter_congr fun entry _ => ?_
      by_cases h : keyOf entry = some key <;> simp [h]
    rw [hkept, ← hgroups.entries_eq, entries_append hnodup, entries_append hgroups.nodup,
      entries_without hfront]
    -- The entries of one key stand in one of the two parts.
    by_cases hkey : key ∈ front.keys
    · have hback : key ∉ back.keys := fun h => hdisjoint key hkey key h rfl
      simp [entries_eq_nil_of_notMem_keys hback, hkey]
    · simp [entries_eq_nil_of_notMem_keys hkey, hkey]

/-- A removal takes the entries that its test holds of out of the buckets that it is through with. -/
theorem Groups.prune {keyOf : Entry → Option (Option String)} {buckets : Buckets} {log : List Entry}
    (hgroups : Groups keyOf buckets log) (test : SiteTest) :
    Groups keyOf (buckets.prune test).1 (log.filter fun entry => !(test.holds entry.site &&
      (keyOf entry).any (keys (buckets.takeWhile test.answersIn)).contains)) := by
  rw [prune_fst]
  refine without_append ?_ test
  rwa [List.takeWhile_append_dropWhile]

end Buckets

end CallAudit

import CallAudit.Proofs.Store.History

/-!
# Removals that fail

A removal whose test fails stops between two buckets. Those that it is through with are rid of their
sites, and neither the other buckets nor the count know of it. So it leaves the store as it was only if
it had nothing to remove until then.
-/

namespace CallAudit

namespace Buckets

theorem without_eq_self_iff {test : SiteTest} {buckets : Buckets} (hfilled : buckets.Filled) :
    buckets.without test = buckets ↔ ∀ entry ∈ buckets.contents, test.holds entry.site = false := by
  refine ⟨fun heq => ?_, without_eq_self hfilled⟩
  have hcontents := contents_without test buckets
  rw [heq, eq_comm, List.filter_eq_self] at hcontents
  simpa using hcontents

theorem Filled.of_sublist {buckets part : Buckets} (hfilled : buckets.Filled)
    (hpart : part.Sublist buckets) : part.Filled :=
  fun bucket hbucket => hfilled bucket (hpart.subset hbucket)

theorem filled_prune_fst (test : SiteTest) {buckets : Buckets} (hfilled : buckets.Filled) :
    (buckets.prune test).1.Filled := by
  rw [prune_fst]
  intro bucket hbucket
  cases List.mem_append.mp hbucket with
  | inl hdone => exact filled_without test _ bucket hdone
  | inr hrest => exact hfilled.of_sublist (List.dropWhile_sublist _) bucket hrest

/-- A removal leaves buckets as they were exactly if it takes nothing out of those that it is through
    with. -/
theorem prune_fst_eq_self_iff (test : SiteTest) {buckets : Buckets} (hfilled : buckets.Filled) :
    (buckets.prune test).1 = buckets ↔
      ∀ entry ∈ contents (buckets.takeWhile test.answersIn), test.holds entry.site = false := by
  rw [prune_fst, ← without_eq_self_iff (hfilled.of_sublist (List.takeWhile_sublist _))]
  conv_lhs => rhs; rw [← List.takeWhile_append_dropWhile (p := test.answersIn) (l := buckets)]
  exact List.append_left_inj _

theorem answersIn_of_prune_ok {test : SiteTest} {buckets : Buckets} {removed : Nat}
    (hok : (buckets.prune test).2 = .ok removed) :
    ∀ bucket ∈ buckets, test.answersIn bucket = true := by
  intro bucket hbucket
  refine List.all_eq_true.mpr fun entry hentry => ?_
  cases h : test.answers entry.site with
  | true => rfl
  | false =>
    obtain ⟨failure, herror⟩ :=
      prune_snd_of_not_answers ⟨entry, List.mem_flatMap.mpr ⟨bucket, hbucket, hentry⟩, h⟩
    rw [hok] at herror
    cases herror

theorem exists_not_answersIn_of_prune_error {test : SiteTest} {buckets : Buckets} {failure : Failure}
    (herror : (buckets.prune test).2 = .error failure) :
    ∃ bucket ∈ buckets, test.answersIn bucket = false := by
  by_contra hnot
  have hanswers : ∀ entry ∈ buckets.contents, test.answers entry.site = true := by
    intro entry hentry
    obtain ⟨bucket, hbucket, hmem⟩ := List.mem_flatMap.mp hentry
    have hbucketAnswers : test.answersIn bucket = true := by
      by_contra h
      exact hnot ⟨bucket, hbucket, Bool.eq_false_iff.mpr h⟩
    exact List.all_eq_true.mp hbucketAnswers entry hmem
  rw [prune_snd_of_answers hanswers] at herror
  cases herror

end Buckets

namespace Store

/-- The buckets that a removal is through with before it fails: those before the first one that its test
    fails in, buckets by method coming before buckets by receiver. -/
def bucketsBeforeFailure (test : SiteTest) (store : Store) : Buckets :=
  (store.byMethod ++ store.byReceiver).takeWhile test.answersIn

/-- A removal fails in the buckets by method, or it goes through these and fails in the buckets by
    receiver, or it completes. -/
theorem removeWhere_run_cases (test : SiteTest) (store : Store) :
    (∃ failure, (store.byMethod.prune test).2 = .error failure ∧
      (removeWhere test).run store =
        ⟨{ store with byMethod := (store.byMethod.prune test).1 }, [], .error failure⟩) ∨
    (∃ removed failure, (store.byMethod.prune test).2 = .ok removed ∧
      (store.byReceiver.prune test).2 = .error failure ∧
      (removeWhere test).run store =
        ⟨{ store with
            byMethod := (store.byMethod.prune test).1
            byReceiver := (store.byReceiver.prune test).1 }, [], .error failure⟩) ∨
    (∃ removed, (removeWhere test).run store =
      ⟨{ store with
          byMethod := (store.byMethod.prune test).1
          byReceiver := (store.byReceiver.prune test).1
          count := store.count - removed }, [], .ok removed⟩) := by
  unfold Action.run removeWhere
  obtain ⟨byMethod, outcome⟩ := store.byMethod.prune test
  obtain ⟨byReceiver, outcome'⟩ := store.byReceiver.prune test
  cases outcome with
  | error failure => exact .inl ⟨failure, rfl, rfl⟩
  | ok removed =>
    cases outcome' with
    | error failure => exact .inr (.inl ⟨removed, failure, rfl, rfl, rfl⟩)
    | ok _ => exact .inr (.inr ⟨removed, rfl⟩)

theorem bucketsBeforeFailure_of_error {test : SiteTest} {store : Store} {failure : Failure}
    (herror : (store.byMethod.prune test).2 = .error failure) :
    store.bucketsBeforeFailure test = store.byMethod.takeWhile test.answersIn := by
  obtain ⟨bucket, hbucket, hfails⟩ := Buckets.exists_not_answersIn_of_prune_error herror
  rw [bucketsBeforeFailure, List.takeWhile_append, if_neg]
  intro hlength
  have hall := (List.takeWhile_sublist test.answersIn).eq_of_length hlength
  rw [List.takeWhile_eq_self_iff] at hall
  rw [hall bucket hbucket] at hfails
  cases hfails

theorem bucketsBeforeFailure_of_ok {test : SiteTest} {store : Store} {removed : Nat}
    (hok : (store.byMethod.prune test).2 = .ok removed) :
    store.bucketsBeforeFailure test =
      store.byMethod ++ store.byReceiver.takeWhile test.answersIn :=
  List.takeWhile_append_of_pos (Buckets.answersIn_of_prune_ok hok)

/-- A failed removal leaves a store as it was exactly if it takes nothing out of the buckets that it is
    through with. It never changes the count. -/
theorem removeWhere_error_state_eq_iff {test : SiteTest} {store : Store} {failure : Failure}
    (hmethods : store.byMethod.Filled) (hreceivers : store.byReceiver.Filled)
    (herror : ((removeWhere test).run store).outcome = .error failure) :
    (((removeWhere test).run store).state = store ↔
      ∀ entry ∈ (store.bucketsBeforeFailure test).contents, test.holds entry.site = false) ∧
    ((removeWhere test).run store).state.count = store.count := by
  obtain ⟨_, hmethod, hrun⟩ | ⟨removed, _, hmethod, hreceiver, hrun⟩ | ⟨_, hrun⟩ :=
    removeWhere_run_cases test store
  · rw [hrun, bucketsBeforeFailure_of_error hmethod, ← Buckets.prune_fst_eq_self_iff test hmethods]
    exact ⟨⟨congrArg byMethod, fun h => by rw [h]⟩, rfl⟩
  · have hall := Buckets.answersIn_of_prune_ok hmethod
    rw [hrun, bucketsBeforeFailure_of_ok hmethod]
    refine ⟨?_, rfl⟩
    have hm := Buckets.prune_fst_eq_self_iff test hmethods
    have hr := Buckets.prune_fst_eq_self_iff test hreceivers
    rw [List.takeWhile_eq_self_iff.mpr hall] at hm
    simp only [Buckets.contents_append, List.mem_append, or_imp, forall_and, ← hm, ← hr]
    constructor
    · intro h
      exact ⟨congrArg byMethod h, congrArg byReceiver h⟩
    · rintro ⟨h, h'⟩
      rw [h, h']
  · rw [hrun] at herror
    cases herror

/-- A store that steps lead to from the empty one, whether they complete or fail. -/
inductive Reachable : Store → Prop
  | empty : Reachable .empty
  | step {store : Store} (step : Step) (before : Reachable store) :
      Reachable (step.action.run store).state

theorem filled_insertAll {store : Store} (hfilled : store.byMethod.Filled ∧ store.byReceiver.Filled)
    (sites : List Site) :
    (store.insertAll sites).byMethod.Filled ∧ (store.insertAll sites).byReceiver.Filled := by
  induction sites generalizing store with
  | nil => exact hfilled
  | cons site rest ih =>
    obtain ⟨hmethods, hreceivers⟩ := hfilled
    have hinserted : (store.insert site).byReceiver.Filled := by
      unfold insert
      cases site.call.receiver.key? with
      | none => exact hreceivers
      | some key => exact hreceivers.add _ _
    exact ih ⟨hmethods.add _ _, hinserted⟩

theorem filled_removeWhere {store : Store}
    (hfilled : store.byMethod.Filled ∧ store.byReceiver.Filled) (test : SiteTest) :
    ((removeWhere test).run store).state.byMethod.Filled ∧
      ((removeWhere test).run store).state.byReceiver.Filled := by
  obtain ⟨hmethods, hreceivers⟩ := hfilled
  have hpruned := Buckets.filled_prune_fst test hmethods
  obtain ⟨_, _, hrun⟩ | ⟨_, _, _, _, hrun⟩ | ⟨_, hrun⟩ := removeWhere_run_cases test store
  · rw [hrun]
    exact ⟨hpruned, hreceivers⟩
  · rw [hrun]
    exact ⟨hpruned, Buckets.filled_prune_fst test hreceivers⟩
  · rw [hrun]
    exact ⟨hpruned, Buckets.filled_prune_fst test hreceivers⟩

theorem Reachable.filled {store : Store} (hreachable : store.Reachable) :
    store.byMethod.Filled ∧ store.byReceiver.Filled := by
  induction hreachable with
  | empty => simp [Store.empty, Buckets.Filled]
  | @step store step _ ih =>
    obtain ⟨sites, _, hstate, _⟩ | ⟨test, hstate, _⟩ | ⟨hstate, _⟩ := step.run_cases store
    · rw [hstate]
      exact filled_insertAll ih sites
    · rw [hstate]
      exact filled_removeWhere ih test
    · rwa [hstate]

theorem Represents.length_contents {store : Store} {live : List Site} (hrep : store.Represents live) :
    store.byMethod.contents.length = store.count := by
  obtain ⟨log, hindexes, rfl⟩ := hrep
  rw [hindexes.contents_byMethod_perm.length_eq, hindexes.count_eq]

/-- All live sites are in buckets by method, so a removal from them fails there if at all, and the
    buckets by receiver stay as they were. -/
theorem Represents.run_removeWhere_error {test : SiteTest} {store : Store} {live : List Site}
    {failure : Failure} (hrep : store.Represents live)
    (herror : ((removeWhere test).run store).outcome = .error failure) :
    (store.byMethod.prune test).2 = .error failure ∧
      (removeWhere test).run store =
        ⟨{ store with byMethod := (store.byMethod.prune test).1 }, [], .error failure⟩ := by
  obtain ⟨_, hmethod, hrun⟩ | ⟨removed, _, hmethod, hreceiver, hrun⟩ | ⟨_, hrun⟩ :=
    removeWhere_run_cases test store
  · rw [hrun] at herror
    cases herror
    exact ⟨hmethod, hrun⟩
  · have hanswers : ∀ site ∈ live, test.answers site = true := by
      obtain ⟨log, hindexes, rfl⟩ := hrep
      intro site hsite
      obtain ⟨entry, hentry, rfl⟩ := List.mem_map.mp hsite
      have hmem := hindexes.contents_byMethod_perm.mem_iff.mpr hentry
      obtain ⟨bucket, hbucket, hinside⟩ := List.mem_flatMap.mp hmem
      exact List.all_eq_true.mp (Buckets.answersIn_of_prune_ok hmethod bucket hbucket) entry hinside
    obtain ⟨_, hcompletes, _⟩ := hrep.removeWhere_of_answers hanswers
    rw [hcompletes] at herror
    cases herror
  · rw [hrun] at herror
    cases herror

/-- A failed removal leaves a store that represents some sites only if it has taken nothing out: else the
    buckets by method hold fewer entries than are counted. -/
theorem Represents.holds_eq_false_of_removeWhere_error {test : SiteTest} {store : Store}
    {live after : List Site} {failure : Failure} (hrep : store.Represents live)
    (herror : ((removeWhere test).run store).outcome = .error failure)
    (hafter : ((removeWhere test).run store).state.Represents after) :
    ∀ entry ∈ (store.bucketsBeforeFailure test).contents, test.holds entry.site = false := by
  obtain ⟨hmethod, hrun⟩ := hrep.run_removeWhere_error herror
  have hbefore := hrep.length_contents
  have hlength := hafter.length_contents
  rw [hrun] at hlength
  dsimp only at hlength
  rw [bucketsBeforeFailure_of_error hmethod]
  rw [← hbefore, Buckets.prune_fst, Buckets.contents_append, Buckets.contents_without] at hlength
  conv_rhs at hlength =>
    rw [← List.takeWhile_append_dropWhile (p := test.answersIn) (l := store.byMethod),
      Buckets.contents_append]
  rw [List.length_append, List.length_append, Nat.add_right_cancel_iff,
    List.length_filter_eq_length_iff] at hlength
  intro entry hentry
  simpa using hlength entry hentry

/-- A removal that fails leaves a reachable store as it was exactly if its test holds of no site in the
    buckets before the first one that it fails in. The same decides whether both kinds of buckets and the
    count still describe one list of live sites, if they did before. The count never changes. -/
theorem Reachable.removeWhere_error_iff {store : Store} (hreachable : store.Reachable)
    {test : SiteTest} {failure : Failure}
    (herror : ((removeWhere test).run store).outcome = .error failure) :
    let after := ((removeWhere test).run store).state
    let nothingRemoved := ∀ entry ∈ (store.bucketsBeforeFailure test).contents,
      test.holds entry.site = false
    (after = store ↔ nothingRemoved) ∧
      ((∃ live, store.Represents live) → ((∃ live, after.Represents live) ↔ nothingRemoved)) ∧
      after.count = store.count := by
  intro after nothingRemoved
  obtain ⟨hmethods, hreceivers⟩ := hreachable.filled
  obtain ⟨hstate, hcount⟩ := removeWhere_error_state_eq_iff hmethods hreceivers herror
  refine ⟨hstate, ?_, hcount⟩
  rintro ⟨live, hrep⟩
  constructor
  · rintro ⟨_, hafter⟩
    exact hrep.holds_eq_false_of_removeWhere_error herror hafter
  · intro hnothing
    have hsame : after = store := hstate.mpr hnothing
    exact ⟨live, hsame ▸ hrep⟩

/-- Removing the calls whose arguments are in a set fails on arguments that hold a list, and has by then
    removed a call of another method. -/
theorem removeWhere_error_removes_before_list :
    let plain : Site := ⟨0, { Call.ofChain "find" [] with args := [.text "id"] }⟩
    let listed : Site := ⟨1, { Call.ofChain "where" [] with args := [.list []] }⟩
    let store := ((Step.add [plain, listed]).action.run .empty).state
    let test : SiteTest := fun site =>
      (Criterion.oneOf [.tuple [.text "id"]]).test (.tuple (site.call.args.map .ofDatum))
    ((removeWhere test).run store).outcome = .error .notStable ∧
      ((removeWhere test).run store).state ≠ store := by
  intro plain listed store test
  have hreachable : store.Reachable := .step (.add _) .empty
  have herror : ((removeWhere test).run store).outcome = .error .notStable := rfl
  refine ⟨herror, fun hsame => ?_⟩
  have hnothing := (hreachable.removeWhere_error_iff herror).1.mp hsame
  have hbefore : (store.bucketsBeforeFailure test).contents = [⟨0, plain⟩] := rfl
  rw [hbefore] at hnothing
  cases hnothing ⟨0, plain⟩ (by simp)

end Store

end CallAudit

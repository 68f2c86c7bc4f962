import CallAudit.Proofs.Store.Lookup

/-!
# Histories of a store

A store is reached by adding batches of sites and by removals. Beside it stands the plain list of live
sites, to which additions are appended and which removals filter. While every step completes, the store
answers as the list does.
-/

namespace CallAudit.Store

/-- What can be done to the live sites. -/
inductive Step where
  | add (sites : List Site)
  | removeFromTemplates (name : Datum)
  | removeFromClasses (classes : Datum)
  | removeWhere (test : SiteTest)

namespace Step

/-- The action on a store, with the number of sites that it removes. -/
def action : Step → Action Store Nat
  | .add sites => do
    Store.add sites
    return 0
  | .removeFromTemplates name => Store.removeFromTemplates name
  | .removeFromClasses classes => Store.removeFromClasses classes
  | .removeWhere test => Store.removeWhere test

/-- Whether a step takes a site out of a list. -/
def drops : Step → Site → Bool
  | .add _, _ => false
  | .removeFromTemplates name, site => isFromTemplate name site.call
  | .removeFromClasses classes, site =>
    match classNames classes with
    | .ok names => isFromClass names site.call
    | .error _ => false
  | .removeWhere test, site => test.holds site

/-- The sites that a step puts at the end of a list. -/
def additions : Step → List Site
  | .add sites => sites
  | _ => []

/-- The live sites after a step. -/
def onList (step : Step) (live : List Site) : List Site :=
  live.filter (!step.drops ·) ++ step.additions

/-- A step adds a batch, or it leaves what a removal with some test leaves, or it fails before it
    changes anything. A removal that completes drops the sites that its test holds of. -/
theorem run_cases (step : Step) (store : Store) :
    (∃ sites, step = .add sites ∧ (step.action.run store).state = store.insertAll sites ∧
      (step.action.run store).outcome = .ok 0) ∨
    (∃ test, (step.action.run store).state = ((Store.removeWhere test).run store).state ∧
      ∀ removed, (step.action.run store).outcome = .ok removed →
        ((Store.removeWhere test).run store).outcome = .ok removed ∧ step.additions = [] ∧
          step.drops = test.holds) ∨
    ((step.action.run store).state = store ∧
      ∃ failure, (step.action.run store).outcome = .error failure) := by
  cases step with
  | add sites => exact .inl ⟨sites, rfl, rfl, rfl⟩
  | removeWhere test => exact .inr (.inl ⟨test, rfl, fun removed h => ⟨h, rfl, rfl⟩⟩)
  | removeFromTemplates name =>
    refine .inr (.inl ⟨fun site => .ok (isFromTemplate name site.call), ?_⟩)
    simp only [action, Store.removeFromTemplates]
    cases h : ((Store.removeWhere fun site => .ok (isFromTemplate name site.call)).run store).outcome with
    | error failure =>
      rw [Action.run_bind_of_error h]
      exact ⟨rfl, fun removed hok => by cases hok⟩
    | ok n =>
      rw [Action.run_bind_of_ok h]
      refine ⟨rfl, fun removed hok => ?_⟩
      cases hok
      exact ⟨rfl, rfl, rfl⟩
  | removeFromClasses classes =>
    simp only [action, Store.removeFromClasses]
    cases hnames : classNames classes with
    | error failure => exact .inr (.inr ⟨rfl, failure, rfl⟩)
    | ok names =>
      rw [Action.run_ofExcept_ok_bind]
      refine .inr (.inl ⟨fun site => .ok (isFromClass names site.call), ?_⟩)
      have hdrops : (Step.removeFromClasses classes).drops =
          SiteTest.holds fun site => .ok (isFromClass names site.call) := by
        funext site
        simp [drops, hnames, SiteTest.holds]
      cases h : ((Store.removeWhere fun site => .ok (isFromClass names site.call)).run store).outcome with
      | error failure =>
        rw [Action.run_bind_of_error h]
        exact ⟨rfl, fun removed hok => by cases hok⟩
      | ok n =>
        rw [Action.run_bind_of_ok h]
        cases Datum.sort? names with
        | none => exact ⟨rfl, fun removed hok => by cases hok⟩
        | some sorted =>
          refine ⟨rfl, fun removed hok => ?_⟩
          cases hok
          exact ⟨rfl, rfl, hdrops⟩

/-- A step that completes does to the store what it does to the list, and tells how many sites it
    dropped. -/
theorem represents_of_ok (step : Step) {store : Store} {live : List Site} {removed : Nat}
    (hrep : store.Represents live) (hok : (step.action.run store).outcome = .ok removed) :
    (step.action.run store).state.Represents (step.onList live) ∧ removed = live.countP step.drops := by
  obtain ⟨sites, rfl, hstate, houtcome⟩ | ⟨test, hstate, hremoval⟩ | ⟨_, failure, herror⟩ :=
    step.run_cases store
  · have hlist : (Step.add sites).onList live = live ++ sites := by
      simp [onList, drops, additions]
    rw [hstate, hlist]
    refine ⟨hrep.insertAll sites, ?_⟩
    rw [houtcome] at hok
    cases hok
    exact (List.countP_eq_zero.mpr (by simp [drops])).symm
  · obtain ⟨hcompletes, hadditions, hdrops⟩ := hremoval removed hok
    obtain ⟨after, hrun, hafter⟩ :=
      hrep.removeWhere_of_answers (hrep.answers_of_removeWhere_ok hcompletes)
    rw [hrun] at hcompletes hstate
    cases hcompletes
    rw [hstate, onList, hadditions, List.append_nil, hdrops]
    exact ⟨hafter, rfl⟩
  · rw [hok] at herror
    cases herror

end Step

/-- A store that steps lead to from the empty one, none of them failing, and the plain list that the same
    steps lead to from the empty one. -/
inductive Tracks : Store → List Site → Prop
  | empty : Tracks .empty []
  | step {store : Store} {live : List Site} {removed : Nat} (step : Step) (before : Tracks store live)
      (completes : (step.action.run store).outcome = .ok removed) :
      Tracks (step.action.run store).state (step.onList live)

theorem Tracks.represents {store : Store} {live : List Site} (htracks : store.Tracks live) :
    store.Represents live := by
  induction htracks with
  | empty => exact .empty
  | step step _ completes ih => exact (step.represents_of_ok ih completes).1

/-- After any history, looking up a key is filtering the live sites by it, no bucket is empty or out of
    order, the count is the number of live sites, and a removal tells how many of them it drops. -/
theorem Tracks.simulates_list {store : Store} {live : List Site} (htracks : store.Tracks live) :
    (∀ key, store.byMethod.sitesAt key =
      if key.isStable then .ok (live.filter fun site => key.same (.text site.call.method))
      else .error .notStable) ∧
    (∀ key, store.byReceiver.sitesAt key =
      if key.isStable then
        .ok (live.filter fun site =>
          !site.call.receiver.isExpression && key.same site.call.receiver.value)
      else .error .notStable) ∧
    (∀ bucket ∈ store.byMethod ++ store.byReceiver,
      bucket.2 ≠ [] ∧ bucket.2.Pairwise (·.ordinal < ·.ordinal) ∧
        ∀ entry ∈ bucket.2, entry.ordinal < store.nextOrdinal) ∧
    store.count = live.length ∧
    ∀ (step : Step) (removed : Nat), (step.action.run store).outcome = .ok removed →
      removed + (live.filter (!step.drops ·)).length = live.length := by
  have hrep := htracks.represents
  refine ⟨hrep.sitesAt_byMethod, hrep.sitesAt_byReceiver, ?_, hrep.count_eq, ?_⟩
  · intro bucket hbucket
    obtain ⟨log, hindexes, _⟩ := hrep
    exact hindexes.bucket_ordered hbucket
  · intro step removed hok
    rw [(step.represents_of_ok hrep hok).2, List.countP_eq_length_filter]
    exact (List.length_eq_length_filter_add step.drops).symm

/-- Two additions of one site and one of a call on an expression, of which a removal leaves the former. -/
theorem simulates_list_after_removal :
    let find : Site := ⟨0, { Call.ofChain "find" [] with receiver := .named "User" }⟩
    let first : Site := ⟨1, { Call.ofChain "first" [] with receiver := .expression ⟨"call", "x"⟩ }⟩
    let added := ((Step.add [find, first, find]).action.run .empty).state
    let store := ((Step.removeWhere fun site => .ok (site.id == 1)).action.run added).state
    store.count = 2 ∧ store.byReceiver.sitesAt (.text "User") = .ok [find, find] := by
  intro find first added store
  have hadded : added.Tracks [find, first, find] := .step (.add _) .empty rfl
  have htracks : store.Tracks [find, find] := .step (.removeWhere _) hadded rfl
  obtain ⟨_, hreceiver, _, hcount, _⟩ := htracks.simulates_list
  exact ⟨hcount, hreceiver (.text "User")⟩

end CallAudit.Store

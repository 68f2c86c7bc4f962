import CallAudit.Proofs.Query.Plan
import CallAudit.Proofs.Store.Repetition
import CallAudit.Proofs.Value.Ordering
import Mathlib.Data.Set.List

/-!
# Scanning again after a removal

Sites that are out of date are removed, and the sites of a new scan are added. A query that can be
answered then finds what it found before, less the removed sites, and after that what it finds among the
new sites alone. For it goes through the live sites, and what it takes of each depends on that site only.
-/

namespace CallAudit

namespace Store

variable {store : Store} {live : List Site}

/-- The live sites, each so many times as it is to be taken. -/
def taken (copies : Site → Nat) (live : List Site) : List Site :=
  live.flatMap fun site => List.replicate (copies site) site

theorem filter_taken (copies : Site → Nat) (p : Site → Bool) (live : List Site) :
    (taken copies live).filter p = taken (fun site => if p site then copies site else 0) live := by
  have hfilter (site : Site) : (List.replicate (copies site) site).filter p =
      List.replicate (if p site then copies site else 0) site := by
    rw [List.filter_replicate]
    split <;> rfl
  simp only [taken, List.filter_flatMap, hfilter]

theorem taken_filter (copies : Site → Nat) (p : Site → Bool) (live : List Site) :
    taken copies (live.filter p) = (taken copies live).filter p := by
  rw [filter_taken]
  induction live with
  | nil => rfl
  | cons site rest ih =>
    unfold taken at ih ⊢
    rw [List.flatMap_cons, ← ih, List.filter_cons]
    cases hkept : p site <;> simp [hkept]

/-- An answer that fails whatever is live, or takes each live site so many times as the site decides. -/
def IsScan (answer : Store → Except Failure (List Site)) : Prop :=
  ∃ outcome : Except Failure (Site → Nat), ∀ (store : Store) (live : List Site),
    store.Represents live → answer store = outcome.map (taken · live)

namespace IsScan

theorem of_error {answer : Store → Except Failure (List Site)} {failure : Failure}
    (hfails : ∀ store, answer store = .error failure) : IsScan answer :=
  ⟨.error failure, fun store _ _ => hfails store⟩

theorem of_nothing {answer : Store → Except Failure (List Site)}
    (hnothing : ∀ store, answer store = .ok []) : IsScan answer := by
  refine ⟨.ok fun _ => 0, fun store live _ => ?_⟩
  simp [hnothing, Except.map, taken]

/-- Filtering what was found takes each site as often as before or not at all. -/
theorem filter {answer : Store → Except Failure (List Site)} (hscan : IsScan answer)
    (p : Site → Bool) : IsScan fun store => (answer store).map (List.filter p) := by
  obtain ⟨outcome, hscan⟩ := hscan
  refine ⟨outcome.map fun copies site => if p site then copies site else 0,
    fun store live hrep => ?_⟩
  dsimp only
  rw [hscan store live hrep]
  cases outcome with
  | error failure => rfl
  | ok copies => exact congrArg Except.ok (filter_taken copies p live)

theorem withMethod (criterion : Criterion) : IsScan (·.withMethod criterion) := by
  cases hchooses : criterion.choosesBuckets with
  | false => exact .of_error fun store => Buckets.union_of_not_choosesBuckets _ hchooses
  | true =>
    refine ⟨.ok fun site => criterion.copies (some site.call.method), fun store live hrep => ?_⟩
    obtain ⟨log, hindexes, rfl⟩ := hrep
    dsimp only
    rw [Store.withMethod, hindexes.byMethod.union_eq_flatMap hindexes.ascending hchooses, Except.map,
      taken, List.flatMap_map]
    rfl

theorem withReceiver (criterion : Criterion) : IsScan (·.withReceiver criterion) := by
  cases hchooses : criterion.choosesBuckets with
  | false => exact .of_error fun store => Buckets.union_of_not_choosesBuckets _ hchooses
  | true =>
    refine ⟨.ok fun site => site.call.receiver.key?.elim 0 criterion.copies,
      fun store live hrep => ?_⟩
    obtain ⟨log, hindexes, rfl⟩ := hrep
    dsimp only
    rw [Store.withReceiver, hindexes.byReceiver.union_eq_flatMap hindexes.ascending hchooses,
      Except.map, taken, List.flatMap_map]
    rfl

theorem sites (plan : Plan) : IsScan (plan.sites ·) := by
  cases plan with
  | unclear => exact .of_nothing fun _ => rfl
  | receiversFirst receivers methods =>
    cases methods with
    | some methods => exact (withReceiver receivers).filter _
    | none =>
      obtain ⟨outcome, hscan⟩ := withReceiver receivers
      refine ⟨outcome, fun store live hrep => ?_⟩
      dsimp only at hscan ⊢
      rw [Plan.sites, hscan store live hrep]
      cases outcome <;> rfl
  | methodsFirst methods receivers =>
    cases receivers with
    | some receivers => exact (withMethod methods).filter _
    | none =>
      obtain ⟨outcome, hscan⟩ := withMethod methods
      refine ⟨outcome, fun store live hrep => ?_⟩
      dsimp only at hscan ⊢
      rw [Plan.sites, hscan store live hrep]
      cases outcome <;> rfl

theorem withoutNested {answer : Store → Except Failure (List Site)} (hscan : IsScan answer)
    (nested : Datum) : IsScan fun store => (answer store).map (Store.withoutNested nested) := by
  cases hnested : nested.isVoid with
  | true =>
    have hdrops : Store.withoutNested nested = List.filter fun site => !site.call.nested := by
      funext sites
      rw [Store.withoutNested, hnested, if_pos rfl]
    simpa only [hdrops] using hscan.filter _
  | false =>
    obtain ⟨outcome, hscan⟩ := hscan
    refine ⟨outcome, fun store live hrep => ?_⟩
    dsimp only
    rw [hscan store live hrep]
    cases outcome <;> simp [Except.map, Store.withoutNested, hnested]

/-- A query on chains goes through the sites that have its method. -/
theorem findInChains (receiver method : Value) :
    IsScan fun store => (store.findInChains receiver method).outcome := by
  cases hnothing : method.unwrap.isAbsent || method.unwrap.isNull with
  | true =>
    simp only [Store.findInChains, hnothing, if_true]
    exact .of_nothing fun _ => rfl
  | false =>
    simp only [Store.findInChains, hnothing, Bool.false_eq_true, if_false]
    cases hcriterion : Criterion.ofValue method.unwrap with
    | error failure => exact .of_error fun _ => rfl
    | ok criterion =>
      cases htest : ChainTest.ofValue
        (if receiver.unwrap.isAbsent = true then .null else receiver.unwrap) with
      | ok test => exact (withMethod criterion).filter _
      | error failure =>
        -- Methods are looked up before the test is made, so their failure comes first.
        obtain ⟨outcome, hscan⟩ := withMethod criterion
        refine ⟨outcome.bind fun _ => .error failure, fun store live hrep => ?_⟩
        simp only [Answer.ofExcept, bind, Except.bind, hscan store live hrep]
        cases outcome <;> rfl

theorem find (q : Query) : IsScan fun store => (store.find q).outcome := by
  cases hchained : q.chained.isVoid with
  | false =>
    simp only [Store.find, hchained, Bool.not_false, if_true]
    exact findInChains _ _
  | true =>
    simp only [Store.find, hchained, Bool.not_true, Bool.false_eq_true, if_false]
    cases hplan : Plan.ofOptions q.receiverOption q.methodOption with
    | error failure => exact .of_error fun _ => rfl
    | ok plan =>
      cases plan with
      | unclear => exact .of_nothing fun _ => rfl
      | receiversFirst receivers methods => exact (sites _).withoutNested q.nested
      | methodsFirst methods receivers => exact (sites _).withoutNested q.nested

/-- What is found is live. -/
theorem mem {answer : Store → Except Failure (List Site)} (hscan : IsScan answer)
    (hrep : store.Represents live) {found : List Site} (hfound : answer store = .ok found) :
    ∀ site ∈ found, site ∈ live := by
  obtain ⟨outcome, hscan⟩ := hscan
  rw [hscan store live hrep] at hfound
  cases outcome with
  | error failure => cases hfound
  | ok copies =>
    cases hfound
    intro site hsite
    obtain ⟨taken, htaken, hcopies⟩ := List.mem_flatMap.mp hsite
    rwa [List.eq_of_mem_replicate hcopies]

/-- What is found after a removal and an addition is what was found before, less what is removed, and
    what is found among the additions. -/
theorem rescan {answer : Store → Except Failure (List Site)} (hscan : IsScan answer)
    {after fresh : Store} {added found : List Site} {drops : Site → Bool}
    (hrep : store.Represents live) (hafter : after.Represents (live.filter (!drops ·) ++ added))
    (hfresh : fresh.Represents added) (hfound : answer store = .ok found) :
    ∃ more, answer fresh = .ok more ∧ answer after = .ok (found.filter (!drops ·) ++ more) := by
  obtain ⟨outcome, hscan⟩ := hscan
  rw [hscan store live hrep] at hfound
  cases outcome with
  | error failure => cases hfound
  | ok copies =>
    cases hfound
    refine ⟨taken copies added, hscan fresh added hfresh, ?_⟩
    rw [hscan after _ hafter, ← taken_filter]
    exact congrArg Except.ok List.flatMap_append

end IsScan

namespace Step

/-- The removals that have nothing to fail on, given the live sites: those of calls in templates and in
    classes given by their names, and those whose test answers for every live site. -/
inductive IsRemoval (live : List Site) : Step → Prop
  | fromTemplates (name : Datum) : IsRemoval live (.removeFromTemplates name)
  | fromClass (name : String) : IsRemoval live (.removeFromClasses (.text name))
  | fromClasses (names : List String) :
      IsRemoval live (.removeFromClasses (.list (names.map .text)))
  | ofAnswering {test : SiteTest} (answers : ∀ site ∈ live, test.answers site = true) :
      IsRemoval live (.removeWhere test)

theorem run_removeFromClasses_of_texts (hrep : store.Represents live) {classes : Datum}
    {names : List String} (hnames : classNames classes = .ok (names.map .text)) :
    ∃ removed, ((Step.removeFromClasses classes).action.run store).outcome = .ok removed := by
  let test : SiteTest := fun site => .ok (isFromClass (names.map .text) site.call)
  have hanswers : ∀ site ∈ live, test.answers site = true := fun _ _ => rfl
  obtain ⟨after, hrun, _⟩ := hrep.removeWhere_of_answers hanswers
  refine ⟨live.countP test.holds, ?_⟩
  rw [action, Store.removeFromClasses, hnames, Action.run_ofExcept_ok_bind,
    Action.run_bind_of_ok (congrArg Change.outcome hrun), Datum.sort?_texts]
  rfl

theorem classNames_texts (names : List String) :
    ∃ distinct : List String,
      classNames (.list (names.map .text)) = .ok (distinct.map .text) := by
  have htexts : Datum.distinct (names.map .text) ∈ Set.range (List.map Datum.text) := by
    rw [Set.range_list_map]
    intro d hd
    obtain ⟨name, _, hname⟩ := List.mem_map.mp ((firstOfEach_sublist _).subset hd)
    exact ⟨name, hname⟩
  obtain ⟨distinct, hdistinct⟩ := htexts
  refine ⟨distinct, ?_⟩
  simp only [classNames, Datum.elements?, Datum.all_isStable_texts, if_true, hdistinct]

theorem IsRemoval.completes {step : Step} (hremoval : step.IsRemoval live)
    (hrep : store.Represents live) : ∃ removed, (step.action.run store).outcome = .ok removed := by
  cases hremoval with
  | fromTemplates name =>
    let test : SiteTest := fun site => .ok (isFromTemplate name site.call)
    have hanswers : ∀ site ∈ live, test.answers site = true := fun _ _ => rfl
    obtain ⟨after, hrun, _⟩ := hrep.removeWhere_of_answers hanswers
    refine ⟨live.countP test.holds, ?_⟩
    rw [action, Store.removeFromTemplates, Action.run_bind_of_ok (congrArg Change.outcome hrun)]
    rfl
  | fromClass name =>
    have hname : classNames (.text name) = .ok ([name].map .text) := rfl
    exact run_removeFromClasses_of_texts hrep hname
  | fromClasses names =>
    obtain ⟨distinct, hdistinct⟩ := classNames_texts names
    exact run_removeFromClasses_of_texts hrep hdistinct
  | ofAnswering answers =>
    obtain ⟨after, hrun, _⟩ := hrep.removeWhere_of_answers answers
    exact ⟨_, congrArg Change.outcome hrun⟩

theorem IsRemoval.additions_eq {step : Step} (hremoval : step.IsRemoval live) :
    step.additions = [] := by
  cases hremoval <;> rfl

end Step

/-- A removal completes, and after it and the addition of a batch every query that could be answered
    before finds what it found then without the removed sites, and after these what it finds in a store
    of the batch alone. -/
theorem Tracks.find_after_rescan (htracks : store.Tracks live) {removal : Step}
    (hremoval : removal.IsRemoval live) (added : List Site) :
    let removed := removal.action.run store
    let after := ((Step.add added).action.run removed.state).state
    let fresh := ((Step.add added).action.run .empty).state
    (∃ count, removed.outcome = .ok count) ∧
      (∀ (q : Query) (found : List Site), (store.find q).outcome = .ok found →
        ∃ more, (fresh.find q).outcome = .ok more ∧
          (after.find q).outcome = .ok (found.filter (!removal.drops ·) ++ more)) ∧
      ∀ (receiver method : Value) (found : List Site),
        (store.findInChains receiver method).outcome = .ok found →
          ∃ more, (fresh.findInChains receiver method).outcome = .ok more ∧
            (after.findInChains receiver method).outcome =
              .ok (found.filter (!removal.drops ·) ++ more) := by
  intro removed after fresh
  have hrep := htracks.represents
  obtain ⟨count, hcount⟩ := hremoval.completes hrep
  have hremoved := (removal.represents_of_ok hrep hcount).1
  rw [Step.onList, hremoval.additions_eq, List.append_nil] at hremoved
  have hafter : after.Represents (live.filter (!removal.drops ·) ++ added) := hremoved.insertAll added
  have hfresh : fresh.Represents added := Represents.empty.insertAll added
  refine ⟨⟨count, hcount⟩, fun q found hfound => ?_, fun receiver method found hfound => ?_⟩
  · exact (IsScan.find q).rescan hrep hafter hfresh hfound
  · exact (IsScan.findInChains receiver method).rescan hrep hafter hfresh hfound

/-- A template is scanned again: its call makes way for another, and the call in a class stays. -/
theorem find_after_rescan_of_template :
    let inTemplate : Site :=
      ⟨0, { Call.ofChain "find" [] with place := ⟨.template, some "list", none⟩ }⟩
    let inClass : Site := ⟨1, { Call.ofChain "find" [] with place := ⟨.inClass, none, some "Post"⟩ }⟩
    let again : Site := ⟨2, { Call.ofChain "find" [] with place := ⟨.template, some "list", none⟩ }⟩
    let store := ((Step.add [inTemplate, inClass]).action.run .empty).state
    let removed := (Step.removeFromTemplates (.text "list")).action.run store
    let after := ((Step.add [again]).action.run removed.state).state
    (after.find { method := .text "find" }).outcome = .ok [inClass, again] := by
  intro inTemplate inClass again store removed after
  have htracks : store.Tracks [inTemplate, inClass] := .step (.add _) .empty rfl
  have hfinds {store : Store} {live : List Site} (hrep : store.Represents live) :
      (store.find { method := .text "find" }).outcome =
        (Except.ok (live.filter fun site =>
          (Criterion.equals (.text "find")).holds (.text site.call.method) && true)).map
            (withoutNested (.bool false)) := by
    have hwell : (Criterion.equals (.text "find")).WellFormed := rfl
    exact congrArg (Except.map (withoutNested (.bool false))) (Plan.sites_methodsFirst hrep hwell none)
  obtain ⟨_, hfind, _⟩ := htracks.find_after_rescan (.fromTemplates (.text "list")) [again]
  obtain ⟨more, hmore, hafter⟩ :=
    hfind { method := .text "find" } [inTemplate, inClass] (hfinds htracks.represents)
  have hfresh : ((Step.add [again]).action.run .empty).state.Represents [again] :=
    Represents.empty.insertAll [again]
  rw [hfinds hfresh] at hmore
  cases hmore
  exact hafter

end Store

end CallAudit

import CallAudit.Proofs.Query.Scan
import CallAudit.Proofs.Store.Ordinals

/-!
# Queries for names

A query for some names takes them as a set: their order, and how often each is given, makes no difference
in any store, not even in one that a removal has failed on.
-/

namespace CallAudit

namespace Value

/-- Texts as a value that a query may be given. -/
def ofTexts (texts : List String) : Value := .list (texts.map .text)

theorem IsOption.ofTexts (texts : List String) : (ofTexts texts).IsOption := by
  refine .list fun item hitem => ?_
  obtain ⟨text, _, rfl⟩ := List.mem_map.mp hitem
  rfl

theorem asksFor_ofTexts (texts : List String) (name : Option String) :
    (ofTexts texts).asksFor name = name.any texts.contains := by
  rw [ofTexts, asksFor, List.any_map]
  cases name with
  | none => simp [Function.comp_def, name?]
  | some s =>
    rw [Option.any_some, Bool.eq_iff_iff]
    simp [Function.comp_def, name?]

theorem criterion_ofTexts (texts : List String) :
    Criterion.ofValue (ofTexts texts) = .ok (.oneOf (toSet (texts.map .text))) := by
  have hset : toSet? (texts.map .text) = some (toSet (texts.map .text)) := by
    refine if_pos ((allStable_iff _).mpr fun v hv => ?_)
    obtain ⟨text, _, rfl⟩ := List.mem_map.mp hv
    rfl
  simp only [Criterion.ofValue, ofTexts, members?, hset]

/-- The sets made from texts with the same members differ at most in their order. -/
theorem toSet_texts_perm {texts others : List String}
    (hmembers : ∀ text, text ∈ texts ↔ text ∈ others) :
    (toSet (texts.map .text)).Perm (toSet (others.map .text)) := by
  have hset (texts : List String) (v : Value) :
      v ∈ toSet (texts.map .text) ↔ ∃ text ∈ texts, Value.text text = v := by
    rw [← List.mem_map]
    refine ⟨fun h => (firstOfEach_sublist _).subset h, fun h => ?_⟩
    obtain ⟨text, _, rfl⟩ := List.mem_map.mp h
    exact (mem_firstOfEach_iff (fun w => (ofName_same_iff (some text) w).mp) _).mpr h
  have hnodup (texts : List String) : (toSet (texts.map .text)).Nodup := by
    refine (pairwise_firstOfEach _).imp_of_mem fun {a b} ha _ hdistinct heq => ?_
    obtain ⟨text, _, rfl⟩ := (hset texts a).mp ha
    subst heq
    exact absurd ((ofName_same_iff (some text) _).mpr rfl) (Bool.eq_false_iff.mp hdistinct)
  rw [List.perm_ext_iff_of_nodup (hnodup texts) (hnodup others)]
  intro v
  rw [hset, hset]
  simp only [hmembers]

end Value

theorem Criterion.holds_oneOf_of_perm {vs ws : List Value} (hperm : vs.Perm ws) :
    (Criterion.oneOf vs).holds = (Criterion.oneOf ws).holds :=
  funext fun _ => hperm.any_eq

namespace Plan

/-- The plan for some receivers and some methods, both given by name. -/
theorem ofOptions_texts (receivers methods : List String) :
    ofOptions (.ofTexts receivers) (.ofTexts methods) =
      .ok (if (Value.toSet (methods.map .text)).length < (Value.toSet (receivers.map .text)).length
        then .methodsFirst (.oneOf (Value.toSet (methods.map .text)))
          (some (.oneOf (Value.toSet (receivers.map .text))))
        else .receiversFirst (.oneOf (Value.toSet (receivers.map .text)))
          (some (.oneOf (Value.toSet (methods.map .text))))) :=
  ofOptions_of_collections rfl (Value.criterion_ofTexts receivers) (Value.criterion_ofTexts methods)

variable {store : Store} {vs vs' ws ws' : List Value}

theorem sites_receiversFirst_of_perm (hnumbered : store.Numbered) (hreceivers : vs.Perm vs')
    (hmethods : ws.Perm ws') :
    (receiversFirst (.oneOf vs) (some (.oneOf ws))).sites store =
      (receiversFirst (.oneOf vs') (some (.oneOf ws'))).sites store := by
  have hfilter : filterMethods (some (.oneOf ws)) = filterMethods (some (.oneOf ws')) := by
    funext sites
    simp only [filterMethods, Criterion.holds_oneOf_of_perm hmethods]
  rw [sites, sites, Store.withReceiver, Store.withReceiver,
    hnumbered.byReceiver.union_oneOf_eq_of_perm hreceivers, hfilter]

theorem sites_methodsFirst_of_perm (hnumbered : store.Numbered) (hmethods : vs.Perm vs')
    (hreceivers : ws.Perm ws') :
    (methodsFirst (.oneOf vs) (some (.oneOf ws))).sites store =
      (methodsFirst (.oneOf vs') (some (.oneOf ws'))).sites store := by
  have hfilter : filterReceivers (some (.oneOf ws)) = filterReceivers (some (.oneOf ws')) := by
    funext sites
    simp only [filterReceivers, Criterion.holds_oneOf_of_perm hreceivers]
  rw [sites, sites, Store.withMethod, Store.withMethod,
    hnumbered.byMethod.union_oneOf_eq_of_perm hmethods, hfilter]

end Plan

namespace Store

variable {store : Store}

/-- Two queries for methods find the same in every store if the names of the methods are the same. -/
theorem Numbered.exists_find_methods (hnumbered : store.Numbered) {methods methods' : List String}
    (hmethods : ∀ name, name ∈ methods ↔ name ∈ methods') :
    ∃ sites, (store.find { methods := .ofTexts methods }).outcome = .ok sites ∧
      (store.find { methods := .ofTexts methods' }).outcome = .ok sites := by
  have hfind (names : List String) : (store.find { methods := .ofTexts names }).outcome =
      ((store.byMethod.union (.oneOf (Value.toSet (names.map .text)))).map
        (Plan.filterReceivers none)).map (withoutNested (.bool false)) := by
    let q : Query := { methods := .ofTexts names }
    have hplan : Plan.ofOptions q.receiverOption q.methodOption = .ok (.methodsFirst _ none) :=
      Plan.ofOptions_of_method rfl rfl rfl (Value.criterion_ofTexts names)
    exact congrArg Answer.outcome (find_of_plan rfl hplan (by simp))
  rw [hfind, hfind, hnumbered.byMethod.union_oneOf_eq_of_perm (Value.toSet_texts_perm hmethods)]
  exact ⟨_, rfl, rfl⟩

/-- So do two queries for receivers and methods if the names of both are the same. -/
theorem Numbered.exists_find_names (hnumbered : store.Numbered)
    {receivers receivers' methods methods' : List String}
    (hreceivers : ∀ name, name ∈ receivers ↔ name ∈ receivers')
    (hmethods : ∀ name, name ∈ methods ↔ name ∈ methods') :
    ∃ sites,
      (store.find { receivers := .ofTexts receivers, methods := .ofTexts methods }).outcome =
        .ok sites ∧
      (store.find { receivers := .ofTexts receivers', methods := .ofTexts methods' }).outcome =
        .ok sites := by
  have hr := Value.toSet_texts_perm hreceivers
  have hm := Value.toSet_texts_perm hmethods
  have hfind {receivers methods : List String} {plan : Plan}
      (hplan : Plan.ofOptions (.ofTexts receivers) (.ofTexts methods) = .ok plan)
      (hclear : plan ≠ .unclear) :
      (store.find { receivers := .ofTexts receivers, methods := .ofTexts methods }).outcome =
        (plan.sites store).map (withoutNested (.bool false)) := by
    let q : Query := { receivers := .ofTexts receivers, methods := .ofTexts methods }
    have hplan : Plan.ofOptions q.receiverOption q.methodOption = .ok plan := hplan
    exact congrArg Answer.outcome (find_of_plan rfl hplan hclear)
  have hplan := Plan.ofOptions_texts receivers methods
  have hplan' := Plan.ofOptions_texts receivers' methods'
  rw [← hr.length_eq, ← hm.length_eq] at hplan'
  -- The sets are of one size, so both queries get one kind of plan.
  split at hplan
  · next hfewer =>
    rw [if_pos hfewer] at hplan'
    rw [hfind hplan (by simp), hfind hplan' (by simp),
      Plan.sites_methodsFirst_of_perm hnumbered hm hr]
    exact ⟨_, rfl, rfl⟩
  · next hfewer =>
    rw [if_neg hfewer] at hplan'
    rw [hfind hplan (by simp), hfind hplan' (by simp),
      Plan.sites_receiversFirst_of_perm hnumbered hr hm]
    exact ⟨_, rfl, rfl⟩

end Store

end CallAudit

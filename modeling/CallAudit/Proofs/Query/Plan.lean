import CallAudit.Proofs.Store.History
import CallAudit.Query.Plan

/-!
# Plans as filters

Which plan two options get is told by an equation for each shape that they can have. Either kind of plan
filters the live sites by both of its criteria. The two differ in one thing: a plan that looks up
receivers first never finds a call on an expression.
-/

namespace CallAudit

variable {store : Store} {live : List Site}

namespace Plan

section OfOptions

variable {receiver method : Value} {receivers methods : Criterion}

/-- Of two collections the one with fewer members is looked up, and the receivers if both are of one
    size. -/
theorem ofOptions_of_collections (hboth : (receiver.members?.isSome && method.members?.isSome) = true)
    (hreceivers : Criterion.ofValue receiver = .ok receivers)
    (hmethods : Criterion.ofValue method = .ok methods) :
    ofOptions receiver method = .ok (if methods.size?.getD 0 < receivers.size?.getD 0
      then .methodsFirst methods (some receivers) else .receiversFirst receivers (some methods)) := by
  rw [ofOptions, if_pos hboth, hreceivers, hmethods]
  by_cases hsize : methods.size?.getD 0 < receivers.size?.getD 0 <;>
    simp [bind, Except.bind, pure, Except.pure, hsize]

theorem ofOptions_of_receiver (hboth : (receiver.members?.isSome && method.members?.isSome) = false)
    (hgiven : (receiver.isAbsent || receiver.isNull) = false)
    (hreceivers : Criterion.ofValue receiver = .ok receivers) (hmethod : method.isAbsent = true) :
    ofOptions receiver method = .ok (.receiversFirst receivers none) := by
  obtain ⟨habsent, hnull⟩ := Bool.or_eq_false_iff.mp hgiven
  simp [ofOptions, hboth, habsent, hnull, hreceivers, hmethod, bind, Except.bind, pure, Except.pure]

theorem ofOptions_of_receiver_method
    (hboth : (receiver.members?.isSome && method.members?.isSome) = false)
    (hgiven : (receiver.isAbsent || receiver.isNull) = false)
    (hreceivers : Criterion.ofValue receiver = .ok receivers) (hmethod : method.isAbsent = false)
    (hmethods : Criterion.ofValue method = .ok methods) :
    ofOptions receiver method = .ok (.receiversFirst receivers (some methods)) := by
  obtain ⟨habsent, hnull⟩ := Bool.or_eq_false_iff.mp hgiven
  simp [ofOptions, hboth, habsent, hnull, hreceivers, hmethod, hmethods, bind, Except.bind, pure,
    Except.pure]

theorem ofOptions_of_method (hboth : (receiver.members?.isSome && method.members?.isSome) = false)
    (hnotGiven : (receiver.isAbsent || receiver.isNull) = true) (hmethod : method.isAbsent = false)
    (hmethods : Criterion.ofValue method = .ok methods) :
    ofOptions receiver method =
      .ok (.methodsFirst methods (if receiver.isNull then some (.equals .null) else none)) := by
  have hskip : (!receiver.isAbsent && !receiver.isNull) = false := by
    rw [← Bool.not_or, hnotGiven, Bool.not_true]
  simp [ofOptions, hboth, hskip, hmethod, hmethods, bind, Except.bind, pure, Except.pure]

theorem ofOptions_unclear (hnotGiven : (receiver.isAbsent || receiver.isNull) = true)
    (hmethod : method.isAbsent = true) : ofOptions receiver method = .ok .unclear := by
  have hboth : (receiver.members?.isSome && method.members?.isSome) = false := by
    cases method <;> simp_all [Value.isAbsent, Value.members?]
  have hskip : (!receiver.isAbsent && !receiver.isNull) = false := by
    rw [← Bool.not_or, hnotGiven, Bool.not_true]
  simp [ofOptions, hboth, hskip, hmethod, pure, Except.pure]

end OfOptions

theorem sites_receiversFirst (hrep : store.Represents live) {receivers : Criterion}
    (hwell : receivers.WellFormed) (methods : Option Criterion) :
    (receiversFirst receivers methods).sites store = .ok (live.filter fun site =>
      (!site.call.receiver.isExpression && receivers.holds site.call.receiver.value) &&
        methods.all (·.holds (.text site.call.method))) := by
  rw [sites, hrep.withReceiver_eq hwell]
  cases methods with
  | none => simp [filterMethods, Except.map]
  | some methods => simp [filterMethods, Except.map, List.filter_filter, Bool.and_comm]

theorem sites_methodsFirst (hrep : store.Represents live) {methods : Criterion}
    (hwell : methods.WellFormed) (receivers : Option Criterion) :
    (methodsFirst methods receivers).sites store = .ok (live.filter fun site =>
      methods.holds (.text site.call.method) &&
        receivers.all (·.holds site.call.receiver.value)) := by
  rw [sites, hrep.withMethod_eq hwell]
  cases receivers with
  | none => simp [filterReceivers, Except.map]
  | some receivers => simp [filterReceivers, Except.map, List.filter_filter, Bool.and_comm]

/-- Of the sites that a plan for methods and receivers finds, one for receivers first leaves out the calls
    on expressions. -/
theorem receiversFirst_eq_methodsFirst_iff (hrep : store.Represents live)
    {methods receivers : Criterion} (hmethods : methods.WellFormed)
    (hreceivers : receivers.WellFormed) :
    (receiversFirst receivers (some methods)).sites store =
        (methodsFirst methods (some receivers)).sites store ↔
      ∀ site ∈ live, site.call.receiver.isExpression = true →
        methods.holds (.text site.call.method) = true →
          receivers.holds site.call.receiver.value = false := by
  rw [sites_receiversFirst hrep hreceivers, sites_methodsFirst hrep hmethods]
  have hleft : (live.filter fun site =>
      (!site.call.receiver.isExpression && receivers.holds site.call.receiver.value) &&
        (some methods).all (·.holds (.text site.call.method))) =
      (live.filter fun site => methods.holds (.text site.call.method) &&
        (some receivers).all (·.holds site.call.receiver.value)).filter
          (!·.call.receiver.isExpression) := by
    rw [List.filter_filter]
    refine List.filter_congr fun site _ => ?_
    rw [Option.all_some, Option.all_some, Bool.and_assoc, Bool.and_comm (receivers.holds _)]
  rw [hleft, Except.ok.injEq, List.filter_eq_self]
  constructor
  · intro hnone site hsite hexpression hmethod
    cases hreceiver : receivers.holds site.call.receiver.value with
    | false => rfl
    | true =>
      have hfound := hnone site (List.mem_filter.mpr ⟨hsite, by simp [hmethod, hreceiver]⟩)
      simp [hexpression] at hfound
  · intro hnone site hfound
    obtain ⟨hsite, hkept⟩ := List.mem_filter.mp hfound
    simp only [Option.all_some, Bool.and_eq_true] at hkept
    cases hexpression : site.call.receiver.isExpression with
    | false => rfl
    | true =>
      rw [hnone site hsite hexpression hkept.1] at hkept
      cases hkept.2

end Plan

namespace Store

/-- The two plans for a collection of receivers and a collection of methods find the same sites exactly
    if no live call that has one of the methods is made on an expression among the receivers. Which of
    the two plans is taken depends on the numbers of distinct members. -/
theorem Tracks.collection_plans_agree_iff (htracks : store.Tracks live) {receiver method : Value}
    {receiverItems methodItems : List Value} (hreceiverItems : receiver.members? = some receiverItems)
    (hmethodItems : method.members? = some methodItems) {receivers methods : Criterion}
    (hreceivers : Criterion.ofValue receiver = .ok receivers)
    (hmethods : Criterion.ofValue method = .ok methods) :
    Plan.ofOptions receiver method =
        .ok (if (Value.toSet methodItems).length < (Value.toSet receiverItems).length
          then .methodsFirst methods (some receivers) else .receiversFirst receivers (some methods)) ∧
    ((Plan.receiversFirst receivers (some methods)).sites store =
        (Plan.methodsFirst methods (some receivers)).sites store ↔
      ∀ site ∈ live, site.call.receiver.isExpression = true →
        (Value.text site.call.method).isIn methodItems = true →
          site.call.receiver.value.isIn receiverItems = false) := by
  have hr := Criterion.ofValue_of_members hreceiverItems hreceivers
  have hm := Criterion.ofValue_of_members hmethodItems hmethods
  subst hr hm
  constructor
  · have hboth : (receiver.members?.isSome && method.members?.isSome) = true := by
      simp [hreceiverItems, hmethodItems]
    exact Plan.ofOptions_of_collections hboth hreceivers hmethods
  · have hmethod (name : String) : (Criterion.oneOf (Value.toSet methodItems)).holds (.text name) =
        (Value.text name).isIn methodItems := by
      rw [Criterion.holds]
      exact Value.isIn_toSet (Value.ofName_same_iff (some name)) methodItems
    have hreceiver (r : Receiver) : (Criterion.oneOf (Value.toSet receiverItems)).holds r.value =
        r.value.isIn receiverItems := by
      rw [Criterion.holds, Value.isIn_toSet r.value_same_iff]
    rw [Plan.receiversFirst_eq_methodsFirst_iff htracks.represents
      (Criterion.wellFormed_oneOf_toSet _) (Criterion.wellFormed_oneOf_toSet _)]
    simp only [hmethod, hreceiver]

/-- A call on an expression that is asked for by name of its method and by the expression itself is found
    by one plan and not by the other. -/
theorem collection_plans_disagree_on_expression :
    let first : Site := ⟨0, { Call.ofChain "first" [] with receiver := .expression ⟨"call", "x"⟩ }⟩
    let store := ((Step.add [first]).action.run .empty).state
    let receivers := Criterion.oneOf [.expression ⟨"call", "x"⟩]
    let methods := Criterion.oneOf [.text "first"]
    (Plan.receiversFirst receivers (some methods)).sites store ≠
      (Plan.methodsFirst methods (some receivers)).sites store := by
  intro first store receivers methods hagree
  have htracks : store.Tracks [first] := .step (.add [first]) .empty rfl
  have hreceivers : (Value.list [.expression ⟨"call", "x"⟩]).members? = some _ := rfl
  have hmethods : (Value.list [.text "first"]).members? = some _ := rfl
  have hnone := (htracks.collection_plans_agree_iff hreceivers hmethods rfl rfl).2.mp hagree first
    (by simp) rfl rfl
  cases hnone

end Store

end CallAudit

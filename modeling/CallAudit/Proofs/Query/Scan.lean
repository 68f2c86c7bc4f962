import CallAudit.Proofs.Query.Options
import CallAudit.Proofs.Query.Plan

/-!
# Queries as one scan

A query that asks for names finds what one scan of the live sites finds, whatever plan answers it. The
scan puts the method and the receiver of each site to the options and leaves out nested calls.
-/

namespace CallAudit

/-- Whether options for a receiver and a method ask for a site. A receiver that is an expression is
    asked for only by leaving the option out. -/
def Site.isAskedFor (receiver method : Value) (site : Site) : Bool :=
  (method.isAbsent || method.isNull || method.asksFor (some site.call.method)) &&
    (receiver.isAbsent || site.call.receiver.key?.any receiver.asksFor)

namespace Query

/-- Whether the options of a query restrict its answer to nothing. -/
def restrictsNothing (q : Query) : Bool :=
  let receiver := Value.resolve [q.receiver, q.receivers]
  let method := Value.resolve [q.method, q.methods]
  (method.isAbsent || method.isNull) && (receiver.isAbsent || receiver.isNull)

/-- Whether a scan keeps a site. -/
def keeps (q : Query) (site : Site) : Bool :=
  site.isAskedFor (Value.resolve [q.receiver, q.receivers]) (Value.resolve [q.method, q.methods]) &&
    (!q.nested.isVoid || !site.call.nested)

end Query

namespace Value

/-- A criterion that agrees with an option on names finds the receivers that the option asks for, if it
    holds of no expression. -/
theorem any_asksFor {v : Value} {criterion : Criterion}
    (hagrees : ∀ name, criterion.holds (ofName name) = v.asksFor name) (receiver : Receiver) :
    receiver.key?.any v.asksFor = (!receiver.isExpression && criterion.holds receiver.value) := by
  rw [← receiver.any_key? criterion.holds]
  congr
  funext name
  exact (hagrees name).symm

/-- No expression is among names and patterns, so a criterion for some of them holds of none. -/
theorem holds_value_of_parts {items : List Value} (hparts : ∀ item ∈ items, item.IsPart)
    (receiver : Receiver) :
    (Criterion.oneOf (toSet items)).holds receiver.value =
      (!receiver.isExpression && (Criterion.oneOf (toSet items)).holds receiver.value) := by
  cases receiver with
  | none | named name => rfl
  | expression e =>
    rw [Criterion.holds, isIn_toSet (Receiver.expression e).value_same_iff, isIn]
    change _ = false
    rw [List.any_eq_false]
    intro item hitem hsame
    have hpart := hparts item hitem
    rw [((Receiver.expression e).value_same_iff item).mp hsame] at hpart
    obtain hname | ⟨r, hregex⟩ := hpart
    · cases hname
    · cases hregex

theorem IsRequest.parts_of_members {v : Value} (hrequest : IsRequest v) {items : List Value}
    (hitems : v.members? = some items) : ∀ item ∈ items, item.IsPart := by
  cases hrequest with
  | option option =>
    refine fun item hitem => .inl ?_
    cases option <;> simp_all [members?]
  | list parts =>
    cases hitems
    exact parts

theorem isAbsent_eq_false_of_members {v : Value} (hmembers : v.members?.isSome = true) :
    v.isAbsent = false ∧ v.isNull = false := by
  cases v <;> simp_all [members?, isAbsent, isNull]

theorem isNull_absentIfNull (v : Value) : v.absentIfNull.isNull = false := by
  cases v <;> rfl

theorem isAbsent_absentIfNull (v : Value) : v.absentIfNull.isAbsent = (v.isAbsent || v.isNull) := by
  cases v <;> rfl

theorem IsOption.absentIfNull {v : Value} (hoption : IsOption v) : v.absentIfNull.IsOption := by
  cases hoption <;> constructor <;> assumption

end Value

namespace Query

theorem receiverOption_eq_resolve (q : Query) :
    q.receiverOption = Value.resolve [q.receiver, q.receivers] :=
  Value.pick_unwrap_eq_resolve q.receiver q.receivers

theorem methodOption_eq_resolve (q : Query) :
    q.methodOption = (Value.resolve [q.method, q.methods]).absentIfNull :=
  congrArg Value.absentIfNull (Value.pick_unwrap_eq_resolve q.method q.methods)

theorem restrictsNothing_eq (q : Query) :
    q.restrictsNothing =
      (q.methodOption.isAbsent && (q.receiverOption.isAbsent || q.receiverOption.isNull)) := by
  rw [methodOption_eq_resolve, receiverOption_eq_resolve, Value.isAbsent_absentIfNull]
  rfl

/-- A method option that is null asks for as much as none. -/
theorem keeps_eq (q : Query) (site : Site) :
    q.keeps site = (site.isAskedFor q.receiverOption q.methodOption &&
      (!q.nested.isVoid || !site.call.nested)) := by
  have hnull (receiver method : Value) :
      site.isAskedFor receiver method.absentIfNull = site.isAskedFor receiver method := by
    cases method <;> rfl
  rw [methodOption_eq_resolve, receiverOption_eq_resolve, hnull]
  rfl

end Query

namespace Plan

variable {store : Store} {live : List Site}

theorem receiversFirst_finds (hrep : store.Represents live) {receiver method : Value}
    {receivers : Criterion} {methods : Option Criterion} (hwell : receivers.WellFormed)
    (hgiven : receiver.isAbsent = false)
    (hreceivers : ∀ name, receivers.holds (.ofName name) = receiver.asksFor name)
    (hmethods : ∀ name, methods.all (·.holds (.text name)) =
      (method.isAbsent || method.isNull || method.asksFor (some name))) :
    (receiversFirst receivers methods).sites store =
      .ok (live.filter (Site.isAskedFor receiver method)) := by
  rw [sites_receiversFirst hrep hwell]
  refine congrArg Except.ok (List.filter_congr fun site _ => ?_)
  rw [Site.isAskedFor, hmethods, Value.any_asksFor hreceivers, hgiven, Bool.false_or, Bool.and_comm]

theorem methodsFirst_finds (hrep : store.Represents live) {receiver method : Value}
    {methods : Criterion} {receivers : Option Criterion} (hwell : methods.WellFormed)
    (hgiven : method.isAbsent = false) (hnotNull : method.isNull = false)
    (hmethods : ∀ name, methods.holds (.ofName name) = method.asksFor name)
    (hreceivers : ∀ r : Receiver, receivers.all (·.holds r.value) =
      (receiver.isAbsent || r.key?.any receiver.asksFor)) :
    (methodsFirst methods receivers).sites store =
      .ok (live.filter (Site.isAskedFor receiver method)) := by
  rw [sites_methodsFirst hrep hwell]
  refine congrArg Except.ok (List.filter_congr fun site _ => ?_)
  have hmethod := hmethods (some site.call.method)
  rw [Value.ofName] at hmethod
  rw [Site.isAskedFor, hreceivers, hmethod, hgiven, hnotNull, Bool.false_or, Bool.false_or]

/-- A plan that finds, of any store, the live sites that two options ask for. -/
def Finds (plan : Plan) (receiver method : Value) : Prop :=
  plan ≠ .unclear ∧ ∀ {store : Store} {live : List Site}, store.Represents live →
    plan.sites store = .ok (live.filter (Site.isAskedFor receiver method))

private theorem all_holds_of_agrees {method : Value} (hgiven : method.isAbsent = false)
    (hnotNull : method.isNull = false) {methods : Criterion}
    (hagrees : ∀ name, methods.holds (.ofName name) = method.asksFor name) (name : String) :
    (some methods).all (·.holds (.text name)) =
      (method.isAbsent || method.isNull || method.asksFor (some name)) := by
  rw [hgiven, hnotNull, ← hagrees (some name)]
  rfl

theorem exists_finds_of_collections {receiver method : Value} (hreceiver : receiver.IsRequest)
    (hmethod : method.IsRequest)
    (hboth : (receiver.members?.isSome && method.members?.isSome) = true) :
    ∃ plan, ofOptions receiver method = .ok plan ∧ plan.Finds receiver method := by
  obtain ⟨hreceivers, hmethods⟩ := Bool.and_eq_true_iff.mp hboth
  have hgiven := (Value.isAbsent_eq_false_of_members hreceivers).1
  obtain ⟨hmethodGiven, hnotNull⟩ := Value.isAbsent_eq_false_of_members hmethods
  obtain ⟨items, hitems⟩ := Option.isSome_iff_exists.mp hreceivers
  obtain ⟨cr, hcr, hcrWell, hcrAgrees⟩ := hreceiver.exists_criterion hgiven
  obtain ⟨cm, hcm, hcmWell, hcmAgrees⟩ := hmethod.exists_criterion hmethodGiven
  refine ⟨_, ofOptions_of_collections hboth hcr hcm, ?_⟩
  split
  · refine ⟨by simp, fun hrep =>
      methodsFirst_finds hrep hcmWell hmethodGiven hnotNull hcmAgrees fun r => ?_⟩
    have hparts := hreceiver.parts_of_members hitems
    rw [Value.any_asksFor hcrAgrees, hgiven, Bool.false_or, Criterion.ofValue_of_members hitems hcr]
    exact Value.holds_value_of_parts hparts r
  · exact ⟨by simp, fun hrep => receiversFirst_finds hrep hcrWell hgiven hcrAgrees
      (all_holds_of_agrees hmethodGiven hnotNull hcmAgrees)⟩

theorem exists_finds_of_receiver {receiver method : Value} (hreceiver : receiver.IsRequest)
    (hmethod : method.IsRequest) (hnotNull : method.isNull = false)
    (hboth : (receiver.members?.isSome && method.members?.isSome) = false)
    (hgiven : (receiver.isAbsent || receiver.isNull) = false) :
    ∃ plan, ofOptions receiver method = .ok plan ∧ plan.Finds receiver method := by
  have hnotAbsent := (Bool.or_eq_false_iff.mp hgiven).1
  obtain ⟨cr, hcr, hcrWell, hcrAgrees⟩ := hreceiver.exists_criterion hnotAbsent
  cases hmethodGiven : method.isAbsent with
  | true =>
    exact ⟨_, ofOptions_of_receiver hboth hgiven hcr hmethodGiven, by simp, fun hrep =>
      receiversFirst_finds hrep hcrWell hnotAbsent hcrAgrees fun name => by simp [hmethodGiven]⟩
  | false =>
    obtain ⟨cm, hcm, hcmWell, hcmAgrees⟩ := hmethod.exists_criterion hmethodGiven
    exact ⟨_, ofOptions_of_receiver_method hboth hgiven hcr hmethodGiven hcm, by simp, fun hrep =>
      receiversFirst_finds hrep hcrWell hnotAbsent hcrAgrees
        (all_holds_of_agrees hmethodGiven hnotNull hcmAgrees)⟩

theorem exists_finds_of_method {receiver method : Value} (hmethod : method.IsRequest)
    (hnotNull : method.isNull = false)
    (hboth : (receiver.members?.isSome && method.members?.isSome) = false)
    (hnotGiven : (receiver.isAbsent || receiver.isNull) = true)
    (hmethodGiven : method.isAbsent = false) :
    ∃ plan, ofOptions receiver method = .ok plan ∧ plan.Finds receiver method := by
  obtain ⟨cm, hcm, hcmWell, hcmAgrees⟩ := hmethod.exists_criterion hmethodGiven
  refine ⟨_, ofOptions_of_method hboth hnotGiven hmethodGiven hcm, by simp, fun hrep =>
    methodsFirst_finds hrep hcmWell hmethodGiven hnotNull hcmAgrees fun r => ?_⟩
  cases receiver with
  | absent => rfl
  | null => cases r <;> rfl
  | _ => cases hnotGiven

/-- Options that restrict an answer get a plan that finds what they ask for, even if there are patterns
    among the members of a list. -/
theorem exists_finds_of_requests {receiver method : Value} (hreceiver : receiver.IsRequest)
    (hmethod : method.IsRequest) (hnotNull : method.isNull = false)
    (hrestricts : (method.isAbsent && (receiver.isAbsent || receiver.isNull)) = false) :
    ∃ plan, ofOptions receiver method = .ok plan ∧ plan.Finds receiver method := by
  cases hboth : receiver.members?.isSome && method.members?.isSome with
  | true => exact exists_finds_of_collections hreceiver hmethod hboth
  | false =>
    cases hgiven : receiver.isAbsent || receiver.isNull with
    | true =>
      have hmethodGiven : method.isAbsent = false := by simpa [hgiven] using hrestricts
      exact exists_finds_of_method hmethod hnotNull hboth hgiven hmethodGiven
    | false => exact exists_finds_of_receiver hreceiver hmethod hnotNull hboth hgiven

theorem exists_finds {receiver method : Value} (hreceiver : receiver.IsOption)
    (hmethod : method.IsOption) (hnotNull : method.isNull = false)
    (hrestricts : (method.isAbsent && (receiver.isAbsent || receiver.isNull)) = false) :
    ∃ plan, ofOptions receiver method = .ok plan ∧ plan.Finds receiver method :=
  exists_finds_of_requests (.option hreceiver) (.option hmethod) hnotNull hrestricts

end Plan

namespace Store

variable {store : Store} {live : List Site}

/-- Without chains, a query is answered by the plan for its options. -/
theorem find_of_plan {q : Query} (hchained : q.chained.isVoid = true) {plan : Plan}
    (hplan : Plan.ofOptions q.receiverOption q.methodOption = .ok plan) (hclear : plan ≠ .unclear) :
    store.find q = .ofExcept ((plan.sites store).map (withoutNested q.nested)) := by
  cases plan <;> simp_all [find]

theorem find_of_unclear {q : Query} (hchained : q.chained.isVoid = true)
    (hplan : Plan.ofOptions q.receiverOption q.methodOption = .ok .unclear) :
    (store.find q).outcome = .ok [] ∧ (store.find q).events.map Event.level = [.warning] := by
  simp [find, hchained, hplan, notUnderstood, Event.level]

theorem withoutNested_filter (nested : Datum) (p : Site → Bool) :
    withoutNested nested (live.filter p) =
      live.filter fun site => p site && (!nested.isVoid || !site.call.nested) := by
  cases h : nested.isVoid <;> simp [withoutNested, h, List.filter_filter, Bool.and_comm]

theorem Represents.find_of_requests (hrep : store.Represents live) {q : Query}
    (hchained : q.chained.isVoid = true) (hreceiver : q.receiverOption.IsRequest)
    (hmethod : q.methodOption.IsRequest)
    (hrestricts : (q.methodOption.isAbsent &&
      (q.receiverOption.isAbsent || q.receiverOption.isNull)) = false) :
    store.find q = ⟨[], .ok (live.filter q.keeps)⟩ := by
  have hnull : q.methodOption.isNull = false := Value.isNull_absentIfNull _
  obtain ⟨plan, hplan, hclear, hfinds⟩ :=
    Plan.exists_finds_of_requests hreceiver hmethod hnull hrestricts
  rw [find_of_plan hchained hplan hclear, hfinds hrep, Answer.ofExcept, Except.map,
    withoutNested_filter]
  simp only [← q.keeps_eq]

/-- A query that does not ask for chains, whose options are absent, null, names, patterns or collections
    of names, finds what one scan of the live sites keeps. If the options restrict nothing it finds
    nothing, and one warning is all that it reports. -/
theorem Tracks.find_eq_scan (htracks : store.Tracks live) (q : Query)
    (hchained : q.chained.isVoid = true)
    (hreceiver : q.receiver.IsSpelling) (hreceivers : q.receivers.IsSpelling)
    (hmethod : q.method.IsSpelling) (hmethods : q.methods.IsSpelling) :
    if q.restrictsNothing then
      (store.find q).outcome = .ok [] ∧ (store.find q).events.map Event.level = [.warning]
    else store.find q = ⟨[], .ok (live.filter q.keeps)⟩ := by
  have hreceiverIs : q.receiverOption.IsOption := by
    rw [q.receiverOption_eq_resolve]
    exact Value.isOption_resolve (by simp [hreceiver, hreceivers])
  have hmethodIs : q.methodOption.IsOption := by
    rw [q.methodOption_eq_resolve]
    exact (Value.isOption_resolve (by simp [hmethod, hmethods])).absentIfNull
  split
  · next hnothing =>
    rw [q.restrictsNothing_eq] at hnothing
    obtain ⟨hm, hr⟩ := Bool.and_eq_true_iff.mp hnothing
    exact find_of_unclear hchained (Plan.ofOptions_unclear hr hm)
  · next hrestricts =>
    rw [q.restrictsNothing_eq] at hrestricts
    obtain ⟨plan, hplan, hclear, hfinds⟩ := Plan.exists_finds hreceiverIs hmethodIs
      (Value.isNull_absentIfNull _) (Bool.eq_false_iff.mpr hrestricts)
    rw [find_of_plan hchained hplan hclear, hfinds htracks.represents, Answer.ofExcept, Except.map,
      withoutNested_filter]
    simp only [← q.keeps_eq]

/-- Calls without a receiver or on one of two names, of any of two methods. -/
theorem find_eq_scan_of_collections :
    let free : Site := ⟨0, { Call.ofChain "find" [] with receiver := .none }⟩
    let user : Site := ⟨1, { Call.ofChain "where" [] with receiver := .named "User" }⟩
    let onCall : Site := ⟨2, { Call.ofChain "where" [] with receiver := .expression ⟨"call", "x"⟩ }⟩
    let store := ((Step.add [free, user, onCall]).action.run .empty).state
    let query : Query :=
      { receivers := .list [.text "User", .text "Post", .null]
        methods := .anyOf [.text "find", .text "where"] }
    store.find query = ⟨[], .ok [free, user]⟩ := by
  intro free user onCall store query
  have htracks : store.Tracks [free, user, onCall] := .step (.add _) .empty rfl
  have hreceivers : query.receivers.IsSpelling := .raw (.list (by decide))
  have hmethods : query.methods.IsSpelling :=
    @Value.IsSpelling.wrapped (.list [.text "find", .text "where"])
      (.oneOf [.text "find", .text "where"]) (.list (by decide)) rfl
  exact htracks.find_eq_scan query rfl (.raw .absent) hreceivers (.raw .absent) hmethods

end Store

end CallAudit

import CallAudit.Proofs.Query.Scan

/-!
# Queries on chains as one scan

A query on chains finds what one scan of the live sites finds, nested calls and calls on expressions
included. The scan puts the method of each site to one option and its chain to the other: a name that
denotes a path is compared with the path of the chain, any other with its head.
-/

namespace CallAudit

namespace Chain

/-- Whether a name is that of a class or a module: it starts with a capital letter and has no dot. -/
def isClassName (name : String) : Bool :=
  name.toList.head?.any (fun c => 'A' ≤ c && c ≤ 'Z') && !name.toList.contains '.'

/-- Whether a name is what stands at the head of a chain, if it is that of a class, or else what the
    known segments before the last come to with dots between them. No name is asked for of chains
    without a known head. -/
def goesBy (chain : Segments) : Option String → Bool
  | none => (head chain).isNone
  | some name =>
    if isClassName name then head chain == some name
    else ".".intercalate (chain.dropLast.filterMap id) == name

theorem dotted_eq_intercalate (names : List String) : dotted names = ".".intercalate names := by
  induction names with
  | nil => rfl
  | cons name rest ih =>
    cases rest with
    | nil => rw [dotted, String.intercalate_singleton]
    | cons next rest =>
      rw [String.intercalate_cons_cons, ← ih]
      rfl

theorem isPathName_eq (name : String) : isPathName name = !isClassName name := by
  have hupper : Char.isUpper = fun c => decide ('A' ≤ c) && decide (c ≤ 'Z') :=
    funext fun c => Bool.decide_and ('A' ≤ c) (c ≤ 'Z')
  rw [isPathName, isClassName, hupper, Bool.not_and, Bool.not_not, Bool.or_comm]

/-- A name that denotes a path is asked for of the path of a chain. -/
theorem goesBy_of_isPathName {name : String} (hpath : isPathName name = true) (chain : Segments) :
    goesBy chain (some name) = (path chain == name) := by
  rw [isPathName_eq, Bool.not_eq_true'] at hpath
  rw [goesBy, hpath, path, dotted_eq_intercalate]
  rfl

theorem goesBy_of_not_isPathName {name : String} (hpath : isPathName name = false)
    (chain : Segments) : goesBy chain (some name) = (head chain == some name) := by
  rw [isPathName_eq, Bool.not_eq_false'] at hpath
  rw [goesBy, hpath]
  rfl

end Chain

namespace Value

/-- Whether an option asks for a chain. A pattern is looked for in the head, and in the empty text if
    there is none that is known; a collection asks for what one of its members asks for. -/
def asksForChain : Value → Chain.Segments → Bool
  | .text name, chain => Chain.goesBy chain (some name)
  | .regex r, chain => r.foundIn ((Chain.head chain).getD "")
  | .list items, chain => items.any fun item => item.name?.any (Chain.goesBy chain)
  | .tuple items, chain => items.any fun item => item.name?.any (Chain.goesBy chain)
  | .bag _ items, chain => items.any fun item => item.name?.any (Chain.goesBy chain)
  | _, chain => Chain.goesBy chain none

theorem ofName_same_null (name : Option String) : (ofName name).same .null = name.isNone := by
  cases name <;> rfl

theorem ofName_same_text (name : Option String) (s : String) :
    (ofName name).same (.text s) = (name == some s) := by
  rw [Bool.eq_iff_iff, ofName_same_iff, beq_iff_eq]
  exact (ofName_inj (a := some s)).trans eq_comm

/-- What a member of a collection contributes: a path is compared with the path of the chain, and a
    class name or null with its head. Any other member equals neither. -/
theorem head_or_path_eq_goesBy (item : Value) (chain : Chain.Segments) :
    ((!Chain.isPathQuery item && (ofName (Chain.head chain)).same item) ||
        (ChainTest.pathText? item).any (Chain.path chain == ·)) =
      item.name?.any (Chain.goesBy chain) := by
  cases hname : item.name? with
  | none =>
    have hsame : (ofName (Chain.head chain)).same item = false := by
      refine Bool.eq_false_iff.mpr fun hsame => ?_
      rw [(ofName_same_iff _ item).mp hsame, name?_ofName] at hname
      cases hname
    have hpath : ChainTest.pathText? item = none := by
      cases item with
      | text s => cases hname
      | _ => rfl
    rw [hsame, hpath, Bool.and_false]
    rfl
  | some name =>
    rw [name?_eq_some_iff.mp hname, Option.any_some]
    cases name with
    | none =>
      rw [Chain.goesBy, ← ofName_same_null]
      simp [ofName, Chain.isPathQuery, ChainTest.pathText?]
    | some s =>
      cases hpath : Chain.isPathName s with
      | true =>
        rw [Chain.goesBy_of_isPathName hpath]
        simp [ofName, Chain.isPathQuery, ChainTest.pathText?, hpath]
      | false =>
        rw [Chain.goesBy_of_not_isPathName hpath, ← ofName_same_text]
        simp [ofName, Chain.isPathQuery, ChainTest.pathText?, hpath]

/-- Dividing members into paths and others, and asking for either, is asking for one of the names. -/
theorem accepts_anyOf (items : List Value) (chain : Chain.Segments) :
    (ChainTest.anyOf (toSet (items.filter fun item => !Chain.isPathQuery item))
        (items.filterMap ChainTest.pathText?)).accepts chain =
      items.any fun item => item.name?.any (Chain.goesBy chain) := by
  have hheads : (ofName (Chain.head chain)).isIn
      (toSet (items.filter fun item => !Chain.isPathQuery item)) =
        items.any fun item => !Chain.isPathQuery item && (ofName (Chain.head chain)).same item := by
    rw [isIn_toSet (ofName_same_iff _), isIn, List.any_filter]
  have hpaths : (items.filterMap ChainTest.pathText?).contains (Chain.path chain) =
      items.any fun item => (ChainTest.pathText? item).any (Chain.path chain == ·) := by
    rw [List.contains_eq_any_beq, List.any_filterMap]
    rfl
  rw [ChainTest.accepts, hheads, hpaths, Bool.eq_iff_iff]
  simp only [Bool.or_eq_true, List.any_eq_true]
  rw [← exists_or]
  refine exists_congr fun item => ?_
  rw [← and_or_left, ← Bool.or_eq_true, head_or_path_eq_goesBy]

/-- A collection of names and patterns stands for a test. -/
theorem exists_chainTest_of_members {v : Value} {items : List Value} (hitems : v.members? = some items)
    (hparts : ∀ item ∈ items, item.IsPart) :
    ∃ test, ChainTest.ofValue v = .ok test ∧ ∀ chain, test.accepts chain = v.asksForChain chain := by
  have hheads : toSet? (items.filter fun item => !Chain.isPathQuery item) =
      some (toSet (items.filter fun item => !Chain.isPathQuery item)) :=
    toSet?_of_parts fun item hitem => hparts item (List.mem_filter.mp hitem).1
  refine ⟨.anyOf (toSet (items.filter fun item => !Chain.isPathQuery item))
    (items.filterMap ChainTest.pathText?), ?_, fun chain => ?_⟩
  · simp only [ChainTest.ofValue, hitems, hheads]
  · rw [accepts_anyOf]
    cases v <;> cases hitems <;> rfl

/-- An option that asks for something stands for a test, which accepts the chains that the option asks
    for. -/
theorem IsRequest.exists_chainTest {v : Value} (hrequest : IsRequest v) (hgiven : v.isAbsent = false) :
    ∃ test, ChainTest.ofValue v = .ok test ∧ ∀ chain, test.accepts chain = v.asksForChain chain := by
  cases hitems : v.members? with
  | some items => exact exists_chainTest_of_members hitems (hrequest.parts_of_members hitems)
  | none =>
    cases hrequest with
    | list parts => cases hitems
    | option option =>
      cases option with
      | absent => cases hgiven
      | null => exact ⟨.head .null, rfl, fun chain => ofName_same_null _⟩
      | name s =>
        cases hpath : Chain.isPathName s with
        | true =>
          refine ⟨.path s, ?_, fun chain => (Chain.goesBy_of_isPathName hpath chain).symm⟩
          simp [ChainTest.ofValue, members?, ChainTest.pathText?, hpath]
        | false =>
          refine ⟨.head (.text s), ?_, fun chain => ?_⟩
          · simp [ChainTest.ofValue, members?, ChainTest.pathText?, hpath]
          · rw [ChainTest.accepts, ofName_same_text, asksForChain,
              Chain.goesBy_of_not_isPathName hpath]
      | regex r =>
        refine ⟨.headMatching r, rfl, fun chain => ?_⟩
        rw [ChainTest.accepts, asksForChain]
        cases Chain.head chain <;> rfl
      | list names | tuple names | bag frozen names => cases hitems

end Value

/-- An answer to a query on chains, given the live sites: those whose method and chain the options ask
    for. Without an option for the method it is empty, and one warning is all that is reported. -/
def Answer.ScansChains (live : List Site) (receiver method : Value) (answer : Answer (List Site)) :
    Prop :=
  if method.isAbsent || method.isNull then
    answer.outcome = .ok [] ∧ answer.events.map Event.level = [.warning]
  else answer = ⟨[], .ok (live.filter fun site =>
    method.asksFor (some site.call.method) && receiver.asksForChain site.call.chain)⟩

namespace Store

variable {store : Store} {live : List Site}

theorem Represents.findInChains_of_requests (hrep : store.Represents live) {receiver method : Value}
    (hreceiver : receiver.IsRequest) (hmethod : method.IsRequest) :
    (store.findInChains receiver method).ScansChains live receiver method := by
  simp only [findInChains, Answer.ScansChains, hreceiver.unwrap_eq, hmethod.unwrap_eq]
  cases hnothing : method.isAbsent || method.isNull with
  | true => exact ⟨rfl, rfl⟩
  | false =>
    obtain ⟨hgiven, _⟩ := Bool.or_eq_false_iff.mp hnothing
    obtain ⟨criterion, hcriterion, hwell, hagrees⟩ := hmethod.exists_criterion hgiven
    have htest : ∃ test,
        ChainTest.ofValue (if receiver.isAbsent = true then .null else receiver) = .ok test ∧
          ∀ chain, test.accepts chain = receiver.asksForChain chain := by
      -- Not asking for a receiver is asking for chains without a known head.
      cases habsent : receiver.isAbsent with
      | true =>
        cases receiver <;> cases habsent
        exact (Value.IsRequest.option .null).exists_chainTest rfl
      | false => exact hreceiver.exists_chainTest habsent
    obtain ⟨test, htest, haccepts⟩ := htest
    have hsites : store.withMethod criterion =
        .ok (live.filter fun site => method.asksFor (some site.call.method)) := by
      rw [hrep.withMethod_eq hwell]
      exact congrArg Except.ok (List.filter_congr fun site _ => hagrees (some site.call.method))
    simp only [hcriterion, hsites, htest, haccepts, bind, Except.bind, pure, Except.pure,
      Answer.ofExcept, List.filter_filter, Bool.and_comm, Bool.false_eq_true, if_false]

theorem Represents.findInChains_of_options (hrep : store.Represents live) {receiver method : Value}
    (hreceiver : receiver.IsOption) (hmethod : method.IsOption) :
    (store.findInChains receiver method).ScansChains live receiver method :=
  hrep.findInChains_of_requests (.option hreceiver) (.option hmethod)

/-- A query on chains, put as such or as an option of any query, finds the live sites whose method and
    chain its options ask for. They may be spelled in any way, and nested calls are always among them. -/
theorem Tracks.findInChains_eq_scan (htracks : store.Tracks live) :
    (∀ receiver method : Value, receiver.IsSpelling → method.IsSpelling →
      (store.findInChains receiver method).ScansChains live receiver.unwrap method.unwrap) ∧
    ∀ q : Query, q.chained.isVoid = false →
      q.receiver.IsSpelling → q.receivers.IsSpelling → q.method.IsSpelling → q.methods.IsSpelling →
        (store.find q).ScansChains live (Value.resolve [q.receiver, q.receivers])
          (Value.resolve [q.method, q.methods]) := by
  have hrep := htracks.represents
  constructor
  · intro receiver method hreceiver hmethod
    have hr := hreceiver.isOption_unwrap
    have hm := hmethod.isOption_unwrap
    have hscans := hrep.findInChains_of_options hr hm
    rwa [findInChains, hr.unwrap_eq, hm.unwrap_eq] at hscans
  · intro q hchained hreceiver hreceivers hmethod hmethods
    have hr : (Value.resolve [q.receiver, q.receivers]).IsOption :=
      Value.isOption_resolve (by simp [hreceiver, hreceivers])
    have hm : (Value.resolve [q.method, q.methods]).IsOption :=
      Value.isOption_resolve (by simp [hmethod, hmethods])
    have hscans := hrep.findInChains_of_options hr hm.absentIfNull
    rw [find, hchained, q.receiverOption_eq_resolve, q.methodOption_eq_resolve]
    -- A method that is null asks for as much as none.
    cases hnull : (Value.resolve [q.method, q.methods]).isNull with
    | true =>
      rw [Answer.ScansChains, Value.isNull_absentIfNull, Value.isAbsent_absentIfNull, hnull] at hscans
      rw [Answer.ScansChains, hnull]
      simpa using hscans
    | false => simpa [Value.absentIfNull, hnull] using hscans

/-- Of calls on an association of a model, on the model itself and on an unknown head, a path and null
    find the first, which is nested, and the last. -/
theorem findInChains_eq_scan_of_mixed :
    let onPath : Site :=
      ⟨0, { Call.ofChain "find" [some "User", none, some "posts", some "find"] with nested := true }⟩
    let onModel : Site := ⟨1, Call.ofChain "find" [some "User", some "find"]⟩
    let onUnknown : Site :=
      ⟨2, { Call.ofChain "find" [none, some "find"] with receiver := .expression ⟨"call", "x"⟩ }⟩
    let store := ((Step.add [onPath, onModel, onUnknown]).action.run .empty).state
    let names : Value := .list [.text "User.posts", .text "Post", .null]
    (store.findInChains names (.exact (.text "find"))).outcome = .ok [onPath, onUnknown] := by
  intro onPath onModel onUnknown store names
  have htracks : store.Tracks [onPath, onModel, onUnknown] := .step (.add _) .empty rfl
  have hnames : names.IsSpelling := .raw (.list (by decide))
  have hmethod : (Value.exact (.text "find")).IsSpelling :=
    @Value.IsSpelling.wrapped (.text "find") (.equals (.text "find")) (.name "find") rfl
  have hscans := htracks.findInChains_eq_scan.1 names _ hnames hmethod
  exact congrArg Answer.outcome hscans

end Store

end CallAudit

import CallAudit.Query.Basic
import CallAudit.Query.ChainTest
import CallAudit.Store.Lookup

/-!
# Query plans

A query is answered by looking through the buckets of one kind of key and filtering by the other. Which
kind that is depends on the shape of the options and on the sizes of collections. It changes the answer
only for expressions among the receivers asked for, which no bucket by receiver has.
-/

namespace CallAudit

inductive Plan where
  /-- Look up receivers, then filter by method if one is asked for. -/
  | receiversFirst (receivers : Criterion) (methods : Option Criterion)
  /-- Look up methods, then filter by receiver if that is restricted. -/
  | methodsFirst (methods : Criterion) (receivers : Option Criterion)
  /-- Neither option restricts the answer to anything. -/
  | unclear

namespace Plan

/-- The plan for a receiver option and a method option. Of two collections the one with fewer members is
    looked up. -/
def ofOptions (receiver method : Value) : Except Failure Plan := do
  if receiver.members?.isSome && method.members?.isSome then
    let receivers ← Criterion.ofValue receiver
    let methods ← Criterion.ofValue method
    if methods.size?.getD 0 < receivers.size?.getD 0 then
      return .methodsFirst methods (some receivers)
    else return .receiversFirst receivers (some methods)
  else if !receiver.isAbsent && !receiver.isNull then
    let receivers ← Criterion.ofValue receiver
    if method.isAbsent then return .receiversFirst receivers none
    else return .receiversFirst receivers (some (← Criterion.ofValue method))
  else if method.isAbsent then return .unclear
  else
    let methods ← Criterion.ofValue method
    return .methodsFirst methods (if receiver.isNull then some (.equals .null) else none)

def filterMethods (methods : Option Criterion) (sites : List Site) : List Site :=
  match methods with
  | none => sites
  | some methods => sites.filter fun site => methods.holds (.text site.call.method)

def filterReceivers (receivers : Option Criterion) (sites : List Site) : List Site :=
  match receivers with
  | none => sites
  | some receivers => sites.filter fun site => receivers.holds site.call.receiver.value

/-- The sites that a plan finds, in the order of addition. -/
def sites (store : Store) : Plan → Except Failure (List Site)
  | .receiversFirst receivers methods =>
    (store.withReceiver receivers).map (filterMethods methods)
  | .methodsFirst methods receivers =>
    (store.withMethod methods).map (filterReceivers receivers)
  | .unclear => .ok []

end Plan

namespace Store

/-- The options that were given, by name. -/
def givenOptions (options : List (String × Value)) : List (String × Value) :=
  options.filter fun (_, v) => !v.isAbsent

/-- Nothing is found by options that restrict nothing, and a warning tells which they were. -/
def notUnderstood (options : List (String × Value)) : Answer (List Site) :=
  ⟨[.queryNotUnderstood (givenOptions options)], .ok []⟩

/-- Finds calls by method whose chain meets the receiver option. Without that option the chain must have
    no known head. -/
def findInChains (store : Store) (receiver method : Value) : Answer (List Site) :=
  let receiver := receiver.unwrap
  let method := method.unwrap
  if method.isAbsent || method.isNull then
    notUnderstood [("target", receiver), ("method", method), ("chained", .bool true)]
  else
    .ofExcept do
      let sites ← store.withMethod (← Criterion.ofValue method)
      let test ← ChainTest.ofValue (if receiver.isAbsent then .null else receiver)
      return sites.filter fun site => test.accepts site.call.chain

/-- Leaves out the calls that are receivers of other calls, unless they are asked for. -/
def withoutNested (nested : Datum) (sites : List Site) : List Site :=
  if nested.isVoid then sites.filter fun site => !site.call.nested else sites

/-- Finds the calls that a query asks for, in the order of addition. -/
def find (store : Store) (q : Query) : Answer (List Site) :=
  let receiver := q.receiverOption
  let method := q.methodOption
  if !q.chained.isVoid then store.findInChains receiver method
  else
    match Plan.ofOptions receiver method with
    | .error failure => .ofExcept (.error failure)
    | .ok .unclear =>
      notUnderstood
        [("target", receiver), ("targets", q.receivers), ("method", method),
          ("methods", q.methods), ("chained", .ofDatum q.chained), ("nested", .ofDatum q.nested)]
    | .ok plan => .ofExcept ((plan.sites store).map (withoutNested q.nested))

end Store

end CallAudit

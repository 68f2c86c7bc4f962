import CallAudit.Store.Basic
import CallAudit.Value.Ordering

/-!
# Removing calls

A removal goes through the buckets by method and then through those by receiver. A test that fails stops
it where it is: buckets before that one are done with, the others as they were.
-/

namespace CallAudit

/-- A question put to sites, which may fail on some of them. -/
abbrev SiteTest := Site → Except Failure Bool

/-- The entries that a test does not hold of, if it fails on none. -/
def keptEntries (test : SiteTest) : List Entry → Except Failure (List Entry)
  | [] => .ok []
  | entry :: rest =>
    match test entry.site with
    | .error failure => .error failure
    | .ok removed => (keptEntries test rest).map fun kept => if removed then kept else entry :: kept

namespace Buckets

/-- The buckets after a removal, as far as it came, and the number of entries removed. No empty bucket is
    left behind. -/
def prune (test : SiteTest) : Buckets → Buckets × Except Failure Nat
  | [] => ([], .ok 0)
  | (key, entries) :: rest =>
    match keptEntries test entries with
    | .error failure => ((key, entries) :: rest, .error failure)
    | .ok kept =>
      let (pruned, removed) := prune test rest
      (if kept.isEmpty then pruned else (key, kept) :: pruned,
        removed.map (· + (entries.length - kept.length)))

end Buckets

namespace Store

/-- Removes the sites that a test holds of, and gives their number. -/
def removeWhere (test : SiteTest) : Action Store Nat := fun store =>
  match store.byMethod.prune test with
  | (byMethod, .error failure) => ⟨{ store with byMethod }, [], .error failure⟩
  | (byMethod, .ok removed) =>
    match store.byReceiver.prune test with
    | (byReceiver, .error failure) => ⟨{ store with byMethod, byReceiver }, [], .error failure⟩
    | (byReceiver, .ok _) =>
      ⟨{ store with byMethod, byReceiver, count := store.count - removed }, [], .ok removed⟩

/-- Whether a call stands in a template: in the named one, or in any if the name is null. -/
def isFromTemplate (name : Datum) (call : Call) : Bool :=
  call.place.kind == .template
    && (name.isNull || call.place.template.any fun template => (Datum.text template).same name)

/-- Removes the calls that stand in templates. -/
def removeFromTemplates (name : Datum) : Action Store Nat := do
  let removed ← removeWhere fun site => .ok (isFromTemplate name site.call)
  Action.report (.removedFromTemplates removed name)
  return removed

/-- Whether a call stands in one of the classes. -/
def isFromClass (names : List Datum) (call : Call) : Bool :=
  call.place.kind == .inClass
    && names.any fun name => (Value.ofName call.place.className).same (.ofDatum name)

/-- The names that a text or a collection of stable data gives. -/
def classNames (classes : Datum) : Except Failure (List Datum) :=
  match classes with
  | .text name => .ok [.text name]
  | classes =>
    match classes.elements? with
    | none => .error .notIterable
    | some names => if names.all Datum.isStable then .ok (Datum.distinct names) else .error .notStable

/-- Removes the calls that stand in the named classes. They are removed before the names are put in
    order for the report, which can fail. -/
def removeFromClasses (classes : Datum) : Action Store Nat := do
  let names ← Action.ofExcept (classNames classes)
  let removed ← removeWhere fun site => .ok (isFromClass names site.call)
  match Datum.sort? names with
  | none => Action.fail .notComparable
  | some sorted => do
    Action.report (.removedFromClasses removed sorted)
    return removed

end Store

end CallAudit

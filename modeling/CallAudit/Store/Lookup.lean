import CallAudit.Query.Criterion
import CallAudit.Store.Basic

/-!
# Looking up calls

A criterion chooses buckets by their keys: named ones directly, and those that a pattern matches by
going through all. The entries of the chosen buckets are merged by ordinal.
-/

namespace CallAudit

namespace Buckets

/-- The bucket of the key that a value is, if there is such a bucket. -/
def bucketOf? (buckets : Buckets) (v : Value) : Option (List Entry) := v.name?.bind fun key => buckets.lookup key

/-- The buckets whose keys meet a criterion. -/
def select (buckets : Buckets) (criterion : Criterion) : Except Failure (List (List Entry)) :=
  match criterion with
  | .equals v => if v.isStable then .ok (buckets.bucketOf? v).toList else .error .notStable
  | .oneOf vs => .ok (vs.filterMap buckets.bucketOf?)
  | .matching _ =>
    .ok ((buckets.filter fun (key, _) => criterion.holds (.ofName key)).map (·.2))

/-- The entries of several buckets in the order of addition. -/
def merge (buckets : List (List Entry)) : List Entry :=
  buckets.flatten.mergeSort fun a b => a.ordinal ≤ b.ordinal

/-- The sites under all keys that meet a criterion, in the order of addition. -/
def union (buckets : Buckets) (criterion : Criterion) : Except Failure (List Site) :=
  (buckets.select criterion).map fun selected => (merge selected).map (·.site)

/-- The sites under the key that a value is. Only a stable value can be looked for. -/
def sitesAt (buckets : Buckets) (v : Value) : Except Failure (List Site) :=
  if v.isStable then .ok (((buckets.bucketOf? v).getD []).map (·.site)) else .error .notStable

end Buckets

namespace Store

def withMethod (store : Store) (criterion : Criterion) : Except Failure (List Site) :=
  store.byMethod.union criterion

def withReceiver (store : Store) (criterion : Criterion) : Except Failure (List Site) :=
  store.byReceiver.union criterion

end Store

end CallAudit

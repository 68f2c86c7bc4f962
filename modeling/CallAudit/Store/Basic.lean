import CallAudit.Action
import CallAudit.Call.Basic

/-!
# The store of calls

The live calls, in buckets by method and in buckets by the name of the receiver. A call on an expression
has no such name and is in a bucket by method only. Each addition of a call has an ordinal, so that the
calls of several buckets can be put back into the order of addition.
-/

namespace CallAudit

/-- A call site: a call and what tells it from every other one, however alike. -/
structure Site where
  id : Nat
  call : Call
deriving Repr, Inhabited, BEq

/-- One addition of a site to a store. -/
structure Entry where
  ordinal : Nat
  site : Site
deriving Repr, Inhabited

/-- Entries under their keys, keys in the order in which they came up. -/
abbrev Buckets := List (Option String × List Entry)

namespace Buckets

def entries (buckets : Buckets) (key : Option String) : List Entry :=
  (buckets.lookup key).getD []

/-- Appends an entry to the bucket of a key, which is made if there is none. -/
def add (key : Option String) (entry : Entry) : Buckets → Buckets
  | [] => [(key, [entry])]
  | (other, entries) :: rest =>
    if other = key then (other, entries ++ [entry]) :: rest
    else (other, entries) :: add key entry rest

@[simp] theorem entries_nil (key : Option String) : entries [] key = [] := rfl

theorem entries_cons (key other : Option String) (es : List Entry) (rest : Buckets) :
    entries ((key, es) :: rest) other = if other = key then es else entries rest other := by
  by_cases h : other = key <;> simp [entries, List.lookup_cons, h, beq_eq_false_iff_ne.2]

theorem entries_add (buckets : Buckets) (key other : Option String) (entry : Entry) :
    (buckets.add key entry).entries other =
      buckets.entries other ++ if other = key then [entry] else [] := by
  induction buckets with
  | nil =>
    by_cases h : other = key <;> simp [add, entries, List.lookup_cons, h, beq_eq_false_iff_ne.2]
  | cons bucket rest ih =>
    obtain ⟨k, es⟩ := bucket
    unfold add
    by_cases hk : k = key
    · subst hk
      by_cases h : other = k <;> simp [entries_cons, h]
    · rw [if_neg hk, entries_cons, entries_cons]
      by_cases h : other = k
      · subst h
        simp [hk]
      · simpa [h] using ih

end Buckets

/-- The live calls under both kinds of key, their number, and the ordinal of the next addition. -/
structure Store where
  byMethod : Buckets
  byReceiver : Buckets
  count : Nat
  nextOrdinal : Nat
deriving Repr, Inhabited

namespace Store

def empty : Store := ⟨[], [], 0, 0⟩

/-- Adds one site under its method and, unless it is called on an expression, under its receiver. -/
def insert (store : Store) (site : Site) : Store :=
  let entry : Entry := ⟨store.nextOrdinal, site⟩
  { byMethod := store.byMethod.add (some site.call.method) entry
    byReceiver :=
      match site.call.receiver.key? with
      | some key => store.byReceiver.add key entry
      | none => store.byReceiver
    count := store.count + 1
    nextOrdinal := store.nextOrdinal + 1 }

def insertAll (store : Store) (sites : List Site) : Store := sites.foldl insert store

/-- Adds a batch of sites and reports the extent of the store. -/
def add (sites : List Site) : Action Store Unit := fun store =>
  let store := store.insertAll sites
  ⟨store, [.indexed store.count store.byMethod.length store.byReceiver.length], .ok ()⟩

end Store

end CallAudit

import CallAudit.Value.Basic

/-!
# Equality of values

Numbers are equal by value, whatever their kind. Lists and tuples are equal item by item and never to
each other, objects field by field in any order, and sets by their members. All else is equal only to
the same thing.

A collection that can change cannot be a member of a set or a key: it is not `isStable`.
-/

namespace CallAudit

/-- The items that are not the same as an item kept before. -/
def firstOfEach {α : Type} (same : α → α → Bool) (items : List α) : List α :=
  items.foldl (fun kept item => if kept.any (same item) then kept else kept ++ [item]) []

end CallAudit

namespace CallAudit.Value

mutual

def same : Value → Value → Bool
  | .null, .null => true
  | .text a, .text b => a == b
  | .moment a, .moment b => a == b
  | .list xs, .list ys => sameItems xs ys
  | .tuple xs, .tuple ys => sameItems xs ys
  | .object xs, .object ys => xs.length == ys.length && sameFields xs ys
  | .bag _ xs, .bag _ ys => xs.length == ys.length && allIn xs ys
  | .expression a, .expression b => a == b
  | .place a, .place b => a == b
  | .span a, .span b => a == b
  | .regex a, .regex b => a.source == b.source
  | .exact a, .exact b => same a b
  | .anyOf xs, .anyOf ys => xs.length == ys.length && allIn xs ys
  | .pattern a, .pattern b => a.source == b.source
  | .absent, .absent => true
  | a, b =>
    match a.magnitude?, b.magnitude? with
    | some m, some n => m.equal n
    | _, _ => false
termination_by structural v => v

def sameItems : List Value → List Value → Bool
  | [], [] => true
  | x :: xs, y :: ys => same x y && sameItems xs ys
  | _, _ => false
termination_by structural vs => vs

/-- Whether every field has one of the same name and an equal value on the other side. -/
def sameFields : List (String × Value) → List (String × Value) → Bool
  | [], _ => true
  | (name, x) :: xs, ys =>
    (match ys.lookup name with
      | some y => same x y
      | none => false) && sameFields xs ys
termination_by structural fields => fields

/-- Whether every value is equal to one on the other side. -/
def allIn : List Value → List Value → Bool
  | [], _ => true
  | x :: xs, ys => ys.any (fun y => same x y) && allIn xs ys
termination_by structural vs => vs

end

/-- Whether an equal value is among the given ones. -/
def isIn (v : Value) (values : List Value) : Bool := values.any (same v)

mutual

/-- Whether a value stays as it is, so that it can be a member of a set or a key. -/
def isStable : Value → Bool
  | .list _ => false
  | .object _ => false
  | .bag frozen _ => frozen
  | .tuple items => allStable items
  | .exact v => isStable v
  | _ => true
termination_by structural v => v

def allStable : List Value → Bool
  | [] => true
  | v :: vs => isStable v && allStable vs
termination_by structural vs => vs

end

/-- The members of the set made from some values: none twice. -/
def toSet (values : List Value) : List Value := firstOfEach same values

/-- The set made from some values, if all of them can be members. -/
def toSet? (values : List Value) : Option (List Value) :=
  if allStable values then some (toSet values) else none

theorem allStable_iff (vs : List Value) : allStable vs = true ↔ ∀ v ∈ vs, v.isStable = true := by
  induction vs with
  | nil => simp [allStable]
  | cons v vs ih => simp [allStable, ih]

@[simp] theorem isStable_ofName (name : Option String) : (ofName name).isStable = true := by
  cases name <;> rfl

/-- A name equals only itself. -/
theorem same_ofName_iff (v : Value) (name : Option String) :
    v.same (ofName name) = true ↔ v = ofName name := by
  cases name <;> cases v <;> simp [ofName, same, magnitude?]

end CallAudit.Value

namespace CallAudit.Datum

/-- Equality of plain data. -/
def same (a b : Datum) : Bool := (Value.ofDatum a).same (.ofDatum b)

def isStable (d : Datum) : Bool := (Value.ofDatum d).isStable

/-- The data without those equal to an earlier one. -/
def distinct (data : List Datum) : List Datum := firstOfEach same data

end CallAudit.Datum

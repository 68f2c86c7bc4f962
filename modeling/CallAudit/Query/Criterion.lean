import CallAudit.Failure
import CallAudit.Regex.Matcher
import CallAudit.Value.Equality

/-!
# Criteria

A criterion is built once from a query value and then put to a key, to choose what to look through, or
to a part of a call, to filter. It asks for one value, for a member of a set, or for a pattern.
-/

namespace CallAudit

inductive Criterion where
  | equals (value : Value)
  | oneOf (values : List Value)
  | matching (regex : Regex)

namespace Criterion

/-- The criterion that a query value stands for. The members of a collection must be stable. -/
def ofValue (v : Value) : Except Failure Criterion :=
  match v with
  | .exact v => .ok (.equals v)
  | .anyOf vs => .ok (.oneOf vs)
  | .pattern r => .ok (.matching r)
  | .regex r => .ok (.matching r)
  | v =>
    match v.members? with
    | some members =>
      match Value.toSet? members with
      | some set => .ok (.oneOf set)
      | none => .error .notStable
    | none => .ok (.equals v)

/-- Whether a stable value meets the criterion. -/
def holds : Criterion → Value → Bool
  | .equals v, part => part.same v
  | .oneOf vs, part => part.isIn vs
  | .matching r, part => r.foundIn part.searchedText

/-- Whether a value meets the criterion. Only a stable value can be looked for in a set. -/
def test (c : Criterion) (part : Value) : Except Failure Bool :=
  match c with
  | .oneOf _ => if part.isStable then .ok (c.holds part) else .error .notStable
  | _ => .ok (c.holds part)

/-- The number of values that a criterion made from a collection asks for. -/
def size? : Criterion → Option Nat
  | .oneOf vs => some vs.length
  | _ => none

theorem test_of_isStable {c : Criterion} {part : Value} (h : part.isStable = true) :
    c.test part = .ok (c.holds part) := by
  cases c <;> simp [test, h]

end Criterion

end CallAudit

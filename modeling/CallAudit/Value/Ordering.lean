import CallAudit.Value.Equality

/-!
# Order of plain data

Numbers are ordered by value, texts by code points, and lists by their first items that differ.
Anything else cannot be ordered, so sorting can fail.
-/

namespace CallAudit.Datum

mutual

/-- Whether a datum comes before another, if they can be ordered. -/
def before? : Datum → Datum → Option Bool
  | .text a, .text b => some (a < b)
  | .list xs, .list ys => itemsBefore? xs ys
  | a, b =>
    match a.magnitude?, b.magnitude? with
    | some m, some n => some (m.less n)
    | _, _ => none
termination_by structural d => d

def itemsBefore? : List Datum → List Datum → Option Bool
  | _, [] => some false
  | [], _ :: _ => some true
  | x :: xs, y :: ys => if x.same y then itemsBefore? xs ys else before? x y
termination_by structural ds => ds

end

def comparable (a b : Datum) : Bool := (before? a b).isSome && (before? b a).isSome

/-- Whether every two of the data can be ordered. -/
def allComparable : List Datum → Bool
  | [] => true
  | d :: ds => ds.all (comparable d) && allComparable ds

/-- The data in ascending order, equal ones in the given order. -/
def sort? (data : List Datum) : Option (List Datum) :=
  if allComparable data then some (data.mergeSort fun a b => !((before? b a).getD false)) else none

end CallAudit.Datum

namespace CallAudit

/-- Texts in ascending order of code points. -/
def sortTexts (texts : List String) : List String := texts.mergeSort fun a b => !decide (b < a)

end CallAudit

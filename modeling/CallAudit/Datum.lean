import CallAudit.Number.Double
import CallAudit.Moment

/-!
# Plain data

The data that calls and checks are made of: JSON values, and the dates and times that a checks file
may hold besides. The fields of an object keep their order.
-/

namespace CallAudit

inductive Datum where
  | null
  | bool (b : Bool)
  | int (i : Int)
  | double (d : Double)
  | text (s : String)
  | moment (m : Moment)
  | list (items : List Datum)
  | object (fields : List (String × Datum))
deriving Repr, Inhabited, BEq

namespace Datum

/-- The field of an object with the given name. -/
def field? (name : String) : Datum → Option Datum
  | .object fields => fields.lookup name
  | _ => none

def isNull : Datum → Bool
  | .null => true
  | _ => false

def text? : Datum → Option String
  | .text s => some s
  | _ => none

/-- Whether a datum counts as absent: null, false, a zero, or a text or collection without content. -/
def isVoid : Datum → Bool
  | .null => true
  | .bool b => !b
  | .int i => i == 0
  | .double d => d.isFinite && d.magnitude == 0
  | .text s => s.isEmpty
  | .moment _ => false
  | .list items => items.isEmpty
  | .object fields => fields.isEmpty

/-- What going through a datum yields: the items of a list, the characters of a text and the names of
    the fields of an object. Nothing else can be gone through. -/
def elements? : Datum → Option (List Datum)
  | .list items => some items
  | .text s => some (s.toList.map fun c => .text (String.singleton c))
  | .object fields => some (fields.map fun field => .text field.1)
  | _ => none

/-- The value of a number; true counts as one and false as zero. -/
def magnitude? : Datum → Option Magnitude
  | .bool b => some (.ofInt (if b then 1 else 0))
  | .int i => some (.ofInt i)
  | .double d => some (.ofDouble d)
  | _ => none

end Datum

/-- The fields of an object after setting one: a name that is there keeps its place. -/
def setField (fields : List (String × Datum)) (name : String) (value : Datum) :
    List (String × Datum) :=
  match fields with
  | [] => [(name, value)]
  | (other, old) :: rest =>
    if other == name then (name, value) :: rest else (other, old) :: setField rest name value

end CallAudit

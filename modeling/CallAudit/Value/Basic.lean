import CallAudit.Call.Place
import CallAudit.Datum
import CallAudit.Regex.Basic

/-!
# Values in queries

What a query may be given, and what it is compared with: plain data, parts of calls, patterns,
collections of several kinds, criteria built before, and nothing at all.
-/

namespace CallAudit

inductive Value where
  | null
  | bool (b : Bool)
  | int (i : Int)
  | double (d : Double)
  | text (s : String)
  | moment (m : Moment)
  | list (items : List Value)
  | object (fields : List (String × Value))
  | tuple (items : List Value)
  | bag (frozen : Bool) (items : List Value)
  | expression (e : Expression)
  | place (p : Place)
  | span (s : Span)
  | regex (r : Regex)
  | exact (value : Value)
  | anyOf (values : List Value)
  | pattern (r : Regex)
  | absent
deriving Inhabited

namespace Value

mutual

/-- Plain data as a value. -/
def ofDatum : Datum → Value
  | .null => .null
  | .bool b => .bool b
  | .int i => .int i
  | .double d => .double d
  | .text s => .text s
  | .moment m => .moment m
  | .list items => .list (ofData items)
  | .object fields => .object (ofFields fields)
termination_by structural d => d

def ofData : List Datum → List Value
  | [] => []
  | d :: ds => ofDatum d :: ofData ds
termination_by structural ds => ds

def ofFields : List (String × Datum) → List (String × Value)
  | [] => []
  | (name, d) :: fields => (name, ofDatum d) :: ofFields fields
termination_by structural fields => fields

end

theorem ofData_eq_map (ds : List Datum) : ofData ds = ds.map ofDatum := by
  induction ds with
  | nil => rfl
  | cons d ds ih => simp [ofData, ih]

/-- The value of a number; true counts as one and false as zero. -/
def magnitude? : Value → Option Magnitude
  | .bool b => some (.ofInt (if b then 1 else 0))
  | .int i => some (.ofInt i)
  | .double d => some (.ofDouble d)
  | _ => none

/-- The members of a collection. A criterion is none, even if it was made from one. -/
def members? : Value → Option (List Value)
  | .list items => some items
  | .tuple items => some items
  | .bag _ items => some items
  | _ => none

/-- The value that a criterion was made from; any other value is itself. -/
def unwrap : Value → Value
  | .exact v => v
  | .anyOf vs => .bag true vs
  | .pattern r => .regex r
  | v => v

/-- A name, or the lack of one. -/
def ofName : Option String → Value
  | some s => .text s
  | none => .null

/-- The name, or lack of one, that a value is. -/
def name? : Value → Option (Option String)
  | .null => some none
  | .text s => some (some s)
  | _ => none

@[simp] theorem name?_ofName (name : Option String) : (ofName name).name? = some name := by
  cases name <;> rfl

theorem name?_eq_some_iff {v : Value} {name : Option String} :
    v.name? = some name ↔ v = ofName name := by
  cases v <;> cases name <;> simp [name?, ofName]

end Value

end CallAudit

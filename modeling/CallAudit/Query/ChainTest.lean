import CallAudit.Call.Chain
import CallAudit.Query.Criterion

/-!
# Criteria on chains

A query value is put to the path of a chain if it denotes one, and else to the head of the chain. Of a
collection each member is treated so.
-/

namespace CallAudit

inductive ChainTest where
  | path (text : String)
  | head (value : Value)
  | headMatching (regex : Regex)
  | anyOf (heads : List Value) (paths : List String)

namespace ChainTest

def pathText? : Value → Option String
  | .text name => if Chain.isPathName name then some name else none
  | _ => none

/-- The test that a query value stands for. Members of a collection that are not paths must be
    stable. -/
def ofValue (v : Value) : Except Failure ChainTest :=
  match v.members? with
  | some members =>
    match Value.toSet? (members.filter fun m => !Chain.isPathQuery m) with
    | some heads => .ok (.anyOf heads (members.filterMap pathText?))
    | none => .error .notStable
  | none =>
    match v with
    | .regex r => .ok (.headMatching r)
    | v =>
      match pathText? v with
      | some text => .ok (.path text)
      | none => .ok (.head v)

def accepts (test : ChainTest) (chain : Chain.Segments) : Bool :=
  match test with
  | .path text => Chain.path chain == text
  | .head v => (Value.ofName (Chain.head chain)).same v
  | .headMatching r => r.foundIn (Value.ofName (Chain.head chain)).searchedText
  | .anyOf heads paths =>
    (Value.ofName (Chain.head chain)).isIn heads || paths.contains (Chain.path chain)

end ChainTest

end CallAudit

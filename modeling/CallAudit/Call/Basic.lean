import CallAudit.Value.Basic

/-!
# Calls

A call site as it was extracted: a method, what it is called on, the dotted chain that leads to it, where
it stands, its arguments, and whether it is itself the receiver of another call.
-/

namespace CallAudit

/-- What a call is made on. -/
inductive Receiver where
  | none
  | named (name : String)
  | expression (e : Expression)
deriving DecidableEq, Repr, Inhabited

namespace Receiver

/-- The name that calls are looked up by: that of the receiver, or none if there is no receiver. A call
    on an expression has no such key. -/
def key? : Receiver → Option (Option String)
  | .none => some Option.none
  | .named name => some (some name)
  | .expression _ => Option.none

def isExpression : Receiver → Bool
  | .expression _ => true
  | _ => false

def value : Receiver → Value
  | .none => .null
  | .named name => .text name
  | .expression e => .expression e

end Receiver

structure Call where
  method : String
  receiver : Receiver
  chain : List (Option String)
  place : Place
  args : List Datum
  nested : Bool
  span : Option Span
deriving Repr, Inhabited, BEq

namespace Call

/-- A call with only a method and a chain. -/
def ofChain (method : String) (chain : List (Option String)) : Call :=
  ⟨method, .none, chain, .unknown, [], false, none⟩

/-- The parts of a call that criteria can be put to, by name. -/
def part? (call : Call) : String → Option Value
  | "method" => some (.text call.method)
  | "target" => some call.receiver.value
  | "chain" => some (.tuple (call.chain.map Value.ofName))
  | "location" => some (.place call.place)
  | "args" => some (.tuple (call.args.map Value.ofDatum))
  | "nested" => some (.bool call.nested)
  | "src_span" => some (match call.span with | some span => .span span | none => .null)
  | _ => none

end Call

end CallAudit

import CallAudit.Number.Double

/-!
# Checking input

A check of some input either yields a value or all that is wrong with it, each fault with the path to
where it was found. Checks of several parts are put together so that the faults of all of them are kept,
in order.
-/

namespace CallAudit

/-- A step into a datum: a field or an item. -/
inductive PathStep where
  | field (name : String)
  | item (index : Nat)
deriving DecidableEq, Repr

inductive IssueKind where
  | missing
  | extraField
  | notObject
  | notText
  | notTuple
  | notList
  | notLiteral
  | notBool
  | unreadableBool
  | notInt
  | unreadableInt
  | fractionalInt
  | notFinite
  | oversizedInt
deriving DecidableEq, Repr

/-- The name under which a kind of fault is reported. -/
def IssueKind.code : IssueKind → String
  | .missing => "missing"
  | .extraField => "extra_forbidden"
  | .notObject => "model_type"
  | .notText => "string_type"
  | .notTuple => "tuple_type"
  | .notList => "list_type"
  | .notLiteral => "literal_error"
  | .notBool => "bool_type"
  | .unreadableBool => "bool_parsing"
  | .notInt => "int_type"
  | .unreadableInt => "int_parsing"
  | .fractionalInt => "int_from_float"
  | .notFinite => "finite_number"
  | .oversizedInt => "int_parsing_size"

structure Issue where
  path : List PathStep
  kind : IssueKind
deriving DecidableEq, Repr

/-- The outcome of a check. -/
inductive Checked (α : Type) where
  | valid (value : α)
  | invalid (issues : List Issue)
deriving Repr

namespace Checked

variable {α β : Type}

def fault (kind : IssueKind) : Checked α := .invalid [⟨[], kind⟩]

def map (f : α → β) : Checked α → Checked β
  | .valid a => .valid (f a)
  | .invalid issues => .invalid issues

/-- Both checks are made, whatever the outcome of the first. -/
def both (f : Checked (α → β)) (a : Checked α) : Checked β :=
  match f, a with
  | .valid f, .valid a => .valid (f a)
  | .valid _, .invalid issues => .invalid issues
  | .invalid issues, .valid _ => .invalid issues
  | .invalid issues, .invalid more => .invalid (issues ++ more)

instance : Functor Checked := ⟨map, fun a => map fun _ => a⟩

instance : Pure Checked := ⟨valid⟩

instance : Seq Checked := ⟨fun f a => both f (a ())⟩

/-- Puts a step in front of the paths of all faults. -/
def within (step : PathStep) : Checked α → Checked α
  | .valid a => .valid a
  | .invalid issues => .invalid (issues.map fun issue => { issue with path := step :: issue.path })

/-- Checks every item and keeps the faults of all of them. -/
def all (check : α → Checked β) : Nat → List α → Checked (List β)
  | _, [] => .valid []
  | index, a :: rest =>
    both (map List.cons ((check a).within (.item index))) (all check (index + 1) rest)

def toExcept : Checked α → Except (List Issue) α
  | .valid a => .ok a
  | .invalid issues => .error issues

end Checked

end CallAudit

import CallAudit.Datum
import CallAudit.Store.Basic

/-!
# Classifying arguments

A classifier tells of an argument whether it is user input, is a model, or has user input in it. A scan
puts it to the arguments of the calls in a store, given the names of the models.
-/

namespace CallAudit

/-- Something suspicious in an argument. -/
structure Finding where
  kind : String
  value : Datum
deriving Repr, Inhabited, BEq

/-- How a kind of finding is called in messages. -/
def Finding.friendlyKind (finding : Finding) : String :=
  match finding.kind with
  | "params" => "parameter value"
  | "cookies" => "cookie value"
  | "request" => "request value"
  | "model" => "model attribute"
  | kind => s!"{kind} value"

structure Classifier where
  immediateUserInput : Datum → Option Finding
  immediateModel : Datum → Option Finding
  includedUserInput : Datum → Option Finding

/-- Finds nothing in any argument. -/
def Classifier.none : Classifier :=
  ⟨fun _ => Option.none, fun _ => Option.none, fun _ => Option.none⟩

structure Scan where
  store : Store
  models : List String
  classifier : Classifier

end CallAudit

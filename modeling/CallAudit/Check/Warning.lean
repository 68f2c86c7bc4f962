import CallAudit.Call.Data
import CallAudit.Check.Classifier
import CallAudit.Value.Display

/-!
# Warnings

What a check reports of one call. How sure it is depends on the first argument in which the classifier
finds something.
-/

namespace CallAudit

inductive Confidence where
  | high
  | medium
  | low
deriving DecidableEq, Repr, Inhabited

namespace Confidence

def name : Confidence → String
  | .high => "high"
  | .medium => "medium"
  | .low => "low"

def ofName? (name : String) : Option Confidence :=
  [.high, .medium, .low].find? fun confidence => confidence.name == name

end Confidence

/-- What the arguments of a call add to a warning. -/
structure Grade where
  confidence : Confidence
  suffix : String
  userInput : Datum
deriving Repr, Inhabited

namespace Grade

/-- The grade of a call with nothing to find in its arguments. -/
def lowest : Grade := ⟨.low, "", .null⟩

/-- The grade that one argument gives, by the first test that finds something in it. -/
def ofArgument? (classifier : Classifier) (argument : Datum) : Option Grade :=
  match classifier.immediateUserInput argument with
  | some found => some ⟨.high, s!" with immediate {found.friendlyKind}", found.value⟩
  | none =>
    match (classifier.immediateModel argument).or (classifier.includedUserInput argument) with
    | some found => some ⟨.medium, s!" with {found.friendlyKind}", found.value⟩
    | none => none

/-- The first argument that gives a grade decides. -/
def ofArguments (classifier : Classifier) (arguments : List Datum) : Grade :=
  (arguments.findSome? (ofArgument? classifier)).getD lowest

end Grade

structure Warning where
  check : Datum
  symbol : Datum
  code : Datum
  message : String
  confidence : Confidence
  site : Site
  userInput : Datum
deriving Repr, Inhabited

/-- The object that a warning is written as. The source span and the user input are only there if they
    are known. -/
def Warning.toDatum (warning : Warning) : Datum :=
  let call := warning.site.call
  let span := match call.span with
    | some span =>
      [("file", .text span.path), ("line", (span.line.map Datum.int).getD .null)]
    | none => []
  let input := match warning.userInput with
    | .null => []
    | value => [("user_input", .text value.plainText)]
  .object
    ([("check", warning.check), ("warning_type", warning.check),
      ("warning_symbol", warning.symbol), ("warning_code", warning.code),
      ("message", .text warning.message), ("confidence", .text warning.confidence.name),
      ("method", .text call.method), ("location", call.place.toDatum)] ++ span ++ input)

/-- The text of a receiver in messages: a call without one is made on the object itself. -/
def Receiver.described : Receiver → String
  | .none => "self"
  | .named name => name
  | .expression e => e.source

end CallAudit

import CallAudit.Call.Basic
import CallAudit.Validation.Scalar

/-!
# Calls from plain data

A call is read from an object by the names of its fields; unknown fields are left alone.
-/

namespace CallAudit

open Checked (required optional orNull object items)

def Expression.ofDatum (d : Datum) : Checked Expression :=
  object (fun fields =>
    mk <$> required "node_type" Checked.text fields <*> optional "source" "" Checked.text fields) d

/-- A name, an object for an expression, or null. The faults of both readings are reported. -/
def Receiver.ofDatum : Datum → Checked Receiver
  | .null => .valid .none
  | .text name => .valid (.named name)
  | d =>
    match Expression.ofDatum d with
    | .valid e => .valid (.expression e)
    | .invalid issues =>
      let asExpression : Checked Receiver := .invalid issues
      Checked.both ((Checked.fault .notText).within (.field "str"))
        (asExpression.within (.field "Expr"))

def PlaceKind.ofDatum : Datum → Checked PlaceKind
  | .text "template" => .valid .template
  | .text "class" => .valid .inClass
  | .text "other" => .valid .elsewhere
  | _ => Checked.fault .notLiteral

/-- The class may be named by either of two fields; the first is taken if both are there. -/
def classField (fields : List (String × Datum)) : String :=
  if (fields.lookup "class").isSome then "class" else "class_name"

def Place.ofDatum (d : Datum) : Checked Place :=
  object (fun fields =>
    mk <$> optional "type" .elsewhere PlaceKind.ofDatum fields
      <*> optional "template" none (orNull Checked.text) fields
      <*> optional (classField fields) none (orNull Checked.text) fields) d

def Span.ofDatum (d : Datum) : Checked Span :=
  object (fun fields =>
    mk <$> required "path" Checked.text fields
      <*> optional "line" none (orNull Checked.int) fields) d

def chainOfDatum (d : Datum) : Checked (List (Option String)) :=
  items .notTuple (orNull Checked.text) d

def argsOfDatum (d : Datum) : Checked (List Datum) := items .notTuple Checked.valid d

def Call.ofDatum (d : Datum) : Checked Call :=
  object (fun fields =>
    mk <$> required "method" Checked.text fields
      <*> optional "target" .none Receiver.ofDatum fields
      <*> optional "chain" [] chainOfDatum fields
      <*> optional "location" .unknown Place.ofDatum fields
      <*> optional "args" [] argsOfDatum fields
      <*> optional "nested" false Checked.bool fields
      <*> optional "src_span" none (orNull Span.ofDatum) fields) d

end CallAudit

import CallAudit.Call.Data
import CallAudit.Validation.Scalar

/-!
# Check configurations

What a check is called, what it looks for, and how its findings are marked. A configuration that is read
has texts and an integer where it should; one that was edited afterwards may hold anything.
-/

namespace CallAudit

/-- The target that stands for every model. -/
def anyModel : String := "ANY_MODEL"

/-- Stands for all positions in place of a list of them. -/
def allArguments : String := "ALL"

structure Config where
  name : Datum
  description : Datum
  warningSymbol : Datum
  warningCode : Datum
  targets : Datum
  methods : Datum
deriving Repr, Inhabited, BEq

namespace Config

/-- The names of the fields, in order. -/
def fieldNames : List String :=
  ["name", "description", "warning_symbol", "warning_code", "targets", "methods"]

open Checked (optional orNull) in
/-- A configuration from its fields. Fields with any other name are faults. -/
def ofFields (fields : List (String × Datum)) : Checked Config :=
  let text := fun d => Checked.map Datum.ofName (orNull Checked.text d)
  let code := fun d => Checked.map (fun i => (i.map Datum.int).getD .null) (orNull Checked.int d)
  let texts := fun d =>
    Checked.map (fun ts => Datum.list (ts.map Datum.text)) (Checked.items .notList Checked.text d)
  let known := mk <$> optional "name" .null text fields
    <*> optional "description" .null text fields
    <*> optional "warning_symbol" .null text fields
    <*> optional "warning_code" .null code fields
    <*> optional "targets" (.list []) texts fields
    <*> optional "methods" .null Checked.valid fields
  let extra := (fields.map (·.1)).filter fun name => !fieldNames.contains name
  if extra.isEmpty then known
  else
    Checked.both (Checked.map (fun config _ => config) known)
      (.invalid (extra.map fun name => ⟨[.field name], .extraField⟩) : Checked Unit)

def ofDatum (d : Datum) : Checked Config := Checked.object ofFields d

def toDatum (config : Config) : Datum :=
  .object
    [("name", config.name), ("description", config.description),
      ("warning_symbol", config.warningSymbol), ("warning_code", config.warningCode),
      ("targets", config.targets), ("methods", config.methods)]

/-- The configuration with one field replaced by anything, if there is such a field. -/
def setField? (config : Config) (field : String) (value : Datum) : Option Config :=
  match field with
  | "name" => some { config with name := value }
  | "description" => some { config with description := value }
  | "warning_symbol" => some { config with warningSymbol := value }
  | "warning_code" => some { config with warningCode := value }
  | "targets" => some { config with targets := value }
  | "methods" => some { config with methods := value }
  | _ => none

end Config

end CallAudit

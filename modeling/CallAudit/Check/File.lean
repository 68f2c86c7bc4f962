import CallAudit.Action
import CallAudit.Check.Config
import CallAudit.File.Contents
import CallAudit.File.Path
import CallAudit.Toml.Document

/-!
# Files of checks

A checks file is a TOML document with a list of tables, each the configuration of a check. Without such a
file there are no checks.
-/

namespace CallAudit.Config

/-- The field of the document that lists the checks. -/
def tableName : String := "check"

/-- The configurations in some tables, the first of which has the given position. -/
def ofTables (path : String) : Nat → List Datum → Except Failure (List Config)
  | _, [] => .ok []
  | position, table :: rest =>
    match ofDatum table with
    | .valid config => (ofTables path (position + 1) rest).map (config :: ·)
    | .invalid issues => .error (.badCheck path position issues)

/-- The configurations in the bytes of a file. -/
def ofBytes (path : String) (bytes : List UInt8) : Except Failure (List Config) :=
  match Bytes.text? bytes with
  | none => .error .notUtf8
  | some text =>
    match Toml.read text with
    | .error .malformed => .error (.checksNotToml path)
    | .error .oversizedInteger => .error .badValue
    | .ok fields =>
      match (fields.lookup tableName).getD (.list []) with
      | .list tables => ofTables path 1 tables
      | _ => .error (.checksNotTables path)

/-- Loads the configurations at a path where the given view is found. -/
def load (path : String) (view : FileView) : Answer (List Config) :=
  match view with
  | .file bytes =>
    match ofBytes path bytes with
    | .ok configs => ⟨[.checksLoaded configs.length path], .ok configs⟩
    | .error failure => .ofExcept (.error failure)
  | .unreadable _ => ⟨[.checksMissing path], .ok []⟩

end CallAudit.Config

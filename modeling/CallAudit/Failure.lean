import CallAudit.Validation
import CallAudit.Value.Display

/-!
# Failures

Why an operation could not be carried out. Those with a message are reported to the user by it; the
others are faults in how the library was used.
-/

namespace CallAudit

/-- Why a file could not be opened. -/
inductive OpenError where
  | noSuchFile
  | notADirectory
  | isADirectory
deriving DecidableEq, Repr

def OpenError.text : OpenError → String
  | .noSuchFile => "[Errno 2] No such file or directory"
  | .notADirectory => "[Errno 20] Not a directory"
  | .isADirectory => "[Errno 21] Is a directory"

/-- What is wrong with a line of a calls file. -/
inductive LineFault where
  | notJson
  | notACall (issues : List Issue)
deriving DecidableEq, Repr

inductive Failure where
  /-- A check lacks an attribute that it needs. -/
  | missingAttribute (field : String)
  /-- The methods of a check are neither a list nor an object. -/
  | malformedMethods (check methods : Datum)
  /-- A check maps a method to something other than argument positions. -/
  | malformedPositions (check : Datum) (method : String) (positions : Datum)
  /-- Another check is registered under the name. -/
  | nameTaken (name : Datum)
  | callsUnreadable (path : String) (error : OpenError)
  | badLine (path : String) (line : Nat) (fault : LineFault)
  | checksNotToml (path : String)
  | checksNotTables (path : String)
  | badCheck (path : String) (position : Nat) (issues : List Issue)
  /-- Input that does not fit its type. -/
  | invalid (issues : List Issue)
  /-- A member of a set or a key that could change. -/
  | notStable
  /-- Data that cannot be ordered. -/
  | notComparable
  /-- Something that cannot be gone through. -/
  | notIterable
  /-- An integer too large to be written. -/
  | notWritable
  /-- A text that does not name one of the known choices, or that cannot be a number or a path. -/
  | badValue
  | notUtf8
  | badPattern (error : Regex.PatternError)

namespace Failure

/-- The text that a failure is reported with. What is wrong with the contents of a file is left to
    whoever shows it. -/
def message? : Failure → Option String
  | .missingAttribute field => s!"custom check is missing a {field}"
  | .malformedMethods check methods =>
    s!"custom check {check.display} has malformed methods: {methods.display}"
  | .malformedPositions check method positions =>
    s!"custom check {check.display} has malformed argument positions for {quoted method}"
      ++ s!": {positions.display}"
  | .nameTaken name => s!"check named {name.plainText} already exists"
  | .callsUnreadable path error =>
    s!"Failed to read call records from {path}: {error.text}: {quoted path}"
  | .badLine path line .notJson => s!"{path}:{line}: invalid JSON"
  | .badLine path line (.notACall _) => s!"{path}:{line}: invalid call record"
  | .checksNotToml path => s!"Invalid TOML in {path}"
  | .checksNotTables path => s!"Invalid checks file {path}: 'check' must be an array of tables"
  | .badCheck path position _ => s!"Invalid check #{position} in {path}"
  | _ => none

/-- The faults of the input that a failure is about. -/
def issues? : Failure → Option (List Issue)
  | .badLine _ _ (.notACall issues) => some issues
  | .badCheck _ _ issues => some issues
  | .invalid issues => some issues
  | _ => none

end Failure

end CallAudit

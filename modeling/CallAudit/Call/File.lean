import CallAudit.Store.Basic
import CallAudit.Call.Validation
import CallAudit.File.Contents
import CallAudit.File.Path
import CallAudit.Json.Reader

/-!
# Files of calls

A calls file has a call as a JSON object on each line; blank lines are skipped and counted. Either every
other line is a call, or the first that is none is named.
-/

namespace CallAudit.Call

/-- The call on a line that is not blank. -/
def ofLine (line : List UInt8) : Except LineFault Call :=
  match (Bytes.text? line).bind fun text => Json.read? .machine text.toList with
  | none => .error .notJson
  | some d =>
    match Call.ofDatum d with
    | .valid call => .ok call
    | .invalid issues => .error (.notACall issues)

/-- The calls on some lines, the first of which has the given number. -/
def ofLines : Nat → List (List UInt8) → Except (Nat × LineFault) (List Call)
  | _, [] => .ok []
  | number, line :: rest =>
    let content := Bytes.stripped line
    if content.isEmpty then ofLines (number + 1) rest
    else
      match ofLine content with
      | .error fault => .error (number, fault)
      | .ok call => (ofLines (number + 1) rest).map (call :: ·)

/-- The calls in the bytes of a file, or the number and fault of its first bad line. -/
def ofBytes (bytes : List UInt8) : Except (Nat × LineFault) (List Call) :=
  ofLines 1 (Bytes.lines bytes)

/-- Loads the calls at a path where the given view is found. -/
def load (path : String) (view : FileView) : Answer (List Call) :=
  if !Path.canExist path then .ofExcept (.error .badValue)
  else
    match view with
    | .unreadable error => .ofExcept (.error (.callsUnreadable path error))
    | .file bytes =>
      match ofBytes bytes with
      | .error (number, fault) => .ofExcept (.error (.badLine path number fault))
      | .ok calls => ⟨[.callsLoaded calls.length path], .ok calls⟩

end CallAudit.Call

namespace CallAudit

/-- Calls as sites, told apart by their positions. -/
def sitesOf (calls : List Call) : List Site := calls.zipIdx.map fun (call, position) => ⟨position, call⟩

end CallAudit

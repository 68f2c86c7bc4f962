import CallAudit.Value.Display

/-!
# Events

What the library reports while it works, and the line of text that reports it.
-/

namespace CallAudit

inductive Level where
  | debug
  | warning
deriving DecidableEq, Repr

def Level.name : Level → String
  | .debug => "DEBUG"
  | .warning => "WARNING"

inductive Event where
  | indexed (calls methods receivers : Nat)
  | queryNotUnderstood (options : List (String × Value))
  | removedFromTemplates (count : Nat) (template : Datum)
  | removedFromClasses (count : Nat) (classes : List Datum)
  | callsLoaded (count : Nat) (path : String)
  | checksMissing (path : String)
  | checksLoaded (count : Nat) (path : String)
  | lookingFor (check : Datum)
  | processing (count : Nat) (check : Datum)
  | registered (name : Datum)

namespace Event

def level : Event → Level
  | .queryNotUnderstood _ => .warning
  | _ => .debug

/-- The part of the library that reports an event. -/
def source : Event → String
  | .indexed .. => "index.store"
  | .queryNotUnderstood _ => "index.call_index"
  | .removedFromTemplates .. => "index.call_index"
  | .removedFromClasses .. => "index.call_index"
  | .callsLoaded .. => "records.loader"
  | .checksMissing _ => "checks.config"
  | .checksLoaded .. => "checks.config"
  | .lookingFor _ => "checks.custom"
  | .processing .. => "checks.custom"
  | .registered _ => "checks.registry"

def message : Event → String
  | .indexed calls methods receivers =>
    s!"Indexed {calls} calls ({methods} methods, {receivers} targets)"
  | .queryNotUnderstood options =>
    s!"Invalid arguments to CallIndex.find_calls: {(Value.object options).display}"
  | .removedFromTemplates count template =>
    s!"Removed {count} template calls (template={template.display})"
  | .removedFromClasses count classes =>
    s!"Removed {count} class calls (classes={(Datum.list classes).display})"
  | .callsLoaded count path => s!"Loaded {count} call records from {path}"
  | .checksMissing path => s!"No checks file at {path}"
  | .checksLoaded count path => s!"Loaded {count} check configs from {path}"
  | .lookingFor check => s!"Finding calls for {check.plainText}"
  | .processing count check => s!"Processing {count} results for {check.plainText}"
  | .registered name => s!"Registered check {name.plainText}"

def line (e : Event) : String := s!"{e.level.name} {e.source}: {e.message}"

end Event

/-- The text of some lines, each ended by a line feed. -/
def linesText (lines : List String) : String := String.join (lines.map (· ++ "\n"))

end CallAudit

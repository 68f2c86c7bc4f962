import CallAudit.Number.Style
import CallAudit.Text.Quoted
import CallAudit.Value.Basic

/-!
# Values as text

`display` writes a value as it would be written down in a program, texts in quotes. `plainText` differs
for a text, which is itself, an expression, which is its source, a moment, which is its ISO text, and
the parts of a call, which stand without a name around them.
-/

namespace CallAudit

/-- A double for people to read. -/
def Double.display (d : Double) : String :=
  if d.isFinite then String.ofList (NumberStyle.display.finiteText d)
  else if d.isNaN then "nan"
  else if d.isNegative then "-inf"
  else "inf"

def displayInt (i : Int) : String := String.ofList (integerText i)

/-- The settings of a pattern by name, in the order in which they are shown. -/
def PatternFlags.names (flags : PatternFlags) : List String :=
  [(flags.template, "re.TEMPLATE"), (flags.ignoreCase, "re.IGNORECASE"),
    (flags.multiline, "re.MULTILINE"), (flags.dotAll, "re.DOTALL"),
    (flags.verbose, "re.VERBOSE"), (flags.ascii, "re.ASCII")].filterMap
      fun (on, name) => if on then some name else none

/-- A pattern shows the first 200 characters of its quoted text and the settings made in it. -/
def Regex.display (r : Regex) : String :=
  let source := String.ofList ((Quoted.encode r.source.toList).take 200)
  let flags := r.flags.names
  let settings := if flags.isEmpty then "" else ", " ++ "|".intercalate flags
  s!"re.compile({source}{settings})"

def Expression.display (e : Expression) : String :=
  s!"Expr(node_type={quoted e.kind}, source={quoted e.source})"

def displayName : Option String → String
  | some name => quoted name
  | none => "None"

/-- A place by its parts, with the given text between them. -/
def Place.parts (between : String) (p : Place) : String :=
  between.intercalate
    [s!"type={quoted p.kind.name}", s!"template={displayName p.template}",
      s!"class_name={displayName p.className}"]

def Span.parts (between : String) (s : Span) : String :=
  between.intercalate [s!"path={quoted s.path}", s!"line={(s.line.map displayInt).getD noLine}"]
where
  noLine : String := "None"

/-- The members of a set in braces; braces around nothing would be an object. -/
def displaySet (frozen : Bool) (members : List String) : String :=
  let braced := "\x7b" ++ commaSeparated members ++ "\x7d"
  if members.isEmpty then (if frozen then "frozenset()" else "set()")
  else if frozen then s!"frozenset({braced})"
  else braced

def comma : String := ", "

namespace Value

mutual

def display : Value → String
  | .null => "None"
  | .bool b => if b then "True" else "False"
  | .int i => displayInt i
  | .double d => d.display
  | .text s => quoted s
  | .moment m => m.constructor
  | .list items => s!"[{commaSeparated (displayAll items)}]"
  | .object fields => "\x7b" ++ commaSeparated (displayFields fields) ++ "\x7d"
  | .tuple items =>
    match displayAll items with
    | [one] => s!"({one},)"
    | all => s!"({commaSeparated all})"
  | .bag frozen items => displaySet frozen (displayAll items)
  | .expression e => e.display
  | .place p => s!"Location({p.parts comma})"
  | .span s => s!"SourceSpan({s.parts comma})"
  | .regex r => r.display
  | .exact v => s!"Exact(value={display v})"
  | .anyOf vs => s!"AnyOf(values={displaySet true (displayAll vs)})"
  | .pattern r => s!"Pattern(regex={r.display})"
  | .absent => "NOT_GIVEN"
termination_by structural v => v

def displayAll : List Value → List String
  | [] => []
  | v :: vs => display v :: displayAll vs
termination_by structural vs => vs

def displayFields : List (String × Value) → List String
  | [] => []
  | (name, v) :: fields => s!"{quoted name}: {display v}" :: displayFields fields
termination_by structural fields => fields

end

/-- The text of a value on its own. -/
def plainText : Value → String
  | .text s => s
  | .expression e => e.source
  | .moment m => m.iso " "
  | .place p => p.parts " "
  | .span s => s.parts " "
  | v => v.display

/-- The text of a field that a pattern is looked for in: nothing has no text. -/
def searchedText : Value → String
  | .null => ""
  | v => v.plainText

end Value

namespace Datum

def display (d : Datum) : String := (Value.ofDatum d).display

def plainText (d : Datum) : String := (Value.ofDatum d).plainText

end Datum

end CallAudit

import CallAudit.Value.Basic

/-!
# Call chains

The chain of a call ends with its method; what comes before is the path to it. Segments that are not
known are left out of the path.
-/

namespace CallAudit.Chain

abbrev Segments := List (Option String)

/-- The first segment, if there is one and it is known. -/
def head (chain : Segments) : Option String := chain.head?.join

/-- Names joined by dots. -/
def dotted : List String → String
  | [] => ""
  | [name] => name
  | name :: names => name ++ "." ++ dotted names

/-- The known segments before the last, joined by dots. -/
def path (chain : Segments) : String := dotted (chain.dropLast.filterMap id)

/-- Whether a name denotes a path and not a class: it has a dot in it, or does not start with a capital
    letter of ASCII. -/
def isPathName (name : String) : Bool :=
  name.toList.contains '.' || !(name.toList.head?.any Char.isUpper)

/-- Whether a query value asks for a path. -/
def isPathQuery : Value → Bool
  | .text name => isPathName name
  | _ => false

end CallAudit.Chain

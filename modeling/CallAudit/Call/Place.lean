/-!
# Where a call is, and what it is made on

The place of a call, the span of its source, and an expression that serves as its receiver.
-/

namespace CallAudit

/-- An expression by its kind and its source text. -/
structure Expression where
  kind : String
  source : String
deriving DecidableEq, Repr, Inhabited

inductive PlaceKind where
  | template
  | inClass
  | elsewhere
deriving DecidableEq, Repr, Inhabited

def PlaceKind.name : PlaceKind → String
  | .template => "template"
  | .inClass => "class"
  | .elsewhere => "other"

/-- The template or class that a call stands in. Either may be named whatever the kind is. -/
structure Place where
  kind : PlaceKind
  template : Option String
  className : Option String
deriving DecidableEq, Repr, Inhabited

def Place.unknown : Place := ⟨.elsewhere, none, none⟩

/-- A file and, if known, a line in it. -/
structure Span where
  path : String
  line : Option Int
deriving DecidableEq, Repr, Inhabited

end CallAudit

import CallAudit.Datum

/-!
# Tables under construction

A document is put together statement by statement. A table that was opened by name cannot be opened
again, and nothing can be added to what was written as one value.
-/

namespace CallAudit.Toml

abbrev Fields := List (String × Datum)

abbrev Key := List String

/-- Changes the table at the end of a path, making the tables on the way that are not there. Where
    lists may be entered, the path goes on in the last table of a list. -/
def updateTable (enterLists : Bool) (change : Fields → Option Fields) :
    Key → Fields → Option Fields
  | [], fields => change fields
  | name :: path, fields =>
    match fields.lookup name with
    | none =>
      (updateTable enterLists change path []).map fun inner => setField fields name (.object inner)
    | some (.object inner) =>
      (updateTable enterLists change path inner).map fun inner =>
        setField fields name (.object inner)
    | some (.list items) =>
      match enterLists, items.getLast? with
      | true, some (.object inner) =>
        (updateTable enterLists change path inner).map fun inner =>
          setField fields name (.list (items.dropLast ++ [.object inner]))
      | _, _ => none
    | some _ => none

/-- Adds a field that is not there yet. -/
def addField (name : String) (value : Datum) (fields : Fields) : Option Fields :=
  if (fields.lookup name).isSome then none else some (setField fields name value)

/-- Adds a value under a key. -/
def addValue (enterLists : Bool) (key : Key) (value : Datum) (fields : Fields) : Option Fields :=
  match key.getLast? with
  | none => none
  | some name => updateTable enterLists (addField name value) key.dropLast fields

/-- Adds an empty table to the list with the given name, which is made if there is none. -/
def appendTable (name : String) (fields : Fields) : Option Fields :=
  match fields.lookup name with
  | none => some (setField fields name (.list [.object []]))
  | some (.list items) => some (setField fields name (.list (items ++ [.object []])))
  | some _ => none

/-- Which tables have been opened by name, which will count as opened from the next header on, and which
    values are complete. -/
structure Marks where
  opened : List Key
  pending : List Key
  complete : List Key

namespace Marks

def none : Marks := ⟨[], [], []⟩

def isOpened (marks : Marks) (key : Key) : Bool := marks.opened.contains key

/-- Whether a key is that of a complete value or leads into one. -/
def isComplete (marks : Marks) (key : Key) : Bool := marks.complete.any (·.isPrefixOf key)

def markOpened (marks : Marks) (key : Key) : Marks := { marks with opened := key :: marks.opened }

def markPending (marks : Marks) (keys : List Key) : Marks :=
  { marks with pending := keys ++ marks.pending }

/-- A list or table that was written as a value is complete. -/
def markValue (marks : Marks) (key : Key) (value : Datum) : Marks :=
  match value with
  | .list _ => { marks with complete := key :: marks.complete }
  | .object _ => { marks with complete := key :: marks.complete }
  | _ => marks

def settlePending (marks : Marks) : Marks :=
  { marks with opened := marks.pending ++ marks.opened, pending := [] }

/-- Forgets a key and all that it leads to. -/
def forget (marks : Marks) (key : Key) : Marks :=
  { marks with
    opened := marks.opened.filter fun other => !key.isPrefixOf other
    complete := marks.complete.filter fun other => !key.isPrefixOf other }

end Marks

end CallAudit.Toml

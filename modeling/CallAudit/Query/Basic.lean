import CallAudit.Value.Basic

/-!
# Queries

What a caller asks for: a receiver and a method, each in a spelling for one and in a spelling for several,
and how to treat chains and nested calls. Not asking for a receiver and asking for calls without one are
two different things.
-/

namespace CallAudit

structure Query where
  receiver : Value := .absent
  receivers : Value := .absent
  method : Value := .absent
  methods : Value := .absent
  chained : Datum := .bool false
  nested : Datum := .bool false
deriving Inhabited

namespace Value

def isAbsent : Value → Bool
  | .absent => true
  | _ => false

def isNull : Value → Bool
  | .null => true
  | _ => false

/-- Of two spellings of an option the first that asks for something; null if one was given as null, and
    nothing otherwise. -/
def pick (one several : Value) : Value :=
  if !one.isAbsent && !one.isNull then one
  else if !several.isAbsent && !several.isNull then several
  else if one.isNull || several.isNull then .null
  else .absent

/-- Null as an option that was not given. -/
def absentIfNull (v : Value) : Value := if v.isNull then .absent else v

end Value

namespace Query

def receiverOption (q : Query) : Value := (Value.pick q.receiver q.receivers).unwrap

def methodOption (q : Query) : Value := (Value.pick q.method q.methods).unwrap.absentIfNull

end Query

end CallAudit

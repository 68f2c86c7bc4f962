import CallAudit.Call.Basic

/-!
# Calls as plain data

The object that a call is written as. A field that is absent is written as null.
-/

namespace CallAudit

def Datum.ofName : Option String → Datum
  | some s => .text s
  | none => .null

def Expression.toDatum (e : Expression) : Datum :=
  .object [("node_type", .text e.kind), ("source", .text e.source)]

def Receiver.toDatum : Receiver → Datum
  | .none => .null
  | .named name => .text name
  | .expression e => e.toDatum

def Place.toDatum (p : Place) : Datum :=
  .object
    [("type", .text p.kind.name), ("template", .ofName p.template), ("class", .ofName p.className)]

def Span.toDatum (s : Span) : Datum :=
  .object [("path", .text s.path), ("line", (s.line.map Datum.int).getD .null)]

def Call.toDatum (call : Call) : Datum :=
  .object
    [("method", .text call.method),
      ("target", call.receiver.toDatum),
      ("chain", .list (call.chain.map Datum.ofName)),
      ("location", call.place.toDatum),
      ("args", .list call.args),
      ("nested", .bool call.nested),
      ("src_span", (call.span.map Span.toDatum).getD .null)]

end CallAudit

import CallAudit.Toml.Scalar
import CallAudit.Toml.Table

/-!
# TOML documents

Values, statements and documents. `Toml.read` gives the table that a document describes.
-/

namespace CallAudit.Toml

/-- The result of building a table, or the fault that it cannot be built so. -/
def built {α : Type} : Option α → Except TomlError α
  | some a => .ok a
  | none => malformed

mutual

def value : Nat → List Char → Except TomlError (Datum × List Char)
  | 0, _ => malformed
  | _, [] => malformed
  | fuel + 1, c :: rest =>
    if c == '"' || c == '\'' then
      (quotedText c rest).map fun (text, rest) => (.text (.ofList text), rest)
    else if c == '[' then (array fuel rest).map fun (items, rest) => (.list items, rest)
    else if c == '{' then
      match skipBlanks rest with
      | '}' :: rest => .ok (.object [], rest)
      | rest => (inlineTable fuel .none [] rest).map fun (fields, rest) => (.object fields, rest)
    else scalar (c :: rest)

/-- The values of a list up to its closing bracket; a comma may stand before it. -/
def array : Nat → List Char → Except TomlError (List Datum × List Char)
  | 0, _ => malformed
  | fuel + 1, s => do
    match ← skipCommentsAndLines (s.length + 1) s with
    | ']' :: rest => return ([], rest)
    | rest => do
      let (item, rest) ← value fuel rest
      match ← skipCommentsAndLines (rest.length + 1) rest with
      | ']' :: rest => return ([item], rest)
      | ',' :: rest => do
        let (items, rest) ← array fuel rest
        return (item :: items, rest)
      | _ => malformed

/-- The fields of a table on one line up to its closing brace, which no comma may precede. -/
def inlineTable : Nat → Marks → Fields → List Char → Except TomlError (Fields × List Char)
  | 0, _, _, _ => malformed
  | fuel + 1, marks, fields, s => do
    let (path, rest) ← key (s.length + 1) s
    match rest with
    | '=' :: rest => do
      let (item, rest) ← value fuel (skipBlanks rest)
      if marks.isComplete path then malformed
      let fields ← built (addValue false path item fields)
      match skipBlanks rest with
      | '}' :: rest => return (fields, rest)
      | ',' :: rest => inlineTable fuel (marks.markValue path item) fields (skipBlanks rest)
      | _ => malformed
    | _ => malformed

end

/-- What has been read of a document: its table, the marks on it, and the key of the table that the next
    fields belong to. -/
structure Document where
  fields : Fields
  marks : Marks
  header : Key

namespace Document

def empty : Document := ⟨[], .none, []⟩

/-- The header of a table, after its bracket. -/
def openTable (document : Document) (s : List Char) : Except TomlError (Document × List Char) := do
  let marks := document.marks.settlePending
  let (path, rest) ← key (s.length + 1) (skipBlanks s)
  if marks.isOpened path || marks.isComplete path then malformed
  let fields ← built (updateTable true some path document.fields)
  match rest with
  | ']' :: rest => return (⟨fields, marks.markOpened path, path⟩, rest)
  | _ => malformed

/-- The header of a table in a list, after its brackets. -/
def openListTable (document : Document) (s : List Char) : Except TomlError (Document × List Char) := do
  let marks := document.marks.settlePending
  let (path, rest) ← key (s.length + 1) (skipBlanks s)
  if marks.isComplete path then malformed
  let fields ← built
    (updateTable true (appendTable (path.getLast?.getD "")) path.dropLast document.fields)
  match rest with
  | ']' :: ']' :: rest => return (⟨fields, (marks.forget path).markOpened path, path⟩, rest)
  | _ => malformed

/-- The keys of the tables that a dotted key goes through. -/
def keysOnTheWay (header path : Key) : List Key :=
  (List.range (path.length - 1)).map fun n => header ++ path.take (n + 1)

/-- A key and its value. -/
def keyAndValue (document : Document) (s : List Char) : Except TomlError (Document × List Char) := do
  let (path, rest) ← key (s.length + 1) s
  match rest with
  | '=' :: rest => do
    let (item, rest) ← value (2 * rest.length + 2) (skipBlanks rest)
    let marks := document.marks
    let onTheWay := keysOnTheWay document.header path
    if onTheWay.any marks.isOpened then malformed
    if marks.isComplete (document.header ++ path.dropLast) then malformed
    let full := document.header ++ path
    let fields ← built (addValue true full item document.fields)
    return (⟨fields, (marks.markPending onTheWay).markValue full item, document.header⟩, rest)
  | _ => malformed

/-- One statement; a line may also be empty or hold only a comment. -/
def statement (document : Document) (s : List Char) : Except TomlError (Document × List Char) :=
  match s with
  | [] => .ok (document, [])
  | '[' :: '[' :: rest => document.openListTable rest
  | '[' :: rest => document.openTable rest
  | c :: _ =>
    if c == '\n' || c == '#' then .ok (document, s)
    else if isBareKeyChar c || c == '"' || c == '\'' then document.keyAndValue s
    else malformed

/-- Statements, each on a line of its own. -/
def statements : Nat → Document → List Char → Except TomlError Document
  | 0, _, _ => malformed
  | fuel + 1, document, s => do
    let (document, rest) ← document.statement (skipBlanks s)
    match ← skipComment (skipBlanks rest) with
    | [] => return document
    | '\n' :: rest => statements fuel document rest
    | _ => malformed

end Document

/-- A text in which a carriage return and a line feed together are only a line feed. -/
def normalizeLines : List Char → List Char
  | '\r' :: '\n' :: rest => '\n' :: normalizeLines rest
  | c :: rest => c :: normalizeLines rest
  | [] => []

/-- The table that a document describes. -/
def read (text : String) : Except TomlError Fields :=
  let s := normalizeLines text.toList
  (Document.empty.statements (s.length + 1) s).map (·.fields)

end CallAudit.Toml

import CallAudit.Datum
import CallAudit.Number.Style
import CallAudit.Number.Word

/-!
# Writing JSON

One text for each datum: no blanks, the fields of every object in the order of their names, and only the
escapes that JSON demands. Two data have the same text exactly when they differ in nothing but the
order of fields.
-/

namespace CallAudit.Json

def escapeChar (c : Char) : List Char :=
  if c == '"' then ['\\', '"']
  else if c == '\\' then ['\\', '\\']
  else if c.toNat = 8 then ['\\', 'b']
  else if c.toNat = 9 then ['\\', 't']
  else if c.toNat = 10 then ['\\', 'n']
  else if c.toNat = 12 then ['\\', 'f']
  else if c.toNat = 13 then ['\\', 'r']
  else if c.toNat < 0x20 then
    ['\\', 'u', '0', '0', Nat.digitChar (c.toNat / 16), Nat.digitChar (c.toNat % 16)]
  else [c]

def renderText (s : String) : List Char := '"' :: s.toList.flatMap escapeChar ++ ['"']

/-- A double in the fewest digits that read back. What is not finite has no JSON text. -/
def renderDouble (d : Double) : List Char :=
  if d.isFinite then NumberStyle.json.finiteText d else ['n', 'u', 'l', 'l']

/-- Texts with commas between them. -/
def joinWithCommas : List (List Char) → List Char
  | [] => []
  | [text] => text
  | text :: texts => text ++ ',' :: joinWithCommas texts

def renderField (field : String × List Char) : List Char :=
  renderText field.1 ++ ':' :: field.2

def byName (a b : String × List Char) : Bool := !decide (b.1 < a.1)

mutual

def render : Datum → List Char
  | .null => ['n', 'u', 'l', 'l']
  | .bool true => ['t', 'r', 'u', 'e']
  | .bool false => ['f', 'a', 'l', 's', 'e']
  | .int i => integerText i
  | .double d => renderDouble d
  | .text s => renderText s
  | .moment m => renderText (m.iso "T")
  | .list items => '[' :: joinWithCommas (renderAll items) ++ [']']
  | .object fields =>
    '{' :: joinWithCommas (((renderFields fields).mergeSort byName).map renderField) ++ ['}']
termination_by structural d => d

def renderAll : List Datum → List (List Char)
  | [] => []
  | d :: ds => render d :: renderAll ds
termination_by structural ds => ds

def renderFields : List (String × Datum) → List (String × List Char)
  | [] => []
  | (name, d) :: fields => (name, render d) :: renderFields fields
termination_by structural fields => fields

end

mutual

/-- Whether every integer in a datum can be written: those that fit in a word can. -/
def isWritable : Datum → Bool
  | .int i => Word.fits i
  | .list items => allWritable items
  | .object fields => fieldsWritable fields
  | _ => true
termination_by structural d => d

def allWritable : List Datum → Bool
  | [] => true
  | d :: ds => isWritable d && allWritable ds
termination_by structural ds => ds

def fieldsWritable : List (String × Datum) → Bool
  | [] => true
  | (_, d) :: fields => isWritable d && fieldsWritable fields
termination_by structural fields => fields

end

/-- The JSON text of a datum, unless an integer in it is too large. -/
def write? (d : Datum) : Option String :=
  if isWritable d then some (String.ofList (render d)) else none

/-- One line for each datum, ended by a line feed. -/
def writeLines? (data : List Datum) : Option String :=
  (data.mapM write?).map fun lines => String.join (lines.map (· ++ "\n"))

/-- What is written: how many lines, and their text. -/
structure Written where
  count : Nat
  text : String
deriving DecidableEq, Repr

/-- One more line. -/
def Written.add? (written : Written) (d : Datum) : Option Written :=
  (write? d).map fun line => ⟨written.count + 1, written.text ++ (line ++ "\n")⟩

/-- Writes a line for each datum and counts them. -/
def writeCounted? (data : List Datum) : Option Written := data.foldlM Written.add? ⟨0, ""⟩

end CallAudit.Json

import CallAudit.Datum
import CallAudit.Number.Digits
import CallAudit.Number.Word
import CallAudit.Unicode.Space
import CallAudit.Validation

/-!
# Checking single values

Texts must be texts. Truth values and integers may also be given by numbers and texts that stand for
one.
-/

namespace CallAudit.Checked

variable {α : Type}

def text : Datum → Checked String
  | .text s => .valid s
  | _ => fault .notText

/-- Null stands for the lack of a value. -/
def orNull (check : Datum → Checked α) : Datum → Checked (Option α)
  | .null => .valid none
  | d => map some (check d)

def falseTexts : List String := ["0", "off", "f", "false", "n", "no"]

def trueTexts : List String := ["1", "on", "t", "true", "y", "yes"]

def boolOfInt (fits : Bool) (i : Int) : Checked Bool :=
  if i = 0 then .valid false
  else if i = 1 then .valid true
  else if fits then fault .unreadableBool
  else fault .notBool

/-- A truth value, or a number or text for one; letters may be of either case. -/
def bool : Datum → Checked Bool
  | .bool b => .valid b
  | .int i => boolOfInt (Word.fitsSigned i) i
  | .double d =>
    match d.toInt? with
    | some i => boolOfInt (Word.sizeFits i) i
    | none => fault .notBool
  | .text s =>
    let s := s.map Char.toLower
    if falseTexts.contains s then .valid false
    else if trueTexts.contains s then .valid true
    else fault .unreadableBool
  | _ => fault .notBool

/-- The characters without the white space around them. -/
def trimmed (s : List Char) : List Char :=
  ((s.dropWhile Unicode.isWhiteSpace).reverse.dropWhile Unicode.isWhiteSpace).reverse

/-- Digits with at most single underscores between them, without the underscores. -/
def digitGroups? : List Char → Option (List Char)
  | [] => none
  | [c] => if c.isDigit then some [c] else none
  | c :: '_' :: rest => if c.isDigit then (digitGroups? rest).map (c :: ·) else none
  | c :: rest => if c.isDigit then (digitGroups? rest).map (c :: ·) else none

/-- The number of digits that an integer given by a text may have. -/
def digitLimit : Nat := 4300

/-- An integer in decimal: a sign, digits, and a point with zeros after it are read. -/
def intOfText (s : List Char) : Checked Int :=
  let body := trimmed s
  let negative := body.head? == some '-'
  let unsigned := if negative || body.head? == some '+' then body.tail else body
  let whole := unsigned.takeWhile (· != '.')
  let decimals := (unsigned.drop whole.length).tail
  match digitGroups? whole with
  | none => fault .unreadableInt
  | some digits =>
    if !decimals.all (· == '0') then fault .unreadableInt
    else if digitLimit < (digits.dropWhile (· == '0')).length then fault .oversizedInt
    else
      let size := digitsValue digits
      .valid (if negative then -(size : Int) else size)

/-- An integer, or a truth value, a number or a text for one. -/
def int : Datum → Checked Int
  | .bool b => .valid (if b then 1 else 0)
  | .int i => .valid i
  | .double d =>
    if !d.isFinite then fault .notFinite
    else
      match d.toInt? with
      | none => fault .fractionalInt
      | some i => if Word.sizeFits i then .valid i else fault .oversizedInt
  | .text s => intOfText s.toList
  | _ => fault .notInt

/-- A field that must be there. -/
def required (name : String) (check : Datum → Checked α) (fields : List (String × Datum)) :
    Checked α :=
  match fields.lookup name with
  | some d => (check d).within (.field name)
  | none => (fault .missing).within (.field name)

/-- A field that may be left out. -/
def optional (name : String) (default : α) (check : Datum → Checked α)
    (fields : List (String × Datum)) : Checked α :=
  match fields.lookup name with
  | some d => (check d).within (.field name)
  | none => .valid default

def object (check : List (String × Datum) → Checked α) : Datum → Checked α
  | .object fields => check fields
  | _ => fault .notObject

/-- A list of items that are checked one by one, or the given fault. -/
def items (kind : IssueKind) (check : Datum → Checked α) : Datum → Checked (List α)
  | .list ds => all check 0 ds
  | _ => fault kind

end CallAudit.Checked

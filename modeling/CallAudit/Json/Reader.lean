import CallAudit.Datum
import CallAudit.Number.Digits
import CallAudit.Number.Word

/-!
# Reading JSON

Strict JSON: no blanks but four, no comments, no trailing commas, no raw controls, and every escaped
surrogate in a pair. Of fields with one name the last counts, in the place of the first.
-/

namespace CallAudit.Json

/-- What becomes of numbers that a machine has no room for. -/
inductive NumberRange where
  /-- Integers of any size are kept, and numbers beyond every double become infinite. -/
  | unlimited
  /-- Integers of more than 64 bits become doubles, and numbers beyond every double are refused. -/
  | machine
deriving DecidableEq, Repr

def isBlank (c : Char) : Bool := c == ' ' || c == '\t' || c == '\n' || c == '\r'

def skipBlanks (s : List Char) : List Char := s.dropWhile isBlank

/-- Four hexadecimal digits and what follows them. -/
def fourHex? (s : List Char) : Option (Nat × List Char) :=
  let digits := s.take 4
  if digits.length = 4 && digits.all isHexDigit then some (valueInBase 16 digits, s.drop 4) else none

/-- The character escaped by a letter. -/
def escapedChar? : Char → Option Char
  | '"' => some '"'
  | '\\' => some '\\'
  | '/' => some '/'
  | 'b' => some (Char.ofNat 8)
  | 'f' => some (Char.ofNat 12)
  | 'n' => some '\n'
  | 'r' => some '\r'
  | 't' => some '\t'
  | _ => none

/-- The character of a code escape, whose code follows; a code above the first plane takes two. -/
def codeEscape? (s : List Char) : Option (Char × List Char) :=
  match fourHex? s with
  | none => none
  | some (code, rest) =>
    if code < 0xD800 || 0xE000 ≤ code then some (Char.ofNat code, rest)
    else if 0xDC00 ≤ code then none
    else
      match rest with
      | '\\' :: 'u' :: rest =>
        match fourHex? rest with
        | some (low, rest) =>
          if 0xDC00 ≤ low && low < 0xE000 then
            some (Char.ofNat (0x10000 + (code - 0xD800) * 0x400 + (low - 0xDC00)), rest)
          else none
        | none => none
      | _ => none

/-- The characters of a text up to its closing quote, and what follows. -/
def textChars? : Nat → List Char → Option (List Char × List Char)
  | 0, _ => none
  | _, [] => none
  | fuel + 1, c :: rest =>
    if c == '"' then some ([], rest)
    else if c == '\\' then
      match rest with
      | [] => none
      | letter :: rest =>
        match (if letter == 'u' then codeEscape? rest else (escapedChar? letter).map (·, rest)) with
        | some (c, rest) => (textChars? fuel rest).map fun (cs, rest) => (c :: cs, rest)
        | none => none
    else if c.toNat < 0x20 then none
    else (textChars? fuel rest).map fun (cs, rest) => (c :: cs, rest)

/-- The digits at the start of a text, at least one, and what follows. -/
def someDigits? (s : List Char) : Option (List Char × List Char) :=
  let digits := s.takeWhile Char.isDigit
  if digits.isEmpty then none else some (digits, s.drop digits.length)

/-- The digits after a point, if there is one. -/
def decimals? : List Char → Option (List Char × List Char)
  | '.' :: rest => someDigits? rest
  | rest => some ([], rest)

/-- The value of an exponent, if there is one. -/
def exponent? : List Char → Option (Option Int × List Char)
  | [] => some (none, [])
  | c :: rest =>
    if c == 'e' || c == 'E' then
      let negative := rest.head? == some '-'
      let unsigned := if negative || rest.head? == some '+' then rest.tail else rest
      (someDigits? unsigned).map fun (digits, rest) =>
        let size : Int := digitsValue digits
        (some (if negative then -size else size), rest)
    else some (none, c :: rest)

/-- An integer without decimals and exponent. -/
def integerDatum? (range : NumberRange) (i : Int) : Option Datum :=
  match range with
  | .unlimited => some (.int i)
  | .machine =>
    if Word.fits i then some (.int i)
    else
      let d := Double.ofInt i
      if d.isFinite then some (.double d) else none

def doubleDatum? (range : NumberRange) (d : Double) : Option Datum :=
  if range = .machine && !d.isFinite then none else some (.double d)

def number? (range : NumberRange) (s : List Char) : Option (Datum × List Char) :=
  let negative := s.head? == some '-'
  let unsigned := if negative then s.tail else s
  match someDigits? unsigned with
  | none => none
  | some (whole, rest) =>
    if whole.head? == some '0' && 1 < whole.length then none
    else
      match decimals? rest with
      | none => none
      | some (decimals, rest) =>
        match exponent? rest with
        | none => none
        | some (exponent, rest) =>
          let digits := digitsValue (whole ++ decimals)
          if decimals.isEmpty && exponent.isNone then
            (integerDatum? range (if negative then -(digits : Int) else digits)).map (·, rest)
          else
            let shift := exponent.getD 0 - decimals.length
            (doubleDatum? range (Double.ofDecimal negative digits shift)).map (·, rest)

/-- What follows the given word. -/
def word? : List Char → List Char → Option (List Char)
  | [], s => some s
  | c :: cs, d :: ds => if c == d then word? cs ds else none
  | _ :: _, [] => none

mutual

/-- A value at the start of a text, and what follows it. -/
def value? (range : NumberRange) : Nat → List Char → Option (Datum × List Char)
  | 0, _ => none
  | _, [] => none
  | fuel + 1, c :: rest =>
    if c == '"' then (textChars? (rest.length + 1) rest).map fun (s, rest) => (.text (.ofList s), rest)
    else if c == '[' then
      match skipBlanks rest with
      | ']' :: rest => some (.list [], rest)
      | rest => (items? range fuel rest).map fun (ds, rest) => (.list ds, rest)
    else if c == '{' then
      match skipBlanks rest with
      | '}' :: rest => some (.object [], rest)
      | rest => (fields? range fuel [] rest).map fun (fields, rest) => (.object fields, rest)
    else if c == 'n' then (word? ['u', 'l', 'l'] rest).map (.null, ·)
    else if c == 't' then (word? ['r', 'u', 'e'] rest).map (.bool true, ·)
    else if c == 'f' then (word? ['a', 'l', 's', 'e'] rest).map (.bool false, ·)
    else number? range (c :: rest)

/-- Values with commas between them up to a closing bracket. -/
def items? (range : NumberRange) : Nat → List Char → Option (List Datum × List Char)
  | 0, _ => none
  | fuel + 1, s =>
    match value? range fuel (skipBlanks s) with
    | none => none
    | some (d, rest) =>
      match skipBlanks rest with
      | ']' :: rest => some ([d], rest)
      | ',' :: rest => (items? range fuel rest).map fun (ds, rest) => (d :: ds, rest)
      | _ => none

/-- Named values with commas between them up to a closing brace, set one after the other. -/
def fields? (range : NumberRange) :
    Nat → List (String × Datum) → List Char → Option (List (String × Datum) × List Char)
  | 0, _, _ => none
  | fuel + 1, done, s =>
    match skipBlanks s with
    | '"' :: rest =>
      match textChars? (rest.length + 1) rest with
      | none => none
      | some (name, rest) =>
        match skipBlanks rest with
        | ':' :: rest =>
          match value? range fuel (skipBlanks rest) with
          | none => none
          | some (d, rest) =>
            let done := setField done (String.ofList name) d
            match skipBlanks rest with
            | '}' :: rest => some (done, rest)
            | ',' :: rest => fields? range fuel done rest
            | _ => none
        | _ => none
    | _ => none

end

/-- The datum that all of a text is, blanks around it apart. Each level of nesting and each item takes
    up a character, which bounds the depth of the recursion. -/
def read? (range : NumberRange) (s : List Char) : Option Datum :=
  match value? range (2 * s.length + 1) (skipBlanks s) with
  | some (d, rest) => if (skipBlanks rest).isEmpty then some d else none
  | none => none

end CallAudit.Json

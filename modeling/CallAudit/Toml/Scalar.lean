import CallAudit.Datum
import CallAudit.Number.Digits
import CallAudit.Toml.Text

/-!
# Numbers, dates and times in TOML
-/

namespace CallAudit.Toml

/-- Digits with single underscores between them, as far as they go, without the underscores. -/
def digitGroups (test : Char → Bool) : List Char → List Char × List Char
  | c :: '_' :: d :: rest =>
    if test c then
      if test d then
        let (more, rest) := digitGroups test (d :: rest)
        (c :: more, rest)
      else ([c], '_' :: d :: rest)
    else ([], c :: '_' :: d :: rest)
  | c :: rest =>
    if test c then
      let (more, rest) := digitGroups test rest
      (c :: more, rest)
    else ([], c :: rest)
  | [] => ([], [])

/-- The base that a letter after a zero names, and its digits. -/
def baseOfLetter? : Char → Option (Nat × (Char → Bool))
  | 'x' => some (16, isHexDigit)
  | 'o' => some (8, isOctalDigit)
  | 'b' => some (2, fun c => c == '0' || c == '1')
  | _ => none

/-- A zero, a letter for a base and digits in it. -/
def basedInteger? : List Char → Option (Nat × List Char)
  | '0' :: letter :: rest =>
    match baseOfLetter? letter with
    | none => none
    | some (base, test) =>
      let (digits, rest) := digitGroups test rest
      if digits.isEmpty then none else some (valueInBase base digits, rest)
  | _ => none

/-- The digits of a whole number: a zero has none after it. -/
def wholeDigits? : List Char → Option (List Char × List Char)
  | [] => none
  | c :: rest =>
    if c == '0' then some (['0'], rest)
    else if c.isDigit then some (digitGroups Char.isDigit (c :: rest))
    else none

/-- The digits after a point, if there is one with a digit after it. -/
def decimals (s : List Char) : List Char × List Char :=
  match s with
  | '.' :: rest =>
    let (digits, rest) := digitGroups Char.isDigit rest
    if digits.isEmpty then ([], s) else (digits, rest)
  | s => ([], s)

/-- An exponent, if there is one with a digit in it. -/
def exponent (s : List Char) : Option Int × List Char :=
  match s with
  | [] => (none, [])
  | c :: rest =>
    if c == 'e' || c == 'E' then
      let negative := rest.head? == some '-'
      let unsigned := if negative || rest.head? == some '+' then rest.tail else rest
      let (digits, rest) := digitGroups Char.isDigit unsigned
      let size : Int := digitsValue digits
      if digits.isEmpty then (none, s) else (some (if negative then -size else size), rest)
    else (none, s)

/-- The number of decimal digits that an integer may have. -/
def digitLimit : Nat := 4300

/-- A decimal number: an integer, unless it has decimals or an exponent. -/
def decimalNumber? (s : List Char) : Option (Except TomlError (Datum × List Char)) :=
  let negative := s.head? == some '-'
  let unsigned := if negative || s.head? == some '+' then s.tail else s
  match wholeDigits? unsigned with
  | none => none
  | some (whole, rest) =>
    let (fraction, rest) := decimals rest
    let (power, rest) := exponent rest
    let digits := digitsValue (whole ++ fraction)
    if fraction.isEmpty && power.isNone then
      if digitLimit < whole.length then some (.error .oversizedInteger)
      else some (.ok (.int (if negative then -(digits : Int) else digits), rest))
    else
      let shift := power.getD 0 - fraction.length
      some (.ok (.double (Double.ofDecimal negative digits shift), rest))

/-- Infinity and what is no number, with or without a sign. -/
def specialNumber? (s : List Char) : Option (Datum × List Char) :=
  let negative := s.head? == some '-'
  let unsigned := if negative || s.head? == some '+' then s.tail else s
  if startsWith ['i', 'n', 'f'] unsigned then
    some (.double (Double.infinity negative), unsigned.drop 3)
  else if startsWith ['n', 'a', 'n'] unsigned then some (.double Double.nan, unsigned.drop 3)
  else none

/-- Two digits of a number within bounds. -/
def twoDigits? (least most : Nat) : List Char → Option (Nat × List Char)
  | a :: b :: rest =>
    let value := digitsValue [a, b]
    if a.isDigit && b.isDigit && least ≤ value && value ≤ most then some (value, rest) else none
  | _ => none

/-- What follows the given character. -/
def after? (c : Char) : List Char → Option (List Char)
  | d :: rest => if d == c then some rest else none
  | [] => none

/-- The decimals of a second to the microsecond, if there are any; further ones are dropped. -/
def microseconds (s : List Char) : Nat × List Char :=
  match s with
  | '.' :: rest =>
    let digits := rest.takeWhile Char.isDigit
    let six := digits.take 6
    if digits.isEmpty then (0, s)
    else (digitsValue six * Nat.pow 10 (6 - six.length), rest.drop digits.length)
  | s => (0, s)

def timeOfDay? (s : List Char) : Option (TimeOfDay × List Char) := do
  let (hour, rest) ← twoDigits? 0 23 s
  let (minute, rest) ← twoDigits? 0 59 (← after? ':' rest)
  let (second, rest) ← twoDigits? 0 59 (← after? ':' rest)
  let (microsecond, rest) := microseconds rest
  return (⟨hour, minute, second, microsecond⟩, rest)

/-- Hours and minutes of an offset after its sign. -/
def offsetMinutes? (s : List Char) : Option (Nat × List Char) := do
  let (hour, rest) ← twoDigits? 0 23 s
  let (minute, rest) ← twoDigits? 0 59 (← after? ':' rest)
  return (hour * 60 + minute, rest)

/-- The offset after a time, if there is one. -/
def offset (s : List Char) : Option Int × List Char :=
  match s with
  | [] => (none, [])
  | c :: rest =>
    if c == 'Z' || c == 'z' then (some 0, rest)
    else if c == '+' || c == '-' then
      match offsetMinutes? rest with
      | some (minutes, rest) => (some (if c == '-' then -(minutes : Int) else minutes), rest)
      | none => (none, s)
    else (none, s)

/-- The time after a date, if there is one, with its offset. -/
def timeAfterDate? : List Char → Option ((TimeOfDay × Option Int) × List Char)
  | c :: rest =>
    if c == 'T' || c == 't' || c == ' ' then
      (timeOfDay? rest).map fun (time, rest) =>
        let (offset, rest) := offset rest
        ((time, offset), rest)
    else none
  | [] => none

/-- A date as it is written, whether or not there is such a day. -/
def date? (s : List Char) : Option (Date × List Char) := do
  let year := s.take 4
  if year.length = 4 && year.all Char.isDigit then
    let (month, rest) ← twoDigits? 1 12 (← after? '-' (s.drop 4))
    let (day, rest) ← twoDigits? 1 31 (← after? '-' rest)
    return (⟨digitsValue year, month, day⟩, rest)
  else none

/-- A date, alone or with a time. There must be such a day. -/
def dateAndTime? (s : List Char) : Option (Except TomlError (Datum × List Char)) :=
  match date? s with
  | none => none
  | some (date, rest) =>
    if !date.isValid then some malformed
    else
      match timeAfterDate? rest with
      | some ((time, offset), rest) => some (.ok (.moment (.dateTime date time offset), rest))
      | none => some (.ok (.moment (.date date), rest))

/-- What is neither a text nor a collection. Dates and times are tried before numbers, which they begin
    with. -/
def scalar (s : List Char) : Except TomlError (Datum × List Char) :=
  if startsWith ['t', 'r', 'u', 'e'] s then .ok (.bool true, s.drop 4)
  else if startsWith ['f', 'a', 'l', 's', 'e'] s then .ok (.bool false, s.drop 5)
  else
    match dateAndTime? s with
    | some read => read
    | none =>
      match timeOfDay? s with
      | some (time, rest) => .ok (.moment (.time time), rest)
      | none =>
        match basedInteger? s with
        | some (n, rest) => .ok (.int n, rest)
        | none =>
          match decimalNumber? s with
          | some read => read
          | none =>
            match specialNumber? s with
            | some read => .ok read
            | none => malformed

end CallAudit.Toml

import CallAudit.Number.Digits
import CallAudit.Regex.Width
import CallAudit.Unicode.Identifier

/-!
# Reading the text of a pattern: tokens, names and escapes

The text is cut into plain and escaped characters. What has been read so far of the groups, names and
settings is carried along.
-/

namespace CallAudit.Regex

inductive Token where
  | plain (c : Char)
  | escaped (c : Char)
deriving DecidableEq, Repr

/-- A backslash and the character after it are one token, so a pattern cannot end in a backslash. -/
def tokenize : List Char → Except PatternError (List Token)
  | [] => .ok []
  | '\\' :: rest =>
    match rest with
    | [] => .error .malformed
    | c :: rest => (tokenize rest).map (.escaped c :: ·)
  | c :: rest => (tokenize rest).map (.plain c :: ·)

def Token.text : Token → List Char
  | .plain c => [c]
  | .escaped c => ['\\', c]

/-- What remains to be read, and what is known of the pattern so far. A group has a width once it is
    closed. -/
structure Reader where
  tokens : List Token
  flags : PatternFlags := {}
  groups : List (Option Width) := []
  names : List (List Char × Nat) := []
  groupsBeforeLookbehind : Option Nat := none
  conditions : List Nat := []
  repeats : Bool := false

abbrev Parse := StateT Reader (Except PatternError)

namespace Parse

def fail {α : Type} : Parse α := throw .malformed

def require (condition : Bool) : Parse Unit := if condition then pure () else fail

def peek : Parse (Option Token) := return (← get).tokens.head?

def next : Parse (Option Token) := do
  let reader ← get
  set { reader with tokens := reader.tokens.tail }
  return reader.tokens.head?

/-- Reads the next token, of which there must be one. -/
def token : Parse Token := do
  match ← next with
  | some t => return t
  | none => fail

def accept (c : Char) : Parse Bool := do
  if (← peek) == some (.plain c) then
    let _ ← next
    return true
  else return false

def expect (c : Char) : Parse Unit := do require (← accept c)

def plainPrefix (test : Char → Bool) : Nat → List Token → List Char
  | limit + 1, .plain c :: rest => if test c then c :: plainPrefix test limit rest else []
  | _, _ => []

/-- Reads at most `limit` plain characters that pass the test. -/
def charsWhile (test : Char → Bool) (limit : Nat) : Parse (List Char) := do
  let reader ← get
  let chars := plainPrefix test limit reader.tokens
  set { reader with tokens := reader.tokens.drop chars.length }
  return chars

/-- Reads every plain character that passes the test. -/
def allCharsWhile (test : Char → Bool) : Parse (List Char) := do
  charsWhile test (← get).tokens.length

/-- Reads a text that is not empty, up to the plain character that ends it. -/
def textUntil (ending : Char) : Parse (List Char) := do
  let reader ← get
  let inside := reader.tokens.takeWhile (· != .plain ending)
  require (!inside.isEmpty && inside.length < reader.tokens.length)
  set { reader with tokens := reader.tokens.drop (inside.length + 1) }
  return inside.flatMap Token.text

/-- Skips everything up to the plain character that ends it, which must be there if `required`. -/
def skipThrough (ending : Char) (required : Bool) : Parse Unit := do
  let reader ← get
  let inside := reader.tokens.takeWhile (· != .plain ending)
  require (!required || inside.length < reader.tokens.length)
  set { reader with tokens := reader.tokens.drop (inside.length + 1) }

end Parse

/-- What an escape stands for. -/
inductive Escape where
  | code (value : Nat)
  | named (which : CharClass) (negated : Bool)
  | anchor (which : Anchor)
  | reference (index : Nat)
deriving DecidableEq, Repr

namespace Parse

/-- A character code of exactly `count` hexadecimal digits. -/
def hexCode (count : Nat) : Parse Nat := do
  let digits ← charsWhile isHexDigit count
  let value := valueInBase 16 digits
  require (digits.length == count && value ≤ 0x10FFFF)
  return value

def octalCode (digits : List Char) : Parse Nat := do
  let value := valueInBase 8 digits
  require (value ≤ 0o377)
  return value

def groupIsClosed (index : Nat) : Parse Bool := do
  return (((← get).groups[index - 1]?).getD none).isSome

/-- Within a lookbehind only groups that were closed before it may be referred to. -/
def requireVisibleInLookbehind (index : Nat) : Parse Unit := do
  match (← get).groupsBeforeLookbehind with
  | none => return ()
  | some count => do
    require (← groupIsClosed index)
    require (index ≤ count)

/-- A reference to a group, which must be closed by now. -/
def reference (index : Nat) : Parse Nat := do
  require (index ≤ (← get).groups.length && (← groupIsClosed index))
  requireVisibleInLookbehind index
  return index

end Parse

/-- The control characters that have a letter of their own. -/
def controlLetter? : Char → Option Nat
  | 'a' => some 7
  | 'f' => some 12
  | 'n' => some 10
  | 'r' => some 13
  | 't' => some 9
  | 'v' => some 11
  | _ => none

def classLetter? : Char → Option Escape
  | 'd' => some (.named .digit false)
  | 'D' => some (.named .digit true)
  | 's' => some (.named .space false)
  | 'S' => some (.named .space true)
  | 'w' => some (.named .word false)
  | 'W' => some (.named .word true)
  | _ => none

def anchorLetter? : Char → Option Escape
  | 'A' => some (.anchor .textStart)
  | 'Z' => some (.anchor .textEnd)
  | 'b' => some (.anchor .wordBoundary)
  | 'B' => some (.anchor .noWordBoundary)
  | _ => none

namespace Parse

/-- The escapes with a code in hexadecimal digits; every other character that is not a letter stands
    for itself, and no other letter may be escaped. -/
def codeEscape (c : Char) : Parse Nat :=
  match controlLetter? c with
  | some code => return code
  | none =>
    if c == 'x' then hexCode 2
    else if c == 'u' then hexCode 4
    else if c == 'U' then hexCode 8
    else if c.isAlphanum then fail
    else return c.toNat

/-- An escape within a character set. Digits are octal there, and `b` is a backspace. -/
def setEscape (c : Char) : Parse Escape := do
  if c == 'b' then return .code 8
  match classLetter? c with
  | some escape => return escape
  | none =>
    if isOctalDigit c then return .code (← octalCode (c :: (← charsWhile isOctalDigit 2)))
    else return .code (← codeEscape c)

/-- An escaped digit: an octal code if it is a zero or the first of three octal digits, else a
    reference to a group. -/
def digitEscape (c : Char) : Parse Escape := do
  if c == '0' then return .code (valueInBase 8 (← charsWhile isOctalDigit 2))
  match ← charsWhile Char.isDigit 1 with
  | [] => return .reference (← reference (digitValue c))
  | second =>
    if isOctalDigit c && second.all isOctalDigit then
      match ← charsWhile isOctalDigit 1 with
      | [] => return .reference (← reference (valueInBase 10 (c :: second)))
      | third => return .code (← octalCode (c :: second ++ third))
    else return .reference (← reference (valueInBase 10 (c :: second)))

/-- An escape outside of character sets. -/
def escape (c : Char) : Parse Escape := do
  match (anchorLetter? c).or (classLetter? c) with
  | some escape => return escape
  | none => if c.isDigit then digitEscape c else return .code (← codeEscape c)

end Parse

end CallAudit.Regex

import CallAudit.Number.Digits

/-!
# Texts and keys in TOML

Each reader takes the characters from where it starts and gives what it has read and what follows.
-/

namespace CallAudit.Toml

/-- Why a document cannot be read. -/
inductive TomlError where
  | malformed
  /-- An integer with more digits than are read. -/
  | oversizedInteger
deriving DecidableEq, Repr

def malformed {α : Type} : Except TomlError α := .error .malformed

def isBlank (c : Char) : Bool := c == ' ' || c == '\t'

def skipBlanks (s : List Char) : List Char := s.dropWhile isBlank

def skipBlanksAndLines (s : List Char) : List Char := s.dropWhile fun c => isBlank c || c == '\n'

/-- Control characters may stand nowhere, tabs and, in texts of several lines, line feeds apart. -/
def isForbidden (multiline : Bool) (c : Char) : Bool :=
  (c.toNat < 0x20 || c.toNat = 0x7F) && c != '\t' && !(multiline && c == '\n')

/-- Whether a text starts with the given characters. -/
def startsWith (start s : List Char) : Bool := start.isPrefixOf s

def escapedChar? : Char → Option Char
  | 'b' => some (Char.ofNat 8)
  | 't' => some '\t'
  | 'n' => some '\n'
  | 'f' => some (Char.ofNat 12)
  | 'r' => some '\r'
  | '"' => some '"'
  | '\\' => some '\\'
  | _ => none

/-- The character whose code has exactly `count` hexadecimal digits. -/
def codeEscape (count : Nat) (s : List Char) : Except TomlError (Char × List Char) :=
  let digits := s.take count
  let code := valueInBase 16 digits
  if digits.length = count && digits.all isHexDigit && code.isValidChar then
    .ok (Char.ofNat code, s.drop count)
  else malformed

/-- What follows an escaped end of line: blanks before it, and blanks and empty lines after it, are
    skipped. -/
def skipLineEnd (s : List Char) : Except TomlError (List Char) :=
  match skipBlanks s with
  | [] => .ok []
  | '\n' :: rest => .ok (skipBlanksAndLines rest)
  | _ => malformed

/-- What an escape stands for, after its backslash: a character, or nothing for an end of line. -/
def escape (multiline : Bool) : List Char → Except TomlError (List Char × List Char)
  | [] => malformed
  | c :: rest =>
    if multiline && (isBlank c || c == '\n') then (skipLineEnd (c :: rest)).map ([], ·)
    else if c == 'u' then (codeEscape 4 rest).map fun (c, rest) => ([c], rest)
    else if c == 'U' then (codeEscape 8 rest).map fun (c, rest) => ([c], rest)
    else
      match escapedChar? c with
      | some c => .ok ([c], rest)
      | none => malformed

/-- The characters of a text with escapes, up to its closing quote or quotes. -/
def basicChars (multiline : Bool) : Nat → List Char → Except TomlError (List Char × List Char)
  | 0, _ => malformed
  | _, [] => malformed
  | fuel + 1, c :: rest =>
    if c == '"' && !multiline then .ok ([], rest)
    else if c == '"' && startsWith ['"', '"'] rest then .ok ([], rest.drop 2)
    else if c == '\\' then do
      let (chars, rest) ← escape multiline rest
      let (more, rest) ← basicChars multiline fuel rest
      return (chars ++ more, rest)
    else if isForbidden multiline c then malformed
    else (basicChars multiline fuel rest).map fun (more, rest) => (c :: more, rest)

/-- The characters of a text without escapes, up to its closing quote or quotes. -/
def literalChars (multiline : Bool) : List Char → Except TomlError (List Char × List Char)
  | [] => malformed
  | c :: rest =>
    if c == '\'' && !multiline then .ok ([], rest)
    else if c == '\'' && startsWith ['\'', '\''] rest then .ok ([], rest.drop 2)
    else if isForbidden multiline c then malformed
    else (literalChars multiline rest).map fun (more, rest) => (c :: more, rest)

/-- Up to two more quotes right after the closing ones belong to the text. -/
def extraQuotes (quote : Char) (text rest : List Char) : List Char × List Char :=
  let extra := (rest.take 2).takeWhile (· == quote)
  (text ++ extra, rest.drop extra.length)

/-- A text in one quote or three, after the first of them. -/
def quotedText (quote : Char) (rest : List Char) : Except TomlError (List Char × List Char) :=
  let read := fun multiline s =>
    if quote == '"' then basicChars multiline (s.length + 1) s else literalChars multiline s
  if startsWith [quote, quote] rest then
    let body := rest.drop 2
    let body := if body.head? == some '\n' then body.tail else body
    (read true body).map fun (text, rest) => extraQuotes quote text rest
  else read false rest

def isBareKeyChar (c : Char) : Bool := c.isAlphanum || c == '-' || c == '_'

/-- One part of a key: bare, or a text on one line. -/
def keyPart : List Char → Except TomlError (String × List Char)
  | [] => malformed
  | c :: rest =>
    if isBareKeyChar c then
      let part := (c :: rest).takeWhile isBareKeyChar
      .ok (String.ofList part, (c :: rest).drop part.length)
    else if c == '"' then
      (basicChars false (rest.length + 1) rest).map fun (text, rest) => (String.ofList text, rest)
    else if c == '\'' then
      (literalChars false rest).map fun (text, rest) => (String.ofList text, rest)
    else malformed

/-- A key: parts with dots between them, and blanks around those. -/
def key : Nat → List Char → Except TomlError (List String × List Char)
  | 0, _ => malformed
  | fuel + 1, s => do
    let (part, rest) ← keyPart s
    match skipBlanks rest with
    | '.' :: rest => do
      let (parts, rest) ← key fuel (skipBlanks rest)
      return (part :: parts, rest)
    | rest => return ([part], rest)

/-- What follows a comment, if there is one. -/
def skipComment (s : List Char) : Except TomlError (List Char) :=
  match s with
  | '#' :: rest =>
    let comment := rest.takeWhile (· != '\n')
    if comment.any (isForbidden false) then malformed else .ok (rest.drop comment.length)
  | s => .ok s

/-- What follows any blanks, line ends and comments. -/
def skipCommentsAndLines : Nat → List Char → Except TomlError (List Char)
  | 0, s => .ok s
  | fuel + 1, s =>
    match skipBlanksAndLines s with
    | '#' :: rest => do skipCommentsAndLines fuel (← skipComment ('#' :: rest))
    | rest => .ok rest

end CallAudit.Toml

import CallAudit.Regex.Basic
import CallAudit.Unicode.Word
import CallAudit.Unicode.DecimalDigit
import CallAudit.Unicode.Space
import CallAudit.Unicode.Case

/-!
# Finding a pattern in a text

Matching tries the alternatives of a term in order and passes every position that the term can end
at to what follows it; the first one with which all of the rest succeeds is the match.
-/

namespace CallAudit.Regex

/-- A position in a text with the texts of the groups that have matched, latest first. -/
structure Cursor where
  before : List Char
  after : List Char
  captures : List (Nat × List Char)
deriving Repr

namespace Cursor

def start (text : List Char) : Cursor := ⟨[], text, []⟩

def position (c : Cursor) : Nat := c.before.length

def advance? (c : Cursor) : Option (Char × Cursor) :=
  match c.after with
  | [] => none
  | next :: rest => some (next, { c with before := next :: c.before, after := rest })

/-- The cursor `count` characters earlier. -/
def retreat? (c : Cursor) : Nat → Option Cursor
  | 0 => some c
  | count + 1 =>
    match c.before with
    | [] => none
    | previous :: rest =>
      retreat? { c with before := rest, after := previous :: c.after } count

/-- The text from an earlier position on. -/
def textSince (c : Cursor) (position : Nat) : List Char :=
  (c.before.take (c.position - position)).reverse

def captured? (c : Cursor) (index : Nat) : Option (List Char) := c.captures.lookup index

end Cursor

def CharClass.has (ascii : Bool) : CharClass → Char → Bool
  | .digit, c => if ascii then c.isDigit else Unicode.isDecimalDigit c
  | .space, c =>
    if ascii then Unicode.isWhiteSpace c && c.toNat < 0x80 else Unicode.isSpace c
  | .word, c => if ascii then c == '_' || c.isAlphanum else Unicode.isWord c

/-- Whether a set item has one of the given variants of a character. -/
def SetItem.has (flags : PatternFlags) (c : Char) (variants : List Nat) : SetItem → Bool
  | .single code => variants.contains code
  | .range first last => variants.any fun code => first ≤ code && code ≤ last
  | .named which negated => which.has flags.ascii c != negated

def variants (flags : PatternFlags) (c : Char) : List Nat :=
  if !flags.ignoreCase then [c.toNat]
  else if flags.ascii then Unicode.asciiCaseVariants c
  else Unicode.caseVariants c

def setHas (flags : PatternFlags) (negated : Bool) (items : List SetItem) (c : Char) : Bool :=
  items.any (·.has flags c (variants flags c)) != negated

/-- A boundary lies between a word character and another, or between one and an end of the text. -/
def atWordBoundary (flags : PatternFlags) (c : Cursor) : Bool :=
  let isWord := fun o => (Option.map (CharClass.word.has flags.ascii) o).getD false
  isWord c.before.head? != isWord c.after.head?

def Anchor.holds (flags : PatternFlags) (c : Cursor) : Anchor → Bool
  | .textStart => c.before.isEmpty
  | .textEnd => c.after.isEmpty
  | .lineStart => c.before.isEmpty || (flags.multiline && c.before.head? == some '\n')
  | .lineEnd =>
    c.after.isEmpty || c.after == ['\n'] || (flags.multiline && c.after.head? == some '\n')
  | .wordBoundary => !(c.before.isEmpty && c.after.isEmpty) && atWordBoundary flags c
  | .noWordBoundary => !(c.before.isEmpty && c.after.isEmpty) && !atWordBoundary flags c

/-- The rest of a text after a literal text, letters compared up to case if the flags say so. -/
def skipText? (flags : PatternFlags) (c : Cursor) : List Char → Option Cursor
  | [] => some c
  | wanted :: more =>
    match c.advance? with
    | none => none
    | some (next, c) =>
      let same :=
        if !flags.ignoreCase then wanted == next
        else if flags.ascii then wanted.toLower == next.toLower
        else Unicode.lower wanted == Unicode.lower next
      if same then skipText? flags c more else none

/-- What is left to match after a term. -/
abbrev Rest := Cursor → Option Cursor

/-- Repeats `step`, as often as it can at first. Beyond the least count, a repetition that ended where
    it began is the last one. -/
def repeatGreedy (step : Cursor → Rest → Option Cursor) (low : Nat) (high : Option Nat)
    (rest : Rest) : Nat → Nat → Option Nat → Cursor → Option Cursor
  | 0, _, _, c => rest c
  | fuel + 1, count, last, c =>
    if count < low then step c (repeatGreedy step low high rest fuel (count + 1) last)
    else if (high.all (count < ·)) && last != some c.position then
      match step c (repeatGreedy step low high rest fuel (count + 1) (some c.position)) with
      | some done => some done
      | none => rest c
    else rest c

/-- Repeats `step`, as rarely as it can at first. -/
def repeatLazy (step : Cursor → Rest → Option Cursor) (low : Nat) (high : Option Nat)
    (rest : Rest) : Nat → Nat → Option Nat → Cursor → Option Cursor
  | 0, _, _, c => rest c
  | fuel + 1, count, last, c =>
    if count < low then step c (repeatLazy step low high rest fuel (count + 1) last)
    else
      match rest c with
      | some done => some done
      | none =>
        if (high.all (count < ·)) && last != some c.position then
          step c (repeatLazy step low high rest fuel (count + 1) (some c.position))
        else none

/-- Repeats `step`, each time in the first way it can, and gives none of the repetitions back. -/
def repeatPossessive (step : Cursor → Rest → Option Cursor) (low : Nat) (high : Option Nat) :
    Nat → Nat → Cursor → Option Cursor
  | 0, _, c => some c
  | fuel + 1, count, c =>
    if count < low then
      match step c some with
      | some next => repeatPossessive step low high fuel (count + 1) next
      | none => none
    else if high.all (count < ·) then
      match step c some with
      | some next =>
        if next.position = c.position then some next
        else repeatPossessive step low high fuel (count + 1) next
      | none => some c
    else some c

/-- Bounds the repetitions from a cursor on: past the least count each but the last takes up text. -/
def repetitionBound (low : Nat) (c : Cursor) : Nat := low + c.after.length + 2

mutual

/-- Matches a term at a cursor, then what is left. -/
def Term.run (flags : PatternFlags) : Term → Cursor → Rest → Option Cursor
  | .any, c, rest =>
    match c.advance? with
    | some (next, c) => if flags.dotAll || next != '\n' then rest c else none
    | none => none
  | .set negated items, c, rest =>
    match c.advance? with
    | some (next, c) => if setHas flags negated items next then rest c else none
    | none => none
  | .anchor which, c, rest => if which.holds flags c then rest c else none
  | .sequence parts, c, rest => runAll flags parts c rest
  | .choice branches, c, rest => runAny flags branches c rest
  | .group none on off body, c, rest => body.run (flags.within on off) c rest
  | .group (some index) on off body, c, rest =>
    body.run (flags.within on off) c fun ended =>
      rest { ended with captures := (index, ended.textSince c.position) :: ended.captures }
  | .atomic body, c, rest =>
    match body.run flags c some with
    | some ended => rest ended
    | none => none
  | .repeated low high .greedy body, c, rest =>
    repeatGreedy (body.run flags) low high rest (repetitionBound low c) 0 none c
  | .repeated low high .lazy body, c, rest =>
    repeatLazy (body.run flags) low high rest (repetitionBound low c) 0 none c
  | .repeated low high .possessive body, c, rest =>
    match repeatPossessive (body.run flags) low high (repetitionBound low c) 0 c with
    | some ended => rest ended
    | none => none
  | .ahead negated body, c, rest =>
    match body.run flags c some, negated with
    | some ended, false => rest { c with captures := ended.captures }
    | none, true => rest c
    | _, _ => none
  | .behind width negated body, c, rest =>
    match (c.retreat? width).bind fun earlier => body.run flags earlier some, negated with
    | some ended, false => rest { c with captures := ended.captures }
    | none, true => rest c
    | _, _ => none
  | .reference index, c, rest =>
    match c.captured? index with
    | some text => (skipText? flags c text).bind rest
    | none => none
  | .conditional index yes no, c, rest =>
    if (c.captured? index).isSome then yes.run flags c rest else no.run flags c rest
termination_by structural t => t

def runAll (flags : PatternFlags) : List Term → Cursor → Rest → Option Cursor
  | [], c, rest => rest c
  | part :: parts, c, rest => part.run flags c fun ended => runAll flags parts ended rest
termination_by structural ts => ts

def runAny (flags : PatternFlags) : List Term → Cursor → Rest → Option Cursor
  | [], _, _ => none
  | branch :: branches, c, rest =>
    match branch.run flags c rest with
    | some done => some done
    | none => runAny flags branches c rest
termination_by structural ts => ts

end

/-- Whether a match starts at one of the positions from `before` on. -/
def foundFrom (flags : PatternFlags) (body : Term) (before : List Char) : List Char → Bool
  | [] => (body.run flags ⟨before, [], []⟩ some).isSome
  | c :: rest =>
    (body.run flags ⟨before, c :: rest, []⟩ some).isSome
      || foundFrom flags body (c :: before) rest

end Regex

/-- Whether the pattern matches anywhere in a text. -/
def Regex.foundIn (regex : Regex) (text : String) : Bool :=
  Regex.foundFrom regex.flags regex.body [] text.toList

end CallAudit

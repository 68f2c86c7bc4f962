import CallAudit.Regex.Reader

/-!
# Reading a pattern

A pattern is a choice of sequences; a sequence is read item by item, and a repetition takes the item
before it. `Regex.parse` accepts a text exactly when all of it is read so.
-/

namespace CallAudit.Regex

/-- One setting by its letter. -/
def flagOfLetter? : Char → Option PatternFlags
  | 'i' => some { ignoreCase := true }
  | 'm' => some { multiline := true }
  | 's' => some { dotAll := true }
  | 'x' => some { verbose := true }
  | 'a' => some { ascii := true }
  | 't' => some { template := true }
  | 'u' => some { unicode := true }
  | _ => none

def isVerboseBlank (c : Char) : Bool :=
  c == ' ' || c == '\t' || c == '\n' || c == '\r' || c == '\x0b' || c == '\x0c'

/-- The counts of a repetition can be no larger than this. -/
def countLimit : Nat := 0xFFFFFFFF

/-- A whole number as the condition of a group: blanks around it, a sign and single underscores between
    digits are allowed. -/
def groupNumber? (text : List Char) : Option Nat :=
  let text := (text.dropWhile isVerboseBlank).reverse.dropWhile isVerboseBlank |>.reverse
  let digits := if text.head? == some '+' then text.tail else text
  let rec underscoresApart : Bool → List Char → Bool
    | afterDigit, [] => afterDigit
    | afterDigit, c :: rest =>
      if c == '_' then afterDigit && underscoresApart false rest
      else c.isDigit && underscoresApart true rest
  if underscoresApart false digits then some (valueInBase 10 (digits.filter (· != '_'))) else none

namespace Parse

def plainSetItem (t : Token) : Parse Escape :=
  match t with
  | .plain c => return .code c.toNat
  | .escaped c => setEscape c

def setItemOf : Escape → Parse SetItem
  | .code value => return .single value
  | .named which negated => return .named which negated
  | _ => fail

/-- The members of a character set up to its closing bracket, which as the first member stands for
    itself. -/
def setItems : Nat → List SetItem → Parse (List SetItem)
  | 0, _ => fail
  | fuel + 1, done => do
    let first ← token
    if first == .plain ']' && !done.isEmpty then return done.reverse
    let low ← plainSetItem first
    if !(← accept '-') then setItems fuel ((← setItemOf low) :: done)
    else
      let last ← token
      if last == .plain ']' then return (.single '-'.toNat :: (← setItemOf low) :: done).reverse
      match low, ← plainSetItem last with
      | .code a, .code b => do
        require (a ≤ b)
        setItems fuel (.range a b :: done)
      | _, _ => fail

def characterSet : Parse Term := do
  let negated ← accept '^'
  return .set negated (← setItems ((← get).tokens.length + 1) [])

def countOf (digits : List Char) : Parse (Option Nat) :=
  if digits.isEmpty then return none
  else if countLimit ≤ valueInBase 10 digits then throw .countTooLarge
  else return some (valueInBase 10 digits)

/-- The counts between braces. Anything else after an opening brace leaves it a plain character. -/
def bracedCounts? : Parse (Option (Nat × Option Nat)) := do
  let start ← get
  if (← peek) == some (.plain '}') then return none
  let lowDigits ← allCharsWhile Char.isDigit
  let range ← accept ','
  let highDigits ← if range then allCharsWhile Char.isDigit else pure lowDigits
  if !(← accept '}') then
    set start
    return none
  let low ← countOf lowDigits
  let high ← countOf highDigits
  require (high.all (low.getD 0 ≤ ·))
  return some (low.getD 0, high)

/-- The counts that a repetition sign stands for. -/
def counts? (sign : Char) : Parse (Option (Nat × Option Nat)) :=
  match sign with
  | '?' => return some (0, some 1)
  | '*' => return some (0, none)
  | '+' => return some (1, none)
  | _ => bracedCounts?

/-- Repeats the item before the sign, which must be neither an anchor nor a repetition. -/
def repetition (low : Nat) (high : Option Nat) (done : List Term) : Parse (List Term) := do
  match done with
  | [] => fail
  | .anchor _ :: _ => fail
  | .repeated _ _ _ _ :: _ => fail
  | item :: before => do
    let lazy ← accept '?'
    let possessive ← if lazy then pure false else accept '+'
    modify fun reader => { reader with repeats := true }
    let manner := if lazy then .lazy else if possessive then .possessive else .greedy
    return .repeated low high manner item :: before

def openGroup (name : Option (List Char)) : Parse Nat := do
  let reader ← get
  let index := reader.groups.length + 1
  match name with
  | some name => do
    require ((reader.names.lookup name).isNone)
    set { reader with groups := reader.groups ++ [none], names := (name, index) :: reader.names }
  | none => set { reader with groups := reader.groups ++ [none] }
  return index

def closeGroup (index : Nat) (body : Term) : Parse Unit :=
  modify fun reader =>
    { reader with groups := reader.groups.set (index - 1) (some (body.width reader.groups)) }

def groupName (ending : Char) : Parse (List Char) := do
  let name ← textUntil ending
  require (Unicode.isIdentifier name)
  return name

/-- A run of setting letters. The character repertoires exclude each other. -/
def flagLetters : Parse PatternFlags := do
  let letters ← allCharsWhile fun c => (flagOfLetter? c).isSome
  let flags := (letters.filterMap flagOfLetter?).foldl PatternFlags.union {}
  require (!(flags.ascii && flags.unicode))
  return flags

/-- What the settings after an opening `(?` apply to. -/
inductive FlagScope where
  | everywhere
  | group (on off : PatternFlags)

/-- Reads settings: turned on for the whole pattern, or on and off for one group. A repertoire cannot
    be turned off. -/
def flagScope : Parse FlagScope := do
  let on ← flagLetters
  match ← token with
  | .plain ')' => do
    modify fun reader => { reader with flags := reader.flags.union on }
    return .everywhere
  | .plain ':' => do
    require (!on.template)
    return .group on {}
  | .plain '-' => do
    require ((← peek) != some (.plain ':'))
    let off ← flagLetters
    expect ':'
    require (!on.template && !off.template && !off.ascii && !off.unicode && !on.overlaps off)
    return .group on off
  | _ => fail

/-- The group that a condition names or numbers. A number may be that of a later group, so whether
    there is one is settled at the end. -/
def condition : Parse Nat := do
  let name ← textUntil ')'
  let index ←
    if Unicode.isIdentifier name then
      match (← get).names.lookup name with
      | some index => pure index
      | none => fail
    else
      match groupNumber? name with
      | some index => do
        require (index != 0)
        modify fun reader => { reader with conditions := index :: reader.conditions }
        pure index
      | none => fail
  requireVisibleInLookbehind index
  return index

/-- What an opening parenthesis begins, once its own signs are read. -/
inductive Opening where
  | group (index : Option Nat) (on off : PatternFlags)
  | atomic
  | ahead (negated : Bool)
  | behind (negated : Bool)
  | conditional (index : Nat)
  | finished (term : Term)
  | nothing
  | settings

def extensionOpening : Parse Opening := do
  if ← accept '<' then
    let name ← groupName '>'
    return .group (some (← openGroup name)) {} {}
  expect '='
  let name ← groupName ')'
  match (← get).names.lookup name with
  | some index => return .finished (.reference (← reference index))
  | none => fail

def questionOpening : Parse Opening := do
  match ← peek with
  | some (.plain c) =>
    if (flagOfLetter? c).isSome || c == '-' then
      match ← flagScope with
      | .everywhere => return .settings
      | .group on off => return .group none on off
    let _ ← next
    match c with
    | 'P' => extensionOpening
    | ':' => return .group none {} {}
    | '#' => do
      skipThrough ')' true
      return .nothing
    | '=' => return .ahead false
    | '!' => return .ahead true
    | '<' => do
      if ← accept '=' then return .behind false
      expect '!'
      return .behind true
    | '(' => return .conditional (← condition)
    | '>' => return .atomic
    | _ => fail
  | _ => fail

def opening : Parse Opening := do
  if ← accept '?' then questionOpening else return .group (some (← openGroup none)) {} {}

def escapeTerm (c : Char) : Parse Term := do
  match ← escape c with
  | .code value => return .char value
  | .named which negated => return .set false [.named which negated]
  | .anchor which => return .anchor which
  | .reference index => return .reference index

mutual

/-- Reads sequences separated by bars. A setting for the whole pattern can only start the first. -/
def choice : Nat → Bool → Bool → List Term → Parse Term
  | 0, _, _, _ => fail
  | fuel + 1, verbose, nested, done => do
    let term ← sequence fuel verbose (!nested && done.isEmpty) []
    if ← accept '|' then
      let verbose ← if nested then pure verbose else pure (← get).flags.verbose
      choice fuel verbose nested (term :: done)
    else
      match done with
      | [] => return term
      | _ => return .choice (term :: done).reverse

/-- Reads items up to a bar, a closing parenthesis or the end. -/
def sequence : Nat → Bool → Bool → List Term → Parse Term
  | 0, _, _, _ => fail
  | fuel + 1, verbose, first, done => do
    match ← peek with
    | none => return .sequence done.reverse
    | some (.plain '|') => return .sequence done.reverse
    | some (.plain ')') => return .sequence done.reverse
    | some (.escaped c) => do
      let _ ← next
      sequence fuel verbose first ((← escapeTerm c) :: done)
    | some (.plain c) => do
      let _ ← next
      if verbose && isVerboseBlank c then sequence fuel verbose first done
      else if verbose && c == '#' then do
        skipThrough '\n' false
        sequence fuel verbose first done
      else
        match c with
        | '[' => sequence fuel verbose first ((← characterSet) :: done)
        | '.' => sequence fuel verbose first (.any :: done)
        | '^' => sequence fuel verbose first (.anchor .lineStart :: done)
        | '$' => sequence fuel verbose first (.anchor .lineEnd :: done)
        | '(' => do
          match ← opening with
          | .nothing => sequence fuel verbose first done
          | .finished term => sequence fuel verbose first (term :: done)
          | .settings => do
            require (first && done.isEmpty)
            sequence fuel (← get).flags.verbose first done
          | .group index on off => do
            let body ← choice fuel ((verbose || on.verbose) && !off.verbose) true []
            expect ')'
            if let some index := index then closeGroup index body
            sequence fuel verbose first (.group index on off body :: done)
          | .atomic => do
            let body ← choice fuel verbose true []
            expect ')'
            sequence fuel verbose first (.atomic body :: done)
          | .ahead negated => do
            let body ← choice fuel verbose true []
            expect ')'
            sequence fuel verbose first (.ahead negated body :: done)
          | .behind negated => do
            let outer := (← get).groupsBeforeLookbehind
            modify fun reader =>
              { reader with groupsBeforeLookbehind := some (outer.getD reader.groups.length) }
            let body ← choice fuel verbose true []
            modify fun reader => { reader with groupsBeforeLookbehind := outer }
            expect ')'
            let width := body.width (← get).groups
            require (width.least == width.most && width.least ≤ countLimit)
            sequence fuel verbose first (.behind width.least negated body :: done)
          | .conditional index => do
            let yes ← sequence fuel verbose false []
            let no ← if ← accept '|' then sequence fuel verbose false [] else pure (.sequence [])
            expect ')'
            sequence fuel verbose first (.conditional index yes no :: done)
        | _ =>
          if c == '*' || c == '+' || c == '?' || c == '{' then
            match ← counts? c with
            | some (low, high) =>
              sequence fuel verbose first (← repetition low high done)
            | none => sequence fuel verbose first (.char c.toNat :: done)
          else sequence fuel verbose first (.char c.toNat :: done)

end

end Parse

end Regex

/-- Reads a pattern. Both repertoires at once are a fault of their own, noticed before what is left
    over after the pattern. -/
def Regex.parse (source : String) : Except Regex.PatternError Regex := do
  let tokens ← Regex.tokenize source.toList
  let (body, reader) ←
    (Regex.Parse.choice (3 * tokens.length + 3) false false []).run { tokens }
  if reader.flags.ascii && reader.flags.unicode then throw .repertoireConflict
  if !reader.tokens.isEmpty || reader.conditions.any (reader.groups.length < ·)
      || (reader.flags.template && reader.repeats) then
    throw .malformed
  return ⟨source, reader.flags, body⟩

end CallAudit

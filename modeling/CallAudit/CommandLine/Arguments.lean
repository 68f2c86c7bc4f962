import CallAudit.Text.Quoted
import CallAudit.Unicode.DecimalDigit

/-!
# Command line arguments

Arguments are told apart into options, plain arguments and the separator after which all are plain. A long
option may be shortened as long as it is clear which one is meant, and a value may follow after an equals
sign; short options that take no value may be joined.
-/

namespace CallAudit.CommandLine

structure OptionSpec where
  names : List String
  takesValue : Bool
deriving DecidableEq, Repr, Inhabited

/-- How an option is called in messages. -/
def OptionSpec.label (spec : OptionSpec) : String := "/".intercalate spec.names

def helpOption : OptionSpec := ⟨["-h", "--help"], false⟩

/-- What a command takes: options, and one plain argument, which may take all that follows it as
    well. -/
structure Grammar where
  program : String
  options : List OptionSpec
  positional : String
  takesRest : Bool
  required : List OptionSpec
  exclusive : List (OptionSpec × OptionSpec)
deriving Repr

/-- What is wrong with the arguments. -/
inductive ArgumentFault where
  | ambiguous (argument : String) (candidates : List String)
  | noValue (option : String)
  | superfluousValue (option value : String)
  | conflict (option other : String)
  | missing (labels : List String)
  | unknownCommand (name : String) (commands : List String)
  | unrecognized (arguments : List String)
  /-- Nothing is wrong: help is asked for. -/
  | helpRequested
deriving DecidableEq, Repr

def ArgumentFault.message : ArgumentFault → String
  | .ambiguous argument candidates =>
    s!"ambiguous option: {argument} could match {listed candidates}"
  | .noValue option => s!"argument {option}: expected one argument"
  | .superfluousValue option value =>
    s!"argument {option}: ignored explicit argument {quoted value}"
  | .conflict option other => s!"argument {option}: not allowed with argument {other}"
  | .missing labels => s!"the following arguments are required: {listed labels}"
  | .unknownCommand name commands =>
    s!"argument command: invalid choice: {quoted name} (choose from {listed (commands.map quoted)})"
  | .unrecognized arguments => "unrecognized arguments: " ++ " ".intercalate arguments
  | .helpRequested => "help"
where
  listed (texts : List String) : String := ", ".intercalate texts

/-- A fault with the program or command that reports it. -/
structure UsageError where
  program : String
  fault : ArgumentFault
deriving DecidableEq, Repr

/-- The value that is joined to an option, by an equals sign or directly. -/
structure Joined where
  afterEquals : Bool
  text : List Char
deriving DecidableEq, Repr

inductive ArgumentKind where
  | plain
  | separator
  | known (spec : OptionSpec) (name : List Char) (joined : Option Joined)
  | unknown
deriving DecidableEq, Repr

structure Argument where
  text : String
  kind : ArgumentKind
deriving DecidableEq, Repr

def Argument.isOption (argument : Argument) : Bool :=
  match argument.kind with
  | .known .. => true
  | .unknown => true
  | _ => false

namespace Grammar

/-- All options by their names, in order. -/
def named (grammar : Grammar) : List (List Char × OptionSpec) :=
  grammar.options.flatMap fun spec => spec.names.map fun name => (name.toList, spec)

def find? (grammar : Grammar) (name : List Char) : Option OptionSpec := grammar.named.lookup name

/-- The part before the first equals sign, and the part after it if there is one. -/
def splitEquals (text : List Char) : List Char × Option (List Char) :=
  let before := text.takeWhile (· != '=')
  if before.length = text.length then (text, none) else (before, some (text.drop (before.length + 1)))

/-- The options that an argument with two dashes may be short for. -/
def longCandidates (grammar : Grammar) (text : List Char) :
    List (List Char × OptionSpec × Option Joined) :=
  let (start, value) := splitEquals text
  (grammar.named.filter fun (name, _) => start.isPrefixOf name).map fun (name, spec) =>
    (name, spec, value.map (⟨true, ·⟩))

/-- The options that an argument with one dash may stand for: a short one with something joined to it, or
    any that it begins. -/
def shortCandidates (grammar : Grammar) (text : List Char) :
    List (List Char × OptionSpec × Option Joined) :=
  grammar.named.filterMap fun (name, spec) =>
    if name = text.take 2 then some (name, spec, some ⟨false, text.drop 2⟩)
    else if text.isPrefixOf name then some (name, spec, none)
    else none

/-- Whether a text is a negative number: digits after the dash, or a point with digits after it. -/
def isNegativeNumber (text : List Char) : Bool :=
  let digits := text.tail
  let whole := digits.takeWhile Unicode.isDecimalDigit
  let rest := digits.drop whole.length
  (rest.isEmpty && !whole.isEmpty)
    || (rest.head? == some '.' && !rest.tail.isEmpty && rest.tail.all Unicode.isDecimalDigit)

/-- The kind of an argument before any separator. -/
def kindOf (grammar : Grammar) (argument : String) : Except ArgumentFault ArgumentKind :=
  let text := argument.toList
  if text.head? != some '-' then .ok .plain
  else
    match grammar.find? text with
    | some spec => .ok (.known spec text none)
    | none =>
      if text.length = 1 then .ok .plain
      else
        match splitEquals text with
        | (name, some value) =>
          match grammar.find? name with
          | some spec => .ok (.known spec name (some ⟨true, value⟩))
          | none => byCandidates text
        | _ => byCandidates text
where
  byCandidates (text : List Char) : Except ArgumentFault ArgumentKind :=
    let candidates :=
      if text.take 2 = ['-', '-'] then grammar.longCandidates text else grammar.shortCandidates text
    match candidates with
    | [(name, spec, joined)] => .ok (.known spec name joined)
    | [] => .ok (if isNegativeNumber text || text.contains ' ' then .plain else .unknown)
    | several => .error (.ambiguous argument (several.map fun (name, _) => String.ofList name))

/-- Tells the arguments apart. -/
def classify (grammar : Grammar) : List String → Except ArgumentFault (List Argument)
  | [] => .ok []
  | argument :: rest =>
    if argument = "--" then .ok (⟨argument, .separator⟩ :: rest.map (⟨·, .plain⟩))
    else
      match grammar.kindOf argument with
      | .error fault => .error fault
      | .ok kind => (classify grammar rest).map (⟨argument, kind⟩ :: ·)

end Grammar

/-- What has been read from the arguments: the plain argument with what it takes, the options in order,
    and what belongs to nothing. -/
structure Parsed where
  positional : Option (List String) := none
  options : List (OptionSpec × String) := []
  extras : List String := []
deriving Repr, Inhabited

namespace Parsed

def has (parsed : Parsed) (spec : OptionSpec) : Bool := parsed.options.any (·.1 == spec)

/-- The values of an option, in order. -/
def values (parsed : Parsed) (spec : OptionSpec) : List String :=
  (parsed.options.filter (·.1 == spec)).map (·.2)

def addExtras (parsed : Parsed) (texts : List String) : Parsed :=
  { parsed with extras := parsed.extras ++ texts }

/-- Takes an option in, unless one that excludes it is there. -/
def add (grammar : Grammar) (parsed : Parsed) (spec : OptionSpec) (value : String) :
    Except ArgumentFault Parsed :=
  let others := grammar.exclusive.filterMap fun (a, b) =>
    if a = spec then some b else if b = spec then some a else none
  match others.find? parsed.has with
  | some other => .error (.conflict spec.label other.label)
  | none =>
    if spec = helpOption then .error .helpRequested
    else .ok { parsed with options := parsed.options ++ [(spec, value)] }

def addAll (grammar : Grammar) (parsed : Parsed) :
    List (OptionSpec × String) → Except ArgumentFault Parsed
  | [] => .ok parsed
  | (spec, value) :: rest =>
    match parsed.add grammar spec value with
    | .ok parsed => addAll grammar parsed rest
    | .error fault => .error fault

end Parsed

/-- What one argument with options in it comes to: the options, something left over, and the arguments
    after it. -/
structure OptionRun where
  options : List (OptionSpec × String)
  extras : List String
  rest : List Argument

namespace Grammar

/-- Reads an option with its value, or several short ones that are joined. -/
def readOptions (grammar : Grammar) (rest : List Argument) :
    Nat → OptionSpec → List Char → Option Joined → List (OptionSpec × String) →
      Except ArgumentFault OptionRun
  | 0, _, _, _, done => .ok ⟨done, [], rest⟩
  | fuel + 1, spec, name, joined, done =>
    match joined, spec.takesValue with
    | none, false => .ok ⟨done ++ [(spec, "")], [], rest⟩
    | none, true =>
      match rest with
      | ⟨value, .plain⟩ :: rest => .ok ⟨done ++ [(spec, value)], [], rest⟩
      | _ => .error (.noValue spec.label)
    | some joined, true => .ok ⟨done ++ [(spec, String.ofList joined.text)], [], rest⟩
    | some ⟨afterEquals, text⟩, false =>
      let isShort := name.take 2 ≠ ['-', '-']
      match text with
      | c :: more =>
        if !isShort || afterEquals || c == '-' then
          .error (.superfluousValue spec.label (String.ofList text))
        else
          let done := done ++ [(spec, "")]
          match grammar.find? ['-', c] with
          | none => .ok ⟨done, [String.ofList ('-' :: text)], rest⟩
          | some next =>
            let joined := match more with
              | [] => none
              | '=' :: value => some ⟨true, value⟩
              | more => some ⟨false, more⟩
            readOptions grammar rest fuel next ['-', c] joined done
      | [] => .error (.superfluousValue spec.label "")

/-- The plain argument at the start, with a separator on either side of it, or with all that follows. -/
def readPositional (grammar : Grammar) (arguments : List Argument) :
    Option (List String × List Argument) :=
  let texts := arguments.map (·.text)
  match arguments with
  | ⟨_, .separator⟩ :: ⟨value, .plain⟩ :: rest =>
    if grammar.takesRest then some (texts, []) else some ([value], rest)
  | ⟨value, .plain⟩ :: rest =>
    if grammar.takesRest then some (texts, [])
    else
      match rest with
      | ⟨_, .separator⟩ :: rest => some ([value], rest)
      | rest => some ([value], rest)
  | _ => none

/-- Takes the plain argument in, if it is still to come and is there. -/
def takePositional? (grammar : Grammar) (parsed : Parsed) (arguments : List Argument) :
    Option (Parsed × List Argument) :=
  if parsed.positional.isSome then none
  else
    (grammar.readPositional arguments).map fun (values, rest) =>
      ({ parsed with positional := some values }, rest)

/-- Goes through the arguments. Plain ones that nothing takes are left over. -/
def readAll (grammar : Grammar) : Nat → Parsed → List Argument → Except ArgumentFault Parsed
  | 0, parsed, arguments => .ok (parsed.addExtras (arguments.map (·.text)))
  | fuel + 1, parsed, arguments =>
    match arguments with
    | [] => .ok parsed
    | ⟨text, .unknown⟩ :: rest => readAll grammar fuel (parsed.addExtras [text]) rest
    | ⟨text, .known spec name joined⟩ :: rest =>
      match grammar.readOptions rest (text.length + 1) spec name joined [] with
      | .error fault => .error fault
      | .ok run =>
        match parsed.addAll grammar run.options with
        | .error fault => .error fault
        | .ok parsed => readAll grammar fuel (parsed.addExtras run.extras) run.rest
    | arguments =>
      match grammar.takePositional? parsed arguments with
      | some (parsed, rest) => readAll grammar fuel parsed rest
      | none =>
        let extras := arguments.takeWhile fun argument => !argument.isOption
        readAll grammar fuel (parsed.addExtras (extras.map (·.text)))
          (arguments.drop extras.length)

/-- The labels of what must be there and is not. -/
def missing (grammar : Grammar) (parsed : Parsed) : List String :=
  (if parsed.positional.isNone then [grammar.positional] else [])
    ++ (grammar.required.filter fun spec => !parsed.has spec).map OptionSpec.label

/-- Reads the arguments, without looking at what is missing. -/
def read (grammar : Grammar) (arguments : List String) : Except ArgumentFault Parsed := do
  let arguments ← grammar.classify arguments
  grammar.readAll (2 * arguments.length + 1) {} arguments

/-- Reads the arguments and demands what is required. -/
def parse (grammar : Grammar) (arguments : List String) : Except ArgumentFault Parsed := do
  let parsed ← grammar.read arguments
  let missing := grammar.missing parsed
  if missing.isEmpty then return parsed else throw (.missing missing)

end Grammar

end CallAudit.CommandLine

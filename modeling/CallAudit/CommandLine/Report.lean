import CallAudit.Call.File
import CallAudit.Check.File
import CallAudit.Check.Registry
import CallAudit.CommandLine.Command
import CallAudit.Regex.Parser

/-!
# Reports

What the program prints and how it ends. Everything is worked out before the first line is printed, so a
failure that is reported comes without results.
-/

namespace CallAudit.CommandLine

/-- How the program ends: with a code, or with a failure that it does not report as its own. -/
inductive Ending where
  | exit (code : Nat)
  | abort (failure : Failure)

structure Report where
  output : String
  errors : String
  ending : Ending

/-- An option value between slashes is a pattern, and any other a name. -/
def queryValue (text : String) : Except Failure Value :=
  let chars := text.toList
  if 1 < chars.length && chars.head? == some '/' && chars.getLast? == some '/' then
    match Regex.parse (String.ofList chars.tail.dropLast) with
    | .ok regex => .ok (.regex regex)
    | .error error => .error (.badPattern error)
  else .ok (.text text)

/-- One value stands for itself, several for the collection of them, and none for no option. -/
def queryOption (texts : List String) : Except Failure Value := do
  match ← texts.mapM queryValue with
  | [] => return .absent
  | [one] => return one
  | several => return .list several

/-- What is found at each path. -/
abbrev Files := String → FileView

/-- A store of the calls in a file. -/
def loadStore (files : Files) (path : String) : Action Store Unit := do
  let calls ← Action.ofAnswer (Call.load path (files path))
  Store.add (sitesOf calls)

/-- The data that a query prints: the calls that it finds. -/
def QueryCommand.results (command : QueryCommand) (files : Files) : Action Store (List Datum) := do
  loadStore files command.calls
  let receiver ←
    if command.withoutTarget then pure .null else Action.ofExcept (queryOption command.targets)
  let method ← Action.ofExcept (queryOption command.methods)
  let query : Query :=
    { receiver, method, chained := .bool command.chained, nested := .bool command.nested }
  let sites ← Action.ofAnswer ((← Action.read).find query)
  return sites.map fun site => site.call.toDatum

/-- A registry of the checks in a file, added in order. -/
def loadRegistry (files : Files) (path : String) : Action Registry Unit := do
  let configs ← Action.ofAnswer (Config.load path (files path))
  Action.write (.ofChecks (configs.map Check.ofConfig))
  (List.range configs.length).forM Registry.add

/-- The data that a check prints: the warnings of all checks. -/
def CheckCommand.results (command : CheckCommand) (files : Files) :
    Action (Registry × Store) (List Datum) := do
  onRegistry (loadRegistry files command.checks)
  onStore (loadStore files command.calls)
  let (_, store) ← Action.read
  let warnings ← onRegistry (Registry.runAll ⟨store, command.models, .none⟩)
  return warnings.map Warning.toDatum
where
  onRegistry {α : Type} (action : Action Registry α) : Action (Registry × Store) α :=
    Action.onPart Prod.fst (fun both registry => (registry, both.2)) action
  onStore {α : Type} (action : Action Store α) : Action (Registry × Store) α :=
    Action.onPart Prod.snd (fun both store => (both.1, store)) action

/-- The events of a command, and the data that it prints or its failure. -/
def Task.answer (files : Files) : Task → Answer (List Datum)
  | .query command =>
    let change := (command.results files).run .empty
    ⟨change.events, change.outcome⟩
  | .check command =>
    let change := (command.results files).run (.ofChecks [], .empty)
    ⟨change.events, change.outcome⟩

/-- The lines for the data up to the first that cannot be written, and whether there is one. -/
def printedLines : List Datum → List String × Bool
  | [] => ([], true)
  | d :: rest =>
    match Json.write? d with
    | none => ([], false)
    | some line =>
      let (lines, complete) := printedLines rest
      (line :: lines, complete)

/-- The lines that tell of events: of all of them, or of warnings only. -/
def eventLines (verbose : Bool) (events : List Event) : List String :=
  (events.filter fun event => verbose || event.level == .warning).map Event.line

def Command.report (command : Command) (files : Files) : Report :=
  let answer := command.task.answer files
  let told := linesText (eventLines command.verbose answer.events)
  match answer.outcome with
  | .ok results =>
    let (lines, complete) := printedLines results
    ⟨linesText lines, told, if complete then .exit 0 else .abort .notWritable⟩
  | .error failure =>
    match failure.message? with
    | some message => ⟨"", told ++ s!"error: {message}\n", .exit 2⟩
    | none => ⟨"", told, .abort failure⟩

def helpText : String :=
  linesText
    ["usage: callmap query [-v] [--target T | --no-target] [--method M] [--chained] [--nested] calls",
      "       callmap check [-v] --checks FILE [--model NAME] calls"]

/-- The report of the program on some arguments. -/
def report (arguments : List String) (files : Files) : Report :=
  match Command.parse arguments with
  | .ok command => command.report files
  | .error ⟨_, .helpRequested⟩ => ⟨helpText, "", .exit 0⟩
  | .error ⟨program, fault⟩ => ⟨"", s!"{program}: error: {fault.message}\n", .exit 2⟩

end CallAudit.CommandLine

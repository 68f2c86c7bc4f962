import CallAudit.CommandLine.Arguments
import CallAudit.File.Path

/-!
# Commands

The two commands of the program: `query` finds calls, and `check` runs the configured checks.
-/

namespace CallAudit.CommandLine

structure QueryCommand where
  calls : String
  targets : List String
  withoutTarget : Bool
  methods : List String
  chained : Bool
  nested : Bool
deriving DecidableEq, Repr

structure CheckCommand where
  calls : String
  checks : String
  models : List String
deriving DecidableEq, Repr

inductive Task where
  | query (command : QueryCommand)
  | check (command : CheckCommand)
deriving DecidableEq, Repr

structure Command where
  verbose : Bool
  task : Task
deriving DecidableEq, Repr

def verboseOption : OptionSpec := ⟨["-v", "--verbose"], false⟩

def targetOption : OptionSpec := ⟨["--target"], true⟩

def noTargetOption : OptionSpec := ⟨["--no-target"], false⟩

def methodOption : OptionSpec := ⟨["--method"], true⟩

def chainedOption : OptionSpec := ⟨["--chained"], false⟩

def nestedOption : OptionSpec := ⟨["--nested"], false⟩

def checksOption : OptionSpec := ⟨["--checks"], true⟩

def modelOption : OptionSpec := ⟨["--model"], true⟩

def queryGrammar : Grammar :=
  { program := "callmap query"
    options := [helpOption, verboseOption, targetOption, noTargetOption, methodOption, chainedOption,
      nestedOption]
    positional := "calls"
    takesRest := false
    required := []
    exclusive := [(targetOption, noTargetOption)] }

def checkGrammar : Grammar :=
  { program := "callmap check"
    options := [helpOption, verboseOption, checksOption, modelOption]
    positional := "calls"
    takesRest := false
    required := [checksOption]
    exclusive := [] }

/-- The program itself takes the name of a command and leaves the rest to it. -/
def programGrammar : Grammar :=
  { program := "callmap"
    options := [helpOption]
    positional := "command"
    takesRest := true
    required := []
    exclusive := [] }

def commandNames : List String := ["query", "check"]

def Parsed.path (parsed : Parsed) : String :=
  Path.normalize ((parsed.positional.getD []).headD "")

def queryTask (parsed : Parsed) : Task :=
  .query
    { calls := parsed.path
      targets := parsed.values targetOption
      withoutTarget := parsed.has noTargetOption
      methods := parsed.values methodOption
      chained := parsed.has chainedOption
      nested := parsed.has nestedOption }

def checkTask (parsed : Parsed) : Task :=
  .check
    { calls := parsed.path
      checks := Path.normalize ((parsed.values checksOption).getLast?.getD "")
      models := parsed.values modelOption }

/-- Puts the name of the program or command to a fault. -/
def reportedBy {α : Type} (grammar : Grammar) : Except ArgumentFault α → Except UsageError α
  | .ok a => .ok a
  | .error fault => .error ⟨grammar.program, fault⟩

/-- Reads the arguments of one command. What it cannot place is reported by the program, together with
    what the program could not place before it. -/
def commandOf (grammar : Grammar) (task : Parsed → Task) (before arguments : List String) :
    Except UsageError Command := do
  let parsed ← reportedBy grammar (grammar.parse arguments)
  let extras := before ++ parsed.extras
  if extras.isEmpty then return ⟨parsed.has verboseOption, task parsed⟩
  else throw ⟨programGrammar.program, .unrecognized extras⟩

/-- The command that the arguments of the program give. -/
def Command.parse (arguments : List String) : Except UsageError Command := do
  let parsed ← reportedBy programGrammar (programGrammar.read arguments)
  match parsed.positional with
  | some ("query" :: rest) => commandOf queryGrammar queryTask parsed.extras rest
  | some ("check" :: rest) => commandOf checkGrammar checkTask parsed.extras rest
  | some (name :: _) => throw ⟨programGrammar.program, .unknownCommand name commandNames⟩
  | _ => throw ⟨programGrammar.program, .missing [programGrammar.positional]⟩

end CallAudit.CommandLine

import CallAudit.Action
import CallAudit.Check.Canonical
import CallAudit.Check.Warning
import CallAudit.Query.Plan

/-!
# Checks

A check is a configuration that can be edited, and what has been worked out of it so far: the warning code
and the names of the methods are kept once they are known. Nothing is required of a configuration before
it is read.
-/

namespace CallAudit

structure Check where
  config : Config
  knownCode : Option Datum
  knownMethods : Option (List String)
deriving Repr, Inhabited

namespace Check

/-- A check of which nothing has been worked out yet. -/
def ofConfig (config : Config) : Check := ⟨config, none, none⟩

def display (check : Check) : String := s!"CustomCheck(name={check.config.name.display})"

/-- A field that must not be void. -/
def requiredField (field : String) (value : Config → Datum) : Action Check Datum := do
  let value := value (← Action.read).config
  if value.isVoid then Action.fail (.missingAttribute field) else return value

def name : Action Check Datum := requiredField "name" Config.name

def description : Action Check Datum := requiredField "description" Config.description

def warningSymbol : Action Check Datum := requiredField "warning_symbol" Config.warningSymbol

/-- The configured code, or else the derived one. -/
def warningCode : Action Check Datum := do
  let check ← Action.read
  match check.knownCode with
  | some code => return code
  | none => do
    let code ← match check.config.warningCode with
      | .null => Action.ofExcept (check.config.derivedCode.map fun code => Datum.int code)
      | code => pure code
    Action.write { check with knownCode := some code }
    return code

def malformedMethods (config : Config) : Failure := .malformedMethods config.name config.methods

/-- The names of the methods to look for: the items of a list, or the fields of an object. -/
def methodNames : Action Check (List String) := do
  let check ← Action.read
  match check.knownMethods with
  | some names => return names
  | none => do
    let names ← match check.config.methods with
      | .list items => pure (items.map Datum.plainText)
      | .object fields => pure (fields.map (·.1))
      | _ => Action.fail (malformedMethods check.config)
    Action.write { check with knownMethods := some names }
    return names

/-- Argument positions as they are configured: all of them, one, or a list. -/
def positions? : Datum → Option (Option (List Int))
  | .text word => if word = allArguments then some none else none
  | .int position => some (some [position])
  | .list items => (items.mapM position?).map some
  | _ => none
where
  position? : Datum → Option Int
    | .int position => some position
    | _ => none

/-- The argument positions to look at in calls of a method, or none if all are. -/
def argumentPositions (config : Config) (method : String) : Except Failure (Option (List Int)) :=
  match config.methods with
  | .list _ => .ok none
  | .object fields =>
    match fields.lookup method with
    | none => .ok none
    | some configured =>
      match positions? configured with
      | some positions => .ok positions
      | none => .error (.malformedPositions config.name method configured)
  | _ => .error (malformedMethods config)

/-- The argument at a position, which is counted from the end if negative. -/
def argumentAt? (arguments : List Datum) (position : Int) : Option Datum :=
  if 0 ≤ position then arguments[position.toNat]?
  else if -position ≤ arguments.length then arguments[(arguments.length + position).toNat]?
  else none

/-- The arguments at the given positions, those that there are, in the order of the positions. -/
def argumentsAt (arguments : List Datum) : Option (List Int) → List Datum
  | none => arguments
  | some positions => positions.filterMap (argumentAt? arguments)

/-- The arguments of a call to look at, none of them null and no two equal. -/
def relevantArguments (config : Config) (call : Call) : Except Failure (List Datum) :=
  (argumentPositions config call.method).map fun positions =>
    Datum.distinct ((argumentsAt call.args positions).filter fun argument => !argument.isNull)

/-- The targets to look for. The wildcard gives way to the models that are not targets anyway. -/
def targets (config : Config) (models : List String) : Except Failure (List Datum) :=
  match config.targets.elements? with
  | none => .error .notIterable
  | some elements =>
    let named := elements.filter fun target => !target.same (.text anyModel)
    if named.length = elements.length then .ok named
    else if !named.all Datum.isStable then .error .notStable
    else
      let others := models.eraseDups.filter fun model => !named.any (Datum.text model).same
      .ok (named ++ (sortTexts others).map Datum.text)

/-- The warning about one call. -/
def process (scan : Scan) (site : Site) : Action Check Warning := do
  let call := site.call
  let config := (← Action.read).config
  let arguments ← Action.ofExcept (relevantArguments config call)
  let grade := Grade.ofArguments scan.classifier arguments
  let message := s!"{call.method} called on {call.receiver.described}{grade.suffix}"
  return ⟨← name, ← warningSymbol, ← warningCode, message, grade.confidence, site, grade.userInput⟩

/-- The sites of which none before has the same identity. -/
def distinctSites (sites : List Site) : List Site := firstOfEach (fun a b => a.id == b.id) sites

def query (scan : Scan) : Action Check Query := do
  let config := (← Action.read).config
  if config.targets.isVoid then return { methods := textList (← methodNames) }
  else
    let targets ← Action.ofExcept (targets config scan.models)
    return { receivers := .ofDatum (.list targets), methods := textList (← methodNames) }
where
  textList (names : List String) : Value := .list (names.map Value.text)

/-- One warning for each call that the check finds, in the order of addition. -/
def run (scan : Scan) : Action Check (List Warning) := do
  Action.report (.lookingFor (← name))
  let sites ← Action.ofAnswer (scan.store.find (← query scan))
  Action.report (.processing sites.length (← name))
  (distinctSites sites).mapM (process scan)

end Check

end CallAudit

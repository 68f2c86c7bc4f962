import CallAudit.Check.Basic

/-!
# The registry of checks

Checks are known by their position in a pool, and registered under the names that they had when they were
added. A name is taken once and for all.
-/

namespace CallAudit

structure Registry where
  checks : List Check
  /-- The names of the registered checks with their positions in the pool, in the order of addition. -/
  entries : List (Datum × Nat)
deriving Repr, Inhabited

namespace Registry

/-- A registry that knows some checks and has none registered. -/
def ofChecks (checks : List Check) : Registry := ⟨checks, []⟩

/-- An action on the check at a position of the pool. -/
def onCheck {α : Type} (position : Nat) (action : Action Check α) : Action Registry α :=
  Action.onPart (fun registry => (registry.checks[position]?).getD default)
    (fun registry check => { registry with checks := registry.checks.set position check }) action

/-- The position of the check that was added under a name. -/
def find? (registry : Registry) (name : Datum) : Option Nat :=
  (registry.entries.find? fun entry => entry.1.same name).map (·.2)

/-- Looks a name up. Only a stable one can be looked for. -/
def get (name : Datum) : Action Registry (Option Nat) := do
  if name.isStable then return (← Action.read).find? name else Action.fail .notStable

def contains (name : Datum) : Action Registry Bool := return (← get name).isSome

def size (registry : Registry) : Nat := registry.entries.length

/-- Registers a check under its present name, which must be free. -/
def add (position : Nat) : Action Registry Unit := do
  let name ← onCheck position Check.name
  if ← contains name then Action.fail (.nameTaken name)
  else
    let registry ← Action.read
    Action.write { registry with entries := registry.entries ++ [(name, position)] }
    Action.report (.registered name)

/-- The positions of the registered checks. -/
def positions : Action Registry (List Nat) := return (← Action.read).entries.map (·.2)

/-- The present names of the registered checks. -/
def names : Action Registry (List Datum) := do
  (← positions).mapM fun position => onCheck position Check.name

/-- A table with one entry changed or added; an equal key keeps its place. -/
def setEntry (key value : Datum) : List (Datum × Datum) → List (Datum × Datum)
  | [] => [(key, value)]
  | (other, old) :: rest =>
    if other.same key then (other, value) :: rest else (other, old) :: setEntry key value rest

/-- The warning codes of the registered checks by their symbols. Of checks with one symbol the last
    counts. -/
def warningCodes : Action Registry (List (Datum × Datum)) := do
  (← positions).foldlM
    (fun table position => do
      let symbol ← onCheck position Check.warningSymbol
      let code ← onCheck position Check.warningCode
      if symbol.isStable then return setEntry symbol code table else Action.fail .notStable)
    []

/-- The warnings of all registered checks, check by check. -/
def runAll (scan : Scan) : Action Registry (List Warning) := do
  return (← (← positions).mapM fun position => onCheck position (Check.run scan)).flatten

end Registry

end CallAudit

import CallAudit.Proofs.Check.Memory

/-!
# Asking a check again

A check that is asked several things writes down what it has worked out, and may fail after it has done
so. No answer shows it: as long as the configuration is not edited, each answer is the one that a check
gives of which nothing has been worked out yet.
-/

namespace CallAudit.Check

/-- What a check can be used for while its configuration stays as it is. -/
inductive Operation where
  | name
  | description
  | warningSymbol
  | warningCode
  | methodNames
  | argumentPositions (method : String)
  | targets (models : List String)
  | relevantArguments (call : Call)
  | process (scan : Scan) (site : Site)
  | run (scan : Scan)

namespace Operation

/-- What an operation comes to if it does not fail. -/
def Result : Operation → Type
  | name | description | warningSymbol | warningCode => Datum
  | methodNames => List String
  | argumentPositions _ => Option (List Int)
  | targets _ | relevantArguments _ => List Datum
  | process _ _ => Warning
  | run _ => List Warning

/-- An operation as an action. The positions, the targets and the arguments to look at are read off the
    configuration each time. -/
def action : (operation : Operation) → Action Check operation.Result
  | name => Check.name
  | description => Check.description
  | warningSymbol => Check.warningSymbol
  | warningCode => Check.warningCode
  | methodNames => Check.methodNames
  | argumentPositions method => readOff fun config => Check.argumentPositions config method
  | targets models => readOff fun config => Check.targets config models
  | relevantArguments call => readOff fun config => Check.relevantArguments config call
  | process scan site => Check.process scan site
  | run scan => Check.run scan
where
  readOff {α : Type} (outcome : Config → Except Failure α) : Action Check α :=
    Action.read >>= fun check => Action.ofExcept (outcome check.config)

/-- What an operation comes to by a configuration alone. -/
def outcome (config : Config) : (operation : Operation) → Except Failure operation.Result
  | name => Config.requiredField "name" config.name
  | description => Config.requiredField "description" config.description
  | warningSymbol => Config.requiredField "warning_symbol" config.warningSymbol
  | warningCode => config.codeInUse
  | methodNames => config.methodNames
  | argumentPositions method => Check.argumentPositions config method
  | targets models => Check.targets config models
  | relevantArguments call => Check.relevantArguments config call
  | process scan site => config.warningAt scan site
  | run scan => config.warnings scan

end Operation

variable {config : Config}

theorem gives_of_goesAs {α : Type} {action : Action Check α} {outcome : Except Failure α}
    (h : action.Gives (ofConfig config).GoesAs outcome) : action.Gives (Remembers config) outcome :=
  h.congr fun _ => goesAs_ofConfig_iff

theorem readOff_gives {α : Type} (outcome : Config → Except Failure α) :
    (Operation.action.readOff outcome).Gives (Remembers config) (outcome config) := by
  refine .read_bind fun check hcheck => ?_
  rw [hcheck.config_eq]
  exact .ofExcept _

/-- Whatever a check remembers of its configuration, an operation comes to what the configuration alone
    comes to, and if it fails the check still remembers nothing else. -/
theorem Operation.action_gives (operation : Operation) :
    operation.action.Gives (Remembers config) (operation.outcome config) := by
  cases operation with
  | name => exact gives_of_goesAs (requiredField_goesAs "name" Config.name)
  | description => exact gives_of_goesAs (requiredField_goesAs "description" Config.description)
  | warningSymbol => exact gives_of_goesAs (requiredField_goesAs "warning_symbol" Config.warningSymbol)
  | warningCode => exact gives_of_goesAs warningCode_goesAs
  | methodNames => exact gives_of_goesAs methodNames_goesAs
  | argumentPositions method => exact readOff_gives fun config => Check.argumentPositions config method
  | targets models => exact readOff_gives fun config => Check.targets config models
  | relevantArguments call => exact readOff_gives fun config => Check.relevantArguments config call
  | process scan site => exact process_gives scan site
  | run scan => exact run_gives scan

/-- The outcomes of some operations in their order. Each is carried out on what the one before it has left
    of the check, even where that one has failed. -/
def outcomes : List Operation → Check → List (Σ operation : Operation, Except Failure operation.Result)
  | [], _ => []
  | operation :: rest, check =>
    let change := operation.action.run check
    ⟨operation, change.outcome⟩ :: outcomes rest change.state

theorem Remembers.outcomes_eq {check : Check} (h : check.Remembers config)
    (operations : List Operation) :
    outcomes operations check =
      operations.map fun operation => ⟨operation, operation.outcome config⟩ := by
  induction operations generalizing check with
  | nil => rfl
  | cons operation rest ih =>
    obtain ⟨hnext, houtcome⟩ := operation.action_gives check h
    rw [outcomes, List.map_cons, houtcome, ih hnext]

/-- In every sequence of operations on a check whose configuration is not edited, each operation comes to
    what it comes to on a fresh check of that configuration, whether it fails or not. Nothing is asked of
    the configuration, which need not be complete or even of the right types. -/
theorem outcomes_eq_fresh (config : Config) (operations : List Operation) :
    outcomes operations (ofConfig config) = operations.map fun operation =>
      ⟨operation, (operation.action.run (ofConfig config)).outcome⟩ := by
  have hfresh : (ofConfig config).Remembers config := .ofConfig config
  rw [hfresh.outcomes_eq]
  refine List.map_congr_left fun operation _ => ?_
  rw [(operation.action_gives (ofConfig config) hfresh).2]

end CallAudit.Check

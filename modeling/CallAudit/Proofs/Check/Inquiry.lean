import CallAudit.Proofs.Check.Registration
import CallAudit.Proofs.Check.Transparency

/-!
# Asking a registry

A registry and its checks write down what they work out when they are asked. Even where the answer is a
failure, the entries stay as they are, and each check goes by the same configuration, code and names.
-/

namespace CallAudit

/-- Whatever a check is asked, it goes by the same as before. -/
theorem Check.Operation.exists_goesAs (operation : Check.Operation) (check : Check) :
    ∃ outcome, operation.action.Gives check.GoesAs outcome := by
  have hreadOff {α : Type} (outcome : Config → Except Failure α) :
      (Operation.action.readOff outcome).Gives check.GoesAs (outcome check.config) := by
    refine .read_bind fun other hother => ?_
    rw [hother.config_eq]
    exact .ofExcept _
  cases operation with
  | name => exact ⟨_, requiredField_goesAs "name" Config.name⟩
  | description => exact ⟨_, requiredField_goesAs "description" Config.description⟩
  | warningSymbol => exact ⟨_, requiredField_goesAs "warning_symbol" Config.warningSymbol⟩
  | warningCode => exact ⟨_, warningCode_goesAs⟩
  | methodNames => exact ⟨_, methodNames_goesAs⟩
  | argumentPositions method => exact ⟨_, hreadOff fun config => Check.argumentPositions config method⟩
  | targets models => exact ⟨_, hreadOff fun config => Check.targets config models⟩
  | relevantArguments call => exact ⟨_, hreadOff fun config => Check.relevantArguments config call⟩
  | process scan site => exact ⟨_, process_goesAs scan site⟩
  | run scan => exact ⟨_, run_goesAs scan⟩

namespace Registry

/-- Whether another registry has the same entries, and in each place a check that goes by the same. -/
structure GoesAs (registry other : Registry) : Prop where
  entries_eq : other.entries = registry.entries
  checkAt_goesAs : ∀ position, (registry.checkAt position).GoesAs (other.checkAt position)

theorem GoesAs.refl (registry : Registry) : registry.GoesAs registry :=
  ⟨rfl, fun position => .refl (registry.checkAt position)⟩

/-- A check that is put into a place is found there, if there is such a place, and the others stay. -/
theorem checkAt_set (registry : Registry) (place position : Nat) (check : Check) :
    ({ registry with checks := registry.checks.set place check } : Registry).checkAt position =
      if place = position ∧ place < registry.checks.length then check else registry.checkAt position := by
  simp only [checkAt, List.getElem?_set]
  by_cases hplace : place = position
  · subst hplace
    by_cases hlength : place < registry.checks.length
    · simp [hlength]
    · simp [hlength]
  · simp [hplace]

section Asked

variable {α : Type} {registry : Registry}

/-- What a check comes to by what it goes by it comes to in its place. -/
theorem onCheck_goesAs {action : Action Check α} {outcome : Except Failure α} {position : Nat}
    (haction : action.Gives (registry.checkAt position).GoesAs outcome) :
    (onCheck position action).Gives registry.GoesAs outcome := by
  intro other hother
  obtain ⟨hnext, houtcome⟩ := haction _ (hother.checkAt_goesAs position)
  rw [run_onCheck]
  refine ⟨⟨hother.entries_eq, fun place => ?_⟩, houtcome⟩
  rw [checkAt_set]
  split
  · next hplace => exact hplace.1 ▸ hnext
  · exact hother.checkAt_goesAs place

/-- In a registry, too, a check that is run comes to the warnings that are due by what it goes by. -/
theorem outcome_onCheck_run (registry : Registry) (position : Nat) (scan : Scan) :
    ((onCheck position (Check.run scan)).run registry).outcome =
      (registry.checkAt position).warnings scan :=
  (onCheck_goesAs (Check.run_goesAs scan) registry (.refl registry)).2

theorem positions_goesAs : positions.Gives registry.GoesAs (.ok (registry.entries.map (·.2))) := by
  intro other hother
  refine ⟨hother, ?_⟩
  rw [← hother.entries_eq]
  rfl

/-- An action on the positions of the registered checks comes to what it comes to on those that are
    registered at first. -/
theorem positions_bind_goesAs {second : List Nat → Action Registry α} {outcome : Except Failure α}
    (hsecond : (second (registry.entries.map (·.2))).Gives registry.GoesAs outcome) :
    (positions >>= second).Gives registry.GoesAs outcome := by
  have hbind : (positions >>= second).Gives registry.GoesAs
      (.ok (registry.entries.map (·.2)) >>= fun _ => outcome) := by
    refine positions_goesAs.bind fun found hfound => ?_
    cases hfound
    exact hsecond
  exact hbind

theorem get_goesAs (name : Datum) : (get name).Gives registry.GoesAs
    (if name.isStable then .ok (registry.find? name) else .error .notStable) := by
  intro other hother
  rw [run_get, find?, hother.entries_eq]
  exact ⟨hother, rfl⟩

theorem contains_goesAs (name : Datum) : (contains name).Gives registry.GoesAs
    (if name.isStable then .ok (registry.find? name).isSome else .error .notStable) := by
  intro other hother
  rw [run_contains, find?, hother.entries_eq]
  exact ⟨hother, rfl⟩

theorem names_goesAs : names.Gives registry.GoesAs
    ((registry.entries.map (·.2)).mapM fun position =>
      Config.requiredField "name" (registry.nameAt position)) := by
  refine positions_bind_goesAs (.mapM fun position _ => ?_)
  exact onCheck_goesAs (Check.requiredField_goesAs "name" Config.name)

/-- A table of codes with one more check in it, which is looked at by what it goes by. -/
def addCode (registry : Registry) (table : List (Datum × Datum)) (position : Nat) :
    Except Failure (List (Datum × Datum)) := do
  let check := registry.checkAt position
  let symbol ← Config.requiredField "warning_symbol" check.config.warningSymbol
  let code ← check.codeInUse
  if symbol.isStable then return setEntry symbol code table else throw .notStable

theorem warningCodes_goesAs : warningCodes.Gives registry.GoesAs
    ((registry.entries.map (·.2)).foldlM registry.addCode []) := by
  refine positions_bind_goesAs (.foldlM (fun table position => ?_) _ [])
  refine (onCheck_goesAs (Check.requiredField_goesAs _ _)).bind fun symbol _ => ?_
  refine (onCheck_goesAs Check.warningCode_goesAs).bind fun code _ => ?_
  split
  · exact .pure _
  · exact .fail _

theorem runAll_goesAs (scan : Scan) : (runAll scan).Gives registry.GoesAs
    ((registry.entries.map (·.2)).mapM (fun position => (registry.checkAt position).warnings scan) >>=
      fun warnings => .ok warnings.flatten) := by
  refine positions_bind_goesAs ?_
  have hruns : ((registry.entries.map (·.2)).mapM fun position =>
      onCheck position (Check.run scan)).Gives registry.GoesAs
        ((registry.entries.map (·.2)).mapM fun position => (registry.checkAt position).warnings scan) :=
    .mapM fun position _ => onCheck_goesAs (Check.run_goesAs scan)
  exact hruns.bind fun warnings _ => .pure _

end Asked

/-- What a registry or one of its checks may be asked. -/
inductive Inquiry where
  | get (name : Datum)
  | contains (name : Datum)
  | positions
  | names
  | warningCodes
  | runAll (scan : Scan)
  | ofCheck (position : Nat) (operation : Check.Operation)

/-- Asks a registry, and leaves the answer. -/
def Inquiry.ask : Inquiry → Action Registry Unit
  | get name => Registry.get name >>= fun _ => pure ()
  | contains name => Registry.contains name >>= fun _ => pure ()
  | positions => Registry.positions >>= fun _ => pure ()
  | names => Registry.names >>= fun _ => pure ()
  | warningCodes => Registry.warningCodes >>= fun _ => pure ()
  | runAll scan => Registry.runAll scan >>= fun _ => pure ()
  | ofCheck position operation => onCheck position operation.action >>= fun _ => pure ()

/-- Whatever is asked, the registry goes as before, also where the answer is a failure. -/
theorem Inquiry.ask_goesAs (inquiry : Inquiry) (registry : Registry) :
    registry.GoesAs (inquiry.ask.run registry).state := by
  have hasked {α : Type} {action : Action Registry α} {outcome : Except Failure α}
      (haction : action.Gives registry.GoesAs outcome) :
      registry.GoesAs ((action >>= fun _ => pure ()).run registry).state :=
    ((haction.bind fun _ _ => .pure ()) registry (.refl registry)).1
  cases inquiry with
  | get name => exact hasked (get_goesAs name)
  | contains name => exact hasked (contains_goesAs name)
  | positions => exact hasked positions_goesAs
  | names => exact hasked names_goesAs
  | warningCodes => exact hasked warningCodes_goesAs
  | runAll scan => exact hasked (runAll_goesAs scan)
  | ofCheck position operation =>
    obtain ⟨outcome, haction⟩ := operation.exists_goesAs (registry.checkAt position)
    exact hasked (onCheck_goesAs haction)

end Registry

end CallAudit

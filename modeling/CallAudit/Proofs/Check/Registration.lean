import CallAudit.Check.Registry
import CallAudit.Proofs.Check.Memory

/-!
# Registered checks

The checks of a file are registered in order, each under its own name. As each has its own place in the
pool, running all of them comes to what each comes to when it is run alone.
-/

namespace CallAudit

namespace Config

/-- Takes the name of a configuration: it must not be void, nor one of those taken. -/
def takeName (taken : List Datum) (config : Config) : Except Failure Unit := do
  let name ← requiredField "name" config.name
  if taken.any (·.same name) then throw (.nameTaken name)

/-- Takes the names of configurations one after the other. -/
def takeNames (taken : List Datum) : List Config → Except Failure Unit
  | [] => .ok ()
  | config :: rest => do
    takeName taken config
    takeNames (taken ++ [config.name]) rest

end Config

namespace Registry

open Check (Remembers)

section OnCheck

/-- The check at a position of the pool. Where there is none, it is one with nothing configured. -/
def checkAt (registry : Registry) (position : Nat) : Check :=
  (registry.checks[position]?).getD default

/-- The present name of the check at a position. -/
def nameAt (registry : Registry) (position : Nat) : Datum := (registry.checkAt position).config.name

variable {α : Type} {registry : Registry} {position : Nat}

theorem checkAt_eq {check : Check} (hcheck : registry.checks[position]? = some check) :
    registry.checkAt position = check := by
  rw [checkAt, hcheck, Option.getD_some]

/-- Putting a check back into its place changes nothing. -/
theorem set_checkAt (registry : Registry) (position : Nat) :
    registry.checks.set position (registry.checkAt position) = registry.checks := by
  cases hcheck : registry.checks[position]? with
  | none => exact List.set_eq_of_length_le (List.getElem?_eq_none_iff.mp hcheck)
  | some check =>
    rw [checkAt_eq hcheck]
    obtain ⟨hposition, rfl⟩ := List.getElem?_eq_some_iff.mp hcheck
    exact List.set_getElem_self hposition

theorem run_onCheck (position : Nat) (action : Action Check α) (registry : Registry) :
    (onCheck position action).run registry =
      let change := action.run (registry.checkAt position)
      ⟨{ registry with checks := registry.checks.set position change.state }, change.events,
        change.outcome⟩ :=
  rfl

/-- Asking a check for its name changes nothing. -/
theorem run_name (position : Nat) (registry : Registry) :
    (onCheck position Check.name).run registry =
      ⟨registry, [], Config.requiredField "name" (registry.nameAt position)⟩ := by
  have hname (check : Check) :
      Check.name.run check = ⟨check, [], Config.requiredField "name" check.config.name⟩ := by
    change (if check.config.name.isVoid then _ else _ : Action Check Datum).run check = _
    rw [Config.requiredField]
    split <;> rfl
  rw [run_onCheck, hname]
  dsimp only
  rw [set_checkAt, nameAt]

end OnCheck

/-- Looking a name up changes nothing, and fails over a name that could change. -/
theorem run_get (name : Datum) (registry : Registry) :
    (get name).run registry =
      ⟨registry, [], if name.isStable then .ok (registry.find? name) else .error .notStable⟩ := by
  rw [get]
  split <;> rfl

theorem run_contains (name : Datum) (registry : Registry) :
    (contains name).run registry =
      ⟨registry, [], if name.isStable then .ok (registry.find? name).isSome else .error .notStable⟩ := by
  have hget := run_get name registry
  cases hstable : name.isStable with
  | true =>
    rw [hstable, if_pos rfl] at hget
    rw [contains, Action.run_bind_of_ok (congrArg Change.outcome hget), hget]
    rfl
  | false =>
    rw [hstable, if_neg Bool.false_ne_true] at hget
    rw [contains, Action.run_bind_of_error (congrArg Change.outcome hget), hget]
    rfl

section Add

/-- Why no check with the given name may be added, if none may be. -/
def refusal? (registry : Registry) (name : Datum) : Option Failure :=
  if name.isVoid then some (.missingAttribute "name")
  else if !name.isStable then some .notStable
  else if (registry.find? name).isSome then some (.nameTaken name)
  else none

/-- Adding a check whose name is refused changes nothing. Any other check is registered under the name that
    it has. -/
theorem run_add (position : Nat) (registry : Registry) :
    (add position).run registry =
      match registry.refusal? (registry.nameAt position) with
      | some failure => ⟨registry, [], .error failure⟩
      | none =>
        ⟨{ registry with entries := registry.entries ++ [(registry.nameAt position, position)] },
          [.registered (registry.nameAt position)], .ok ()⟩ := by
  have hname := run_name position registry
  generalize registry.nameAt position = name at hname ⊢
  rw [refusal?]
  cases hvoid : name.isVoid with
  | true =>
    rw [Config.requiredField, if_pos hvoid] at hname
    rw [add, Action.run_bind_of_error (congrArg Change.outcome hname), hname]
    rfl
  | false =>
    rw [Config.requiredField, if_neg (Bool.eq_false_iff.mp hvoid)] at hname
    rw [add, Action.run_bind_of_ok (congrArg Change.outcome hname), hname]
    have hcontains := run_contains name registry
    cases hstable : name.isStable with
    | false =>
      rw [hstable, if_neg Bool.false_ne_true] at hcontains
      rw [Action.run_bind_of_error (congrArg Change.outcome hcontains), hcontains]
      rfl
    | true =>
      rw [hstable, if_pos rfl] at hcontains
      rw [Action.run_bind_of_ok (congrArg Change.outcome hcontains), hcontains]
      cases (registry.find? name).isSome <;> rfl

end Add

/-- A registry of a check for each configuration, in order, of which each remembers nothing but what its
    configuration comes to. -/
structure Holds (configs : List Config) (registry : Registry) : Prop where
  checks : List.Forall₂ Remembers configs registry.checks
  positions : registry.entries.map (·.2) = List.range configs.length

variable {configs : List Config}

theorem exists_check_of_forall₂ {checks : List Check} (hchecks : List.Forall₂ Remembers configs checks)
    {position : Nat} {config : Config} (hconfig : configs[position]? = some config) :
    ∃ check, checks[position]? = some check ∧ check.Remembers config := by
  induction hchecks generalizing position with
  | nil => cases hconfig
  | @cons first check rest checks hfirst _ ih =>
    cases position with
    | zero =>
      cases hconfig
      exact ⟨check, rfl, hfirst⟩
    | succ position => exact ih hconfig

theorem forall₂_set {checks : List Check} (hchecks : List.Forall₂ Remembers configs checks)
    {position : Nat} {config : Config} (hconfig : configs[position]? = some config) {check : Check}
    (hcheck : check.Remembers config) : List.Forall₂ Remembers configs (checks.set position check) := by
  induction hchecks generalizing position with
  | nil => cases hconfig
  | @cons first other rest checks hfirst hrest ih =>
    cases position with
    | zero =>
      cases hconfig
      exact .cons hcheck hrest
    | succ position => exact .cons hfirst (ih hconfig)

/-- What a check comes to by its configuration it comes to in its place, and the others stay as they
    are. -/
theorem onCheck_gives {α : Type} {action : Action Check α} {outcome : Except Failure α}
    {position : Nat} {config : Config} (hconfig : configs[position]? = some config)
    (haction : action.Gives (Remembers config) outcome) :
    (onCheck position action).Gives (Holds configs) outcome := by
  intro registry hholds
  obtain ⟨check, hcheck, hremembers⟩ := exists_check_of_forall₂ hholds.checks hconfig
  obtain ⟨hnext, houtcome⟩ := haction check hremembers
  rw [run_onCheck, checkAt_eq hcheck]
  exact ⟨⟨forall₂_set hholds.checks hconfig hnext, hholds.positions⟩, houtcome⟩

/-- All checks together warn of what each warns of alone, check by check. -/
theorem runAll_gives (scan : Scan) : (runAll scan).Gives (Holds configs)
    ((configs.mapM fun config => ((Check.run scan).run (.ofConfig config)).outcome).map List.flatten) := by
  have halone (config : Config) :
      ((Check.run scan).run (.ofConfig config)).outcome = config.warnings scan :=
    (Check.run_gives scan _ (.ofConfig config)).2
  have hpositions : positions.Gives (Holds configs) (.ok (List.range configs.length)) := by
    intro registry hholds
    exact ⟨hholds, congrArg Except.ok hholds.positions⟩
  have hruns : ((List.range configs.length).mapM fun position =>
      onCheck position (Check.run scan)).Gives (Holds configs)
        (configs.mapM (Config.warnings scan)) := by
    refine .mapM_of_forall₂ (List.forall₂_iff_get.mpr ⟨List.length_range, fun i hi hi' => ?_⟩)
    refine onCheck_gives ?_ (Check.run_gives scan)
    simp
  have houtcome : (configs.mapM (Config.warnings scan)).map List.flatten =
      (configs.mapM (Config.warnings scan) >>= fun warnings => .ok warnings.flatten) := by
    cases configs.mapM (Config.warnings scan) <;> rfl
  simp only [halone, houtcome]
  change Action.Gives _ _ (Except.ok (List.range configs.length) >>= fun _ => _)
  refine hpositions.bind fun positions hfound => ?_
  cases hfound
  exact hruns.bind fun warnings _ => .pure _

section Load

/-- A registry of a fresh check for each configuration, the first of which are registered. -/
def registered (before after : List Config) : Registry :=
  ⟨(before ++ after).map .ofConfig, before.zipIdx.map fun (config, position) => (config.name, position)⟩

theorem holds_registered (configs : List Config) : Holds configs (registered configs []) where
  checks := by
    rw [registered, List.append_nil, List.forall₂_map_right_iff, List.forall₂_same]
    exact fun config _ => .ofConfig config
  positions := by
    rw [registered, List.map_map, List.range_eq_range', ← List.zipIdx_map_snd 0 configs]
    rfl

theorem isSome_find?_registered (before after : List Config) (name : Datum) :
    ((registered before after).find? name).isSome = (before.map Config.name).any (·.same name) := by
  have hnames : (registered before after).entries.map (·.1) = before.map Config.name := by
    have hfirst := congrArg (List.map Config.name) (List.zipIdx_map_fst 0 before)
    rw [List.map_map] at hfirst
    rw [registered, List.map_map]
    exact hfirst
  rw [find?, Option.isSome_map, ← hnames, List.any_map, Bool.eq_iff_iff, List.find?_isSome,
    List.any_eq_true]
  rfl

/-- Adding the next check takes its name. -/
theorem run_add_next (before after : List Config) {config : Config}
    (hstable : config.name.isStable = true) :
    ((add before.length).run (registered before (config :: after))).outcome =
      config.takeName (before.map Config.name) ∧
    (config.takeName (before.map Config.name) = .ok () →
      ((add before.length).run (registered before (config :: after))).state =
        registered (before ++ [config]) after) := by
  have hname : (registered before (config :: after)).nameAt before.length = config.name := by
    have hcheck : (registered before (config :: after)).checks[before.length]? =
        some (Check.ofConfig config) := by
      simp [registered]
    rw [nameAt, checkAt_eq hcheck]
    rfl
  rw [run_add, hname, refusal?, hstable, isSome_find?_registered]
  cases hvoid : config.name.isVoid with
  | true =>
    rw [Config.takeName, Config.requiredField, hvoid]
    refine ⟨rfl, fun htaken => ?_⟩
    cases htaken
  | false =>
    have htake : config.takeName (before.map Config.name) =
        if (before.map Config.name).any (·.same config.name) then .error (.nameTaken config.name)
        else .ok () := by
      rw [Config.takeName, Config.requiredField, hvoid]
      rfl
    rw [htake]
    cases (before.map Config.name).any (·.same config.name) with
    | true =>
      refine ⟨rfl, fun htaken => ?_⟩
      cases htaken
    | false =>
      have hnext : registered (before ++ [config]) after =
          ⟨(registered before (config :: after)).checks,
            (registered before (config :: after)).entries ++ [(config.name, before.length)]⟩ := by
        simp [registered, List.zipIdx_append]
      rw [hnext]
      exact ⟨rfl, fun _ => rfl⟩

/-- Adding all checks that are left takes their names. -/
theorem run_addAll (before : List Config) {after : List Config}
    (hstable : ∀ config ∈ after, config.name.isStable = true) :
    let change := ((List.range' before.length after.length).forM add).run (registered before after)
    change.outcome = Config.takeNames (before.map Config.name) after ∧
    (change.outcome = .ok () → change.state = registered (before ++ after) []) := by
  induction after generalizing before with
  | nil => exact ⟨rfl, fun _ => by rw [List.append_nil]; rfl⟩
  | cons config after ih =>
    obtain ⟨hconfig, hafter⟩ := List.forall_mem_cons.mp hstable
    obtain ⟨houtcome, hstate⟩ := run_add_next before after hconfig
    have hloop : (List.range' before.length (config :: after).length).forM add =
        (add before.length >>= fun _ =>
          (List.range' (before ++ [config]).length after.length).forM add) := by
      rw [List.length_append]
      rfl
    rw [hloop, Config.takeNames]
    cases htaken : config.takeName (before.map Config.name) with
    | error failure =>
      rw [htaken] at houtcome
      rw [Action.run_bind_of_error houtcome]
      exact ⟨rfl, nofun⟩
    | ok _ =>
      rw [htaken] at houtcome
      rw [Action.run_bind_of_ok houtcome, hstate htaken]
      have hrest := ih (before ++ [config]) hafter
      rw [List.map_append, List.append_assoc] at hrest
      exact hrest

end Load

end Registry

end CallAudit

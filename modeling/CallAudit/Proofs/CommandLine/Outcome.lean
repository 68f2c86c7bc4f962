import CallAudit.Proofs.Check.Loading
import CallAudit.Proofs.Check.Registration
import CallAudit.Proofs.Check.Validated
import CallAudit.Proofs.Json.RoundTrip
import Mathlib.Data.List.TakeWhile

/-!
# All results or none

A command that ends with a reported error has printed nothing, and one that ends well has printed a line
for each result. The results of a query are what the store of the loaded calls finds, and those of the
checks are what each check of the file warns of when it is run alone.
-/

namespace CallAudit

theorem Except.ok_bind {α β : Type} (a : α) (next : α → Except Failure β) :
    (Except.ok a >>= next) = next a := rfl

theorem Config.isRead_of_load {path : String} {view : FileView} {configs : List Config}
    (hload : (load path view).outcome = .ok configs) : ∀ config ∈ configs, config.IsRead := by
  cases view with
  | unreadable error =>
    cases hload
    nofun
  | file bytes =>
    rw [outcome_load] at hload
    obtain ⟨text, tables, _, _, hvalid⟩ := ofBytes_eq_ok_iff.mp hload
    intro config hconfig
    obtain ⟨table, _, hread⟩ := Json.exists_left_of_forall₂ hvalid hconfig
    exact isRead_of_ofDatum hread

theorem Config.IsRead.isStable_name {config : Config} (hread : config.IsRead) :
    config.name.isStable = true := by
  obtain ⟨name, hname⟩ := hread.name
  rw [hname]
  cases name <;> rfl

namespace CommandLine

/-- The store of the calls in a file. -/
def storeOf (calls : List Call) : Store := Store.empty.insertAll (sitesOf calls)

theorem map_call_sitesOf (calls : List Call) : (sitesOf calls).map Site.call = calls := by
  rw [sitesOf, List.map_map]
  exact List.zipIdx_map_fst 0 calls

/-- The query that the options of a command ask for. -/
def QueryCommand.asked (command : QueryCommand) : Except Failure Query := do
  let receiver ← if command.withoutTarget then .ok .null else queryOption command.targets
  let method ← queryOption command.methods
  return { receiver, method, chained := .bool command.chained, nested := .bool command.nested }

/-- The calls that the store of the loaded calls finds, or why there is no answer. -/
def QueryCommand.outcome (command : QueryCommand) (files : Files) : Except Failure (List Datum) := do
  let calls ← (Call.load command.calls (files command.calls)).outcome
  let query ← command.asked
  let sites ← ((storeOf calls).find query).outcome
  return sites.map fun site => site.call.toDatum

/-- The warnings of a fresh check of each configuration, each run alone on the loaded calls. Names are taken
    before the calls are loaded, and the first check that fails decides. -/
def CheckCommand.outcome (command : CheckCommand) (files : Files) : Except Failure (List Datum) := do
  let configs ← (Config.load command.checks (files command.checks)).outcome
  Config.takeNames [] configs
  let calls ← (Call.load command.calls (files command.calls)).outcome
  let warnings ← configs.mapM fun config =>
    ((Check.run ⟨storeOf calls, command.models, .none⟩).run (.ofConfig config)).outcome
  return warnings.flatten.map Warning.toDatum

def Task.outcome (files : Files) : Task → Except Failure (List Datum)
  | .query command => command.outcome files
  | .check command => command.outcome files

section Loading

variable {files : Files} {path : String}

theorem run_loadStore {calls : List Call} (hload : (Call.load path (files path)).outcome = .ok calls) :
    ((loadStore files path).run .empty).outcome = .ok () ∧
      ((loadStore files path).run .empty).state = storeOf calls := by
  have hanswer : ((Action.ofAnswer (Call.load path (files path)) :
      Action Store (List Call)).run .empty).outcome = .ok calls := hload
  rw [loadStore, Action.run_bind_of_ok hanswer]
  exact ⟨rfl, rfl⟩

theorem run_loadStore_of_error {failure : Failure} (store : Store)
    (hload : (Call.load path (files path)).outcome = .error failure) :
    ((loadStore files path).run store).outcome = .error failure := by
  have hanswer : ((Action.ofAnswer (Call.load path (files path)) :
      Action Store (List Call)).run store).outcome = .error failure := hload
  rw [loadStore, Action.run_bind_of_error hanswer]

theorem run_loadRegistry {configs : List Config}
    (hload : (Config.load path (files path)).outcome = .ok configs) (registry : Registry) :
    ((loadRegistry files path).run registry).outcome = Config.takeNames [] configs ∧
      (Config.takeNames [] configs = .ok () →
        Registry.Holds configs ((loadRegistry files path).run registry).state) := by
  have hanswer : ((Action.ofAnswer (Config.load path (files path)) :
      Action Registry (List Config)).run registry).outcome = .ok configs := hload
  have hstable : ∀ config ∈ configs, config.name.isStable = true :=
    fun config hconfig => (Config.isRead_of_load hload config hconfig).isStable_name
  have hloop : (do Action.write (.ofChecks (configs.map Check.ofConfig))
                   (List.range configs.length).forM Registry.add : Action Registry Unit).run
        ((Action.ofAnswer (Config.load path (files path)) :
          Action Registry (List Config)).run registry).state =
      ((List.range' 0 configs.length).forM Registry.add).run (Registry.registered [] configs) := by
    rw [List.range_eq_range']
    rfl
  obtain ⟨houtcome, hstate⟩ := Registry.run_addAll [] hstable
  rw [loadRegistry, Action.run_bind_of_ok hanswer, hloop]
  refine ⟨houtcome, fun htaken => ?_⟩
  have hregistered := hstate (houtcome.trans htaken)
  exact hregistered ▸ Registry.holds_registered configs

theorem run_loadRegistry_of_error {failure : Failure} (registry : Registry)
    (hload : (Config.load path (files path)).outcome = .error failure) :
    ((loadRegistry files path).run registry).outcome = .error failure := by
  have hanswer : ((Action.ofAnswer (Config.load path (files path)) :
      Action Registry (List Config)).run registry).outcome = .error failure := hload
  rw [loadRegistry, Action.run_bind_of_error hanswer]

end Loading

theorem outcome_find (store : Store) (query : Query) :
    ((do let sites ← Action.ofAnswer ((← Action.read).find query)
         return sites.map fun site => site.call.toDatum : Action Store (List Datum)).run store).outcome =
      (do let sites ← (store.find query).outcome
          return sites.map fun site => site.call.toDatum) := by
  change ((Action.ofAnswer (store.find query) >>= fun sites => pure _ : Action Store _).run _).outcome = _
  rw [Action.outcome_bind]
  rfl

theorem QueryCommand.outcome_answer (command : QueryCommand) (files : Files) :
    ((Task.query command).answer files).outcome = command.outcome files := by
  rw [Task.answer, results, outcome]
  dsimp only
  cases hload : (Call.load command.calls (files command.calls)).outcome with
  | error failure =>
    rw [Action.run_bind_of_error (run_loadStore_of_error .empty hload)]
    rfl
  | ok calls =>
    obtain ⟨hloaded, hstate⟩ := run_loadStore hload
    rw [Action.run_bind_of_ok hloaded, hstate, asked]
    cases command.withoutTarget with
    | true =>
      cases queryOption command.methods with
      | error failure => rfl
      | ok method => exact outcome_find (storeOf calls) _
    | false =>
      cases queryOption command.targets with
      | error failure => rfl
      | ok receiver =>
        cases queryOption command.methods with
        | error failure => rfl
        | ok method => exact outcome_find (storeOf calls) _

section Parts

open CheckCommand.results (onRegistry onStore)

variable {α : Type} (both : Registry × Store)

theorem run_onRegistry (action : Action Registry α) :
    (onRegistry action).run both =
      ⟨((action.run both.1).state, both.2), (action.run both.1).events, (action.run both.1).outcome⟩ :=
  rfl

theorem run_onStore (action : Action Store α) :
    (onStore action).run both =
      ⟨(both.1, (action.run both.2).state), (action.run both.2).events, (action.run both.2).outcome⟩ :=
  rfl

/-- Once the checks are registered and the calls are loaded, each check runs as if it were alone. -/
theorem outcome_runAll {configs : List Config} {both : Registry × Store}
    (hholds : both.1.Holds configs) (models : List String) :
    ((onRegistry (Registry.runAll ⟨both.2, models, .none⟩) >>= fun warnings =>
        pure (warnings.map Warning.toDatum) : Action (Registry × Store) (List Datum)).run both).outcome =
      (do let warnings ← configs.mapM fun config =>
            ((Check.run ⟨both.2, models, .none⟩).run (.ofConfig config)).outcome
          return warnings.flatten.map Warning.toDatum) := by
  obtain ⟨_, houtcome⟩ := Registry.runAll_gives ⟨both.2, models, .none⟩ both.1 hholds
  rw [Action.outcome_bind, run_onRegistry]
  dsimp only
  rw [houtcome]
  generalize (configs.mapM fun config =>
    ((Check.run ⟨both.2, models, .none⟩).run (.ofConfig config)).outcome) = runs
  cases runs with
  | error failure => rfl
  | ok warnings => rfl

end Parts

theorem CheckCommand.outcome_answer (command : CheckCommand) (files : Files) :
    ((Task.check command).answer files).outcome = command.outcome files := by
  rw [Task.answer, results, outcome]
  dsimp only
  rw [Action.outcome_bind, run_onRegistry]
  dsimp only
  cases hchecks : (Config.load command.checks (files command.checks)).outcome with
  | error failure =>
    rw [run_loadRegistry_of_error (.ofChecks []) hchecks]
    rfl
  | ok configs =>
    obtain ⟨houtcome, hholds⟩ := run_loadRegistry hchecks (.ofChecks [])
    rw [houtcome, Except.ok_bind]
    cases hnames : Config.takeNames [] configs with
    | error failure => rfl
    | ok _ =>
      rw [Except.ok_bind, Except.ok_bind, Action.outcome_bind, run_onStore]
      dsimp only
      cases hcalls : (Call.load command.calls (files command.calls)).outcome with
      | error failure =>
        rw [run_loadStore_of_error .empty hcalls]
        rfl
      | ok calls =>
        obtain ⟨hloaded, hstate⟩ := run_loadStore hcalls
        rw [hloaded, hstate, Except.ok_bind, Except.ok_bind, Action.run_read_bind]
        exact outcome_runAll (hholds hnames) command.models

theorem Task.outcome_answer (task : Task) (files : Files) :
    (task.answer files).outcome = task.outcome files := by
  cases task with
  | query command => exact command.outcome_answer files
  | check command => exact command.outcome_answer files

/-- Data are printed up to the first that cannot be written. -/
theorem exists_printedLines (data : List Datum) :
    ∃ lines, printedLines data = (lines, data.all fun d => (Json.write? d).isSome) ∧
      List.Forall₂ (fun d line => Json.write? d = some line)
        (data.takeWhile fun d => (Json.write? d).isSome) lines := by
  induction data with
  | nil => exact ⟨[], rfl, .nil⟩
  | cons d rest ih =>
    obtain ⟨lines, hprinted, hlines⟩ := ih
    rw [printedLines, List.all_cons, List.takeWhile_cons]
    cases hwrite : Json.write? d with
    | none => exact ⟨[], rfl, .nil⟩
    | some line =>
      rw [hprinted]
      exact ⟨line :: lines, rfl, .cons hwrite hlines⟩

theorem printedLines_of_forall₂ {data : List Datum} {lines : List String}
    (hlines : List.Forall₂ (fun d line => Json.write? d = some line) data lines) :
    printedLines data = (lines, true) := by
  induction hlines with
  | nil => rfl
  | cons hline _ ih => rw [printedLines, hline, ih]

section Report

variable {task : Task} {files : Files}

theorem report_of_ok {results : List Datum} (hok : task.outcome files = .ok results) (verbose : Bool) :
    (Command.report ⟨verbose, task⟩ files).output = linesText (printedLines results).1 ∧
      (Command.report ⟨verbose, task⟩ files).ending =
        if (printedLines results).2 then .exit 0 else .abort .notWritable := by
  rw [← Task.outcome_answer] at hok
  rw [Command.report, hok]
  exact ⟨rfl, rfl⟩

end Report

section Arguments

variable {arguments : List String} {files : Files} {command : Command}

end Arguments

end CommandLine

end CallAudit

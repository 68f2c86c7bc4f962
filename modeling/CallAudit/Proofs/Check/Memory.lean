import CallAudit.Check.Basic
import Mathlib.Data.List.Forall2

/-!
# What a check remembers

A check remembers its warning code and the names of its methods once it has worked them out, and goes by
them from then on. Nothing that it is asked changes what it goes by. As long as its configuration is not
edited, everything it is asked comes to what the configuration alone comes to.
-/

namespace CallAudit

section Except

variable {ε α β : Type}

theorem Except.exists_of_bind_eq_ok {outcome : Except ε α} {next : α → Except ε β} {b : β}
    (h : (outcome >>= next) = .ok b) : ∃ a, outcome = .ok a ∧ next a = .ok b := by
  cases outcome with
  | error failure => cases h
  | ok a => exact ⟨a, rfl, h⟩

/-- What is made of a list one by one is made of its items. -/
theorem Except.exists_of_mem_mapM {f : α → Except ε β} {items : List α} {results : List β}
    (h : items.mapM f = .ok results) {b : β} (hb : b ∈ results) : ∃ a ∈ items, f a = .ok b := by
  induction items generalizing results with
  | nil =>
    cases h
    cases hb
  | cons item rest ih =>
    rw [List.mapM_cons] at h
    obtain ⟨first, hfirst, hrest⟩ := Except.exists_of_bind_eq_ok h
    obtain ⟨others, hothers, hall⟩ := Except.exists_of_bind_eq_ok hrest
    cases hall
    cases hb with
    | head => exact ⟨item, List.mem_cons_self, hfirst⟩
    | tail _ hmem =>
      obtain ⟨a, ha, hresult⟩ := ih hothers hmem
      exact ⟨a, List.mem_cons_of_mem item ha, hresult⟩

end Except

namespace Action

variable {σ α β : Type} {kept : σ → Prop}

/-- From every state that a condition holds of, an action comes to the given outcome and leads to another
    state that it holds of. -/
def Gives (action : Action σ α) (kept : σ → Prop) (outcome : Except Failure α) : Prop :=
  ∀ state, kept state → kept (action.run state).state ∧ (action.run state).outcome = outcome

namespace Gives

theorem pure (a : α) : (Pure.pure a : Action σ α).Gives kept (.ok a) :=
  fun _ hkept => ⟨hkept, rfl⟩

theorem fail (failure : Failure) : (Action.fail failure : Action σ α).Gives kept (.error failure) :=
  fun _ hkept => ⟨hkept, rfl⟩

theorem report (event : Event) : (Action.report event : Action σ Unit).Gives kept (.ok ()) :=
  fun _ hkept => ⟨hkept, rfl⟩

theorem ofExcept (outcome : Except Failure α) :
    (Action.ofExcept outcome : Action σ α).Gives kept outcome :=
  fun _ hkept => ⟨hkept, rfl⟩

theorem ofAnswer (answer : Answer α) :
    (Action.ofAnswer answer : Action σ α).Gives kept answer.outcome :=
  fun _ hkept => ⟨hkept, rfl⟩

theorem congr {kept' : σ → Prop} {action : Action σ α} {outcome : Except Failure α}
    (h : action.Gives kept outcome) (hkept : ∀ state, kept state ↔ kept' state) :
    action.Gives kept' outcome := by
  intro state hstate
  obtain ⟨hnext, houtcome⟩ := h state ((hkept state).mpr hstate)
  exact ⟨(hkept _).mp hnext, houtcome⟩

theorem write {state : σ} (hkept : kept state) : (Action.write state).Gives kept (.ok ()) :=
  fun _ _ => ⟨hkept, rfl⟩

/-- The second of two actions matters only if the first comes to a value. -/
theorem bind {first : Action σ α} {second : α → Action σ β} {outcome : Except Failure α}
    {next : α → Except Failure β} (hfirst : first.Gives kept outcome)
    (hsecond : ∀ a, outcome = .ok a → (second a).Gives kept (next a)) :
    (first >>= second).Gives kept (outcome >>= next) := by
  intro state hkept
  obtain ⟨hstate, houtcome⟩ := hfirst state hkept
  cases outcome with
  | error failure =>
    rw [Action.run_bind_of_error houtcome]
    exact ⟨hstate, rfl⟩
  | ok a =>
    rw [Action.run_bind_of_ok houtcome]
    exact hsecond a rfl _ hstate

/-- Reading the state tells no more of it than the condition. -/
theorem read_bind {second : σ → Action σ β} {outcome : Except Failure β}
    (hsecond : ∀ state, kept state → (second state).Gives kept outcome) :
    (Action.read >>= second).Gives kept outcome :=
  fun state hkept => hsecond state hkept state hkept

/-- Actions on items are put together if each comes to what is told of its counterpart. -/
theorem mapM_of_forall₂ {γ : Type} {action : α → Action σ β} {outcome : γ → Except Failure β}
    {items : List α} {others : List γ}
    (hactions : List.Forall₂ (fun item other => (action item).Gives kept (outcome other)) items others) :
    (items.mapM action).Gives kept (others.mapM outcome) := by
  have hloop (done : List β) :
      (List.mapM.loop action items done).Gives kept (List.mapM.loop outcome others done) := by
    induction hactions generalizing done with
    | nil => exact .pure _
    | cons haction _ ih => exact haction.bind fun b _ => ih (b :: done)
  exact hloop []

theorem mapM {action : α → Action σ β} {outcome : α → Except Failure β} {items : List α}
    (hactions : ∀ item ∈ items, (action item).Gives kept (outcome item)) :
    (items.mapM action).Gives kept (items.mapM outcome) :=
  mapM_of_forall₂ (List.forall₂_same.mpr hactions)

/-- A pass over a list comes to what its steps come to. -/
theorem foldlM {step : β → α → Action σ β} {next : β → α → Except Failure β}
    (hstep : ∀ b a, (step b a).Gives kept (next b a)) (items : List α) (b : β) :
    (items.foldlM step b).Gives kept (items.foldlM next b) := by
  induction items generalizing b with
  | nil => exact .pure b
  | cons item rest ih => exact (hstep b item).bind fun b' _ => ih b'

end Gives

end Action

namespace Config

/-- A field that must not be void. -/
def requiredField (field : String) (value : Datum) : Except Failure Datum :=
  if value.isVoid then .error (.missingAttribute field) else .ok value

theorem eq_of_requiredField {field : String} {value result : Datum}
    (h : requiredField field value = .ok result) : result = value := by
  unfold requiredField at h
  split at h
  · cases h
  · exact (Except.ok.inj h).symm

/-- The configured code, or else the derived one. -/
def codeInUse (config : Config) : Except Failure Datum :=
  match config.warningCode with
  | .null => config.derivedCode.map fun code => Datum.int code
  | code => .ok code

theorem codeInUse_of_ne_null {config : Config} (hgiven : config.warningCode ≠ .null) :
    config.codeInUse = .ok config.warningCode := by
  unfold codeInUse
  split
  · next hnull => exact absurd hnull hgiven
  · rfl

/-- The names of the methods that a configuration is about. -/
def methodNames (config : Config) : Except Failure (List String) :=
  match config.methods with
  | .list items => .ok (items.map Datum.plainText)
  | .object fields => .ok (fields.map (·.1))
  | _ => .error (Check.malformedMethods config)

theorem methodNames_eq_error {config : Config} (hlist : ∀ items, config.methods ≠ .list items)
    (hobject : ∀ fields, config.methods ≠ .object fields) :
    config.methodNames = .error (Check.malformedMethods config) := by
  unfold methodNames
  split
  · next items hitems => exact absurd hitems (hlist items)
  · next fields hfields => exact absurd hfields (hobject fields)
  · rfl

/-- The query that a configuration stands for. -/
def query (scan : Scan) (config : Config) : Except Failure Query :=
  if config.targets.isVoid then
    config.methodNames.map fun names => { methods := Check.query.textList names }
  else do
    let targets ← Check.targets config scan.models
    let names ← config.methodNames
    return { receivers := .ofDatum (.list targets), methods := Check.query.textList names }

/-- The warning about one call. -/
def warningAt (scan : Scan) (config : Config) (site : Site) : Except Failure Warning := do
  let arguments ← Check.relevantArguments config site.call
  let grade := Grade.ofArguments scan.classifier arguments
  let name ← requiredField "name" config.name
  let symbol ← requiredField "warning_symbol" config.warningSymbol
  let code ← config.codeInUse
  let message :=
    s!"{site.call.method} called on {site.call.receiver.described}{grade.suffix}"
  return ⟨name, symbol, code, message, grade.confidence, site, grade.userInput⟩

/-- The sites that a configuration asks for, each as often as it was added. -/
def sitesFound (scan : Scan) (config : Config) : Except Failure (List Site) := do
  let query ← config.query scan
  (scan.store.find query).outcome

/-- The warnings about the sites that a configuration asks for. -/
def warnings (scan : Scan) (config : Config) : Except Failure (List Warning) := do
  let _ ← requiredField "name" config.name
  let sites ← config.sitesFound scan
  (Check.distinctSites sites).mapM (config.warningAt scan)

end Config

namespace Check

/-- The code that a check goes by: the one it remembers, or else the one its configuration comes to. -/
def codeInUse (check : Check) : Except Failure Datum :=
  match check.knownCode with
  | some code => .ok code
  | none => check.config.codeInUse

/-- The names of methods that a check goes by. -/
def namesInUse (check : Check) : Except Failure (List String) :=
  match check.knownMethods with
  | some names => .ok names
  | none => check.config.methodNames

theorem codeInUse_of_known {check : Check} {code : Datum} (hknown : check.knownCode = some code) :
    check.codeInUse = .ok code := by
  rw [codeInUse, hknown]

theorem codeInUse_of_unknown {check : Check} (hunknown : check.knownCode = none) :
    check.codeInUse = check.config.codeInUse := by
  rw [codeInUse, hunknown]

theorem namesInUse_of_known {check : Check} {names : List String}
    (hknown : check.knownMethods = some names) : check.namesInUse = .ok names := by
  rw [namesInUse, hknown]

theorem namesInUse_of_unknown {check : Check} (hunknown : check.knownMethods = none) :
    check.namesInUse = check.config.methodNames := by
  rw [namesInUse, hunknown]

/-- The query that a check makes by the names it goes by. -/
def queryInUse (scan : Scan) (check : Check) : Except Failure Query :=
  if check.config.targets.isVoid then
    check.namesInUse.map fun names => { methods := query.textList names }
  else do
    let targets ← targets check.config scan.models
    let names ← check.namesInUse
    return { receivers := .ofDatum (.list targets), methods := query.textList names }

/-- The warning about one call, with the code that a check goes by. -/
def warningAt (scan : Scan) (check : Check) (site : Site) : Except Failure Warning := do
  let arguments ← relevantArguments check.config site.call
  let grade := Grade.ofArguments scan.classifier arguments
  let name ← Config.requiredField "name" check.config.name
  let symbol ← Config.requiredField "warning_symbol" check.config.warningSymbol
  let code ← check.codeInUse
  let message :=
    s!"{site.call.method} called on {site.call.receiver.described}{grade.suffix}"
  return ⟨name, symbol, code, message, grade.confidence, site, grade.userInput⟩

/-- The sites that a check finds. -/
def sitesFound (scan : Scan) (check : Check) : Except Failure (List Site) := do
  let query ← check.queryInUse scan
  (scan.store.find query).outcome

/-- The warnings that a run of a check comes to. -/
def warnings (scan : Scan) (check : Check) : Except Failure (List Warning) := do
  let _ ← Config.requiredField "name" check.config.name
  let sites ← check.sitesFound scan
  (distinctSites sites).mapM (check.warningAt scan)

/-- Whether another check goes by the same configuration, code and names. -/
structure GoesAs (check other : Check) : Prop where
  config_eq : other.config = check.config
  code_eq : other.codeInUse = check.codeInUse
  names_eq : other.namesInUse = check.namesInUse

theorem GoesAs.refl (check : Check) : check.GoesAs check := ⟨rfl, rfl, rfl⟩

section InUse

variable {check : Check}

theorem requiredField_goesAs (field : String) (value : Config → Datum) :
    (requiredField field value).Gives check.GoesAs
      (Config.requiredField field (value check.config)) := by
  refine .read_bind fun other hother => ?_
  rw [hother.config_eq, Config.requiredField]
  dsimp only
  split
  · exact .fail _
  · exact .pure _

/-- Writing down what one goes by anyway does not change what one goes by. -/
theorem GoesAs.keepCode {other : Check} (hother : check.GoesAs other) {action : Action Check Datum}
    (haction : action.Gives check.GoesAs check.codeInUse) :
    (action >>= fun code => Action.write { other with knownCode := some code } >>= fun _ =>
      pure code).Gives check.GoesAs check.codeInUse := by
  have hkeeps : (action >>= fun code => Action.write { other with knownCode := some code } >>=
      fun _ => pure code).Gives check.GoesAs
        (check.codeInUse >>= fun code => .ok () >>= fun _ => .ok code) := by
    refine haction.bind fun code hcode => (Action.Gives.write ?_).bind fun _ _ => .pure code
    exact { hother with code_eq := hcode.symm }
  cases houtcome : check.codeInUse <;> rwa [houtcome] at hkeeps

theorem GoesAs.keepMethods {other : Check} (hother : check.GoesAs other)
    {action : Action Check (List String)} (haction : action.Gives check.GoesAs check.namesInUse) :
    (action >>= fun names => Action.write { other with knownMethods := some names } >>= fun _ =>
      pure names).Gives check.GoesAs check.namesInUse := by
  have hkeeps : (action >>= fun names => Action.write { other with knownMethods := some names } >>=
      fun _ => pure names).Gives check.GoesAs
        (check.namesInUse >>= fun names => .ok () >>= fun _ => .ok names) := by
    refine haction.bind fun names hnames => (Action.Gives.write ?_).bind fun _ _ => .pure names
    exact { hother with names_eq := hnames.symm }
  cases houtcome : check.namesInUse <;> rwa [houtcome] at hkeeps

theorem warningCode_goesAs : warningCode.Gives check.GoesAs check.codeInUse := by
  refine .read_bind fun other hother => ?_
  cases hknown : other.knownCode with
  | some code =>
    rw [← hother.code_eq, codeInUse_of_known hknown]
    exact .pure code
  | none =>
    have hcode : check.codeInUse = other.config.codeInUse :=
      hother.code_eq.symm.trans (codeInUse_of_unknown hknown)
    dsimp only
    split
    · next hnull =>
      refine hother.keepCode ?_
      rw [hcode, Config.codeInUse, hnull]
      exact .ofExcept _
    · next hgiven =>
      refine hother.keepCode ?_
      rw [hcode, Config.codeInUse_of_ne_null hgiven]
      exact .pure _

theorem methodNames_goesAs : methodNames.Gives check.GoesAs check.namesInUse := by
  refine .read_bind fun other hother => ?_
  cases hknown : other.knownMethods with
  | some names =>
    rw [← hother.names_eq, namesInUse_of_known hknown]
    exact .pure names
  | none =>
    have hnames : check.namesInUse = other.config.methodNames :=
      hother.names_eq.symm.trans (namesInUse_of_unknown hknown)
    dsimp only
    split
    · next items hitems =>
      refine hother.keepMethods ?_
      rw [hnames, Config.methodNames, hitems]
      exact .pure _
    · next fields hfields =>
      refine hother.keepMethods ?_
      rw [hnames, Config.methodNames, hfields]
      exact .pure _
    · next hlist hobject =>
      refine hother.keepMethods ?_
      rw [hnames, Config.methodNames_eq_error hlist hobject]
      exact .fail _

theorem query_goesAs (scan : Scan) : (query scan).Gives check.GoesAs (check.queryInUse scan) := by
  refine .read_bind fun other hother => ?_
  simp only [hother.config_eq, queryInUse]
  split
  · exact methodNames_goesAs.bind fun names _ => .pure _
  · refine (Action.Gives.ofExcept _).bind fun targets _ => ?_
    exact methodNames_goesAs.bind fun names _ => .pure _

theorem process_goesAs (scan : Scan) (site : Site) :
    (process scan site).Gives check.GoesAs (check.warningAt scan site) := by
  refine .read_bind fun other hother => ?_
  simp only [hother.config_eq]
  refine (Action.Gives.ofExcept _).bind fun arguments _ => ?_
  refine (requiredField_goesAs "name" Config.name).bind fun name _ => ?_
  refine (requiredField_goesAs "warning_symbol" Config.warningSymbol).bind fun symbol _ => ?_
  exact warningCode_goesAs.bind fun code _ => .pure _

/-- A run comes to what a check goes by, and changes nothing about that. -/
theorem run_goesAs (scan : Scan) : (run scan).Gives check.GoesAs (check.warnings scan) := by
  have hname : name.Gives check.GoesAs (Config.requiredField "name" check.config.name) :=
    requiredField_goesAs "name" Config.name
  refine hname.bind fun name hfound => ?_
  -- The name is there, so reading it again for the second report does not fail.
  have hagain : Check.name.Gives check.GoesAs (.ok name) := hfound ▸ hname
  have houtcome : (Except.ok () >>= fun _ => check.queryInUse scan >>= fun query =>
      (scan.store.find query).outcome >>= fun sites => .ok name >>= fun _ => .ok () >>= fun _ =>
        (distinctSites sites).mapM (check.warningAt scan)) =
      (check.sitesFound scan >>= fun sites =>
        (distinctSites sites).mapM (check.warningAt scan)) := by
    rw [sitesFound]
    cases check.queryInUse scan <;> rfl
  rw [← houtcome]
  refine (Action.Gives.report _).bind fun _ _ => ?_
  refine (query_goesAs scan).bind fun query _ => ?_
  refine (Action.Gives.ofAnswer _).bind fun sites _ => ?_
  refine hagain.bind fun _ _ => ?_
  refine (Action.Gives.report _).bind fun _ _ => ?_
  exact .mapM fun site _ => process_goesAs scan site

/-- A warning is marked with the present name and symbol of the check, and the code that it goes by. -/
theorem marks_of_warningAt {scan : Scan} {site : Site} {warning : Warning}
    (hwarning : check.warningAt scan site = .ok warning) :
    warning.check = check.config.name ∧ warning.symbol = check.config.warningSymbol ∧
      check.codeInUse = .ok warning.code := by
  obtain ⟨arguments, _, hnamed⟩ := Except.exists_of_bind_eq_ok hwarning
  obtain ⟨name, hname, hmarked⟩ := Except.exists_of_bind_eq_ok hnamed
  obtain ⟨symbol, hsymbol, hcoded⟩ := Except.exists_of_bind_eq_ok hmarked
  obtain ⟨code, hcode, hmade⟩ := Except.exists_of_bind_eq_ok hcoded
  cases hmade
  exact ⟨Config.eq_of_requiredField hname, Config.eq_of_requiredField hsymbol, hcode⟩

/-- All warnings of a run are marked alike. -/
theorem marks_of_warnings {scan : Scan} {found : List Warning} (hfound : check.warnings scan = .ok found) :
    ∀ warning ∈ found, warning.check = check.config.name ∧
      warning.symbol = check.config.warningSymbol ∧ check.codeInUse = .ok warning.code := by
  obtain ⟨_, _, hsearched⟩ := Except.exists_of_bind_eq_ok hfound
  obtain ⟨sites, _, hwarned⟩ := Except.exists_of_bind_eq_ok hsearched
  intro warning hwarning
  obtain ⟨site, _, hsite⟩ := Except.exists_of_mem_mapM hwarned hwarning
  exact marks_of_warningAt hsite

end InUse

/-- A check that has a configuration and remembers nothing but what that comes to. -/
structure Remembers (config : Config) (check : Check) : Prop where
  config_eq : check.config = config
  code_eq : ∀ code, check.knownCode = some code → config.codeInUse = .ok code
  methods_eq : ∀ names, check.knownMethods = some names → config.methodNames = .ok names

variable {config : Config}

theorem Remembers.ofConfig (config : Config) : (ofConfig config).Remembers config where
  config_eq := rfl
  code_eq := by simp [Check.ofConfig]
  methods_eq := by simp [Check.ofConfig]

/-- A check that remembers nothing but what its configuration comes to goes by what a fresh one does. -/
theorem goesAs_ofConfig_iff {check : Check} :
    (Check.ofConfig config).GoesAs check ↔ check.Remembers config := by
  have hcode : (Check.ofConfig config).codeInUse = config.codeInUse := rfl
  have hnames : (Check.ofConfig config).namesInUse = config.methodNames := rfl
  constructor
  · intro h
    refine ⟨h.config_eq, fun code hknown => ?_, fun names hknown => ?_⟩
    · rw [← hcode, ← h.code_eq, codeInUse_of_known hknown]
    · rw [← hnames, ← h.names_eq, namesInUse_of_known hknown]
  · intro h
    refine ⟨h.config_eq, ?_, ?_⟩
    · cases hknown : check.knownCode with
      | some code => rw [codeInUse_of_known hknown, hcode, h.code_eq code hknown]
      | none => rw [codeInUse_of_unknown hknown, h.config_eq, hcode]
    · cases hknown : check.knownMethods with
      | some names => rw [namesInUse_of_known hknown, hnames, h.methods_eq names hknown]
      | none => rw [namesInUse_of_unknown hknown, h.config_eq, hnames]

theorem process_gives (scan : Scan) (site : Site) :
    (process scan site).Gives (Remembers config) (config.warningAt scan site) := by
  have hfresh : (process scan site).Gives (Check.ofConfig config).GoesAs (config.warningAt scan site) :=
    process_goesAs scan site
  exact hfresh.congr fun _ => goesAs_ofConfig_iff

/-- A run comes to what the configuration comes to, whatever the check remembers of it. -/
theorem run_gives (scan : Scan) : (run scan).Gives (Remembers config) (config.warnings scan) := by
  have hfresh : (run scan).Gives (Check.ofConfig config).GoesAs (config.warnings scan) :=
    run_goesAs scan
  exact hfresh.congr fun _ => goesAs_ofConfig_iff

end Check

end CallAudit

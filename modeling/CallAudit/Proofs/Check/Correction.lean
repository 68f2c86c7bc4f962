import Mathlib
import CallAudit.Proofs.Check.Agreement
import CallAudit.Proofs.Check.Selection

/-!
# Checks that are fixed up

A check may be asked before its configuration is complete, and the configuration may be edited afterwards.
Only a failed run leaves something behind: the names of methods, and the code if it made a warning before
it failed. An edit that changes these is not seen by later runs.
-/

namespace CallAudit

namespace Action

variable {σ α β : Type}

/-- From every state, an action leads back to that state if it fails. -/
def LeavesOnFailure (action : Action σ α) : Prop :=
  ∀ state failure, (action.run state).outcome = .error failure → (action.run state).state = state

/-- From every state, an action leads back to that state. -/
def Leaves (action : Action σ α) : Prop := ∀ state, (action.run state).state = state

theorem leaves_pure (a : α) : (pure a : Action σ α).Leaves := fun _ => rfl

theorem leaves_ofExcept (outcome : Except Failure α) : (ofExcept outcome : Action σ α).Leaves :=
  fun _ => rfl

theorem Leaves.leavesOnFailure {action : Action σ α} (h : action.Leaves) : action.LeavesOnFailure :=
  fun state _ _ => h state

theorem leaves_read_bind {second : σ → Action σ β} (hsecond : ∀ state, (second state).Leaves) :
    (Action.read >>= second).Leaves :=
  fun state => hsecond state state

theorem leavesOnFailure_read_bind {second : σ → Action σ β}
    (hsecond : ∀ state, (second state).LeavesOnFailure) :
    (Action.read >>= second).LeavesOnFailure :=
  fun state => hsecond state state

/-- Writing a state and coming to a value does not fail. -/
theorem leavesOnFailure_write (state : σ) (a : α) :
    (Action.write state >>= fun _ => pure a : Action σ α).LeavesOnFailure := by
  intro before failure hfailure
  cases hfailure

theorem Leaves.bind {first : Action σ α} {second : α → Action σ β} (hfirst : first.Leaves)
    (hsecond : ∀ a, (second a).LeavesOnFailure) : (first >>= second).LeavesOnFailure := by
  intro state failure hfailure
  cases houtcome : (first.run state).outcome with
  | error other =>
    rw [run_bind_of_error houtcome]
    exact hfirst state
  | ok a =>
    rw [run_bind_of_ok houtcome] at hfailure ⊢
    have hstate := hfirst state
    rw [hstate] at hfailure ⊢
    exact hsecond a state failure hfailure

/-- What cannot fail may follow. -/
theorem LeavesOnFailure.map {first : Action σ α} (hfirst : first.LeavesOnFailure) (f : α → β) :
    (first >>= fun a => pure (f a)).LeavesOnFailure := by
  intro state failure hfailure
  cases houtcome : (first.run state).outcome with
  | error other =>
    rw [run_bind_of_error houtcome]
    exact hfirst state other houtcome
  | ok a =>
    rw [run_bind_of_ok houtcome] at hfailure
    cases hfailure

end Action

namespace Check

/-- What a check may be asked. -/
inductive Question where
  | name
  | description
  | warningSymbol
  | warningCode
  | methodNames
  | argumentPositions (method : String)
  | process (scan : Scan) (site : Site)
  | run (scan : Scan)

namespace Question

/-- Asks a check, and leaves the answer. -/
def ask : Question → Action Check Unit
  | name => Check.name >>= fun _ => pure ()
  | description => Check.description >>= fun _ => pure ()
  | warningSymbol => Check.warningSymbol >>= fun _ => pure ()
  | warningCode => Check.warningCode >>= fun _ => pure ()
  | methodNames => Check.methodNames >>= fun _ => pure ()
  | argumentPositions method => Action.read >>= fun check =>
      Action.ofExcept (Check.argumentPositions check.config method) >>= fun _ => pure ()
  | process scan site => Check.process scan site >>= fun _ => pure ()
  | run scan => Check.run scan >>= fun _ => pure ()

def isRun : Question → Bool
  | run _ => true
  | _ => false

end Question

theorem requiredField_leaves (field : String) (value : Config → Datum) :
    (requiredField field value).Leaves := by
  refine Action.leaves_read_bind fun check state => ?_
  dsimp only
  split <;> rfl

theorem warningCode_leavesOnFailure : warningCode.LeavesOnFailure := by
  refine Action.leavesOnFailure_read_bind fun check => ?_
  split
  · exact (Action.leaves_pure _).leavesOnFailure
  · dsimp only
    split
    · exact (Action.leaves_ofExcept _).bind fun code => Action.leavesOnFailure_write _ code
    · exact Action.leavesOnFailure_write _ _

theorem methodNames_leavesOnFailure : methodNames.LeavesOnFailure := by
  refine Action.leavesOnFailure_read_bind fun check => ?_
  split
  · exact (Action.leaves_pure _).leavesOnFailure
  · dsimp only
    split
    · exact Action.leavesOnFailure_write _ _
    · exact Action.leavesOnFailure_write _ _
    · exact (Action.leaves_ofExcept _).bind fun names => Action.leavesOnFailure_write _ names

theorem process_leavesOnFailure (scan : Scan) (site : Site) :
    (process scan site).LeavesOnFailure := by
  refine Action.leavesOnFailure_read_bind fun check => ?_
  refine (Action.leaves_ofExcept _).bind fun arguments => ?_
  refine (requiredField_leaves "name" Config.name).bind fun name => ?_
  refine (requiredField_leaves "warning_symbol" Config.warningSymbol).bind fun symbol => ?_
  exact warningCode_leavesOnFailure.map _

/-- Whatever a check is asked but a run leaves nothing behind if it fails. -/
theorem Question.ask_leavesOnFailure {question : Question} (hrun : question.isRun = false) :
    question.ask.LeavesOnFailure := by
  cases question with
  | name => exact (requiredField_leaves _ _).leavesOnFailure.map _
  | description => exact (requiredField_leaves _ _).leavesOnFailure.map _
  | warningSymbol => exact (requiredField_leaves _ _).leavesOnFailure.map _
  | warningCode => exact warningCode_leavesOnFailure.map _
  | methodNames => exact methodNames_leavesOnFailure.map _
  | argumentPositions method =>
    refine Action.leavesOnFailure_read_bind fun check => ?_
    exact (Action.leaves_ofExcept _).leavesOnFailure.map _
  | process scan site => exact (process_leavesOnFailure scan site).map _
  | run scan => cases hrun

/-- A check after it was asked questions that all failed and its configuration was edited in between,
    together with the configurations that it had when a run failed, the last one first. -/
inductive Attempted : List Config → Check → Prop
  | fresh (config : Config) : Attempted [] (ofConfig config)
  | edited {past : List Config} {check : Check} {field : String} {value : Datum} {config : Config}
      (before : Attempted past check) (edit : check.config.setField? field value = some config) :
      Attempted past { check with config }
  | failed {past : List Config} {check : Check} {failure : Failure} (question : Question)
      (before : Attempted past check)
      (failure : (question.ask.run check).outcome = .error failure) :
      Attempted (if question.isRun then check.config :: past else past)
        (question.ask.run check).state

/-- What a check remembers is what some of the given configurations come to. -/
structure RemembersOf (past : List Config) (check : Check) : Prop where
  code : ∀ code, check.knownCode = some code → ∃ config ∈ past, config.codeInUse = .ok code
  names : ∀ names, check.knownMethods = some names → ∃ config ∈ past, config.methodNames = .ok names

/-- What a run adds to the memory of a check comes from its configuration. -/
theorem RemembersOf.goesAs {past : List Config} {check other : Check} (h : check.RemembersOf past)
    (hother : check.GoesAs other) : other.RemembersOf (check.config :: past) where
  code := by
    intro code hknown
    have hcode := hother.code_eq
    rw [codeInUse_of_known hknown] at hcode
    cases hbefore : check.knownCode with
    | some known =>
      rw [codeInUse_of_known hbefore] at hcode
      cases hcode
      obtain ⟨config, hconfig, hcomes⟩ := h.code code hbefore
      exact ⟨config, List.mem_cons_of_mem _ hconfig, hcomes⟩
    | none =>
      rw [codeInUse_of_unknown hbefore] at hcode
      exact ⟨check.config, List.mem_cons_self, hcode.symm⟩
  names := by
    intro names hknown
    have hnames := hother.names_eq
    rw [namesInUse_of_known hknown] at hnames
    cases hbefore : check.knownMethods with
    | some known =>
      rw [namesInUse_of_known hbefore] at hnames
      cases hnames
      obtain ⟨config, hconfig, hcomes⟩ := h.names names hbefore
      exact ⟨config, List.mem_cons_of_mem _ hconfig, hcomes⟩
    | none =>
      rw [namesInUse_of_unknown hbefore] at hnames
      exact ⟨check.config, List.mem_cons_self, hnames.symm⟩

/-- Failures and edits leave nothing in the memory of a check but what it came to in a run that failed. -/
theorem Attempted.remembersOf {past : List Config} {check : Check} (h : Attempted past check) :
    check.RemembersOf past := by
  induction h with
  | fresh config => exact ⟨by simp [ofConfig], by simp [ofConfig]⟩
  | edited _ _ ih => exact ⟨ih.code, ih.names⟩
  | @failed past check _ question _ hfailure ih =>
    cases hrun : question.isRun with
    | false =>
      rw [question.ask_leavesOnFailure hrun check _ hfailure]
      exact ih
    | true =>
      cases question with
      | run scan =>
        have hgoes : (Check.run scan >>= fun _ => pure ()).Gives check.GoesAs _ :=
          (run_goesAs scan).bind fun _ _ => .pure ()
        exact ih.goesAs (hgoes check (.refl check)).1
      | _ => cases hrun

theorem RemembersOf.eq_ofConfig {check : Check} (h : check.RemembersOf []) :
    check = ofConfig check.config := by
  have hcode : check.knownCode = none := by
    cases hknown : check.knownCode with
    | none => rfl
    | some code =>
      obtain ⟨config, hconfig, _⟩ := h.code code hknown
      cases hconfig
  have hnames : check.knownMethods = none := by
    cases hknown : check.knownMethods with
    | none => rfl
    | some names =>
      obtain ⟨config, hconfig, _⟩ := h.names names hknown
      cases hconfig
  obtain ⟨config, code, names⟩ := check
  dsimp only at hcode hnames
  rw [hcode, hnames]
  rfl

/-- A configuration that is complete: whatever is looked for is named, each call that is found can be
    warned of, and there is a code to do so. -/
structure IsComplete (config : Config) (targets methods : List String) (code : Datum) : Prop where
  name : config.name.isVoid = false
  symbol : config.warningSymbol.isVoid = false
  targets : config.targets = .list (targets.map .text)
  methods : config.methods.NamesMethods methods
  code : config.codeInUse = .ok code

section Complete

variable {check : Check} {targets methods names : List String} {code known : Datum}

theorem namesInUse_eq (hnames : check.config.methodNames = .ok names) :
    check.namesInUse = .ok (check.knownMethods.getD names) := by
  cases hknown : check.knownMethods with
  | none => rw [namesInUse_of_unknown hknown, hnames, Option.getD_none]
  | some known => rw [namesInUse_of_known hknown, Option.getD_some]

theorem codeInUse_eq (hcode : check.config.codeInUse = .ok code) :
    check.codeInUse = .ok (check.knownCode.getD code) := by
  cases hknown : check.knownCode with
  | none => rw [codeInUse_of_unknown hknown, hcode, Option.getD_none]
  | some known => rw [codeInUse_of_known hknown, Option.getD_some]

/-- A check looks for the names that it goes by. -/
theorem sitesFound_of_namesInUse (htargets : check.config.targets = .list (targets.map .text))
    (hnames : check.namesInUse = .ok names) {scan : Scan} {live : List Site}
    (hlive : scan.store.Represents live) :
    check.sitesFound scan =
      .ok (live.filter fun site => site.call.isSought targets names scan.models) := by
  -- A configuration that lists these names stands for the same query.
  let config : Config := { check.config with methods := .list (names.map .text) }
  have hplain : (names.map Datum.text).map Datum.plainText = names := by
    rw [List.map_map]
    exact List.map_id' names
  have hlisted : config.methods.NamesMethods ((names.map Datum.text).map Datum.plainText) :=
    .list (names.map .text)
  have hmethods : config.methodNames = .ok names :=
    Config.methodNames_of_namesMethods (hplain ▸ hlisted)
  have hconfigured : config.targets = .list (targets.map .text) := htargets
  rw [← Config.sitesFound_of_names hconfigured hmethods hlive, sitesFound, queryInUse, hnames,
    Config.sitesFound, Config.query, hmethods]
  rfl

/-- With a complete configuration a check has a warning about every site, with the code it goes by. -/
theorem exists_warningAt (hcomplete : IsComplete check.config targets methods code)
    (hknown : check.codeInUse = .ok known) (scan : Scan) (site : Site) :
    ∃ warning, check.warningAt scan site = .ok warning ∧ warning.code = known := by
  obtain ⟨arguments, harguments⟩ := Config.exists_relevantArguments hcomplete.methods site.call
  rw [warningAt, harguments, Config.requiredField_of_not_void hcomplete.name,
    Config.requiredField_of_not_void hcomplete.symbol, hknown]
  exact ⟨_, rfl, rfl⟩

/-- With a complete configuration a run comes to the warnings about the calls that are looked for. -/
theorem warnings_of_isComplete (hcomplete : IsComplete check.config targets methods code)
    (hnames : check.namesInUse = .ok names) {scan : Scan} {live : List Site}
    (hlive : scan.store.Represents live) :
    check.warnings scan =
      (distinctSites (live.filter fun site => site.call.isSought targets names scan.models)).mapM
        (check.warningAt scan) := by
  rw [warnings, sitesFound_of_namesInUse hcomplete.targets hnames hlive,
    Config.requiredField_of_not_void hcomplete.name]
  rfl

/-- Whatever the targets, some receiver is among them. -/
theorem exists_isAmong (targets : List String) :
    ∃ name, (Receiver.named name).isAmong targets ["Model"] = true := by
  by_cases hany : anyModel ∈ targets
  · exact ⟨"Model", by simp [Receiver.isAmong, hany]⟩
  · cases targets with
    | nil => exact ⟨"Model", rfl⟩
    | cons first rest =>
      have hfirst : first ≠ anyModel := fun heq => hany (heq ▸ List.mem_cons_self)
      exact ⟨first, by simp [Receiver.isAmong, hfirst]⟩

/-- Of some call a check warns if and only if it looks for a given name, whatever the targets. -/
theorem exists_warnings (hcomplete : IsComplete check.config targets methods code) (method : String) :
    ∃ (scan : Scan) (live : List Site), scan.store.Represents live ∧
      ∀ (other : Check) (names : List String) (known : Datum), other.config = check.config →
        other.namesInUse = .ok names → other.codeInUse = .ok known →
        ∃ warnings, other.warnings scan = .ok warnings ∧
          warnings.map (·.code) = if method ∈ names then [known] else [] := by
  obtain ⟨name, hamong⟩ := exists_isAmong targets
  let site : Site := ⟨0, { Call.ofChain method [] with receiver := .named name }⟩
  let scan : Scan := ⟨Store.empty.insertAll [site], ["Model"], .none⟩
  have hlive : scan.store.Represents [site] := Store.Represents.empty.insertAll [site]
  refine ⟨scan, [site], hlive, fun other names known hconfig hnames hknown => ?_⟩
  rw [← hconfig] at hcomplete
  have hsought : site.call.isSought targets names scan.models =
      (names.contains method && (Receiver.named name).isAmong targets ["Model"]) := rfl
  rw [hamong, Bool.and_true, List.contains_eq_mem] at hsought
  obtain ⟨warning, hwarning, hcode⟩ := exists_warningAt hcomplete hknown scan site
  rw [warnings_of_isComplete hcomplete hnames hlive]
  by_cases hmem : method ∈ names
  · refine ⟨[warning], ?_, by simp [hmem, hcode]⟩
    have hfound : [site].filter (fun site => site.call.isSought targets names scan.models) = [site] := by
      simp [hsought, hmem]
    have hdistinct : distinctSites [site] = [site] := rfl
    rw [hfound, hdistinct, List.mapM_cons, hwarning]
    rfl
  · refine ⟨[], ?_, by simp [hmem]⟩
    have hfound : [site].filter (fun site => site.call.isSought targets names scan.models) = [] := by
      simp [hsought, hmem]
    rw [hfound]
    rfl

/-- Names marked with codes agree on all names if and only if the same names are marked, and with the same
    code unless there are none. -/
theorem marks_eq_iff {names names' : List String} {known known' : Datum} :
    (∀ method, (if method ∈ names then [known] else []) = if method ∈ names' then [known'] else []) ↔
      (∀ name, name ∈ names ↔ name ∈ names') ∧ (known = known' ∨ names' = []) := by
  constructor
  · intro hmarks
    have hsame (name : String) : name ∈ names ↔ name ∈ names' := by
      have hname := hmarks name
      split_ifs at hname with hmem hmem' hmem'
      · exact iff_of_true hmem hmem'
      · exact iff_of_false hmem hmem'
    refine ⟨hsame, ?_⟩
    cases names' with
    | nil => exact .inr rfl
    | cons method rest =>
      have hmethod := hmarks method
      rw [if_pos ((hsame method).mpr List.mem_cons_self), if_pos List.mem_cons_self] at hmethod
      exact .inl (List.head_eq_of_cons_eq hmethod)
  · rintro ⟨hsame, hcode⟩ method
    cases hcode with
    | inl hcode => rw [hcode, if_congr (hsame method) rfl rfl]
    | inr hnone => simp [hsame method, hnone]

section Two

variable {other : Check} {names' : List String} {known' : Datum}
  (hcomplete : IsComplete check.config targets methods code)
  (hnames : check.namesInUse = .ok names) (hnames' : other.namesInUse = .ok names')
  (hknown : check.codeInUse = .ok known) (hknown' : other.codeInUse = .ok known')
  (hconfig : other.config = check.config)

include hcomplete hnames hnames' hknown hknown' hconfig

theorem warnings_congr (hsame : ∀ name, name ∈ names ↔ name ∈ names')
    (hcode : known = known' ∨ names' = []) {scan : Scan} {live : List Site}
    (hlive : scan.store.Represents live) : check.warnings scan = other.warnings scan := by
  have hother : IsComplete other.config targets methods code := hconfig ▸ hcomplete
  have hcontains (name : String) : names.contains name = names'.contains name := by
    simp [hsame name]
  rw [warnings_of_isComplete hcomplete hnames hlive, warnings_of_isComplete hother hnames' hlive]
  simp only [Call.isSought, hcontains]
  cases hcode with
  | inl hcode =>
    have hwarning : check.warningAt scan = other.warningAt scan := by
      funext site
      rw [warningAt, warningAt, hconfig, hknown, hknown', hcode]
    rw [hwarning]
  | inr hnone =>
    have hfound : live.filter (fun site => !site.call.nested && names'.contains site.call.method &&
        site.call.receiver.isAmong targets scan.models) = [] := by
      simp [hnone]
    rw [hfound]
    rfl

/-- Two checks with one complete configuration agree in every run if and only if they look for the same
    names, and mark what they find with the same code. -/
theorem warnings_eq_iff :
    (∀ (scan : Scan) (live : List Site), scan.store.Represents live →
      check.warnings scan = other.warnings scan) ↔
      (∀ name, name ∈ names ↔ name ∈ names') ∧ (known = known' ∨ names' = []) := by
  constructor
  · intro hagree
    refine marks_eq_iff.mp fun method => ?_
    obtain ⟨scan, live, hlive, hwarns⟩ := exists_warnings hcomplete method
    obtain ⟨found, hfound, hcodes⟩ := hwarns check names known rfl hnames hknown
    obtain ⟨found', hfound', hcodes'⟩ := hwarns other names' known' hconfig hnames' hknown'
    rw [hagree scan live hlive, hfound'] at hfound
    cases hfound
    rw [← hcodes, hcodes']
  · rintro ⟨hsame, hcode⟩ scan live hlive
    exact warnings_congr hcomplete hnames hnames' hknown hknown' hconfig hsame hcode hlive

end Two

end Complete

/-- A check that was fixed up after failures is as good as new if no run was among the failures, and runs as
    a fresh one if what it remembers of the failed runs is what its configuration comes to now. Otherwise
    a later run goes by what is remembered. Once the configuration is complete, all runs are as those of
    a fresh check if and only if the remembered names are the ones that are configured, and the remembered
    code is that of the configuration or there is nothing to look for. -/
theorem Attempted.run_as_fresh_iff {past : List Config} {check : Check} (h : Attempted past check) :
    check.RemembersOf past ∧
    (past = [] → check = ofConfig check.config) ∧
    (check.Remembers check.config → ∀ scan : Scan,
      ((run scan).run check).outcome = ((run scan).run (ofConfig check.config)).outcome) ∧
    ∀ (targets methods : List String) (code : Datum), IsComplete check.config targets methods code →
      ((∀ (scan : Scan) (live : List Site), scan.store.Represents live →
        ((run scan).run check).outcome = ((run scan).run (ofConfig check.config)).outcome) ↔
      (∀ names, check.knownMethods = some names → ∀ name, name ∈ names ↔ name ∈ methods) ∧
      (∀ known, check.knownCode = some known → known = code ∨ methods = [])) := by
  refine ⟨h.remembersOf, ?_, ?_, ?_⟩
  · rintro rfl
    exact h.remembersOf.eq_ofConfig
  · intro hremembers scan
    rw [(run_gives scan check hremembers).2, (run_gives scan _ (.ofConfig check.config)).2]
  · intro targets methods code hcomplete
    have hrun (other : Check) (scan : Scan) :
        ((run scan).run other).outcome = other.warnings scan :=
      (run_goesAs scan other (.refl other)).2
    have hfreshNames : (ofConfig check.config).namesInUse = .ok methods :=
      Config.methodNames_of_namesMethods hcomplete.methods
    have hfreshCode : (ofConfig check.config).codeInUse = .ok code := hcomplete.code
    have hnames := namesInUse_eq (Config.methodNames_of_namesMethods hcomplete.methods)
    have hcode := codeInUse_eq hcomplete.code
    simp only [hrun]
    rw [warnings_eq_iff hcomplete hnames hfreshNames hcode hfreshCode rfl]
    refine and_congr ?_ ?_
    · cases check.knownMethods <;> simp
    · cases check.knownCode <;> simp

/-- A run that fails as there is no symbol has found the name of the method. When the symbol is set and the
    method is replaced by another, the check still looks for the first one. -/
theorem run_as_fresh_iff_of_replaced_method :
    let config : Config :=
      { name := .text "Finds", description := .null, warningSymbol := .null, warningCode := .int 1
        targets := .list [], methods := .list [.text "find"] }
    let scan : Scan := ⟨Store.empty.insertAll [⟨0, Call.ofChain "find" []⟩], [], .none⟩
    let corrected : Config :=
      { config with warningSymbol := .text "FND", methods := .list [.text "where"] }
    let check : Check := { ((run scan).run (ofConfig config)).state with config := corrected }
    ((run scan).run (ofConfig config)).outcome = .error (.missingAttribute "warning_symbol") ∧
      Attempted [config] check ∧
      ¬ ∀ (scan : Scan) (live : List Site), scan.store.Represents live →
        ((run scan).run check).outcome = ((run scan).run (ofConfig corrected)).outcome := by
  intro config scan corrected check
  have houtcome : ((run scan).run (ofConfig config)).outcome =
      .error (.missingAttribute "warning_symbol") := by cbv
  have hstate : ((run scan).run (ofConfig config)).state = ⟨config, none, some ["find"]⟩ := by cbv
  have hfailure : ((Question.run scan).ask.run (ofConfig config)).outcome =
      .error (.missingAttribute "warning_symbol") := by
    exact congrArg Change.outcome (Action.run_bind_of_error houtcome)
  have hasked : ((Question.run scan).ask.run (ofConfig config)).state = ⟨config, none, some ["find"]⟩ := by
    rw [← hstate]
    exact congrArg Change.state (Action.run_bind_of_error houtcome)
  have hfailed : Attempted [config] ⟨config, none, some ["find"]⟩ := by
    rw [← hasked]
    exact .failed (.run scan) (.fresh config) hfailure
  have hsymbol : config.setField? "warning_symbol" (.text "FND") =
      some { config with warningSymbol := .text "FND" } := rfl
  have hmethods : ({ config with warningSymbol := .text "FND" } : Config).setField? "methods"
      (.list [.text "where"]) = some corrected := rfl
  have hattempted : Attempted [config] ⟨corrected, none, some ["find"]⟩ :=
    (hfailed.edited hsymbol).edited hmethods
  have hcomplete : IsComplete corrected [] ["where"] (.int 1) :=
    ⟨rfl, rfl, rfl, .list [.text "where"], rfl⟩
  have hcheck : check = ⟨corrected, none, some ["find"]⟩ := by
    show ({ ((run scan).run (ofConfig config)).state with config := corrected } : Check) = _
    rw [hstate]
  rw [hcheck]
  refine ⟨houtcome, hattempted, fun hlaw => ?_⟩
  obtain ⟨hnames, -⟩ := (hattempted.run_as_fresh_iff.2.2.2 [] ["where"] (.int 1) hcomplete).mp hlaw
  have hwhere := (hnames ["find"] rfl "find").mp (by decide)
  exact absurd hwhere (by decide)

end Check

end CallAudit

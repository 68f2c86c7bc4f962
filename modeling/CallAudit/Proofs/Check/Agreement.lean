import CallAudit.Proofs.Check.Request

/-!
# Configurations that report the same

Two configurations with the same name, symbol and code, the same targets and methods in any order, and the
same argument positions give the same warnings in every store, or both fail over an attribute that is
missing or malformed.
-/

namespace CallAudit

/-- Whether a failure is over an attribute of a check that is missing or malformed. -/
def Failure.isBadAttribute : Failure → Bool
  | .missingAttribute _ => true
  | .malformedMethods _ _ => true
  | .malformedPositions _ _ _ => true
  | _ => false

/-- Either two operations come to results that are related, or both fail over a bad attribute. -/
inductive Agree {α β : Type} (related : α → β → Prop) : Except Failure α → Except Failure β → Prop
  | ok {a : α} {b : β} (results : related a b) : Agree related (.ok a) (.ok b)
  | bad {failure failure' : Failure} (first : failure.isBadAttribute = true)
      (second : failure'.isBadAttribute = true) : Agree related (.error failure) (.error failure')

namespace Agree

variable {α β γ δ : Type} {related : α → β → Prop} {next : γ → δ → Prop}
variable {outcome : Except Failure α} {outcome' : Except Failure β}

theorem of_eq_ok {a : α} {outcome outcome' : Except Failure α} (h : outcome = .ok a)
    (h' : outcome' = .ok a) : Agree Eq outcome outcome' := by
  rw [h, h']
  exact .ok rfl

theorem bind {f : α → Except Failure γ} {g : β → Except Failure δ} (h : Agree related outcome outcome')
    (hnext : ∀ a b, related a b → Agree next (f a) (g b)) :
    Agree next (outcome >>= f) (outcome' >>= g) := by
  cases h with
  | ok results => exact hnext _ _ results
  | bad first second => exact .bad first second

theorem map {f : α → γ} {g : β → δ} (h : Agree related outcome outcome')
    (hnext : ∀ a b, related a b → next (f a) (g b)) :
    Agree next (outcome.map f) (outcome'.map g) := by
  cases h with
  | ok results => exact .ok (hnext _ _ results)
  | bad first second => exact .bad first second

theorem mapM {items : List γ} {f g : γ → Except Failure α}
    (heach : ∀ item, Agree Eq (f item) (g item)) : Agree Eq (items.mapM f) (items.mapM g) := by
  induction items with
  | nil => exact .ok rfl
  | cons item rest ih =>
    rw [List.mapM_cons, List.mapM_cons]
    refine (heach item).bind fun a b hab => ih.bind fun as bs hlists => ?_
    exact hab ▸ hlists ▸ .ok rfl

end Agree

namespace Datum

/-- Neither a list nor an object. -/
def IsSingle (d : Datum) : Prop := (∀ items, d ≠ .list items) ∧ ∀ fields, d ≠ .object fields

/-- Methods that come to the same names with the same positions of arguments, or are malformed on both
    sides. -/
inductive MethodsAgree : Datum → Datum → Prop
  | lists {items others : List Datum}
      (names : ∀ name, name ∈ items.map plainText ↔ name ∈ others.map plainText) :
      MethodsAgree (.list items) (.list others)
  | objects {fields others : List (String × Datum)}
      (names : ∀ name, name ∈ fields.map (·.1) ↔ name ∈ others.map (·.1))
      (positions : ∀ method, (fields.lookup method).map Check.positions? =
        (others.lookup method).map Check.positions?) :
      MethodsAgree (.object fields) (.object others)
  | singles {a b : Datum} (first : a.IsSingle) (second : b.IsSingle) : MethodsAgree a b

end Datum

namespace Config

/-- Configurations that make no difference to what is reported. -/
structure Alike (config other : Config) : Prop where
  name_eq : config.name = other.name
  symbol_eq : config.warningSymbol = other.warningSymbol
  code_eq : ∃ code, config.codeInUse = .ok code ∧ other.codeInUse = .ok code
  targets_perm : ∃ names names' : List String, names.Perm names' ∧
    config.targets = .list (names.map .text) ∧ other.targets = .list (names'.map .text)
  methods_agree : config.methods.MethodsAgree other.methods

variable {config other : Config}

theorem requiredField_agree (field : String) (value : Datum) :
    Agree Eq (requiredField field value) (requiredField field value) := by
  unfold requiredField
  split
  · exact .bad rfl rfl
  · exact .ok rfl

theorem methodNames_agree (hmethods : config.methods.MethodsAgree other.methods) :
    Agree (fun names names' => ∀ name, name ∈ names ↔ name ∈ names') config.methodNames
      other.methodNames := by
  generalize hconfig : config.methods = methods at hmethods
  generalize hother : other.methods = methods' at hmethods
  cases hmethods with
  | lists names =>
    rw [methodNames, methodNames, hconfig, hother]
    exact .ok names
  | objects names positions =>
    rw [methodNames, methodNames, hconfig, hother]
    exact .ok names
  | singles first second =>
    subst hconfig hother
    rw [methodNames_eq_error first.1 first.2, methodNames_eq_error second.1 second.2]
    exact .bad rfl rfl

theorem argumentPositions_eq_error (hmethods : config.methods.IsSingle) (method : String) :
    Check.argumentPositions config method = .error (Check.malformedMethods config) := by
  unfold Check.argumentPositions
  split
  · next items hitems => exact absurd hitems (hmethods.1 items)
  · next fields hfields => exact absurd hfields (hmethods.2 fields)
  · rfl

theorem argumentPositions_agree (hmethods : config.methods.MethodsAgree other.methods)
    (method : String) :
    Agree Eq (Check.argumentPositions config method) (Check.argumentPositions other method) := by
  generalize hconfig : config.methods = methods at hmethods
  generalize hother : other.methods = methods' at hmethods
  cases hmethods with
  | lists names =>
    rw [Check.argumentPositions, Check.argumentPositions, hconfig, hother]
    exact .ok rfl
  | @objects fields fields' names positions =>
    rw [Check.argumentPositions, Check.argumentPositions, hconfig, hother]
    dsimp only
    have hmethod := positions method
    cases hconfigured : fields.lookup method with
    | none =>
      rw [hconfigured, Option.map_none, eq_comm, Option.map_eq_none_iff] at hmethod
      rw [hmethod]
      exact .ok rfl
    | some configured =>
      rw [hconfigured, Option.map_some, eq_comm, Option.map_eq_some_iff] at hmethod
      obtain ⟨configured', hconfigured', hpositions⟩ := hmethod
      simp only [hconfigured', hpositions]
      cases Check.positions? configured with
      | none => exact .bad rfl rfl
      | some positions => exact .ok rfl
  | singles first second =>
    subst hconfig hother
    rw [argumentPositions_eq_error first, argumentPositions_eq_error second]
    exact .bad rfl rfl

theorem relevantArguments_agree (hmethods : config.methods.MethodsAgree other.methods) (call : Call) :
    Agree Eq (Check.relevantArguments config call) (Check.relevantArguments other call) := by
  refine (argumentPositions_agree hmethods call.method).map ?_
  rintro positions _ rfl
  rfl

theorem warningAt_agree (halike : config.Alike other) (scan : Scan) (site : Site) :
    Agree Eq (config.warningAt scan site) (other.warningAt scan site) := by
  obtain ⟨code, hcode, hcode'⟩ := halike.code_eq
  rw [warningAt, warningAt, ← halike.name_eq, ← halike.symbol_eq, hcode, hcode']
  refine (relevantArguments_agree halike.methods_agree site.call).bind ?_
  rintro arguments _ rfl
  refine (requiredField_agree "name" config.name).bind ?_
  rintro name _ rfl
  refine (requiredField_agree "warning_symbol" config.warningSymbol).bind ?_
  rintro symbol _ rfl
  exact .ok rfl

/-- Targets and methods are asked for as sets of names, so configurations with the same ones find the same
    sites. -/
theorem exists_sitesFound_of_names {listed listed' methods methods' : List String}
    (htargets : config.targets = .list (listed.map .text))
    (htargets' : other.targets = .list (listed'.map .text)) (hlisted : ∀ name, name ∈ listed ↔ name ∈ listed')
    (hconfig : config.methodNames = .ok methods) (hother : other.methodNames = .ok methods')
    (hmethods : ∀ name, name ∈ methods ↔ name ∈ methods') {scan : Scan}
    (hnumbered : scan.store.Numbered) :
    ∃ sites, config.sitesFound scan = .ok sites ∧ other.sitesFound scan = .ok sites := by
  obtain ⟨receivers, hreceivers, hquery⟩ := query_of_names htargets hconfig scan
  obtain ⟨receivers', hreceivers', hquery'⟩ := query_of_names htargets' hother scan
  have hreceiversSame (name : String) : name ∈ receivers ↔ name ∈ receivers' := by
    rw [hreceivers, hreceivers', hlisted, hlisted]
  have hnone : listed.isEmpty = listed'.isEmpty := by
    rw [Bool.eq_iff_iff, List.isEmpty_iff, List.isEmpty_iff, List.eq_nil_iff_forall_not_mem,
      List.eq_nil_iff_forall_not_mem]
    simp only [hlisted]
  rw [sitesFound, sitesFound, hquery, hquery', ← hnone]
  cases listed.isEmpty with
  | true => exact hnumbered.exists_find_methods hmethods
  | false => exact hnumbered.exists_find_names hreceiversSame hmethods

theorem sitesFound_agree (halike : config.Alike other) {scan : Scan}
    (hnumbered : scan.store.Numbered) :
    Agree Eq (config.sitesFound scan) (other.sitesFound scan) := by
  obtain ⟨names, names', hperm, htargets, htargets'⟩ := halike.targets_perm
  have hmethods := methodNames_agree halike.methods_agree
  generalize hconfig : config.methodNames = outcome at hmethods
  generalize hother : other.methodNames = outcome' at hmethods
  cases hmethods with
  | bad first second =>
    rw [sitesFound, sitesFound, query_of_malformed htargets hconfig,
      query_of_malformed htargets' hother]
    exact .bad first second
  | @ok methods methods' hsame =>
    obtain ⟨sites, hfound, hfound'⟩ := exists_sitesFound_of_names htargets htargets'
      (fun _ => hperm.mem_iff) hconfig hother hsame hnumbered
    exact .of_eq_ok hfound hfound'

/-- Alike configurations report the same of every store, or both fail over a bad attribute. -/
theorem warnings_agree (halike : config.Alike other) {scan : Scan}
    (hnumbered : scan.store.Numbered) : Agree Eq (config.warnings scan) (other.warnings scan) := by
  rw [warnings, warnings, ← halike.name_eq]
  refine (requiredField_agree "name" config.name).bind ?_
  rintro name _ rfl
  refine (sitesFound_agree halike hnumbered).bind ?_
  rintro sites _ rfl
  exact .mapM (warningAt_agree halike scan)

end Config

end CallAudit

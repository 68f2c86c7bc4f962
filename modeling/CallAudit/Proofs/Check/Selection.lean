import CallAudit.Proofs.Check.Request

/-!
# What a check reports

A check with named targets, and with methods and argument positions as they should be, warns once of each
live call that it looks for, however often the call was added. Which plan answers the query, and how many
models there are, makes no difference to that.
-/

namespace CallAudit

/-- Whether a receiver is a name among some targets. The wildcard is no target itself, but stands for the
    models. Anything will do if there are no targets. -/
def Receiver.isAmong (targets models : List String) (receiver : Receiver) : Bool :=
  targets.isEmpty ||
    match receiver with
    | .named name => (targets.contains name && name != anyModel) ||
        (targets.contains anyModel && models.contains name)
    | _ => false

/-- Whether a check looks for a call: one that is not nested, has one of its methods, and is made on one of
    its targets. -/
def Call.isSought (targets methods models : List String) (call : Call) : Bool :=
  !call.nested && methods.contains call.method && call.receiver.isAmong targets models

namespace Datum

/-- Argument positions as they should be: the word for all of them, one, or a list. -/
inductive IsPositions : Datum → Prop
  | all : IsPositions (.text allArguments)
  | one (position : Int) : IsPositions (.int position)
  | several (positions : List Int) : IsPositions (.list (positions.map .int))

theorem positions?_ints (positions : List Int) :
    Check.positions? (.list (positions.map .int)) = some (some positions) := by
  have hall : (positions.map Datum.int).mapM Check.positions?.position? = some positions := by
    induction positions with
    | nil => rfl
    | cons position rest ih => simp [Check.positions?.position?, ih]
  rw [Check.positions?, hall, Option.map_some]

theorem IsPositions.isSome_positions? {d : Datum} (hpositions : d.IsPositions) :
    (Check.positions? d).isSome = true := by
  cases hpositions with
  | all => rfl
  | one position => rfl
  | several positions => rw [positions?_ints, Option.isSome_some]

/-- Methods as they should be, and their names: a list of anything, or an object that gives argument
    positions for each name. -/
inductive NamesMethods : Datum → List String → Prop
  | list (items : List Datum) : NamesMethods (.list items) (items.map plainText)
  | object {fields : List (String × Datum)} (positions : ∀ field ∈ fields, field.2.IsPositions) :
      NamesMethods (.object fields) (fields.map (·.1))

end Datum

namespace Config

variable {config : Config} {methods : List String}

theorem methodNames_of_namesMethods (hmethods : config.methods.NamesMethods methods) :
    config.methodNames = .ok methods := by
  rw [methodNames]
  generalize config.methods = configured at hmethods ⊢
  cases hmethods <;> rfl

theorem exists_relevantArguments (hmethods : config.methods.NamesMethods methods) (call : Call) :
    ∃ arguments, Check.relevantArguments config call = .ok arguments := by
  have hpositions : ∃ positions, Check.argumentPositions config call.method = .ok positions := by
    rw [Check.argumentPositions]
    generalize config.methods = configured at hmethods ⊢
    cases hmethods with
    | list items => exact ⟨none, rfl⟩
    | @object fields hvalid =>
      dsimp only
      cases hconfigured : fields.lookup call.method with
      | none => exact ⟨none, rfl⟩
      | some configured =>
        obtain ⟨front, back, hfields, _⟩ := List.lookup_eq_some_iff.mp hconfigured
        have hfield : (call.method, configured) ∈ fields := by simp [hfields]
        obtain ⟨positions, hpositions⟩ :=
          Option.isSome_iff_exists.mp (hvalid _ hfield).isSome_positions?
        exact ⟨positions, by simp only [hpositions]⟩
  obtain ⟨positions, hpositions⟩ := hpositions
  exact ⟨_, by rw [Check.relevantArguments, hpositions]; rfl⟩

theorem requiredField_of_not_void {value : Datum} (hvalue : value.isVoid = false) (field : String) :
    requiredField field value = .ok value := by
  rw [requiredField, hvalue]
  rfl

/-- A complete configuration has a warning about every site. -/
theorem exists_warningAt (hname : config.name.isVoid = false)
    (hsymbol : config.warningSymbol.isVoid = false) (hcode : config.warningCode ≠ .null)
    (hmethods : config.methods.NamesMethods methods) (scan : Scan) (site : Site) :
    ∃ warning, config.warningAt scan site = .ok warning ∧ warning.site = site := by
  obtain ⟨arguments, harguments⟩ := exists_relevantArguments hmethods site.call
  rw [warningAt, harguments, requiredField_of_not_void hname, requiredField_of_not_void hsymbol,
    codeInUse_of_ne_null hcode]
  exact ⟨_, rfl, rfl⟩

end Config

/-- Names that targets come to are asked for of the receivers among the targets. -/
theorem Receiver.any_asksFor_ofTexts {targets models names : List String}
    (hgiven : targets.isEmpty = false)
    (hnames : ∀ name, name ∈ names ↔
      (name ∈ targets ∧ name ≠ anyModel) ∨ (anyModel ∈ targets ∧ name ∈ models))
    (receiver : Receiver) :
    receiver.key?.any (Value.ofTexts names).asksFor = receiver.isAmong targets models := by
  cases receiver with
  | none => simp [key?, Value.asksFor_ofTexts, isAmong, hgiven]
  | expression e => simp [key?, isAmong, hgiven]
  | named name =>
    rw [key?, Option.any_some, Value.asksFor_ofTexts, Option.any_some, isAmong, hgiven,
      Bool.false_or, Bool.eq_iff_iff]
    simp [hnames]

/-- A query for the receivers among some targets and for the names of methods finds the sites that are
    looked for. -/
theorem Store.Represents.find_of_names {store : Store} {live : List Site}
    (hrep : store.Represents live) {targets methods models : List String} {q : Query}
    (hchained : q.chained.isVoid = true) (hnested : q.nested.isVoid = true)
    (hoption : q.receiverOption.IsOption) (hmethod : q.methodOption = .ofTexts methods)
    (hreceiver : ∀ receiver : Receiver,
      (q.receiverOption.isAbsent || receiver.key?.any q.receiverOption.asksFor) =
        receiver.isAmong targets models) :
    (store.find q).outcome =
      .ok (live.filter fun site => site.call.isSought targets methods models) := by
  rw [hrep.find_of_requests hchained (.option hoption) (hmethod ▸ .option (.ofTexts methods))
    (hmethod ▸ rfl)]
  refine congrArg Except.ok (List.filter_congr fun site _ => ?_)
  have hasks : (q.methodOption.isAbsent || q.methodOption.isNull ||
      q.methodOption.asksFor (some site.call.method)) = methods.contains site.call.method := by
    rw [hmethod, Value.asksFor_ofTexts]
    rfl
  rw [q.keeps_eq, Site.isAskedFor, hreceiver, hasks, hnested, Call.isSought, Bool.not_true,
    Bool.false_or, Bool.and_comm, Bool.and_assoc]

namespace Config

variable {config : Config} {listed methods : List String}

theorem sitesFound_of_names (htargets : config.targets = .list (listed.map .text))
    (hmethods : config.methodNames = .ok methods) {scan : Scan} {live : List Site}
    (hrep : scan.store.Represents live) :
    config.sitesFound scan =
      .ok (live.filter fun site => site.call.isSought listed methods scan.models) := by
  obtain ⟨receivers, hmem, hquery⟩ := query_of_names htargets hmethods scan
  rw [sitesFound, hquery]
  cases hnone : listed.isEmpty with
  | true =>
    refine hrep.find_of_names rfl rfl .absent rfl fun receiver => ?_
    simp only [Receiver.isAmong, hnone, Bool.true_or]
    rfl
  | false =>
    exact hrep.find_of_names rfl rfl (.ofTexts receivers) rfl
      (Receiver.any_asksFor_ofTexts hnone hmem)

end Config

namespace Check

end Check

end CallAudit

import Mathlib
import CallAudit.Proofs.Check.Agreement
import CallAudit.Proofs.Check.Selection
import CallAudit.Proofs.Check.Validated

/-!
# When a run fails

Nothing is required of a configuration until a run comes to it. A run of a fresh check fails if there is no
name or the methods are malformed, and over the symbol and the positions of arguments only if there is a
call to warn of. Nothing else makes it fail, whatever is in the store.
-/

namespace CallAudit

/-- A failure over a bad attribute if a condition holds, and a value if it does not. -/
inductive BadIf {α : Type} (condition : Prop) : Except Failure α → Prop
  | bad {failure : Failure} (holds : condition) (attributed : failure.isBadAttribute = true) :
      BadIf condition (.error failure)
  | ok {a : α} (fine : ¬condition) : BadIf condition (.ok a)

namespace BadIf

variable {α β : Type} {p q : Prop} {outcome : Except Failure α}

theorem congr (h : BadIf p outcome) (hiff : p ↔ q) : BadIf q outcome := by
  rwa [← propext hiff]

/-- What comes after a failure does not matter. -/
theorem bind {f : α → Except Failure β} (h : BadIf p outcome)
    (hnext : ∀ a, outcome = .ok a → BadIf q (f a)) : BadIf (p ∨ q) (outcome >>= f) := by
  cases h with
  | bad holds attributed => exact .bad (.inl holds) attributed
  | @ok a fine => exact (hnext a rfl).congr (or_iff_right fine).symm

theorem bind_ok (h : BadIf p outcome) (f : α → β) : BadIf p (outcome >>= fun a => .ok (f a)) :=
  (h.bind fun _ _ => .ok not_false).congr (iff_of_eq (or_false p))

theorem map (h : BadIf p outcome) (f : α → β) : BadIf p (outcome.map f) := by
  cases h with
  | bad holds attributed => exact .bad holds attributed
  | ok fine => exact .ok fine

theorem mapM {condition : α → Prop} {f : α → Except Failure β} {items : List α}
    (heach : ∀ item, BadIf (condition item) (f item)) :
    BadIf (∃ item ∈ items, condition item) (items.mapM f) := by
  induction items with
  | nil => exact .ok (by simp)
  | cons item rest ih =>
    rw [List.mapM_cons]
    exact ((heach item).bind fun b _ => ih.bind_ok (b :: ·)).congr (by simp)

theorem not_of_ok {a : α} (h : BadIf p outcome) (houtcome : outcome = .ok a) : ¬p := by
  subst houtcome
  cases h with
  | ok fine => exact fine

theorem exists_error_iff (h : BadIf p outcome) :
    (∃ failure, outcome = .error failure ∧ failure.isBadAttribute = true) ↔ p := by
  constructor
  · rintro ⟨failure, rfl, _⟩
    cases h with
    | bad holds attributed => exact holds
  · intro hholds
    cases h with
    | bad holds attributed => exact ⟨_, rfl, attributed⟩
    | ok fine => exact absurd hholds fine

theorem isBadAttribute {failure : Failure} (h : BadIf p outcome) (houtcome : outcome = .error failure) :
    failure.isBadAttribute = true := by
  subst houtcome
  cases h with
  | bad holds attributed => exact attributed

end BadIf

namespace Datum

/-- Null or the empty text. -/
def IsMissing (d : Datum) : Prop := d = .null ∨ d = .text ""

theorem isVoid_ofName_iff (name : Option String) :
    (ofName name).isVoid = true ↔ (ofName name).IsMissing := by
  cases name with
  | none => simp [ofName, isVoid, IsMissing]
  | some s => simp [ofName, isVoid, IsMissing]

theorem eq_ints_of_mapM {items : List Datum} {positions : List Int}
    (hpositions : items.mapM Check.positions?.position? = some positions) :
    items = positions.map .int := by
  induction items generalizing positions with
  | nil =>
    cases hpositions
    rfl
  | cons item rest ih =>
    simp only [List.mapM_cons, Option.bind_eq_bind, Option.bind_eq_some_iff] at hpositions
    obtain ⟨position, hposition, others, hothers, hall⟩ := hpositions
    cases hall
    cases item with
    | int i =>
      cases hposition
      rw [ih hothers, List.map_cons]
    | _ => cases hposition

theorem isPositions_of_positions? {d : Datum} {positions : Option (List Int)}
    (hpositions : Check.positions? d = some positions) : d.IsPositions := by
  cases d with
  | text word =>
    rw [Check.positions?] at hpositions
    split at hpositions
    · next hall => exact hall ▸ .all
    · cases hpositions
  | int position => exact .one position
  | list items =>
    obtain ⟨chosen, hchosen, _⟩ := Option.map_eq_some_iff.mp hpositions
    exact eq_ints_of_mapM hchosen ▸ .several chosen
  | _ => cases hpositions

end Datum

namespace Config

variable {config : Config}

/-- Whether a method is mapped to something other than positions of arguments. -/
def Misplaces (config : Config) (method : String) : Prop :=
  ∃ fields configured, config.methods = .object fields ∧ fields.lookup method = some configured ∧
    ¬configured.IsPositions

theorem requiredField_badIf (field : String) (value : Datum) :
    BadIf (value.isVoid = true) (requiredField field value) := by
  unfold requiredField
  split
  · next hvoid => exact .bad hvoid rfl
  · next hvoid => exact .ok hvoid

theorem methodNames_badIf : BadIf config.methods.IsSingle config.methodNames := by
  unfold methodNames
  split
  · next items hitems => exact .ok fun hsingle => hsingle.1 items hitems
  · next fields hfields => exact .ok fun hsingle => hsingle.2 fields hfields
  · next hlist hobject => exact .bad ⟨hlist, hobject⟩ rfl

theorem argumentPositions_badIf (hmethods : ¬config.methods.IsSingle) (method : String) :
    BadIf (config.Misplaces method) (Check.argumentPositions config method) := by
  unfold Check.argumentPositions
  split
  · next items hitems =>
    refine .ok ?_
    rintro ⟨fields, _, hfields, _⟩
    cases hitems.symm.trans hfields
  · next fields hfields =>
    have hmisplaces : config.Misplaces method ↔
        ∃ configured, fields.lookup method = some configured ∧ ¬configured.IsPositions := by
      simp [Misplaces, hfields]
    split
    · next hnone => exact .ok (by simp [hmisplaces, hnone])
    · next configured hconfigured =>
      split
      · next positions hpositions =>
        have hvalid := Datum.isPositions_of_positions? hpositions
        exact .ok (by simp [hmisplaces, hconfigured, hvalid])
      · next hpositions =>
        refine .bad (hmisplaces.mpr ⟨configured, hconfigured, fun hvalid => ?_⟩) rfl
        simpa [hpositions] using hvalid.isSome_positions?
  · next hlist hobject => exact absurd ⟨hlist, hobject⟩ hmethods

theorem warningAt_badIf (hmethods : ¬config.methods.IsSingle) (hname : ¬config.name.isVoid = true)
    {code : Datum} (hcode : config.codeInUse = .ok code) (scan : Scan) (site : Site) :
    BadIf (config.Misplaces site.call.method ∨ config.warningSymbol.isVoid = true)
      (config.warningAt scan site) := by
  rw [warningAt, hcode, requiredField, if_neg hname]
  have harguments : BadIf (config.Misplaces site.call.method) (Check.relevantArguments config site.call) :=
    (argumentPositions_badIf hmethods site.call.method).map _
  refine harguments.bind fun arguments _ => ?_
  exact (requiredField_badIf "warning_symbol" config.warningSymbol).bind_ok _

/-- A query for names comes to some sites in every store. -/
theorem exists_find_of_names {listed methods : List String}
    (htargets : config.targets = .list (listed.map .text)) (hmethods : config.methodNames = .ok methods)
    (scan : Scan) :
    ∃ query sites, config.query scan = .ok query ∧ (scan.store.find query).outcome = .ok sites := by
  obtain ⟨receivers, _, hquery⟩ := query_of_names htargets hmethods scan
  have hfind {q : Query} {plan : Plan} (hchained : q.chained.isVoid = true)
      (hplan : Plan.ofOptions q.receiverOption q.methodOption = .ok plan) (hclear : plan ≠ .unclear) :
      (scan.store.find q).outcome = (plan.sites scan.store).map (Store.withoutNested q.nested) :=
    congrArg Answer.outcome (Store.find_of_plan hchained hplan hclear)
  cases hnone : listed.isEmpty with
  | true =>
    let q : Query := { methods := .ofTexts methods }
    have hplan : Plan.ofOptions q.receiverOption q.methodOption = .ok (.methodsFirst _ none) :=
      Plan.ofOptions_of_method rfl rfl rfl (Value.criterion_ofTexts methods)
    rw [hnone, if_pos rfl] at hquery
    exact ⟨q, _, hquery, hfind rfl hplan (by simp)⟩
  | false =>
    let q : Query := { receivers := .ofTexts receivers, methods := .ofTexts methods }
    have hplan : Plan.ofOptions q.receiverOption q.methodOption = .ok _ :=
      Plan.ofOptions_texts receivers methods
    rw [hnone] at hquery
    split at hplan
    · exact ⟨q, _, hquery, hfind rfl hplan (by simp)⟩
    · exact ⟨q, _, hquery, hfind rfl hplan (by simp)⟩

/-- A configured code, or a text to derive one from, makes for a code. -/
theorem exists_codeInUse
    (hcode : config.warningCode ≠ .null ∨ ∃ text, config.canonicalText = .ok text) :
    ∃ code, config.codeInUse = .ok code := by
  by_cases hnone : config.warningCode = .null
  · obtain ⟨text, htext⟩ := hcode.resolve_left (not_not_intro hnone)
    rw [codeInUse, hnone, derivedCode, htext]
    exact ⟨_, rfl⟩
  · exact ⟨_, codeInUse_of_ne_null hnone⟩

theorem sitesFound_eq_ok_iff {scan : Scan} {sites : List Site} :
    config.sitesFound scan = .ok sites ↔
      ∃ query, config.query scan = .ok query ∧ (scan.store.find query).outcome = .ok sites := by
  rw [sitesFound]
  cases config.query scan <;> simp [bind, Except.bind]

theorem sitesFound_badIf {listed : List String} (htargets : config.targets = .list (listed.map .text))
    (scan : Scan) : BadIf config.methods.IsSingle (config.sitesFound scan) := by
  have hnames : BadIf config.methods.IsSingle config.methodNames := methodNames_badIf
  cases hmethods : config.methodNames with
  | error failure =>
    rw [hmethods] at hnames
    rw [sitesFound, query_of_malformed htargets hmethods]
    cases hnames with
    | bad holds attributed => exact .bad holds attributed
  | ok methods =>
    obtain ⟨query, sites, hquery, hsites⟩ := exists_find_of_names htargets hmethods scan
    rw [sitesFound_eq_ok_iff.mpr ⟨query, hquery, hsites⟩]
    exact .ok (hnames.not_of_ok hmethods)

theorem warnings_badIf (hread : config.IsRead) {code : Datum} (hcode : config.codeInUse = .ok code)
    (scan : Scan) :
    BadIf (config.name.isVoid = true ∨ config.methods.IsSingle ∨
      ∃ sites, config.sitesFound scan = .ok sites ∧ ∃ site ∈ Check.distinctSites sites,
        config.Misplaces site.call.method ∨ config.warningSymbol.isVoid = true)
      (config.warnings scan) := by
  obtain ⟨listed, htargets⟩ := hread.targets
  have hname := requiredField_badIf "name" config.name
  have hfound := sitesFound_badIf htargets scan
  refine hname.bind fun name hgiven => hfound.bind fun sites hsites => ?_
  have hwarnings : BadIf (∃ site ∈ Check.distinctSites sites,
      config.Misplaces site.call.method ∨ config.warningSymbol.isVoid = true) _ :=
    .mapM fun site =>
      warningAt_badIf (hfound.not_of_ok hsites) (hname.not_of_ok hgiven) hcode scan site
  exact hwarnings.congr (by simp [hsites])

end Config

namespace Check

variable {d : Datum} {config : Config}

theorem exists_mem_distinctSites {sites : List Site} (hsites : sites ≠ []) :
    ∃ site, site ∈ distinctSites sites := by
  obtain ⟨first, rest, rfl⟩ := List.exists_cons_of_ne_nil hsites
  rw [distinctSites, firstOfEach_eq_eraseDupsBy, List.eraseDupsBy_cons]
  exact ⟨first, List.mem_cons_self⟩

theorem exists_distinct_iff {sites : List Site} {condition : Site → Prop} {p : Prop} :
    (∃ site ∈ distinctSites sites, condition site ∨ p) ↔
      sites ≠ [] ∧ (p ∨ ∃ site ∈ distinctSites sites, condition site) := by
  constructor
  · rintro ⟨site, hsite, hcondition⟩
    refine ⟨List.ne_nil_of_mem ((firstOfEach_sublist sites).subset hsite), ?_⟩
    exact hcondition.symm.imp_right fun h => ⟨site, hsite, h⟩
  · rintro ⟨hne, h | ⟨site, hsite, h⟩⟩
    · obtain ⟨site, hsite⟩ := exists_mem_distinctSites hne
      exact ⟨site, hsite, .inr h⟩
    · exact ⟨site, hsite, .inl h⟩

/-- A run of a fresh check whose configuration was read, and comes to a code, fails over a bad attribute
    if and only if there is no name, the methods are neither a list nor an object, or its query finds some
    call and there is no symbol or the method of a call that is found is mapped to something other than
    positions of arguments. It fails in no other way, so otherwise it comes to warnings. Sites of one
    identity are one call, for which the first of them stands. The store is any store, and a description
    is not needed. -/
theorem run_fails_iff (h : Config.ofDatum d = .valid config)
    (hcode : config.warningCode ≠ .null ∨ ∃ text, config.canonicalText = .ok text) (scan : Scan) :
    ((∃ failure, ((run scan).run (ofConfig config)).outcome = .error failure ∧
        failure.isBadAttribute = true) ↔
      config.name.IsMissing ∨ config.methods.IsSingle ∨
      ∃ query sites, ((Check.query scan).run (ofConfig config)).outcome = .ok query ∧
        (scan.store.find query).outcome = .ok sites ∧ sites ≠ [] ∧
        (config.warningSymbol.IsMissing ∨
          ∃ site ∈ distinctSites sites, config.Misplaces site.call.method)) ∧
    ∀ failure, ((run scan).run (ofConfig config)).outcome = .error failure →
      failure.isBadAttribute = true := by
  have hread := Config.isRead_of_ofDatum h
  obtain ⟨name, hname⟩ := hread.name
  obtain ⟨symbol, hsymbol⟩ := hread.warningSymbol
  obtain ⟨code, hcode⟩ := Config.exists_codeInUse hcode
  have hrun : ((run scan).run (ofConfig config)).outcome = config.warnings scan :=
    (run_gives scan _ (.ofConfig config)).2
  have hquery : ((Check.query scan).run (ofConfig config)).outcome = config.query scan :=
    (query_goesAs scan _ (.refl _)).2
  have hbad := Config.warnings_badIf hread hcode scan
  rw [hrun, hquery]
  refine ⟨hbad.exists_error_iff.trans ?_, fun failure => hbad.isBadAttribute⟩
  rw [hname, hsymbol, Datum.isVoid_ofName_iff, Datum.isVoid_ofName_iff]
  refine or_congr_right (or_congr_right ?_)
  simp only [Config.sitesFound_eq_ok_iff, exists_distinct_iff]
  constructor
  · rintro ⟨sites, ⟨query, hquery, hsites⟩, hfound⟩
    exact ⟨query, sites, hquery, hsites, hfound⟩
  · rintro ⟨query, sites, hquery, hsites, hfound⟩
    exact ⟨sites, ⟨query, hquery, hsites⟩, hfound⟩

/-- A position that is no position is found out if there is a call, and not in an empty store. -/
theorem run_fails_iff_of_misplaced :
    let d : Datum := .object [("name", .text "Finds"), ("warning_symbol", .text "FND"),
      ("warning_code", .int 1), ("methods", .object [("find", .bool true)])]
    let empty : Scan := ⟨.empty, [], .none⟩
    let scan : Scan := { empty with store := Store.empty.insertAll [⟨0, Call.ofChain "find" []⟩] }
    ∃ config, Config.ofDatum d = .valid config ∧
      (∃ failure, ((run scan).run (ofConfig config)).outcome = .error failure ∧
        failure.isBadAttribute = true) ∧
      ¬ ∃ failure, ((run empty).run (ofConfig config)).outcome = .error failure := by
  intro d empty scan
  let config : Config :=
    { name := .text "Finds", description := .null, warningSymbol := .text "FND", warningCode := .int 1
      targets := .list [], methods := .object [("find", .bool true)] }
  have hread : Config.ofDatum d = .valid config := rfl
  have hcode : config.warningCode ≠ .null ∨ ∃ text, config.canonicalText = .ok text := by
    simp [config]
  have hmisplaces : config.Misplaces "find" := by
    refine ⟨_, _, rfl, rfl, ?_⟩
    rintro ⟨⟩
  have hquery (scan : Scan) : ((Check.query scan).run (ofConfig config)).outcome =
      .ok { methods := query.textList ["find"] } := rfl
  have hfound : (scan.store.find { methods := query.textList ["find"] }).outcome =
      .ok [⟨0, Call.ofChain "find" []⟩] := by cbv
  have hnone : (empty.store.find { methods := query.textList ["find"] }).outcome = .ok [] := by cbv
  refine ⟨config, hread, (run_fails_iff hread hcode scan).1.mpr ?_, ?_⟩
  · exact .inr (.inr ⟨_, _, hquery scan, hfound, by simp, .inr ⟨_, List.mem_cons_self, hmisplaces⟩⟩)
  · rintro ⟨failure, hfailure⟩
    obtain ⟨hiff, honly⟩ := run_fails_iff hread hcode empty
    obtain hmissing | hsingle | ⟨query, sites, hissued, hsites, hsome, -⟩ :=
      hiff.mp ⟨failure, hfailure, honly failure hfailure⟩
    · simp [config, Datum.IsMissing] at hmissing
    · exact hsingle.2 _ rfl
    · cases (hquery empty).symm.trans hissued
      cases hnone.symm.trans hsites
      exact hsome rfl

end Check

end CallAudit

import CallAudit.Proofs.Check.Arguments
import CallAudit.Proofs.Check.Memory

/-!
# Grading calls

A warning is graded by the first argument in which a test of the classifier finds something. Nulls and
repeated arguments are skipped before the tests, which nobody notices as long as the tests find nothing in
null and do not tell equal arguments apart.
-/

namespace CallAudit

namespace Classifier

variable {classifier : Classifier}

/-- Whether any of the three tests finds something in an argument. -/
def findsIn (classifier : Classifier) (argument : Datum) : Bool :=
  (classifier.immediateUserInput argument).isSome || (classifier.immediateModel argument).isSome ||
    (classifier.includedUserInput argument).isSome

/-- Nothing is found in null, and something in both or neither of two equal arguments. What is found in
    them, and by which test, may differ. -/
structure RespectsEquality (classifier : Classifier) : Prop where
  null : classifier.findsIn .null = false
  same : ∀ a b : Datum, a.same b = true → classifier.findsIn a = classifier.findsIn b

/-- Tests whose answers are the same on equal arguments do not tell them apart. -/
theorem RespectsEquality.of_answers
    (hnull : classifier.immediateUserInput .null = .none ∧ classifier.immediateModel .null = .none ∧
      classifier.includedUserInput .null = .none)
    (hsame : ∀ a b : Datum, a.same b = true →
      classifier.immediateUserInput a = classifier.immediateUserInput b ∧
        classifier.immediateModel a = classifier.immediateModel b ∧
        classifier.includedUserInput a = classifier.includedUserInput b) :
    classifier.RespectsEquality where
  null := by
    obtain ⟨hinput, hmodel, hincluded⟩ := hnull
    rw [findsIn, hinput, hmodel, hincluded]
    rfl
  same a b h := by
    obtain ⟨hinput, hmodel, hincluded⟩ := hsame a b h
    rw [findsIn, findsIn, hinput, hmodel, hincluded]

end Classifier

namespace Grade

variable {classifier : Classifier} {argument : Datum} {arguments : List Datum} {grade : Grade}

/-- The grade that an argument gives, by the first test that finds something in it. -/
inductive IsGivenBy (classifier : Classifier) (argument : Datum) : Grade → Prop
  | immediateInput {found : Finding} (input : classifier.immediateUserInput argument = some found) :
      IsGivenBy classifier argument ⟨.high, s!" with immediate {found.friendlyKind}", found.value⟩
  | immediateModel {found : Finding} (noInput : classifier.immediateUserInput argument = none)
      (model : classifier.immediateModel argument = some found) :
      IsGivenBy classifier argument ⟨.medium, s!" with {found.friendlyKind}", found.value⟩
  | includedInput {found : Finding} (noInput : classifier.immediateUserInput argument = none)
      (noModel : classifier.immediateModel argument = none)
      (included : classifier.includedUserInput argument = some found) :
      IsGivenBy classifier argument ⟨.medium, s!" with {found.friendlyKind}", found.value⟩

/-- The grade of some arguments: that of the first in which something is found, and the lowest if there is
    none. -/
inductive IsDecidedBy (classifier : Classifier) (arguments : List Datum) : Grade → Prop
  | nothing (nothing : ∀ a ∈ arguments, classifier.findsIn a = false) :
      IsDecidedBy classifier arguments ⟨.low, "", .null⟩
  | first {before after : List Datum} {argument : Datum} {grade : Grade}
      (arguments_eq : arguments = before ++ argument :: after)
      (nothing_before : ∀ a ∈ before, classifier.findsIn a = false)
      (given : grade.IsGivenBy classifier argument) : IsDecidedBy classifier arguments grade

theorem isSome_ofArgument? (classifier : Classifier) (argument : Datum) :
    (ofArgument? classifier argument).isSome = classifier.findsIn argument := by
  rw [ofArgument?, Classifier.findsIn]
  cases classifier.immediateUserInput argument with
  | some found => rfl
  | none => cases classifier.immediateModel argument <;> cases classifier.includedUserInput argument <;> rfl

theorem ofArgument?_eq_none_iff :
    ofArgument? classifier argument = none ↔ classifier.findsIn argument = false := by
  rw [← isSome_ofArgument?, Option.isSome_eq_false_iff, Option.isNone_iff_eq_none]

theorem ofArgument?_eq_some_iff :
    ofArgument? classifier argument = some grade ↔ grade.IsGivenBy classifier argument := by
  constructor
  · intro hgrade
    rw [ofArgument?] at hgrade
    cases hinput : classifier.immediateUserInput argument with
    | some found =>
      rw [hinput] at hgrade
      cases hgrade
      exact .immediateInput hinput
    | none =>
      cases hmodel : classifier.immediateModel argument with
      | some found =>
        rw [hinput, hmodel] at hgrade
        cases hgrade
        exact .immediateModel hinput hmodel
      | none =>
        cases hincluded : classifier.includedUserInput argument with
        | some found =>
          rw [hinput, hmodel, hincluded] at hgrade
          cases hgrade
          exact .includedInput hinput hmodel hincluded
        | none =>
          rw [hinput, hmodel, hincluded] at hgrade
          cases hgrade
  · intro hgiven
    rw [ofArgument?]
    cases hgiven with
    | immediateInput hinput => rw [hinput]
    | immediateModel hinput hmodel => rw [hinput, hmodel, Option.some_or]
    | includedInput hinput hmodel hincluded => rw [hinput, hmodel, hincluded, Option.none_or]

theorem isDecidedBy_ofArguments (classifier : Classifier) (arguments : List Datum) :
    (ofArguments classifier arguments).IsDecidedBy classifier arguments := by
  rw [ofArguments]
  cases hsearch : arguments.findSome? (ofArgument? classifier) with
  | none =>
    have hnothing := List.findSome?_eq_none_iff.mp hsearch
    exact .nothing fun a ha => ofArgument?_eq_none_iff.mp (hnothing a ha)
  | some grade =>
    obtain ⟨before, argument, after, harguments, hgrade, hbefore⟩ := List.findSome?_eq_some_iff.mp hsearch
    apply IsDecidedBy.first harguments
    · exact fun a ha => ofArgument?_eq_none_iff.mp (hbefore a ha)
    · exact ofArgument?_eq_some_iff.mp hgrade

/-- No other grade than one is decided by some arguments. -/
theorem isDecidedBy_iff :
    grade.IsDecidedBy classifier arguments ↔ grade = ofArguments classifier arguments := by
  refine ⟨fun hdecided => ?_, fun hgrade => hgrade ▸ isDecidedBy_ofArguments classifier arguments⟩
  rw [ofArguments]
  cases hdecided with
  | nothing hnothing =>
    have hsearch : arguments.findSome? (ofArgument? classifier) = none :=
      List.findSome?_eq_none_iff.mpr fun a ha => ofArgument?_eq_none_iff.mpr (hnothing a ha)
    rw [hsearch]
    rfl
  | first harguments hbefore hgiven =>
    have hsearch : arguments.findSome? (ofArgument? classifier) = some grade := by
      apply List.findSome?_eq_some_iff.mpr
      refine ⟨_, _, _, harguments, ofArgument?_eq_some_iff.mpr hgiven, fun a ha => ?_⟩
      exact ofArgument?_eq_none_iff.mpr (hbefore a ha)
    rw [hsearch]
    rfl

/-- Leaving out nulls and repeated arguments does not change the grade. -/
theorem ofArguments_distinct (hclassifier : classifier.RespectsEquality) (arguments : List Datum) :
    ofArguments classifier (Datum.distinct (arguments.filter fun a => !a.isNull)) =
      ofArguments classifier arguments := by
  have hsame (a b : Datum) (h : a.same b = true) :
      (ofArgument? classifier a).isSome = (ofArgument? classifier b).isSome := by
    rw [isSome_ofArgument?, isSome_ofArgument?, hclassifier.same a b h]
  have hskipped (a : Datum) (hnull : (!a.isNull) = false) : ofArgument? classifier a = none := by
    apply ofArgument?_eq_none_iff.mpr
    cases a with
    | null => exact hclassifier.null
    | _ => cases hnull
  rw [ofArguments, ofArguments, Datum.distinct, findSome?_firstOfEach hsame, findSome?_filter hskipped]

end Grade

namespace Check

/-- The warning about a call is graded by all the arguments that the positions lead to, nulls and repeated
    ones among them: the first in which something is found gives the confidence, the end of the message and
    the user input, and what comes after it is of no account. If there is none, the confidence is low, the
    message ends with the receiver, and there is no user input. The arguments may be any data, and the
    check may remember its code. -/
theorem process_is_graded (scan : Scan) (check : Check) (site : Site) {code : Datum}
    {positions : Option (List Int)} (hname : check.config.name.isVoid = false)
    (hsymbol : check.config.warningSymbol.isVoid = false) (hcode : check.codeInUse = .ok code)
    (hpositions : check.config.methods.GivesPositions site.call.method positions)
    (hclassifier : scan.classifier.RespectsEquality) :
    ∃ places grade, LeadsTo positions places ∧
      (∀ other : Grade,
        other.IsDecidedBy scan.classifier (places.map site.call.args.get) ↔ other = grade) ∧
      ((process scan site).run check).outcome =
        .ok { check := check.config.name, symbol := check.config.warningSymbol, code
              message := s!"{site.call.method} called on {site.call.receiver.described}{grade.suffix}"
              confidence := grade.confidence, site, userInput := grade.userInput } := by
  obtain ⟨places, hplaces, harguments⟩ := exists_leadsTo site.call.args positions
  refine ⟨places, _, hplaces, fun _ => Grade.isDecidedBy_iff, ?_⟩
  have hwarning : ((process scan site).run check).outcome = check.warningAt scan site :=
    (process_goesAs scan site check (.refl check)).2
  rw [hwarning, warningAt, relevantArguments_of_gives hpositions,
    Config.requiredField_of_not_void hname, Config.requiredField_of_not_void hsymbol, hcode, harguments,
    ← Grade.ofArguments_distinct hclassifier]
  rfl

/-- A model comes before immediate user input, and decides although it is the weaker finding. -/
theorem process_is_graded_by_model :
    let input : Datum := .text "params[:name]"
    let model : Datum := .text "user.name"
    let classifier : Classifier :=
      { immediateUserInput := fun a => if input.same a then some ⟨"params", .text ":name"⟩ else none
        immediateModel := fun a => if model.same a then some ⟨"model", .text "name"⟩ else none
        includedUserInput := fun _ => none }
    let config : Config :=
      { name := .text "Finds", description := .null, warningSymbol := .text "FND", warningCode := .int 7
        targets := .list [], methods := .list [.text "find"] }
    let site : Site := ⟨0, { Call.ofChain "find" [] with args := [.null, .int 1, model, input, model] }⟩
    let scan : Scan := ⟨.empty, [], classifier⟩
    config.name.isVoid = false ∧ config.warningSymbol.isVoid = false ∧
      (ofConfig config).codeInUse = .ok (.int 7) ∧
      config.methods.GivesPositions site.call.method none ∧ classifier.RespectsEquality ∧
      ((process scan site).run (ofConfig config)).outcome =
        .ok { check := .text "Finds", symbol := .text "FND", code := .int 7
              message := "find called on self with model attribute"
              confidence := .medium, site, userInput := .text "name" } := by
  intro input model classifier config site scan
  have hname : config.name.isVoid = false := by decide
  have hsymbol : config.warningSymbol.isVoid = false := by decide
  have hcode : (ofConfig config).codeInUse = .ok (.int 7) := rfl
  have hpositions : config.methods.GivesPositions site.call.method none := .listed _
  have htext (s : String) {a b : Datum} (hsame : a.same b = true) :
      (Datum.text s).same a = (Datum.text s).same b := by
    rw [Bool.eq_iff_iff, Datum.same_text_iff, Datum.same_text_iff]
    constructor
    · rintro rfl
      exact Datum.same_text_iff.mp hsame
    · rintro rfl
      cases a with
      | text t => exact (Datum.same_text_iff.mp hsame).symm
      | _ => cases hsame
  have hclassifier : classifier.RespectsEquality := by
    apply Classifier.RespectsEquality.of_answers
    · exact ⟨rfl, rfl, rfl⟩
    · intro a b hsame
      have hinput : input.same a = input.same b := htext _ hsame
      have hmodel : model.same a = model.same b := htext _ hsame
      simp only [classifier, hinput, hmodel, and_self]
  obtain ⟨places, grade, hplaces, hgrade, houtcome⟩ :=
    process_is_graded scan (ofConfig config) site hname hsymbol hcode hpositions hclassifier
  refine ⟨hname, hsymbol, hcode, hpositions, hclassifier, ?_⟩
  cases hplaces with
  | all =>
    have hnoInput : classifier.immediateUserInput model = none := rfl
    have hfound : classifier.immediateModel model = some ⟨"model", .text "name"⟩ := rfl
    have hbefore : ∀ a ∈ [Datum.null, .int 1], classifier.findsIn a = false := by decide
    have hdecided : Grade.IsDecidedBy classifier ([.null, .int 1] ++ model :: [input, model]) _ :=
      .first rfl hbefore (.immediateModel hnoInput hfound)
    rw [houtcome, ← (hgrade _).mp hdecided]
    rfl

end Check

end CallAudit

import CallAudit.Proofs.Call.RoundTrip
import CallAudit.Proofs.CommandLine.Outcome
import CallAudit.Proofs.Query.Chains

/-!
# Queries with repeated options

An option of the command line may be given several values. If these are names, a query prints what the
queries for one value of each option print together. A pattern is looked for only if it is the one value
of its option: among several it finds nothing.
-/

namespace CallAudit

namespace Value

/-- A member of a list counts for what it asks for alone if it is a name or the lack of one. -/
theorem asksFor_list (items : List Value) (name : Option String) :
    (list items).asksFor name = items.any fun item => item.name?.isSome && item.asksFor name := by
  rw [asksFor]
  refine List.any_congr rfl fun item => ?_
  cases item with
  | null => cases name <;> rfl
  | text s => cases name <;> simp [name?, asksFor, eq_comm]
  | _ => rfl

theorem any_asksFor_list (items : List Value) (key : Option (Option String)) :
    key.any (list items).asksFor = items.any fun item => item.name?.isSome && key.any item.asksFor := by
  cases key with
  | none => simp
  | some name => exact asksFor_list items name

theorem asksForChain_list (items : List Value) (chain : Chain.Segments) :
    (list items).asksForChain chain =
      items.any fun item => item.name?.isSome && item.asksForChain chain := by
  rw [asksForChain]
  refine List.any_congr rfl fun item => ?_
  cases item <;> rfl

theorem pick_absent (v : Value) : pick v .absent = v := by
  cases v <;> rfl

end Value

namespace CommandLine

/-- Whether a value of an option is written as a pattern. -/
def isPattern (text : String) : Bool :=
  1 < text.toList.length && text.toList.head? == some '/' && text.toList.getLast? == some '/'

/-- Whether a value of an option is a name, or a pattern that can be read. -/
def IsValid (text : String) : Prop := ∃ v, queryValue text = .ok v

/-- What a value of an option stands for. -/
def valueOf (text : String) : Value := (queryValue text).toOption.getD .absent

/-- What several values of an option stand for. -/
def optionOf : List String → Value
  | [] => .absent
  | [text] => valueOf text
  | texts => .list (texts.map valueOf)

theorem queryValue_of_name {text : String} (hname : isPattern text = false) :
    queryValue text = .ok (.text text) := by
  rw [queryValue]
  exact if_neg (Bool.eq_false_iff.mp hname)

theorem exists_queryValue_of_pattern {text : String} (hvalid : IsValid text)
    (hpattern : isPattern text = true) : ∃ r, queryValue text = .ok (.regex r) := by
  obtain ⟨v, hv⟩ := hvalid
  rw [queryValue] at hv ⊢
  have hslashes : (1 < text.toList.length && text.toList.head? == some '/' &&
      text.toList.getLast? == some '/') = true := hpattern
  simp only [hslashes, if_true] at hv ⊢
  cases hregex : Regex.parse (String.ofList text.toList.tail.dropLast) with
  | ok regex => exact ⟨regex, rfl⟩
  | error error =>
    rw [hregex] at hv
    cases hv

theorem valueOf_eq {text : String} {v : Value} (hv : queryValue text = .ok v) : valueOf text = v := by
  rw [valueOf, hv]
  rfl

/-- A value of an option is a name if it is not written as a pattern, and else a pattern. -/
theorem valueOf_cases {text : String} (hvalid : IsValid text) :
    (isPattern text = false ∧ valueOf text = .text text) ∨
      (isPattern text = true ∧ ∃ r, valueOf text = .regex r) := by
  cases hpattern : isPattern text with
  | false => exact .inl ⟨rfl, valueOf_eq (queryValue_of_name hpattern)⟩
  | true =>
    obtain ⟨r, hr⟩ := exists_queryValue_of_pattern hvalid hpattern
    exact .inr ⟨rfl, r, valueOf_eq hr⟩

theorem isSome_name?_valueOf {text : String} (hvalid : IsValid text) :
    (valueOf text).name?.isSome = !isPattern text := by
  obtain ⟨hname, hv⟩ | ⟨hpattern, r, hv⟩ := valueOf_cases hvalid
  · rw [hname, hv]
    rfl
  · rw [hpattern, hv]
    rfl

section Option

variable {texts : List String} (hvalid : ∀ text ∈ texts, IsValid text)

include hvalid

theorem queryOption_eq : queryOption texts = .ok (optionOf texts) := by
  have hvalues : texts.mapM queryValue = .ok (texts.map valueOf) := by
    induction texts with
    | nil => rfl
    | cons text rest ih =>
      obtain ⟨v, hv⟩ := hvalid text (by simp)
      rw [List.mapM_cons, hv, ih fun other hother => hvalid other (List.mem_cons_of_mem text hother),
        List.map_cons, valueOf_eq hv]
      rfl
  rw [queryOption, hvalues]
  match texts with
  | [] => rfl
  | [_] => rfl
  | _ :: _ :: _ => rfl

theorem isRequest_optionOf : (optionOf texts).IsRequest := by
  match texts, hvalid with
  | [], _ => exact .option .absent
  | [text], hvalid =>
    rw [optionOf]
    obtain ⟨_, hv⟩ | ⟨_, r, hv⟩ := valueOf_cases (hvalid text (by simp))
    · exact hv ▸ .option (.name text)
    · exact hv ▸ .option (.regex r)
  | _ :: _ :: _, hvalid =>
    refine .list fun item hitem => ?_
    obtain ⟨text, htext, rfl⟩ := List.mem_map.mp hitem
    obtain ⟨_, hv⟩ | ⟨_, r, hv⟩ := valueOf_cases (hvalid text htext)
    · exact .inl (hv ▸ rfl)
    · exact .inr ⟨r, hv⟩

theorem isNull_optionOf : (optionOf texts).isNull = false := by
  match texts, hvalid with
  | [], _ => rfl
  | [text], hvalid =>
    obtain ⟨_, hv⟩ | ⟨_, r, hv⟩ := valueOf_cases (hvalid text (by simp)) <;> rw [optionOf, hv] <;> rfl
  | _ :: _ :: _, _ => rfl

theorem isAbsent_optionOf : (optionOf texts).isAbsent = texts.isEmpty := by
  match texts, hvalid with
  | [], _ => rfl
  | [text], hvalid =>
    obtain ⟨_, hv⟩ | ⟨_, r, hv⟩ := valueOf_cases (hvalid text (by simp)) <;> rw [optionOf, hv] <;> rfl
  | _ :: _ :: _, _ => rfl

end Option

/-- The values of an option that are looked for: of several the names. -/
def lookedFor (texts : List String) : List String :=
  if 1 < texts.length then texts.filter (!isPattern ·) else texts

/-- Whether a value that is looked for passes a test, or else what holds if there is no value. -/
def asks (texts : List String) (otherwise : Bool) (test : Value → Bool) : Bool :=
  if texts.isEmpty then otherwise else (lookedFor texts).any fun text => test (valueOf text)

/-- An option with values passes a test if one that is looked for passes it, provided that the names in
    a list are what counts for the test. -/
theorem test_optionOf {texts : List String} (hvalid : ∀ text ∈ texts, IsValid text)
    (hgiven : texts.isEmpty = false) {test : Value → Bool} (htest : ∀ items : List Value,
      test (.list items) = items.any fun item => item.name?.isSome && test item) (otherwise : Bool) :
    test (optionOf texts) = asks texts otherwise test := by
  rw [asks, hgiven, if_neg Bool.false_ne_true]
  match texts, hvalid with
  | [], _ => cases hgiven
  | [text], _ => simp [lookedFor, optionOf]
  | first :: second :: rest, hvalid =>
    have hseveral : 1 < (first :: second :: rest).length := by simp
    have hoption : optionOf (first :: second :: rest) =
        .list ((first :: second :: rest).map valueOf) := rfl
    rw [lookedFor, if_pos hseveral, hoption, htest, List.any_map, List.any_filter, Bool.eq_iff_iff,
      List.any_eq_true, List.any_eq_true]
    refine exists_congr fun text => and_congr_right fun htext => ?_
    rw [Function.comp_apply, isSome_name?_valueOf (hvalid text htext)]

theorem absent_or_test_optionOf {texts : List String} (hvalid : ∀ text ∈ texts, IsValid text)
    {test : Value → Bool} (htest : ∀ items : List Value,
      test (.list items) = items.any fun item => item.name?.isSome && test item) :
    ((optionOf texts).isAbsent || test (optionOf texts)) = asks texts true test := by
  rw [isAbsent_optionOf hvalid]
  cases hgiven : texts.isEmpty with
  | true =>
    rw [asks, hgiven]
    rfl
  | false => rw [test_optionOf hvalid hgiven htest true, Bool.false_or]

namespace QueryCommand

variable {command : QueryCommand}

/-- Whether a call has a method that a value stands for. -/
def hasMethod (call : Call) (method : Value) : Bool := method.asksFor (some call.method)

/-- Whether a call is made on what a target stands for, or on a chain that it stands for. -/
def isOnTarget (chained : Bool) (call : Call) (target : Value) : Bool :=
  if chained then target.asksForChain call.chain else call.receiver.key?.any target.asksFor

/-- Whether a call is among those that a query prints. On chains a method must be given, and no target
    stands for no known head. -/
def finds (command : QueryCommand) (call : Call) : Bool :=
  (command.chained || !(command.targets.isEmpty && command.methods.isEmpty)) &&
    asks command.methods (!command.chained) (hasMethod call) &&
    asks command.targets (!command.chained || (Chain.head call.chain).isNone)
      (isOnTarget command.chained call) &&
    (command.chained || command.nested || !call.nested)

/-- What a command asks the store for. -/
def toQuery (command : QueryCommand) : Query :=
  { receiver := optionOf command.targets, method := optionOf command.methods
    chained := .bool command.chained, nested := .bool command.nested }

/-- A command with a target or none, all of whose values are names or patterns that can be read. -/
structure WellFormed (command : QueryCommand) : Prop where
  withoutTarget : command.withoutTarget = false
  targets : ∀ text ∈ command.targets, IsValid text
  methods : ∀ text ∈ command.methods, IsValid text

theorem hasMethod_list (call : Call) (items : List Value) :
    hasMethod call (.list items) = items.any fun item => item.name?.isSome && hasMethod call item :=
  Value.asksFor_list items (some call.method)

theorem isOnTarget_list (chained : Bool) (call : Call) (items : List Value) :
    isOnTarget chained call (.list items) =
      items.any fun item => item.name?.isSome && isOnTarget chained call item := by
  cases chained with
  | true => exact Value.asksForChain_list items call.chain
  | false => exact Value.any_asksFor_list items call.receiver.key?

section Find

variable (hwell : command.WellFormed) {store : Store} {live : List Site}
  (hrep : store.Represents live)

include hwell

theorem receiverOption_toQuery : command.toQuery.receiverOption = optionOf command.targets := by
  rw [Query.receiverOption, toQuery, Value.pick_absent, (isRequest_optionOf hwell.targets).unwrap_eq]

theorem methodOption_toQuery : command.toQuery.methodOption = optionOf command.methods := by
  rw [Query.methodOption, toQuery, Value.pick_absent, (isRequest_optionOf hwell.methods).unwrap_eq,
    Value.absentIfNull, isNull_optionOf hwell.methods]
  rfl

/-- A scan off chains keeps the calls that a command with some value of an option finds. -/
theorem keeps_toQuery (hchained : command.chained = false)
    (hgiven : (command.targets.isEmpty && command.methods.isEmpty) = false) (site : Site) :
    command.toQuery.keeps site = command.finds site.call := by
  have htargets : ((optionOf command.targets).isAbsent ||
      site.call.receiver.key?.any (optionOf command.targets).asksFor) =
        asks command.targets true (isOnTarget false site.call) :=
    absent_or_test_optionOf hwell.targets (isOnTarget_list false site.call)
  have hmethods : ((optionOf command.methods).isAbsent ||
      (optionOf command.methods).asksFor (some site.call.method)) =
        asks command.methods true (hasMethod site.call) :=
    absent_or_test_optionOf hwell.methods (hasMethod_list site.call)
  have hnested : command.toQuery.nested.isVoid = !command.nested := rfl
  rw [Query.keeps_eq, Site.isAskedFor, receiverOption_toQuery hwell, methodOption_toQuery hwell,
    isNull_optionOf hwell.methods, Bool.or_false, hmethods, htargets, hnested, Bool.not_not, finds,
    hgiven, hchained]
  rfl

/-- Off chains a command without a value of an option finds nothing. -/
theorem find_toQuery_of_nothing (hchained : command.chained = false)
    (hnothing : (command.targets.isEmpty && command.methods.isEmpty) = true) :
    (store.find command.toQuery).outcome = .ok [] := by
  obtain ⟨htargets, hmethods⟩ := Bool.and_eq_true_iff.mp hnothing
  have hvoid : command.toQuery.chained.isVoid = true := by simp [toQuery, hchained, Datum.isVoid]
  have hplan : Plan.ofOptions command.toQuery.receiverOption command.toQuery.methodOption =
      .ok .unclear := by
    refine Plan.ofOptions_unclear ?_ ?_
    · rw [receiverOption_toQuery hwell, isAbsent_optionOf hwell.targets, htargets, Bool.true_or]
    · rw [methodOption_toQuery hwell, isAbsent_optionOf hwell.methods, hmethods]
  exact (Store.find_of_unclear hvoid hplan).1

include hrep

theorem find_toQuery_of_unchained (hchained : command.chained = false) :
    (store.find command.toQuery).outcome = .ok (live.filter (command.finds ·.call)) := by
  cases hnothing : command.targets.isEmpty && command.methods.isEmpty with
  | true =>
    have hnone (site : Site) : command.finds site.call = false := by
      simp [finds, hchained, hnothing]
    simp [find_toQuery_of_nothing hwell hchained hnothing, hnone]
  | false =>
    have hvoid : command.toQuery.chained.isVoid = true := by simp [toQuery, hchained, Datum.isVoid]
    have hrestricts : (command.toQuery.methodOption.isAbsent &&
        (command.toQuery.receiverOption.isAbsent || command.toQuery.receiverOption.isNull)) = false := by
      rw [receiverOption_toQuery hwell, methodOption_toQuery hwell, isNull_optionOf hwell.targets,
        isAbsent_optionOf hwell.targets, isAbsent_optionOf hwell.methods, Bool.or_false, Bool.and_comm,
        hnothing]
    have hreceiver : command.toQuery.receiverOption.IsRequest :=
      receiverOption_toQuery hwell ▸ isRequest_optionOf hwell.targets
    have hmethod : command.toQuery.methodOption.IsRequest :=
      methodOption_toQuery hwell ▸ isRequest_optionOf hwell.methods
    rw [hrep.find_of_requests hvoid hreceiver hmethod hrestricts]
    exact congrArg Except.ok (List.filter_congr fun site _ => keeps_toQuery hwell hchained hnothing site)

theorem find_toQuery_of_chained (hchained : command.chained = true) :
    (store.find command.toQuery).outcome = .ok (live.filter (command.finds ·.call)) := by
  have hvoid : command.toQuery.chained.isVoid = false := by simp [toQuery, hchained, Datum.isVoid]
  have hscans := hrep.findInChains_of_requests (isRequest_optionOf hwell.targets)
    (isRequest_optionOf hwell.methods)
  rw [Store.find, hvoid, receiverOption_toQuery hwell, methodOption_toQuery hwell]
  rw [Answer.ScansChains, isNull_optionOf hwell.methods, isAbsent_optionOf hwell.methods,
    Bool.or_false] at hscans
  cases hmethods : command.methods.isEmpty with
  | true =>
    have hnone (site : Site) : command.finds site.call = false := by
      simp [finds, hchained, asks, hmethods]
    rw [hmethods, if_pos rfl] at hscans
    simpa [hnone] using hscans.1
  | false =>
    rw [hmethods, if_neg Bool.false_ne_true] at hscans
    simp only [Bool.not_false, if_true, hscans]
    refine congrArg Except.ok (List.filter_congr fun site _ => ?_)
    have hmethod : (optionOf command.methods).asksFor (some site.call.method) =
        asks command.methods false (hasMethod site.call) :=
      test_optionOf hwell.methods hmethods (hasMethod_list site.call) false
    have htarget : (optionOf command.targets).asksForChain site.call.chain =
        asks command.targets (Chain.head site.call.chain).isNone (isOnTarget true site.call) := by
      cases htargets : command.targets.isEmpty with
      | true =>
        rw [asks, htargets, List.isEmpty_iff.mp htargets]
        rfl
      | false => exact test_optionOf hwell.targets htargets (isOnTarget_list true site.call) _
    rw [hmethod, htarget, finds, hchained]
    simp

theorem find_toQuery :
    (store.find command.toQuery).outcome = .ok (live.filter (command.finds ·.call)) := by
  cases hchained : command.chained with
  | true => exact find_toQuery_of_chained hwell hrep hchained
  | false => exact find_toQuery_of_unchained hwell hrep hchained

end Find

theorem asked_eq (hwell : command.WellFormed) : command.asked = .ok command.toQuery := by
  rw [asked, hwell.withoutTarget, queryOption_eq hwell.targets, queryOption_eq hwell.methods]
  rfl

/-- A query over a file that loads comes to the data of the calls that it finds. -/
theorem outcome_eq (hwell : command.WellFormed) {files : Files} {calls : List Call}
    (hload : (Call.load command.calls (files command.calls)).outcome = .ok calls) :
    command.outcome files = .ok ((calls.filter command.finds).map Call.toDatum) := by
  have hrep : (storeOf calls).Represents (sitesOf calls) :=
    Store.Represents.empty.insertAll (sitesOf calls)
  have hcalls : ((sitesOf calls).filter (command.finds ·.call)).map (·.call.toDatum) =
      (calls.filter command.finds).map Call.toDatum := by
    have hfilter : ((sitesOf calls).map Site.call).filter command.finds =
        ((sitesOf calls).filter (command.finds ·.call)).map Site.call := List.filter_map
    rw [map_call_sitesOf] at hfilter
    rw [hfilter, List.map_map]
    rfl
  rw [outcome, hload, Except.ok_bind, asked_eq hwell, Except.ok_bind, find_toQuery hwell hrep,
    Except.ok_bind, hcalls]
  rfl

/-- Whether a query ends well, and prints the given calls as they are written to a file. -/
def Prints (command : QueryCommand) (verbose : Bool) (files : Files) (calls : List Call) : Prop :=
  let report := Command.report ⟨verbose, .query command⟩ files
  Json.writeLines? (calls.map Call.toDatum) = some report.output ∧ report.ending = .exit 0

theorem exists_lines_of_writable {data : List Datum}
    (hwritable : ∀ d ∈ data, (Json.write? d).isSome = true) :
    ∃ lines, List.Forall₂ (fun d line => Json.write? d = some line) data lines := by
  refine ⟨data.map fun d => (Json.write? d).getD "", ?_⟩
  rw [List.forall₂_map_right_iff, List.forall₂_same]
  intro d hd
  obtain ⟨line, hline⟩ := Option.isSome_iff_exists.mp (hwritable d hd)
  rw [hline, Option.getD_some]

theorem prints_finds (hwell : command.WellFormed) {files : Files} {calls : List Call}
    (hload : (Call.load command.calls (files command.calls)).outcome = .ok calls)
    (hwritable : ∀ call ∈ calls, (Json.write? call.toDatum).isSome = true) (verbose : Bool) :
    command.Prints verbose files (calls.filter command.finds) := by
  have hanswer : ((Task.query command).answer files).outcome =
      .ok ((calls.filter command.finds).map Call.toDatum) :=
    (command.outcome_answer files).trans (outcome_eq hwell hload)
  have hfound : ∀ d ∈ (calls.filter command.finds).map Call.toDatum, (Json.write? d).isSome = true := by
    intro d hd
    obtain ⟨call, hcall, rfl⟩ := List.mem_map.mp hd
    exact hwritable call (List.mem_filter.mp hcall).1
  obtain ⟨lines, hlines⟩ := exists_lines_of_writable hfound
  rw [Prints, Json.writeLines?_of_forall₂ hlines]
  simp [Command.report, hanswer, printedLines_of_forall₂ hlines]

/-- The values of an option one by one, or no value if there is none. -/
def choices (texts : List String) : List (List String) :=
  if texts.isEmpty then [[]] else texts.map fun text => [text]

/-- The queries that take one target and one method of those given, or none if none is given. -/
def singles (command : QueryCommand) : List QueryCommand :=
  (choices command.targets).flatMap fun targets =>
    (choices command.methods).map fun methods => { command with targets, methods }

/-- Whether the values that one of the queries takes are names where there are several. -/
def Counts (command one : QueryCommand) : Prop :=
  (1 < command.targets.length → ∀ text ∈ one.targets, isPattern text = false) ∧
    (1 < command.methods.length → ∀ text ∈ one.methods, isPattern text = false)

theorem isEmpty_of_mem_choices {texts one : List String} (hone : one ∈ choices texts) :
    one.isEmpty = texts.isEmpty := by
  rw [choices] at hone
  split at hone
  · next hnone => rw [List.mem_singleton.mp hone, hnone]; rfl
  · next hsome =>
    obtain ⟨text, _, rfl⟩ := List.mem_map.mp hone
    exact (Bool.eq_false_iff.mpr hsome).symm

theorem mem_of_mem_choices {texts one : List String} {text : String} (hone : one ∈ choices texts)
    (htext : text ∈ one) : text ∈ texts := by
  rw [choices] at hone
  split at hone
  · rw [List.mem_singleton.mp hone] at htext
    cases htext
  · obtain ⟨other, hother, rfl⟩ := List.mem_map.mp hone
    rwa [List.mem_singleton.mp htext]

theorem mem_lookedFor_iff {texts : List String} {text : String} :
    text ∈ lookedFor texts ↔ text ∈ texts ∧ (1 < texts.length → isPattern text = false) := by
  rw [lookedFor]
  split
  · next hseveral => simp [hseveral]
  · next hone => simp [hone]

theorem asks_iff_exists_choice (texts : List String) (otherwise : Bool) (test : Value → Bool) :
    asks texts otherwise test = true ↔ ∃ one ∈ choices texts,
      (1 < texts.length → ∀ text ∈ one, isPattern text = false) ∧ asks one otherwise test = true := by
  cases texts with
  | nil => simp [choices, asks]
  | cons first rest =>
    have hone (text : String) : asks [text] otherwise test = test (valueOf text) := by
      simp [asks, lookedFor]
    have hasks : asks (first :: rest) otherwise test =
        (lookedFor (first :: rest)).any fun text => test (valueOf text) := rfl
    have hchoices : choices (first :: rest) = (first :: rest).map fun text => [text] := rfl
    rw [hasks, hchoices, List.any_eq_true]
    constructor
    · rintro ⟨text, htext, htest⟩
      obtain ⟨hmem, hname⟩ := mem_lookedFor_iff.mp htext
      exact ⟨[text], List.mem_map.mpr ⟨text, hmem, rfl⟩, by simpa using hname, (hone text).trans htest⟩
    · rintro ⟨one, hmem, hname, htest⟩
      obtain ⟨text, htext, rfl⟩ := List.mem_map.mp hmem
      rw [hone] at htest
      exact ⟨text, mem_lookedFor_iff.mpr ⟨htext, by simpa using hname⟩, htest⟩

theorem mem_singles_iff {command one : QueryCommand} :
    one ∈ command.singles ↔ ∃ targets ∈ choices command.targets, ∃ methods ∈ choices command.methods,
      { command with targets, methods } = one := by
  simp only [singles, List.mem_flatMap, List.mem_map]

theorem finds_eq_true_iff {command : QueryCommand} {call : Call} :
    command.finds call = true ↔
      (command.chained || !(command.targets.isEmpty && command.methods.isEmpty)) = true ∧
      (command.chained || command.nested || !call.nested) = true ∧
      asks command.targets (!command.chained || (Chain.head call.chain).isNone)
        (isOnTarget command.chained call) = true ∧
      asks command.methods (!command.chained) (hasMethod call) = true := by
  rw [finds, Bool.and_eq_true, Bool.and_eq_true, Bool.and_eq_true]
  tauto

/-- A query finds what those of the queries for single values find that count. -/
theorem finds_iff (command : QueryCommand) (call : Call) :
    command.finds call = true ↔
      ∃ one ∈ command.singles, command.Counts one ∧ one.finds call = true := by
  constructor
  · intro hfound
    obtain ⟨hgiven, hnested, htarget, hmethod⟩ := finds_eq_true_iff.mp hfound
    obtain ⟨targets, htargets, htargetsCount, htarget⟩ := (asks_iff_exists_choice _ _ _).mp htarget
    obtain ⟨methods, hmethods, hmethodsCount, hmethod⟩ := (asks_iff_exists_choice _ _ _).mp hmethod
    rw [← isEmpty_of_mem_choices htargets, ← isEmpty_of_mem_choices hmethods] at hgiven
    exact ⟨_, mem_singles_iff.mpr ⟨targets, htargets, methods, hmethods, rfl⟩,
      ⟨htargetsCount, hmethodsCount⟩, finds_eq_true_iff.mpr ⟨hgiven, hnested, htarget, hmethod⟩⟩
  · rintro ⟨one, hone, ⟨htargetsCount, hmethodsCount⟩, hfound⟩
    obtain ⟨targets, htargets, methods, hmethods, rfl⟩ := mem_singles_iff.mp hone
    obtain ⟨hgiven, hnested, htarget, hmethod⟩ := finds_eq_true_iff.mp hfound
    have htargets' := (asks_iff_exists_choice _ _ _).mpr ⟨targets, htargets, htargetsCount, htarget⟩
    have hmethods' := (asks_iff_exists_choice _ _ _).mpr ⟨methods, hmethods, hmethodsCount, hmethod⟩
    dsimp only at hgiven
    rw [isEmpty_of_mem_choices htargets, isEmpty_of_mem_choices hmethods] at hgiven
    exact finds_eq_true_iff.mpr ⟨hgiven, hnested, htargets', hmethods'⟩

theorem WellFormed.of_mem_singles {command one : QueryCommand} (hwell : command.WellFormed)
    (hone : one ∈ command.singles) : one.WellFormed := by
  obtain ⟨targets, htargets, methods, hmethods, rfl⟩ := mem_singles_iff.mp hone
  exact ⟨hwell.withoutTarget, fun text htext => hwell.targets text (mem_of_mem_choices htargets htext),
    fun text htext => hwell.methods text (mem_of_mem_choices hmethods htext)⟩

/-- A query with repeated options, and each of the queries that take one value of each option, prints the
    calls that it finds. The query finds what the queries for single values find together if and only if
    each call that one of them finds is found by one whose values are names where an option has several.
    That is so if there are no patterns among several values. -/
theorem prints_union_iff {command : QueryCommand} (hwell : command.WellFormed) {files : Files}
    {calls : List Call}
    (hload : (Call.load command.calls (files command.calls)).outcome = .ok calls)
    (hwritable : ∀ call ∈ calls, (Json.write? call.toDatum).isSome = true) (verbose : Bool) :
    (∀ other ∈ command :: command.singles, other.Prints verbose files (calls.filter other.finds)) ∧
    (calls.filter command.finds = calls.filter (fun call => command.singles.any (·.finds call)) ↔
      ∀ call ∈ calls, ∀ one ∈ command.singles, one.finds call = true →
        ∃ other ∈ command.singles, command.Counts other ∧ other.finds call = true) := by
  constructor
  · intro other hother
    cases List.mem_cons.mp hother with
    | inl heq => exact heq ▸ prints_finds hwell hload hwritable verbose
    | inr hsingle =>
      obtain ⟨targets, _, methods, _, rfl⟩ := mem_singles_iff.mp hsingle
      exact prints_finds (hwell.of_mem_singles hsingle) hload hwritable verbose
  · simp only [← finds_iff]
    constructor
    · intro hunion call hcall one hone hfound
      have hmem : call ∈ calls.filter (fun call => command.singles.any (·.finds call)) :=
        List.mem_filter.mpr ⟨hcall, List.any_eq_true.mpr ⟨one, hone, hfound⟩⟩
      rw [← hunion] at hmem
      exact (List.mem_filter.mp hmem).2
    · intro hcounted
      refine List.filter_congr fun call hcall => ?_
      rw [Bool.eq_iff_iff, List.any_eq_true]
      constructor
      · intro hfound
        obtain ⟨one, hone, _, hfound⟩ := (finds_iff command call).mp hfound
        exact ⟨one, hone, hfound⟩
      · rintro ⟨one, hone, hfound⟩
        exact hcounted call hcall one hone hfound

/-- A pattern finds a call if it is the only method, and not beside a name. -/
theorem prints_union_iff_of_pattern :
    let find : Call := .ofChain "find" []
    let other : Call := .ofChain "where" []
    let command : QueryCommand := ⟨"calls.jsonl", [], false, ["/^fi/", "where"], false, false⟩
    ∃ files : Files, (Call.load "calls.jsonl" (files "calls.jsonl")).outcome = .ok [find, other] ∧
      command.Prints false files [other] ∧
      ({ command with methods := ["/^fi/"] } : QueryCommand).Prints false files [find] ∧
      [find, other].filter command.finds ≠
        [find, other].filter fun call => command.singles.any (·.finds call) := by
  intro find other command
  let alone : QueryCommand := { command with methods := ["/^fi/"] }
  have hvalid : ∀ text ∈ command.methods, IsValid text := by
    simp only [command, List.forall_mem_cons]
    exact ⟨⟨_, rfl⟩, ⟨_, rfl⟩, by simp⟩
  have hwell : command.WellFormed := ⟨rfl, by simp [command], hvalid⟩
  have hcalls : ∀ call ∈ [find, other], call.IsJson := by
    simp [find, other, Call.ofChain, Call.IsJson]
  obtain ⟨text, htext⟩ : ∃ text, Json.writeLines? ([find, other].map Call.toDatum) = some text :=
    ⟨_, rfl⟩
  let files : Files := fun _ => .file (Bytes.ofText text)
  have hpath : Path.canExist "calls.jsonl" = true := rfl
  have hload : (Call.load command.calls (files command.calls)).outcome = .ok [find, other] :=
    congrArg Answer.outcome (Call.load_of_writeLines? hcalls htext hpath)
  have hwritable : ∀ call ∈ [find, other], (Json.write? call.toDatum).isSome = true := by
    simp only [List.forall_mem_cons]
    exact ⟨rfl, rfl, by simp⟩
  obtain ⟨hprints, hunion⟩ := prints_union_iff hwell hload hwritable false
  have hfind : command.finds find = false := rfl
  have hother : command.finds other = true := rfl
  have halone : alone ∈ command.singles := List.mem_cons_self
  have hmatches : (⟨"calls.jsonl", [], false, ["/^fi/"], false, false⟩ : QueryCommand).finds
      (.ofChain "find" []) = true := by decide
  have hmisses : (⟨"calls.jsonl", [], false, ["/^fi/"], false, false⟩ : QueryCommand).finds
      (.ofChain "where" []) = false := by decide
  have hfound : [find, other].filter command.finds = [other] := by
    simp only [List.filter_cons, List.filter_nil, hfind, hother]
    rfl
  have hfoundAlone : [find, other].filter alone.finds = [find] := by
    simp only [List.filter_cons, List.filter_nil, alone, command, find, other, hmatches, hmisses]
    rfl
  refine ⟨files, hload, hfound ▸ hprints command List.mem_cons_self,
    hfoundAlone ▸ hprints alone (List.mem_cons_of_mem command halone), fun hsame => ?_⟩
  have hcounted := hunion.mp hsame find List.mem_cons_self alone halone hmatches
  exact absurd ((finds_iff command find).mpr hcounted) (Bool.eq_false_iff.mp hfind)

end QueryCommand

end CommandLine

end CallAudit

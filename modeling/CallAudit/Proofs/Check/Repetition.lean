import CallAudit.Proofs.Check.Reordering

/-!
# Entries that are listed again

Targets and listed methods are looked for as sets, so listing one of them once more makes no difference to
what is reported. The canonical text keeps every entry: it becomes longer, and the code derived from it is
another one but for a collision.
-/

namespace CallAudit

/-- What actions come to may be mapped item by item, as none of that makes them fail. -/
theorem Except.map_mapM {ε α β γ : Type} (f : α → Except ε β) (g : β → γ) (items : List α) :
    (items.mapM f).map (List.map g) = items.mapM fun item => (f item).map g := by
  induction items with
  | nil => rfl
  | cons item rest ih =>
    rw [List.mapM_cons, List.mapM_cons, ← ih]
    cases f item with
    | error failure => rfl
    | ok b => cases rest.mapM f <;> rfl

/-- A warning apart from its code. -/
def Warning.withoutCode (warning : Warning) : Warning := { warning with code := .null }

theorem Json.isWritable_texts (texts : List String) : isWritable (.list (texts.map .text)) = true :=
  allWritable_texts texts

theorem Datum.map_plainText_texts (texts : List String) :
    (texts.map Datum.text).map Datum.plainText = texts := by
  rw [List.map_map]
  exact List.map_id texts

namespace Config

/-- Listing a name once more, wherever that is done, adds its text and a comma to that of the sorted list. -/
theorem length_render_sorted_insert {front back : List String} {name : String}
    (hlisted : name ∈ front ++ back) :
    (Json.render (.list ((sortTexts (front ++ name :: back)).map .text))).length =
      (Json.render (.list ((sortTexts (front ++ back)).map .text))).length +
        ((Json.renderText name).length + 1) := by
  have hlength {texts : List String} (hsome : texts ≠ []) :
      (Json.render (.list ((sortTexts texts).map .text))).length =
        1 + (texts.map fun text => (Json.renderText text).length + 1).sum := by
    have hsorted : (sortTexts texts).map Datum.text ≠ [] := by
      intro hnil
      have hperm := sortTexts_perm texts
      rw [List.map_eq_nil_iff.mp hnil] at hperm
      exact hsome hperm.nil_eq.symm
    rw [Json.length_render_list hsorted, List.map_map]
    exact congrArg (1 + ·) ((sortTexts_perm texts).map _).sum_nat
  rw [hlength (List.ne_nil_of_mem hlisted), hlength (by simp)]
  simp only [List.map_append, List.map_cons, List.sum_append_nat, List.sum_cons]
  omega

/-- A configuration with one of its targets, or one of its listed methods, listed once more anywhere. -/
inductive Repeats (config : Config) (name : String) : Config → Prop
  | target {front back : List String} (listed : name ∈ front ++ back)
      (targets : config.targets = .list ((front ++ back).map .text)) :
      Repeats config name { config with targets := .list ((front ++ name :: back).map .text) }
  | method {front back : List String} (listed : name ∈ front ++ back)
      (methods : config.methods = .list ((front ++ back).map .text)) :
      Repeats config name { config with methods := .list ((front ++ name :: back).map .text) }

variable {config other : Config} {name : String}

theorem Repeats.name_eq (hrepeats : config.Repeats name other) : other.name = config.name := by
  cases hrepeats <;> rfl

theorem Repeats.description_eq (hrepeats : config.Repeats name other) :
    other.description = config.description := by
  cases hrepeats <;> rfl

theorem Repeats.symbol_eq (hrepeats : config.Repeats name other) :
    other.warningSymbol = config.warningSymbol := by
  cases hrepeats <;> rfl

theorem canonicalText_cases {targets : List String}
    (htargets : config.targets = .list (targets.map .text)) :
    (Json.isWritable (.object (config.canonicalFields targets)) = true ∧ config.canonicalText =
        .ok (String.ofList (Json.render (.object (config.canonicalFields targets))))) ∨
      (Json.isWritable (.object (config.canonicalFields targets)) = false ∧
        config.canonicalText = .error .notWritable) := by
  rw [canonicalText_of_texts htargets, Json.write?]
  cases Json.isWritable (.object (config.canonicalFields targets)) with
  | true => exact .inl ⟨rfl, rfl⟩
  | false => exact .inr ⟨rfl, rfl⟩

/-- Configurations that differ in their targets and methods alone differ as much in what is written of them
    as these do. -/
theorem length_render_canonicalFields {targets targets' : List String} {added : Nat}
    (hname : other.name = config.name) (hdescription : other.description = config.description)
    (hsymbol : other.warningSymbol = config.warningSymbol)
    (hadded : (Json.render (.list ((sortTexts targets').map .text))).length +
        (Json.render (canonicalMethods other.methods)).length =
      (Json.render (.list ((sortTexts targets).map .text))).length +
        (Json.render (canonicalMethods config.methods)).length + added) :
    (Json.render (.object (other.canonicalFields targets'))).length =
      (Json.render (.object (config.canonicalFields targets))).length + added := by
  rw [Json.length_render_object (by simp [canonicalFields]),
    Json.length_render_object (by simp [canonicalFields])]
  simp only [canonicalFields, List.map_cons, List.map_nil, List.sum_cons, hname, hdescription, hsymbol]
  omega

/-- The targets can always be written. -/
theorem isWritable_canonicalFields {targets targets' : List String} (hname : other.name = config.name)
    (hdescription : other.description = config.description)
    (hsymbol : other.warningSymbol = config.warningSymbol)
    (hmethods : Json.isWritable (canonicalMethods other.methods) =
      Json.isWritable (canonicalMethods config.methods)) :
    Json.isWritable (.object (other.canonicalFields targets')) =
      Json.isWritable (.object (config.canonicalFields targets)) := by
  simp only [Json.isWritable, canonicalFields, Json.fieldsWritable, Json.allWritable_texts, hname,
    hdescription, hsymbol, hmethods]

theorem canonicalMethods_of_texts (names : List String) :
    canonicalMethods (.list (names.map .text)) = .list ((sortTexts names).map .text) := by
  rw [canonicalMethods, Datum.map_plainText_texts]

/-- The repeated entry can always be written, and is written once more. -/
theorem Repeats.canonicalFields (hrepeats : config.Repeats name other) {targets : List String}
    (htargets : config.targets = .list (targets.map .text)) :
    ∃ targets targets' : List String, config.targets = .list (targets.map .text) ∧
      other.targets = .list (targets'.map .text) ∧
      Json.isWritable (.object (other.canonicalFields targets')) =
        Json.isWritable (.object (config.canonicalFields targets)) ∧
      (Json.render (.object (other.canonicalFields targets'))).length =
        (Json.render (.object (config.canonicalFields targets))).length +
          ((Json.renderText name).length + 1) := by
  have hname := hrepeats.name_eq
  have hdescription := hrepeats.description_eq
  have hsymbol := hrepeats.symbol_eq
  cases hrepeats with
  | @target front back hlisted hgiven =>
    refine ⟨front ++ back, front ++ name :: back, hgiven, rfl,
      isWritable_canonicalFields hname hdescription hsymbol rfl, ?_⟩
    apply length_render_canonicalFields hname hdescription hsymbol
    rw [length_render_sorted_insert hlisted]
    exact Nat.add_right_comm _ _ _
  | @method front back hlisted hgiven =>
    refine ⟨targets, targets, htargets, htargets,
      isWritable_canonicalFields hname hdescription hsymbol ?_, ?_⟩
    · rw [hgiven, canonicalMethods_of_texts, canonicalMethods_of_texts, Json.isWritable_texts,
        Json.isWritable_texts]
    · apply length_render_canonicalFields hname hdescription hsymbol
      rw [hgiven, canonicalMethods_of_texts, canonicalMethods_of_texts,
        length_render_sorted_insert hlisted]
      omega

/-- An entry that is listed again makes the canonical text longer, if there is one. -/
theorem Repeats.canonicalText_cases (hrepeats : config.Repeats name other) {targets : List String}
    (htargets : config.targets = .list (targets.map .text)) :
    (config.canonicalText = .error .notWritable ∧ other.canonicalText = .error .notWritable) ∨
      ∃ text text', config.canonicalText = .ok text ∧ other.canonicalText = .ok text' ∧
        text'.length = text.length + ((Json.renderText name).length + 1) := by
  obtain ⟨targets, targets', htargets, htargets', hwritable, hlength⟩ :=
    hrepeats.canonicalFields htargets
  obtain ⟨hcan, htext⟩ | ⟨hcannot, htext⟩ := Config.canonicalText_cases htargets
  · obtain ⟨-, htext'⟩ | ⟨hcannot', -⟩ := Config.canonicalText_cases htargets'
    · refine .inr ⟨_, _, htext, htext', ?_⟩
      rw [String.length_ofList, String.length_ofList, hlength]
    · rw [hwritable, hcan] at hcannot'
      cases hcannot'
  · obtain ⟨hcan', -⟩ | ⟨-, htext'⟩ := Config.canonicalText_cases htargets'
    · rw [hwritable, hcannot] at hcan'
      cases hcan'
    · exact .inl ⟨htext, htext'⟩

section Reported

variable (hrepeats : config.Repeats name other)

include hrepeats

theorem Repeats.relevantArguments_eq (call : Call) :
    Check.relevantArguments other call = Check.relevantArguments config call := by
  cases hrepeats with
  | target hlisted hgiven => rfl
  | method hlisted hgiven =>
    rw [Check.relevantArguments, Check.relevantArguments, Check.argumentPositions,
      Check.argumentPositions, hgiven]

/-- Whether there is a code does not depend on the repeated entry. -/
theorem Repeats.codeInUse_eq {targets : List String}
    (htargets : config.targets = .list (targets.map .text)) :
    other.codeInUse.map (fun _ => ()) = config.codeInUse.map fun _ => () := by
  have hcode : other.warningCode = config.warningCode := by
    cases hrepeats <;> rfl
  by_cases hnone : config.warningCode = .null
  · have hnone' : other.warningCode = .null := hcode.trans hnone
    obtain ⟨htext, htext'⟩ | ⟨text, text', htext, htext', -⟩ := hrepeats.canonicalText_cases htargets
    · rw [codeInUse, codeInUse, hnone, hnone', derivedCode, derivedCode, htext, htext']
    · rw [codeInUse_of_canonicalText hnone htext, codeInUse_of_canonicalText hnone' htext',
        Except.map, Except.map]
  · rw [codeInUse_of_ne_null hnone, codeInUse_of_ne_null (hcode ▸ hnone), hcode]

theorem Repeats.sitesFound_eq {targets : List String}
    (htargets : config.targets = .list (targets.map .text)) {scan : Scan}
    (hnumbered : scan.store.Numbered) : other.sitesFound scan = config.sitesFound scan := by
  have hmembers {front back : List String} (hlisted : name ∈ front ++ back) (text : String) :
      text ∈ front ++ back ↔ text ∈ front ++ name :: back := by
    simp only [List.mem_append, List.mem_cons] at hlisted ⊢
    constructor
    · rintro (hfront | hback)
      · exact .inl hfront
      · exact .inr (.inr hback)
    · rintro (hfront | rfl | hback)
      · exact .inl hfront
      · exact hlisted
      · exact .inr hback
  cases hrepeats with
  | @target front back hlisted hgiven =>
    let other : Config := { config with targets := .list ((front ++ name :: back).map .text) }
    have hgiven' : other.targets = .list ((front ++ name :: back).map .text) := rfl
    have hsame : other.methodNames = config.methodNames := rfl
    cases hmethods : config.methodNames with
    | error failure =>
      rw [sitesFound, sitesFound, query_of_malformed hgiven hmethods,
        query_of_malformed hgiven' (hsame.trans hmethods)]
    | ok methods =>
      obtain ⟨sites, hfound, hfound'⟩ := exists_sitesFound_of_names hgiven hgiven' (hmembers hlisted)
        hmethods (hsame.trans hmethods) (fun _ => Iff.rfl) hnumbered
      rw [hfound, hfound']
  | @method front back hlisted hgiven =>
    let other : Config := { config with methods := .list ((front ++ name :: back).map .text) }
    have hgiven' : other.methods = .list ((front ++ name :: back).map .text) := rfl
    have hnames {config : Config} {names : List String}
        (hgiven : config.methods = .list (names.map .text)) : config.methodNames = .ok names := by
      rw [methodNames, hgiven]
      exact congrArg Except.ok (Datum.map_plainText_texts names)
    have htargets' : other.targets = .list (targets.map .text) := htargets
    obtain ⟨sites, hfound, hfound'⟩ := exists_sitesFound_of_names htargets htargets'
      (fun _ => Iff.rfl) (hnames hgiven) (hnames hgiven') (hmembers hlisted) hnumbered
    rw [hfound, hfound']

theorem Repeats.warningAt_eq {targets : List String}
    (htargets : config.targets = .list (targets.map .text)) (scan : Scan) (site : Site) :
    (other.warningAt scan site).map Warning.withoutCode =
      (config.warningAt scan site).map Warning.withoutCode := by
  have hcode := hrepeats.codeInUse_eq htargets
  rw [warningAt, warningAt, hrepeats.relevantArguments_eq, hrepeats.name_eq, hrepeats.symbol_eq]
  generalize other.codeInUse = code' at hcode ⊢
  generalize config.codeInUse = code at hcode ⊢
  cases Check.relevantArguments config site.call with
  | error failure => rfl
  | ok arguments =>
    cases requiredField "name" config.name with
    | error failure => rfl
    | ok name =>
      cases requiredField "warning_symbol" config.warningSymbol with
      | error failure => rfl
      | ok symbol =>
        cases code with
        | error failure =>
          cases code' with
          | error failure' => cases hcode; rfl
          | ok code' => cases hcode
        | ok code =>
          cases code' with
          | error failure' => cases hcode
          | ok code' => rfl

/-- Apart from the code, the same is reported, or a run fails in the same way. -/
theorem Repeats.warnings_eq {targets : List String}
    (htargets : config.targets = .list (targets.map .text)) {scan : Scan}
    (hnumbered : scan.store.Numbered) :
    (other.warnings scan).map (List.map Warning.withoutCode) =
      (config.warnings scan).map (List.map Warning.withoutCode) := by
  rw [warnings, warnings, hrepeats.name_eq, hrepeats.sitesFound_eq htargets hnumbered]
  cases requiredField "name" config.name with
  | error failure => rfl
  | ok name =>
    cases config.sitesFound scan with
    | error failure => rfl
    | ok sites =>
      have heach : (fun site => (other.warningAt scan site).map Warning.withoutCode) =
          fun site => (config.warningAt scan site).map Warning.withoutCode :=
        funext (hrepeats.warningAt_eq htargets scan)
      calc ((Check.distinctSites sites).mapM (other.warningAt scan)).map (List.map Warning.withoutCode)
          = (Check.distinctSites sites).mapM fun site =>
              (other.warningAt scan site).map Warning.withoutCode := Except.map_mapM _ _ _
        _ = ((Check.distinctSites sites).mapM (config.warningAt scan)).map
              (List.map Warning.withoutCode) := by rw [heach, Except.map_mapM]

end Reported

/-- Of a configuration with named targets, listing a target or a method once more leaves the canonical text
    as it is if and only if there is none, because something in it cannot be written. Otherwise the text
    becomes longer by the entry and a comma, and the derived code stays only if both texts happen to come to
    one code. What a fresh check reports of any store that steps lead to, failures included, stays the
    same apart from the code. -/
theorem Repeats.canonicalText_eq_iff (hrepeats : config.Repeats name other) {targets : List String}
    (htargets : config.targets = .list (targets.map .text)) :
    (other.canonicalText = config.canonicalText ↔ ∃ failure, config.canonicalText = .error failure) ∧
    (∀ text, config.canonicalText = .ok text → ∃ text', other.canonicalText = .ok text' ∧
      text'.length = text.length + ((Json.renderText name).length + 1) ∧
      (other.derivedCode = config.derivedCode ↔ codeOfText text' = codeOfText text)) ∧
    ∀ scan : Scan, scan.store.Reachable →
      ((Check.run scan).run (.ofConfig other)).outcome.map (List.map Warning.withoutCode) =
        ((Check.run scan).run (.ofConfig config)).outcome.map (List.map Warning.withoutCode) := by
  have hreported (scan : Scan) (hreachable : scan.store.Reachable) :
      ((Check.run scan).run (.ofConfig other)).outcome.map (List.map Warning.withoutCode) =
        ((Check.run scan).run (.ofConfig config)).outcome.map (List.map Warning.withoutCode) := by
    rw [(Check.run_gives scan _ (.ofConfig other)).2, (Check.run_gives scan _ (.ofConfig config)).2]
    exact hrepeats.warnings_eq htargets hreachable.numbered
  obtain ⟨htext, htext'⟩ | ⟨text, text', htext, htext', hlonger⟩ :=
    hrepeats.canonicalText_cases htargets
  · refine ⟨⟨fun _ => ⟨_, htext⟩, fun _ => htext'.trans htext.symm⟩, ?_, hreported⟩
    intro text hwritten
    cases htext.symm.trans hwritten
  · have hdiffer : other.canonicalText ≠ config.canonicalText := by
      intro hsame
      rw [htext, htext'] at hsame
      have hlength := congrArg String.length (Except.ok.inj hsame)
      omega
    refine ⟨⟨fun hsame => absurd hsame hdiffer, ?_⟩, ?_, hreported⟩
    · rintro ⟨failure, hfailure⟩
      cases htext.symm.trans hfailure
    · intro written hwritten
      obtain rfl := Except.ok.inj (htext.symm.trans hwritten)
      refine ⟨text', htext', hlonger, ?_⟩
      rw [derivedCode, derivedCode, htext, htext', Except.map, Except.map, Except.ok.injEq]

/-- A target that is listed twice is looked for as before, and makes the canonical text another one. -/
theorem canonicalText_ne_of_target_listed_twice :
    let config : Config :=
      { name := .text "Finds", description := .null, warningSymbol := .text "FND"
        warningCode := .int 1, targets := .list [.text "User"], methods := .list [.text "find"] }
    let other : Config := { config with targets := .list [.text "User", .text "User"] }
    let site : Site := ⟨0, { Call.ofChain "find" [] with receiver := .named "User" }⟩
    let scan : Scan := ⟨((Store.Step.add [site]).action.run .empty).state, [], .none⟩
    other.canonicalText ≠ config.canonicalText ∧
      ((Check.run scan).run (.ofConfig other)).outcome.map (List.map Warning.withoutCode) =
        ((Check.run scan).run (.ofConfig config)).outcome.map (List.map Warning.withoutCode) := by
  intro config other site scan
  have hreachable : scan.store.Reachable := .step (.add [site]) .empty
  have hlisted : "User" ∈ [] ++ ["User"] := by simp
  have hrepeats : config.Repeats "User" other := .target hlisted rfl
  have htargets : config.targets = .list (["User"].map .text) := rfl
  have hwritable : Json.isWritable (.object (config.canonicalFields ["User"])) = true := by
    simp [config, canonicalFields, canonicalMethods, Json.isWritable, Json.fieldsWritable,
      Json.allWritable_texts]
  have htext := (canonicalText_eq_ok_iff htargets).mpr (if_pos hwritable)
  obtain ⟨hiff, -, hreported⟩ := hrepeats.canonicalText_eq_iff htargets
  refine ⟨fun hsame => ?_, hreported scan hreachable⟩
  obtain ⟨failure, hfailure⟩ := hiff.mp hsame
  cases htext.symm.trans hfailure

end Config

end CallAudit

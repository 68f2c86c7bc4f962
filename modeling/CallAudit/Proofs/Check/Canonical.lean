import CallAudit.Proofs.Check.Agreement
import CallAudit.Proofs.Check.Validated
import CallAudit.Proofs.Json.Canonical

/-!
# What the canonical text of a configuration tells

The canonical text leaves out the code, the order of targets and of listed methods, the order of fields,
and what listed methods are besides their text. None of it makes a difference to what a check reports, so
the text tells what that is. A code derived from it is shared by checks that report otherwise only if two
texts happen to come to one code.
-/

namespace CallAudit

theorem Json.allWritable_texts (texts : List String) : allWritable (texts.map .text) = true := by
  induction texts with
  | nil => rfl
  | cons text rest ih => exact ih

namespace Datum

theorem isJson_ofName (name : Option String) : (ofName name).IsJson := by
  cases name with
  | none => exact .null
  | some s => exact .text s

theorem isJson_texts (texts : List String) : IsJson (.list (texts.map .text)) := by
  refine .list fun item hitem => ?_
  obtain ⟨text, _, rfl⟩ := List.mem_map.mp hitem
  exact .text text

namespace Alike

theorem ofName_inj {a b : Option String} (halike : Alike (ofName a) (ofName b)) : a = b := by
  cases a <;> cases b <;> cases halike <;> rfl

theorem texts_inj {texts others : List String}
    (halike : Alike (.list (texts.map .text)) (.list (others.map .text))) : texts = others := by
  cases halike with
  | list each =>
    rw [List.forall₂_map_left_iff, List.forall₂_map_right_iff] at each
    rw [← List.forall₂_eq_eq_eq]
    refine each.imp fun text other htext => ?_
    cases htext
    rfl

/-- Alike data configure the same argument positions. -/
theorem positions?_eq {a b : Datum} (halike : a.Alike b) : Check.positions? a = Check.positions? b := by
  cases halike with
  | @list items others each =>
    have hpositions : items.mapM Check.positions?.position? = others.mapM Check.positions?.position? := by
      induction each with
      | nil => rfl
      | @cons item other items others hitem _ ih =>
        have hposition : Check.positions?.position? item = Check.positions?.position? other := by
          cases hitem <;> rfl
        rw [List.mapM_cons, List.mapM_cons, hposition, ih]
    rw [Check.positions?, Check.positions?, hpositions]
  | _ => rfl

end Alike

end Datum

namespace Config

open Datum (MethodsAgree)

theorem isJson_canonicalMethods {methods : Datum} (hmethods : methods.IsJson) :
    (canonicalMethods methods).IsJson := by
  cases methods with
  | list items => exact Datum.isJson_texts _
  | _ => exact hmethods

theorem canonicalMethods_list_of_perm {items others : List Datum} (hperm : items.Perm others) :
    canonicalMethods (.list items) = canonicalMethods (.list others) :=
  congrArg (fun texts : List String => Datum.list (texts.map .text))
    (sortTexts_eq_of_perm (hperm.map Datum.plainText))

/-- Methods with one canonical form agree. -/
theorem methodsAgree_of_canonical {methods other : Datum} (hother : other.IsJson)
    (halike : (canonicalMethods methods).Alike (canonicalMethods other)) :
    methods.MethodsAgree other := by
  cases methods with
  | list items =>
    cases other with
    | list others =>
      refine .lists fun name => ?_
      rw [← (sortTexts_perm (items.map Datum.plainText)).mem_iff, halike.texts_inj,
        (sortTexts_perm (others.map Datum.plainText)).mem_iff]
    | _ => cases halike
  | object fields =>
    cases other with
    | object others =>
      cases hother with
      | object distinct each =>
        refine .objects (fun name => halike.names_perm.mem_iff) fun method => ?_
        have hvalues := halike.lookup distinct method
        generalize fields.lookup method = value at hvalues ⊢
        generalize others.lookup method = value' at hvalues ⊢
        cases hvalues with
        | none => rfl
        | some hvalue => exact congrArg some hvalue.positions?_eq
    | _ => cases halike
  | _ =>
    cases other with
    | list others => cases halike
    | object others => cases halike
    | _ => exact .singles ⟨by simp, by simp⟩ ⟨by simp, by simp⟩

/-- The fields that the canonical text is written from, given the names of the targets. -/
def canonicalFields (config : Config) (targets : List String) : List (String × Datum) :=
  [("name", config.name), ("description", config.description),
    ("warning_symbol", config.warningSymbol), ("targets", .list ((sortTexts targets).map .text)),
    ("methods", canonicalMethods config.methods)]

variable {config other : Config} {targets : List String} {text : String}

theorem canonicalDatum_of_texts (htargets : config.targets = .list (targets.map .text)) :
    config.canonicalDatum = .ok (.object (config.canonicalFields targets)) := by
  rw [canonicalDatum, htargets, sortedTargets, Datum.elements?]
  simp only [Datum.sort?_texts]
  rfl

/-- The canonical text of a configuration with named targets is that of its canonical fields. -/
theorem canonicalText_of_texts (htargets : config.targets = .list (targets.map .text)) :
    config.canonicalText =
      (Json.write? (.object (config.canonicalFields targets))).elim (.error .notWritable) .ok := by
  rw [canonicalText, canonicalDatum_of_texts htargets]
  dsimp only
  cases Json.write? (.object (config.canonicalFields targets)) <;> rfl

theorem canonicalText_eq_ok_iff (htargets : config.targets = .list (targets.map .text)) :
    config.canonicalText = .ok text ↔
      Json.write? (.object (config.canonicalFields targets)) = some text := by
  rw [canonicalText_of_texts htargets]
  cases hwritten : Json.write? (.object (config.canonicalFields targets)) <;> simp

theorem isJson_canonicalFields (hread : config.IsRead) (hmethods : config.methods.IsJson)
    (targets : List String) : Datum.IsJson (.object (config.canonicalFields targets)) := by
  obtain ⟨name, hname⟩ := hread.name
  obtain ⟨description, hdescription⟩ := hread.description
  obtain ⟨symbol, hsymbol⟩ := hread.warningSymbol
  refine .object (by simp [canonicalFields]) ?_
  simp only [canonicalFields, List.forall_mem_cons, hname, hdescription, hsymbol]
  exact ⟨Datum.isJson_ofName name, Datum.isJson_ofName description, Datum.isJson_ofName symbol,
    Datum.isJson_texts _, isJson_canonicalMethods hmethods, by simp⟩

theorem codeInUse_of_canonicalText (hnone : config.warningCode = .null)
    (htext : config.canonicalText = .ok text) : config.codeInUse = .ok (.int (codeOfText text)) := by
  rw [codeInUse, hnone, derivedCode, htext]
  rfl

/-- One configured code or one canonical text makes for one code. -/
theorem exists_codeInUse_eq (hcode : config.warningCode = other.warningCode)
    (htext : config.canonicalText = .ok text) (htext' : other.canonicalText = .ok text) :
    ∃ code, config.codeInUse = .ok code ∧ other.codeInUse = .ok code := by
  cases hgiven : config.warningCode with
  | null =>
    exact ⟨_, codeInUse_of_canonicalText hgiven htext,
      codeInUse_of_canonicalText (hcode ▸ hgiven) htext'⟩
  | _ =>
    have hne : config.warningCode ≠ .null := by simp [hgiven]
    refine ⟨config.warningCode, codeInUse_of_ne_null hne, ?_⟩
    rw [codeInUse_of_ne_null (hcode ▸ hne), hcode]

/-- Configurations that were read and have one canonical text and one configured code, or none, are
    alike. -/
theorem alike_of_canonicalText_eq (hread : config.IsRead) (hread' : other.IsRead)
    (hmethods : config.methods.IsJson) (hmethods' : other.methods.IsJson)
    (hcode : config.warningCode = other.warningCode) (htext : config.canonicalText = .ok text)
    (htext' : other.canonicalText = .ok text) : config.Alike other := by
  obtain ⟨name, hname⟩ := hread.name
  obtain ⟨name', hname'⟩ := hread'.name
  obtain ⟨symbol, hsymbol⟩ := hread.warningSymbol
  obtain ⟨symbol', hsymbol'⟩ := hread'.warningSymbol
  obtain ⟨targets, htargets⟩ := hread.targets
  obtain ⟨targets', htargets'⟩ := hread'.targets
  have hjson := isJson_canonicalFields hread' hmethods' targets'
  have halike := Json.alike_of_write?_eq (isJson_canonicalFields hread hmethods targets) hjson
    ((canonicalText_eq_ok_iff htargets).mp htext) ((canonicalText_eq_ok_iff htargets').mp htext')
  cases hjson with
  | object distinct each =>
    have hnames := halike.field distinct "name" rfl rfl
    have hsymbols := halike.field distinct "warning_symbol" rfl rfl
    have hmethodForms := halike.field distinct "methods" rfl rfl
    have hsorted := (halike.field distinct "targets" rfl rfl).texts_inj
    rw [hname, hname'] at hnames
    rw [hsymbol, hsymbol'] at hsymbols
    exact {
      name_eq := by rw [hname, hname', hnames.ofName_inj]
      symbol_eq := by rw [hsymbol, hsymbol', hsymbols.ofName_inj]
      code_eq := exists_codeInUse_eq hcode htext htext'
      targets_perm := by
        refine ⟨targets, targets', ?_, htargets, htargets'⟩
        exact (sortTexts_perm targets).symm.trans (hsorted ▸ sortTexts_perm targets')
      methods_agree := methodsAgree_of_canonical hmethods' hmethodForms }

end Config

namespace Check

/-- Two fresh checks with one canonical text and one configured code, or none, report the same of every
    store, or both fail over an attribute that is missing or malformed. So if they report otherwise and
    their derived codes are one, that is a collision: their texts differ and come to the same code. -/
theorem run_agree_of_canonicalText {d d' : Datum} {config other : Config}
    (hread : Config.ofDatum d = .valid config) (hread' : Config.ofDatum d' = .valid other)
    (hjson : config.methods.IsJson) (hjson' : other.methods.IsJson)
    (hcode : config.warningCode = other.warningCode) {text text' : String}
    (htext : config.canonicalText = .ok text) (htext' : other.canonicalText = .ok text') (scan : Scan)
    (hreachable : scan.store.Reachable) :
    let reported := ((run scan).run (ofConfig config)).outcome
    let reported' := ((run scan).run (ofConfig other)).outcome
    (text = text' → Agree Eq reported reported') ∧
      (¬Agree Eq reported reported' → config.derivedCode = other.derivedCode →
        text ≠ text' ∧ Config.codeOfText text = Config.codeOfText text') := by
  intro reported reported'
  have hagree : text = text' → Agree Eq reported reported' := by
    rintro rfl
    have halike := Config.alike_of_canonicalText_eq (Config.isRead_of_ofDatum hread)
      (Config.isRead_of_ofDatum hread') hjson hjson' hcode htext htext'
    have hwarnings := Config.warnings_agree halike hreachable.numbered
    rwa [← (run_gives scan _ (.ofConfig config)).2, ← (run_gives scan _ (.ofConfig other)).2]
      at hwarnings
  refine ⟨hagree, fun hdiffer hderived => ⟨fun hsame => hdiffer (hagree hsame), ?_⟩⟩
  rw [Config.derivedCode, Config.derivedCode, htext, htext'] at hderived
  exact Except.ok.inj hderived

/-- Neither the order of targets nor that of methods makes a difference. -/
theorem run_agree_of_reordered :
    let config : Config :=
      { name := .text "Finds", description := .null, warningSymbol := .text "FND", warningCode := .null
        targets := .list [.text "User", .text "Post"], methods := .list [.text "where", .text "find"] }
    let other : Config :=
      { config with
        targets := .list [.text "Post", .text "User"], methods := .list [.text "find", .text "where"] }
    let site : Site := ⟨0, { Call.ofChain "find" [] with receiver := .named "User" }⟩
    let scan : Scan := ⟨((Store.Step.add [site]).action.run .empty).state, [], .none⟩
    Agree Eq ((run scan).run (ofConfig config)).outcome ((run scan).run (ofConfig other)).outcome := by
  intro config other site scan
  have hreachable : scan.store.Reachable := .step (.add [site]) .empty
  have hread : Config.ofDatum config.toDatum = .valid config := rfl
  have hread' : Config.ofDatum other.toDatum = .valid other := rfl
  have hsame : other.canonicalFields ["Post", "User"] = config.canonicalFields ["User", "Post"] := by
    have htargets := sortTexts_eq_of_perm (List.Perm.swap "User" "Post" [])
    have hmethods : Config.canonicalMethods other.methods = Config.canonicalMethods config.methods :=
      Config.canonicalMethods_list_of_perm (List.Perm.swap _ _ [])
    rw [Config.canonicalFields, Config.canonicalFields, htargets, hmethods]
  have hwritable : Json.isWritable (.object (config.canonicalFields ["User", "Post"])) = true := by
    simp [config, Config.canonicalFields, Config.canonicalMethods, Json.isWritable,
      Json.fieldsWritable, Json.allWritable_texts]
  have htargets : config.targets = .list (["User", "Post"].map .text) := rfl
  have htargets' : other.targets = .list (["Post", "User"].map .text) := rfl
  have htext := (Config.canonicalText_eq_ok_iff htargets).mpr (if_pos hwritable)
  rw [← hsame] at hwritable
  have htext' := (Config.canonicalText_eq_ok_iff htargets').mpr (if_pos hwritable)
  rw [hsame] at htext'
  have hjson (a b : String) : Datum.IsJson (.list [.text a, .text b]) := Datum.isJson_texts [a, b]
  exact (run_agree_of_canonicalText hread hread' (hjson _ _) (hjson _ _) rfl htext htext' scan
    hreachable).1 rfl

end Check

end CallAudit

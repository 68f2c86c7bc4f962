import CallAudit.Check.Config

/-!
# Configurations that were read

A configuration that is read has texts or null where texts belong, an integer or null for its code, and a
list of texts for its targets. Its methods are whatever was given.
-/

namespace CallAudit

namespace Checked

variable {α β : Type}

theorem map_eq_valid_iff {f : α → β} {a : Checked α} {b : β} :
    map f a = .valid b ↔ ∃ x, a = .valid x ∧ f x = b := by
  cases a <;> simp [map]

theorem both_eq_valid_iff {f : Checked (α → β)} {a : Checked α} {b : β} :
    both f a = .valid b ↔ ∃ g, f = .valid g ∧ ∃ x, a = .valid x ∧ g x = b := by
  cases f <;> cases a <;> simp [both]

theorem seq_eq_valid_iff {f : Checked (α → β)} {a : Checked α} {b : β} :
    f <*> a = .valid b ↔ ∃ g, f = .valid g ∧ ∃ x, a = .valid x ∧ g x = b :=
  both_eq_valid_iff

theorem functorMap_eq_valid_iff {f : α → β} {a : Checked α} {b : β} :
    f <$> a = .valid b ↔ ∃ x, a = .valid x ∧ f x = b :=
  map_eq_valid_iff

theorem within_eq_valid_iff {step : PathStep} {a : Checked α} {x : α} :
    a.within step = .valid x ↔ a = .valid x := by
  cases a <;> simp [within]

/-- A field that may be left out has its default or passes its check. -/
theorem of_optional_eq_valid {name : String} {default a : α} {check : Datum → Checked α}
    {fields : List (String × Datum)} (h : optional name default check fields = .valid a) :
    a = default ∨ ∃ d, fields.lookup name = some d ∧ check d = .valid a := by
  unfold optional at h
  split at h
  · next d hd => exact .inr ⟨d, hd, within_eq_valid_iff.mp h⟩
  · cases h
    exact .inl rfl

end Checked

namespace Config

/-- What is known of the fields of a configuration that was read. -/
structure IsRead (config : Config) : Prop where
  name : ∃ name, config.name = .ofName name
  description : ∃ description, config.description = .ofName description
  warningSymbol : ∃ symbol, config.warningSymbol = .ofName symbol
  warningCode : ∃ code : Option Int, config.warningCode = (code.map .int).getD .null
  targets : ∃ names : List String, config.targets = .list (names.map .text)

/-- Null or a text is a name or the lack of one. -/
theorem exists_ofName_of_text {name : String} {fields : List (String × Datum)} {d : Datum}
    (h : Checked.optional name .null
      (fun d => Checked.map Datum.ofName (Checked.orNull Checked.text d)) fields = .valid d) :
    ∃ name, d = .ofName name := by
  obtain rfl | ⟨given, _, hgiven⟩ := Checked.of_optional_eq_valid h
  · exact ⟨none, rfl⟩
  · obtain ⟨name, _, hname⟩ := Checked.map_eq_valid_iff.mp hgiven
    exact ⟨name, hname.symm⟩

theorem isRead_of_ofFields {fields : List (String × Datum)} {config : Config}
    (h : ofFields fields = .valid config) : config.IsRead := by
  unfold ofFields at h
  dsimp only at h
  split at h
  · simp only [Checked.seq_eq_valid_iff, Checked.functorMap_eq_valid_iff] at h
    obtain ⟨_, ⟨_, ⟨_, ⟨_, ⟨_, ⟨name, hname, rfl⟩, description, hdescription, rfl⟩, symbol, hsymbol,
      rfl⟩, code, hcode, rfl⟩, targets, htargets, rfl⟩, methods, hmethods, rfl⟩ := h
    exact {
      name := exists_ofName_of_text hname
      description := exists_ofName_of_text hdescription
      warningSymbol := exists_ofName_of_text hsymbol
      warningCode := by
        obtain rfl | ⟨given, _, hgiven⟩ := Checked.of_optional_eq_valid hcode
        · exact ⟨none, rfl⟩
        · obtain ⟨i, _, hi⟩ := Checked.map_eq_valid_iff.mp hgiven
          exact ⟨i, hi.symm⟩
      targets := by
        obtain rfl | ⟨given, _, hgiven⟩ := Checked.of_optional_eq_valid htargets
        · exact ⟨[], rfl⟩
        · obtain ⟨names, _, hnames⟩ := Checked.map_eq_valid_iff.mp hgiven
          exact ⟨names, hnames.symm⟩ }
  · obtain ⟨_, _, _, hextra, _⟩ := Checked.both_eq_valid_iff.mp h
    cases hextra

theorem isRead_of_ofDatum {d : Datum} {config : Config} (h : ofDatum d = .valid config) :
    config.IsRead := by
  cases d with
  | object fields => exact isRead_of_ofFields h
  | _ => cases h

end Config

end CallAudit

import CallAudit.Proofs.Check.Naming

/-!
# Checks that are renamed

A warning carries the name that the check has when it is run, and the registry goes by the names that the
checks had when they were added. The two agree for a check that still has a name that it was added under.
Once a registered check is renamed, its new name may be that of another one, or of none.
-/

namespace CallAudit.Registry

/-- Whether the names of some checks identify them: no two of them have the same name, and each is found by
    its own. Checks without a name do not count. -/
structure NamesIdentify (registry : Registry) (among : Nat → Prop) : Prop where
  distinct : ∀ first second, among first → among second →
    (registry.nameAt first).isVoid = false → (registry.nameAt second).isVoid = false →
    (registry.nameAt first).same (registry.nameAt second) = true → first = second
  found : ∀ position, among position → (registry.nameAt position).isVoid = false →
    ((get (registry.nameAt position)).run registry).outcome = .ok (some position)

theorem NamesIdentify.of_imp {registry : Registry} {among among' : Nat → Prop}
    (h : registry.NamesIdentify among) (himp : ∀ position, among' position → among position) :
    registry.NamesIdentify among' where
  distinct first second hfirst hsecond :=
    h.distinct first second (himp first hfirst) (himp second hsecond)
  found position hposition := h.found position (himp position hposition)

/-- Whether a check has at present a name that it was added under. -/
def IsStillNamed (registry : Registry) (added : List (Datum × Nat)) (position : Nat) : Prop :=
  ∃ name, (name, position) ∈ added ∧ name.same (registry.nameAt position) = true

/-- Whether no step assigns the name of a check that is registered by then. -/
def KeepsNames (registry : Registry) : List Step → Prop
  | [] => True
  | step :: rest =>
    (∀ position value, step = .assign position "name" value →
      position ∉ registry.entries.map (·.2)) ∧ KeepsNames (step.action.run registry).state rest

section Kept

variable {registry : Registry} {position : Nat}

/-- The name of a check changes only by an assignment to the name of this check. -/
theorem nameAt_run {step : Step} (hkept : ∀ value, step ≠ .assign position "name" value) :
    (step.action.run registry).state.nameAt position = registry.nameAt position := by
  cases step with
  | add place =>
    rw [Step.action, run_add]
    cases registry.refusal? (registry.nameAt place) <;> rfl
  | assign place field value =>
    rw [Step.action, run_onCheck, nameAt, checkAt_set]
    split
    · next hplace =>
      obtain ⟨rfl, _⟩ := hplace
      have hfield : field ≠ "name" := by
        rintro rfl
        exact hkept value rfl
      exact (registry.checkAt place).name_assign value hfield
    · rfl
  | inquire inquiry =>
    have hsame := (inquiry.ask_goesAs registry).checkAt_goesAs position
    exact congrArg Config.name hsame.config_eq

/-- Checks that are not renamed after they were registered have the names that they were added under. -/
theorem KeepsNames.nameAt_after {steps : List Step} (hkept : registry.KeepsNames steps)
    (hentries : ∀ entry ∈ registry.entries, registry.nameAt entry.2 = entry.1) :
    ∀ entry ∈ (registry.after steps).entries, (registry.after steps).nameAt entry.2 = entry.1 := by
  induction steps generalizing registry with
  | nil => exact hentries
  | cons step rest ih =>
    obtain ⟨hstep, hrest⟩ := hkept
    refine ih hrest fun entry hentry => ?_
    rw [step.entries_run] at hentry
    cases List.mem_append.mp hentry with
    | inl hold =>
      have hassigned : ∀ value, step ≠ .assign entry.2 "name" value := fun value hvalue =>
        hstep entry.2 value hvalue (List.mem_map.mpr ⟨entry, hold, rfl⟩)
      rw [nameAt_run hassigned]
      exact hentries entry hold
    | inr hnew =>
      cases step with
      | add place =>
        have hentry : entry = (registry.nameAt place, place) := by
          rw [Step.entry?] at hnew
          split at hnew
          · exact List.mem_singleton.mp hnew
          · cases hnew
        rw [hentry]
        exact nameAt_run (by simp)
      | _ => cases hnew

end Kept

section Identity

variable {registry : Registry} {position : Nat}

theorem WellNamed.get_nameAt_iff (h : registry.WellNamed) :
    ((get (registry.nameAt position)).run registry).outcome = .ok (some position) ↔
      registry.IsStillNamed registry.entries position :=
  h.outcome_get_iff

/-- Two checks that have the same name now were added under the same name, so they are one. -/
theorem WellNamed.namesIdentify (h : registry.WellNamed) :
    registry.NamesIdentify (registry.IsStillNamed registry.entries) := by
  refine ⟨?_, fun position hstill _ => h.get_nameAt_iff.mpr hstill⟩
  rintro first second ⟨name, hname, hsame⟩ ⟨name', hname', hsame'⟩ _ _ hequal
  have hfirst : name.same (registry.nameAt second) = true :=
    Datum.same_trans_of_isStable (h.stable _ hname) hsame hequal
  exact congrArg Prod.snd (h.eq_of_same hname hname' hfirst hsame')

/-- A warning carries the name that its check has now, and by that the check is found. -/
theorem WellNamed.get_of_warning (h : registry.WellNamed) {scan : Scan} {warnings : List Warning}
    (hstill : registry.IsStillNamed registry.entries position)
    (hrun : ((onCheck position (Check.run scan)).run registry).outcome = .ok warnings) :
    ∀ warning ∈ warnings, ((get warning.check).run registry).outcome = .ok (some position) := by
  intro warning hwarning
  rw [outcome_onCheck_run] at hrun
  rw [(Check.marks_of_warnings hrun warning hwarning).1]
  exact h.get_nameAt_iff.mpr hstill

theorem WellNamed.namesIdentify_of_nameAt (h : registry.WellNamed)
    (hnames : ∀ entry ∈ registry.entries, registry.nameAt entry.2 = entry.1) :
    registry.NamesIdentify fun position =>
      ∃ name : String, (.text name, position) ∈ registry.entries := by
  refine h.namesIdentify.of_imp ?_
  rintro position ⟨name, hname⟩
  refine ⟨.text name, hname, ?_⟩
  rw [hnames _ hname]
  exact Datum.same_text_right_iff.mpr rfl

end Identity

/-- The names that checks have identify those which still have a name that they were added under. Each of
    these is found by its name, also by the one in its warnings, and no other check is found by its own.
    If no registered check is ever renamed, all of them have the names that they were added under, and so
    the names that are texts identify them all. -/
theorem names_identify_still_named (checks : List Check) (steps : List Step) :
    let registry := (ofChecks checks).after steps
    let added := (ofChecks checks).additions steps
    registry.NamesIdentify (registry.IsStillNamed added) ∧
    (∀ position, ((get (registry.nameAt position)).run registry).outcome = .ok (some position) ↔
      registry.IsStillNamed added position) ∧
    (∀ (position : Nat) (scan : Scan) (warnings : List Warning),
      registry.IsStillNamed added position →
      ((onCheck position (Check.run scan)).run registry).outcome = .ok warnings →
      ∀ warning ∈ warnings, ((get warning.check).run registry).outcome = .ok (some position)) ∧
    ((ofChecks checks).KeepsNames steps →
      (∀ entry ∈ added, registry.nameAt entry.2 = entry.1) ∧
      registry.NamesIdentify fun position => ∃ name : String, (.text name, position) ∈ added) := by
  intro registry added
  have hentries : registry.entries = added := entries_after_ofChecks checks steps
  have hnamed : registry.WellNamed := (WellNamed.ofChecks checks).after steps
  rw [← hentries]
  refine ⟨hnamed.namesIdentify, fun _ => hnamed.get_nameAt_iff, ?_, fun hkept => ?_⟩
  · intro position scan warnings hstill hrun
    exact hnamed.get_of_warning hstill hrun
  · have hnames := hkept.nameAt_after (by simp [ofChecks])
    exact ⟨hnames, hnamed.namesIdentify_of_nameAt hnames⟩

/-- One of two registered checks is renamed. The other is still found by its name. -/
theorem names_identify_of_one_renamed :
    let config (name : String) : Config :=
      { name := .text name, description := .null, warningSymbol := .null, warningCode := .null
        targets := .list [], methods := .list [] }
    let checks := [Check.ofConfig (config "First"), Check.ofConfig (config "Second")]
    let registry := (ofChecks checks).after [.add 0, .add 1, .assign 1 "name" (.text "Third")]
    (positions.run registry).outcome = .ok [0, 1] ∧
      registry.nameAt 0 = .text "First" ∧ registry.nameAt 1 = .text "Third" ∧
      ((get (.text "First")).run registry).outcome = .ok (some 0) ∧
      ((get (.text "Third")).run registry).outcome ≠ .ok (some 1) := by
  intro config checks registry
  obtain ⟨-, hfound, -, -⟩ :=
    names_identify_still_named checks [.add 0, .add 1, .assign 1 "name" (.text "Third")]
  have hadded : (ofChecks checks).additions [.add 0, .add 1, .assign 1 "name" (.text "Third")] =
      [(.text "First", 0), (.text "Second", 1)] := rfl
  have hfirst : registry.nameAt 0 = .text "First" := rfl
  have hsecond : registry.nameAt 1 = .text "Third" := rfl
  rw [hadded] at hfound
  refine ⟨rfl, hfirst, hsecond, ?_, ?_⟩
  · rw [← hfirst]
    exact (hfound 0).mpr ⟨.text "First", by simp, by rw [hfirst]; decide⟩
  · rw [← hsecond]
    intro hget
    obtain ⟨name, hmem, hsame⟩ := (hfound 1).mp hget
    have hname : name = .text "Second" := by simpa using hmem
    rw [hname, hsecond] at hsame
    exact absurd hsame (by decide)

/-- Names do not identify all registered checks: a check that is renamed may be given the name of another
    one, or one by which nothing is found. -/
theorem not_names_identify_after_renaming :
    let config (name : String) : Config :=
      { name := .text name, description := .null, warningSymbol := .null, warningCode := .null
        targets := .list [], methods := .list [] }
    let checks := [Check.ofConfig (config "First"), Check.ofConfig (config "Second")]
    let renamed (name : String) :=
      (ofChecks checks).after [.add 0, .add 1, .assign 1 "name" (.text name)]
    (names.run (renamed "First")).outcome = .ok [.text "First", .text "First"] ∧
      (names.run (renamed "Third")).outcome = .ok [.text "First", .text "Third"] ∧
      ((get (.text "Third")).run (renamed "Third")).outcome = .ok none ∧
      ¬ ∀ (checks : List Check) (steps : List Step), ((ofChecks checks).after steps).NamesIdentify
        (· ∈ ((ofChecks checks).additions steps).map (·.2)) := by
  intro config checks renamed
  have hrenamed (name : String) : renamed name =
      ⟨[Check.ofConfig (config "First"), Check.ofConfig (config name)],
        [(.text "First", 0), (.text "Second", 1)]⟩ := rfl
  refine ⟨?_, ?_, ?_, fun hlaw => ?_⟩
  · rw [hrenamed]
    rfl
  · rw [hrenamed]
    rfl
  · rw [hrenamed]
    rfl
  · have hadded : ((ofChecks checks).additions
        [.add 0, .add 1, .assign 1 "name" (.text "First")]).map (·.2) = [0, 1] := rfl
    have hidentify : (renamed "First").NamesIdentify (· ∈ [0, 1]) := by
      rw [← hadded]
      exact hlaw checks [.add 0, .add 1, .assign 1 "name" (.text "First")]
    rw [hrenamed] at hidentify
    have hequal : 0 = 1 := by
      refine hidentify.distinct 0 1 (by simp) (by simp) ?_ ?_ ?_
      · rfl
      · rfl
      · exact Datum.same_text_right_iff.mpr rfl
    cases hequal

end CallAudit.Registry

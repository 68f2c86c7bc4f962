import CallAudit.Proofs.Check.Agreement
import CallAudit.Proofs.Check.Inquiry
import CallAudit.Proofs.Value.Keys
import Mathlib.Data.List.Pairwise

/-!
# Names of registered checks

A check is registered under the name that it has when it is added. Its configuration can be edited
afterwards, and it can be added again when it has another name. What the registry answers depends on the
names that were read by the additions that succeeded, and on nothing that happens later.
-/

namespace CallAudit

namespace Config

theorem name_of_setField? {config other : Config} {field : String} {value : Datum}
    (hset : config.setField? field value = some other) (hfield : field ≠ "name") :
    other.name = config.name := by
  unfold setField? at hset
  split at hset
  · exact absurd rfl hfield
  any_goals (cases hset; rfl)
  cases hset

end Config

/-- Assigns a field of the configuration of a check. A field that there is not is refused. -/
def Check.assign (field : String) (value : Datum) : Action Check Unit := do
  let check ← Action.read
  match check.config.setField? field value with
  | some config => Action.write { check with config }
  | none => Action.fail .badValue

theorem Check.name_assign (check : Check) {field : String} (value : Datum) (hfield : field ≠ "name") :
    ((assign field value).run check).state.config.name = check.config.name := by
  rw [assign, Action.run_read_bind]
  cases hset : check.config.setField? field value with
  | none => rfl
  | some config => exact Config.name_of_setField? hset hfield

namespace Registry

/-- What can happen to a registry and its checks, be they registered or not. Where several checks have a
    configuration in common, an assignment to it is one for each of them. -/
inductive Step where
  | add (position : Nat)
  | assign (position : Nat) (field : String) (value : Datum)
  | inquire (inquiry : Inquiry)

namespace Step

def action : Step → Action Registry Unit
  | add position => Registry.add position
  | assign position field value => onCheck position (Check.assign field value)
  | inquire inquiry => inquiry.ask

/-- What a step registers: for an addition that succeeds, the name that it reads and the check. -/
def entry? (registry : Registry) : Step → Option (Datum × Nat)
  | add position =>
    match ((Registry.add position).run registry).outcome with
    | .ok () => some (registry.nameAt position, position)
    | .error _ => none
  | _ => none

end Step

/-- The registry that some steps lead to. Each is carried out on what the one before it has left, even where
    that one has failed. -/
def after (registry : Registry) : List Step → Registry
  | [] => registry
  | step :: rest => after (step.action.run registry).state rest

theorem after_nil (registry : Registry) : registry.after [] = registry := rfl

/-- What some steps register, in their order. -/
def additions (registry : Registry) : List Step → List (Datum × Nat)
  | [] => []
  | step :: rest =>
    (step.entry? registry).toList ++ additions (step.action.run registry).state rest

section History

/-- A step appends what it registers to the entries, and leaves the others as they are. -/
theorem Step.entries_run (step : Step) (registry : Registry) :
    (step.action.run registry).state.entries = registry.entries ++ (step.entry? registry).toList := by
  cases step with
  | add position =>
    rw [action, entry?, run_add]
    cases registry.refusal? (registry.nameAt position) with
    | some failure => exact (List.append_nil _).symm
    | none => rfl
  | assign position field value => exact (List.append_nil _).symm
  | inquire inquiry => exact (inquiry.ask_goesAs registry).entries_eq.trans (List.append_nil _).symm

theorem entries_after (registry : Registry) (steps : List Step) :
    (registry.after steps).entries = registry.entries ++ registry.additions steps := by
  induction steps generalizing registry with
  | nil => exact (List.append_nil _).symm
  | cons step rest ih => rw [after, additions, ih, step.entries_run, List.append_assoc]

theorem entries_after_ofChecks (checks : List Check) (steps : List Step) :
    ((ofChecks checks).after steps).entries = (ofChecks checks).additions steps :=
  entries_after (ofChecks checks) steps

end History

/-- A registry whose entries have names that are there and can be keys, no two of them the same. -/
structure WellNamed (registry : Registry) : Prop where
  present : ∀ entry ∈ registry.entries, entry.1.isVoid = false
  stable : ∀ entry ∈ registry.entries, entry.1.isStable = true
  distinct : registry.entries.Pairwise fun a b => a.1.same b.1 = false ∧ b.1.same a.1 = false

section Names

variable {registry : Registry} {name : Datum}

theorem find?_eq_none_iff :
    registry.find? name = none ↔ ∀ entry ∈ registry.entries, entry.1.same name = false := by
  simp [find?]

theorem refusal?_eq_none_iff : registry.refusal? name = none ↔
    name.isVoid = false ∧ name.isStable = true ∧ registry.find? name = none := by
  rw [refusal?]
  cases name.isVoid <;> cases name.isStable <;> cases registry.find? name <;> simp

theorem WellNamed.ofChecks (checks : List Check) : (ofChecks checks).WellNamed where
  present := by simp [Registry.ofChecks]
  stable := by simp [Registry.ofChecks]
  distinct := List.Pairwise.nil

theorem WellNamed.of_entries_eq {other : Registry} (h : registry.WellNamed)
    (hentries : other.entries = registry.entries) : other.WellNamed where
  present := hentries ▸ h.present
  stable := hentries ▸ h.stable
  distinct := hentries ▸ h.distinct

/-- A name that is not refused may be the next one. -/
theorem WellNamed.enter (h : registry.WellNamed) (hfree : registry.refusal? name = none)
    (position : Nat) :
    WellNamed { registry with entries := registry.entries ++ [(name, position)] } := by
  obtain ⟨hpresent, hstable, hfind⟩ := refusal?_eq_none_iff.mp hfree
  refine ⟨?_, ?_, ?_⟩
  · exact List.forall_mem_append.mpr ⟨h.present, List.forall_mem_singleton.mpr hpresent⟩
  · exact List.forall_mem_append.mpr ⟨h.stable, List.forall_mem_singleton.mpr hstable⟩
  · refine List.pairwise_append.mpr ⟨h.distinct, by simp, fun entry hentry last hlast => ?_⟩
    rw [List.mem_singleton.mp hlast]
    have hdiffer := find?_eq_none_iff.mp hfind entry hentry
    refine ⟨hdiffer, Bool.eq_false_iff.mpr fun hsame => ?_⟩
    rw [Datum.same_comm_of_isStable hstable hsame] at hdiffer
    cases hdiffer

theorem WellNamed.run (h : registry.WellNamed) (step : Step) :
    (step.action.run registry).state.WellNamed := by
  cases step with
  | add position =>
    rw [Step.action, run_add]
    cases hrefusal : registry.refusal? (registry.nameAt position) with
    | some failure => exact h
    | none => exact h.enter hrefusal position
  | assign position field value => exact h.of_entries_eq rfl
  | inquire inquiry => exact h.of_entries_eq (inquiry.ask_goesAs registry).entries_eq

theorem WellNamed.after (h : registry.WellNamed) (steps : List Step) :
    (registry.after steps).WellNamed := by
  induction steps generalizing registry with
  | nil => exact h
  | cons step rest ih => exact ih (h.run step)

/-- Of the names of entries only one can be the same as a given name. -/
theorem WellNamed.eq_of_same (h : registry.WellNamed) {a b : Datum × Nat} (ha : a ∈ registry.entries)
    (hb : b ∈ registry.entries) (hsame : a.1.same name = true) (hsame' : b.1.same name = true) :
    a = b := by
  by_contra hne
  have : Std.Symm fun a b : Datum × Nat => a.1.same b.1 = false ∧ b.1.same a.1 = false :=
    ⟨fun _ _ => And.symm⟩
  have hdiffer := h.distinct.forall ha hb hne
  have hnames : a.1.same b.1 = true := by
    have hback : name.same b.1 = true := Datum.same_comm_of_isStable (h.stable b hb) hsame'
    exact Datum.same_trans_of_isStable (h.stable a ha) hsame hback
  rw [hnames] at hdiffer
  cases hdiffer.1

/-- A name is looked up to the check with an entry of the same name. -/
theorem WellNamed.find?_eq_some_iff (h : registry.WellNamed) {position : Nat} :
    registry.find? name = some position ↔
      ∃ known, (known, position) ∈ registry.entries ∧ known.same name = true := by
  rw [find?, Option.map_eq_some_iff]
  constructor
  · rintro ⟨⟨known, _⟩, hfound, rfl⟩
    have hsame := List.find?_some hfound
    exact ⟨known, List.mem_of_find?_eq_some hfound, hsame⟩
  · rintro ⟨known, hmem, hsame⟩
    cases hfound : registry.entries.find? fun entry => entry.1.same name with
    | none => exact absurd hsame (List.find?_eq_none.mp hfound _ hmem)
    | some entry =>
      have hentry := List.find?_some hfound
      obtain rfl := h.eq_of_same (List.mem_of_find?_eq_some hfound) hmem hentry hsame
      exact ⟨_, rfl, rfl⟩

theorem WellNamed.find?_text_eq_some_iff (h : registry.WellNamed) {text : String} {position : Nat} :
    registry.find? (.text text) = some position ↔ (.text text, position) ∈ registry.entries := by
  rw [h.find?_eq_some_iff]
  constructor
  · rintro ⟨known, hmem, hsame⟩
    rwa [← Datum.same_text_right_iff.mp hsame]
  · exact fun hmem => ⟨_, hmem, Datum.same_text_right_iff.mpr rfl⟩

/-- The present name of a check is looked up to that check exactly if an entry of the check has that
    name. -/
theorem WellNamed.outcome_get_iff (h : registry.WellNamed) {position : Nat} :
    ((get name).run registry).outcome = .ok (some position) ↔
      ∃ known, (known, position) ∈ registry.entries ∧ known.same name = true := by
  rw [run_get, ← h.find?_eq_some_iff]
  dsimp only
  split
  · exact ⟨Except.ok.inj, congrArg Except.ok⟩
  · next hunstable =>
    refine ⟨nofun, fun hfound => ?_⟩
    obtain ⟨known, hmem, hsame⟩ := h.find?_eq_some_iff.mp hfound
    rw [← Datum.isStable_eq_of_same hsame] at hunstable
    exact absurd (h.stable _ hmem) hunstable

/-- Looking a text up finds the check that has an entry of this name, if there is one. -/
theorem WellNamed.exists_found_text (h : registry.WellNamed) (text : String) : ∃ found,
    ((get (.text text)).run registry).outcome = .ok found ∧
    ((contains (.text text)).run registry).outcome = .ok found.isSome ∧
    ∀ position, found = some position ↔ (.text text, position) ∈ registry.entries := by
  refine ⟨registry.find? (.text text), ?_, ?_, fun position => h.find?_text_eq_some_iff⟩
  · rw [run_get]
    rfl
  · rw [run_contains]
    rfl

/-- A check is found by a text that it was added under, whatever happens later. -/
theorem WellNamed.get_text_after (h : registry.WellNamed) {text : String} {position : Nat}
    (later : List Step) (hmem : (.text text, position) ∈ registry.entries) :
    ((get (.text text)).run (registry.after later)).outcome = .ok (some position) := by
  refine (h.after later).outcome_get_iff.mpr ⟨.text text, ?_, Datum.same_text_right_iff.mpr rfl⟩
  rw [entries_after]
  exact List.mem_append_left _ hmem

/-- Only a void name is refused over a bad attribute. -/
theorem isBadAttribute_refusal_iff :
    (∃ failure, registry.refusal? name = some failure ∧ failure.isBadAttribute = true) ↔
      name.isVoid = true := by
  rw [refusal?]
  cases name.isVoid <;> cases name.isStable <;> cases registry.find? name <;>
    simp [Failure.isBadAttribute]

/-- A name is refused as taken exactly if there is an entry of that name. -/
theorem WellNamed.nameTaken_iff (h : registry.WellNamed) :
    (∃ taken, registry.refusal? name = some (.nameTaken taken)) ↔
      ∃ entry ∈ registry.entries, entry.1.same name = true := by
  have htaken : (∃ entry ∈ registry.entries, entry.1.same name = true) ↔
      registry.find? name ≠ none := by
    rw [Ne, find?_eq_none_iff]
    simp
  constructor
  · rintro ⟨taken, hrefusal⟩
    rw [htaken]
    intro hnone
    rw [refusal?, hnone] at hrefusal
    split at hrefusal
    · cases hrefusal
    · split at hrefusal <;> cases hrefusal
  · rintro ⟨entry, hmem, hsame⟩
    have hpresent : name.isVoid = false :=
      (Datum.isVoid_eq_of_same hsame).symm.trans (h.present entry hmem)
    have hstable : name.isStable = true :=
      (Datum.isStable_eq_of_same hsame).symm.trans (h.stable entry hmem)
    have hfound := Option.isSome_iff_ne_none.mpr (htaken.mp ⟨entry, hmem, hsame⟩)
    exact ⟨name, by simp [refusal?, hpresent, hstable, hfound]⟩

end Names

section Additions

variable {registry : Registry} {position : Nat} {failure : Failure}

theorem add_fails_iff : ((add position).run registry).outcome = .error failure ↔
    registry.refusal? (registry.nameAt position) = some failure := by
  rw [run_add]
  cases registry.refusal? (registry.nameAt position) <;> simp

theorem state_add_of_error (hfails : ((add position).run registry).outcome = .error failure) :
    ((add position).run registry).state = registry := by
  rw [run_add, add_fails_iff.mp hfails]

/-- An addition fails over a bad attribute if the check has no name, and over a taken name if there is an
    entry of the same name. -/
theorem WellNamed.add_fails (h : registry.WellNamed) (position : Nat) :
    let change := (add position).run registry
    ((∃ failure, change.outcome = .error failure ∧ failure.isBadAttribute = true) ↔
      (registry.nameAt position).isVoid = true) ∧
    ((∃ taken, change.outcome = .error (.nameTaken taken)) ↔
      ∃ entry ∈ registry.entries, entry.1.same (registry.nameAt position) = true) ∧
    ∀ failure, change.outcome = .error failure → change.state = registry := by
  intro change
  refine ⟨?_, ?_, fun failure hfails => state_add_of_error hfails⟩
  · simp only [change, add_fails_iff]
    exact isBadAttribute_refusal_iff
  · simp only [change, add_fails_iff]
    exact h.nameTaken_iff

/-- After any additions, assignments and questions the registry lists the checks as they were added, under
    names of which no two are the same. A text is looked up to the check that was added under it, whatever
    happens later. An addition fails over a bad attribute exactly if the check has no name at present, and
    over a taken name exactly if some addition has read the same name, and then nothing changes. -/
theorem lists_as_added (checks : List Check) (steps : List Step) :
    let registry := (ofChecks checks).after steps
    let added := (ofChecks checks).additions steps
    (positions.run registry).outcome = .ok (added.map (·.2)) ∧
    registry.size = added.length ∧
    added.Pairwise (fun a b => a.1.same b.1 = false ∧ b.1.same a.1 = false) ∧
    (∀ name : String, ∃ found,
      ((get (.text name)).run registry).outcome = .ok found ∧
      ((contains (.text name)).run registry).outcome = .ok found.isSome ∧
      ∀ position, found = some position ↔ (.text name, position) ∈ added) ∧
    (∀ (name : String) (position : Nat) (later : List Step), (.text name, position) ∈ added →
      ((get (.text name)).run (registry.after later)).outcome = .ok (some position)) ∧
    ∀ position,
      let change := (add position).run registry
      ((∃ failure, change.outcome = .error failure ∧ failure.isBadAttribute = true) ↔
        (registry.nameAt position).isVoid = true) ∧
      ((∃ taken, change.outcome = .error (.nameTaken taken)) ↔
        ∃ entry ∈ added, entry.1.same (registry.nameAt position) = true) ∧
      ∀ failure, change.outcome = .error failure → change.state = registry := by
  intro registry added
  have hentries : registry.entries = added := entries_after_ofChecks checks steps
  have hnamed : registry.WellNamed := (WellNamed.ofChecks checks).after steps
  rw [← hentries]
  refine ⟨rfl, rfl, hnamed.distinct, hnamed.exists_found_text, ?_, hnamed.add_fails⟩
  intro name position later hmem
  exact hnamed.get_text_after later hmem

/-- A check is added, renamed and added again. It is listed twice and found by both names, and the third
    addition fails. -/
theorem lists_as_added_of_added_twice :
    let config : Config :=
      { name := .text "First", description := .null, warningSymbol := .null, warningCode := .null
        targets := .list [], methods := .list [] }
    let registry := (ofChecks [.ofConfig config]).after
      [.add 0, .assign 0 "name" (.text "Second"), .add 0]
    (positions.run registry).outcome = .ok [0, 0] ∧ registry.size = 2 ∧
      ((get (.text "First")).run registry).outcome = .ok (some 0) ∧
      ((get (.text "Second")).run registry).outcome = .ok (some 0) ∧
      ∃ taken, ((add 0).run registry).outcome = .error (.nameTaken taken) := by
  intro config registry
  obtain ⟨hpositions, hsize, -, -, hstays, hadd⟩ := lists_as_added [.ofConfig config]
    [.add 0, .assign 0 "name" (.text "Second"), .add 0]
  have hadded : (ofChecks [.ofConfig config]).additions
      [.add 0, .assign 0 "name" (.text "Second"), .add 0] =
        [(.text "First", 0), (.text "Second", 0)] := rfl
  have hname : registry.nameAt 0 = .text "Second" := rfl
  rw [hadded] at hpositions hsize hstays
  have hfirst := hstays "First" 0 [] (by simp)
  have hsecond := hstays "Second" 0 [] (by simp)
  rw [after_nil] at hfirst hsecond
  refine ⟨hpositions, hsize, hfirst, hsecond, ?_⟩
  refine (hadd 0).2.1.mpr ⟨(.text "Second", 0), ?_, ?_⟩
  · rw [hadded]
    simp
  · rw [hname]
    exact Datum.same_text_right_iff.mpr rfl

end Additions

end Registry

end CallAudit

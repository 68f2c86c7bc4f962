import CallAudit.Proofs.Check.Memory
import CallAudit.Proofs.Query.Names
import CallAudit.Proofs.Value.Ordering

/-!
# What a check asks for

The query of a check whose targets and methods are names asks for these names as sets: the wildcard
among the targets stands for the models, and no matter how often a name is listed and where.
-/

namespace CallAudit

theorem Value.ofDatum_texts (texts : List String) :
    ofDatum (.list (texts.map .text)) = ofTexts texts := by
  rw [ofDatum, ofData_eq_map, List.map_map, ofTexts]
  rfl

theorem Datum.same_text (a b : String) : Datum.same (.text a) (.text b) = (a == b) := rfl

theorem Datum.any_same_texts (name : String) (texts : List String) :
    (texts.map Datum.text).any (Datum.text name).same = texts.contains name := by
  rw [List.any_map, List.contains_eq_any_beq]
  rfl

namespace Check

/-- The names that targets come to are those listed apart from the wildcard, and the models if the
    wildcard is listed. -/
theorem exists_targets_eq {config : Config} {listed : List String}
    (htargets : config.targets = .list (listed.map .text)) (models : List String) :
    ∃ names : List String, targets config models = .ok (names.map .text) ∧ ∀ name, name ∈ names ↔
      (name ∈ listed ∧ name ≠ anyModel) ∨ (anyModel ∈ listed ∧ name ∈ models) := by
  have hnamed : (listed.map Datum.text).filter (fun target => !target.same (.text anyModel)) =
      (listed.filter (· ≠ anyModel)).map .text := by
    rw [List.filter_map]
    refine congrArg _ (List.filter_congr fun name _ => ?_)
    rw [Bool.eq_iff_iff]
    simp [Datum.same_text]
  simp only [targets, htargets, Datum.elements?, hnamed, List.length_map,
    List.length_filter_eq_length_iff]
  split
  · next hnone =>
    refine ⟨listed.filter (· ≠ anyModel), rfl, fun name => ?_⟩
    have habsent : anyModel ∉ listed := fun hlisted => by simpa using hnone anyModel hlisted
    simp [habsent]
  · next hsome =>
    have hlisted : anyModel ∈ listed := by
      by_contra habsent
      refine hsome fun name hname => ?_
      have hne : name ≠ anyModel := fun heq => habsent (heq ▸ hname)
      simpa using hne
    have hothers : (models.eraseDups.filter fun model =>
        !((listed.filter (· ≠ anyModel)).map Datum.text).any (Datum.text model).same) =
        models.eraseDups.filter (· ∉ listed.filter (· ≠ anyModel)) := by
      refine List.filter_congr fun model _ => ?_
      rw [Datum.any_same_texts, List.contains_eq_mem, ← decide_not]
    refine ⟨listed.filter (· ≠ anyModel) ++
      sortTexts (models.eraseDups.filter (· ∉ listed.filter (· ≠ anyModel))), ?_, fun name => ?_⟩
    · rw [Datum.all_isStable_texts, hothers, List.map_append]
      rfl
    · simp only [List.mem_append, List.mem_filter, (sortTexts_perm _).mem_iff, List.mem_eraseDups,
        decide_eq_true_eq]
      by_cases hname : name ∈ listed ∧ name ≠ anyModel
      · simp [hname]
      · simp [hname, hlisted]

end Check

namespace Config

theorem isVoid_texts (texts : List String) :
    Datum.isVoid (.list (texts.map .text)) = texts.isEmpty := by
  cases texts <;> rfl

/-- The query of a configuration with named targets asks for its methods and, if it has targets, for the
    names that these come to. -/
theorem query_of_names {config : Config} {listed methods : List String}
    (htargets : config.targets = .list (listed.map .text))
    (hmethods : config.methodNames = .ok methods) (scan : Scan) :
    ∃ receivers, (∀ name, name ∈ receivers ↔ (name ∈ listed ∧ name ≠ anyModel) ∨
        (anyModel ∈ listed ∧ name ∈ scan.models)) ∧
      config.query scan = .ok (if listed.isEmpty then { methods := .ofTexts methods }
        else { receivers := .ofTexts receivers, methods := .ofTexts methods }) := by
  obtain ⟨receivers, hreceivers, hmem⟩ := Check.exists_targets_eq htargets scan.models
  refine ⟨receivers, hmem, ?_⟩
  rw [query, hmethods, hreceivers, htargets, isVoid_texts, ← Value.ofDatum_texts receivers]
  cases listed.isEmpty <;> rfl

/-- Targets that are names never keep a query from failing over the methods. -/
theorem query_of_malformed {config : Config} {listed : List String} {failure : Failure}
    (htargets : config.targets = .list (listed.map .text))
    (hmethods : config.methodNames = .error failure) (scan : Scan) :
    config.query scan = .error failure := by
  obtain ⟨receivers, hreceivers, _⟩ := Check.exists_targets_eq htargets scan.models
  rw [query, hmethods, hreceivers, htargets, isVoid_texts]
  cases listed.isEmpty <;> rfl

end Config

end CallAudit
